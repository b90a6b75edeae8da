import GeckScript.Regex.Fault
import GeckScript.Regex.Flags
import GeckScript.Text.Basic

/-!
Layout in the source of a pattern, where in the extended notation blanks and comments mean nothing,
and escape sequences: literal characters, named classes and assertions, each written with a
backslash.
-/

namespace GeckScript.Regex

open Text (Reader)

def passLayout : Bool → Nat → List Char → Reader
  | _, pos, [] => ⟨pos, []⟩
  | inComment, pos, c :: rest =>
    if inComment then passLayout (c != '\n') (pos + 1) rest
    else if Text.isBlank c then passLayout false (pos + 1) rest
    else if c = '#' then passLayout true (pos + 1) rest
    else ⟨pos, c :: rest⟩

end GeckScript.Regex

namespace GeckScript.Text.Reader

def skip (layout : Bool) (r : Reader) : Reader :=
  if layout then Regex.passLayout false r.pos r.rest else r

def advanceSkip (layout : Bool) (r : Reader) : Reader :=
  r.advance.skip layout

end GeckScript.Text.Reader

namespace GeckScript.Regex

open Text

inductive Atom where
  | char (c : Char)
  | set (s : CharClass)
  | assertion (a : Assertion)

def isMeta (c : Char) : Bool :=
  c ∈ ['\\', '.', '+', '*', '?', '(', ')', '|', '[', ']', '{', '}', '^', '$', '#', '&', '-', '~']

def isEscapable (c : Char) : Bool :=
  isMeta c || (c.toNat < 0x80 && !c.isAlphanum && c != '<' && c != '>')

/-- The named class of a letter; a capital letter names the complement. -/
def namedClass (letter : Char) : CharClass :=
  match letter with
  | 'd' => .digit
  | 's' => .blank
  | 'w' => .word
  | 'D' => .complement .digit
  | 'S' => .complement .blank
  | _ => .complement .word

def simpleEscape : Char → Option Atom
  | 'a' => some (.char '\x07')
  | 'f' => some (.char '\x0c')
  | 't' => some (.char '\t')
  | 'n' => some (.char '\n')
  | 'r' => some (.char '\r')
  | 'v' => some (.char '\x0b')
  | 'A' => some (.assertion .textStart)
  | 'z' => some (.assertion .textEnd)
  | 'B' => some (.assertion .noWordBoundary)
  | '<' => some (.assertion .wordStart)
  | '>' => some (.assertion .wordEnd)
  | _ => none

def readHexDigits (layout : Bool) (start : Nat) : Nat → List Char → Reader →
    Except Fault (Char × Reader)
  | 0, digits, r =>
    match scalar? (digitsValue 16 digits) with
    | some c => .ok (c, r)
    | none => .error (.between start r.pos .hexNoScalar)
  | n + 1, digits, r =>
    match r.rest with
    | [] => .error (.between r.pos r.pos .escapeEnd)
    | c :: _ =>
      if isHexDigit c then readHexDigits layout start n (digits ++ [c]) (r.advanceSkip layout)
      else .error (.between r.pos (r.pos + 1) .hexDigit)

/-- Hexadecimal digits up to a closing brace; `r` stands behind the opening one. -/
def readHexBraces (layout : Bool) (brace : Nat) : Nat → List Char → Reader →
    Except Fault (Char × Reader)
  | 0, _, r => .error (.between brace r.pos .escapeEnd)
  | fuel + 1, digits, r =>
    match r.rest with
    | [] => .error (.between brace r.pos .escapeEnd)
    | '}' :: _ =>
      let stop := r.advanceSkip layout
      if digits.isEmpty then .error (.between brace stop.pos .hexEmpty)
      else
        match scalar? (digitsValue 16 digits) with
        | some c => .ok (c, stop)
        | none => .error (.between (brace + 1) r.pos .hexNoScalar)
    | c :: _ =>
      if isHexDigit c then readHexBraces layout brace fuel (digits ++ [c]) (r.advanceSkip layout)
      else .error (.between r.pos (r.pos + 1) .hexDigit)

/-- A hexadecimal escape whose letter, at `r`, asks for `count` digits. -/
def readHex (layout : Bool) (count : Nat) (r : Reader) : Except Fault (Char × Reader) :=
  let r := r.advanceSkip layout
  match r.rest with
  | [] => .error (.between r.pos r.pos .escapeEnd)
  | '{' :: _ => readHexBraces layout r.pos (r.rest.length + 1) [] (r.advanceSkip layout)
  | _ => readHexDigits layout r.pos count [] r

def readBoundaryName (layout : Bool) : Nat → List Char → Reader → List Char × Reader
  | 0, name, r => (name, r)
  | fuel + 1, name, r =>
    match r.rest with
    | [] => (name, r)
    | c :: _ =>
      if c.isAlpha || c = '-' then readBoundaryName layout fuel (name ++ [c]) (r.advanceSkip layout)
      else (name, r)

/-- What follows a `\b` that starts at `start`: a named boundary in braces, if the braces hold a
name rather than a count. -/
def readBoundary (layout : Bool) (start : Nat) (r : Reader) :
    Except Fault (Assertion × Reader) :=
  match r.rest with
  | '{' :: _ =>
    let inner := r.advanceSkip layout
    match inner.rest with
    | [] => .error (.between start inner.pos .wordBoundaryEnd)
    | c :: _ =>
      if c.isAlpha || c = '-' then
        let (name, stop) := readBoundaryName layout inner.rest.length [] inner
        match stop.rest with
        | '}' :: _ =>
          match String.ofList name with
          | "start" => .ok (.wordStart, stop.advance)
          | "end" => .ok (.wordEnd, stop.advance)
          | "start-half" => .ok (.wordStartHalf, stop.advance)
          | "end-half" => .ok (.wordEndHalf, stop.advance)
          | _ => .error (.between inner.pos stop.pos .wordBoundaryUnknown)
        | _ => .error (.between r.pos stop.pos .wordBoundaryUnclosed)
      else .ok (.wordBoundary, r)
  | _ => .ok (.wordBoundary, r)

def readEscape (layout : Bool) (r : Reader) : Except Fault (Atom × Reader) :=
  let start := r.pos
  let r := r.advance
  match r.rest with
  | [] => .error (.between start r.pos .escapeEnd)
  | c :: _ =>
    if c.isDigit then .error (.between start (r.pos + 1) .backreference)
    else if c = 'x' then do
      let (d, r) ← readHex layout 2 r
      return (.char d, r)
    else if c = 'u' then do
      let (d, r) ← readHex layout 4 r
      return (.char d, r)
    else if c = 'U' then do
      let (d, r) ← readHex layout 8 r
      return (.char d, r)
    else if c ∈ ['d', 's', 'w', 'D', 'S', 'W'] then .ok (.set (namedClass c), r.advance)
    else if isEscapable c then .ok (.char c, r.advance)
    else if c = 'b' then do
      let (a, r) ← readBoundary layout start r.advance
      return (.assertion a, r)
    else
      match simpleEscape c with
      | some atom => .ok (atom, r.advance)
      | none => .error (.between start (r.pos + 1) .escapeUnknown)

end GeckScript.Regex
