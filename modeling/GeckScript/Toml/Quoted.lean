import GeckScript.Text.Basic
import GeckScript.Toml.Scan

/-!
Texts between quotes. A basic text stands between double quotes and knows escapes, a literal text
stands between apostrophes and knows none; between three quotes a text of either kind can run over
several lines.
-/

namespace GeckScript.Toml

open Text (Reader isHexDigit digitsValue scalar?)

structure Quoting where
  mark : Char
  escapes : Bool

namespace Quoting

def basic : Quoting :=
  ⟨'"', true⟩

def literal : Quoting :=
  ⟨'\x27', false⟩

def simpleEscape? : Char → Option Char
  | 'b' => some '\x08'
  | 'f' => some '\x0c'
  | 'n' => some '\n'
  | 'r' => some '\r'
  | 't' => some '\t'
  | '"' => some '"'
  | '\\' => some '\\'
  | _ => none

def digitCount? : Char → Option Nat
  | 'u' => some 4
  | 'U' => some 8
  | _ => none

/-- The character that an escape at `pos` stands for, and how many characters it has behind the
backslash. -/
def escape (pos : Nat) : List Char → Except Fault (Char × Nat)
  | [] => .error ⟨pos, true⟩
  | c :: rest =>
    match simpleEscape? c, digitCount? c with
    | some e, _ => .ok (e, 1)
    | none, some n =>
      let digits := (rest.take n).takeWhile isHexDigit
      match scalar? (digitsValue 16 digits) with
      | some e => if digits.length = n then .ok (e, n + 1) else .error ⟨pos + 2, true⟩
      | none => .error ⟨pos + 2, true⟩
    | none, none => .error ⟨if c.toNat < 0x80 then pos + 2 else pos + 1, true⟩

def line (q : Quoting) (pos : Nat) : List Char → Except Fault (List Char × Reader)
  | [] => .error ⟨pos, true⟩
  | c :: rest =>
    if c = q.mark then .ok ([], ⟨pos + 1, rest⟩)
    else if q.escapes && c = '\\' then do
      let (e, n) ← escape pos rest
      let (text, after) ← q.line (pos + 1 + n) (rest.drop n)
      return (e :: text, after)
    else if isPlain c then do
      let (text, after) ← q.line (pos + 1) rest
      return (c :: text, after)
    else .error ⟨pos, true⟩
termination_by chars => chars.length
decreasing_by all_goals (simp only [List.length_drop, List.length_cons]; omega)

def blankLines : List Char → Nat
  | [] => 0
  | '\r' :: '\n' :: rest => blankLines rest + 2
  | c :: rest => if isBlank c || c = '\n' then blankLines rest + 1 else 0

/-- How many characters belong to a line end that a backslash takes away, with the blank lines
behind it; none if the line goes on. -/
def joinedLines (rest : List Char) : Nat :=
  let blank := (rest.takeWhile isBlank).length
  if lineEnd (rest.drop blank) = 0 then 0 else blank + blankLines (rest.drop blank)

def goesOn (q : Quoting) (rest : List Char) : Bool :=
  match rest with
  | [] => false
  | c :: after =>
    if q.escapes && c = '\\' then !after.isEmpty else isPlain c || lineEnd rest != 0

/-- The text up to three closing marks, and what follows. One or two marks more in front of these
belong to the text. -/
def lines (q : Quoting) (pos : Nat) : List Char → Except Fault (List Char × Reader)
  | [] => .error ⟨pos, true⟩
  | c :: rest =>
    if c = q.mark then
      let count := (rest.takeWhile (· == q.mark)).length
      if 2 ≤ count then
        let extra := min (count - 2) 2
        .ok (List.replicate extra q.mark, ⟨pos + extra + 3, rest.drop (extra + 2)⟩)
      else if q.goesOn (rest.drop count) then do
        let (text, after) ← q.lines (pos + 1 + count) (rest.drop count)
        return (List.replicate (count + 1) q.mark ++ text, after)
      else .error ⟨pos, true⟩
    else if q.escapes && c = '\\' then
      let joined := joinedLines rest
      if joined = 0 then do
        let (e, n) ← escape pos rest
        let (text, after) ← q.lines (pos + 1 + n) (rest.drop n)
        return (e :: text, after)
      else q.lines (pos + 1 + joined) (rest.drop joined)
    else if lineEnd (c :: rest) ≠ 0 then do
      let n := lineEnd (c :: rest) - 1
      let (text, after) ← q.lines (pos + 1 + n) (rest.drop n)
      return ('\n' :: text, after)
    else if isPlain c then do
      let (text, after) ← q.lines (pos + 1) rest
      return (c :: text, after)
    else .error ⟨pos, true⟩
termination_by chars => chars.length
decreasing_by all_goals (simp only [List.length_drop, List.length_cons]; omega)

def triple (q : Quoting) : String :=
  String.ofList (List.replicate 3 q.mark)

def readLine (q : Quoting) : Scan String := do
  Scan.advance 1
  let r ← get
  let (text, after) ← q.line r.pos r.rest
  set after
  return String.ofList text

/-- A text between three marks; a line end right behind the opening ones is left out. -/
def readLines (q : Quoting) : Scan String := do
  Scan.advance 3
  Scan.advance (lineEnd (← Scan.rest))
  let r ← get
  let (text, after) ← q.lines r.pos r.rest
  set after
  return String.ofList text

def read (q : Quoting) : Scan String := do
  if (← get).startsWith q.triple then q.readLines else q.readLine

end Quoting

end GeckScript.Toml
