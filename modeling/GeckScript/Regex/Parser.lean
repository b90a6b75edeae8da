import GeckScript.Regex.Bracket

/-!
Reading a pattern from its source. The reader keeps one level for each open group: the branches
that are finished and the pieces of the branch being read. Every round passes at least one
character, so the length of the source bounds the rounds.
-/

namespace GeckScript.Regex

open Text

/-- An element of a branch. A change of flags takes a place of its own, and cannot be repeated. -/
inductive Piece where
  | regex (r : Expr)
  | flags

def Piece.regex? : Piece → Option Expr
  | regex r => some r
  | flags => none

/-- Branches and pieces, the last ones first. -/
structure Level where
  branches : List Expr
  pieces : List Piece

namespace Level

def empty : Level :=
  ⟨[], []⟩

def branch (l : Level) : Expr :=
  .catAll (l.pieces.reverse.filterMap Piece.regex?)

def push (l : Level) (r : Expr) : Level :=
  { l with pieces := .regex r :: l.pieces }

def endBranch (l : Level) : Level :=
  ⟨l.branch :: l.branches, []⟩

def close (l : Level) : Expr :=
  .altAll (l.endBranch.branches.reverse)

end Level

/-- An open group: where its parenthesis stands, the flags to go back to, and the level around. -/
structure OpenGroup where
  pos : Nat
  flags : Flags
  around : Level

structure State where
  reader : Reader
  flags : Flags
  level : Level
  groups : List OpenGroup
  /-- Names of groups so far, with their stretches. -/
  names : List (List Char × Stretch)

namespace State

def start (source : String) : State :=
  ⟨.ofString source, .none, .empty, [], []⟩

def finish (s : State) : Except Fault Expr :=
  match s.groups with
  | [] => .ok s.level.close
  | g :: _ => .error (.between g.pos (g.pos + 1) .groupUnclosed)

def push (s : State) (r : Expr) (reader : Reader) : State :=
  { s with level := s.level.push r, reader }

def popOperand (s : State) : Except Fault (Expr × Level) :=
  match s.level.pieces with
  | .regex r :: rest => .ok (r, { s.level with pieces := rest })
  | _ => .error (.between s.reader.pos s.reader.pos .repetitionOperand)

/-- A question mark behind a repetition makes it prefer fewer rounds. -/
def readGreed (s : State) (r : Reader) : Bool × Reader :=
  if r.startsWith "?" then (s.flags.swapGreed, r.advance) else (!s.flags.swapGreed, r)

def repeatOperand (s : State) (repetition : Bool → Expr → Expr) : Except Fault State := do
  let (r, level) ← s.popOperand
  let (greedy, reader) := s.readGreed s.reader.advance
  return { s with level := level.push (repetition greedy r), reader }

end State

def largestCount : Nat :=
  (1 <<< 32) - 1

def takeDigits (layout : Bool) : Nat → List Char → Reader → List Char × Reader
  | 0, digits, r => (digits, r)
  | fuel + 1, digits, r =>
    match r.rest with
    | [] => (digits, r)
    | c :: _ =>
      if c.isDigit then takeDigits layout fuel (digits ++ [c]) (r.advanceSkip layout)
      else (digits, r)

def readCount (layout : Bool) (r : Reader) : Except Fault Nat × Reader :=
  let (_, r) := r.takeWhile Text.isBlank
  let (digits, stop) := takeDigits layout r.rest.length [] r
  let (_, behind) := stop.takeWhile Text.isBlank
  let behind := behind.skip layout
  let count :=
    if digits.isEmpty then .error (Fault.between r.pos stop.pos .repetitionDecimal)
    else if digitsValue 10 digits ≤ largestCount then .ok (digitsValue 10 digits)
    else .error (Fault.between r.pos stop.pos .decimalTooLarge)
  (count, behind)

def State.readCounted (s : State) : Except Fault State := do
  let layout := s.flags.layout
  let start := s.reader.pos
  let unclosed (r : Reader) := Fault.between start r.pos .repetitionUnclosed
  let (operand, level) ← s.popOperand
  let r := s.reader.advanceSkip layout
  if r.atEnd then throw (unclosed r)
  let (least, r) := readCount layout r
  if r.atEnd then throw (unclosed r)
  let (least, most, r) ←
    if r.startsWith "," then
      let r := r.advanceSkip layout
      if r.atEnd then throw (unclosed r)
      if r.startsWith "\x7d" then pure (← least, none, r)
      else
        let least ← least
        let (most, r) := readCount layout r
        pure (least, some (← most), r)
    else
      let least ← least
      pure (least, some least, r)
  if !r.startsWith "\x7d" then throw (unclosed r)
  let (greedy, stop) := s.readGreed (r.advanceSkip layout)
  if most.any (· < least) then throw (.between start stop.pos .repetitionOrder)
  return { s with level := level.push (.repeated greedy operand least most), reader := stop }

def isNameStart (c : Char) : Bool :=
  c = '_' || (if c.toNat < 0x80 then c.isAlpha else Text.alphabetic.mem c)

def isNameChar (c : Char) : Bool :=
  c ∈ ['_', '.', '[', ']'] || Text.isAlphanumeric c

def readGroupName (names : List (List Char × Stretch)) (r : Reader) :
    Except Fault (List Char × Stretch × Reader) := do
  let (name, stop) := r.takeWhile (· != '>')
  match name with
  | [] =>
    if stop.atEnd then throw (.between r.pos r.pos .groupNameEnd)
    throw (.between r.pos r.pos .groupNameEmpty)
  | c :: rest =>
    if !isNameStart c then throw (.between r.pos (r.pos + 1) .groupNameCharacter)
    let good := (rest.takeWhile isNameChar).length
    if good < rest.length then
      throw (.between (r.pos + 1 + good) (r.pos + 2 + good) .groupNameCharacter)
    if stop.atEnd then throw (.between stop.pos stop.pos .groupNameEnd)
    let place : Stretch := ⟨r.pos, stop.pos⟩
    match names.find? (·.1 == name) with
    | some (_, earlier) => throw ⟨place, .groupNameTwice, some earlier⟩
    | none => return (name, place, stop.advance)

/-- Flag letters up to a colon or a closing parenthesis. `seen` holds the letters so far, and the
hyphen that turns the ones behind it off. -/
def readFlags : Nat → Flags → List (Char × Nat) → Reader → Except Fault (Flags × Bool × Reader)
  | 0, _, _, r => .error (.between r.pos r.pos .flagEnd)
  | fuel + 1, flags, seen, r =>
    match r.rest with
    | [] => .error (.between r.pos r.pos .flagEnd)
    | c :: _ =>
      let here : Stretch := ⟨r.pos, r.pos + 1⟩
      if c = ':' || c = ')' then
        match seen with
        | ('-', pos) :: _ => .error (.between pos (pos + 1) .flagDanglingNegation)
        | _ => .ok (flags, !seen.isEmpty, r)
      else if c != '-' && !Flags.isLetter c then .error ⟨here, .flagUnknown, none⟩
      else
        match seen.find? (·.1 == c) with
        | some (_, pos) =>
          let reason := if c = '-' then Reason.flagNegationTwice else .flagTwice
          .error ⟨here, reason, some ⟨pos, pos + 1⟩⟩
        | none =>
          let on := !seen.any (·.1 == '-')
          readFlags fuel (flags.set c on) ((c, r.pos) :: seen) r.advance

namespace State

def openGroup (s : State) (flags : Flags) (reader : Reader) : State :=
  { s with
    reader, flags, level := .empty,
    groups := ⟨s.reader.pos, s.flags, s.level⟩ :: s.groups }

def readGroup (s : State) : Except Fault State := do
  let start := s.reader.pos
  let r := s.reader.advanceSkip s.flags.layout
  for (opening, length) in [("?=", 2), ("?!", 2), ("?<=", 3), ("?<!", 3)] do
    if r.startsWith opening then throw (.between start (r.pos + length) .lookAround)
  if r.startsWith "?P<" || r.startsWith "?<" then
    let inner := r.drop (if r.startsWith "?P<" then 3 else 2)
    let (name, place, stop) ← readGroupName s.names inner
    return { s.openGroup s.flags stop with names := (name, place) :: s.names }
  else if r.startsWith "?" then
    let inner := r.advance
    if inner.atEnd then throw (.between start (start + 1) .groupUnclosed)
    let (flags, changed, stop) ← readFlags (inner.rest.length + 1) s.flags [] inner
    if stop.startsWith ":" then return s.openGroup flags stop.advance
    if !changed then throw (.between r.pos r.pos .repetitionOperand)
    let level := { s.level with pieces := .flags :: s.level.pieces }
    return { s with reader := stop.advance, flags, level }
  else return s.openGroup s.flags r

def closeGroup (s : State) : Except Fault State :=
  match s.groups with
  | [] => .error (.between s.reader.pos (s.reader.pos + 1) .groupUnopened)
  | g :: groups =>
    .ok { s with
      reader := s.reader.advance, flags := g.flags, groups,
      level := g.around.push s.level.close }

def step (s : State) (c : Char) : Except Fault State :=
  match c with
  | '(' => s.readGroup
  | ')' => s.closeGroup
  | '|' => .ok { s with level := s.level.endBranch, reader := s.reader.advance }
  | '[' => do
    let (set, r) ← readClass s.flags s.reader
    return s.push (.one set) r
  | '?' => s.repeatOperand .optional
  | '*' => s.repeatOperand .star
  | '+' => s.repeatOperand .plus
  | '{' => s.readCounted
  | '\\' => do
    let (atom, r) ← readEscape s.flags.layout s.reader
    match atom with
    | .char d => return s.push (.one (.ofChar s.flags.ignoreCase d)) r
    | .set set => return s.push (.one set) r
    | .assertion a => return s.push (.assert a) r
  | '.' => .ok (s.push (.one s.flags.dot) s.reader.advance)
  | '^' => .ok (s.push (.assert s.flags.lineStart) s.reader.advance)
  | '$' => .ok (s.push (.assert s.flags.lineEnd) s.reader.advance)
  | c => .ok (s.push (.one (.ofChar s.flags.ignoreCase c)) s.reader.advance)

def run : Nat → State → Except Fault Expr
  | 0, s => s.finish
  | fuel + 1, s => do
    let r := s.reader.skip s.flags.layout
    match r.rest with
    | [] => finish { s with reader := r }
    | c :: _ => run fuel (← step { s with reader := r } c)

end State

def parse (source : String) : Except Fault Expr :=
  (State.start source).run (source.toList.length + 1)

end GeckScript.Regex
