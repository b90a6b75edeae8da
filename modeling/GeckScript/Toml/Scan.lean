import GeckScript.Text.Basic

/-!
Where a document stops being TOML, and the small steps of reading one. A step that fails has a
fault; as long as the fault is not final the step can be tried as something else.
-/

namespace GeckScript.Toml

structure Fault where
  /-- How many characters of the source lie in front of the fault. -/
  offset : Nat
  /-- Whether no other reading of the place is tried. -/
  final : Bool
  deriving Repr, DecidableEq

/-- A line and a column, both counted from 1. -/
structure Position where
  line : Nat
  column : Nat
  deriving Repr, DecidableEq

def byteLength (chars : List Char) : Nat :=
  chars.foldl (fun n c => n + c.utf8Size) 0

/-- The position of an offset. The end of the source is the place behind its last character, be that
a line feed. Columns count characters, except that in front of a character outside ASCII they count
bytes. -/
def Position.ofOffset (source : String) (offset : Nat) : Position :=
  let chars := source.toList
  let index := min offset (chars.length - 1)
  let before := chars.take index
  let line := (before.reverse.takeWhile (· != '\n')).reverse
  let inBytes := offset = index && (chars[index]?).any fun c => 0x80 ≤ c.toNat
  let column := (if inBytes then byteLength line else line.length) + (offset - index)
  ⟨before.count '\n' + 1, column + 1⟩

/-- The first line of the report on a document that cannot be read. -/
def Position.message (p : Position) : String :=
  s!"TOML parse error at line {p.line}, column {p.column}"

open Text (Reader)

abbrev Scan := StateT Reader (Except Fault)

namespace Scan

def position : Scan Nat := do
  return (← get).pos

def rest : Scan (List Char) := do
  return (← get).rest

def failAt (offset : Nat) (final : Bool := false) : Scan α :=
  throw ⟨offset, final⟩

def fail : Scan α := do
  failAt (← position)

/-- Makes the faults of a step final. -/
def commit (step : Scan α) : Scan α := fun r =>
  match step r with
  | .ok found => .ok found
  | .error fault => .error { fault with final := true }

/-- Makes a step fail where it starts, not where it noticed the fault. -/
def fromStart (step : Scan α) : Scan α := fun r =>
  match step r with
  | .ok found => .ok found
  | .error fault => .error { fault with offset := r.pos }

def optional (step : Scan α) : Scan (Option α) := fun r =>
  match step r with
  | .ok (a, r) => .ok (some a, r)
  | .error fault => if fault.final then .error fault else .ok (none, r)

def orElse (first second : Scan α) : Scan α := fun r =>
  match first r with
  | .ok found => .ok found
  | .error fault => if fault.final then .error fault else second r

def peek : Scan (Option Char) := do
  return (← rest).head?

def advance (n : Nat) : Scan Unit :=
  modify (·.drop n)

def takeWhile (p : Char → Bool) : Scan (List Char) :=
  modifyGet (·.takeWhile p)

def expect (word : String) : Scan Unit := do
  if (← get).startsWith word then advance word.length else fail

def oneOf (chars : List Char) : Scan Char := do
  match ← peek with
  | some c => if c ∈ chars then advance 1; return c else fail
  | none => fail

/-- Steps behind separators, as long as there is one and a step behind it succeeds. -/
def more (separator : String) (step : Scan α) : Nat → Scan (List α)
  | 0 => return []
  | n + 1 => do
    match ← optional (do expect separator; step) with
    | none => return []
    | some a => return a :: (← more separator step n)

def separated (separator : String) (step : Scan α) : Scan (List α) := do
  let first ← step
  return first :: (← more separator step (← rest).length)

end Scan

/-! Layout -/

def isBlank (c : Char) : Bool :=
  c == ' ' || c == '\t'

def isPlain (c : Char) : Bool :=
  c == '\t' || (0x20 ≤ c.toNat && c.toNat != 0x7f)

def lineEnd : List Char → Nat
  | '\n' :: _ => 1
  | '\r' :: '\n' :: _ => 2
  | _ => 0

def blanks : Scan Unit := do
  let _ ← Scan.takeWhile isBlank

def newline : Scan Unit := do
  match lineEnd (← Scan.rest) with
  | 0 => Scan.fail
  | n => Scan.advance n

def comment : Scan Unit := do
  Scan.expect "#"
  let _ ← Scan.takeWhile isPlain

def endOfLine : Scan Unit := do
  if (← get).atEnd then return else newline

def lineRest : Scan Unit := do
  blanks
  let _ ← Scan.optional comment
  endOfLine

/-- Blanks, line ends and comments, each of which has to end with its line. -/
def layoutLines : Nat → Scan Unit
  | 0 => return
  | n + 1 => do
    blanks
    match ← Scan.peek with
    | some '#' => comment; newline; layoutLines n
    | some '\n' | some '\r' => newline; layoutLines n
    | _ => return

def layout : Scan Unit := do
  layoutLines ((← Scan.rest).length + 1)

end GeckScript.Toml
