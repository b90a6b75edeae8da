import GeckScript.Toml.Number
import GeckScript.Toml.Quoted
import GeckScript.Toml.Table

/-!
TOML documents: keys, values and headers, line by line.
-/

namespace GeckScript.Toml

/-- How deep values can be nested, and how many parts a key can have. -/
def maxDepth : Nat := 79

def isBareKeyChar (c : Char) : Bool :=
  c.isAlphanum || c == '-' || c == '_'

def bareKey : Scan String := do
  let name ← Scan.takeWhile isBareKeyChar
  if name.isEmpty then Scan.fail else return String.ofList name

def keyPart : Scan String := do
  blanks
  let part ← match ← Scan.peek with
    | some '"' => Quoting.basic.readLine
    | some '\x27' => Quoting.literal.readLine
    | _ => bareKey
  blanks
  return part

structure Key where
  path : List String
  name : String

def key : Scan Key := do
  let start ← Scan.position
  let parts ← Scan.separated "." keyPart
  if maxDepth < parts.length then Scan.failAt start
  else return ⟨parts.dropLast, parts.getLast?.getD ""⟩

/-! Values -/

/-- A key with its value, where the value is read by `value` and what follows it by `after`. -/
def keyValue (value : Scan Value) (after : Scan Unit) : Scan (Key × Value) := do
  let k ← key
  Scan.commit do
    Scan.expect "="
    blanks
    let v ← value
    after
    return (k, v)

/-- The values of an array, whose faults make the array end in front of them. -/
def array (value : Scan Value) : Scan Value := do
  Scan.advance 1
  if (← get).startsWith "]" then
    Scan.advance 1
    return .array []
  let item := do
    layout
    let v ← value
    layout
    return v
  let items := (← Scan.optional (Scan.separated "," item)).getD []
  if !items.isEmpty then
    let _ ← Scan.optional (Scan.expect ",")
  layout
  Scan.commit (Scan.expect "]")
  return .array items

def tableOf : List (Key × Value) → Table → Option Table
  | [], t => some t
  | (k, v) :: rest, t => (t.insert k.path k.name v).bind (tableOf rest)

def inlineTable (value : Scan Value) : Scan Value := do
  Scan.advance 1
  let start ← Scan.position
  let entries := (← Scan.optional (Scan.separated "," (keyValue value blanks))).getD []
  blanks
  match tableOf entries [] with
  | none => Scan.failAt start
  | some t =>
    Scan.commit (Scan.expect "\x7d")
    return .table (entriesToValues t)

def word (letters : String) (v : Value) : Scan Value := Scan.commit do
  Scan.expect letters
  return v

/-- A value, with `nested` for the values inside it. -/
def valueOver (nested : Option (Scan Value)) : Scan Value := do
  let inside (compound : Scan Value → Scan Value) : Scan Value := do
    match nested with
    | some value => compound value
    | none => Scan.failAt (← Scan.position) true
  match ← Scan.peek with
  | some '"' => return .text (← Quoting.basic.read)
  | some '\x27' => return .text (← Quoting.literal.read)
  | some '[' => inside array
  | some '\x7b' => inside inlineTable
  | some '_' => return .integer (← integer)
  | some '.' => return .float (← float)
  | some 't' => word "true" (.boolean true)
  | some 'f' => word "false" (.boolean false)
  | some 'i' => return .float (← float)
  | some 'n' => return .float (← float)
  | some c => if c.isDigit || c == '+' || c == '-' then numeral else Scan.fail
  | none => Scan.fail

def valueWithin : Nat → Scan Value
  | 0 => valueOver none
  | depth + 1 => valueOver (some (valueWithin depth))

def value : Scan Value :=
  valueWithin maxDepth

/-! Documents -/

structure Document where
  root : Table
  header : List String

namespace Document

def empty : Document :=
  ⟨[], []⟩

def accept (change : Option Document) (start : Nat) : Scan Document :=
  match change with
  | some d => return d
  | none => Scan.failAt start true

def readKeyValue (d : Document) : Scan Document := do
  let start ← Scan.position
  let (k, v) ← Scan.commit (keyValue value lineRest)
  accept ((d.root.insertUnder d.header k.path k.name v).map fun root => { d with root }) start

/-- A header between brackets, one pair for a table and two for an element of an array. -/
def readHeader (d : Document) : Scan Document := Scan.commit do
  let start ← Scan.position
  if ((← Scan.rest).drop 1).isEmpty then Scan.fail
  let isElement := (← get).startsWith "[["
  Scan.advance (if isElement then 2 else 1)
  let k ← key
  Scan.expect (if isElement then "]]" else "]")
  lineRest
  let change := if isElement then d.root.openElement k.path k.name
    else d.root.openTable k.path k.name
  accept (change.map fun root => ⟨root, k.path ++ [k.name]⟩) start

def readLine (d : Document) : Scan Document := do
  match ← Scan.peek with
  | some '#' =>
    Scan.commit (do comment; endOfLine)
    return d
  | some '[' => d.readHeader
  | some '\n' | some '\r' =>
    Scan.commit newline
    return d
  | _ => d.readKeyValue

def readLines : Nat → Document → Scan Document
  | 0, d => return d
  | n + 1, d => do
    blanks
    if (← get).atEnd then return d else readLines n (← d.readLine)

end Document

def document : Scan Document := do
  if (← get).startsWith "\ufeff" then Scan.advance 1
  Document.readLines ((← Scan.rest).length + 1) .empty

def parse (source : String) : Except Position (Entries Value) :=
  match document (.ofString source) with
  | .ok (d, _) => .ok (entriesToValues d.root)
  | .error fault => .error (.ofOffset source fault.offset)

end GeckScript.Toml
