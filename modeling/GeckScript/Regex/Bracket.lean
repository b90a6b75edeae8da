import GeckScript.Regex.Escape

/-!
Bracketed classes of the pattern language, with ranges, nested brackets, the named ASCII classes in
colons and the set operators `&&`, `--` and `~~`.
-/

namespace GeckScript.Regex

open Text

inductive SetOperator where
  | intersection
  | difference
  | symmetricDifference

def SetOperator.apply : SetOperator → CharClass → CharClass → CharClass
  | intersection, s, t => .intersection s t
  | difference, s, t => .difference s t
  | symmetricDifference, s, t => .symmetricDifference s t

/-- What is pending while a class is read: a bracket to be closed, with its stretch so far and the
items in front of it, or the left side of a set operator. -/
inductive Pending where
  | bracket (start stop : Nat) (negated : Bool) (outer : List CharClass)
  | operand (op : SetOperator) (left : CharClass)

def ranges (pairs : List (Char × Char)) : CharClass :=
  .unionAll (pairs.map fun (a, b) => .range a b)

def asciiClass? : String → Option CharClass
  | "alnum" => some (ranges [('0', '9'), ('A', 'Z'), ('a', 'z')])
  | "alpha" => some (ranges [('A', 'Z'), ('a', 'z')])
  | "ascii" => some (ranges [('\x00', '\x7f')])
  | "blank" => some (ranges [('\t', '\t'), (' ', ' ')])
  | "cntrl" => some (ranges [('\x00', '\x1f'), ('\x7f', '\x7f')])
  | "digit" => some (ranges [('0', '9')])
  | "graph" => some (ranges [('!', '~')])
  | "lower" => some (ranges [('a', 'z')])
  | "print" => some (ranges [(' ', '~')])
  | "punct" => some (ranges [('!', '/'), (':', '@'), ('[', '\x60'), ('\x7b', '~')])
  | "space" => some (ranges [('\t', '\r'), (' ', ' ')])
  | "upper" => some (ranges [('A', 'Z')])
  | "word" => some (ranges [('0', '9'), ('A', 'Z'), ('_', '_'), ('a', 'z')])
  | "xdigit" => some (ranges [('0', '9'), ('A', 'F'), ('a', 'f')])
  | _ => none

/-- A class such as `[:alpha:]` or `[:^alpha:]`, if one stands at `r`. -/
def readAsciiClass (flags : Flags) (r : Reader) : Option (CharClass × Reader) :=
  if !r.startsWith "[:" then none
  else
    let inner := r.drop 2
    let negated := inner.startsWith "^"
    let inner := if negated then inner.advance else inner
    let (name, stop) := inner.takeWhile (· != ':')
    if !stop.startsWith ":]" then none
    else
      (asciiClass? (String.ofList name)).map fun s =>
        let s := flags.fold s
        (if negated then .complement s else s, stop.drop 2)

def readHyphens (layout : Bool) (start : Nat) : Nat → List CharClass → Reader →
    Except Fault (List CharClass × Reader)
  | 0, items, r => .ok (items, r)
  | fuel + 1, items, r =>
    match r.rest with
    | [] => .error (.between start start .classUnclosed)
    | '-' :: _ => readHyphens layout start fuel (.literal '-' :: items) (r.advanceSkip layout)
    | _ => .ok (items, r)

/-- The opening of a class: the bracket, a caret that negates it, and first items that would
otherwise have a meaning of their own. -/
def readOpening (layout : Bool) (r : Reader) :
    Except Fault (Bool × List CharClass × Reader) := do
  let start := r.pos
  let r := r.advanceSkip layout
  if r.atEnd then throw (.between start r.pos .classUnclosed)
  let negated := r.startsWith "^"
  let r := if negated then r.advanceSkip layout else r
  if r.atEnd then throw (.between start r.pos .classUnclosed)
  let (items, r) ← readHyphens layout start (r.rest.length + 1) [] r
  if items.isEmpty && r.startsWith "]" then
    let r := r.advanceSkip layout
    if r.atEnd then throw (.between start r.pos .classUnclosed)
    return (negated, [.literal ']'], r)
  return (negated, items, r)

def unclosed (r : Reader) : List Pending → Fault
  | [] => .between r.pos r.pos .classUnclosed
  | .bracket start stop _ _ :: _ => .between start stop .classUnclosed
  | .operand .. :: rest => unclosed r rest

def readItem (layout : Bool) (r : Reader) : Except Fault (Atom × Stretch × Reader) :=
  match r.rest with
  | '\\' :: _ => do
    let (atom, stop) ← readEscape layout r
    return (atom, ⟨r.pos, stop.pos⟩, stop)
  | c :: _ => .ok (.char c, ⟨r.pos, r.pos + 1⟩, r.advance)
  | [] => .error (.between r.pos r.pos .classUnclosed)

def Atom.asItem (place : Stretch) : Atom → Except Fault CharClass
  | char c => .ok (.literal c)
  | set s => .ok s
  | assertion _ => .error ⟨place, .classEscape, none⟩

def Atom.asBound (place : Stretch) : Atom → Except Fault Char
  | char c => .ok c
  | _ => .error ⟨place, .classRangeBound, none⟩

/-- A single item or a range. A hyphen in front of the closing bracket or of another hyphen makes
no range. -/
def readRange (layout : Bool) (pending : List Pending) (r : Reader) :
    Except Fault (CharClass × Reader) := do
  let (low, lowPlace, r) ← readItem layout r
  let r := r.skip layout
  match r.rest with
  | [] => throw (unclosed r pending)
  | '-' :: _ =>
    let behind := r.advanceSkip layout
    if behind.startsWith "]" || behind.startsWith "-" then
      return (← low.asItem lowPlace, r)
    if behind.atEnd then throw (unclosed r pending)
    let (high, highPlace, stop) ← readItem layout behind
    let first ← low.asBound lowPlace
    let last ← high.asBound highPlace
    if last < first then
      throw (.between lowPlace.start highPlace.stop .classRangeOrder)
    return (.range first last, stop)
  | _ => return (← low.asItem lowPlace, r)

def closeOperand (flags : Flags) (items : List CharClass) :
    List Pending → CharClass × List Pending
  | .operand op left :: rest =>
    (op.apply (flags.fold left) (flags.fold (.unionAll items.reverse)), rest)
  | pending => (.unionAll items.reverse, pending)

def setOperator? (r : Reader) : Option SetOperator :=
  if r.startsWith "&&" then some .intersection
  else if r.startsWith "--" then some .difference
  else if r.startsWith "~~" then some .symmetricDifference
  else none

/-- Reads on in a class until its outermost bracket is closed. Every round passes a character. -/
def readClassItems (flags : Flags) : Nat → List Pending → List CharClass → Reader →
    Except Fault (CharClass × Reader)
  | 0, pending, _, r => .error (unclosed r pending)
  | fuel + 1, pending, items, r =>
    let layout := flags.layout
    let r := r.skip layout
    match r.rest with
    | [] => .error (unclosed r pending)
    | '[' :: _ =>
      match readAsciiClass flags r with
      | some (s, stop) => readClassItems flags fuel pending (s :: items) stop
      | none => do
        let (negated, first, stop) ← readOpening layout r
        readClassItems flags fuel (.bracket r.pos stop.pos negated items :: pending) first stop
    | ']' :: _ =>
      match closeOperand flags items pending with
      | (s, .bracket _ _ negated outer :: rest) =>
        let s := flags.fold s
        let s := if negated then .complement s else s
        match rest with
        | [] => .ok (s, r.advance)
        | _ => readClassItems flags fuel rest (s :: outer) r.advance
      | (_, pending) => .error (unclosed r pending)
    | _ =>
      match setOperator? r with
      | some op =>
        let (left, pending) := closeOperand flags items pending
        readClassItems flags fuel (.operand op left :: pending) [] (r.drop 2)
      | none => do
        let (s, stop) ← readRange layout pending r
        readClassItems flags fuel pending (s :: items) stop

def readClass (flags : Flags) (r : Reader) : Except Fault (CharClass × Reader) := do
  let (negated, first, stop) ← readOpening flags.layout r
  readClassItems flags (r.rest.length + 1) [.bracket r.pos stop.pos negated []] first stop

end GeckScript.Regex
