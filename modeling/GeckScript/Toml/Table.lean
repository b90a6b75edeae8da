import GeckScript.Entries
import GeckScript.Toml.Value

/-!
Tables while a document is read. A table can be added to as long as it is not closed: one that a
header defines is closed to dotted keys and to other headers, one that only stands on the way to a
header can get its own header later, and one that dotted keys made is open to dotted keys.
-/

namespace GeckScript.Toml

inductive Making where
  | header
  /-- A header of a table further down. -/
  | implied
  | dotted
  deriving Repr, DecidableEq

inductive Item where
  | value (v : Value)
  | table (made : Making) (entries : List (String × Item))
  /-- An array of tables, each made by a header. -/
  | tables (each : List (List (String × Item)))

abbrev Table := Entries Item

namespace Table

/-- Changes the table at the end of a path, and makes the tables that are missing on the way. There
is no way through a value, and none for dotted keys through a table with a header. -/
def changeAt (making : Making) (change : Making → Table → Option Table) :
    List String → Making → Table → Option Table
  | [], made, t => change made t
  | key :: path, _, t =>
    match t.get? key with
    | none => (changeAt making change path making []).map fun inner =>
      t.set key (.table making inner)
    | some (.value _) => none
    | some (.table made inner) =>
      if making = .dotted && made = .header then none
      else (changeAt making change path made inner).map fun inner => t.set key (.table made inner)
    | some (.tables each) =>
      each.getLast?.bind fun last =>
        (changeAt making change path .header last).map fun inner =>
          t.set key (.tables (each.dropLast ++ [inner]))

/-- Puts a value under a dotted key. The key has to be new, and the table that a dotted key leads to
has to be made by dotted keys. -/
def insert (path : List String) (key : String) (v : Value) (t : Table) : Option Table :=
  let put (made : Making) (inner : Table) : Option Table :=
    if !path.isEmpty && made != .dotted then none
    else if (inner.get? key).isSome then none
    else some (inner.set key (.value v))
  changeAt .dotted put path .header t

def insertUnder (header path : List String) (key : String) (v : Value) (t : Table) :
    Option Table :=
  changeAt .implied (fun _ inner => insert path key v inner) header .header t

def openTable (path : List String) (key : String) (t : Table) : Option Table :=
  let define (_ : Making) (inner : Table) : Option Table :=
    match inner.get? key with
    | none => some (inner.set key (.table .header []))
    | some (.table .implied entries) => some (inner.set key (.table .header entries))
    | some _ => none
  changeAt .implied define path .header t

def openElement (path : List String) (key : String) (t : Table) : Option Table :=
  let extend (_ : Making) (inner : Table) : Option Table :=
    match inner.get? key with
    | none => some (inner.set key (.tables [[]]))
    | some (.tables each) => some (inner.set key (.tables (each ++ [[]])))
    | some _ => none
  changeAt .implied extend path .header t

end Table

mutual

def Item.toValue : Item → Value
  | .value v => v
  | .table _ entries => .table (entriesToValues entries)
  | .tables each => .array (tablesToValues each)

def entriesToValues : List (String × Item) → Entries Value
  | [] => []
  | (key, item) :: rest => (key, item.toValue) :: entriesToValues rest

def tablesToValues : List (List (String × Item)) → List Value
  | [] => []
  | entries :: rest => .table (entriesToValues entries) :: tablesToValues rest

end

end GeckScript.Toml
