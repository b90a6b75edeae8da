import GeckScript.Decimal.Shortest
import GeckScript.Entries
import GeckScript.Text.Quoted
import GeckScript.Toml.Value

/-!
The values of settings, each with the file it comes from.
-/

namespace GeckScript

inductive Scalar where
  | null
  | boolean (b : Bool)
  | integer (n : Int)
  | float (x : Binary64)
  | text (s : String)
  deriving Repr, DecidableEq

inductive Setting where
  | scalar (value : Scalar) (source : Option String)
  | list (items : List Setting) (source : Option String)
  | table (entries : List (String × Setting)) (source : Option String)
  deriving Inhabited

/-- What a value is, as messages put it. A float shows a point if it is finite. -/
def Scalar.describe : Scalar → String
  | null => "unit value"
  | boolean b => s!"boolean `{b}`"
  | integer n => s!"integer `{n}`"
  | float x =>
    let places := if x.isWhole then ".0" else ""
    s!"floating point `{x.toText}{places}`"
  | text s => "string " ++ Text.quote s

namespace Setting

def null : Setting :=
  scalar .null none

def describe : Setting → String
  | scalar value _ => value.describe
  | list _ _ => "sequence"
  | table _ _ => "map"

/-- The entries of a table; anything else has none. -/
def entries : Setting → Entries Setting
  | table entries _ => entries
  | _ => []

def items : Setting → List Setting
  | list items _ => items
  | _ => []

mutual

/-- A value of a document as a setting. Dates and times become texts. -/
def ofToml (file : String) : Toml.Value → Setting
  | .text s => scalar (.text s) file
  | .integer n => scalar (.integer n) file
  | .float x => scalar (.float x) file
  | .boolean b => scalar (.boolean b) file
  | .dateTime t => scalar (.text t.write) file
  | .array values => list (itemsOfToml file values) file
  | .table entries => table (entriesOfToml file entries) file

def itemsOfToml (file : String) : List Toml.Value → List Setting
  | [] => []
  | v :: rest => ofToml file v :: itemsOfToml file rest

def entriesOfToml (file : String) : List (String × Toml.Value) → Entries Setting
  | [] => []
  | (key, v) :: rest => (key, ofToml file v) :: entriesOfToml file rest

end

end Setting

end GeckScript
