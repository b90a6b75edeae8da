import GeckScript.Entries
import GeckScript.Settings.Fields
import GeckScript.Settings.Order
import GeckScript.Toml.Document

/-!
Settings in layers: the defaults, then files in order, then overrides, which win over every file.
-/

namespace GeckScript

abbrev Files := Entries String

namespace Files

def pieces (path : String) : List String :=
  (path.toList.splitOn '/').map String.ofList

def parts (path : String) : List String :=
  (pieces path).filter fun part => part != "" && part != "."

def join (path : String) (parts : List String) : String :=
  (if path.toList.head? = some '/' then "/" else "") ++ "/".intercalate parts

def extension : String :=
  ".toml"

/-- The paths at which a settings file is looked for: its own, unless that ends like the path of a
directory, and then the path with the extension added. The parent of a directory has no name that
could get one. -/
def candidates (path : String) : List String :=
  let parts := parts path
  match parts.getLast? with
  | none | some ".." => []
  | some last =>
    let own := if (pieces path).getLast? = some last then [join path parts] else []
    own ++ [join path (parts.dropLast ++ [last ++ extension])]

def find? (files : Files) (path : String) : Option (String × String) :=
  (candidates path).findSome? fun candidate =>
    (files.get? candidate).map fun content => (candidate, content)

end Files

/-- A file to read settings from; one that is not required may be missing. -/
structure SettingsFile where
  path : String
  required : Bool
  deriving Repr, DecidableEq

structure Loader where
  files : List SettingsFile
  overrides : List (SettingPath × Setting)

namespace Loader

def defaults : Loader :=
  ⟨[], []⟩

def withFile (l : Loader) (path : String) : Loader :=
  { l with files := l.files ++ [⟨path, true⟩] }

def withOptionalFile (l : Loader) (path : String) : Loader :=
  { l with files := l.files ++ [⟨path, false⟩] }

/-- Overrides a setting; of two overrides of one key the later one counts. -/
def setOverride (l : Loader) (key : String) (value : Setting) : Except SettingsError Loader :=
  match SettingPath.ofString? key with
  | some path => .ok { l with overrides := assign path value l.overrides }
  | none => .error (.malformedKey key)

def setAll (values : List (SettingPath × Setting)) (root : Setting) : Setting :=
  values.foldl (fun root (path, value) => path.set value root) root

def mergeFile (order : Order) (files : Files) (root : Setting) (f : SettingsFile × Nat) :
    Except SettingsError Setting :=
  match files.find? f.1.path with
  | none => if f.1.required then .error (.missingFile f.1.path) else .ok root
  | some (path, content) =>
    match Toml.parse content with
    | .error position => .error (.malformedFile path position)
    | .ok entries =>
      let entries := order.arrangeEntries (.file f.2) [] (Setting.entriesOfToml path entries)
      .ok (setAll (SettingPath.ofEntries entries) root)

def mergeOverrides (l : Loader) (order : Order) (root : Setting) : Setting :=
  setAll (order.arrangeOverrides l.overrides) root

def merge (l : Loader) (order : Order) (files : Files) : Except SettingsError Setting := do
  let root ← l.files.zipIdx.foldlM (mergeFile order files) Settings.defaults.toSetting
  return l.mergeOverrides order root

def load (l : Loader) (order : Order) (files : Files) : Except SettingsError Settings := do
  Settings.read (← l.merge order files)

end Loader

end GeckScript
