import GeckScript.Feature
import GeckScript.Lookup.Page
import GeckScript.Settings.Path
import GeckScript.Toml.Scan

/-!
Reading the settings out of their tables. A switch or a text can be written in several ways, and a
section can also be a list of its fields in order.
-/

namespace GeckScript

inductive SettingsError where
  | missingFile (path : String)
  | malformedFile (path : String) (position : Toml.Position)
  | malformedKey (key : String)
  | wrongType (found expected key : String) (file : Option String)
  | wrongShape (found title : String)
  | tooShort (count : Nat) (title : String) (fields : Nat)
  | missingField (name : String)
  deriving Repr, DecidableEq

namespace SettingsError

/-- The message on an error; of a malformed file, its first line. -/
def message : SettingsError → String
  | missingFile path => s!"configuration file \"{path}\" not found"
  | malformedFile _ position => position.message
  | malformedKey key => s!"malformed key {key}"
  | wrongType found expected key file =>
    let place := match file with
      | some path => " in " ++ path
      | none => ""
    s!"invalid type: {found}, expected {expected} for key `{key}`{place}"
  | wrongShape found title => s!"invalid type: {found}, expected struct {title}"
  | tooShort count title fields =>
    s!"invalid length {count}, expected struct {title} with {fields} elements"
  | missingField name => s!"missing field `{name}`"

end SettingsError

namespace Setting

def wrongType (found expected key : String) (file : Option String) : Except SettingsError α :=
  .error (.wrongType found expected key file)

def switchOf? (word : String) : Option Bool :=
  if word ∈ ["1", "true", "on", "yes"] then some true
  else if word ∈ ["0", "false", "off", "no"] then some false
  else none

/-- A setting as a switch. Of numbers only zero is off; words count in any case. -/
def toSwitch (key : String) : Setting → Except SettingsError Bool
  | scalar (.boolean b) _ => .ok b
  | scalar (.integer n) _ => .ok (n != 0)
  | scalar (.float x) _ => .ok (!x.isZero)
  | scalar (.text s) file =>
    match switchOf? (Text.lowercase s) with
    | some b => .ok b
    | none => wrongType (Scalar.text (Text.lowercase s)).describe "a boolean" key file
  | scalar .null file => wrongType Scalar.null.describe "a boolean" key file
  | s@(list _ file) => wrongType s.describe "a boolean" key file
  | s@(table _ file) => wrongType s.describe "a boolean" key file

def toText (key : String) : Setting → Except SettingsError String
  | scalar (.boolean b) _ => .ok (toString b)
  | scalar (.integer n) _ => .ok (toString n)
  | scalar (.float x) _ => .ok x.toText
  | scalar (.text s) _ => .ok s
  | scalar .null file => wrongType Scalar.null.describe "a string" key file
  | s@(list _ file) => wrongType s.describe "a string" key file
  | s@(table _ file) => wrongType s.describe "a string" key file

end Setting

structure Section where
  key : String
  title : String
  fields : List String
  deriving Repr, DecidableEq

def highlightSection : Section :=
  ⟨"highlight", "HighlightConfig", ["vegas", "fose", "nvse", "nx"]⟩

def docsSection : Section :=
  ⟨"docs", "DocsConfig", ["base_url", "title_param", "functions_page"]⟩

namespace Section

/-- The setting of a field with its key: an entry of a table, or an item of a list. -/
def field? (sec : Section) (s : Setting) (name : String) : Option (String × Setting) :=
  match s with
  | .list items _ =>
    let i := sec.fields.idxOf name
    items[i]?.map fun item => (s!"{sec.key}[{i}]", item)
  | _ => (s.entries.get? name).map fun entry => (s!"{sec.key}.{name}", entry)

def read (sec : Section) (s : Setting) (as : String → Setting → Except SettingsError α)
    (name : String) : Except SettingsError (Option α) :=
  match sec.field? s name with
  | none => .ok none
  | some (key, value) => (as key value).map some

def absent (sec : Section) (s : Setting) (name : String) : SettingsError :=
  match s with
  | .list items _ => .tooShort items.length sec.title sec.fields.length
  | _ => .missingField name

def require (sec : Section) (s : Setting) (name : String) : Option α → Except SettingsError α
  | some a => .ok a
  | none => .error (sec.absent s name)

def body (sec : Section) (root : Setting) : Except SettingsError Setting :=
  match root.entries.get? sec.key with
  | none => .error (.missingField sec.key)
  | some s@(.scalar _ _) => .error (.wrongShape s.describe sec.title)
  | some s => .ok s

end Section

structure Settings where
  highlight : FeatureSet
  docs : SiteConfig
  deriving Repr, DecidableEq

namespace Settings

/-- The features that are on. A field of a wrong type is reported before one that is missing. -/
def readHighlight (root : Setting) : Except SettingsError FeatureSet := do
  let s ← highlightSection.body root
  let vegas ← highlightSection.read s Setting.toSwitch "vegas"
  let fose ← highlightSection.read s Setting.toSwitch "fose"
  let nvse ← highlightSection.read s Setting.toSwitch "nvse"
  let nx ← highlightSection.read s Setting.toSwitch "nx"
  return ⟨← highlightSection.require s "vegas" vegas, ← highlightSection.require s "fose" fose,
    ← highlightSection.require s "nvse" nvse, ← highlightSection.require s "nx" nx⟩

def readDocs (root : Setting) : Except SettingsError SiteConfig := do
  let s ← docsSection.body root
  let baseUrl ← docsSection.read s Setting.toText "base_url"
  let titleParam ← docsSection.read s Setting.toText "title_param"
  let functionsPage ← docsSection.read s Setting.toText "functions_page"
  return ⟨← docsSection.require s "base_url" baseUrl,
    ← docsSection.require s "title_param" titleParam,
    ← docsSection.require s "functions_page" functionsPage⟩

def read (root : Setting) : Except SettingsError Settings := do
  return ⟨← readHighlight root, ← readDocs root⟩

def defaults : Settings :=
  ⟨.all, ⟨"http://geck.bethsoft.com/index.php", "title", "Category:Functions"⟩⟩

def toSetting (s : Settings) : Setting :=
  let switch (b : Bool) : Setting := .scalar (.boolean b) none
  let text (t : String) : Setting := .scalar (.text t) none
  .table [
    ("highlight", .table [
      ("vegas", switch s.highlight.vegas), ("fose", switch s.highlight.fose),
      ("nvse", switch s.highlight.nvse), ("nx", switch s.highlight.nx)] none),
    ("docs", .table [
      ("base_url", text s.docs.baseUrl), ("title_param", text s.docs.titleParam),
      ("functions_page", text s.docs.functionsPage)] none)] none

end Settings

end GeckScript
