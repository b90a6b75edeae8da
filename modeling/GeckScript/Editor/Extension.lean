import GeckScript.Feature
import GeckScript.Grammar.Rebuild
import GeckScript.Lookup.Page
import GeckScript.Vocabulary.Standard

/-!
The extension as an editor holds it: the features that are on, the grammar that is kept in line with
them, the documentation site, and the browser that pages are opened in. An editor calls it directly
or by the names of its commands. A step returns the extension after it, also where it fails.
-/

namespace GeckScript

inductive LaunchError where
  /-- There is no way to open a browser. -/
  | unavailable (detail : String)
  | failed (detail : String)
  deriving Repr, DecidableEq

def LaunchError.message : LaunchError → String
  | unavailable detail => s!"Browser unavailable: {detail}"
  | failed detail => s!"Failed to open browser: {detail}"

/-- The answers to come, of which the last one stays, and the pages that were asked for, in order.
Without any answer every page opens. -/
structure Browser where
  replies : List (Option LaunchError)
  asked : List Url
  deriving Repr, DecidableEq

namespace Browser

def willing : Browser :=
  ⟨[], []⟩

def ask (b : Browser) (url : Url) : Option LaunchError × Browser :=
  let asked := b.asked ++ [url]
  match b.replies with
  | [] => (none, ⟨[], asked⟩)
  | [reply] => (reply, ⟨[reply], asked⟩)
  | reply :: rest => (reply, ⟨rest, asked⟩)

end Browser

inductive Command where
  | lookup
  | toggle (feature : Feature)
  deriving Repr, DecidableEq

namespace Command

def all : List Command :=
  [lookup, toggle .fose, toggle .vegas, toggle .nvse, toggle .nx]

def name : Command → String
  | lookup => "language-geck:lookup"
  | toggle .vegas => "language-geck:toggleVegas"
  | toggle .fose => "language-geck:toggleFOSE"
  | toggle .nvse => "language-geck:toggleNVSE"
  | toggle .nx => "language-geck:toggleNX"

def ofName? (name : String) : Option Command :=
  all.find? (·.name == name)

end Command

structure Extension where
  features : FeatureSet
  grammar : Grammar
  browser : Browser
  site : Site
  catalogue : List Group
  deriving Repr, DecidableEq

inductive ExtensionError where
  | unknownCommand (name : String)
  | rebuild (cause : RebuildError)
  deriving Repr, DecidableEq

def ExtensionError.message : ExtensionError → String
  | unknownCommand name => s!"Unknown command '{name}'"
  | rebuild cause => s!"Grammar update failed: {cause.message}"

inductive LookupOutcome where
  | opened (page : Page) (url : Url)
  | notOpened (url : Url) (cause : LaunchError)
  deriving Repr, DecidableEq

def LookupOutcome.logged? : LookupOutcome → Option String
  | opened _ _ => none
  | notOpened url cause => some s!"cannot open {url.write}: {cause.message}"

inductive CommandOutcome where
  | lookup (outcomes : List LookupOutcome)
  | toggled (feature : Feature) (on : Bool) (report : RebuildReport)
  deriving Repr, DecidableEq

namespace Extension

/-- Brings the grammar in line with the features; it stays as it is if that fails. -/
def updateGrammar (e : Extension) : Except ExtensionError RebuildReport × Extension :=
  match e.grammar.rebuild e.catalogue e.features with
  | .ok (report, grammar) => (.ok report, { e with grammar })
  | .error cause => (.error (.rebuild cause), e)

/-- Switches a feature first and updates the grammar then, so a failing update leaves the feature
switched. -/
def toggle (e : Extension) (f : Feature) : Except ExtensionError CommandOutcome × Extension :=
  let (result, after) := { e with features := e.features.toggle f }.updateGrammar
  (result.map (.toggled f (after.features.has f)), after)

def openPage (e : Extension) (page : Page) : LookupOutcome × Extension :=
  let url := e.site.urlFor page
  match e.browser.ask url with
  | (none, browser) => (.opened page url, { e with browser })
  | (some cause, browser) => (.notOpened url cause, { e with browser })

/-- Looks every selection up, in order; a page that does not open does not keep the others from
being tried. -/
def lookup (e : Extension) : List Selection → List LookupOutcome × Extension
  | [] => ([], e)
  | s :: rest =>
    let (outcome, e) := e.openPage (s.page wordRegex)
    let (outcomes, e) := e.lookup rest
    (outcome :: outcomes, e)

def execute (e : Extension) (name : String) (selections : List Selection) :
    Except ExtensionError CommandOutcome × Extension :=
  match Command.ofName? name with
  | some .lookup =>
    let (outcomes, e) := e.lookup selections
    (.ok (.lookup outcomes), e)
  | some (.toggle f) => e.toggle f
  | none => (.error (.unknownCommand name), e)

def activate (e : Extension) : List String × Except ExtensionError RebuildReport × Extension :=
  (Command.all.map Command.name, e.updateGrammar)

end Extension

end GeckScript
