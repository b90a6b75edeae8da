import GeckScript.Cli.Invocation
import GeckScript.Editor.Extension
import GeckScript.Settings.Loader

/-!
Running the program: what it prints and logs and which programs it starts, given its arguments and
what it finds around it. Of what is logged the errors count; there are also notes that are not shown
unless asked for, and a warning if a launcher ends badly.
-/

namespace GeckScript.Cli

structure Program where
  name : String
  path : String
  fault : Option String
  deriving Repr, DecidableEq

/-- A file on the search path. Its fault counts only if it can be executed. -/
structure PathFile where
  name : String
  path : String
  isExecutable : Bool
  fault : Option String
  deriving Repr, DecidableEq

def PathFile.toProgram (f : PathFile) : Program :=
  ⟨f.name, f.path, f.fault⟩

def programsOn (files : List PathFile) : List Program :=
  (files.filter PathFile.isExecutable).map PathFile.toProgram

def launcherNames : List String :=
  ["xdg-open", "open", "wslview"]

def launcher? (programs : List Program) : Option Program :=
  launcherNames.findSome? fun name => programs.find? (·.name == name)

/-- The browser that the first launcher stands for. It answers every request alike. -/
def launcherBrowser (programs : List Program) : Browser :=
  match launcher? programs with
  | none =>
    let names := ", ".intercalate launcherNames
    ⟨[some (.unavailable s!"none of {names} found")], []⟩
  | some p => ⟨[p.fault.map fun fault => .failed s!"{p.path}: {fault}"], []⟩

inductive Opener where
  | printer
  | launcher (programs : List Program)

namespace Opener

def browser : Opener → Browser
  | printer => .willing
  | launcher programs => launcherBrowser programs

def output (asked : List Url) : Opener → String
  | printer => String.join (asked.map fun url => s!"{url.write}\n")
  | launcher _ => ""

def started (asked : List Url) : Opener → List (Program × List String)
  | printer => []
  | launcher programs =>
    match launcher? programs with
    | none => []
    | some p => if p.fault.isSome then [] else asked.map fun url => (p, [url.write])

end Opener

/-- What the program finds: the files in its directory, the programs it can start, and an order in
which to go through the settings. -/
structure Surroundings where
  files : Files
  programs : List Program
  order : Order

structure Outcome where
  code : Nat
  output : String
  errors : String
  /-- The messages that are logged as errors. Unless the logging is set up otherwise, they come out
  in front of the errors, each behind the time. -/
  log : List String
  /-- The programs that were started, with their arguments. -/
  started : List (Program × List String)
  deriving Repr, DecidableEq

inductive Failure where
  | unknownFlag (name : String)
  | settings (e : SettingsError)
  | site (e : UrlError)
  | pattern (e : PatternError)
  | extension (e : ExtensionError)
  deriving Repr, DecidableEq

def Failure.message : Failure → String
  | unknownFlag name => s!"unknown flag '{name}'"
  | settings e => e.message
  | site e => e.message
  | pattern e => e.message
  | extension e => e.message

namespace Outcome

def printed (output : String) : Outcome :=
  ⟨0, output, "", [], []⟩

def failed (e : Failure) : Outcome :=
  ⟨1, "", s!"Error: {e.message}\n", [], []⟩

def ofStop : Stop → Outcome
  | .help text => printed text
  | .version => printed s!"{programName} {programVersion}\n"
  | .noCommand => ⟨2, "", programHelp, [], []⟩
  | .usage e => ⟨2, "", s!"error: {e.message}\n", [], []⟩

def ofExcept : Except Failure Outcome → Outcome
  | .ok outcome => outcome
  | .error e => failed e

end Outcome

/-! Settings -/

def projectFile : String := "geck.toml"

namespace SettingsRequest

/-- The flags that are set one after the other, so that switching off wins. -/
def flags (s : SettingsRequest) : List (String × Bool) :=
  s.enable.map (·, true) ++ s.disable.map (·, false)

def overrideFlag (l : Loader) (flag : String × Bool) : Except Failure Loader :=
  match Feature.ofName? flag.1 with
  | none => .error (.unknownFlag flag.1)
  | some f =>
    (l.setOverride f.configKey (.scalar (.boolean flag.2) none)).mapError .settings

def loader (s : SettingsRequest) : Except Failure Loader :=
  let l := Loader.defaults.withOptionalFile projectFile
  let l := (s.file.map l.withFile).getD l
  s.flags.foldlM overrideFlag l

/-- The settings. An unknown flag is reported whatever the files are like. -/
def load (s : SettingsRequest) (order : Order) (files : Files) : Except Failure Settings := do
  ((← s.loader).load order files).mapError .settings

def paths (s : SettingsRequest) : List String :=
  (projectFile :: s.file.toList).flatMap Files.candidates

end SettingsRequest

/-! Commands -/

def extensionOf (settings : Settings) (browser : Browser) : Except Failure Extension := do
  let site ← (Site.ofConfig settings.docs).mapError .site
  return ⟨settings.highlight, .initial, browser, site, standardCatalogue⟩

def runPattern (tokens : List String) (ignoreCase : Bool) : Except Failure Outcome := do
  let source ← (buildPattern tokens ignoreCase).mapError .pattern
  return .printed s!"{source}\n"

def runGrammar (env : Surroundings) (request : SettingsRequest) : Except Failure Outcome := do
  let e ← extensionOf (← request.load env.order env.files) .willing
  let (_, result, e) := e.activate
  let _ ← result.mapError .extension
  return .printed s!"{e.grammar.toJson.pretty}\n"

/-- A line on a group: its scope, whether it is on, its gate and how many tokens it has. -/
def groupLine (features : FeatureSet) (g : Group) : String :=
  let state := if g.isEnabled features then "on" else "off"
  let gate := (g.gate.map Feature.name).getD "-"
  s!"{padRight 32 g.scope} {padRight 4 state} {padRight 6 gate} {g.tokens.length} tokens\n"

def runGroups (env : Surroundings) (request : SettingsRequest) : Except Failure Outcome := do
  let settings ← request.load env.order env.files
  return .printed (String.join (standardCatalogue.map (groupLine settings.highlight)))

def launchMessage : LaunchError → String
  | .unavailable detail => s!"Error: no browser available ({detail})\n"
  | .failed detail => s!"Error: browser failed to open ({detail})\n"

def shownUrl : LookupOutcome → String
  | .opened _ _ => ""
  | .notOpened url _ => s!"{url.write}\n"

def errorLine : LookupOutcome → String
  | .opened _ _ => ""
  | .notOpened _ cause => launchMessage cause

/-- Opens the page that a selection asks for, or prints its URL, which is also done if it does not
open. -/
def runLookup (env : Surroundings) (selection : Selection) (print : Bool)
    (request : SettingsRequest) : Except Failure Outcome := do
  let opener := if print then Opener.printer else .launcher env.programs
  let e ← extensionOf (← request.load env.order env.files) opener.browser
  let (outcomes, e) := e.lookup [selection]
  return {
    code := 0
    output := opener.output e.browser.asked ++ String.join (outcomes.map shownUrl)
    errors := String.join (outcomes.map errorLine)
    log := outcomes.filterMap LookupOutcome.logged?
    started := opener.started e.browser.asked }

def runCommands : Outcome :=
  .printed (String.join (Command.all.map fun c => s!"{c.name}\n"))

def Invocation.run (env : Surroundings) : Invocation → Except Failure Outcome
  | pattern tokens ignoreCase => runPattern tokens ignoreCase
  | grammar request => runGrammar env request
  | groups request => runGroups env request
  | lookup selection print request => runLookup env selection print request
  | commands => .ok runCommands

def run (env : Surroundings) (args : List String) : Outcome :=
  match Invocation.ofArgs args with
  | .ok invocation => .ofExcept (invocation.run env)
  | .error stop => .ofStop stop

end GeckScript.Cli
