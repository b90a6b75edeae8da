/-!
The forms of the commands: what options and operands each one takes, and the help that tells so.
-/

namespace GeckScript.Cli

inductive OptionKind where
  /-- An option without a value. -/
  | switch
  | text
  /-- An option that can be given more than once. -/
  | texts
  | number
  deriving Repr, DecidableEq

structure OptionForm where
  name : String
  letter : Option Char
  kind : OptionKind
  help : String
  deriving Repr, DecidableEq

structure OperandForm where
  name : String
  /-- Whether there can be several operands; then there has to be one. -/
  many : Bool
  help : String
  deriving Repr, DecidableEq

structure CommandForm where
  name : String
  about : String
  operand : Option OperandForm
  options : List OptionForm
  deriving Repr, DecidableEq

def programName : String := "geck"

def programVersion : String := "0.1.0"

def programAbout : String :=
  "Highlighting patterns and documentation lookup for GECK scripts"

def helpOption : OptionForm :=
  ⟨"help", some 'h', .switch, "Print help"⟩

def versionOption : OptionForm :=
  ⟨"version", some 'V', .switch, "Print version"⟩

def settingsOptions : List OptionForm := [
  ⟨"config", some 'c', .text, "Configuration file layered over the defaults and ./geck.toml"⟩,
  ⟨"enable", none, .texts, "Enable a vocabulary flag (vegas, fose, nvse, nx)"⟩,
  ⟨"disable", none, .texts, "Disable a vocabulary flag (vegas, fose, nvse, nx)"⟩]

def patternForm : CommandForm :=
  ⟨"pattern", "Build the regex pattern for a set of tokens",
    some ⟨"tokens", true, "Tokens to match as whole words"⟩,
    [⟨"ignore-case", some 'i', .switch, "Match tokens regardless of case"⟩]⟩

def grammarForm : CommandForm :=
  ⟨"grammar", "Print the GECK grammar with generated rules as JSON", none, settingsOptions⟩

def groupsForm : CommandForm :=
  ⟨"groups", "List vocabulary groups and whether they are enabled", none, settingsOptions⟩

def lookupForm : CommandForm :=
  ⟨"lookup", "Open the documentation page for a function",
    some ⟨"text", false, "Selected text, or the cursor line when --column is given"⟩,
    ⟨"column", none, .number, "Cursor column in the line; looks up the word under it"⟩ ::
    ⟨"print", none, .switch, "Print the URL instead of opening a browser"⟩ :: settingsOptions⟩

def commandsForm : CommandForm :=
  ⟨"commands", "List editor command names", none, []⟩

def helpForm : CommandForm :=
  ⟨"help", "Print this message or the help of the given subcommand(s)", none, []⟩

def commandForms : List CommandForm :=
  [patternForm, grammarForm, groupsForm, lookupForm, commandsForm]

def formOf? (name : String) : Option CommandForm :=
  commandForms.find? (·.name == name)

/-! Help -/

def OptionForm.shown (o : OptionForm) : String :=
  let value := if o.kind = .switch then "" else s!" <{o.name}>"
  s!"--{o.name}{value}"

def OptionForm.label (o : OptionForm) : String :=
  match o.letter with
  | some c => s!"-{c}, {o.shown}"
  | none => s!"    {o.shown}"

def OperandForm.label (o : OperandForm) : String :=
  if o.many then s!"<{o.name}>..." else s!"[{o.name}]"

def padRight (width : Nat) (text : String) : String :=
  text ++ String.ofList (List.replicate (width - text.length) ' ')

def table (heading : String) (rows : List (String × String)) : String :=
  let width := (rows.map (·.1.length)).foldl max 0
  heading ++ ":\n" ++
    String.join (rows.map fun (label, text) => s!"  {padRight width label}  {text}\n")

def optionTable (options : List OptionForm) : String :=
  table "Options" (options.map fun o => (o.label, o.help))

def CommandForm.help (f : CommandForm) : String :=
  let options := if f.options.isEmpty then "" else " [OPTIONS]"
  let operand := (f.operand.map (" " ++ ·.label)).getD ""
  let operands := (f.operand.map fun o => table "Arguments" [(o.label, o.help)] ++ "\n").getD ""
  s!"{f.about}\n\nUsage: {programName} {f.name}{options}{operand}\n\n" ++ operands ++
    optionTable (f.options ++ [helpOption])

def programHelp : String :=
  s!"{programAbout}\n\nUsage: {programName} <COMMAND>\n\n" ++
    table "Commands" ((commandForms ++ [helpForm]).map fun f => (f.name, f.about)) ++ "\n" ++
    optionTable [helpOption, versionOption]

def helpCommandHelp : String :=
  s!"{helpForm.about}\n\nUsage: {programName} {helpForm.name} [COMMAND]...\n\n" ++
    table "Arguments" [("[COMMAND]...", "Print help for the subcommand(s)")]

end GeckScript.Cli
