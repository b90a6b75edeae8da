import GeckScript.Cli.Arguments
import GeckScript.Lookup.Word

/-!
What the arguments of the program ask for.
-/

namespace GeckScript.Cli

structure SettingsRequest where
  file : Option String
  enable : List String
  disable : List String
  deriving Repr, DecidableEq

inductive Invocation where
  | pattern (tokens : List String) (ignoreCase : Bool)
  | grammar (settings : SettingsRequest)
  | groups (settings : SettingsRequest)
  | lookup (selection : Selection) (print : Bool) (settings : SettingsRequest)
  | commands
  deriving Repr, DecidableEq

namespace Invocation

def settingsOf (a : Arguments) : SettingsRequest :=
  ⟨(a.values "config").head?, a.values "enable", a.values "disable"⟩

/-- What is looked up: a cursor if there is a column, and a selected text otherwise. -/
def selectionOf (a : Arguments) : Selection :=
  let text := a.operands.head?.getD ""
  match (a.values "column").head?.map readNumber with
  | some (.ok column) => .ofCursor text column
  | _ => .ofText text

def ofArguments (form : CommandForm) (a : Arguments) : Invocation :=
  if form = patternForm then pattern a.operands (a.has "ignore-case")
  else if form = grammarForm then grammar (settingsOf a)
  else if form = groupsForm then groups (settingsOf a)
  else if form = lookupForm then lookup (selectionOf a) (a.has "print") (settingsOf a)
  else commands

/-- Stops with the help that is asked for by the names of commands. No command has commands of its
own. -/
def helpOn : List String → Stop
  | [] => .help programHelp
  | name :: rest =>
    if name = helpForm.name then stopAt helpCommandHelp rest
    else
      match formOf? name with
      | some form => stopAt form.help rest
      | none => .usage (.unknownCommand name)
where
  stopAt (text : String) : List String → Stop
    | [] => .help text
    | name :: _ => .usage (.unknownCommand name)

def isCommand (name : String) : Bool :=
  name == helpForm.name || (formOf? name).isSome

def programOption (find : OptionForm → Bool) (value : Option String) (shown : String) : Stop :=
  match [helpOption, versionOption].find? find, value with
  | none, _ => .usage (.unexpected shown)
  | some o, some value => .usage (.unneededValue value o)
  | some o, none => if o = helpOption then .help programHelp else .version

def ofArgs : List String → Except Stop Invocation
  | [] => .error .noCommand
  | text :: rest =>
    if text = helpForm.name then .error (helpOn rest)
    else
      match formOf? text with
      | some form => (form.read rest).map (ofArguments form)
      | none =>
        match text.toList with
        | ['-', '-'] =>
          match rest with
          | [] => .error .noCommand
          | name :: _ =>
            .error (.usage (if isCommand name then .unexpected name else .unknownCommand name))
        | '-' :: '-' :: option =>
          let (name, value) := splitValue option
          .error (programOption (·.name == name) value ("--" ++ name))
        | '-' :: c :: _ => .error (programOption (·.letter == some c) none s!"-{c}")
        | _ => .error (.usage (.unknownCommand text))

def settingsRequest? : Invocation → Option SettingsRequest
  | grammar settings | groups settings | lookup _ _ settings => some settings
  | _ => none

end Invocation

end GeckScript.Cli
