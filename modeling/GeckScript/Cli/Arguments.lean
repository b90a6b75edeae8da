import GeckScript.Cli.Form

/-!
The arguments of a command, read by its form. The value of an option is only checked when the next
option or operand comes, so an argument that fits nowhere is reported before a bad value in front of
it.
-/

namespace GeckScript.Cli

inductive NumberFault where
  | empty
  | digit
  | tooLarge
  deriving Repr, DecidableEq

def NumberFault.message : NumberFault → String
  | empty => "cannot parse integer from empty string"
  | digit => "invalid digit found in string"
  | tooLarge => "number too large to fit in target type"

/-- Reads digits on behind those that make `n`, up to the first fault. Numbers have 64 bits. -/
def readDigits (n : Nat) : List Char → Except NumberFault Nat
  | [] => .ok n
  | c :: rest =>
    if !c.isDigit then .error .digit
    else
      let next := 10 * n + (c.toNat - '0'.toNat)
      if next < 1 <<< 64 then readDigits next rest else .error .tooLarge

def readNumber (text : String) : Except NumberFault Nat :=
  match text.toList with
  | [] => .error .empty
  | ['+'] => .error .digit
  | '+' :: rest => readDigits 0 rest
  | chars => readDigits 0 chars

inductive UsageError where
  | unexpected (argument : String)
  | unknownCommand (name : String)
  | missingOperands
  | missingValue (option : OptionForm)
  | invalidValue (value : String) (option : OptionForm) (fault : NumberFault)
  | repeated (option : OptionForm)
  | unneededValue (value : String) (option : OptionForm)
  deriving Repr, DecidableEq

/-- Leaves out control characters, which a message does not show, but for those that are blank. -/
def shownText (text : String) : String :=
  let isShown (c : Char) :=
    (0x20 ≤ c.toNat && c.toNat != 0x7f) || c ∈ ['\t', '\n', '\x0c', '\r']
  String.ofList (text.toList.filter isShown)

def UsageError.message (e : UsageError) : String :=
  shownText <| match e with
  | unexpected argument => s!"unexpected argument '{argument}' found"
  | unknownCommand name => s!"unrecognized subcommand '{name}'"
  | missingOperands => "the following required arguments were not provided:"
  | missingValue o => s!"a value is required for '{o.shown}' but none was supplied"
  | invalidValue value o fault => s!"invalid value '{value}' for '{o.shown}': {fault.message}"
  | repeated o => s!"the argument '{o.shown}' cannot be used multiple times"
  | unneededValue value o =>
    s!"unexpected value '{value}' for '{o.shown}' found; no more were expected"

inductive Stop where
  | help (text : String)
  | version
  /-- No command is given. -/
  | noCommand
  | usage (e : UsageError)
  deriving Repr, DecidableEq

/-- The arguments of a command: its options by name, where one without a value has an empty one, and
its operands. -/
structure Arguments where
  options : List (String × String)
  operands : List String
  deriving Repr, DecidableEq

namespace Arguments

def has (a : Arguments) (name : String) : Bool :=
  a.options.any (·.1 == name)

def values (a : Arguments) (name : String) : List String :=
  (a.options.filter (·.1 == name)).map Prod.snd

def accept (a : Arguments) (o : OptionForm) (value : String) : Except UsageError Arguments :=
  if o.kind != .texts && a.has o.name then .error (.repeated o)
  else
    let taken : Arguments := { a with options := a.options ++ [(o.name, value)] }
    match o.kind, readNumber value with
    | .number, .error fault => .error (.invalidValue value o fault)
    | _, _ => .ok taken

end Arguments

/-- The arguments read so far, and an option whose value is still to come or to be checked. -/
structure Progress where
  arguments : Arguments
  pending : Option (OptionForm × Option String)

namespace Progress

def start : Progress :=
  ⟨⟨[], []⟩, none⟩

def settle (p : Progress) : Except UsageError Arguments :=
  match p.pending with
  | none => .ok p.arguments
  | some (o, none) => .error (.missingValue o)
  | some (o, some value) => p.arguments.accept o value

def takeOption (p : Progress) (o : OptionForm) (value : String) : Except UsageError Progress := do
  return ⟨← (← p.settle).accept o value, none⟩

def awaitValue (p : Progress) (o : OptionForm) : Except UsageError Progress := do
  return ⟨← p.settle, some (o, none)⟩

def takeOperand (p : Progress) (form : CommandForm) (text : String) :
    Except UsageError Progress :=
  let isTaken := form.operand.any fun o => o.many || p.arguments.operands.isEmpty
  if isTaken then do
    let a ← p.settle
    return ⟨{ a with operands := a.operands ++ [text] }, none⟩
  else .error (.unexpected text)

def stopForHelp (p : Progress) (form : CommandForm) : Except Stop Progress :=
  match p.settle with
  | .ok _ => .error (.help form.help)
  | .error e => .error (.usage e)

end Progress

def usage (result : Except UsageError α) : Except Stop α :=
  result.mapError .usage

def splitValue (text : List Char) : String × Option String :=
  let name := text.takeWhile (· != '=')
  let value := match text.drop name.length with
    | _ :: value => some (String.ofList value)
    | [] => none
  (String.ofList name, value)

def readLong (form : CommandForm) (p : Progress) (text : List Char) : Except Stop Progress :=
  let (name, value) := splitValue text
  match (form.options ++ [helpOption]).find? (·.name == name), value with
  | none, _ => .error (.usage (.unexpected ("--" ++ name)))
  | some o, some value =>
    if o.kind = .switch then .error (.usage (.unneededValue value o))
    else usage (p.takeOption o value)
  | some o, none =>
    if o = helpOption then p.stopForHelp form
    else if o.kind = .switch then usage (p.takeOption o "")
    else usage (p.awaitValue o)

/-- Reads options by their letters, the text behind one hyphen. What follows the letter of an option
with a value is the value, with or without an equals sign. -/
def readLetters (form : CommandForm) (p : Progress) : List Char → Except Stop Progress
  | [] => .ok p
  | c :: rest =>
    match (form.options ++ [helpOption]).find? (·.letter == some c) with
    | none => .error (.usage (.unexpected s!"-{c}"))
    | some o =>
      if o = helpOption then p.stopForHelp form
      else if o.kind = .switch then do
        let p ← usage (p.takeOption o "")
        readLetters form p rest
      else
        match rest with
        | [] => usage (p.awaitValue o)
        | '=' :: value => usage (p.takeOption o (String.ofList value))
        | value => usage (p.takeOption o (String.ofList value))

/-- Reads the arguments of a command up to the end. Behind two hyphens there are only operands. -/
def readArguments (form : CommandForm) (p : Progress) : List String → Except Stop Arguments
  | [] => usage p.settle
  | text :: rest =>
    match text.toList with
    | ['-', '-'] => do
      let p ← usage (rest.foldlM (·.takeOperand form) p)
      usage p.settle
    | '-' :: '-' :: name => do
      let p ← readLong form p name
      readArguments form p rest
    | '-' :: c :: letters => do
      let p ← readLetters form p (c :: letters)
      readArguments form p rest
    | _ =>
      match p.pending with
      | some (o, none) => readArguments form { p with pending := some (o, some text) } rest
      | _ => do
        let p ← usage (p.takeOperand form text)
        readArguments form p rest

def CommandForm.read (form : CommandForm) (args : List String) : Except Stop Arguments := do
  let a ← readArguments form .start args
  if form.operand.any (·.many) && a.operands.isEmpty then throw (.usage .missingOperands)
  return a

end GeckScript.Cli
