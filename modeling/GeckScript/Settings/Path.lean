import GeckScript.Settings.Value
import GeckScript.Text.Basic
import GeckScript.Text.Lowercase

/-!
Paths to settings: a name, then names behind points and positions between brackets. Setting a path
makes the tables and lists on the way to it. Names are lowercase in the settings, however they are
written in a path or a file.
-/

namespace GeckScript

open Text

inductive PathStep where
  | name (name : String)
  /-- A position in a list; a negative one counts from its end. -/
  | item (index : Int)
  deriving Repr, DecidableEq

/-- The steps from the root to a setting, of which the first is a name. -/
abbrev SettingPath := List PathStep

namespace SettingPath

def isNameChar (c : Char) : Bool :=
  c.isAlphanum || c == ' ' || c == '-' || c == '_'

def isBlank (c : Char) : Bool :=
  c == ' ' || c == '\t'

/-- The position in front of a closing bracket, and how many characters the two have. -/
def index? (chars : List Char) : Option (Int × Nat) :=
  let lead := (chars.takeWhile isBlank).length
  let minus := if (chars.drop lead).head? = some '-' then 1 else 0
  let digits := (chars.drop (lead + minus)).takeWhile Char.isDigit
  let trail := ((chars.drop (lead + minus + digits.length)).takeWhile isBlank).length
  let length := lead + minus + digits.length + trail
  let n : Int := digitsValue 10 digits
  let n := if minus = 1 then -n else n
  if !digits.isEmpty && (chars.drop length).head? = some ']' && isInteger64 n then
    some (n, length + 1)
  else none

def steps? : List Char → Option SettingPath
  | [] => some []
  | c :: rest =>
    if c = '.' then
      let name := rest.takeWhile isNameChar
      if name.isEmpty then none
      else (steps? (rest.drop name.length)).map (.name (String.ofList name) :: ·)
    else if c = '[' then
      match index? rest with
      | some (n, length) => (steps? (rest.drop length)).map (.item n :: ·)
      | none => none
    else none
termination_by chars => chars.length
decreasing_by all_goals (simp only [List.length_drop, List.length_cons]; omega)

def ofString? (text : String) : Option SettingPath :=
  let name := text.toList.takeWhile isNameChar
  if name.isEmpty then none
  else (steps? (text.toList.drop name.length)).map (.name (String.ofList name) :: ·)

/-- The path of a key in a file. A key that is not written like a path is a name. -/
def ofKey (key : String) : SettingPath :=
  (ofString? key).getD [.name key]

def ofEntries (entries : Entries Setting) : List (SettingPath × Setting) :=
  entries.map fun (key, value) => (ofKey key, value)

end SettingPath

namespace Setting

/-- The file of a table; what becomes a table has none. -/
def tableSource : Setting → Option String
  | table _ source => source
  | _ => none

def listSource : Setting → Option String
  | list _ source => source
  | _ => none

def member? (s : Setting) (name : String) : Option Setting :=
  s.entries.get? (lowercase name)

/-- Sets an entry; what is no table gives way to one. -/
def withMember (s : Setting) (name : String) (value : Setting) : Setting :=
  table (s.entries.set (lowercase name) value) s.tableSource

mutual

/-- Merges a value in under a name. A table is merged entry by entry with what is there; any other
value takes its place. -/
def put (target : Setting) (name : String) : Setting → Setting
  | table entries _ =>
    target.withMember name (putAll ((target.member? name).getD (table [] none)) entries)
  | value => target.withMember name value

/-- Merges entries in. Without any the target stays, even if it is no table. -/
def putAll (target : Setting) : List (String × Setting) → Setting
  | [] => target
  | (name, value) :: rest => putAll (target.put name value) rest

end

/-- Changes the item at a position of a list, which grows as far as it has to. -/
def changeItem (index : Int) (change : Setting → Setting) (items : List Setting) : List Setting :=
  if 0 ≤ index then
    let n := index.toNat
    (items ++ List.replicate (n + 1 - items.length) null).modify n change
  else
    let back := index.natAbs
    (List.replicate (back - items.length) null ++ items).modify (items.length - back) change

end Setting

/-- Merges a value in at a path, on which what is missing is made. An item of a list is replaced. -/
def SettingPath.set (value : Setting) : SettingPath → Setting → Setting
  | [], _ => value
  | [.name n], s => s.put n value
  | .name n :: rest, s =>
    s.withMember n (SettingPath.set value rest ((s.member? n).getD .null))
  | .item i :: rest, s =>
    .list (Setting.changeItem i (SettingPath.set value rest) s.items) s.listSource

end GeckScript
