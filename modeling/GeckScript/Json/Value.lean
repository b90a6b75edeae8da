/-!
JSON documents made of texts, lists and objects, and their written form: every member of a list or
an object stands on a line of its own, two spaces further in than what it belongs to.
-/

namespace GeckScript.Json

inductive Value where
  | text (s : String)
  | list (items : List Value)
  /-- Members in the order in which they are written. -/
  | object (members : List (String × Value))

def hexDigit (n : Nat) : Char :=
  if n < 10 then Char.ofNat ('0'.toNat + n) else Char.ofNat ('a'.toNat + n - 10)

/-- Quotes, backslashes and the characters below the space are escaped, and nothing else. -/
def escapeChar (c : Char) : List Char :=
  if c = '"' then ['\\', '"']
  else if c = '\\' then ['\\', '\\']
  else if c = '\x08' then ['\\', 'b']
  else if c = '\x0c' then ['\\', 'f']
  else if c = '\n' then ['\\', 'n']
  else if c = '\r' then ['\\', 'r']
  else if c = '\t' then ['\\', 't']
  else if c.toNat < 0x20 then
    ['\\', 'u', '0', '0', hexDigit (c.toNat / 16), hexDigit (c.toNat % 16)]
  else [c]

def quoted (s : String) : List Char :=
  '"' :: s.toList.flatMap escapeChar ++ ['"']

def newline (depth : Nat) : List Char :=
  '\n' :: List.replicate (2 * depth) ' '

mutual

def Value.write (depth : Nat) : Value → List Char
  | .text s => quoted s
  | .list [] => ['[', ']']
  | .list (v :: rest) =>
    '[' :: newline (depth + 1) ++ v.write (depth + 1) ++ writeItems (depth + 1) rest ++
      newline depth ++ [']']
  | .object [] => ['\x7b', '\x7d']
  | .object ((key, v) :: rest) =>
    '\x7b' :: newline (depth + 1) ++ quoted key ++ [':', ' '] ++ v.write (depth + 1) ++
      writeMembers (depth + 1) rest ++ newline depth ++ ['\x7d']

def writeItems (depth : Nat) : List Value → List Char
  | [] => []
  | v :: rest => ',' :: newline depth ++ v.write depth ++ writeItems depth rest

def writeMembers (depth : Nat) : List (String × Value) → List Char
  | [] => []
  | (key, v) :: rest =>
    ',' :: newline depth ++ quoted key ++ [':', ' '] ++ v.write depth ++ writeMembers depth rest

end

def Value.pretty (v : Value) : String :=
  String.ofList (v.write 0)

end GeckScript.Json
