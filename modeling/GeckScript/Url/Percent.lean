/-!
Percent-encoding: bytes as two hexadecimal digits behind a percent sign. Characters outside ASCII
are always encoded, byte by byte in UTF-8. In the form encoding of queries letters, digits and four
marks stand for themselves, a space becomes a plus sign, and any other byte is percent-encoded.
-/

namespace GeckScript.Url.Percent

def hexDigit (n : Nat) : Char :=
  if n < 10 then Char.ofNat ('0'.toNat + n) else Char.ofNat ('A'.toNat + n - 10)

def encodeByte (b : UInt8) : List Char :=
  ['%', hexDigit (b.toNat / 16), hexDigit (b.toNat % 16)]

def encodeChar (escapes : Char → Bool) (c : Char) : List Char :=
  if c.toNat < 0x80 && !escapes c then [c] else (String.utf8EncodeChar c).flatMap encodeByte

def encode (escapes : Char → Bool) (chars : List Char) : List Char :=
  chars.flatMap (encodeChar escapes)

def isControl (c : Char) : Bool :=
  c.toNat < 0x20 || c.toNat = 0x7f

def inFragment (c : Char) : Bool :=
  isControl c || c ∈ [' ', '"', '<', '>', '\x60']

def inQuery (c : Char) : Bool :=
  isControl c || c ∈ [' ', '"', '#', '<', '>']

/-- In the query of a special scheme the apostrophe is encoded too. -/
def inSpecialQuery (c : Char) : Bool :=
  inQuery c || c = '\x27'

def inPath (c : Char) : Bool :=
  inFragment c || c ∈ ['#', '?', '\x7b', '\x7d']

def inUserInfo (c : Char) : Bool :=
  inPath c || c ∈ ['/', ':', ';', '=', '@', '[', '\\', ']', '^', '|']

def hexValue? (b : UInt8) : Option UInt8 :=
  if 0x30 ≤ b && b ≤ 0x39 then some (b - 0x30)
  else if 0x41 ≤ b && b ≤ 0x46 then some (b - 0x41 + 10)
  else if 0x61 ≤ b && b ≤ 0x66 then some (b - 0x61 + 10)
  else none

/-- Reads encoded bytes back; a percent sign without two digits behind it stands for itself. -/
def decode : List UInt8 → List UInt8
  | [] => []
  | b :: high :: low :: rest =>
    match hexValue? high, hexValue? low with
    | some h, some l =>
      if b == 0x25 then (h * 16 + l) :: decode rest else b :: decode (high :: low :: rest)
    | _, _ => b :: decode (high :: low :: rest)
  | b :: rest => b :: decode rest

def decodeText? (chars : List Char) : Option (List Char) :=
  (String.fromUTF8? ⟨(decode (chars.flatMap String.utf8EncodeChar)).toArray⟩).map String.toList

end GeckScript.Url.Percent

namespace GeckScript.Url.Form

def isPlain (c : Char) : Bool :=
  c.isAlphanum || c ∈ ['*', '-', '.', '_']

def encodeChar (c : Char) : List Char :=
  if c = ' ' then ['+'] else Percent.encodeChar (fun c => !isPlain c) c

def encode (text : List Char) : List Char :=
  text.flatMap encodeChar

def encodePair (name value : List Char) : List Char :=
  encode name ++ '=' :: encode value

def appendPair (query : Option (List Char)) (name value : List Char) : List Char :=
  let earlier := query.getD []
  if earlier.isEmpty then encodePair name value
  else earlier ++ '&' :: encodePair name value

end GeckScript.Url.Form
