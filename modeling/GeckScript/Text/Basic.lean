/-!
What readers of texts share: blank and control characters, digits with the numbers that they write,
and a position in a text that is being read.
-/

namespace GeckScript.Text

def isBlank (c : Char) : Bool :=
  let n := c.toNat
  (9 ≤ n && n ≤ 13) || n == 0x20 || n == 0x85 || n == 0xa0 || n == 0x1680 ||
    (0x2000 ≤ n && n ≤ 0x200a) || n == 0x2028 || n == 0x2029 || n == 0x202f || n == 0x205f ||
    n == 0x3000

def isControl (c : Char) : Bool :=
  c.toNat < 0x20 || (0x7f ≤ c.toNat && c.toNat < 0xa0)

def isHexDigit (c : Char) : Bool :=
  c.isDigit || ('a' ≤ c && c ≤ 'f') || ('A' ≤ c && c ≤ 'F')

def hexDigitValue (c : Char) : Nat :=
  if c.isDigit then c.toNat - '0'.toNat
  else if 'a' ≤ c then c.toNat - 'a'.toNat + 10
  else c.toNat - 'A'.toNat + 10

def digitsValue (base : Nat) (digits : List Char) : Nat :=
  digits.foldl (fun n c => base * n + hexDigitValue c) 0

/-- The character with a code point, unless it is too large or a surrogate. -/
def scalar? (n : Nat) : Option Char :=
  if n.isValidChar then some (Char.ofNat n) else none

def integerLimit : Nat :=
  1 <<< 63

def isInteger64 (n : Int) : Bool :=
  -(integerLimit : Int) ≤ n && n < integerLimit

structure Reader where
  pos : Nat
  rest : List Char

namespace Reader

def ofString (source : String) : Reader :=
  ⟨0, source.toList⟩

def atEnd (r : Reader) : Bool :=
  r.rest.isEmpty

def advance (r : Reader) : Reader :=
  match r.rest with
  | [] => r
  | _ :: rest => ⟨r.pos + 1, rest⟩

def drop (r : Reader) (n : Nat) : Reader :=
  ⟨r.pos + min n r.rest.length, r.rest.drop n⟩

def startsWith (r : Reader) (word : String) : Bool :=
  word.toList.isPrefixOf r.rest

def takeWhile (p : Char → Bool) (r : Reader) : List Char × Reader :=
  let taken := r.rest.takeWhile p
  (taken, r.drop taken.length)

end Reader

end GeckScript.Text
