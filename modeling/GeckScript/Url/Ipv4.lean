/-!
IPv4 addresses as host names spell them: up to four numbers between dots, decimal, octal or
hexadecimal, the last of which fills the bytes that are left.
-/

namespace GeckScript.Url.Ipv4

def digitValue? (base : Nat) (c : Char) : Option Nat :=
  let value :=
    if c.isDigit then c.toNat - '0'.toNat
    else if 'a' ≤ c && c ≤ 'f' then c.toNat - 'a'.toNat + 10
    else if 'A' ≤ c && c ≤ 'F' then c.toNat - 'A'.toNat + 10
    else base
  if value < base then some value else none

def digitsValue? (base : Nat) (digits : List Char) : Option Nat :=
  digits.foldlM (fun n c => (digitValue? base c).map (base * n + ·)) 0

/-- A number in any of the three bases. A hexadecimal marker alone is zero. -/
def number? (part : List Char) : Option Nat :=
  match part with
  | [] => none
  | ['0'] => some 0
  | '0' :: 'x' :: digits => digitsValue? 16 digits
  | '0' :: 'X' :: digits => digitsValue? 16 digits
  | '0' :: digits => digitsValue? 8 digits
  | digits => digitsValue? 10 digits

/-- The parts between dots; one dot at the end counts for nothing. -/
def parts (host : List Char) : List (List Char) :=
  let all := host.splitOn '.'
  if all.getLast? == some [] then all.dropLast else all

/-- A host whose last part is a number has to be an address. -/
def endsInNumber (host : List Char) : Bool :=
  match (parts host).getLast? with
  | none => false
  | some part => (!part.isEmpty && part.all Char.isDigit) || (number? part).isSome

/-- The value of an address, if every part but the last fits a byte and the last one fits the bytes
that are left. -/
def parse? (host : List Char) : Option Nat := do
  let parts := parts host
  if 4 < parts.length then none
  else
    let numbers ← parts.mapM number?
    let last ← numbers.getLast?
    let leading := numbers.dropLast
    if leading.any (255 < ·) || Nat.pow 256 (4 - leading.length) ≤ last then none
    else
      let high := leading.foldl (fun n b => 256 * n + b) 0
      some (high * Nat.pow 256 (4 - leading.length) + last)

def write (address : Nat) : String :=
  let byte (i : Nat) := toString (address / Nat.pow 256 i % 256)
  ".".intercalate [byte 3, byte 2, byte 1, byte 0]

end GeckScript.Url.Ipv4
