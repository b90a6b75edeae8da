/-!
IPv6 addresses: eight pieces of sixteen bits, of which one run of zeros may be left out, and the
last two of which may be written as an IPv4 address.
-/

namespace GeckScript.Url.Ipv6

def hexValue? (c : Char) : Option Nat :=
  if c.isDigit then some (c.toNat - '0'.toNat)
  else if 'a' ≤ c && c ≤ 'f' then some (c.toNat - 'a'.toNat + 10)
  else if 'A' ≤ c && c ≤ 'F' then some (c.toNat - 'A'.toNat + 10)
  else none

def byte? (digits : List Char) : Option Nat :=
  match digits with
  | [] => none
  | ['0'] => some 0
  | '0' :: _ => none
  | _ =>
    if digits.all Char.isDigit && digits.length ≤ 3 then
      let value := digits.foldl (fun n c => 10 * n + (c.toNat - '0'.toNat)) 0
      if value ≤ 255 then some value else none
    else none

def embedded? (chars : List Char) : Option (List Nat) := do
  match ← (chars.splitOn '.').mapM byte? with
  | [a, b, c, d] => some [a * 256 + b, c * 256 + d]
  | _ => none

/-- The pieces so far, and behind how many of them further zeros belong. The zeros left out count as
one piece already. -/
structure Pieces where
  pieces : List Nat
  gap : Option Nat

def Pieces.finish (p : Pieces) : Option (List Nat) :=
  match p.gap with
  | some n =>
    some (p.pieces.take n ++ List.replicate (8 - p.pieces.length) 0 ++ p.pieces.drop n)
  | none => if p.pieces.length = 8 then some p.pieces else none

/-- Reads piece by piece; every round takes a character. -/
def readPieces : Nat → Pieces → List Char → Option (List Nat)
  | 0, _, _ => none
  | fuel + 1, p, chars =>
    match chars with
    | [] => p.finish
    | ':' :: rest =>
      if p.pieces.length = 8 || p.gap.isSome then none
      else readPieces fuel ⟨p.pieces ++ [0], some (p.pieces.length + 1)⟩ rest
    | _ =>
      if p.pieces.length = 8 then none
      else
        let digits := (chars.take 4).takeWhile fun c => (hexValue? c).isSome
        let value := (digits.filterMap hexValue?).foldl (fun n d => 16 * n + d) 0
        match chars.drop digits.length with
        | [] => { p with pieces := p.pieces ++ [value] }.finish
        | '.' :: _ =>
          if digits.isEmpty || 6 < p.pieces.length then none
          else do
            let last ← embedded? chars
            { p with pieces := p.pieces ++ last }.finish
        | ':' :: rest =>
          if rest.isEmpty then none
          else readPieces fuel { p with pieces := p.pieces ++ [value] } rest
        | _ => none

def parse? (chars : List Char) : Option (List Nat) :=
  match chars with
  | ':' :: ':' :: rest => readPieces (rest.length + 1) ⟨[0], some 1⟩ rest
  | ':' :: _ => none
  | _ => if chars.length < 2 then none else readPieces (chars.length + 1) ⟨[], none⟩ chars

/-- The first of the longest runs of zeros: where it starts and how long it is. -/
def longestZeros (pieces : List Nat) : Nat × Nat :=
  let runs := (List.range pieces.length).map fun i =>
    (i, ((pieces.drop i).takeWhile (· == 0)).length)
  runs.foldl (fun best run => if best.2 < run.2 then run else best) (0, 0)

def hexPiece (n : Nat) : String :=
  String.ofList (Nat.toDigits 16 n)

/-- Pieces in hexadecimal; the longest run of two zeros or more is left out. -/
def write (pieces : List Nat) : String :=
  let join (part : List Nat) := ":".intercalate (part.map hexPiece)
  match longestZeros pieces with
  | (start, length) =>
    if length < 2 then join pieces
    else join (pieces.take start) ++ "::" ++ join (pieces.drop (start + length))

end GeckScript.Url.Ipv6
