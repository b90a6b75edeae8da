import GeckScript.Decimal.Binary64

/-!
The shortest decimal of a binary number: of all decimals that round to the number those with the
fewest digits, and of these the nearest one. It is written without an exponent.
-/

namespace GeckScript

/-- A positive number between the bounds within which decimals round to it, over one denominator. -/
structure RoundingRange where
  low : Nat
  value : Nat
  high : Nat
  denominator : Nat
  /-- Whether the bounds round to the number too. -/
  closed : Bool

namespace RoundingRange

/-- The range of `mantissa · 2 ^ exponent`. Below a power of two the numbers lie closer together. -/
def ofBinary (mantissa : Nat) (exponent : Int) : RoundingRange :=
  let closer := mantissa == Binary64.fullMantissa && Binary64.minExponent < exponent
  let (unit, denominator) := Binary64.inUnits 1 1 (2 - exponent)
  ⟨(4 * mantissa - if closer then 1 else 2) * unit, 4 * mantissa * unit,
    (4 * mantissa + 2) * unit, denominator, mantissa % 2 == 0⟩

/-- The numerator of `n · 10 ^ e` over the range's denominator, and what the range's own numerators
have to be multiplied by to compare with it. -/
def point (r : RoundingRange) (n : Nat) (e : Int) : Nat × Nat :=
  if 0 ≤ e then (n * Nat.pow 10 e.toNat * r.denominator, 1)
  else (n * r.denominator, Nat.pow 10 (-e).toNat)

def contains (r : RoundingRange) (n : Nat) (e : Int) : Bool :=
  let (p, scale) := r.point n e
  if r.closed then r.low * scale ≤ p && p ≤ r.high * scale
  else r.low * scale < p && p < r.high * scale

def floor (r : RoundingRange) (e : Int) : Nat :=
  let (unit, scale) := r.point 1 e
  r.value * scale / unit

def isNearerBelow (r : RoundingRange) (n : Nat) (e : Int) : Bool :=
  let (middle, scale) := r.point (2 * n + 1) e
  2 * r.value * scale < middle

/-- The nearest point on the coarsest grid `10 ^ e`, from a given one downwards, that has a point in
the range. -/
def shortest (r : RoundingRange) : Nat → Int → Nat × Int
  | 0, e => (r.floor e, e)
  | grids + 1, e =>
    let n := r.floor e
    match r.contains n e, r.contains (n + 1) e with
    | true, true => (if r.isNearerBelow n e then n else n + 1, e)
    | true, false => (n, e)
    | false, true => (n + 1, e)
    | false, false => r.shortest grids (e - 1)

end RoundingRange

def positional (digits : Nat) (exponent : Int) : String :=
  let written := Nat.toDigits 10 digits
  if 0 ≤ exponent then String.ofList (written ++ List.replicate exponent.toNat '0')
  else
    let places := (-exponent).toNat
    let padded := List.replicate (places + 1 - written.length) '0' ++ written
    let whole := padded.length - places
    String.ofList (padded.take whole ++ '.' :: padded.drop whole)

namespace Binary64

/-- The coarsest grid on which the shortest decimal of a number can lie. -/
def coarsestGrid : Int := 309

/-- How many grids there are down to the one of the 17th digit of the smallest number. -/
def gridCount : Nat := 655

def toText : Binary64 → String
  | nan => "NaN"
  | infinite negative => if negative then "-inf" else "inf"
  | finite negative mantissa exponent =>
    let written :=
      if mantissa = 0 then "0"
      else
        let range := RoundingRange.ofBinary mantissa exponent
        let (digits, e) := range.shortest gridCount coarsestGrid
        positional digits e
    if negative then "-" ++ written else written

def isWhole : Binary64 → Bool
  | finite _ mantissa exponent =>
    0 ≤ exponent || mantissa % (1 <<< (-exponent).toNat) == 0
  | _ => false

end Binary64

end GeckScript
