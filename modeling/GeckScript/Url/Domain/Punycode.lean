/-!
Punycode: labels with characters outside ASCII, written in ASCII. The plain characters come first;
the others follow in ascending order, each as the number of steps from the one inserted before it,
in digits of base 36 whose thresholds adapt to the size of the steps.
-/

namespace GeckScript.Url.Domain.Punycode

def digitChar (d : Nat) : Char :=
  if d < 26 then Char.ofNat (0x61 + d) else Char.ofNat (0x30 + d - 26)

def digitValue? (c : Char) : Option Nat :=
  if 'a' ≤ c && c ≤ 'z' then some (c.toNat - 0x61)
  else if '0' ≤ c && c ≤ '9' then some (c.toNat - 0x30 + 26)
  else none

/-- Below which value a digit is the last one of its number; `k` grows by 36 with each place. -/
def threshold (k bias : Nat) : Nat :=
  if k ≤ bias then 1 else min 26 (k - bias)

/-- Scales a step down until it is small; `fuel` is at least the step. -/
def adaptLoop : Nat → Nat → Nat → Nat
  | 0, k, delta => k + 36 * delta / (delta + 38)
  | fuel + 1, k, delta =>
    if 455 < delta then adaptLoop fuel (k + 36) (delta / 35)
    else k + 36 * delta / (delta + 38)

def adapt (delta points : Nat) (first : Bool) : Nat :=
  let delta := if first then delta / 700 else delta / 2
  let delta := delta + delta / points
  adaptLoop delta 0 delta

/-- The digits of a number; `fuel` is more than the number. -/
def digits (bias : Nat) : Nat → Nat → Nat → List Char
  | 0, _, _ => []
  | fuel + 1, k, q =>
    let t := threshold k bias
    if q < t then [digitChar q]
    else digitChar (t + (q - t) % (36 - t)) :: digits bias fuel (k + 36) ((q - t) / (36 - t))

structure Encoder where
  delta : Nat
  bias : Nat
  handled : Nat
  first : Bool
  output : List Char

def Encoder.step (n : Nat) (e : Encoder) (c : Char) : Encoder :=
  if c.toNat < n then { e with delta := e.delta + 1 }
  else if c.toNat = n then
    { delta := 0, bias := adapt e.delta (e.handled + 1) e.first, handled := e.handled + 1,
      first := false, output := e.output ++ digits e.bias (e.delta + 1) 36 e.delta }
  else e

def encodeFrom (label : List Char) (n : Nat) (e : Encoder) : List Nat → Encoder
  | [] => e
  | m :: rest =>
    let e := { e with delta := e.delta + (m - n) * (e.handled + 1) }
    let e := label.foldl (Encoder.step m) e
    encodeFrom label (m + 1) { e with delta := e.delta + 1 } rest

def encode (label : List Char) : List Char :=
  let plain := label.filter (·.toNat < 0x80)
  let points := (label.filter (0x80 ≤ ·.toNat)).map Char.toNat
  let start := if plain.isEmpty then plain else plain ++ ['-']
  let e : Encoder := ⟨0, 72, plain.length, true, start⟩
  (encodeFrom label 0x80 e (points.mergeSort (· ≤ ·)).eraseDups).output

/-- A number being read: the next character and place, and the digits so far. -/
structure Decoder where
  point : Nat
  bias : Nat
  /-- Where the last character was inserted, and the place that the digits so far lead to. -/
  origin : Nat
  place : Nat
  weight : Nat
  k : Nat
  output : List Char

def Decoder.step (d : Decoder) (c : Char) : Option Decoder := do
  let digit ← digitValue? c
  let place := d.place + digit * d.weight
  let t := threshold d.k d.bias
  if digit < t then
    let size := d.output.length + 1
    let point := d.point + place / size
    if !point.isValidChar then none
    else
      let slot := place % size
      some {
        point, bias := adapt (place - d.origin) size (d.origin == 0),
        origin := slot + 1, place := slot + 1, weight := 1, k := 36,
        output := d.output.take slot ++ Char.ofNat point :: d.output.drop slot }
  else some { d with place, weight := d.weight * (36 - t), k := d.k + 36 }

/-- The label that was encoded. The last hyphen ends the plain characters, unless it comes first. -/
def decode? (encoded : List Char) : Option (List Char) := do
  let tail := (encoded.reverse.takeWhile (· != '-')).reverse
  let plain := encoded.take (encoded.length - tail.length - 1)
  let rest := if plain.isEmpty then encoded else tail
  if plain.any (0x80 ≤ ·.toNat) then none
  else
    let d ← rest.foldlM Decoder.step ⟨0x80, 72, 0, 0, 1, 36, plain⟩
    if d.k = 36 then some d.output else none

end GeckScript.Url.Domain.Punycode
