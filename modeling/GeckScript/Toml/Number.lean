import GeckScript.Text.Basic
import GeckScript.Toml.Scan
import GeckScript.Toml.Value

/-!
Numbers, dates and times. They begin alike, so a date or time is tried first, then a number with a
fraction or an exponent, then an integer.
-/

namespace GeckScript.Toml

open Text (Reader digitsValue isHexDigit isInteger64)

/-- Digits of which each but the first can stand behind an underscore. -/
def groupedDigits (isDigit : Char → Bool) (pos : Nat) :
    List Char → Except Fault (List Char × Reader)
  | '_' :: rest =>
    match rest with
    | [] => .error ⟨pos + 1, true⟩
    | c :: rest =>
      if isDigit c then do
        let (digits, after) ← groupedDigits isDigit (pos + 2) rest
        return (c :: digits, after)
      else .error ⟨pos + 1, true⟩
  | c :: rest =>
    if isDigit c then do
      let (digits, after) ← groupedDigits isDigit (pos + 1) rest
      return (c :: digits, after)
    else .ok ([], ⟨pos, c :: rest⟩)
  | [] => .ok ([], ⟨pos, []⟩)

def moreDigits (isDigit : Char → Bool) : Scan (List Char) := fun r =>
  groupedDigits isDigit r.pos r.rest

def digitRun (isDigit : Char → Bool) : Scan (List Char) := do
  match ← Scan.peek with
  | some c => if isDigit c then moreDigits isDigit else Scan.fail
  | none => Scan.fail

def sign : Scan Bool := do
  match ← Scan.peek with
  | some '-' => Scan.advance 1; return true
  | some '+' => Scan.advance 1; return false
  | _ => return false

def wholePart : Scan (Bool × List Char) := do
  let negative ← sign
  match ← Scan.peek with
  | some '0' => Scan.advance 1; return (negative, ['0'])
  | _ => return (negative, ← digitRun Char.isDigit)

/-! Dates and times -/

def fixedDigits (count : Nat) : Scan Nat := do
  let digits := (← Scan.rest).take count
  if digits.length = count && digits.all Char.isDigit then
    Scan.advance count
    return digitsValue 10 digits
  else Scan.fail

def twoDigits (low high : Nat) : Scan Nat := Scan.fromStart do
  let n ← fixedDigits 2
  if low ≤ n && n ≤ high then return n else Scan.fail

def date : Scan Date := do
  let year ← fixedDigits 4
  Scan.expect "-"
  Scan.commit do
    let month ← twoDigits 1 12
    Scan.expect "-"
    let day ← twoDigits 1 (daysInMonth year month)
    return ⟨year, month, day⟩

/-- Places of a second, of which nine count. -/
def secondPlaces : Scan Nat := do
  Scan.expect "."
  let digits ← Scan.takeWhile Char.isDigit
  if digits.isEmpty then Scan.fail
  else return digitsValue 10 ((digits ++ List.replicate 9 '0').take 9)

def timeOfDay : Scan TimeOfDay := do
  let hour ← twoDigits 0 23
  Scan.expect ":"
  Scan.commit do
    let minute ← twoDigits 0 59
    Scan.expect ":"
    let second ← twoDigits 0 60
    return ⟨hour, minute, second, (← Scan.optional secondPlaces).getD 0⟩

def timeOffset : Scan TimeOffset := do
  match ← Scan.oneOf ['Z', 'z', '+', '-'] with
  | '+' => return .minutes (← Scan.commit distance)
  | '-' => return .minutes (-(← Scan.commit distance))
  | _ => return .universal
where
  distance : Scan Int := do
    let hour ← twoDigits 0 23
    Scan.expect ":"
    let minute ← twoDigits 0 59
    return hour * 60 + minute

def dateTime : Scan DateTime :=
  Scan.orElse
    (do
      let d ← date
      let time := do
        let _ ← Scan.oneOf ['T', 't', ' ']
        let t ← timeOfDay
        return DateTime.both d t (← Scan.optional timeOffset)
      return (← Scan.optional time).getD (.date d))
    (do return .time (← timeOfDay))

/-! Numbers -/

def exponent : Scan Int := do
  let _ ← Scan.oneOf ['e', 'E']
  let negative ← sign
  let digits ← Scan.commit (digitRun Char.isDigit)
  let n : Int := digitsValue 10 digits
  return if negative then -n else n

/-- A whole part with a fraction, an exponent or both. If it is positive it has to be in range. -/
def decimal : Scan Binary64 := do
  let start ← Scan.position
  let (negative, whole) ← wholePart
  let (places, e) ← Scan.orElse
    (do return ([], ← exponent))
    (do
      Scan.expect "."
      let places ← Scan.commit (digitRun Char.isDigit)
      return (places, (← Scan.optional exponent).getD 0))
  let x := Binary64.ofDecimal negative (digitsValue 10 (whole ++ places)) (e - places.length)
  if x = .infinite false then Scan.failAt start true else return x

def specialFloat : Scan Binary64 := do
  let negative ← sign
  let x ← Scan.orElse
    (do Scan.expect "inf"; return .infinite false)
    (do Scan.expect "nan"; return .nan)
  return if negative then x.neg else x

def float : Scan Binary64 :=
  Scan.orElse decimal specialFloat

def basedInteger (base : Nat) (isDigit : Char → Bool) : Scan Int := Scan.commit do
  let start ← Scan.position
  Scan.advance 2
  let n : Int := digitsValue base (← digitRun isDigit)
  if isInteger64 n then return n else Scan.failAt start

def integer : Scan Int := do
  let start ← Scan.position
  match (← Scan.rest).take 2 with
  | ['0', 'x'] => basedInteger 16 isHexDigit
  | ['0', 'o'] => basedInteger 8 fun c => '0' ≤ c && c ≤ '7'
  | ['0', 'b'] => basedInteger 2 fun c => c == '0' || c == '1'
  | _ =>
    let (negative, digits) ← wholePart
    let n : Int := digitsValue 10 digits
    let n := if negative then -n else n
    if isInteger64 n then return n else Scan.failAt start true

def numeral : Scan Value :=
  Scan.orElse (do return .dateTime (← dateTime))
    (Scan.orElse (do return .float (← float)) (do return .integer (← integer)))

end GeckScript.Toml
