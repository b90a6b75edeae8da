import GeckScript.Text.Mark
import GeckScript.Url.Domain.Direction
import GeckScript.Url.Domain.Joining
import GeckScript.Url.Domain.Mapping
import GeckScript.Url.Domain.Punycode

/-!
Domain names in their ASCII form. A name is mapped, brought into normal form and cut into labels;
labels that carry the marker of the encoding are read back and checked, and labels with characters
outside ASCII are written in it.
-/

namespace GeckScript.Url.Domain

open Text

def isForbidden (c : Char) : Bool :=
  c.toNat ≤ 0x20 || c.toNat = 0x7f ||
    c ∈ ['%', '#', '/', ':', '<', '>', '?', '@', '[', '\\', ']', '^', '|']

def marker : List Char :=
  ['x', 'n', '-', '-']

def isStable (c : Char) : Bool :=
  mapChar? c == some [c]

/-- Whether a label may stand in a name: nothing forbidden, no mark in front, and joiners only where
they are needed. -/
def isWellFormed (label : List Char) : Bool :=
  label.all (fun c => !isForbidden c) && !label.head?.any mark.mem && joinersAllowed [] label

/-- The label as it is read by people: an encoded label has to stand for a mapped text in normal
form with a character outside ASCII. -/
def readLabel (label : List Char) : Option (List Char) :=
  if marker.isPrefixOf label then do
    let text ← Punycode.decode? (label.drop marker.length)
    let sound :=
      text.any (0x80 ≤ ·.toNat) && text.all (fun c => c != '.' && isStable c) &&
        normalize text == text
    if sound then some text else none
  else some label

def writeLabel (label : List Char) : List Char :=
  if label.all (·.toNat < 0x80) then label else marker ++ Punycode.encode label

def toAscii? (name : List Char) : Option (List Char) := do
  let mapped ← name.mapM mapChar?
  let labels ← ((normalize mapped.flatten).splitOn '.').mapM readLabel
  if labels.all isWellFormed && directionsAllowed labels then
    some (['.'].intercalate (labels.map writeLabel))
  else none

end GeckScript.Url.Domain
