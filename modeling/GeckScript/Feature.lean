/-!
The optional features: the game update and the script extenders whose words are highlighted only
when they are switched on. A set of features is told by the features it has, and switching one
leaves the others alone.
-/

namespace GeckScript

inductive Feature where
  | vegas
  | fose
  | nvse
  | nx
  deriving Repr, DecidableEq

namespace Feature

def all : List Feature :=
  [vegas, fose, nvse, nx]

def name : Feature → String
  | vegas => "vegas"
  | fose => "fose"
  | nvse => "nvse"
  | nx => "nx"

def settingKey : Feature → String
  | vegas => "highlightVegas"
  | fose => "highlightFOSE"
  | nvse => "highlightNVSE"
  | nx => "highlightNX"

def configKey (f : Feature) : String :=
  "highlight." ++ f.name

/-- Finds a feature by its name, where the case of ASCII letters does not count. -/
def ofName? (name : String) : Option Feature :=
  all.find? fun f => f.name == name.map Char.toLower

end Feature

structure FeatureSet where
  vegas : Bool
  fose : Bool
  nvse : Bool
  nx : Bool
  deriving Repr, DecidableEq

namespace FeatureSet

def all : FeatureSet :=
  ⟨true, true, true, true⟩

def none : FeatureSet :=
  ⟨false, false, false, false⟩

def has (s : FeatureSet) : Feature → Bool
  | .vegas => s.vegas
  | .fose => s.fose
  | .nvse => s.nvse
  | .nx => s.nx

def set (s : FeatureSet) (f : Feature) (on : Bool) : FeatureSet :=
  match f with
  | .vegas => { s with vegas := on }
  | .fose => { s with fose := on }
  | .nvse => { s with nvse := on }
  | .nx => { s with nx := on }

def toggle (s : FeatureSet) (f : Feature) : FeatureSet :=
  s.set f (!s.has f)

theorem eq_of_has {s t : FeatureSet} (h : ∀ f, s.has f = t.has f) : s = t := by
  cases s
  cases t
  simp only [FeatureSet.mk.injEq]
  exact ⟨h .vegas, h .fose, h .nvse, h .nx⟩

theorem has_set (s : FeatureSet) (f g : Feature) (on : Bool) :
    (s.set f on).has g = if g = f then on else s.has g := by
  cases f <;> cases g <;> rfl

theorem has_toggle (s : FeatureSet) (f g : Feature) :
    (s.toggle f).has g = if g = f then !s.has g else s.has g := by
  rw [toggle, has_set]
  split
  · rename_i h
    rw [h]
  · rfl

end FeatureSet

end GeckScript
