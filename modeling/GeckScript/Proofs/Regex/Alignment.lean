import GeckScript.Proofs.Regex.Scan

/-!
Two texts side by side. Positions in them correspond if the characters on either side do, one by
one. Scans of the two texts whose hits agree at corresponding positions find corresponding matches,
as many in the one text as in the other.
-/

namespace GeckScript.Regex

variable {R S : Char → Char → Prop}

/-- Positions in two texts with corresponding characters on either side. -/
structure Cursor.Alongside (R : Char → Char → Prop) (s t : Cursor) : Prop where
  before : List.Forall₂ R s.before t.before
  after : List.Forall₂ R s.after t.after

/-- Matches in two texts that start and end at corresponding positions. -/
structure Found.Alongside (R : Char → Char → Prop) (m m' : Found) : Prop where
  start : m.start.Alongside R m'.start
  stop : m.stop.Alongside R m'.stop

namespace Cursor.Alongside

variable {s t : Cursor}

theorem start {text other : List Char} (h : List.Forall₂ R text other) :
    (Cursor.start text).Alongside R (.start other) :=
  ⟨.nil, h⟩

theorem advance (h : s.Alongside R t) (n : Nat) : (s.advance n).Alongside R (t.advance n) where
  before := List.rel_append (List.rel_reverse (List.forall₂_take n h.after)) h.before
  after := List.forall₂_drop n h.after

theorem imp (hRS : ∀ {c d}, R c d → S c d) (h : s.Alongside R t) : s.Alongside S t :=
  ⟨h.before.imp fun _ _ => hRS, h.after.imp fun _ _ => hRS⟩

theorem after_eq_nil_iff (h : s.Alongside R t) : s.after = [] ↔ t.after = [] := by
  rw [← List.length_eq_zero_iff, ← List.length_eq_zero_iff, h.after.length_eq]

end Cursor.Alongside

/-- Scans that find as much at corresponding positions have corresponding matches. -/
theorem forall₂_scan {hit hit' : Cursor → Option Nat}
    (hhit : ∀ s t : Cursor, s.Alongside R t → hit s = hit' t) {s t : Cursor}
    (h : s.Alongside R t) :
    List.Forall₂ (Found.Alongside R) (scan hit s) (scan hit' t) := by
  -- along the scan of the first text; the second one takes the same steps
  induction s using scan.induct hit generalizing t with
  | case1 s hs =>
    have hnil : s.after = [] := by simpa using hs
    rw [scan_of_after_eq_nil hnil, scan_of_after_eq_nil (h.after_eq_nil_iff.1 hnil)]
    exact .nil
  | case2 s _ hnone ih =>
    rw [scan_of_none hnone, scan_of_none ((hhit s t h).symm.trans hnone)]
    exact ih (h.advance 1)
  | case3 s hs n hsome ih =>
    have hnil : t.after ≠ [] := by simpa [← h.after_eq_nil_iff] using hs
    rw [scan, scan.eq_def hit' t, ← hhit s t h, hsome]
    simp only [hs, List.isEmpty_eq_false_iff.2 hnil, if_false, Bool.false_eq_true]
    exact .cons ⟨h, h.advance n⟩ (ih (h.advance _))

end GeckScript.Regex
