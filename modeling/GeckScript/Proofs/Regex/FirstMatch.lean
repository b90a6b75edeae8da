import GeckScript.Proofs.Regex.Scan

/-!
The first match of a scan, and which of two first matches is the better one: the one that starts
further to the left, and of two that start at the same place the longer one. A scan that counts at
each position the more of what two others count there starts with the better of their first matches.
-/

namespace GeckScript.Regex

/-- A match is as good as another if it starts further to the left, or at the same place and is no
shorter. -/
def Found.AsGood (m m' : Found) : Prop :=
  m.start.column < m'.start.column ∨ m.start.column = m'.start.column ∧ m'.length ≤ m.length

instance (m m' : Found) : Decidable (m.AsGood m') := inferInstanceAs (Decidable (_ ∨ _))

def betterMatch : Option Found → Option Found → Option Found
  | none, m' => m'
  | m, none => m
  | some m, some m' => if m.AsGood m' then some m else some m'

theorem Found.AsGood.refl (m : Found) : m.AsGood m :=
  .inr ⟨rfl, Nat.le_refl _⟩

/-- Of two matches one is as good as the other. -/
theorem Found.asGood_of_not {m m' : Found} (h : ¬ m.AsGood m') : m'.AsGood m := by
  unfold Found.AsGood at h ⊢
  omega

/-- The better match is as good as each of the two. -/
theorem exists_betterMatch_asGood {m : Found} {o o' : Option Found} (h : o = some m ∨ o' = some m) :
    ∃ best, betterMatch o o' = some best ∧ best.AsGood m := by
  cases o with
  | none =>
    rcases h with h | h
    · cases h
    · exact ⟨m, h, .refl m⟩
  | some n =>
    cases o' with
    | none =>
      rcases h with h | h
      · cases h
        exact ⟨m, rfl, .refl m⟩
      · cases h
    | some n' =>
      by_cases hgood : n.AsGood n'
      · refine ⟨n, if_pos hgood, ?_⟩
        rcases h with h | h
        · cases h
          exact .refl m
        · cases h
          exact hgood
      · refine ⟨n', if_neg hgood, ?_⟩
        rcases h with h | h
        · cases h
          exact Found.asGood_of_not hgood
        · cases h
          exact .refl m

/-- A match is better than any that starts behind it. -/
theorem betterMatch_of_lt {m : Found} {o : Option Found}
    (h : ∀ m', o = some m' → m.start.column < m'.start.column) :
    betterMatch (some m) o = some m ∧ betterMatch o (some m) = some m := by
  cases o with
  | none => exact ⟨rfl, rfl⟩
  | some m' =>
    have hlt := h m' rfl
    constructor
    · exact if_pos (.inl hlt)
    · apply if_neg
      unfold Found.AsGood
      omega

namespace Advances

variable {hit hit' : Cursor → Option Nat}

/-- Without a hit at a position the first match lies behind it. -/
theorem column_lt_of_head?_scan (hh : Advances hit) {s : Cursor} (h : hit s = none) {m : Found}
    (hm : (scan hit s).head? = some m) : s.column < m.start.column := by
  obtain ⟨rest, hscan⟩ := List.head?_eq_some_iff.1 hm
  obtain ⟨i, n, -, hn, rfl, -⟩ := hh.exists_of_scan_eq_cons hscan
  have hpos := hh.pos hn
  have hle := hh.le hn
  rw [Cursor.after_advance, List.length_drop] at hle
  -- the match starts where something is found, which is not here
  have hi : i ≠ 0 := by
    rintro rfl
    rw [Cursor.advance_zero, h] at hn
    cases hn
  show s.column < (s.advance i).column
  rw [Cursor.column_advance (by omega)]
  omega

/-- The more of two counts is one of them, so it is a stretch of the text as well. -/
theorem maxHit (hh : Advances hit) (hh' : Advances hit') :
    Advances fun s => max (hit s) (hit' s) := by
  have hone (s : Cursor) : max (hit s) (hit' s) = hit s ∨ max (hit s) (hit' s) = hit' s :=
    Option.max_eq_or Std.MaxEqOr.max_eq_or
  constructor
  · intro s n hn
    rcases hone s with h | h
    · exact hh.pos (h.symm.trans hn)
    · exact hh'.pos (h.symm.trans hn)
  · intro s n hn
    rcases hone s with h | h
    · exact hh.le (h.symm.trans hn)
    · exact hh'.le (h.symm.trans hn)

theorem head?_scan_of_some (hh : Advances hit) {s : Cursor} {n : Nat} (h : hit s = some n) :
    (scan hit s).head? = some ⟨s, s.advance n⟩ := by
  rw [hh.scan_of_some h]
  rfl

/-- Of two matches at one place the better one has the larger length. -/
theorem betterMatch_advance {s : Cursor} {n n' : Nat} (h : n ≤ s.after.length)
    (h' : n' ≤ s.after.length) :
    betterMatch (some ⟨s, s.advance n⟩) (some ⟨s, s.advance n'⟩) =
      some ⟨s, s.advance (max n n')⟩ := by
  have hgood : (⟨s, s.advance n⟩ : Found).AsGood ⟨s, s.advance n'⟩ ↔ n' ≤ n := by
    simp [Found.AsGood, Found.length_advance h, Found.length_advance h']
  rw [betterMatch]
  by_cases hle : n' ≤ n
  · rw [if_pos (hgood.2 hle), Nat.max_eq_left hle]
  · rw [if_neg (mt hgood.1 hle), Nat.max_eq_right (by omega)]

/-- The first match with the larger of two counts is the better of the first matches with each. -/
theorem head?_scan_maxHit (hh : Advances hit) (hh' : Advances hit') (s : Cursor) :
    (scan (fun t => max (hit t) (hit' t)) s).head? =
      betterMatch (scan hit s).head? (scan hit' s).head? := by
  -- along the joined scan, which passes over a position only if both others do
  induction s using scan.induct fun t => max (hit t) (hit' t) with
  | case1 s hs =>
    have hnil : s.after = [] := by simpa using hs
    rw [scan_of_after_eq_nil hnil, scan_of_after_eq_nil hnil, scan_of_after_eq_nil hnil]
    rfl
  | case2 s _ hnone ih =>
    have hboth := Option.max_eq_none_iff.1 hnone
    rw [scan_of_none hnone, scan_of_none hboth.1, scan_of_none hboth.2, ih]
  | case3 s _ n hsome _ =>
    rw [(hh.maxHit hh').head?_scan_of_some hsome]
    cases h : hit s with
    | none =>
      cases h' : hit' s with
      | none => simp [h, h'] at hsome
      | some k =>
        rw [h, h', Option.max_none_left, Option.some.injEq] at hsome
        subst hsome
        rw [hh'.head?_scan_of_some h']
        -- the other scan has its first match further to the right
        exact (betterMatch_of_lt fun m' hm' => hh.column_lt_of_head?_scan h hm').2.symm
    | some k =>
      rw [hh.head?_scan_of_some h]
      cases h' : hit' s with
      | none =>
        rw [h, h', Option.max_none_right, Option.some.injEq] at hsome
        subst hsome
        exact (betterMatch_of_lt fun m' hm' => hh'.column_lt_of_head?_scan h' hm').1.symm
      | some k' =>
        rw [h, h', Option.max_some_some, Option.some.injEq] at hsome
        subst hsome
        rw [hh'.head?_scan_of_some h', betterMatch_advance (hh.le h) (hh'.le h')]

end Advances

end GeckScript.Regex
