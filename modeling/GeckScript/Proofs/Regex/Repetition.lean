import GeckScript.Proofs.Regex.Runs

/-!
Greedy repetitions. Where each round can match in one way only, a repetition tries the ends of its
rounds from the last one to the first. A class of characters is such a round: its repetition takes
as much of a run as the rest of the pattern leaves to it, so a pattern that is only such a
repetition matches the runs of the class.
-/

namespace GeckScript.Regex

/-- An expression that matches in one way at most at each position, and there takes the characters
that `count` counts. -/
structure Expr.HasOneWay (r : Expr) (count : Cursor → Option Nat) : Prop
    extends Advances count where
  run_eq : ∀ {α : Type} (s : Cursor) (k : Cursor → Option α),
    r.run s k = (count s).bind fun n => k (s.advance n)

namespace Expr.HasOneWay

variable {r : Expr} {count : Cursor → Option Nat} {α : Type} {k : Cursor → Option α} {s : Cursor}

theorem length_after_advance_lt (hr : r.HasOneWay count) {n : Nat} (h : count s = some n) :
    (s.advance n).after.length < s.after.length := by
  have hpos := hr.pos h
  have hle := hr.le h
  rw [Cursor.after_advance, List.length_drop]
  omega

/-- A greedy repetition goes another round first, and ends at once if that leads nowhere. -/
theorem repeatMatch_of_some (hr : r.HasOneWay count) {n : Nat} (h : count s = some n) (fuel : Nat) :
    repeatMatch true r.run (fuel + 1) s k =
      (repeatMatch true r.run fuel (s.advance n) k <|> k s) := by
  rw [repeatMatch, if_pos rfl, hr.run_eq, h, Option.bind_some,
    if_pos (hr.length_after_advance_lt h)]

theorem repeatMatch_of_none (hr : r.HasOneWay count) (h : count s = none) (fuel : Nat) :
    repeatMatch true r.run fuel s k = k s := by
  cases fuel with
  | zero => rfl
  | succ fuel =>
    rw [repeatMatch, if_pos rfl, hr.run_eq, h]
    rfl

end Expr.HasOneWay

def charHit (p : Char → Bool) (s : Cursor) : Option Nat :=
  if s.after.head?.any p then some 1 else none

theorem advances_charHit (p : Char → Bool) : Advances (charHit p) where
  pos := by
    intro s n hn
    unfold charHit at hn
    split at hn <;> cases hn
    exact Nat.one_pos
  le := by
    rintro ⟨before, after⟩ n hn
    unfold charHit at hn
    cases after with
    | nil => cases hn
    | cons c after =>
      split at hn <;> cases hn
      show 1 ≤ after.length + 1
      omega

theorem hasOneWay_one (set : CharClass) : (Expr.one set).HasOneWay (charHit set.contains) where
  toAdvances := advances_charHit set.contains
  run_eq := by
    rintro α ⟨before, after⟩ k
    rw [Expr.run, charHit]
    cases after with
    | nil => rfl
    | cons c after => cases hc : set.contains c <;> simp [hc, Cursor.advance_one]

section Runs

variable {set : CharClass} {α : Type} {k : Cursor → Option α} {s : Cursor}

/-- A greedy repetition of a class may end anywhere in the run, and tries the ends from the last one
to the first. -/
theorem repeatMatch_one_eq (fuel : Nat) (hfuel : s.after.length ≤ fuel) :
    repeatMatch true (Expr.one set).run fuel s k =
      (List.range ((s.run set.contains).length + 1)).reverse.findSome? fun j =>
        k (s.advance j) := by
  -- on the fuel, of which each character of the run takes one
  induction fuel generalizing s with
  | zero =>
    have hnil : s.after = [] := List.length_eq_zero_iff.1 (Nat.le_zero.1 hfuel)
    have hrun : s.run set.contains = [] := by rw [Cursor.run, hnil, List.takeWhile_nil]
    rw [hrun]
    show k s = [0].findSome? fun j => k (s.advance j)
    rw [List.findSome?_singleton, Cursor.advance_zero]
  | succ fuel ih =>
    by_cases hs : s.after.head?.any set.contains
    · have hhit : charHit set.contains s = some 1 := if_pos hs
      have hless := (hasOneWay_one set).length_after_advance_lt hhit
      have hadvance : (fun j => k ((s.advance 1).advance j)) =
          (fun j => k (s.advance j)) ∘ Nat.succ := by
        funext j
        rw [Cursor.advance_advance, Nat.add_comm]
        rfl
      -- the ends behind the first character, and the end in front of it as the last one to try
      rw [(hasOneWay_one set).repeatMatch_of_some hhit, ih (by omega), Cursor.length_run_of_any hs,
        List.range_succ_eq_map (n := ((s.advance 1).run set.contains).length + 1),
        List.reverse_cons, List.findSome?_append, ← List.map_reverse, List.findSome?_map,
        hadvance, List.findSome?_singleton, Cursor.advance_zero, Option.orElse_eq_orElse,
        Option.orElse_eq_or]
    · have hhit : charHit set.contains s = none := if_neg hs
      rw [(hasOneWay_one set).repeatMatch_of_none hhit,
        Cursor.run_eq_nil_iff.2 (by simpa using hs)]
      show k s = [0].findSome? fun j => k (s.advance j)
      rw [List.findSome?_singleton, Cursor.advance_zero]

/-- A class once or more, greedily, ends behind a character of the run, the last one tried first. -/
theorem run_plus_one :
    (Expr.plus true (.one set)).run s k =
      (List.range (s.run set.contains).length).reverse.findSome? fun j =>
        k (s.advance (j + 1)) := by
  rw [Expr.plus, Expr.run, (hasOneWay_one set).run_eq, charHit]
  by_cases hs : s.after.head?.any set.contains
  · rw [if_pos hs, Option.bind_some, Expr.run, repeatMatch_one_eq _ (Nat.le_refl _),
      Cursor.length_run_of_any hs]
    simp only [Cursor.advance_advance, Nat.add_comm 1]
  · rw [if_neg hs, Cursor.run_eq_nil_iff.2 (by simpa using hs)]
    rfl

/-- If the rest fails inside the run, a class once or more takes the whole run or nothing. -/
theorem run_plus_one_of_none
    (h : ∀ j, 0 < j → j < (s.run set.contains).length → k (s.advance j) = none) :
    (Expr.plus true (.one set)).run s k =
      if s.run set.contains = [] then none else k (s.advance (s.run set.contains).length) := by
  rw [run_plus_one]
  cases hrun : (s.run set.contains).length with
  | zero =>
    rw [if_pos (List.length_eq_zero_iff.1 hrun)]
    rfl
  | succ n =>
    have hne : s.run set.contains ≠ [] := by
      rw [← List.length_pos_iff]
      omega
    have hinside : ((List.range n).reverse.findSome? fun j => k (s.advance (j + 1))) = none := by
      rw [List.findSome?_eq_none_iff]
      intro j hj
      have hlt := List.mem_range.1 (List.mem_reverse.1 hj)
      exact h (j + 1) (Nat.succ_pos j) (by omega)
    rw [if_neg hne, List.range_succ, List.reverse_concat, List.findSome?_cons, hinside]
    cases k (s.advance (n + 1)) <;> rfl

end Runs

/-- A class once or more, greedily, finds the runs of the class. -/
theorem hasHits_plus_one (set : CharClass) :
    (Expr.plus true (.one set)).HasHits (runHit set.contains) where
  toAdvances := advances_runHit
  matchAt_eq := by
    intro s
    rw [Expr.matchAt, run_plus_one]
    cases hrun : (s.run set.contains).length with
    | zero =>
      rw [runHit_eq_none_iff.2 (Cursor.run_eq_nil_iff.1 (List.length_eq_zero_iff.1 hrun))]
      rfl
    | succ n =>
      have hhit : runHit set.contains s = some (n + 1) := by
        refine runHit_eq_some_iff.2 ⟨?_, hrun.symm⟩
        by_contra hs
        rw [Cursor.run_eq_nil_iff.2 (by simpa using hs)] at hrun
        cases hrun
      rw [hhit, List.range_succ, List.reverse_concat, List.findSome?_cons]
      rfl

end GeckScript.Regex
