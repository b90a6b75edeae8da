import GeckScript.Proofs.Regex.Matching

/-!
All matches of an expression as one scan from left to right. The scan asks at each position how
many characters match there; it goes on from the end of a match, and otherwise from the next
position. An expression that never matches the empty text has exactly the matches of its scan.
-/

namespace GeckScript.Regex

/-- The matches from `s` on, where `hit` tells how many characters match at a position. -/
def scan (hit : Cursor → Option Nat) (s : Cursor) : List Found :=
  if s.after.isEmpty then []
  else
    match hit s with
    | none => scan hit (s.advance 1)
    | some n => ⟨s, s.advance n⟩ :: scan hit (s.advance (max 1 n))
termination_by s.after.length
decreasing_by
  all_goals
    simp only [List.isEmpty_iff, ← List.length_eq_zero_iff] at *
    simp only [Cursor.after_advance, List.length_drop]
    omega

theorem Found.length_advance {s : Cursor} {n : Nat} (h : n ≤ s.after.length) :
    (⟨s, s.advance n⟩ : Found).length = n := by
  simp only [Found.length, Cursor.after_advance, List.length_drop]
  omega

theorem Found.chars_advance {s : Cursor} {n : Nat} (h : n ≤ s.after.length) :
    (⟨s, s.advance n⟩ : Found).chars = s.after.take n := by
  rw [Found.chars, Found.length_advance h]

/-- The lengths that `hit` reports are those of stretches of the text, and never zero. -/
structure Advances (hit : Cursor → Option Nat) : Prop where
  pos : ∀ {s n}, hit s = some n → 0 < n
  le : ∀ {s n}, hit s = some n → n ≤ s.after.length

theorem scan_of_after_eq_nil {hit : Cursor → Option Nat} {s : Cursor} (h : s.after = []) :
    scan hit s = [] := by
  rw [scan]
  simp [h]

theorem scan_of_none {hit : Cursor → Option Nat} {s : Cursor} (h : hit s = none) :
    scan hit s = scan hit (s.advance 1) := by
  by_cases hs : s.after = []
  · rw [scan_of_after_eq_nil hs, scan_of_after_eq_nil (by simp [hs])]
  · conv_lhs => rw [scan]
    simp [hs, h]

/-- Positions without a hit are passed over. -/
theorem scan_advance {hit : Cursor → Option Nat} {s : Cursor} (i : Nat)
    (h : ∀ j < i, hit (s.advance j) = none) : scan hit s = scan hit (s.advance i) := by
  induction i with
  | zero => rfl
  | succ i ih =>
    rw [ih fun j hj => h j (by omega), scan_of_none (h i (by omega)), Cursor.advance_advance]

namespace Advances

variable {hit : Cursor → Option Nat}

theorem eq_none_of_after_eq_nil (hh : Advances hit) {s : Cursor} (h : s.after = []) :
    hit s = none := by
  rw [Option.eq_none_iff_forall_ne_some]
  intro n hn
  have hpos := hh.pos hn
  have hle := hh.le hn
  rw [h, List.length_nil] at hle
  omega

/-- Another count can fill in where one has none. -/
theorem or {hit' : Cursor → Option Nat} (hh : Advances hit) (hh' : Advances hit') :
    Advances fun s => (hit s).or (hit' s) where
  pos h := (Option.or_eq_some_iff.1 h).elim hh.pos fun h => hh'.pos h.2
  le h := (Option.or_eq_some_iff.1 h).elim hh.le fun h => hh'.le h.2

theorem scan_of_some (hh : Advances hit) {s : Cursor} {n : Nat} (h : hit s = some n) :
    scan hit s = ⟨s, s.advance n⟩ :: scan hit (s.advance n) := by
  have hpos := hh.pos h
  have hs : s.after ≠ [] := by
    intro hs
    rw [hh.eq_none_of_after_eq_nil hs] at h
    cases h
  conv_lhs => rw [scan]
  simp [hs, h, Nat.max_eq_right hpos]

/-- The first match is at the first position with a hit, and the rest is the scan from its end. -/
theorem exists_of_scan_eq_cons (hh : Advances hit) {s : Cursor} {m : Found} {rest : List Found}
    (h : scan hit s = m :: rest) :
    ∃ i n, (∀ j < i, hit (s.advance j) = none) ∧ hit (s.advance i) = some n ∧
      m = ⟨s.advance i, s.advance (i + n)⟩ ∧ rest = scan hit m.stop := by
  induction s using scan.induct hit with
  | case1 s hs =>
    rw [scan_of_after_eq_nil (by simpa using hs)] at h
    cases h
  | case2 s _ hnone ih =>
    rw [scan_of_none hnone] at h
    -- seen from `s`, the match lies one character further on
    obtain ⟨i, n, hbefore, hi, hm, hrest⟩ := ih h
    refine ⟨1 + i, n, ?_, by simpa using hi, by simpa [Nat.add_assoc] using hm, hrest⟩
    intro j hj
    cases j with
    | zero => exact hnone
    | succ j => simpa [Nat.add_comm] using hbefore j (by omega)
  | case3 s _ n hsome _ =>
    rw [hh.scan_of_some hsome] at h
    cases h
    exact ⟨0, n, by simp, hsome, by simp, rfl⟩

/-- Every match stands at a hit. -/
theorem exists_of_mem_scan (hh : Advances hit) {s : Cursor} {m : Found} (h : m ∈ scan hit s) :
    ∃ i n, hit (s.advance i) = some n ∧ m = ⟨s.advance i, s.advance (i + n)⟩ := by
  induction s using scan.induct hit with
  | case1 s hs =>
    rw [scan_of_after_eq_nil (by simpa using hs)] at h
    cases h
  | case2 s _ hnone ih =>
    rw [scan_of_none hnone] at h
    obtain ⟨i, n, hn, hm⟩ := ih h
    exact ⟨1 + i, n, by simpa using hn, by simpa [Nat.add_assoc] using hm⟩
  | case3 s _ n hsome ih =>
    rw [hh.scan_of_some hsome] at h
    rcases List.mem_cons.1 h with rfl | hmem
    · exact ⟨0, n, hsome, by simp⟩
    · rw [Nat.max_eq_right (hh.pos hsome)] at ih
      obtain ⟨i, n', hn', hm⟩ := ih hmem
      exact ⟨n + i, n', by simpa using hn', by simpa [Nat.add_assoc] using hm⟩

/-- Matches come one behind the other. -/
theorem pairwise_scan (hh : Advances hit) (s : Cursor) :
    (scan hit s).Pairwise fun m m' => m.stop.column ≤ m'.start.column := by
  induction s using scan.induct hit with
  | case1 s hs =>
    rw [scan_of_after_eq_nil (by simpa using hs)]
    exact .nil
  | case2 s _ hnone ih =>
    rw [scan_of_none hnone]
    exact ih
  | case3 s _ n hsome ih =>
    rw [Nat.max_eq_right (hh.pos hsome)] at ih
    rw [hh.scan_of_some hsome, List.pairwise_cons]
    refine ⟨?_, ih⟩
    intro m' hm'
    obtain ⟨i, _, -, rfl⟩ := hh.exists_of_mem_scan hm'
    exact (s.advance n).le_column_advance i

end Advances

/-- An expression whose preferred match at a position takes the characters that `hit` counts. -/
structure Expr.HasHits (r : Expr) (hit : Cursor → Option Nat) : Prop extends Advances hit where
  matchAt_eq : ∀ s, r.matchAt s = (hit s).map s.advance

namespace Expr.HasHits

variable {r : Expr} {hit : Cursor → Option Nat}

theorem search_eq (hr : r.HasHits hit) (before after : List Char) :
    r.search before after = (scan hit ⟨before, after⟩).head? := by
  induction after generalizing before with
  | nil =>
    rw [search, hr.matchAt_eq, hr.eq_none_of_after_eq_nil rfl, scan_of_after_eq_nil rfl]
    rfl
  | cons c after ih =>
    rw [search, hr.matchAt_eq]
    cases hs : hit ⟨before, c :: after⟩ with
    | none =>
      rw [scan_of_none hs, Cursor.advance_one, ← ih]
      rfl
    | some n =>
      rw [hr.scan_of_some hs]
      rfl

theorem find_eq (hr : r.HasHits hit) (text : List Char) :
    r.find text = (scan hit (.start text)).head? :=
  hr.search_eq [] text

theorem next_eq (hr : r.HasHits hit) (s : Cursor) (mayBeEmpty : Bool) :
    r.next s mayBeEmpty = (scan hit s).head? := by
  rw [next, hr.search_eq]
  cases hscan : scan hit s with
  | nil => rfl
  | cons m rest =>
    obtain ⟨i, n, -, hi, hm, -⟩ := hr.exists_of_scan_eq_cons hscan
    have hpos := hr.pos hi
    have hle := hr.le hi
    simp only [Cursor.after_advance, List.length_drop] at hle
    -- the match is not empty, so its end lies behind `s`
    have hstop : (m.stop.column == s.column) = false := by
      rw [hm, Cursor.column_advance (by omega), beq_eq_false_iff_ne]
      omega
    simp [hstop]

theorem findFrom_eq (hr : r.HasHits hit) (fuel : Nat) (s : Cursor) (mayBeEmpty : Bool)
    (h : s.after.length < fuel) : r.findFrom fuel s mayBeEmpty = scan hit s := by
  induction fuel generalizing s mayBeEmpty with
  | zero => omega
  | succ fuel ih =>
    rw [findFrom, hr.next_eq]
    cases hscan : scan hit s with
    | nil => rfl
    | cons m rest =>
      obtain ⟨i, n, -, hi, hm, hrest⟩ := hr.exists_of_scan_eq_cons hscan
      have hpos := hr.pos hi
      have hle := hr.le hi
      simp only [Cursor.after_advance, List.length_drop] at hle
      -- a match takes a character, so the fuel still covers what is left
      have hstop : m.stop.after.length < fuel := by
        rw [hm, Cursor.after_advance, List.length_drop]
        omega
      simp only [List.head?_cons, hrest, ih m.stop false hstop]

/-- All matches of an expression are those of the scan with its hits. -/
theorem findAll_eq (hr : r.HasHits hit) (text : List Char) :
    r.findAll text = scan hit (.start text) :=
  hr.findFrom_eq _ _ _ (Nat.lt_succ_self _)

end Expr.HasHits

end GeckScript.Regex
