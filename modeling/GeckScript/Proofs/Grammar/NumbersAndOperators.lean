import GeckScript.Grammar.Basic
import GeckScript.Proofs.Regex.Repetition
import GeckScript.Proofs.Regex.Words
import GeckScript.Proofs.Text.Word

/-!
The authored rules for numbers and for operators. A number is a run of digits, with a fraction if
one follows, that no other word character touches. Inside a run of digits there is no word boundary,
so a pattern that ends at one takes whole runs only. An operator of two characters is tried before
one of a single character.
-/

namespace GeckScript

open Regex Text

/-! ### Numbers -/

/-- Whether no word character follows on the next `n` characters. -/
def endsWord (s : Cursor) (n : Nat) : Bool :=
  !(s.advance n).wordAfter

def fractionLength? (s : Cursor) : Option Nat :=
  if s.after.head? = some '.' ∧ (s.advance 1).run isDecimalDigit ≠ [] then
    some (1 + ((s.advance 1).run isDecimalDigit).length)
  else none

/-- The length of the number at a position, if digits start a word there: all the digits and the
fraction behind them, or the digits alone if a word goes on behind the fraction. -/
def numberHit (s : Cursor) : Option Nat :=
  let whole := (s.run isDecimalDigit).length
  if s.wordBefore || whole == 0 then none
  else
    match fractionLength? (s.advance whole) with
    | some n => (Option.guard (endsWord s) (whole + n)).or (Option.guard (endsWord s) whole)
    | none => Option.guard (endsWord s) whole

theorem le_of_fractionLength? {s : Cursor} {n : Nat} (h : fractionLength? s = some n) :
    n ≤ s.after.length := by
  unfold fractionLength? at h
  split at h
  · rename_i hpoint
    cases h
    obtain ⟨rest, hrest⟩ := List.head?_eq_some_iff.1 hpoint.1
    have hle := (s.advance 1).length_run_le (p := isDecimalDigit)
    rw [Cursor.after_advance, List.length_drop] at hle
    rw [hrest, List.length_cons] at hle ⊢
    omega
  · cases h

/-- A number takes a character at least, and has no word character next to it. -/
theorem of_numberHit {s : Cursor} {n : Nat} (h : numberHit s = some n) :
    0 < n ∧ n ≤ s.after.length ∧ s.wordBefore = false ∧ (s.advance n).wordAfter = false := by
  have hle := s.length_run_le (p := isDecimalDigit)
  have hends {k : Nat} (hk : Option.guard (endsWord s) k = some n) :
      k = n ∧ (s.advance n).wordAfter = false := by
    obtain ⟨rfl, hword⟩ := Option.guard_eq_some_iff.1 hk
    exact ⟨rfl, by simpa [endsWord] using hword⟩
  simp only [numberHit] at h
  split at h
  · cases h
  · rename_i hstart
    simp only [Bool.or_eq_true, beq_iff_eq, not_or, Bool.not_eq_true] at hstart
    obtain ⟨hbefore, hwhole⟩ := hstart
    cases hfraction : fractionLength? (s.advance (s.run isDecimalDigit).length) with
    | none =>
      rw [hfraction] at h
      obtain ⟨rfl, hafter⟩ := hends h
      exact ⟨by omega, hle, hbefore, hafter⟩
    | some k =>
      have hk := le_of_fractionLength? hfraction
      rw [Cursor.after_advance, List.length_drop] at hk
      rw [hfraction] at h
      rcases Option.or_eq_some_iff.1 h with h | ⟨-, h⟩
      · obtain ⟨rfl, hafter⟩ := hends h
        exact ⟨by omega, by omega, hbefore, hafter⟩
      · obtain ⟨rfl, hafter⟩ := hends h
        exact ⟨by omega, hle, hbefore, hafter⟩

theorem advances_numberHit : Advances numberHit where
  pos h := (of_numberHit h).1
  le h := (of_numberHit h).2.1

/-- A number is no proper part of a run of word characters of any class. -/
theorem eq_of_covers_number {p : Char → Bool} (hp : ∀ {c}, p c → isWordChar c)
    {text : List Char} {m w : Found} (hm : m ∈ scan numberHit (.start text)) (hw : w.IsRun p text)
    (hfrom : w.start.column ≤ m.start.column) (hto : m.stop.column ≤ w.stop.column) : w = m := by
  obtain ⟨i, n, hn, rfl⟩ := advances_numberHit.exists_of_mem_scan hm
  obtain ⟨-, hle, hbefore, hafter⟩ := of_numberHit hn
  have htext : ((Cursor.start text).advance i).text = text := Cursor.text_advance _ i
  rw [← htext] at hw
  rw [← Cursor.advance_advance] at hto ⊢
  refine hw.eq_of_covers hle hfrom hto ?_ ?_
  · by_contra hany
    rw [Cursor.wordBefore_of_any hp (by simpa using hany)] at hbefore
    cases hbefore
  · by_contra hany
    rw [Cursor.wordAfter_of_any hp (by simpa using hany)] at hafter
    cases hafter

def fractionExpr : Expr :=
  .catAll [.one (.literal '.'), .plus true (.one .digit)]

def numberExpr : Expr :=
  .catAll [.assert .wordBoundary, .plus true (.one .digit), .optional true fractionExpr,
    .assert .wordBoundary]

section Number

variable {α : Type} {s : Cursor}

theorem guard_endsWord_advance (m n : Nat) :
    (Option.guard (endsWord (s.advance m)) n).map (s.advance m).advance =
      (Option.guard (endsWord s) (m + n)).map s.advance := by
  have hends : endsWord (s.advance m) n = endsWord s (m + n) := by
    rw [endsWord, Cursor.advance_advance, endsWord]
  rw [Option.guard, Option.guard, hends]
  cases endsWord s (m + n) with
  | false => rfl
  | true =>
    show some ((s.advance m).advance n) = some (s.advance (m + n))
    rw [Cursor.advance_advance]

/-- If the rest fails inside the digits, all of them are taken or none. -/
theorem run_digits {k : Cursor → Option α}
    (h : ∀ j, 0 < j → j < (s.run isDecimalDigit).length → k (s.advance j) = none) :
    (Expr.plus true (.one .digit)).run s k =
      if s.run isDecimalDigit = [] then none else k (s.advance (s.run isDecimalDigit).length) :=
  run_plus_one_of_none h

/-- A boundary behind digits is where no word goes on. -/
theorem run_wordBoundary_behind_digits (hne : s.run isDecimalDigit ≠ []) :
    (Expr.assert .wordBoundary).run (s.advance (s.run isDecimalDigit).length) some =
      (Option.guard (endsWord s) (s.run isDecimalDigit).length).map s.advance := by
  rw [Expr.run_wordBoundary, Cursor.atBoundary_advance_run isWordChar_of_isDecimalDigit hne,
    Option.guard, endsWord]
  cases (s.advance (s.run isDecimalDigit).length).wordAfter <;> rfl

theorem run_wordBoundary_inside {j : Nat} (hpos : 0 < j)
    (hlt : j < (s.run isDecimalDigit).length) :
    (Expr.assert .wordBoundary).run (s.advance j) some = none := by
  rw [Expr.run_wordBoundary, Cursor.atBoundary_inside isWordChar_of_isDecimalDigit hpos hlt]
  rfl

/-- A fraction up to a boundary has all the digits. -/
theorem run_fractionExpr :
    fractionExpr.run s (fun u => (Expr.assert .wordBoundary).run u some) =
      (fractionLength? s).bind fun n => (Option.guard (endsWord s) n).map s.advance := by
  rw [fractionExpr, Expr.run_catAll_cons, Expr.run_one_literal, fractionLength?]
  by_cases hpoint : s.after.head? = some '.'
  · rw [if_pos hpoint, Expr.catAll, run_digits fun j => run_wordBoundary_inside]
    by_cases hdigits : (s.advance 1).run isDecimalDigit = []
    · rw [if_pos hdigits, if_neg fun h => h.2 hdigits]
      rfl
    · rw [if_neg hdigits, if_pos ⟨hpoint, hdigits⟩, run_wordBoundary_behind_digits hdigits,
        guard_endsWord_advance, Option.bind_some]
  · rw [if_neg hpoint, if_neg fun h => hpoint h.1]
    rfl

/-- Behind the digits the pattern takes a fraction up to a boundary, or nothing at a boundary. -/
theorem run_behind_digits (u : Cursor) :
    (Expr.catAll [.optional true fractionExpr, .assert .wordBoundary]).run u some =
      (((fractionLength? u).bind fun n => (Option.guard (endsWord u) n).map u.advance) <|>
        (Expr.assert .wordBoundary).run u some) := by
  rw [← run_fractionExpr]
  rfl

/-- No fraction starts at a digit. -/
theorem fractionLength?_inside {j : Nat} (hlt : j < (s.run isDecimalDigit).length) :
    fractionLength? (s.advance j) = none := by
  have hdigit := Cursor.any_head?_after_advance_of_lt hlt
  rw [fractionLength?, if_neg]
  rintro ⟨hpoint, -⟩
  rw [hpoint] at hdigit
  revert hdigit
  decide

/-- The pattern finds at a position the number that starts there. -/
theorem hasHits_numberExpr : numberExpr.HasHits numberHit where
  toAdvances := advances_numberHit
  matchAt_eq := by
    intro s
    -- no shorter front of the digits does, as neither a fraction nor a boundary follows on it
    have hinside : ∀ j, 0 < j → j < (s.run isDecimalDigit).length →
        (Expr.catAll [.optional true fractionExpr, .assert .wordBoundary]).run
          (s.advance j) some = none := by
      intro j hpos hlt
      rw [run_behind_digits, fractionLength?_inside hlt, run_wordBoundary_inside hpos hlt]
      rfl
    rw [Expr.matchAt, numberExpr, Expr.run_catAll_cons, Expr.run_wordBoundary, Expr.run_catAll_cons,
      run_digits hinside]
    by_cases hdigits : s.run isDecimalDigit = []
    · have hhit : numberHit s = none := by
        simp [numberHit, hdigits]
      rw [if_pos hdigits, hhit, ite_self]
      rfl
    · -- in front of digits there is a boundary unless they go on a word
      rw [if_neg hdigits, run_behind_digits, run_wordBoundary_behind_digits hdigits,
        Cursor.atBoundary_of_run_ne_nil isWordChar_of_isDecimalDigit hdigits]
      have hlength : ((s.run isDecimalDigit).length == 0) = false := by simpa using hdigits
      rw [numberHit, hlength, Bool.or_false]
      cases s.wordBefore with
      | true => rfl
      | false =>
        rw [if_neg Bool.false_ne_true]
        cases fractionLength? (s.advance (s.run isDecimalDigit).length) with
        | none => rfl
        | some n =>
          show ((Option.guard (endsWord _) n).map _ <|> _) = _
          rw [guard_endsWord_advance, Option.map_or, Option.orElse_eq_orElse, Option.orElse_eq_or]

end Number

/-! ### Operators -/

def longOperators : List String :=
  ["==", "!=", "<=", ">=", "&&", "||"]

def shortOperators : List Char :=
  ['-', '+', '*', '/', '<', '>', '=', '!']

def longOperatorHit (s : Cursor) : Option Nat :=
  (longOperators.find? (·.toList.isPrefixOf s.after)).map String.length

/-- The length of the operator at a position. One of a single character is taken only where none of
two characters stands. -/
def operatorHit (s : Cursor) : Option Nat :=
  (longOperatorHit s).or (charHit (shortOperators.contains ·) s)

theorem length_of_mem_longOperators {op : String} (h : op ∈ longOperators) : op.length = 2 := by
  revert op
  decide

theorem of_longOperatorHit {s : Cursor} {n : Nat} (h : longOperatorHit s = some n) :
    n = 2 ∧ n ≤ s.after.length := by
  obtain ⟨op, hop, rfl⟩ := Option.map_eq_some_iff.1 h
  have hstands : op.toList.isPrefixOf s.after := (List.find?_eq_some_iff_append.1 hop).1
  exact ⟨length_of_mem_longOperators (List.mem_of_find?_eq_some hop),
    (List.isPrefixOf_iff_prefix.1 hstands).length_le⟩

theorem advances_longOperatorHit : Advances longOperatorHit where
  pos := by
    intro s n hn
    have htwo := (of_longOperatorHit hn).1
    omega
  le hn := (of_longOperatorHit hn).2

theorem advances_operatorHit : Advances operatorHit :=
  advances_longOperatorHit.or (advances_charHit _)

/-- Where an operator of two characters stands, the match is one. -/
theorem operatorHit_ne_one {s : Cursor} {op : String} (hop : op ∈ longOperators)
    (hstands : op.toList <+: s.after) : operatorHit s ≠ some 1 := by
  have hsome : (longOperatorHit s).isSome := by
    rw [longOperatorHit, Option.isSome_map, List.find?_isSome]
    exact ⟨op, hop, List.isPrefixOf_iff_prefix.2 hstands⟩
  obtain ⟨n, hn⟩ := Option.isSome_iff_exists.1 hsome
  have htwo := (of_longOperatorHit hn).1
  rw [operatorHit, hn, Option.some_or, htwo]
  decide

def operatorExpr : Expr :=
  .altAll ((longOperators.map fun op => .catAll (op.toList.map fun c => .one (.ofChar false c))) ++
    [.one (.unionAll (shortOperators.map .literal))])

theorem contains_unionAll_literal (chars : List Char) (c : Char) :
    (CharClass.unionAll (chars.map .literal)).contains c = chars.contains c := by
  induction chars with
  | nil => rfl
  | cons d chars ih =>
    rw [List.contains_cons, ← ih]
    cases chars with
    | nil =>
      -- the class of one literal is that literal, without a union with the empty class
      simp only [List.map, CharClass.unionAll, CharClass.none, CharClass.contains, Bool.not_true,
        Bool.or_false]
    | cons e chars => rfl

theorem hasHits_operatorExpr : operatorExpr.HasHits operatorHit where
  toAdvances := advances_operatorHit
  matchAt_eq := by
    intro s
    -- a branch for a long operator matches where that operator stands
    have hlong : (fun r : Expr => r.run s some) ∘
        (fun op : String => Expr.catAll (op.toList.map fun c => .one (.ofChar false c))) =
        Option.map s.advance ∘ Option.map String.length ∘
          Option.guard fun op : String => op.toList.isPrefixOf s.after := by
      funext op
      simp only [Function.comp_apply, Expr.run_catAll_chars, Option.guard, startsAlike_false_eq,
        String.length_toList]
      split <;> rfl
    have hshort : (CharClass.unionAll (shortOperators.map .literal)).contains =
        (shortOperators.contains ·) :=
      funext (contains_unionAll_literal shortOperators)
    rw [Expr.matchAt, operatorExpr, Expr.run_altAll, List.findSome?_append, List.findSome?_map,
      hlong, ← List.map_findSome?, ← List.map_findSome?, List.findSome?_guard,
      List.findSome?_singleton, (hasOneWay_one _).run_eq, hshort, operatorHit, longOperatorHit,
      Option.map_or]
    cases charHit (shortOperators.contains ·) s <;> rfl

/-- The authored rules for numbers and for operators match in any text what a reader finds that
takes the longest literal at each place. So a number is no proper part of a run of digits or of a
word, and an operator of one character is not the start of one of two characters. -/
theorem numbers_and_operators_take_longest :
    ∃ number operator r t, Grammar.initial.find? "constant.numeric.geck" = some number ∧
      compilePattern number.source = .ok r ∧
      Grammar.initial.find? "keyword.operator.geck" = some operator ∧
      compilePattern operator.source = .ok t ∧
      ∀ text : String,
        (r.findAll text.toList = scan numberHit (.start text.toList) ∧
          ∀ m ∈ r.findAll text.toList, ∀ w : Found,
            (w.IsRun isDecimalDigit text.toList ∨ w.IsWord text.toList) →
              w.start.column ≤ m.start.column → m.stop.column ≤ w.stop.column → w = m) ∧
        t.findAll text.toList = scan operatorHit (.start text.toList) ∧
          ∀ m ∈ t.findAll text.toList, m.length = 1 →
            ∀ op ∈ longOperators, ¬ op.toList <+: m.start.after := by
  refine ⟨_, _, numberExpr, operatorExpr, rfl, rfl, rfl, rfl, fun text => ⟨⟨?_, ?_⟩, ?_, ?_⟩⟩
  · exact hasHits_numberExpr.findAll_eq text.toList
  · intro m hm w hw hfrom hto
    rw [hasHits_numberExpr.findAll_eq] at hm
    rcases hw with hw | hw
    · exact eq_of_covers_number isWordChar_of_isDecimalDigit hm hw hfrom hto
    · exact eq_of_covers_number id hm (Found.isWord_iff_isRun.1 hw) hfrom hto
  · exact hasHits_operatorExpr.findAll_eq text.toList
  · intro m hm hlength op hop hstands
    rw [hasHits_operatorExpr.findAll_eq] at hm
    obtain ⟨i, n, hn, rfl⟩ := advances_operatorHit.exists_of_mem_scan hm
    rw [← Cursor.advance_advance, Found.length_advance (advances_operatorHit.le hn)] at hlength
    subst hlength
    exact operatorHit_ne_one hop hstands hn

/-- Where a word goes on behind the fraction, the number ends in front of the point. -/
example : (numberExpr.findAll "1.5x 1.2.3".toList).map (String.ofList ·.chars) =
    ["1", "1.2", "3"] := by
  decide +kernel

end GeckScript
