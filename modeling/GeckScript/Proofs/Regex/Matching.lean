import GeckScript.Regex.Match
import Mathlib.Data.List.Forall2

/-!
What concatenations, alternations and single characters match, said of the text behind a position
instead of continuations. A list of characters matches where the text starts with it, up to case
folding if case is ignored.
-/

namespace GeckScript.Regex

open Text

namespace Cursor

def advance (s : Cursor) (n : Nat) : Cursor :=
  ⟨(s.after.take n).reverse ++ s.before, s.after.drop n⟩

@[simp] theorem before_start (text : List Char) : (start text).before = [] := rfl

@[simp] theorem after_start (text : List Char) : (start text).after = text := rfl

@[simp] theorem after_advance (s : Cursor) (n : Nat) : (s.advance n).after = s.after.drop n := rfl

theorem before_advance (s : Cursor) (n : Nat) :
    (s.advance n).before = (s.after.take n).reverse ++ s.before := rfl

/-- What stands in front of a position further on is the last character that was passed. -/
theorem head?_before_advance {s : Cursor} {n : Nat} (hpos : 0 < n) (hle : n ≤ s.after.length) :
    (s.advance n).before.head? = (s.after.take n).getLast? := by
  have hne : (s.after.take n).reverse ≠ [] := by
    rw [← List.length_pos_iff, List.length_reverse, List.length_take]
    omega
  rw [before_advance, List.head?_append_of_ne_nil _ hne, List.head?_reverse]

@[simp] theorem advance_zero (s : Cursor) : s.advance 0 = s := rfl

theorem advance_one {before after : List Char} {c : Char} :
    (⟨before, c :: after⟩ : Cursor).advance 1 = ⟨c :: before, after⟩ := rfl

@[simp] theorem advance_advance (s : Cursor) (m n : Nat) :
    (s.advance m).advance n = s.advance (m + n) := by
  simp only [advance, List.drop_drop, Cursor.mk.injEq, and_true]
  rw [List.take_add, List.reverse_append, List.append_assoc]

theorem column_advance {s : Cursor} {n : Nat} (h : n ≤ s.after.length) :
    (s.advance n).column = s.column + n := by
  simp only [column, before_advance, List.length_append, List.length_reverse, List.length_take]
  omega

theorem le_column_advance (s : Cursor) (n : Nat) : s.column ≤ (s.advance n).column := by
  simp [column, before_advance]

theorem advance_start_length (text : List Char) :
    (start text).advance text.length = ⟨text.reverse, []⟩ := by
  simp [start, advance]

theorem wordBefore_eq (s : Cursor) : s.wordBefore = s.before.head?.any isWordChar := by
  unfold wordBefore
  cases s.before <;> rfl

theorem wordAfter_eq (s : Cursor) : s.wordAfter = s.after.head?.any isWordChar := by
  unfold wordAfter
  cases s.after <;> rfl

end Cursor

def sameChar (ignoreCase : Bool) (c d : Char) : Bool :=
  if ignoreCase then sameFold c d else c == d

@[simp] theorem sameChar_refl (ignoreCase : Bool) (c : Char) : sameChar ignoreCase c c := by
  cases ignoreCase <;> simp [sameChar, sameFold]

theorem contains_ofChar (ignoreCase : Bool) (c d : Char) :
    (CharClass.ofChar ignoreCase c).contains d = sameChar ignoreCase c d := by
  cases ignoreCase
  · simp only [CharClass.ofChar, sameChar, CharClass.contains, Bool.false_eq_true, if_false]
    exact BEq.comm
  · simp only [CharClass.ofChar, sameChar, CharClass.contains, if_true, sameFold]
    exact BEq.comm

def startsAlike (ignoreCase : Bool) : List Char → List Char → Bool
  | [], _ => true
  | _ :: _, [] => false
  | c :: chars, d :: text => sameChar ignoreCase c d && startsAlike ignoreCase chars text

theorem startsAlike_false_eq (chars text : List Char) :
    startsAlike false chars text = chars.isPrefixOf text := by
  induction chars generalizing text with
  | nil => rfl
  | cons c chars ih =>
    cases text with
    | nil => rfl
    | cons d text => simp [startsAlike, sameChar, List.isPrefixOf, ih]

theorem startsAlike_iff {ignoreCase : Bool} {chars text : List Char} :
    startsAlike ignoreCase chars text ↔
      List.Forall₂ (fun c d => sameChar ignoreCase c d) chars (text.take chars.length) := by
  induction chars generalizing text with
  | nil => simp [startsAlike]
  | cons c chars ih =>
    cases text with
    | nil => simp [startsAlike]
    | cons d text => simp [startsAlike, ih]

theorem length_le_of_startsAlike {ignoreCase : Bool} {chars text : List Char}
    (h : startsAlike ignoreCase chars text) : chars.length ≤ text.length := by
  have hlen := (startsAlike_iff.1 h).length_eq
  rw [List.length_take] at hlen
  omega

theorem startsAlike_append (ignoreCase : Bool) (chars text : List Char) :
    startsAlike ignoreCase chars (chars ++ text) := by
  induction chars with
  | nil => rfl
  | cons c chars ih => simp [startsAlike, ih]

namespace Expr

variable {α : Type}

theorem run_one_literal (c : Char) (s : Cursor) (k : Cursor → Option α) :
    (one (.literal c)).run s k = if s.after.head? = some c then k (s.advance 1) else none := by
  obtain ⟨before, after⟩ := s
  cases after with
  | nil => rfl
  | cons d after =>
    simp only [run, CharClass.contains, List.head?_cons, Option.some.injEq, beq_iff_eq,
      Cursor.advance_one]

theorem run_wordBoundary (s : Cursor) (k : Cursor → Option α) :
    (assert .wordBoundary).run s k = if s.atBoundary then k s else none := rfl

theorem run_catAll_cons (r : Expr) (rest : List Expr) (s : Cursor) (k : Cursor → Option α) :
    (catAll (r :: rest)).run s k = r.run s fun u => (catAll rest).run u k := by
  cases rest <;> rfl

theorem run_catAll_append (rs ts : List Expr) (s : Cursor) (k : Cursor → Option α) :
    (catAll (rs ++ ts)).run s k = (catAll rs).run s fun u => (catAll ts).run u k := by
  induction rs generalizing s with
  | nil => rfl
  | cons r rs ih =>
    rw [List.cons_append, run_catAll_cons, run_catAll_cons]
    exact congrArg (r.run s) (funext fun u => ih u)

/-- An alternation tries its branches in order. -/
theorem run_altAll (rs : List Expr) (s : Cursor) (k : Cursor → Option α) :
    (altAll rs).run s k = rs.findSome? fun r => r.run s k := by
  induction rs with
  | nil =>
    -- without branches there is the empty class, which takes no character
    cases h : s.after <;> simp [altAll, run, h, CharClass.none, CharClass.contains]
  | cons r rs ih =>
    cases rs with
    | nil => cases h : r.run s k <;> simp [altAll, List.findSome?, h]
    | cons t rs =>
      rw [List.findSome?_cons, ← ih]
      cases h : r.run s k <;> simp [altAll, run, h]

/-- Characters in a row match where the text starts with them. -/
theorem run_catAll_chars (ignoreCase : Bool) (chars : List Char) (s : Cursor)
    (k : Cursor → Option α) :
    (catAll (chars.map fun c => one (.ofChar ignoreCase c))).run s k =
      if startsAlike ignoreCase chars s.after then k (s.advance chars.length) else none := by
  induction chars generalizing s with
  | nil => rfl
  | cons c chars ih =>
    obtain ⟨before, after⟩ := s
    rw [List.map_cons, run_catAll_cons]
    cases after with
    | nil => rfl
    | cons d after =>
      simp only [run, contains_ofChar, startsAlike]
      by_cases hc : sameChar ignoreCase c d
      · have hstep : (⟨before, d :: after⟩ : Cursor).advance (c :: chars).length =
            (⟨d :: before, after⟩ : Cursor).advance chars.length := by
          rw [List.length_cons, Nat.add_comm, ← Cursor.advance_advance, Cursor.advance_one]
        simp only [hc, ih, if_true, Bool.true_and, hstep]
      · simp [hc]

end Expr

end GeckScript.Regex
