import GeckScript.Proofs.Regex.Runs
import Mathlib.Data.List.Pairwise

/-!
The words of a text are its maximal runs of word characters. A scan that takes the whole run
wherever one starts finds them all, since it never stops inside a run. There is a boundary at the
ends of a word only, so a run of characters of a narrower class, such as digits, has none inside.
-/

namespace GeckScript.Regex

open Text

namespace Cursor

def word (s : Cursor) : List Char :=
  s.after.takeWhile isWordChar

theorem word_eq_run (s : Cursor) : s.word = s.run isWordChar := rfl

theorem take_length_word (s : Cursor) : s.after.take s.word.length = s.word :=
  s.take_length_run

theorem word_eq_nil_iff {s : Cursor} : s.word = [] ↔ s.wordAfter = false := by
  rw [word_eq_run, run_eq_nil_iff, wordAfter_eq]

theorem wordAfter_advance_word (s : Cursor) : (s.advance s.word.length).wordAfter = false := by
  rw [wordAfter_eq]
  exact s.any_head?_after_advance_run

section Take

variable {s : Cursor} {n : Nat} (hpos : 0 < n) (hle : n ≤ s.after.length)
  (hword : ∀ c ∈ s.after.take n, isWordChar c)

include hpos hle hword

theorem wordAfter_of_take : s.wordAfter := by
  rw [wordAfter_eq]
  exact any_head?_after_of_take hpos hle hword

theorem wordBefore_advance : (s.advance n).wordBefore := by
  rw [wordBefore_eq]
  exact any_head?_before_advance hpos hle hword

end Take

/-- Every position further on that is not behind the word has a word character in front of it. -/
theorem wordBefore_advance_of_le {s : Cursor} {n : Nat} (hpos : 0 < n) (hle : n ≤ s.word.length) :
    (s.advance n).wordBefore := by
  rw [wordBefore_eq]
  exact any_head?_before_advance_of_le hpos hle

def isInside (s : Cursor) : Bool :=
  s.wordBefore && s.wordAfter

theorem isInside_eq_parts (s : Cursor) : s.isInside = s.parts isWordChar := by
  rw [isInside, wordBefore_eq, wordAfter_eq, parts]

theorem isInside_advance_one {s : Cursor} (h : s.wordAfter = false) :
    (s.advance 1).isInside = false := by
  rw [wordAfter_eq] at h
  rw [isInside_eq_parts, parts_advance_one h]

theorem isInside_advance_word (s : Cursor) : (s.advance s.word.length).isInside = false := by
  rw [isInside_eq_parts]
  exact s.parts_advance_run

/-! ### Boundaries around a run of word characters -/

section Boundary

variable {p : Char → Bool} (hp : ∀ {c}, p c → isWordChar c) {s : Cursor}

include hp

theorem any_isWordChar {head : Option Char} (h : head.any p) : head.any isWordChar := by
  cases head with
  | none => cases h
  | some c => exact hp h

theorem wordBefore_of_any (h : s.before.head?.any p) : s.wordBefore := by
  rw [wordBefore_eq]
  exact any_isWordChar hp h

theorem wordAfter_of_any (h : s.after.head?.any p) : s.wordAfter := by
  rw [wordAfter_eq]
  exact any_isWordChar hp h

/-- Inside the run there is no boundary. -/
theorem atBoundary_inside {n : Nat} (hpos : 0 < n) (hlt : n < (s.run p).length) :
    (s.advance n).atBoundary = false := by
  have hbefore := wordBefore_of_any hp (any_head?_before_advance_of_le hpos hlt.le)
  have hafter := wordAfter_of_any hp (any_head?_after_advance_of_lt hlt)
  rw [atBoundary, hbefore, hafter]
  rfl

/-- Behind the run there is a boundary unless the word goes on. -/
theorem atBoundary_advance_run (hne : s.run p ≠ []) :
    (s.advance (s.run p).length).atBoundary = !(s.advance (s.run p).length).wordAfter := by
  have hpos := List.length_pos_iff.2 hne
  have hbefore := wordBefore_of_any hp (any_head?_before_advance_of_le hpos (Nat.le_refl _))
  rw [atBoundary, hbefore, Bool.true_bne]

/-- In front of the run there is a boundary unless the word starts further left. -/
theorem atBoundary_of_run_ne_nil (hne : s.run p ≠ []) : s.atBoundary = !s.wordBefore := by
  have hany : s.after.head?.any p := by
    by_contra hnot
    exact hne (run_eq_nil_iff.2 (by simpa using hnot))
  rw [atBoundary, wordAfter_of_any hp hany, Bool.bne_true]

end Boundary

end Cursor

/-- The length of the word that starts at a position, if it is not inside a word. -/
def wordHit (s : Cursor) : Option Nat :=
  if s.wordAfter then some s.word.length else none

def words (text : List Char) : List Found :=
  scan wordHit (.start text)

theorem wordHit_eq_runHit : wordHit = runHit isWordChar := by
  funext s
  rw [wordHit, runHit, Cursor.wordAfter_eq, Cursor.word_eq_run]

theorem words_eq_runs (text : List Char) : words text = runs isWordChar text := by
  rw [words, wordHit_eq_runHit, runs]

theorem wordHit_eq_some_iff {s : Cursor} {n : Nat} :
    wordHit s = some n ↔ s.wordAfter ∧ n = s.word.length := by
  rw [wordHit_eq_runHit, runHit_eq_some_iff, Cursor.wordAfter_eq, Cursor.word_eq_run]

theorem wordHit_eq_none_iff {s : Cursor} : wordHit s = none ↔ s.wordAfter = false := by
  rw [wordHit_eq_runHit, runHit_eq_none_iff, Cursor.wordAfter_eq]

theorem advances_wordHit : Advances wordHit :=
  wordHit_eq_runHit ▸ advances_runHit

/-- A match that is a whole run of word characters of a text. -/
structure Found.IsWord (text : List Char) (m : Found) : Prop where
  text_eq : m.start.text = text
  stop_eq : m.stop = m.start.advance m.length
  chars_ne_nil : m.chars ≠ []
  isWordChar : ∀ c ∈ m.chars, isWordChar c
  wordBefore : m.start.wordBefore = false
  wordAfter : m.stop.wordAfter = false

theorem Found.chars_eq_word {s : Cursor} :
    (⟨s, s.advance s.word.length⟩ : Found).chars = s.word :=
  chars_eq_run

theorem Found.isWord_iff_isRun {text : List Char} {m : Found} :
    m.IsWord text ↔ m.IsRun Text.isWordChar text := by
  constructor
  · rintro ⟨htext, hstop, hne, hchars, hbefore, hafter⟩
    rw [Cursor.wordBefore_eq] at hbefore
    rw [Cursor.wordAfter_eq] at hafter
    exact ⟨htext, hstop, hne, hchars, hbefore, hafter⟩
  · rintro ⟨htext, hstop, hne, hchars, hbefore, hafter⟩
    rw [← Cursor.wordBefore_eq] at hbefore
    rw [← Cursor.wordAfter_eq] at hafter
    exact ⟨htext, hstop, hne, hchars, hbefore, hafter⟩

/-- The words of a text are the runs of word characters that go on at neither end. -/
theorem mem_words_iff {text : List Char} {m : Found} : m ∈ words text ↔ m.IsWord text := by
  rw [words_eq_runs, Found.mem_runs_iff, Found.isWord_iff_isRun]

def Found.IsApart (m m' : Found) : Prop :=
  m.stop.column ≤ m'.start.column ∨ m'.stop.column ≤ m.start.column

instance : Std.Symm Found.IsApart where
  symm _ _ h := h.symm

theorem isApart_of_mem_words {text : List Char} {m m' : Found} (hm : m ∈ words text)
    (hm' : m' ∈ words text) (hne : m ≠ m') : m.IsApart m' := by
  have hpairwise : (words text).Pairwise Found.IsApart :=
    (advances_wordHit.pairwise_scan _).imp fun h => .inl h
  exact hpairwise.forall hm hm' hne

end GeckScript.Regex
