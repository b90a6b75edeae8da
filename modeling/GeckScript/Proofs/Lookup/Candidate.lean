import GeckScript.Lookup.Page
import GeckScript.Proofs.Lookup.Column

/-!
The word that a selection asks for. A selected text without blanks asks for its first run of lookup
characters, a cursor for the run that it touches. Either way the word is such a run as a whole, so
selecting the word, or placing the cursor anywhere at it, asks for the same word again.
-/

namespace GeckScript

open Regex Text

theorem isLookupChar_of_isBlank {c : Char} (h : isBlank c) : isLookupChar c = false := by
  have hhyphen : c ≠ '-' := by
    rintro rfl
    exact absurd h (by decide)
  simp [isLookupChar, isWordChar_of_isBlank h, hhyphen]

namespace Regex.Found

theorem whole_eq (text : List Char) :
    whole text = ⟨.start text, (Cursor.start text).advance text.length⟩ := by
  rw [Cursor.advance_start_length, whole]

theorem chars_whole (text : List Char) : (whole text).chars = text := by
  have hle : text.length ≤ (Cursor.start text).after.length := Nat.le_refl _
  rw [whole_eq, chars_advance hle, Cursor.after_start, List.take_length]

theorem touches_whole_iff {text : List Char} {column : Nat} :
    (whole text).Touches column ↔ column ≤ text.length := by
  simp [whole, Touches, Cursor.column, Cursor.start]

/-- A text of characters of a class is a run of its own. -/
theorem isRun_whole {p : Char → Bool} {text : List Char} (hne : text ≠ [])
    (hp : ∀ c ∈ text, p c) : (whole text).IsRun p text := by
  have hrun : (Cursor.start text).run p = text := List.takeWhile_eq_self_iff.2 hp
  have hafter : text.head?.any p := by
    rw [List.head?_eq_some_head hne]
    exact hp _ (List.head_mem hne)
  rw [whole_eq]
  refine isRun_iff.2 ⟨rfl, hafter, ?_, rfl⟩
  dsimp only
  rw [hrun]

end Regex.Found

theorem find_wordRegex (text : List Char) :
    wordRegex.find text = (runs isLookupChar text).head? :=
  (hasHits_plus_one _).find_eq text

theorem candidateIn_eq_some_iff {text w : String} (hne : text ≠ "") :
    candidateIn wordRegex text = some w ↔
      (∀ c ∈ text.toList, isBlank c = false) ∧
        ∃ m : Found, m.IsFirstRun isLookupChar text.toList ∧ m.text = w := by
  have hempty : text.isEmpty = false := by simpa using hne
  rw [candidateIn, find_wordRegex, hempty, Bool.false_or]
  split
  · next hblank =>
    obtain ⟨c, hmem, hc⟩ := List.any_eq_true.1 hblank
    refine iff_of_false nofun fun ⟨hnone, _⟩ => ?_
    rw [hnone c hmem] at hc
    cases hc
  · next hblank =>
    have hnone : ∀ c ∈ text.toList, isBlank c = false := by simpa using hblank
    simp only [Option.map_eq_some_iff, Found.head?_runs_eq_some_iff]
    exact (and_iff_right hnone).symm

theorem candidateIn_eq_none_iff {text : String} (hne : text ≠ "") :
    candidateIn wordRegex text = none ↔
      (∃ c ∈ text.toList, isBlank c) ∨ ∀ c ∈ text.toList, isLookupChar c = false := by
  constructor
  · intro hnone
    by_contra hnot
    obtain ⟨hblank, hlookup⟩ := not_or.1 hnot
    have hblank : ∀ c ∈ text.toList, isBlank c = false := by simpa using hblank
    obtain ⟨c, hmem, hc⟩ : ∃ c ∈ text.toList, isLookupChar c := by simpa using hlookup
    -- with a lookup character there is a run, and so a first one
    obtain ⟨m, hrun⟩ := Found.exists_isRun_of_mem hmem hc
    cases hhead : (runs isLookupChar text.toList).head? with
    | none =>
      have hmem := Found.mem_runs_iff.2 hrun
      rw [List.head?_eq_none_iff.1 hhead] at hmem
      exact absurd hmem List.not_mem_nil
    | some first =>
      have hfirst := Found.head?_runs_eq_some_iff.1 hhead
      have hsome := (candidateIn_eq_some_iff hne).2 ⟨hblank, first, hfirst, rfl⟩
      rw [hnone] at hsome
      cases hsome
  · intro h
    rw [Option.eq_none_iff_forall_ne_some]
    intro w hw
    obtain ⟨hblank, m, ⟨hrun, -⟩, -⟩ := (candidateIn_eq_some_iff hne).1 hw
    rcases h with ⟨c, hmem, hc⟩ | hlookup
    · rw [hblank c hmem] at hc
      cases hc
    · have hhead := List.head_mem hrun.chars_ne_nil
      have hlookup := hlookup _ (hrun.chars_infix.subset hhead)
      rw [hrun.forall_chars _ hhead] at hlookup
      cases hlookup

namespace Selection

/-- What a selection asks for is a run, in the selected text or in the line. -/
theorem exists_isRun_of_candidate {s : Selection} {w : String}
    (h : s.candidate wordRegex = some w) :
    ∃ m : Found, m.IsRun isLookupChar (if s.text = "" then s.line else s.text).toList ∧
      m.text = w := by
  rw [candidate] at h
  by_cases hempty : s.text = ""
  · simp only [hempty, if_true] at h ⊢
    obtain ⟨m, hrun, -, htext⟩ := wordAt_eq_some_iff.1 h
    exact ⟨m, hrun, htext⟩
  · have hisEmpty : s.text.isEmpty = false := by simpa using hempty
    rw [hisEmpty] at h
    obtain ⟨-, m, ⟨hrun, -⟩, htext⟩ := (candidateIn_eq_some_iff hempty).1 h
    rw [if_neg hempty]
    exact ⟨m, hrun, htext⟩

theorem text_whole (w : String) : (Found.whole w.toList).text = w := by
  rw [Found.text, Found.chars_whole, String.ofList_toList]

section Word

variable {w : String} (hne : w ≠ "") (hlookup : ∀ c ∈ w.toList, isLookupChar c)

include hne hlookup

theorem isRun_whole_of_isLookupChar : (Found.whole w.toList).IsRun isLookupChar w.toList :=
  Found.isRun_whole (by simpa using hne) hlookup

/-- A selected word asks for itself. -/
theorem candidate_ofText : (ofText w).candidate wordRegex = some w := by
  have hisEmpty : w.isEmpty = false := by simpa using hne
  have hrun := isRun_whole_of_isLookupChar hne hlookup
  show (if w.isEmpty then _ else candidateIn wordRegex w) = _
  rw [hisEmpty]
  refine (candidateIn_eq_some_iff hne).2 ⟨?_, _, ⟨hrun, fun _ _ => Nat.zero_le _⟩, text_whole w⟩
  intro c hc
  by_contra hblank
  rw [Bool.not_eq_false] at hblank
  have hnot := isLookupChar_of_isBlank hblank
  rw [hlookup c hc] at hnot
  cases hnot

/-- A cursor anywhere at a word, or behind it, asks for the word. -/
theorem candidate_ofCursor (column : Nat) : (ofCursor w column).candidate wordRegex = some w := by
  have hrun := isRun_whole_of_isLookupChar hne hlookup
  refine wordAt_eq_some_iff.2 ⟨_, hrun, Found.touches_whole_iff.2 ?_, text_whole w⟩
  rw [String.length_toList]
  exact Nat.min_le_right _ _

end Word

/-- A selected text asks for a word by itself, whatever the line: for none exactly if it has a blank
or no lookup character, and for its first run of lookup characters otherwise. What any selection
asks for is a word of lookup characters from the selected text or the line, and a selection of that
word or a cursor at any column of it asks for the word again, and so for the same page. -/
theorem candidate_asks_again (s : Selection) :
    (s.text ≠ "" →
      (∀ line column, (Selection.mk s.text line column).candidate wordRegex =
        s.candidate wordRegex) ∧
      (s.candidate wordRegex = none ↔
        (∃ c ∈ s.text.toList, isBlank c) ∨ ∀ c ∈ s.text.toList, isLookupChar c = false) ∧
      ∀ w, s.candidate wordRegex = some w →
        ∃ m : Found, m.IsFirstRun isLookupChar s.text.toList ∧ m.text = w) ∧
    ∀ w, s.candidate wordRegex = some w →
      w ≠ "" ∧ (∀ c ∈ w.toList, isLookupChar c) ∧
      w.toList <:+: (if s.text = "" then s.line else s.text).toList ∧
      (ofText w).candidate wordRegex = some w ∧
      (∀ k, (ofCursor w k).candidate wordRegex = some w) ∧
      (ofText w).page wordRegex = s.page wordRegex ∧
      ∀ k, (ofCursor w k).page wordRegex = s.page wordRegex := by
  refine ⟨fun hne => ?_, fun w h => ?_⟩
  · have hisEmpty : s.text.isEmpty = false := by simpa using hne
    have hcandidate (line : String) (column : Nat) :
        (Selection.mk s.text line column).candidate wordRegex = candidateIn wordRegex s.text := by
      show (if s.text.isEmpty then _ else candidateIn wordRegex s.text) = _
      rw [hisEmpty]
      rfl
    have hself : s.candidate wordRegex = candidateIn wordRegex s.text := hcandidate s.line s.column
    rw [hself]
    refine ⟨hcandidate, candidateIn_eq_none_iff hne, fun w h => ?_⟩
    exact ((candidateIn_eq_some_iff hne).1 h).2
  · obtain ⟨m, hrun, rfl⟩ := exists_isRun_of_candidate h
    have hchars : m.text.toList = m.chars := String.toList_ofList
    have hlookup : ∀ c ∈ m.text.toList, isLookupChar c := by
      rw [hchars]
      exact hrun.forall_chars
    have hne : m.text ≠ "" := by
      intro hnil
      rw [hnil] at hchars
      exact hrun.chars_ne_nil hchars.symm
    have htext := candidate_ofText hne hlookup
    have hcursor := candidate_ofCursor hne hlookup
    refine ⟨hne, hlookup, ?_, htext, hcursor, ?_, fun k => ?_⟩
    · rw [hchars]
      exact hrun.chars_infix
    · rw [page, page, htext, h]
    · rw [page, page, hcursor k, h]

end Selection

end GeckScript
