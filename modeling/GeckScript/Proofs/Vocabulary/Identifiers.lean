import GeckScript.Proofs.Regex.Words
import GeckScript.Proofs.Vocabulary.Edges

/-!
Tokens that are identifiers: word characters throughout, with a boundary at both edges. Such a
token stands just where a whole word of the text is spelled like it, so the matches of identifiers
are the words of a text that are listed.
-/

namespace GeckScript

open Regex Text

structure IsIdentifier (token : String) : Prop where
  ne_nil : token.toList ≠ []
  word : ∀ c ∈ token.toList, isWordChar c
  bounded : ∀ c ∈ token.toList, needsBoundary c

theorem IsIdentifier.length_pos {token : String} (h : IsIdentifier token) : 0 < token.length := by
  rw [← String.length_toList]
  exact List.length_pos_iff.2 h.ne_nil

/-- An identifier asks for a boundary at both edges. -/
theorem IsIdentifier.standsAt_eq {token : String} (h : IsIdentifier token) (ignoreCase : Bool)
    (s : Cursor) :
    standsAt ignoreCase s token = (startsAlike ignoreCase token.toList s.after &&
      s.atBoundary && (s.advance token.length).atBoundary) := by
  have hfirst := h.bounded _ (List.head_mem h.ne_nil)
  have hlast := h.bounded _ (List.getLast_mem h.ne_nil)
  rw [standsAt, List.head?_eq_some_head h.ne_nil, List.getLast?_eq_some_getLast h.ne_nil]
  simp [edgeFits, hfirst, hlast]

/-- Characters as far as they count for matching. -/
def spelling (ignoreCase : Bool) (chars : List Char) : List Char :=
  if ignoreCase then chars.map fold else chars

theorem spelling_eq_iff {ignoreCase : Bool} {chars text : List Char} :
    spelling ignoreCase chars = spelling ignoreCase text ↔
      List.Forall₂ (fun c d => sameChar ignoreCase c d) chars text := by
  cases ignoreCase with
  | false => simp [spelling, sameChar]
  | true =>
    simp only [spelling, sameChar, if_true, sameFold, beq_iff_eq]
    rw [← List.forall₂_eq_eq_eq, List.forall₂_map_left_iff, List.forall₂_map_right_iff]

theorem length_eq_of_spelling_eq {ignoreCase : Bool} {chars text : List Char}
    (h : spelling ignoreCase chars = spelling ignoreCase text) : chars.length = text.length :=
  (spelling_eq_iff.1 h).length_eq

/-- A spelling without regard to case is less than one with it. -/
theorem map_fold_eq_of_spelling_eq {ignoreCase : Bool} {chars text : List Char}
    (h : spelling ignoreCase chars = spelling ignoreCase text) :
    chars.map fold = text.map fold := by
  cases ignoreCase with
  | false => exact congrArg (List.map fold) h
  | true => exact h

theorem IsIdentifier.standsAt_iff {token : String} (h : IsIdentifier token) (ignoreCase : Bool)
    (s : Cursor) :
    standsAt ignoreCase s token ↔
      s.wordBefore = false ∧ spelling ignoreCase token.toList = spelling ignoreCase s.word := by
  have hpos := h.length_pos
  rw [h.standsAt_eq, Bool.and_eq_true, Bool.and_eq_true, Cursor.atBoundary, Cursor.atBoundary]
  constructor
  · rintro ⟨⟨halike, hstart⟩, hstop⟩
    have hsame := startsAlike_iff.1 halike
    have hle := length_le_of_startsAlike halike
    rw [String.length_toList] at hsame hle
    have hchars := forall_mem_of_sameChars (fun _ => isWordChar_of_isLetter) hsame h.word
    rw [Cursor.wordAfter_of_take hpos hle hchars] at hstart
    rw [Cursor.wordBefore_advance hpos hle hchars] at hstop
    have hout : (s.after.drop token.length).head?.any isWordChar = false := by
      rw [← Cursor.after_advance, ← Cursor.wordAfter_eq]
      simpa using hstop
    -- the boundary behind the token lets no word character follow
    have hword : s.word = s.after.take token.length := takeWhile_eq_take hchars hout
    rw [hword]
    exact ⟨by simpa using hstart, spelling_eq_iff.2 hsame⟩
  · rintro ⟨hbefore, hspelling⟩
    have hlength : token.length = s.word.length := by
      rw [← String.length_toList]
      exact length_eq_of_spelling_eq hspelling
    have hafter : s.wordAfter := by
      by_contra hnot
      rw [hlength, Cursor.word_eq_nil_iff.2 (by simpa using hnot)] at hpos
      cases hpos
    refine ⟨⟨startsAlike_iff.2 ?_, ?_⟩, ?_⟩
    · rw [String.length_toList, hlength, s.take_length_word]
      exact spelling_eq_iff.1 hspelling
    · rw [hbefore, hafter]
      rfl
    · rw [hlength, Cursor.wordBefore_advance_of_le (hlength ▸ hpos) (Nat.le_refl _),
        s.wordAfter_advance_word]
      rfl

def isListed (ignoreCase : Bool) (tokens : List String) (word : List Char) : Bool :=
  tokens.any fun token => spelling ignoreCase token.toList == spelling ignoreCase word

theorem isListed_iff {ignoreCase : Bool} {tokens : List String} {word : List Char} :
    isListed ignoreCase tokens word ↔
      ∃ token ∈ tokens, spelling ignoreCase token.toList = spelling ignoreCase word := by
  simp [isListed]

section Listed

variable {tokens : List String} (h : ∀ token ∈ tokens, IsIdentifier token) (ignoreCase : Bool)

include h

theorem longestAt_of_isListed {s : Cursor} (hbefore : s.wordBefore = false)
    (hlisted : isListed ignoreCase tokens s.word) :
    longestAt ignoreCase tokens s = some s.word.length := by
  have hlength (token : String) (hmem : token ∈ tokens) (hstands : standsAt ignoreCase s token) :
      token.length = s.word.length := by
    rw [← String.length_toList]
    exact length_eq_of_spelling_eq (((h token hmem).standsAt_iff ignoreCase s).1 hstands).2
  obtain ⟨token, hmem, hspelling⟩ := isListed_iff.1 hlisted
  have hstands := ((h token hmem).standsAt_iff ignoreCase s).2 ⟨hbefore, hspelling⟩
  refine longestAt_eq_some_iff.2 ⟨⟨token, hmem, hstands, hlength token hmem hstands⟩, ?_⟩
  intro other hother hstandsOther
  exact (hlength other hother hstandsOther).le

theorem longestAt_of_not_isListed {s : Cursor} (hlisted : ¬ isListed ignoreCase tokens s.word) :
    longestAt ignoreCase tokens s = none := by
  rw [longestAt_eq_none_iff]
  intro token hmem hstands
  exact hlisted (isListed_iff.2
    ⟨token, hmem, (((h token hmem).standsAt_iff ignoreCase s).1 hstands).2⟩)

theorem longestAt_of_wordBefore {s : Cursor} (hbefore : s.wordBefore) :
    longestAt ignoreCase tokens s = none := by
  rw [longestAt_eq_none_iff]
  intro token hmem hstands
  have hstart := (((h token hmem).standsAt_iff ignoreCase s).1 hstands).1
  rw [hbefore] at hstart
  cases hstart

theorem not_isListed_nil : ¬ isListed ignoreCase tokens [] := by
  intro hlisted
  obtain ⟨token, hmem, hspelling⟩ := isListed_iff.1 hlisted
  exact (h token hmem).ne_nil (List.length_eq_zero_iff.1 (length_eq_of_spelling_eq hspelling))

/-- From a position outside words on, identifiers match the words that are listed. -/
theorem scan_longestAt_eq_filter {s : Cursor} (hs : s.isInside = false) :
    scan (longestAt ignoreCase tokens) s =
      (scan wordHit s).filter fun m => isListed ignoreCase tokens m.chars := by
  have hadvances := advances_longestAt (fun token hmem => (h token hmem).length_pos) ignoreCase
  -- along the words; what carries it is that no position of that scan is inside a word
  induction s using scan.induct wordHit with
  | case1 s hempty =>
    have hnil : s.after = [] := by simpa using hempty
    rw [scan_of_after_eq_nil hnil, scan_of_after_eq_nil hnil, List.filter_nil]
  | case2 s _ hnone ih =>
    have hafter := wordHit_eq_none_iff.1 hnone
    have hlisted : ¬ isListed ignoreCase tokens s.word := by
      rw [Cursor.word_eq_nil_iff.2 hafter]
      exact not_isListed_nil h ignoreCase
    rw [scan_of_none hnone, scan_of_none (longestAt_of_not_isListed h ignoreCase hlisted),
      ih (Cursor.isInside_advance_one hafter)]
  | case3 s _ n hsome ih =>
    rw [Nat.max_eq_right (advances_wordHit.pos hsome)] at ih
    obtain ⟨hafter, rfl⟩ := wordHit_eq_some_iff.1 hsome
    have hbefore : s.wordBefore = false := by simpa [Cursor.isInside, hafter] using hs
    rw [advances_wordHit.scan_of_some hsome, List.filter_cons, Found.chars_eq_word,
      ← ih s.isInside_advance_word]
    by_cases hlisted : isListed ignoreCase tokens s.word
    · rw [if_pos hlisted,
        hadvances.scan_of_some (longestAt_of_isListed h ignoreCase hbefore hlisted)]
    · -- a word that is not listed is passed over, as nothing matches inside it
      rw [if_neg hlisted]
      refine scan_advance _ fun j hj => ?_
      cases j with
      | zero => exact longestAt_of_not_isListed h ignoreCase hlisted
      | succ j =>
        exact longestAt_of_wordBefore h ignoreCase
          (Cursor.wordBefore_advance_of_le (Nat.succ_pos j) hj.le)

theorem findAll_identifiers (text : List Char) :
    (tokensExpr ignoreCase tokens).findAll text =
      (words text).filter fun m => isListed ignoreCase tokens m.chars := by
  have hhits := hasHits_of_length_pos (fun token hmem => (h token hmem).length_pos) ignoreCase
  rw [hhits.findAll_eq, scan_longestAt_eq_filter h ignoreCase rfl]
  rfl

end Listed

end GeckScript
