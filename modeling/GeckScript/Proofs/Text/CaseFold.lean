import GeckScript.Text.CaseFold
import GeckScript.Text.Word

/-!
Case variants are letters, so whatever holds of all letters does not tell case variants apart: being
a word character, in particular.
-/

namespace GeckScript.Text

/-- A character with the Unicode property Alphabetic. -/
def isLetter (c : Char) : Bool :=
  if c.toNat < 0x80 then c.isAlpha else alphabetic.mem c

/-- Every character that a run of the folding covers is a letter, and so is its folding. -/
def CharRun.joinsLetters (run : CharRun) : Bool :=
  (List.range (run.last - run.first + 1)).all fun i =>
    i % run.stride != 0 ||
      (isLetter (Char.ofNat (run.first + i)) && isLetter (Char.ofNat (run.image + i)))

theorem foldRuns_joinLetters : ∀ run ∈ foldRuns, run.joinsLetters := by
  decide +kernel

theorem isLetter_of_toLower_ne : ∀ n < 0x80, (Char.ofNat n).toLower ≠ Char.ofNat n →
    isLetter (Char.ofNat n) ∧ isLetter (Char.ofNat n).toLower := by
  decide +kernel

theorem isLetter_of_fold_ne {c : Char} (h : fold c ≠ c) : isLetter c ∧ isLetter (fold c) := by
  unfold fold at h ⊢
  split at h
  · rename_i hascii
    rw [if_pos hascii]
    have hletters := isLetter_of_toLower_ne c.toNat hascii
    rw [Char.ofNat_toNat] at hletters
    exact hletters h
  · rename_i hascii
    rw [if_neg hascii]
    -- beyond ASCII a run of the table covers the character, and each run joins letters only
    unfold CharRun.apply at h ⊢
    cases hrun : foldRuns.find? fun run => run.covers c.toNat with
    | none => simp [hrun] at h
    | some run =>
      have hcovers : run.covers c.toNat := by simpa using List.find?_some hrun
      have hjoins := foldRuns_joinLetters run (List.mem_of_find?_eq_some hrun)
      simp only [CharRun.covers, Bool.and_eq_true, decide_eq_true_eq, beq_iff_eq] at hcovers
      simp only [CharRun.joinsLetters, List.all_eq_true, List.mem_range] at hjoins
      have hboth := hjoins (c.toNat - run.first) (by omega)
      have hsum : run.first + (c.toNat - run.first) = c.toNat := by omega
      rw [hcovers.2, hsum, Char.ofNat_toNat] at hboth
      simpa using hboth

/-- A property that all letters have does not tell case variants apart. -/
theorem eq_of_sameFold {p : Char → Bool} (hp : ∀ c, isLetter c → p c) {c d : Char}
    (h : sameFold c d) : p c = p d := by
  have hfold : fold c = fold d := by simpa [sameFold] using h
  -- folding joins letters only, so it keeps `p`
  have hkeep (e : Char) : p (fold e) = p e := by
    by_cases he : fold e = e
    · rw [he]
    · have hletters := isLetter_of_fold_ne he
      rw [hp _ hletters.1, hp _ hletters.2]
  rw [← hkeep c, ← hkeep d, hfold]

theorem isWordChar_of_isLetter {c : Char} (h : isLetter c) : isWordChar c := by
  unfold isLetter at h
  unfold isWordChar
  split
  · rename_i hascii
    rw [if_pos hascii] at h
    simp [isAsciiWord, Char.isAlphanum, h]
  · rename_i hascii
    rw [if_neg hascii] at h
    simp [h]

theorem isAlphanumeric_of_isLetter {c : Char} (h : isLetter c) : isAlphanumeric c := by
  unfold isLetter at h
  unfold isAlphanumeric
  split
  · rename_i hascii
    rw [if_pos hascii] at h
    simp [Char.isAlphanum, h]
  · rename_i hascii
    rw [if_neg hascii] at h
    simp [h]

end GeckScript.Text
