import GeckScript.Text.Basic
import GeckScript.Text.Word

/-!
The ASCII characters, and the word characters among them: where they lie, and that the pattern
language has them in its class. No blank is in that class.
-/

namespace GeckScript.Text

theorem toNat_of_isAsciiWord {c : Char} (h : isAsciiWord c) : 48 ≤ c.toNat ∧ c.toNat ≤ 122 := by
  have hcases : (decide (c.val ≥ 'A'.val ∧ c.val ≤ 'Z'.val) ||
      (c.val ≥ 'a'.val && c.val ≤ 'z'.val) || (c.val ≥ '0'.val && c.val ≤ '9'.val) ||
      c == '_') = true := h
  simp only [Bool.or_eq_true, Bool.and_eq_true, decide_eq_true_eq, ge_iff_le,
    UInt32.le_iff_toNat_le, beq_iff_eq] at hcases
  rcases hcases with ((h | h) | h) | rfl
  · exact ⟨Nat.le_trans (by decide) h.1, Nat.le_trans h.2 (by decide)⟩
  · exact ⟨Nat.le_trans (by decide) h.1, Nat.le_trans h.2 (by decide)⟩
  · exact ⟨Nat.le_trans (by decide) h.1, Nat.le_trans h.2 (by decide)⟩
  · decide

theorem toNat_lt_of_isAlphanum {c : Char} (h : c.isAlphanum) : c.toNat < 0x80 := by
  have hword : isAsciiWord c := by rw [isAsciiWord, h, Bool.true_or]
  exact Nat.lt_of_le_of_lt (toNat_of_isAsciiWord hword).2 (by decide)

theorem toNat_lt_of_isAlphanum_or_mem {c : Char} {marks : List Char}
    (hmarks : marks.all (·.toNat < 0x80)) (h : c.isAlphanum || c ∈ marks) : c.toNat < 0x80 := by
  rw [Bool.or_eq_true, decide_eq_true_eq] at h
  rcases h with h | h
  · exact toNat_lt_of_isAlphanum h
  · exact of_decide_eq_true (List.all_eq_true.1 hmarks c h)

/-- What the 128 characters of ASCII have in common is a finite matter. -/
theorem of_toNat_lt {p : Char → Prop} (h : ∀ n < 0x80, p (Char.ofNat n)) {c : Char}
    (hc : c.toNat < 0x80) : p c := by
  rw [← Char.ofNat_toNat c]
  exact h c.toNat hc

theorem isWordChar_of_isAsciiWord {c : Char} (h : isAsciiWord c) : isWordChar c := by
  have hbounds := toNat_of_isAsciiWord h
  rw [isWordChar, if_pos (by omega)]
  exact h

/-- The decimal digits of all scripts are word characters. -/
theorem isWordChar_of_isDecimalDigit {c : Char} (h : isDecimalDigit c) : isWordChar c := by
  by_cases hascii : c.toNat < 0x80
  · rw [isDecimalDigit, if_pos hascii] at h
    apply isWordChar_of_isAsciiWord
    rw [isAsciiWord, Char.isAlphanum, h, Bool.or_true, Bool.true_or]
  · rw [isDecimalDigit, if_neg hascii] at h
    rw [isWordChar, if_neg hascii, h, Bool.or_true, Bool.true_or, Bool.true_or]

def blankCodes : List Nat :=
  List.range' 9 5 ++ [0x20, 0x85, 0xa0, 0x1680] ++ List.range' 0x2000 11 ++
    [0x2028, 0x2029, 0x202f, 0x205f, 0x3000]

theorem toNat_mem_blankCodes {c : Char} (h : isBlank c) : c.toNat ∈ blankCodes := by
  simp only [isBlank, Bool.or_eq_true, Bool.and_eq_true, decide_eq_true_eq, beq_iff_eq] at h
  simp only [blankCodes, List.mem_append, List.mem_range'_1, List.mem_cons, List.not_mem_nil,
    or_false]
  omega

theorem isWordChar_of_isBlank {c : Char} (h : isBlank c) : isWordChar c = false := by
  have hall : ∀ n ∈ blankCodes, isWordChar (Char.ofNat n) = false := by decide +kernel
  rw [← Char.ofNat_toNat c]
  exact hall _ (toNat_mem_blankCodes h)

end GeckScript.Text
