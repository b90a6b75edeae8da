import GeckScript.Proofs.Text.Word
import GeckScript.Proofs.Vocabulary.Source
import GeckScript.Vocabulary.Standard

/-!
The tokens of the standard catalogue are plain identifiers: ASCII letters, digits and underscores.
No two groups share a token, also up to case.
-/

namespace GeckScript

open Text

def isAsciiWordByte (b : UInt8) : Bool :=
  b.toNat < 0x80 && isAsciiWord (Char.ofNat b.toNat)

/-- A character outside ASCII has a first byte outside, so it is enough to look at the bytes. -/
theorem isAsciiWord_of_utf8EncodeChar {c : Char}
    (h : ∀ b ∈ String.utf8EncodeChar c, isAsciiWordByte b) : isAsciiWord c := by
  -- the first byte of a character outside ASCII is 0xc0 or more
  have hlarge (v : Nat) (hlow : 0x80 ≤ v) (hhigh : v < 0x100) :
      ¬ isAsciiWordByte (UInt8.ofNat v) := by
    simp only [isAsciiWordByte, UInt8.toNat_ofNat', Nat.mod_eq_of_lt hhigh]
    simp [Nat.not_lt.2 hlow]
  unfold String.utf8EncodeChar at h
  by_cases hascii : c.val.toNat ≤ 0x7f
  · simp only [hascii, if_true] at h
    have hbyte := h _ List.mem_cons_self
    have hmod : c.val.toNat % 2 ^ 8 = c.val.toNat := Nat.mod_eq_of_lt (by omega)
    simp only [isAsciiWordByte, UInt8.toNat_ofNat', hmod, Bool.and_eq_true] at hbyte
    rw [← Char.ofNat_toNat c]
    exact hbyte.2
  · exfalso
    simp only [hascii, if_false] at h
    split at h
    · exact hlarge _ (by omega) (by omega) (h _ List.mem_cons_self)
    · split at h
      · exact hlarge _ (by omega) (by omega) (h _ List.mem_cons_self)
      · exact hlarge _ (by omega) (by omega) (h _ List.mem_cons_self)

theorem isAsciiWord_of_bytes {token : String}
    (h : ∀ b ∈ token.toByteArray.data.toList, isAsciiWordByte b) :
    ∀ c ∈ token.toList, isAsciiWord c := by
  intro c hc
  apply isAsciiWord_of_utf8EncodeChar
  intro b hb
  apply h
  rw [← String.utf8Encode_toList, List.utf8Encode, List.toList_data_toByteArray]
  exact List.mem_flatMap_of_mem hc hb

/-- The bytes of the tokens are looked at, as their characters take long to be decoded. -/
theorem isAsciiWord_of_mem_standardCatalogue : ∀ g ∈ standardCatalogue, ∀ token ∈ g.tokens,
    ∀ c ∈ token.toList, isAsciiWord c := by
  -- a quantifier over bytes could be decided by going through all 256 of them
  have hbytes : ∀ g ∈ standardCatalogue, ∀ token ∈ g.tokens,
      token.toByteArray.data.toList.all isAsciiWordByte := by
    decide +kernel
  intro g hg token hmem
  exact isAsciiWord_of_bytes (List.all_eq_true.1 (hbytes g hg token hmem))

theorem ne_empty_of_mem_standardCatalogue : ∀ g ∈ standardCatalogue, ∀ token ∈ g.tokens,
    token ≠ "" := by
  decide +kernel

def lowerByte (b : UInt8) : Nat :=
  if 65 ≤ b.toNat && b.toNat ≤ 90 then b.toNat + 32 else b.toNat

def lowerBytes (token : String) : List Nat :=
  token.toByteArray.data.toList.map lowerByte

theorem lowerByte_of_lt_128 : ∀ n < 128,
    lowerByte (UInt8.ofNat n) = (Char.ofNat n).toLower.toNat := by
  decide +kernel

theorem map_lowerByte_utf8EncodeChar {c : Char} (h : isAsciiWord c) :
    (String.utf8EncodeChar c).map lowerByte = [(fold c).toNat] := by
  have hbounds := toNat_of_isAsciiWord h
  have hascii : c.val.toNat ≤ 0x7f := by
    show c.toNat ≤ 0x7f
    omega
  have hlower := lowerByte_of_lt_128 c.toNat (by omega)
  have hfold : fold c = c.toLower := by
    rw [fold, if_pos (by omega)]
  rw [Char.ofNat_toNat, ← hfold] at hlower
  unfold String.utf8EncodeChar
  simp only [hascii, if_true]
  exact congrArg (fun n => [n]) hlower

/-- The lowered bytes of an identifier tell its characters up to case. -/
theorem lowerBytes_eq {token : String} (h : ∀ c ∈ token.toList, isAsciiWord c) :
    lowerBytes token = (token.toList.map fold).map Char.toNat := by
  rw [lowerBytes, ← String.utf8Encode_toList, List.utf8Encode, List.toList_data_toByteArray]
  generalize token.toList = chars at h
  induction chars with
  | nil => rfl
  | cons c chars ih =>
    rw [List.flatMap_cons, List.map_append, List.map_cons, List.map_cons,
      map_lowerByte_utf8EncodeChar (h c List.mem_cons_self),
      ih fun d hd => h d (List.mem_cons_of_mem c hd)]
    rfl

theorem pairwise_lowerBytes_standardCatalogue : standardCatalogue.Pairwise fun g g' =>
    ∀ token ∈ g.tokens, lowerBytes token ∉ g'.tokens.map lowerBytes := by
  decide +kernel

/-- Tokens of two groups differ by more than case. -/
theorem pairwise_fold_standardCatalogue : standardCatalogue.Pairwise fun g g' =>
    ∀ token ∈ g.tokens, ∀ other ∈ g'.tokens,
      token.toList.map fold ≠ other.toList.map fold := by
  refine pairwise_lowerBytes_standardCatalogue.imp_of_mem ?_
  intro g g' hg hg' hlower token htoken other hother heq
  apply hlower token htoken
  rw [lowerBytes_eq (isAsciiWord_of_mem_standardCatalogue g hg token htoken), heq,
    ← lowerBytes_eq (isAsciiWord_of_mem_standardCatalogue g' hg' other hother)]
  exact List.mem_map_of_mem hother

theorem tokenFlaw?_of_isAsciiWord {token : String} (hne : token ≠ "")
    (h : ∀ c ∈ token.toList, isAsciiWord c) : tokenFlaw? token = none := by
  have hblank : token.toList.all isBlank = false := by
    obtain ⟨c, hc⟩ := List.exists_mem_of_ne_nil _ (mt String.toList_eq_nil_iff.1 hne)
    have hbounds := toNat_of_isAsciiWord (h c hc)
    rw [List.all_eq_false]
    refine ⟨c, hc, ?_⟩
    simp only [isBlank, Bool.or_eq_true, Bool.and_eq_true, decide_eq_true_eq, beq_iff_eq]
    omega
  have hnul : token.toList.contains '\x00' = false := by
    rw [List.contains_eq_mem, decide_eq_false_iff_not]
    intro hc
    have hbounds := toNat_of_isAsciiWord (h _ hc)
    exact absurd hbounds.1 (by decide)
  have hcontrol : token.toList.any isControl = false := by
    rw [List.any_eq_false]
    intro c hc
    have hbounds := toNat_of_isAsciiWord (h c hc)
    simp only [isControl, Bool.or_eq_true, Bool.and_eq_true, decide_eq_true_eq]
    omega
  simp only [tokenFlaw?, hblank, hnul, hcontrol, Bool.false_eq_true, if_false]

theorem tokenFlaw?_of_mem_standardCatalogue {g : Group} (hg : g ∈ standardCatalogue) :
    ∀ token ∈ g.tokens, tokenFlaw? token = none := by
  intro token hmem
  exact tokenFlaw?_of_isAsciiWord (ne_empty_of_mem_standardCatalogue g hg token hmem)
    (isAsciiWord_of_mem_standardCatalogue g hg token hmem)

end GeckScript
