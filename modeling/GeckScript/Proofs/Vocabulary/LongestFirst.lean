import GeckScript.Proofs.Regex.Matching
import GeckScript.Proofs.Vocabulary.Source

/-!
Sorting tokens by their length. The tokens of each length stay as they are, and with the falling
lengths this says everything about the sorted list: two lists of tokens are sorted alike exactly if
they have the same tokens of each length, in the same order.
-/

namespace GeckScript

open Regex

theorem filter_length_longestFirst (tokens : List String) (n : Nat) :
    (longestFirst tokens).filter (·.length = n) = tokens.filter (·.length = n) := by
  have hsorted : (tokens.filter (·.length = n)).Pairwise
      fun a b => decide (b.length ≤ a.length) := by
    apply List.pairwise_of_forall_mem_list
    intro a ha b hb
    simp only [List.mem_filter, decide_eq_true_eq] at ha hb ⊢
    omega
  -- a sorted part of a list is found again in the sorted list
  have hsub : (tokens.filter (·.length = n)).Sublist (longestFirst tokens) :=
    List.sublist_mergeSort length_le_trans length_le_total hsorted List.filter_sublist
  have hsub' := hsub.filter (·.length = n)
  rw [List.filter_filter] at hsub'
  simp only [Bool.and_self] at hsub'
  apply Eq.symm
  apply hsub'.eq_of_length
  exact ((perm_longestFirst tokens).filter _).symm.length_eq

section Sorted

variable {tokens others : List String}

theorem length_le_of_mem_cons {a b : String}
    (h : (a :: tokens).Pairwise fun a b => b.length ≤ a.length) (hmem : b ∈ a :: tokens) :
    b.length ≤ a.length := by
  rcases List.mem_cons.1 hmem with rfl | hin
  · exact Nat.le_refl _
  · exact (List.pairwise_cons.1 h).1 b hin

theorem mem_iff_of_filter_length_eq
    (h : ∀ n, tokens.filter (·.length = n) = others.filter (·.length = n)) (token : String) :
    token ∈ tokens ↔ token ∈ others := by
  have hiff := congrArg (token ∈ ·) (h token.length)
  simpa using hiff

/-- Two lists with falling lengths are equal if they have the same tokens of each length. -/
theorem eq_of_filter_length_eq (h : tokens.Pairwise fun a b => b.length ≤ a.length)
    (h' : others.Pairwise fun a b => b.length ≤ a.length)
    (hfilter : ∀ n, tokens.filter (·.length = n) = others.filter (·.length = n)) :
    tokens = others := by
  have hmem := mem_iff_of_filter_length_eq hfilter
  induction tokens generalizing others with
  | nil =>
    apply Eq.symm
    rw [List.eq_nil_iff_forall_not_mem]
    intro token htoken
    exact List.not_mem_nil ((hmem token).2 htoken)
  | cons a tokens ih =>
    cases others with
    | nil => exact absurd ((hmem a).1 List.mem_cons_self) List.not_mem_nil
    | cons b others =>
      -- both heads are longest tokens, so each is the first one of the same length
      have hle : b.length ≤ a.length :=
        length_le_of_mem_cons h ((hmem b).2 List.mem_cons_self)
      have hge : a.length ≤ b.length :=
        length_le_of_mem_cons h' ((hmem a).1 List.mem_cons_self)
      have hheads : a = b := by
        have hfirst := hfilter a.length
        rw [List.filter_cons_of_pos (by simp), List.filter_cons_of_pos (by simp; omega)] at hfirst
        exact (List.cons.inj hfirst).1
      subst hheads
      have htails (n : Nat) : tokens.filter (·.length = n) = others.filter (·.length = n) := by
        have hn := hfilter n
        by_cases hlength : a.length = n
        · rw [List.filter_cons_of_pos (by simpa using hlength),
            List.filter_cons_of_pos (by simpa using hlength)] at hn
          exact (List.cons.inj hn).2
        · rwa [List.filter_cons_of_neg (by simpa using hlength),
            List.filter_cons_of_neg (by simpa using hlength)] at hn
      congr 1
      exact ih (List.pairwise_cons.1 h).2 (List.pairwise_cons.1 h').2 htails
        (mem_iff_of_filter_length_eq htails)

/-- Two lists of tokens are sorted alike exactly if they have the same tokens of each length, in
the same order. -/
theorem longestFirst_eq_iff :
    longestFirst tokens = longestFirst others ↔
      ∀ n, tokens.filter (·.length = n) = others.filter (·.length = n) := by
  constructor
  · intro h n
    rw [← filter_length_longestFirst tokens, ← filter_length_longestFirst others, h]
  · intro h
    apply eq_of_filter_length_eq (pairwise_longestFirst tokens) (pairwise_longestFirst others)
    intro n
    rw [filter_length_longestFirst, filter_length_longestFirst, h]

end Sorted

/-! ### The order of equal lengths -/

/-- Tokens that are numbered by their places: no token is longer than one in front of it, and tokens
of one length come by their numbers. -/
structure NumberedLongestFirst (numbered : List (String × Nat)) : Prop where
  falling : numbered.Pairwise fun a b => b.1.length ≤ a.1.length
  inOrder : numbered.Pairwise fun a b => a.1.length = b.1.length → a.2 < b.2

/-- A rearrangement of tokens by falling length in which tokens of one length keep their order. The
tokens are numbered, as repeated ones would not be told apart. -/
def IsLongestFirst (tokens ordered : List String) : Prop :=
  ∃ numbered : List (String × Nat), numbered.Perm tokens.zipIdx ∧
    NumberedLongestFirst numbered ∧ numbered.map Prod.fst = ordered

/-- With their numbers the tokens can be arranged in one way only. -/
theorem NumberedLongestFirst.eq_of_perm {numbered numbered' : List (String × Nat)}
    (h : NumberedLongestFirst numbered) (h' : NumberedLongestFirst numbered')
    (hperm : numbered.Perm numbered') : numbered = numbered' := by
  apply List.Perm.eq_of_pairwise ?_ (h.falling.and h.inOrder) (h'.falling.and h'.inOrder) hperm
  intro a b _ _ hab hba
  -- of two tokens that may stand in either order each would have the smaller number
  have hlength : a.1.length = b.1.length := Nat.le_antisymm hba.1 hab.1
  have hlt := hab.2 hlength
  have hgt := hba.2 hlength.symm
  omega

/-- Sorting the numbered tokens sorts the tokens, and the numbers show that it keeps their order. -/
theorem isLongestFirst_longestFirst (tokens : List String) :
    IsLongestFirst tokens (longestFirst tokens) := by
  let order := List.zipIdxLE fun a b : String => decide (b.length ≤ a.length)
  have hperm : (tokens.zipIdx.mergeSort order).Perm tokens.zipIdx := List.mergeSort_perm _ _
  have hsorted : (tokens.zipIdx.mergeSort order).Pairwise fun a b => order a b :=
    List.pairwise_mergeSort (List.zipIdxLE_trans length_le_trans)
      (List.zipIdxLE_total length_le_total) _
  have hnumbers : (tokens.zipIdx.mergeSort order).Pairwise fun a b => a.2 ≠ b.2 := by
    have hnodup : ((tokens.zipIdx.mergeSort order).map Prod.snd).Nodup := by
      rw [(hperm.map Prod.snd).nodup_iff, List.zipIdx_map_snd]
      exact List.nodup_range'
    exact List.pairwise_map.1 hnodup
  refine ⟨_, hperm, ⟨?_, ?_⟩, List.mergeSort_zipIdx⟩
  · apply hsorted.imp
    intro a b hab
    by_contra hlt
    simp [order, List.zipIdxLE, hlt] at hab
  · apply (hsorted.and hnumbers).imp
    rintro a b ⟨hab, hne⟩ hlength
    have hle : a.2 ≤ b.2 := by simpa [order, List.zipIdxLE, hlength] using hab
    omega

theorem eq_longestFirst_iff {tokens ordered : List String} :
    ordered = longestFirst tokens ↔ IsLongestFirst tokens ordered := by
  constructor
  · rintro rfl
    exact isLongestFirst_longestFirst tokens
  · rintro ⟨numbered, hperm, hnumbered, rfl⟩
    obtain ⟨numbered', hperm', hnumbered', hmap⟩ := isLongestFirst_longestFirst tokens
    rw [← hmap, hnumbered.eq_of_perm hnumbered' (hperm.trans hperm'.symm)]

theorem longestFirst_longestFirst (tokens : List String) :
    longestFirst (longestFirst tokens) = longestFirst tokens :=
  longestFirst_of_pairwise (pairwise_longestFirst tokens)

theorem longestFirst_append (tokens others : List String) :
    longestFirst (longestFirst tokens ++ longestFirst others) =
      longestFirst (tokens ++ others) := by
  rw [longestFirst_eq_iff]
  intro n
  rw [List.filter_append, List.filter_append, filter_length_longestFirst,
    filter_length_longestFirst]

theorem lt_of_getElem?_longestFirst {tokens : List String} {token other : String} {i j : Nat}
    (hi : (longestFirst tokens)[i]? = some token) (hj : (longestFirst tokens)[j]? = some other)
    (h : token.length < other.length) : j < i := by
  obtain ⟨hlt, rfl⟩ := List.getElem?_eq_some_iff.1 hi
  obtain ⟨hlt', rfl⟩ := List.getElem?_eq_some_iff.1 hj
  by_contra hle
  by_cases heq : i = j
  · subst heq
    omega
  · have hfalling := List.pairwise_iff_getElem.1 (pairwise_longestFirst tokens) i j hlt hlt'
      (by omega)
    omega

/-- Whether another token starts with the characters of a token and goes on behind them. -/
def IsProperPrefix (ignoreCase : Bool) (token other : String) : Prop :=
  ∃ front rest, other.toList = front ++ rest ∧ rest ≠ [] ∧
    List.Forall₂ (fun c d => sameChar ignoreCase c d) token.toList front

theorem IsProperPrefix.length_lt {ignoreCase : Bool} {token other : String}
    (h : IsProperPrefix ignoreCase token other) : token.length < other.length := by
  obtain ⟨front, rest, hother, hrest, hsame⟩ := h
  have hpos := List.length_pos_iff.2 hrest
  rw [← String.length_toList, ← String.length_toList, hother, List.length_append,
    hsame.length_eq]
  omega

/-- Sorting tokens by falling length gives the only rearrangement of them that is in this order and
keeps the order of tokens of one length. Sorting again changes nothing, and lists can be sorted
before they are joined. A token behind whose characters another one goes on, also up to case, stands
behind it. -/
theorem longestFirst_is_only_order (tokens others : List String) :
    (∀ ordered, ordered = longestFirst tokens ↔ IsLongestFirst tokens ordered) ∧
      longestFirst (longestFirst tokens) = longestFirst tokens ∧
      longestFirst (tokens ++ others) = longestFirst (longestFirst tokens ++ longestFirst others) ∧
      ∀ (ignoreCase : Bool) (token other : String) (i j : Nat),
        (longestFirst tokens)[i]? = some token → (longestFirst tokens)[j]? = some other →
          IsProperPrefix ignoreCase token other → j < i := by
  refine ⟨fun _ => eq_longestFirst_iff, longestFirst_longestFirst tokens,
    (longestFirst_append tokens others).symm, ?_⟩
  intro ignoreCase token other i j hi hj hprefix
  exact lt_of_getElem?_longestFirst hi hj hprefix.length_lt

/-- A token counts as long as it has characters, however many bytes they take. -/
example : longestFirst ["ab", "é", "abc"] = ["abc", "ab", "é"] := by cbv

end GeckScript
