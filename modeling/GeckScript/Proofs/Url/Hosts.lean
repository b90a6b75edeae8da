import GeckScript.Proofs.Url.Form
import GeckScript.Url.Parser
import Mathlib.Data.Nat.Digits.Defs

/-!
The characters of a host. Whatever kind of host is read, neither the marks that open a query and a
fragment nor a line end stand in its written form: a forbidden character is refused, an encoded
label has letters, digits and hyphens only, and an address has digits.
-/

namespace GeckScript.Url

def isMark (c : Char) : Bool :=
  isTail c || c = '\n'

theorem isTail_eq_false_of_isMark {c : Char} (h : isMark c = false) : isTail c = false :=
  (Bool.or_eq_false_iff.1 h).1

theorem eq_of_isMark {c : Char} (h : isMark c) : c = '?' ∨ c = '#' ∨ c = '\n' := by
  simpa [isMark, isTail, or_assoc] using h

def Unmarked (text : List Char) : Prop :=
  ∀ c ∈ text, isMark c = false

instance (text : List Char) : Decidable (Unmarked text) :=
  decidable_of_iff (text.all fun c => !isMark c) (by simp [Unmarked])

namespace Unmarked

variable {c : Char} {text front back : List Char}

@[simp] theorem nil : Unmarked [] := by simp [Unmarked]

@[simp] theorem cons_iff : Unmarked (c :: text) ↔ isMark c = false ∧ Unmarked text :=
  List.forall_mem_cons

@[simp] theorem append_iff : Unmarked (front ++ back) ↔ Unmarked front ∧ Unmarked back :=
  List.forall_mem_append

theorem flatMap {α : Type} {parts : List α} {f : α → List Char}
    (h : ∀ part ∈ parts, Unmarked (f part)) : Unmarked (parts.flatMap f) := by
  intro c hc
  obtain ⟨part, hpart, hc⟩ := List.mem_flatMap.1 hc
  exact h part hpart c hc

theorem intercalate {parts : List (List Char)} (hc : isMark c = false)
    (h : ∀ part ∈ parts, Unmarked part) : Unmarked ([c].intercalate parts) := by
  induction parts with
  | nil => simp
  | cons part rest ih =>
    obtain ⟨hpart, hrest⟩ := List.forall_mem_cons.1 h
    rcases rest with - | ⟨next, rest⟩
    · rw [List.intercalate_singleton]
      exact hpart
    · rw [List.intercalate_cons_cons]
      simp [hpart, hc, ih hrest]

end Unmarked

/-! ### Addresses -/

theorem exists_digitChar_of_mem_toDigits {b n : Nat} {c : Char} (hb : 1 < b) :
    c ∈ Nat.toDigits b n → ∃ d < b, c = d.digitChar := by
  induction n using Nat.strongRecOn with
  | _ n ih =>
    intro hc
    rw [Nat.toDigits_eq_if hb] at hc
    -- the last digit is the remainder, those in front are the digits of the quotient
    by_cases hn : n < b
    · rw [if_pos hn, List.mem_singleton] at hc
      exact ⟨n, hn, hc⟩
    · rw [if_neg hn, List.mem_append, List.mem_singleton] at hc
      rcases hc with hc | hc
      · exact ih (n / b) (Nat.div_lt_self (by omega) hb) hc
      · exact ⟨n % b, Nat.mod_lt _ (by omega), hc⟩

theorem unmarked_toDigits {b : Nat} (n : Nat) (hb : 1 < b) (hle : b ≤ 16) :
    Unmarked (Nat.toDigits b n) := by
  have hall : ∀ d < 16, isMark (Nat.digitChar d) = false := by decide
  intro c hc
  obtain ⟨d, hd, rfl⟩ := exists_digitChar_of_mem_toDigits hb hc
  exact hall d (by omega)

theorem unmarked_toString (n : Nat) : Unmarked (toString n).toList := by
  rw [Nat.toString_eq_ofList_toDigits, String.toList_ofList]
  exact unmarked_toDigits n (by decide) (by decide)

theorem Ipv4.unmarked_write (address : Nat) : Unmarked (Ipv4.write address).toList := by
  rw [Ipv4.write, String.toList_intercalate]
  refine Unmarked.intercalate (by decide) fun part hpart => ?_
  obtain ⟨byte, hbyte, rfl⟩ := List.mem_map.1 hpart
  simp only [List.mem_cons, List.not_mem_nil, or_false] at hbyte
  rcases hbyte with rfl | rfl | rfl | rfl <;> exact unmarked_toString _

theorem Ipv6.unmarked_write (pieces : List Nat) : Unmarked (Ipv6.write pieces).toList := by
  have hjoin (part : List Nat) : Unmarked (":".intercalate (part.map hexPiece)).toList := by
    rw [String.toList_intercalate]
    refine Unmarked.intercalate (by decide) fun text htext => ?_
    obtain ⟨piece, hpiece, rfl⟩ := List.mem_map.1 htext
    obtain ⟨n, -, rfl⟩ := List.mem_map.1 hpiece
    rw [hexPiece, String.toList_ofList]
    exact unmarked_toDigits n (by decide) (by decide)
  rw [Ipv6.write]
  by_cases hshort : (longestZeros pieces).2 < 2
  · simp only [hshort, if_true]
    exact hjoin pieces
  · simp only [hshort, if_false, String.toList_append, Unmarked.append_iff]
    exact ⟨⟨hjoin _, by decide⟩, hjoin _⟩

/-! ### Domain names -/

namespace Domain

theorem isMark_eq_false_of_not_isForbidden {c : Char} (h : isForbidden c = false) :
    isMark c = false := by
  rw [← Bool.not_eq_true] at h ⊢
  intro hmark
  rcases eq_of_isMark hmark with rfl | rfl | rfl <;> exact h (by decide)

namespace Punycode

theorem threshold_le (k bias : Nat) : threshold k bias ≤ 26 := by
  unfold threshold
  split <;> omega

theorem isMark_digitChar : ∀ d < 36, isMark (digitChar d) = false := by
  decide

theorem unmarked_digits (bias fuel k q : Nat) : Unmarked (digits bias fuel k q) := by
  induction fuel generalizing k q with
  | zero => simp [digits]
  | succ fuel ih =>
    -- a digit that is not the last one is less than 36 by the remainder in it
    have ht := threshold_le k bias
    rw [digits]
    by_cases hq : q < threshold k bias
    · simpa only [hq, if_true, Unmarked.cons_iff, Unmarked.nil, and_true] using
        isMark_digitChar q (by omega)
    · have hmod := Nat.mod_lt (q - threshold k bias) (by omega : 0 < 36 - threshold k bias)
      simp only [hq, if_false, Unmarked.cons_iff]
      exact ⟨isMark_digitChar _ (by omega), ih _ _⟩

theorem unmarked_step {n : Nat} {e : Encoder} (c : Char) (h : Unmarked e.output) :
    Unmarked (e.step n c).output := by
  unfold Encoder.step
  split
  · exact h
  split
  · exact Unmarked.append_iff.2 ⟨h, unmarked_digits _ _ _ _⟩
  · exact h

theorem unmarked_foldl_step {n : Nat} {e : Encoder} (label : List Char) (h : Unmarked e.output) :
    Unmarked (label.foldl (Encoder.step n) e).output := by
  induction label generalizing e with
  | nil => exact h
  | cons c label ih => exact ih (unmarked_step c h)

theorem unmarked_encodeFrom {label : List Char} {n : Nat} {e : Encoder} (points : List Nat)
    (h : Unmarked e.output) : Unmarked (encodeFrom label n e points).output := by
  induction points generalizing n e with
  | nil => exact h
  | cons m points ih => exact ih (unmarked_foldl_step label h)

theorem unmarked_encode {label : List Char} (h : Unmarked label) : Unmarked (encode label) := by
  have hplain : Unmarked (label.filter (·.toNat < 0x80)) :=
    fun c hc => h c (List.mem_filter.1 hc).1
  refine unmarked_encodeFrom _ ?_
  dsimp only
  split
  · exact hplain
  · simpa using ⟨hplain, rfl⟩

end Punycode

theorem unmarked_writeLabel {label : List Char} (h : isWellFormed label) :
    Unmarked (writeLabel label) := by
  have hlabel : Unmarked label := by
    simp only [isWellFormed, Bool.and_eq_true, List.all_eq_true, Bool.not_eq_true'] at h
    exact fun c hc => isMark_eq_false_of_not_isForbidden (h.1.1 c hc)
  rw [writeLabel]
  split
  · exact hlabel
  · exact Unmarked.append_iff.2 ⟨by decide, Punycode.unmarked_encode hlabel⟩

theorem unmarked_of_toAscii? {name ascii : List Char} (h : toAscii? name = some ascii) :
    Unmarked ascii := by
  simp only [toAscii?, Option.bind_eq_bind, Option.bind_eq_some_iff] at h
  obtain ⟨mapped, -, labels, -, h⟩ := h
  split at h
  · next hsound =>
    rw [Option.some.injEq] at h
    subst h
    rw [Bool.and_eq_true, List.all_eq_true] at hsound
    refine Unmarked.intercalate (by decide) fun text htext => ?_
    obtain ⟨label, hlabel, rfl⟩ := List.mem_map.1 htext
    exact unmarked_writeLabel (hsound.1 label hlabel)
  · exact absurd h (by simp)

end Domain

/-! ### Percent-encoding -/

/-- A mark that is left in an encoded text is one that was not to be escaped. -/
theorem Percent.mem_of_mem_encode {escapes : Char → Bool} {text : List Char} {c : Char}
    (h : c ∈ encode escapes text) (hc : isMark c) : c ∈ text ∧ escapes c = false := by
  have hdigit : ∀ n < 16, isMark (hexDigit n) = false := by decide
  obtain ⟨d, hd, h⟩ := List.mem_flatMap.1 h
  rw [encodeChar] at h
  split at h
  · next hplain =>
    rw [List.mem_singleton] at h
    subst h
    rw [Bool.and_eq_true, Bool.not_eq_true'] at hplain
    exact ⟨hd, hplain.2⟩
  · -- no encoded byte is spelt with a mark
    obtain ⟨b, -, h⟩ := List.mem_flatMap.1 h
    rcases eq_of_mem_encodeByte h with rfl | ⟨n, hn, rfl⟩
    · exact absurd hc (by decide)
    · exact absurd hc (by simp [hdigit n hn])

theorem unmarked_encode {escapes : Char → Bool} {text : List Char}
    (h : ∀ c ∈ text, isMark c → escapes c) : Unmarked (Percent.encode escapes text) := by
  intro c hc
  by_contra hmark
  rw [Bool.not_eq_false] at hmark
  obtain ⟨hmem, hkept⟩ := Percent.mem_of_mem_encode hc hmark
  rw [h c hmem hmark] at hkept
  cases hkept

theorem Unmarked.encode {text : List Char} (h : Unmarked text) (escapes : Char → Bool) :
    Unmarked (Percent.encode escapes text) := by
  refine unmarked_encode fun c hc hmark => ?_
  rw [h c hc] at hmark
  cases hmark

/-! ### Hosts -/

theorem unmarked_of_readIpv6 {text : List Char} {host : Host} (h : readIpv6 text = .ok host) :
    Unmarked host.write := by
  unfold readIpv6 at h
  split at h
  · split at h
    · next pieces _ =>
      rw [Except.ok.injEq] at h
      subst h
      simpa [Host.write] using ⟨rfl, Ipv6.unmarked_write pieces, rfl⟩
    · exact absurd h (by simp)
  · exact absurd h (by simp)

theorem unmarked_of_readDomain {text : List Char} {host : Host} (h : readDomain text = .ok host) :
    Unmarked host.write := by
  unfold readDomain at h
  split at h
  · exact unmarked_of_readIpv6 h
  split at h
  · exact absurd h (by simp)
  · exact absurd h (by simp)
  · next name hname =>
    obtain ⟨decoded, -, hascii⟩ := Option.bind_eq_some_iff.1 hname
    split at h
    · split at h
      · next address _ =>
        rw [Except.ok.injEq] at h
        subst h
        exact Ipv4.unmarked_write address
      · exact absurd h (by simp)
    · rw [Except.ok.injEq] at h
      subst h
      exact Domain.unmarked_of_toAscii? hascii

theorem unmarked_of_readPlainHost {text : List Char} {host : Host}
    (h : readPlainHost text = .ok host) : Unmarked host.write := by
  unfold readPlainHost at h
  split at h
  · exact unmarked_of_readIpv6 h
  split at h
  · exact absurd h (by simp)
  · next hforbidden =>
    -- the marks are forbidden characters
    have htext : Unmarked text := by
      intro c hc
      by_contra hmark
      rw [Bool.not_eq_false] at hmark
      refine hforbidden (List.any_eq_true.2 ⟨c, hc, ?_⟩)
      rcases eq_of_isMark hmark with rfl | rfl | rfl <;> decide
    split at h <;> rw [Except.ok.injEq] at h <;> subst h
    · exact Unmarked.nil
    · exact htext.encode _

end GeckScript.Url
