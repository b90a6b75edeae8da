import GeckScript.Proofs.Regex.Scan
import GeckScript.Proofs.Vocabulary.Source

/-!
What the pattern of a list of tokens matches. A token stands at a position if the text goes on with
it and each of its edges that asks for a word boundary has one. The matches in a text are those of
a scan that takes the longest token at each position.
-/

namespace GeckScript

open Regex

def edgeFits (c : Option Char) (s : Cursor) : Bool :=
  !c.any needsBoundary || s.atBoundary

def standsAt (ignoreCase : Bool) (s : Cursor) (token : String) : Bool :=
  startsAlike ignoreCase token.toList s.after && edgeFits token.toList.head? s &&
    edgeFits token.toList.getLast? (s.advance token.length)

def longestAt (ignoreCase : Bool) (tokens : List String) (s : Cursor) : Option Nat :=
  ((tokens.filter (standsAt ignoreCase s)).map String.length).max?

theorem longestAt_eq_some_iff {ignoreCase : Bool} {tokens : List String} {s : Cursor} {n : Nat} :
    longestAt ignoreCase tokens s = some n ↔
      (∃ token ∈ tokens, standsAt ignoreCase s token ∧ token.length = n) ∧
        ∀ token ∈ tokens, standsAt ignoreCase s token → token.length ≤ n := by
  rw [longestAt, List.max?_eq_some_iff]
  simp only [List.mem_map, List.mem_filter, and_assoc, forall_exists_index, and_imp]
  refine and_congr_right fun _ => ⟨?_, ?_⟩
  · intro h token hmem hstands
    exact h _ token hmem hstands rfl
  · rintro h _ token hmem hstands rfl
    exact h token hmem hstands

theorem longestAt_eq_none_iff {ignoreCase : Bool} {tokens : List String} {s : Cursor} :
    longestAt ignoreCase tokens s = none ↔ ∀ token ∈ tokens, ¬ standsAt ignoreCase s token := by
  rw [longestAt, List.max?_eq_none_iff]
  simp

theorem startsAlike_of_standsAt {ignoreCase : Bool} {s : Cursor} {token : String}
    (h : standsAt ignoreCase s token) : startsAlike ignoreCase token.toList s.after := by
  simp only [standsAt, Bool.and_eq_true] at h
  exact h.1.1

theorem length_le_of_standsAt {ignoreCase : Bool} {s : Cursor} {token : String}
    (h : standsAt ignoreCase s token) : token.length ≤ s.after.length := by
  rw [← String.length_toList]
  exact length_le_of_startsAlike (startsAlike_of_standsAt h)

theorem advances_longestAt {tokens : List String} (h : ∀ token ∈ tokens, 0 < token.length)
    (ignoreCase : Bool) : Advances (longestAt ignoreCase tokens) where
  pos := by
    intro s n hn
    obtain ⟨⟨token, hmem, -, rfl⟩, -⟩ := longestAt_eq_some_iff.1 hn
    exact h token hmem
  le := by
    intro s n hn
    obtain ⟨⟨token, -, hstands, rfl⟩, -⟩ := longestAt_eq_some_iff.1 hn
    exact length_le_of_standsAt hstands

section Expr

variable {α : Type}

theorem run_boundaryExprs (c : Option Char) (s : Cursor) (k : Cursor → Option α) :
    (Expr.catAll (boundaryExprs c)).run s k = if edgeFits c s then k s else none := by
  unfold boundaryExprs edgeFits
  cases hc : c.any needsBoundary with
  | false => rfl
  | true =>
    simp only [if_true, Bool.not_true, Bool.false_or]
    rfl

theorem run_tokenExprs (ignoreCase : Bool) (token : String) (s : Cursor)
    (k : Cursor → Option α) :
    (Expr.catAll (tokenExprs ignoreCase token)).run s k =
      if standsAt ignoreCase s token then k (s.advance token.length) else none := by
  unfold tokenExprs standsAt
  simp only [Expr.run_catAll_append, run_boundaryExprs, Expr.run_catAll_chars,
    String.length_toList]
  cases edgeFits token.toList.head? s <;>
    cases startsAlike ignoreCase token.toList s.after <;> simp

end Expr

/-- The first token that stands at a position, the longer ones tried first, is a longest one. -/
theorem length_find?_longestFirst (ignoreCase : Bool) (tokens : List String) (s : Cursor) :
    ((longestFirst tokens).find? (standsAt ignoreCase s)).map String.length =
      longestAt ignoreCase tokens s := by
  have hmem (token : String) : token ∈ longestFirst tokens ↔ token ∈ tokens :=
    (perm_longestFirst tokens).mem_iff
  cases hfind : (longestFirst tokens).find? (standsAt ignoreCase s) with
  | none =>
    symm
    rw [Option.map_none, longestAt_eq_none_iff]
    intro token htoken
    exact List.find?_eq_none.1 hfind token ((hmem token).2 htoken)
  | some token =>
    symm
    rw [Option.map_some, longestAt_eq_some_iff]
    obtain ⟨hstands, front, back, hsplit, hfront⟩ := List.find?_eq_some_iff_append.1 hfind
    have htoken : token ∈ longestFirst tokens := by simp [hsplit]
    refine ⟨⟨token, (hmem token).1 htoken, hstands, rfl⟩, ?_⟩
    intro other hother hstandsOther
    have hsorted := pairwise_longestFirst tokens
    rw [hsplit, List.pairwise_append, List.pairwise_cons] at hsorted
    have hcases := (hmem other).2 hother
    rw [hsplit, List.mem_append, List.mem_cons] at hcases
    -- what was tried in front does not stand, and what comes behind is no longer
    rcases hcases with hin | rfl | hin
    · have hnot := hfront other hin
      simp [hstandsOther] at hnot
    · exact Nat.le_refl _
    · exact hsorted.2.1.1 other hin

theorem matchAt_tokensExpr (ignoreCase : Bool) (tokens : List String) (s : Cursor) :
    (tokensExpr ignoreCase tokens).matchAt s = (longestAt ignoreCase tokens s).map s.advance := by
  unfold tokensExpr
  split
  · rename_i hempty
    rw [List.isEmpty_iff] at hempty
    subst hempty
    have hnever :
        (Expr.cat (.assert .wordBoundary) (.assert .noWordBoundary)).matchAt s = none := by
      simp [Expr.matchAt, Expr.run, Assertion.holds]
    rw [hnever]
    rfl
  · -- a branch matches where its token stands, so the first token that stands is taken
    have hbranch : (fun r : Expr => r.run s some) ∘
        (fun token => Expr.catAll (tokenExprs ignoreCase token)) =
        Option.map s.advance ∘ Option.map String.length ∘ Option.guard (standsAt ignoreCase s) := by
      funext token
      simp only [Function.comp_apply, run_tokenExprs, Option.guard]
      split <;> rfl
    rw [Expr.matchAt, Expr.run_altAll, List.findSome?_map, hbranch, ← List.map_findSome?,
      ← List.map_findSome?, List.findSome?_guard, length_find?_longestFirst]

/-- The matches of a list of tokens that are not empty are found by a scan for the longest token. -/
theorem hasHits_of_length_pos {tokens : List String} (h : ∀ token ∈ tokens, 0 < token.length)
    (ignoreCase : Bool) : (tokensExpr ignoreCase tokens).HasHits (longestAt ignoreCase tokens) where
  toAdvances := advances_longestAt h ignoreCase
  matchAt_eq := matchAt_tokensExpr ignoreCase tokens

theorem hasHits_tokensExpr {tokens : List String} (h : ∀ token ∈ tokens, tokenFlaw? token = none)
    (ignoreCase : Bool) : (tokensExpr ignoreCase tokens).HasHits (longestAt ignoreCase tokens) :=
  hasHits_of_length_pos (fun token hmem => length_pos_of_tokenFlaw? (h token hmem)) ignoreCase

/-- Each match is that of a token at its place, and no longer token stands there. -/
theorem exists_token_of_mem_scan {tokens : List String}
    (h : ∀ token ∈ tokens, tokenFlaw? token = none) {ignoreCase : Bool} {s : Cursor} {m : Found}
    (hm : m ∈ scan (longestAt ignoreCase tokens) s) :
    ∃ token ∈ tokens, standsAt ignoreCase m.start token ∧
      m.stop = m.start.advance token.length ∧
      List.Forall₂ (fun c d => sameChar ignoreCase c d) token.toList m.chars ∧
      ∀ other ∈ tokens, standsAt ignoreCase m.start other → other.length ≤ token.length := by
  have hhits := hasHits_tokensExpr h ignoreCase
  obtain ⟨i, n, hn, rfl⟩ := hhits.exists_of_mem_scan hm
  obtain ⟨⟨token, hmem, hstands, rfl⟩, hlongest⟩ := longestAt_eq_some_iff.1 hn
  rw [← Cursor.advance_advance]
  refine ⟨token, hmem, hstands, rfl, ?_, hlongest⟩
  rw [Found.chars_advance (length_le_of_standsAt hstands), ← String.length_toList]
  exact startsAlike_iff.1 (startsAlike_of_standsAt hstands)

/-- Every pattern that is built can be read, and finds in any text what a scan for the longest
token at each position finds. So a match is a token's own characters, no token hides a longer one
at the same place, and no token at all means no match. -/
theorem findAll_compiled_eq_scan {tokens : List String} {ignoreCase : Bool} {source : String}
    (h : buildPattern tokens ignoreCase = .ok source) :
    ∃ r, compilePattern source = .ok r ∧
      (∀ text : String, r.findAll text.toList =
        scan (longestAt ignoreCase tokens) (.start text.toList)) ∧
      (∀ text : String, ∀ m ∈ r.findAll text.toList, ∃ token ∈ tokens,
        standsAt ignoreCase m.start token ∧ m.stop = m.start.advance token.length ∧
        List.Forall₂ (fun c d => sameChar ignoreCase c d) token.toList m.chars ∧
        ∀ other ∈ tokens, standsAt ignoreCase m.start other → other.length ≤ token.length) ∧
      (tokens = [] → ∀ text : String, r.findAll text.toList = []) := by
  have hflaws := tokenFlaw?_of_buildPattern h
  have hhits := hasHits_tokensExpr hflaws ignoreCase
  refine ⟨_, compilePattern_of_buildPattern h, fun text => hhits.findAll_eq text.toList, ?_, ?_⟩
  · intro text m hm
    rw [hhits.findAll_eq] at hm
    exact exists_token_of_mem_scan hflaws hm
  · rintro rfl text
    rw [hhits.findAll_eq, List.eq_nil_iff_forall_not_mem]
    intro m hm
    obtain ⟨token, hmem, -⟩ := exists_token_of_mem_scan hflaws hm
    cases hmem

theorem findAll_compiled_set :
    buildPattern ["Set", "SetEventHandler"] false =
        .ok "(?:\\bSetEventHandler\\b|\\bSet\\b)" ∧
      ∃ r, compilePattern "(?:\\bSetEventHandler\\b|\\bSet\\b)" = .ok r ∧
        r.findAll "Set SetEventHandler".toList = [
          ⟨.start "Set SetEventHandler".toList,
            ⟨['t', 'e', 'S'], " SetEventHandler".toList⟩⟩,
          ⟨⟨[' ', 't', 'e', 'S'], "SetEventHandler".toList⟩,
            ⟨"Set SetEventHandler".toList.reverse, []⟩⟩] := by
  have hbuild : buildPattern ["Set", "SetEventHandler"] false =
      .ok "(?:\\bSetEventHandler\\b|\\bSet\\b)" := by
    have hsort : longestFirst ["Set", "SetEventHandler"] = ["SetEventHandler", "Set"] := by
      have hlength : "Set".length < "SetEventHandler".length := by decide +kernel
      simp [longestFirst, List.mergeSort, List.MergeSort.Internal.splitInTwo, hlength]
    have hsource : String.ofList (alternation false ["SetEventHandler", "Set"]) =
        "(?:\\bSetEventHandler\\b|\\bSet\\b)" := by decide +kernel
    rw [buildPattern_of_tokenFlaw? (by decide) (by decide +kernel), hsort, hsource]
  have hadvances : Advances (longestAt false ["Set", "SetEventHandler"]) :=
    advances_longestAt (by decide +kernel) false
  obtain ⟨r, hr, hfind, -⟩ := findAll_compiled_eq_scan hbuild
  refine ⟨hbuild, r, hr, ?_⟩
  rw [hfind, hadvances.scan_of_some (n := 3) (by decide +kernel), scan_of_none (by decide +kernel),
    hadvances.scan_of_some (n := 15) (by decide +kernel), scan_of_after_eq_nil (by decide +kernel)]
  decide +kernel

end GeckScript
