import GeckScript.Proofs.Text.CaseFold
import GeckScript.Proofs.Vocabulary.Matches

/-!
The characters at the two edges of a token. A token asks for a boundary at an edge with a letter, a
number or an underscore, and a boundary is there only next to a word character of the pattern
language. The two classes differ, so a token may ask for a boundary that its own text does not have:
the pattern finds the whole of a token's text exactly if it asks for none of these.
-/

namespace GeckScript

open Regex Text

theorem needsBoundary_of_isLetter {c : Char} (h : isLetter c) : needsBoundary c := by
  simp [needsBoundary, isAlphanumeric_of_isLetter h]

/-- A property that all letters have does not tell apart characters that count as the same. -/
theorem map_eq_of_sameChars {p : Char → Bool} (hp : ∀ c, isLetter c → p c) {ignoreCase : Bool}
    {chars text : List Char} (h : List.Forall₂ (fun c d => sameChar ignoreCase c d) chars text) :
    chars.map p = text.map p := by
  induction h with
  | nil => rfl
  | cons hsame _ ih =>
    rw [List.map_cons, List.map_cons, ih]
    cases ignoreCase with
    | false => rw [eq_of_beq hsame]
    | true => rw [eq_of_sameFold hp hsame]

theorem forall_mem_of_sameChars {p : Char → Bool} (hp : ∀ c, isLetter c → p c) {ignoreCase : Bool}
    {chars text : List Char} (h : List.Forall₂ (fun c d => sameChar ignoreCase c d) chars text)
    (hchars : ∀ c ∈ chars, p c) : ∀ d ∈ text, p d := by
  intro d hd
  have hmem : p d ∈ chars.map p := by
    rw [map_eq_of_sameChars hp h]
    exact List.mem_map_of_mem hd
  obtain ⟨c, hc, heq⟩ := List.mem_map.1 hmem
  rw [← heq]
  exact hchars c hc

theorem any_head?_eq_of_sameChars {p : Char → Bool} (hp : ∀ c, isLetter c → p c)
    {ignoreCase : Bool} {chars text : List Char}
    (h : List.Forall₂ (fun c d => sameChar ignoreCase c d) chars text) :
    chars.head?.any p = text.head?.any p := by
  have hmap := congrArg (fun bs => bs.head?.any id) (map_eq_of_sameChars hp h)
  simpa [List.head?_map, Option.any_map] using hmap

theorem any_getLast?_eq_of_sameChars {p : Char → Bool} (hp : ∀ c, isLetter c → p c)
    {ignoreCase : Bool} {chars text : List Char}
    (h : List.Forall₂ (fun c d => sameChar ignoreCase c d) chars text) :
    chars.getLast?.any p = text.getLast?.any p := by
  have hmap := congrArg (fun bs => bs.getLast?.any id) (map_eq_of_sameChars hp h)
  simpa [List.getLast?_map, Option.any_map] using hmap

theorem edgeFits_iff {c : Option Char} {s : Cursor} :
    edgeFits c s ↔ (c.any needsBoundary → s.wordBefore ≠ s.wordAfter) := by
  unfold edgeFits Cursor.atBoundary
  cases c.any needsBoundary <;> simp

def edges (token : String) : List Char :=
  token.toList.head?.toList ++ token.toList.getLast?.toList

theorem forall_mem_edges_imp {token : String} {p q : Char → Bool} :
    (∀ c ∈ edges token, p c → q c) ↔
      (token.toList.head?.any p → token.toList.head?.any q) ∧
        (token.toList.getLast?.any p → token.toList.getLast?.any q) := by
  unfold edges
  cases token.toList.head? <;> cases token.toList.getLast? <;> simp

theorem advance_start_token (token : String) :
    (Cursor.start token.toList).advance token.length = ⟨token.toList.reverse, []⟩ := by
  rw [← String.length_toList, Cursor.advance_start_length]

/-- A token stands in front of its own text alone unless it asks for a boundary that is not
there. -/
theorem standsAt_start_self_iff (ignoreCase : Bool) (token : String) :
    standsAt ignoreCase (.start token.toList) token ↔
      ∀ c ∈ edges token, needsBoundary c → isWordChar c := by
  have halike : startsAlike ignoreCase token.toList (Cursor.start token.toList).after := by
    simpa using startsAlike_append ignoreCase token.toList []
  have hstart : edgeFits token.toList.head? (.start token.toList) ↔
      (token.toList.head?.any needsBoundary → token.toList.head?.any isWordChar) := by
    rw [edgeFits_iff, Cursor.wordBefore_eq, Cursor.wordAfter_eq]
    cases h : token.toList.head?.any isWordChar <;> simp [h]
  have hstop : edgeFits token.toList.getLast? ⟨token.toList.reverse, []⟩ ↔
      (token.toList.getLast?.any needsBoundary → token.toList.getLast?.any isWordChar) := by
    rw [edgeFits_iff, Cursor.wordBefore_eq, Cursor.wordAfter_eq]
    cases h : token.toList.getLast?.any isWordChar <;> simp [h]
  rw [forall_mem_edges_imp, standsAt, advance_start_token, halike, Bool.true_and,
    Bool.and_eq_true, hstart, hstop]

/-- Whether a token asks for a boundary at an edge is left alone by case folding. -/
theorem edgeFits_eq_of_sameChars {ignoreCase : Bool} {chars text : List Char}
    (h : List.Forall₂ (fun c d => sameChar ignoreCase c d) chars text) (s : Cursor) :
    edgeFits chars.head? s = edgeFits text.head? s ∧
      edgeFits chars.getLast? s = edgeFits text.getLast? s := by
  simp only [edgeFits,
    any_head?_eq_of_sameChars (fun _ => needsBoundary_of_isLetter) h,
    any_getLast?_eq_of_sameChars (fun _ => needsBoundary_of_isLetter) h, and_self]

theorem standsAt_of_sameChars {ignoreCase : Bool} {s : Cursor} {token other : String}
    (h : List.Forall₂ (fun c d => sameChar ignoreCase c d) other.toList token.toList)
    (halike : startsAlike ignoreCase token.toList s.after) (hstands : standsAt ignoreCase s other) :
    standsAt ignoreCase s token := by
  have hlength : other.length = token.length := by
    simpa [← String.length_toList] using h.length_eq
  unfold standsAt at hstands ⊢
  rw [← (edgeFits_eq_of_sameChars h _).1, ← (edgeFits_eq_of_sameChars h _).2, ← hlength, halike]
  simp only [Bool.and_eq_true] at hstands ⊢
  exact ⟨⟨trivial, hstands.1.2⟩, hstands.2⟩

def Regex.Found.whole (text : List Char) : Found :=
  ⟨.start text, ⟨text.reverse, []⟩⟩

/-- The pattern finds the whole of a token in the token's own text exactly if the token does not
ask for a boundary next to a character that is no word character. -/
theorem find_token_eq_whole_iff {tokens : List String} {ignoreCase : Bool} {source : String}
    (h : buildPattern tokens ignoreCase = .ok source) {token : String} (hmem : token ∈ tokens) :
    ∃ r, compilePattern source = .ok r ∧
      (r.find token.toList = some (.whole token.toList) ↔
        ∀ c ∈ edges token, needsBoundary c → isWordChar c) := by
  have hflaws := tokenFlaw?_of_buildPattern h
  have hhits := hasHits_tokensExpr hflaws ignoreCase
  refine ⟨_, compilePattern_of_buildPattern h, ?_⟩
  rw [hhits.find_eq, ← standsAt_start_self_iff ignoreCase]
  constructor
  · intro hfind
    obtain ⟨rest, hscan⟩ := List.head?_eq_some_iff.1 hfind
    obtain ⟨i, n, -, hn, hwhole, -⟩ := hhits.exists_of_scan_eq_cons hscan
    rw [← Cursor.advance_advance, Found.whole, Found.mk.injEq] at hwhole
    rw [← hwhole.1] at hn
    obtain ⟨⟨other, -, hstands, rfl⟩, -⟩ := longestAt_eq_some_iff.1 hn
    -- the match takes all characters, so its token is the given one up to case
    have hdrop : token.toList.drop other.length = [] := by
      have hafter := congrArg Cursor.after hwhole.2
      rw [← hwhole.1] at hafter
      simpa using hafter.symm
    have hsame := startsAlike_iff.1 (startsAlike_of_standsAt hstands)
    have htake : (Cursor.start token.toList).after.take other.toList.length = token.toList :=
      List.take_of_length_le (by simpa [String.length_toList] using List.drop_eq_nil_iff.1 hdrop)
    rw [htake] at hsame
    exact standsAt_of_sameChars hsame (by simpa using startsAlike_append ignoreCase token.toList [])
      hstands
  · intro hstands
    -- no token that stands there is longer than the text
    have hlongest : longestAt ignoreCase tokens (.start token.toList) = some token.length := by
      refine longestAt_eq_some_iff.2 ⟨⟨token, hmem, hstands, rfl⟩, ?_⟩
      intro other _ hother
      simpa [← String.length_toList] using length_le_of_standsAt hother
    rw [hhits.scan_of_some hlongest, advance_start_token]
    rfl

theorem find_token_eq_whole_plus :
    buildPattern ["x+"] false = .ok "(?:\\bx\\+)" ∧
      ∃ r, compilePattern "(?:\\bx\\+)" = .ok r ∧
        r.find "x+".toList = some (.whole "x+".toList) := by
  have hbuild : buildPattern ["x+"] false = .ok "(?:\\bx\\+)" := by
    have hsource : String.ofList (alternation false ["x+"]) = "(?:\\bx\\+)" := by decide +kernel
    rw [buildPattern_of_tokenFlaw? (by decide) (by decide +kernel),
      longestFirst_of_pairwise (by simp), hsource]
  obtain ⟨r, hr, hfind⟩ := find_token_eq_whole_iff hbuild List.mem_cons_self
  exact ⟨hbuild, r, hr, hfind.2 (forall_mem_edges_imp.2 (by decide +kernel))⟩

/-- A superscript two is a number and no word character, so as a token it matches nowhere. -/
theorem find_superscript_two :
    buildPattern ["²"] false = .ok "(?:\\b²\\b)" ∧
      ∃ r, compilePattern "(?:\\b²\\b)" = .ok r ∧ r.find "²".toList = none := by
  refine ⟨?_, _, rfl, by decide +kernel⟩
  have hsource : String.ofList (alternation false ["²"]) = "(?:\\b²\\b)" := by decide +kernel
  rw [buildPattern_of_tokenFlaw? (by decide) (by decide +kernel),
    longestFirst_of_pairwise (by simp), hsource]

end GeckScript
