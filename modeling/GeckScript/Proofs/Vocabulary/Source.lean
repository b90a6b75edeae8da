import GeckScript.Proofs.Regex.Reading
import GeckScript.Vocabulary.Pattern

/-!
The source that is built for a list of tokens, read back: an alternation with one branch for each
token, of the token's characters between the boundaries that it needs.
-/

namespace GeckScript

open Regex

theorem firstFlaw?_eq_none_iff {tokens : List String} :
    firstFlaw? tokens = none ↔ ∀ token ∈ tokens, tokenFlaw? token = none := by
  rw [firstFlaw?, List.findSome?_eq_none_iff]
  constructor
  · intro h token hmem
    obtain ⟨i, hi⟩ := List.mem_iff_getElem?.1 hmem
    simpa using h (token, i) (List.mk_mem_zipIdx_iff_getElem?.2 hi)
  · rintro h ⟨token, index⟩ hmem
    have htoken := h token (List.mem_of_getElem? (List.mk_mem_zipIdx_iff_getElem?.1 hmem))
    simp [htoken]

theorem toList_ne_nil_of_tokenFlaw? {token : String} (h : tokenFlaw? token = none) :
    token.toList ≠ [] := by
  intro hnil
  rw [tokenFlaw?] at h
  simp [hnil] at h

theorem length_pos_of_tokenFlaw? {token : String} (h : tokenFlaw? token = none) :
    0 < token.length := by
  rw [← String.length_toList]
  exact List.length_pos_iff.2 (toList_ne_nil_of_tokenFlaw? h)

theorem tokenFlaw?_of_buildPattern {tokens : List String} {ignoreCase : Bool} {source : String}
    (h : buildPattern tokens ignoreCase = .ok source) :
    ∀ token ∈ tokens, tokenFlaw? token = none := by
  rw [buildPattern] at h
  split at h
  · cases h
  · rename_i hflaw
    exact firstFlaw?_eq_none_iff.1 hflaw

theorem buildPattern_of_tokenFlaw? {tokens : List String} (hne : tokens ≠ [])
    (h : ∀ token ∈ tokens, tokenFlaw? token = none) (ignoreCase : Bool) :
    buildPattern tokens ignoreCase =
      .ok (String.ofList (alternation ignoreCase (longestFirst tokens))) := by
  rw [buildPattern, firstFlaw?_eq_none_iff.2 h]
  simp [hne]

theorem eq_alternation_of_buildPattern {tokens : List String} (hne : tokens ≠ [])
    {ignoreCase : Bool} {source : String} (h : buildPattern tokens ignoreCase = .ok source) :
    source = String.ofList (alternation ignoreCase (longestFirst tokens)) := by
  rw [buildPattern_of_tokenFlaw? hne (tokenFlaw?_of_buildPattern h)] at h
  exact (Except.ok.inj h).symm

theorem exists_buildPattern_eq_ok_iff {tokens : List String} {ignoreCase : Bool} :
    (∃ source, buildPattern tokens ignoreCase = .ok source) ↔
      ∀ token ∈ tokens, tokenFlaw? token = none := by
  constructor
  · rintro ⟨source, hsource⟩
    exact tokenFlaw?_of_buildPattern hsource
  · intro h
    by_cases hempty : tokens = []
    · subst hempty
      exact ⟨neverMatch, rfl⟩
    · exact ⟨_, buildPattern_of_tokenFlaw? hempty h ignoreCase⟩

def tokenFlags (ignoreCase : Bool) : Flags :=
  { Flags.none with ignoreCase }

def boundaryExprs (c : Option Char) : List Expr :=
  if c.any needsBoundary then [.assert .wordBoundary] else []

def tokenExprs (ignoreCase : Bool) (token : String) : List Expr :=
  boundaryExprs token.toList.head? ++
    (token.toList.map fun c => .one (.ofChar ignoreCase c)) ++
    boundaryExprs token.toList.getLast?

def tokensExpr (ignoreCase : Bool) (tokens : List String) : Expr :=
  if tokens.isEmpty then .cat (.assert .wordBoundary) (.assert .noWordBoundary)
  else .altAll ((longestFirst tokens).map fun token => .catAll (tokenExprs ignoreCase token))

theorem spells_boundary (ignoreCase : Bool) (c : Option Char) :
    Spells (tokenFlags ignoreCase) (boundary c) (boundaryExprs c) := by
  unfold boundary boundaryExprs
  split
  · exact .boundary rfl
  · exact .nil

theorem head?_boundary_ne (c : Option Char) : (boundary c).head? ≠ some '{' := by
  unfold boundary
  split <;> simp

theorem spells_escapeMeta (ignoreCase : Bool) (c : Char) :
    Spells (tokenFlags ignoreCase) (escapeMeta c) [.one (.ofChar ignoreCase c)] := by
  unfold escapeMeta
  by_cases hc : isMeta c
  · rw [if_pos hc]
    exact .escaped rfl hc
  · rw [if_neg hc]
    exact .plain rfl (by simpa using hc)

/-- No character is spelt with an opening brace in front. -/
theorem head?_flatMap_escapeMeta_ne (chars : List Char) :
    (chars.flatMap escapeMeta).head? ≠ some '{' := by
  cases chars with
  | nil => simp
  | cons c chars =>
    rw [List.flatMap_cons, escapeMeta]
    by_cases hc : isMeta c
    · simp [hc]
    · have hbrace : c ≠ '{' := by
        rintro rfl
        exact hc (by decide)
      simp [hc, hbrace]

theorem spells_chars (ignoreCase : Bool) (chars : List Char) :
    Spells (tokenFlags ignoreCase) (chars.flatMap escapeMeta)
      (chars.map fun c => .one (.ofChar ignoreCase c)) := by
  induction chars with
  | nil => exact .nil
  | cons c chars ih =>
    rw [List.flatMap_cons, List.map_cons]
    exact (spells_escapeMeta ignoreCase c).append ih (head?_flatMap_escapeMeta_ne chars)

theorem spells_boundedLiteral (ignoreCase : Bool) (token : String) :
    Spells (tokenFlags ignoreCase) (boundedLiteral token) (tokenExprs ignoreCase token) :=
  ((spells_boundary _ _).append (spells_chars _ _) (head?_flatMap_escapeMeta_ne _)).append
    (spells_boundary _ _) (head?_boundary_ne _)

theorem reads_literals {ignoreCase : Bool} {tokens : List String} (htokens : tokens ≠ [])
    {around : Level} (pos : Nat) (hbranches : around.branches = [])
    (hpieces : around.pieces.filterMap Piece.regex? = []) :
    State.Reads ⟨⟨pos, '(' :: '?' :: ':' ::
        (['|'].intercalate (tokens.map boundedLiteral) ++ [')'])⟩,
      tokenFlags ignoreCase, around, [], []⟩
      (.ok (.altAll (tokens.map fun token => .catAll (tokenExprs ignoreCase token)))) := by
  let parts := tokens.map fun token => (boundedLiteral token, tokenExprs ignoreCase token)
  have hsource : tokens.map boundedLiteral = parts.map Prod.fst := by simp [parts]
  have hexprs : (tokens.map fun token => Expr.catAll (tokenExprs ignoreCase token)) =
      parts.map fun part => .catAll part.2 := by simp [parts]
  have hspells : ∀ part ∈ parts, Spells (tokenFlags ignoreCase) part.1 part.2 := by
    simp only [parts, List.mem_map]
    rintro - ⟨token, -, rfl⟩
    exact spells_boundedLiteral ignoreCase token
  rw [hsource, hexprs]
  -- the reader opens the group, goes through the branches, and is at the end behind the group
  refine .openGroup rfl (.branches rfl (by simpa [parts] using htokens) hspells [] ?_ _)
  intro pos
  have hclose := Level.close_push (.altAll (parts.map fun part => .catAll part.2)) hbranches hpieces
  rw [← hclose]
  exact .nil rfl

theorem parse_alternation (ignoreCase : Bool) {tokens : List String} (h : tokens ≠ []) :
    parse (String.ofList (alternation ignoreCase tokens)) =
      .ok (.altAll (tokens.map fun token => .catAll (tokenExprs ignoreCase token))) := by
  apply State.Reads.parse_eq
  rw [State.start, Text.Reader.ofString, String.toList_ofList, alternation]
  cases ignoreCase with
  | false => exact reads_literals h 0 rfl rfl
  | true => exact .setIgnoreCase rfl (reads_literals h _ rfl rfl)

theorem parse_neverMatch :
    parse neverMatch = .ok (.cat (.assert .wordBoundary) (.assert .noWordBoundary)) := by
  rfl

theorem perm_longestFirst (tokens : List String) : (longestFirst tokens).Perm tokens :=
  List.mergeSort_perm _ _

theorem length_le_trans (a b c : String) : decide (b.length ≤ a.length) →
    decide (c.length ≤ b.length) → decide (c.length ≤ a.length) := by
  simp only [decide_eq_true_eq]
  omega

theorem length_le_total (a b : String) :
    decide (b.length ≤ a.length) || decide (a.length ≤ b.length) := by
  simp only [Bool.or_eq_true, decide_eq_true_eq]
  omega

theorem pairwise_longestFirst (tokens : List String) :
    (longestFirst tokens).Pairwise fun a b => b.length ≤ a.length := by
  simpa [longestFirst] using List.pairwise_mergeSort length_le_trans length_le_total tokens

theorem longestFirst_of_pairwise {tokens : List String}
    (h : tokens.Pairwise fun a b => b.length ≤ a.length) : longestFirst tokens = tokens :=
  List.mergeSort_of_pairwise (by simpa using h)

theorem longestFirst_ne_nil {tokens : List String} (h : tokens ≠ []) :
    longestFirst tokens ≠ [] := by
  intro hnil
  have hperm := perm_longestFirst tokens
  rw [hnil] at hperm
  exact h hperm.nil_eq.symm

/-- The source of tokens that come longest first has them in the order in which they are given. -/
theorem buildPattern_of_pairwise {tokens : List String} {ignoreCase : Bool} {source : String}
    (hne : tokens ≠ []) (hflaws : ∀ token ∈ tokens, tokenFlaw? token = none)
    (hsorted : tokens.Pairwise fun a b => b.length ≤ a.length)
    (hsource : String.ofList (alternation ignoreCase tokens) = source) :
    buildPattern tokens ignoreCase = .ok source := by
  rw [buildPattern_of_tokenFlaw? hne hflaws, longestFirst_of_pairwise hsorted, hsource]

theorem compilePattern_of_buildPattern {tokens : List String} {ignoreCase : Bool} {source : String}
    (h : buildPattern tokens ignoreCase = .ok source) :
    compilePattern source = .ok (tokensExpr ignoreCase tokens) := by
  by_cases hempty : tokens = []
  · subst hempty
    cases h
    rw [compilePattern, parse_neverMatch]
    rfl
  · rw [eq_alternation_of_buildPattern hempty h, compilePattern,
      parse_alternation ignoreCase (longestFirst_ne_nil hempty), tokensExpr,
      if_neg (by simpa using hempty)]

end GeckScript
