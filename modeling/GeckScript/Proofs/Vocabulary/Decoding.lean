import GeckScript.Proofs.Vocabulary.LongestFirst

/-!
The source of a pattern tells the tokens that it was built from. No character of a token can be
taken for a part of the pattern around it: a token spells every character with a meaning of its own
behind a backslash, and the one letter that the pattern itself puts behind a backslash has none. So
one pass from left to right reads the tokens back, in the order in which the source has them.
-/

namespace GeckScript

open Regex

/-- The tokens that a group of literals spells, where `token` holds the characters that were read of
the first one. A `b` behind a backslash is a boundary, and any other character behind one belongs to
the token. -/
def readTokens (token : List Char) : List Char → List String
  | [] => [String.ofList token]
  | '\\' :: 'b' :: rest => readTokens token rest
  | '\\' :: c :: rest => readTokens (token ++ [c]) rest
  | '|' :: rest => String.ofList token :: readTokens [] rest
  | ')' :: _ => [String.ofList token]
  | c :: rest => readTokens (token ++ [c]) rest

/-- Whether the source of a pattern ignores case, and the tokens that it lists. -/
def readSource? (source : String) : Option (Bool × List String) :=
  match source.toList with
  | '(' :: '?' :: 'i' :: ')' :: '(' :: '?' :: ':' :: group => some (true, readTokens [] group)
  | '(' :: '?' :: ':' :: group => some (false, readTokens [] group)
  | _ => none

section Read

variable (token : List Char)

theorem readTokens_plain {c : Char} (hc : isMeta c = false) (rest : List Char) :
    readTokens token (c :: rest) = readTokens (token ++ [c]) rest := by
  rw [readTokens.eq_def]
  -- every character that is treated apart has a meaning of its own
  split <;> first | rfl | simp_all [isMeta]

theorem readTokens_escaped {c : Char} (hc : isMeta c) (rest : List Char) :
    readTokens token ('\\' :: c :: rest) = readTokens (token ++ [c]) rest := by
  rw [readTokens]
  rintro rfl
  exact absurd hc (by decide)

theorem readTokens_escapeMeta (c : Char) (rest : List Char) :
    readTokens token (escapeMeta c ++ rest) = readTokens (token ++ [c]) rest := by
  unfold escapeMeta
  by_cases hc : isMeta c
  · rw [if_pos hc]
    exact readTokens_escaped token hc rest
  · rw [if_neg hc]
    exact readTokens_plain token (by simpa using hc) rest

theorem readTokens_flatMap_escapeMeta (chars rest : List Char) :
    readTokens token (chars.flatMap escapeMeta ++ rest) = readTokens (token ++ chars) rest := by
  induction chars generalizing token with
  | nil => simp
  | cons c chars ih =>
    rw [List.flatMap_cons, List.append_assoc, readTokens_escapeMeta, ih, List.append_assoc,
      List.singleton_append]

theorem readTokens_boundary (c : Option Char) (rest : List Char) :
    readTokens token (boundary c ++ rest) = readTokens token rest := by
  unfold boundary
  split
  · rw [List.cons_append, List.cons_append, List.nil_append, readTokens]
  · rfl

end Read

/-- A token's literal is read as the characters of the token. -/
theorem readTokens_boundedLiteral (token : String) (rest : List Char) :
    readTokens [] (boundedLiteral token ++ rest) = readTokens token.toList rest := by
  unfold boundedLiteral
  simp only [List.append_assoc]
  rw [readTokens_boundary, readTokens_flatMap_escapeMeta, readTokens_boundary, List.nil_append]

theorem readTokens_literals {tokens : List String} (hne : tokens ≠ []) :
    readTokens [] (['|'].intercalate (tokens.map boundedLiteral) ++ [')']) = tokens := by
  induction tokens with
  | nil => exact absurd rfl hne
  | cons token tokens ih =>
    -- the last literal ends with the group, any other one with a bar
    cases tokens with
    | nil =>
      rw [List.map_singleton, List.intercalate_singleton, readTokens_boundedLiteral, readTokens,
        String.ofList_toList]
    | cons next tokens =>
      have hrest := ih (by simp)
      rw [List.map_cons] at hrest
      rw [List.map_cons, List.map_cons, List.intercalate_cons_cons, List.append_assoc,
        List.append_assoc, readTokens_boundedLiteral, List.singleton_append, readTokens, hrest,
        String.ofList_toList]

theorem readSource?_alternation (ignoreCase : Bool) {tokens : List String} (hne : tokens ≠ []) :
    readSource? (String.ofList (alternation ignoreCase tokens)) = some (ignoreCase, tokens) := by
  have hgroup := readTokens_literals hne
  unfold readSource? alternation
  rw [String.toList_ofList]
  cases ignoreCase with
  | false =>
    show some (false, readTokens [] (['|'].intercalate _ ++ [')'])) = some (false, tokens)
    rw [hgroup]
  | true =>
    show some (true, readTokens [] (['|'].intercalate _ ++ [')'])) = some (true, tokens)
    rw [hgroup]

theorem readSource?_of_buildPattern {tokens : List String} (hne : tokens ≠ [])
    {ignoreCase : Bool} {source : String} (h : buildPattern tokens ignoreCase = .ok source) :
    readSource? source = some (ignoreCase, longestFirst tokens) := by
  rw [eq_alternation_of_buildPattern hne h]
  exact readSource?_alternation ignoreCase (longestFirst_ne_nil hne)

/-- Two sources are the same exactly if both ignore case or both do not, and their tokens are sorted
alike. -/
theorem source_eq_iff {tokens others : List String} (hne : tokens ≠ []) (hne' : others ≠ [])
    {ignoreCase ignoreCase' : Bool} {source source' : String}
    (h : buildPattern tokens ignoreCase = .ok source)
    (h' : buildPattern others ignoreCase' = .ok source') :
    source = source' ↔ ignoreCase = ignoreCase' ∧ longestFirst tokens = longestFirst others := by
  constructor
  · intro heq
    -- equal sources are read alike
    have hread := readSource?_of_buildPattern hne h
    rw [heq, readSource?_of_buildPattern hne' h', Option.some.injEq, Prod.mk.injEq] at hread
    exact ⟨hread.1.symm, hread.2.symm⟩
  · rintro ⟨rfl, hsorted⟩
    rw [eq_alternation_of_buildPattern hne h, eq_alternation_of_buildPattern hne' h', hsorted]

/-- The source that is built for some tokens tells whether case is ignored, and the tokens as they
are sorted. So two sources of tokens are the same only if they agree in both, and the source that is
built for no tokens is none of them. -/
theorem source_tells_tokens {tokens : List String} (hne : tokens ≠ []) {ignoreCase : Bool}
    {source : String} (h : buildPattern tokens ignoreCase = .ok source) :
    readSource? source = some (ignoreCase, longestFirst tokens) ∧
      (∀ others ignoreCase' source', others ≠ [] →
        buildPattern others ignoreCase' = .ok source' →
        (source = source' ↔
          ignoreCase = ignoreCase' ∧ longestFirst tokens = longestFirst others)) ∧
      ∀ ignoreCase', buildPattern [] ignoreCase' ≠ .ok source := by
  have hread := readSource?_of_buildPattern hne h
  refine ⟨hread, ?_, ?_⟩
  · intro others ignoreCase' source' hne' h'
    exact source_eq_iff hne hne' h h'
  · intro ignoreCase' hempty
    -- the source without matches lists no group
    cases hempty
    cases hread

/-- Tokens that look like parts of a pattern. -/
theorem source_tells_tokens_syntax :
    ["\\b|b\\", "(?i)", "a|b"] ≠ [] ∧
      buildPattern ["\\b|b\\", "(?i)", "a|b"] true =
        .ok "(?i)(?:\\\\b\\|b\\\\|\\(\\?i\\)|\\ba\\|b\\b)" ∧
      readSource? "(?i)(?:\\\\b\\|b\\\\|\\(\\?i\\)|\\ba\\|b\\b)" =
        some (true, ["\\b|b\\", "(?i)", "a|b"]) := by
  have hsort : longestFirst ["\\b|b\\", "(?i)", "a|b"] = ["\\b|b\\", "(?i)", "a|b"] :=
    longestFirst_of_pairwise (by decide +kernel)
  have hbuild : buildPattern ["\\b|b\\", "(?i)", "a|b"] true =
      .ok "(?i)(?:\\\\b\\|b\\\\|\\(\\?i\\)|\\ba\\|b\\b)" :=
    buildPattern_of_pairwise (by decide) (by decide +kernel) (by decide +kernel)
      (by decide +kernel)
  refine ⟨by decide, hbuild, ?_⟩
  rw [(source_tells_tokens (by decide) hbuild).1, hsort]

end GeckScript
