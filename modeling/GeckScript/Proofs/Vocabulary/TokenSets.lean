import GeckScript.Proofs.Regex.FirstMatch
import GeckScript.Proofs.Vocabulary.Decoding
import GeckScript.Proofs.Vocabulary.Matches

/-!
What a pattern matches depends on its tokens as a set. Their order and repetitions show in the
source of the pattern, but the longest token that stands at a position is as long in any order. And
of the tokens of two lists together the longest that stands at a position is the longer one of the
two lists' own, so the first match of the joined list is the better one of the two first matches.
-/

namespace GeckScript

open Regex

section Sets

variable {tokens others : List String}

/-- The longest token at a position does not depend on the order of the tokens. -/
theorem longestAt_eq_of_mem_iff (h : ∀ token, token ∈ tokens ↔ token ∈ others)
    (ignoreCase : Bool) : longestAt ignoreCase tokens = longestAt ignoreCase others := by
  funext s
  apply Option.ext
  intro n
  simp only [longestAt_eq_some_iff, h]

theorem max?_append (ms ns : List Nat) : (ms ++ ns).max? = max ms.max? ns.max? := by
  induction ms with
  | nil => simp
  | cons m ms ih =>
    rw [List.cons_append, List.max?_cons, List.max?_cons, ih]
    cases ms.max? <;> cases ns.max? <;> simp [Nat.max_assoc]

theorem longestAt_append (ignoreCase : Bool) (s : Cursor) :
    longestAt ignoreCase (tokens ++ others) s =
      max (longestAt ignoreCase tokens s) (longestAt ignoreCase others s) := by
  unfold longestAt
  rw [List.filter_append, List.map_append, max?_append]

theorem find_tokensExpr_nil (ignoreCase : Bool) (text : List Char) :
    (tokensExpr ignoreCase []).find text = none := by
  rw [(hasHits_tokensExpr (by simp) ignoreCase).find_eq, List.head?_eq_none_iff,
    List.eq_nil_iff_forall_not_mem]
  intro m hm
  obtain ⟨token, hmem, -⟩ := exists_token_of_mem_scan (by simp) hm
  exact List.not_mem_nil hmem

theorem eq_nil_iff_of_mem_iff (h : ∀ token, token ∈ tokens ↔ token ∈ others) :
    tokens = [] ↔ others = [] := by
  simp only [List.eq_nil_iff_forall_not_mem, h]

/-- Two lists with the same tokens have the same matches in every text, in whatever order the tokens
come and however often. Their sources are the same only if the tokens of each length come in the
same order, and equally often. -/
theorem findAll_eq_of_same_tokens {ignoreCase : Bool} {source source' : String}
    (h : buildPattern tokens ignoreCase = .ok source)
    (h' : buildPattern others ignoreCase = .ok source')
    (hsame : ∀ token, token ∈ tokens ↔ token ∈ others) :
    ∃ r r', compilePattern source = .ok r ∧ compilePattern source' = .ok r' ∧
      (∀ text : String, r.findAll text.toList = r'.findAll text.toList) ∧
      (source = source' ↔
        ∀ n, tokens.filter (·.length = n) = others.filter (·.length = n)) := by
  have hhits := hasHits_tokensExpr (tokenFlaw?_of_buildPattern h) ignoreCase
  have hhits' := hasHits_tokensExpr (tokenFlaw?_of_buildPattern h') ignoreCase
  refine ⟨_, _, compilePattern_of_buildPattern h, compilePattern_of_buildPattern h', ?_, ?_⟩
  · intro text
    -- both scans ask for the longest token at each position
    rw [hhits.findAll_eq, hhits'.findAll_eq, longestAt_eq_of_mem_iff hsame]
  · by_cases hempty : tokens = []
    · -- without tokens there is one source only
      have hempty' := (eq_nil_iff_of_mem_iff hsame).1 hempty
      subst hempty hempty'
      rw [h] at h'
      exact iff_of_true (Except.ok.inj h') fun n => rfl
    · have hempty' := mt (eq_nil_iff_of_mem_iff hsame).2 hempty
      rw [source_eq_iff hempty hempty' h h', ← longestFirst_eq_iff, and_iff_right rfl]

theorem findAll_eq_of_same_tokens_cases :
    buildPattern ["set", "SET", "if"] true = .ok "(?i)(?:\\bset\\b|\\bSET\\b|\\bif\\b)" ∧
      buildPattern ["SET", "set", "SET", "if"] true =
        .ok "(?i)(?:\\bSET\\b|\\bset\\b|\\bSET\\b|\\bif\\b)" ∧
      (∀ token, token ∈ ["set", "SET", "if"] ↔ token ∈ ["SET", "set", "SET", "if"]) ∧
      ∃ r r', compilePattern "(?i)(?:\\bset\\b|\\bSET\\b|\\bif\\b)" = .ok r ∧
        compilePattern "(?i)(?:\\bSET\\b|\\bset\\b|\\bSET\\b|\\bif\\b)" = .ok r' ∧
        ∀ text : String, r.findAll text.toList = r'.findAll text.toList := by
  have hbuild : buildPattern ["set", "SET", "if"] true =
      .ok "(?i)(?:\\bset\\b|\\bSET\\b|\\bif\\b)" :=
    buildPattern_of_pairwise (by decide) (by decide +kernel) (by decide +kernel)
      (by decide +kernel)
  have hbuild' : buildPattern ["SET", "set", "SET", "if"] true =
      .ok "(?i)(?:\\bSET\\b|\\bset\\b|\\bSET\\b|\\bif\\b)" :=
    buildPattern_of_pairwise (by decide) (by decide +kernel) (by decide +kernel)
      (by decide +kernel)
  have hsame : ∀ token, token ∈ ["set", "SET", "if"] ↔ token ∈ ["SET", "set", "SET", "if"] := by
    intro token
    simp only [List.mem_cons, List.not_mem_nil, or_false]
    tauto
  obtain ⟨r, r', hr, hr', hfind, -⟩ := findAll_eq_of_same_tokens hbuild hbuild' hsame
  exact ⟨hbuild, hbuild', hsame, r, r', hr, hr', hfind⟩

/-- The first match of two lists of tokens joined is the better one of their first matches. So
tokens that are added take no match away, nor move the first one to the right, nor shorten it where
it starts at the same place, and a list without tokens adds nothing. -/
theorem find_append_eq_better {ignoreCase : Bool} {source source' : String}
    (h : buildPattern tokens ignoreCase = .ok source)
    (h' : buildPattern others ignoreCase = .ok source') :
    ∃ joined r r' t, buildPattern (tokens ++ others) ignoreCase = .ok joined ∧
      compilePattern source = .ok r ∧ compilePattern source' = .ok r' ∧
      compilePattern joined = .ok t ∧
      ∀ text : String,
        t.find text.toList = betterMatch (r.find text.toList) (r'.find text.toList) ∧
        (∀ m, r.find text.toList = some m ∨ r'.find text.toList = some m →
          ∃ best, t.find text.toList = some best ∧ best.AsGood m) ∧
        (tokens = [] → r.find text.toList = none ∧ t.find text.toList = r'.find text.toList) ∧
        (others = [] → r'.find text.toList = none ∧ t.find text.toList = r.find text.toList) := by
  -- the joined list has good tokens only, so it makes a pattern of its own
  have hflaws := tokenFlaw?_of_buildPattern h
  have hflaws' := tokenFlaw?_of_buildPattern h'
  have hjoined : ∀ token ∈ tokens ++ others, tokenFlaw? token = none := by
    intro token hmem
    rcases List.mem_append.1 hmem with hmem | hmem
    · exact hflaws token hmem
    · exact hflaws' token hmem
  obtain ⟨joined, hbuild⟩ := exists_buildPattern_eq_ok_iff.2 hjoined
  have hhits := hasHits_tokensExpr hflaws ignoreCase
  have hhits' := hasHits_tokensExpr hflaws' ignoreCase
  refine ⟨joined, _, _, _, hbuild, compilePattern_of_buildPattern h,
    compilePattern_of_buildPattern h', compilePattern_of_buildPattern hbuild, ?_⟩
  intro text
  have hbetter : (tokensExpr ignoreCase (tokens ++ others)).find text.toList =
      betterMatch ((tokensExpr ignoreCase tokens).find text.toList)
        ((tokensExpr ignoreCase others).find text.toList) := by
    rw [(hasHits_tokensExpr hjoined ignoreCase).find_eq, hhits.find_eq, hhits'.find_eq,
      funext (longestAt_append ignoreCase)]
    exact hhits.head?_scan_maxHit hhits'.toAdvances _
  refine ⟨hbetter, ?_, ?_, ?_⟩
  · intro m hm
    rw [hbetter]
    exact exists_betterMatch_asGood hm
  · rintro rfl
    exact ⟨find_tokensExpr_nil ignoreCase _, rfl⟩
  · rintro rfl
    rw [List.append_nil]
    exact ⟨find_tokensExpr_nil ignoreCase _, rfl⟩

/-- The better match is that of the longer token, which is in the second list. -/
theorem find_append_eq_better_plus :
    buildPattern ["Set"] false = .ok "(?:\\bSet\\b)" ∧
      buildPattern ["Set+", "=="] false = .ok "(?:\\bSet\\+|==)" ∧
      ∃ joined t, buildPattern ["Set", "Set+", "=="] false = .ok joined ∧
        compilePattern joined = .ok t ∧
        t.find "Set+1".toList = some ⟨.start "Set+1".toList, ⟨['+', 't', 'e', 'S'], ['1']⟩⟩ := by
  have hbuild : buildPattern ["Set"] false = .ok "(?:\\bSet\\b)" :=
    buildPattern_of_pairwise (by decide) (by decide +kernel) (by decide +kernel)
      (by decide +kernel)
  have hbuild' : buildPattern ["Set+", "=="] false = .ok "(?:\\bSet\\+|==)" :=
    buildPattern_of_pairwise (by decide) (by decide +kernel) (by decide +kernel)
      (by decide +kernel)
  obtain ⟨joined, r, r', t, hjoined, hr, hr', ht, hfind⟩ := find_append_eq_better hbuild hbuild'
  have hset : r.find "Set+1".toList =
      some ⟨.start "Set+1".toList, ⟨['t', 'e', 'S'], ['+', '1']⟩⟩ := by
    cases hr
    decide +kernel
  have hplus : r'.find "Set+1".toList =
      some ⟨.start "Set+1".toList, ⟨['+', 't', 'e', 'S'], ['1']⟩⟩ := by
    cases hr'
    decide +kernel
  refine ⟨hbuild, hbuild', joined, t, hjoined, ht, ?_⟩
  rw [(hfind "Set+1").1, hset, hplus]
  decide +kernel

end Sets

end GeckScript
