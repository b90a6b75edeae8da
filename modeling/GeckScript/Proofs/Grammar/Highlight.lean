import GeckScript.Grammar.Basic
import GeckScript.Proofs.Grammar.Rebuild
import GeckScript.Proofs.Vocabulary.Identifiers

/-!
What the rules of the standard catalogue match. Its tokens are identifiers, so the rule of a group
matches the whole words of a text that the group lists. No word is listed by two groups, so a text
is highlighted by one rule at most at every place.
-/

namespace GeckScript

open Regex Text

theorem isIdentifier_of_isAsciiWord {token : String} (hne : token ≠ "")
    (h : ∀ c ∈ token.toList, isAsciiWord c) : IsIdentifier token where
  ne_nil := mt String.toList_eq_nil_iff.1 hne
  word c hc := isWordChar_of_isAsciiWord (h c hc)
  bounded := by
    intro c hc
    have hbounds := toNat_of_isAsciiWord (h c hc)
    rw [needsBoundary, isAlphanumeric, if_pos (by omega)]
    exact h c hc

theorem isIdentifier_of_mem_standardCatalogue {g : Group} (hg : g ∈ standardCatalogue) :
    ∀ token ∈ g.tokens, IsIdentifier token := by
  intro token hmem
  exact isIdentifier_of_isAsciiWord (ne_empty_of_mem_standardCatalogue g hg token hmem)
    (isAsciiWord_of_mem_standardCatalogue g hg token hmem)

def Group.compiled (g : Group) : CompiledRule :=
  ⟨g.scope, tokensExpr g.ignoreCase g.tokens⟩

theorem compileRules_of_rulesOf {seen : List String} {groups : List Group} {rules : List Rule}
    (h : rulesOf seen groups = .ok rules) :
    compileRules rules = .ok (groups.map Group.compiled) := by
  obtain ⟨-, -, hrules⟩ := rulesOf_eq_ok_iff.1 h
  clear h
  induction hrules with
  | nil => rfl
  | cons hrule _ ih =>
    obtain ⟨source, hsource, rfl⟩ := Group.toRule_eq_ok_iff.1 hrule
    rw [compileRules] at ih
    rw [compileRules, List.mapM_cons, compilePattern_of_buildPattern hsource, ih]
    rfl

theorem Group.mem_findAll_compiled_iff {g : Group} (h : ∀ token ∈ g.tokens, IsIdentifier token)
    {text : List Char} {m : Found} :
    m ∈ g.compiled.regex.findAll text ↔ m.IsWord text ∧
      ∃ token ∈ g.tokens, spelling g.ignoreCase token.toList = spelling g.ignoreCase m.chars := by
  rw [Group.compiled, findAll_identifiers h, List.mem_filter, mem_words_iff, isListed_iff]

/-- Groups without a common token, up to case, do not match at one place. -/
theorem Group.isApart_of_mem_findAll {g g' : Group} (h : ∀ token ∈ g.tokens, IsIdentifier token)
    (h' : ∀ token ∈ g'.tokens, IsIdentifier token)
    (hdisjoint : ∀ token ∈ g.tokens, ∀ other ∈ g'.tokens,
      token.toList.map fold ≠ other.toList.map fold)
    {text : List Char} {m m' : Found} (hm : m ∈ g.compiled.regex.findAll text)
    (hm' : m' ∈ g'.compiled.regex.findAll text) : m.IsApart m' := by
  obtain ⟨hword, token, htoken, hspelling⟩ := (Group.mem_findAll_compiled_iff h).1 hm
  obtain ⟨hword', other, hother, hspelling'⟩ := (Group.mem_findAll_compiled_iff h').1 hm'
  refine isApart_of_mem_words (mem_words_iff.2 hword) (mem_words_iff.2 hword') ?_
  -- one match of both groups would be spelled like a token of each
  rintro rfl
  apply hdisjoint token htoken other hother
  rw [map_fold_eq_of_spelling_eq hspelling, map_fold_eq_of_spelling_eq hspelling']

def blockTypeScope : String :=
  "keyword.control.geck.blocktype"

theorem ignoreCase_of_mem_standardCatalogue : ∀ g ∈ standardCatalogue,
    g.ignoreCase = decide (g.scope = blockTypeScope) := by
  decide +kernel

/-- The rules of the standard catalogue match the whole words of a text that are tokens of their
groups, the block types in any case. What two of them match lies apart. -/
theorem standard_rules_match_words (features : FeatureSet) :
    ∃ report after compiled,
      Grammar.initial.rebuild standardCatalogue features = .ok (report, after) ∧
      compileRules after.generated = .ok compiled ∧
      List.Forall₂ (fun (group : Group) (rule : CompiledRule) =>
          rule.name = group.scope ∧
          ∀ (text : List Char) (m : Found), m ∈ rule.regex.findAll text ↔
            m.IsWord text ∧ ∃ token ∈ group.tokens,
              if group.scope = blockTypeScope then token.toList.map fold = m.chars.map fold
              else token.toList = m.chars)
        (standardCatalogue.filter (·.isEnabled features)) compiled ∧
      compiled.Pairwise fun rule other =>
        ∀ text, ∀ m ∈ rule.regex.findAll text, ∀ m' ∈ other.regex.findAll text, m.IsApart m' := by
  obtain ⟨rules, hrules⟩ := soundCatalogue_standardCatalogue.exists_generateRules_eq_ok features
  refine ⟨_, _, (standardCatalogue.filter (·.isEnabled features)).map Group.compiled,
    Grammar.initial.rebuild_of_generateRules hrules, ?_, ?_, ?_⟩
  · rw [Grammar.initial.generated_rebuilt hrules]
    exact compileRules_of_rulesOf hrules
  · rw [List.forall₂_map_right_iff, List.forall₂_same]
    intro group hgroup
    have hmem := (List.mem_filter.1 hgroup).1
    refine ⟨rfl, fun text m => ?_⟩
    rw [Group.mem_findAll_compiled_iff (isIdentifier_of_mem_standardCatalogue hmem),
      ignoreCase_of_mem_standardCatalogue group hmem]
    by_cases hscope : group.scope = blockTypeScope <;> simp [hscope, spelling]
  · rw [List.pairwise_map]
    refine (pairwise_fold_standardCatalogue.filter _).imp_of_mem ?_
    intro g g' hg hg' hdisjoint text m hm m' hm'
    exact Group.isApart_of_mem_findAll
      (isIdentifier_of_mem_standardCatalogue (List.mem_filter.1 hg).1)
      (isIdentifier_of_mem_standardCatalogue (List.mem_filter.1 hg').1) hdisjoint hm hm'

end GeckScript
