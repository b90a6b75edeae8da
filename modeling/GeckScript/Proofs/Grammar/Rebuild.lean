import GeckScript.Grammar.Rebuild
import GeckScript.Proofs.Vocabulary.Standard
import Mathlib.Algebra.Group.Nat.Defs
import Mathlib.Data.List.Forall2

/-!
What a rebuild does to a grammar: it keeps the authored rules in their order and puts the rules of
the enabled groups behind them. It can only fail where the catalogue repeats a scope or has a group
whose tokens make no pattern.
-/

namespace GeckScript

/-- A catalogue that makes rules whatever features are switched on. -/
structure SoundCatalogue (catalogue : List Group) : Prop where
  scopes_nodup : (catalogue.map Group.scope).Nodup
  tokens_accepted : ∀ g ∈ catalogue, ∃ source, buildPattern g.tokens g.ignoreCase = .ok source

theorem SoundCatalogue.filter {catalogue : List Group} (h : SoundCatalogue catalogue)
    (p : Group → Bool) : SoundCatalogue (catalogue.filter p) where
  scopes_nodup := h.scopes_nodup.sublist (List.filter_sublist.map Group.scope)
  tokens_accepted g hg := h.tokens_accepted g (List.mem_filter.1 hg).1

theorem Group.toRule_of_buildPattern {g : Group} {source : String}
    (h : buildPattern g.tokens g.ignoreCase = .ok source) :
    g.toRule = .ok ⟨g.scope, source, .generated⟩ := by
  rw [Group.toRule, h]

theorem Group.toRule_eq_ok_iff {g : Group} {rule : Rule} :
    g.toRule = .ok rule ↔ ∃ source, buildPattern g.tokens g.ignoreCase = .ok source ∧
      rule = ⟨g.scope, source, .generated⟩ := by
  rw [Group.toRule]
  cases buildPattern g.tokens g.ignoreCase with
  | error cause => simp
  | ok source => simp [eq_comm]

theorem Group.isGenerated_of_toRule {g : Group} {rule : Rule} (h : g.toRule = .ok rule) :
    rule.isGenerated := by
  obtain ⟨source, -, rfl⟩ := Group.toRule_eq_ok_iff.1 h
  rfl

theorem Group.name_of_toRule {g : Group} {rule : Rule} (h : g.toRule = .ok rule) :
    rule.name = g.scope := by
  obtain ⟨source, -, rfl⟩ := Group.toRule_eq_ok_iff.1 h
  rfl

theorem rulesOf_cons_eq_ok_iff {seen : List String} {g : Group} {rest : List Group}
    {rules : List Rule} :
    rulesOf seen (g :: rest) = .ok rules ↔
      g.scope ∉ seen ∧ ∃ rule tail, g.toRule = .ok rule ∧
        rulesOf (g.scope :: seen) rest = .ok tail ∧ rules = rule :: tail := by
  rw [rulesOf]
  split
  · rename_i hmem
    simp only [List.contains_iff_mem] at hmem
    simp [hmem]
  · rename_i hmem
    simp only [List.contains_iff_mem] at hmem
    cases hrule : g.toRule with
    | error cause => simp [bind, Except.bind]
    | ok rule =>
      cases htail : rulesOf (g.scope :: seen) rest with
      | error cause => simp [bind, Except.bind]
      | ok tail => simp [bind, Except.bind, pure, Except.pure, hmem, eq_comm]

/-- Groups make rules exactly if their scopes are new and differ, and each group makes its own. -/
theorem rulesOf_eq_ok_iff {seen : List String} {groups : List Group} {rules : List Rule} :
    rulesOf seen groups = .ok rules ↔
      (groups.map Group.scope).Nodup ∧ (∀ g ∈ groups, g.scope ∉ seen) ∧
        List.Forall₂ (fun g rule => g.toRule = .ok rule) groups rules := by
  induction groups generalizing seen rules with
  | nil => simp [rulesOf]
  | cons g groups ih =>
    rw [rulesOf_cons_eq_ok_iff, List.map_cons, List.nodup_cons, List.forall_mem_cons,
      List.forall₂_cons_left_iff]
    constructor
    · rintro ⟨hseen, rule, tail, hrule, htail, rfl⟩
      obtain ⟨hnodup, hnew, hrules⟩ := ih.1 htail
      refine ⟨⟨?_, hnodup⟩, ⟨hseen, ?_⟩, rule, tail, hrule, hrules, rfl⟩
      · intro hmem
        obtain ⟨other, hother, heq⟩ := List.mem_map.1 hmem
        exact hnew other hother (heq ▸ List.mem_cons_self)
      · intro other hother hmem
        exact hnew other hother (List.mem_cons_of_mem _ hmem)
    · rintro ⟨⟨hscope, hnodup⟩, ⟨hseen, hnew⟩, rule, tail, hrule, hrules, rfl⟩
      refine ⟨hseen, rule, tail, hrule, ih.2 ⟨hnodup, ?_, hrules⟩, rfl⟩
      intro other hother hmem
      -- a group behind has another scope than this one
      rcases List.mem_cons.1 hmem with heq | hmem
      · exact hscope (heq ▸ List.mem_map_of_mem hother)
      · exact hnew other hother hmem

/-- A sound catalogue has rules, as long as no scope of it was seen before. -/
theorem SoundCatalogue.exists_rulesOf_eq_ok {groups : List Group} (h : SoundCatalogue groups)
    {seen : List String} (hseen : ∀ g ∈ groups, g.scope ∉ seen) :
    ∃ rules, rulesOf seen groups = .ok rules := by
  have hrules : ∃ rules, List.Forall₂ (fun g rule => g.toRule = .ok rule) groups rules := by
    obtain ⟨-, haccepted⟩ := h
    clear hseen
    induction groups with
    | nil => exact ⟨[], .nil⟩
    | cons g groups ih =>
      obtain ⟨⟨source, hsource⟩, hrest⟩ := List.forall_mem_cons.1 haccepted
      obtain ⟨rules, hrules⟩ := ih hrest
      exact ⟨_, .cons (Group.toRule_of_buildPattern hsource) hrules⟩
  obtain ⟨rules, hrules⟩ := hrules
  exact ⟨rules, rulesOf_eq_ok_iff.2 ⟨h.scopes_nodup, hseen, hrules⟩⟩

theorem SoundCatalogue.exists_generateRules_eq_ok {catalogue : List Group}
    (h : SoundCatalogue catalogue) (features : FeatureSet) :
    ∃ rules, generateRules catalogue features = .ok rules :=
  (h.filter _).exists_rulesOf_eq_ok (by simp)

theorem soundCatalogue_standardCatalogue : SoundCatalogue standardCatalogue where
  scopes_nodup := by decide +kernel
  tokens_accepted _ hg := exists_buildPattern_eq_ok_iff.2 (tokenFlaw?_of_mem_standardCatalogue hg)

section Rules

variable {seen : List String} {groups : List Group} {rules : List Rule}

/-- The rules of groups come in their order, under their scopes. -/
theorem map_name_of_rulesOf (h : rulesOf seen groups = .ok rules) :
    rules.map Rule.name = groups.map Group.scope := by
  obtain ⟨-, -, hrules⟩ := rulesOf_eq_ok_iff.1 h
  clear h
  induction hrules with
  | nil => rfl
  | cons hrule _ ih => rw [List.map_cons, List.map_cons, ih, Group.name_of_toRule hrule]

theorem isGenerated_of_mem_rulesOf (h : rulesOf seen groups = .ok rules) :
    ∀ rule ∈ rules, rule.isGenerated := by
  obtain ⟨-, -, hrules⟩ := rulesOf_eq_ok_iff.1 h
  clear h
  induction hrules with
  | nil => simp
  | cons hrule _ ih => exact List.forall_mem_cons.2 ⟨Group.isGenerated_of_toRule hrule, ih⟩

/-- Every group has its rule among the rules. -/
theorem exists_mem_of_rulesOf (h : rulesOf seen groups = .ok rules) :
    ∀ g ∈ groups, ∃ rule ∈ rules, g.toRule = .ok rule := by
  obtain ⟨-, -, hrules⟩ := rulesOf_eq_ok_iff.1 h
  clear h
  induction hrules with
  | nil => simp
  | cons hrule _ ih =>
    refine List.forall_mem_cons.2 ⟨⟨_, List.mem_cons_self, hrule⟩, ?_⟩
    intro g hg
    obtain ⟨rule, hmem, hg⟩ := ih g hg
    exact ⟨rule, List.mem_cons_of_mem _ hmem, hg⟩

end Rules

/-! ### Revisions -/

/-- Below the limit of its bits a revision counts. -/
theorem toNat_add_ofNat_of_lt {revision : UInt64} {n : Nat} (h : revision.toNat + n < 2 ^ 64) :
    (revision + .ofNat n).toNat = revision.toNat + n := by
  have hn : n % 2 ^ 64 = n := Nat.mod_eq_of_lt (by omega)
  rw [UInt64.toNat_add, UInt64.toNat_ofNat', hn, Nat.mod_eq_of_lt h]

theorem add_one_add_ofNat (revision : UInt64) (n : Nat) :
    revision + 1 + .ofNat n = revision + .ofNat (n + 1) := by
  rw [UInt64.ofNat_add, UInt64.add_assoc, UInt64.add_comm 1]
  rfl

namespace Grammar

def rebuilt (g : Grammar) (rules : List Rule) : Grammar :=
  { g with rules := g.authored ++ rules, revision := g.revision + 1 }

theorem rebuild_of_generateRules (g : Grammar) {catalogue : List Group} {features : FeatureSet}
    {rules : List Rule} (h : generateRules catalogue features = .ok rules) :
    g.rebuild catalogue features = .ok (⟨g.generated.length, rules.length⟩, g.rebuilt rules) := by
  rw [rebuild, h]
  rfl

/-- A rebuild keeps the authored rules. -/
theorem authored_rebuilt (g : Grammar) {catalogue : List Group} {features : FeatureSet}
    {rules : List Rule} (h : generateRules catalogue features = .ok rules) :
    (g.rebuilt rules).authored = g.authored := by
  have hnone : rules.filter (!·.isGenerated) = [] := by
    rw [List.filter_eq_nil_iff]
    intro rule hrule
    simp [isGenerated_of_mem_rulesOf h rule hrule]
  show (g.authored ++ rules).filter (!·.isGenerated) = g.authored
  rw [List.filter_append, hnone, List.append_nil]
  exact List.filter_filter.trans (by simp [authored])

/-- A rebuild drops the rules that were generated before. -/
theorem generated_rebuilt (g : Grammar) {catalogue : List Group} {features : FeatureSet}
    {rules : List Rule} (h : generateRules catalogue features = .ok rules) :
    (g.rebuilt rules).generated = rules := by
  have hall : rules.filter Rule.isGenerated = rules :=
    List.filter_eq_self.2 (isGenerated_of_mem_rulesOf h)
  have hnone : g.authored.filter Rule.isGenerated = [] := by
    rw [List.filter_eq_nil_iff]
    intro rule hrule
    simpa [authored] using (List.mem_filter.1 hrule).2
  show (g.authored ++ rules).filter Rule.isGenerated = rules
  rw [List.filter_append, hnone, hall, List.nil_append]

end Grammar

end GeckScript
