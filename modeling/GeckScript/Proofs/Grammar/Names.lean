import GeckScript.Proofs.Grammar.Rebuild
import Mathlib.Data.List.Nodup

/-!
The names of the rules after a rebuild. The generated rules have different names, as repeated scopes
are refused, and no authored rule is looked at for that: a name comes twice exactly if an authored
rule has the scope of an enabled group for its name. Such a rule is also the one that is found by
the name, as the authored rules come first.
-/

namespace GeckScript

/-- Among rules of different names each is found by its own. -/
theorem find?_eq_some_of_mem {rules : List Rule} (hnodup : (rules.map Rule.name).Nodup)
    {rule : Rule} (hmem : rule ∈ rules) : rules.find? (·.name == rule.name) = some rule := by
  cases hfind : rules.find? (·.name == rule.name) with
  | none =>
    have hnone := List.find?_eq_none.1 hfind rule hmem
    simp at hnone
  | some other =>
    have hother := List.mem_of_find?_eq_some hfind
    have hname : other.name = rule.name := by simpa using List.find?_some hfind
    rw [List.inj_on_of_nodup_map hnodup hother hmem hname]

/-- The rules of enabled groups have different names. -/
theorem nodup_name_of_generateRules {catalogue : List Group} {features : FeatureSet}
    {rules : List Rule} (h : generateRules catalogue features = .ok rules) :
    (rules.map Rule.name).Nodup := by
  rw [map_name_of_rulesOf h]
  exact (rulesOf_eq_ok_iff.1 h).1

theorem mem_map_name_of_generateRules {catalogue : List Group} {features : FeatureSet}
    {rules : List Rule} (h : generateRules catalogue features = .ok rules) (name : String) :
    name ∈ rules.map Rule.name ↔
      ∃ group ∈ catalogue, group.isEnabled features ∧ group.scope = name := by
  rw [map_name_of_rulesOf h]
  simp [and_assoc]

namespace Grammar

variable {g after : Grammar} {catalogue : List Group} {features : FeatureSet}
  {report : RebuildReport} {rules : List Rule}

theorem exists_rules_of_rebuild (h : g.rebuild catalogue features = .ok (report, after)) :
    ∃ rules, generateRules catalogue features = .ok rules ∧ after = g.rebuilt rules := by
  cases hrules : generateRules catalogue features with
  | error cause =>
    rw [rebuild, hrules] at h
    cases h
  | ok rules =>
    rw [g.rebuild_of_generateRules hrules] at h
    cases h
    exact ⟨rules, rfl, rfl⟩

theorem isGenerated_of_mem_authored {rule : Rule} (h : rule ∈ g.authored) :
    rule.isGenerated = false := by
  simpa using (List.mem_filter.1 h).2

/-- The authored rules are looked through first. -/
theorem find?_rebuilt (g : Grammar) (rules : List Rule) (name : String) :
    (g.rebuilt rules).find? name =
      (g.authored.find? (·.name == name)).or (rules.find? (·.name == name)) :=
  List.find?_append

/-- An authored rule hides a generated one of its name. -/
theorem find?_rebuilt_eq_some_iff (hrules : generateRules catalogue features = .ok rules)
    {rule : Rule} (hmem : rule ∈ rules) :
    (g.rebuilt rules).find? rule.name = some rule ↔ ∀ r ∈ g.authored, r.name ≠ rule.name := by
  rw [find?_rebuilt]
  cases hfind : g.authored.find? (·.name == rule.name) with
  | none =>
    rw [Option.none_or, find?_eq_some_of_mem (nodup_name_of_generateRules hrules) hmem]
    simpa using hfind
  | some other =>
    have hother := List.mem_of_find?_eq_some hfind
    have hname : other.name = rule.name := by simpa using List.find?_some hfind
    constructor
    · intro heq
      -- the rule that is found is authored, and the given one generated
      cases heq
      have hauthored := isGenerated_of_mem_authored hother
      rw [isGenerated_of_mem_rulesOf hrules _ hmem] at hauthored
      cases hauthored
    · intro hne
      exact absurd hname (hne other hother)

/-- Where no enabled group has a scope, no generated rule is found by it. -/
theorem isGenerated_of_find?_rebuilt (hrules : generateRules catalogue features = .ok rules)
    {name : String} (hname : ∀ group ∈ catalogue, group.isEnabled features → group.scope ≠ name)
    {rule : Rule} (hfind : (g.rebuilt rules).find? name = some rule) :
    rule.isGenerated = false := by
  have hnone : rules.find? (·.name == name) = none := by
    rw [List.find?_eq_none]
    intro other hother heq
    have hmem : name ∈ rules.map Rule.name :=
      List.mem_map.2 ⟨other, hother, by simpa using heq⟩
    obtain ⟨group, hgroup, henabled, hscope⟩ := (mem_map_name_of_generateRules hrules name).1 hmem
    exact hname group hgroup henabled hscope
  rw [find?_rebuilt, hnone, Option.or_none] at hfind
  exact isGenerated_of_mem_authored (List.mem_of_find?_eq_some hfind)

theorem nodup_name_rebuilt_iff (hrules : generateRules catalogue features = .ok rules)
    (hauthored : (g.authored.map Rule.name).Nodup) :
    ((g.rebuilt rules).rules.map Rule.name).Nodup ↔
      ∀ rule ∈ g.authored, ∀ group ∈ catalogue, group.isEnabled features →
        rule.name ≠ group.scope := by
  show ((g.authored ++ rules).map Rule.name).Nodup ↔ _
  rw [List.map_append, List.nodup_append]
  constructor
  · rintro ⟨-, -, hne⟩ rule hrule group hgroup henabled
    exact hne _ (List.mem_map_of_mem hrule) _
      ((mem_map_name_of_generateRules hrules _).2 ⟨group, hgroup, henabled, rfl⟩)
  · intro hne
    refine ⟨hauthored, nodup_name_of_generateRules hrules, ?_⟩
    intro name hname scope hscope
    obtain ⟨rule, hrule, rfl⟩ := List.mem_map.1 hname
    obtain ⟨group, hgroup, henabled, rfl⟩ := (mem_map_name_of_generateRules hrules scope).1 hscope
    exact hne rule hrule group hgroup henabled

/-- After a rebuild a name comes twice exactly if an authored rule is named like the scope of an
enabled group. By such a scope the group's own rule is found exactly if no authored rule has that
name, and by any other name no generated rule is found. -/
theorem rebuild_name_unique_iff (h : g.rebuild catalogue features = .ok (report, after))
    (hauthored : (g.authored.map Rule.name).Nodup) :
    ((after.rules.map Rule.name).Nodup ↔
        ∀ rule ∈ g.authored, ∀ group ∈ catalogue, group.isEnabled features →
          rule.name ≠ group.scope) ∧
      (∀ group ∈ catalogue, group.isEnabled features →
        ∃ source, buildPattern group.tokens group.ignoreCase = .ok source ∧
          (after.find? group.scope = some ⟨group.scope, source, .generated⟩ ↔
            ∀ rule ∈ g.authored, rule.name ≠ group.scope)) ∧
      (∀ name, (∀ group ∈ catalogue, group.isEnabled features → group.scope ≠ name) →
        ∀ rule, after.find? name = some rule → rule.isGenerated = false) := by
  obtain ⟨rules, hrules, rfl⟩ := exists_rules_of_rebuild h
  refine ⟨nodup_name_rebuilt_iff hrules hauthored, ?_, ?_⟩
  · intro group hgroup henabled
    obtain ⟨rule, hmem, hrule⟩ :=
      exists_mem_of_rulesOf hrules group (List.mem_filter.2 ⟨hgroup, henabled⟩)
    obtain ⟨source, hsource, rfl⟩ := Group.toRule_eq_ok_iff.1 hrule
    exact ⟨source, hsource, find?_rebuilt_eq_some_iff hrules hmem⟩
  · intro name hname rule hfind
    exact isGenerated_of_find?_rebuilt hrules hname hfind

theorem generateRules_set (features : FeatureSet) :
    generateRules [⟨"keyword.a", ["set"], false, none⟩] features =
      .ok [⟨"keyword.a", "(?:\\bset\\b)", .generated⟩] := by
  have hbuild : buildPattern ["set"] false = .ok "(?:\\bset\\b)" := by
    have hsource : String.ofList (alternation false ["set"]) = "(?:\\bset\\b)" := by
      decide +kernel
    rw [buildPattern_of_tokenFlaw? (by decide) (by decide +kernel),
      longestFirst_of_pairwise (by simp), hsource]
  show rulesOf [] [⟨"keyword.a", ["set"], false, none⟩] = _
  exact rulesOf_eq_ok_iff.2
    ⟨by simp, by simp, .cons (Group.toRule_of_buildPattern hbuild) .nil⟩

theorem rebuild_name_unique_stale :
    ((ofRules [⟨"keyword.a", "stale", .generated⟩,
        ⟨"comment", ";.*$", .authored⟩]).authored.map Rule.name).Nodup ∧
      ∃ after, (ofRules [⟨"keyword.a", "stale", .generated⟩,
          ⟨"comment", ";.*$", .authored⟩]).rebuild
          [⟨"keyword.a", ["set"], false, none⟩] .all = .ok (⟨1, 1⟩, after) ∧
        (after.rules.map Rule.name).Nodup ∧
        ∃ source, after.find? "keyword.a" = some ⟨"keyword.a", source, .generated⟩ := by
  have hrebuild := (ofRules [⟨"keyword.a", "stale", .generated⟩,
    ⟨"comment", ";.*$", .authored⟩]).rebuild_of_generateRules (generateRules_set .all)
  have hauthored : ((ofRules [⟨"keyword.a", "stale", .generated⟩,
      ⟨"comment", ";.*$", .authored⟩]).authored.map Rule.name).Nodup := by
    decide +kernel
  obtain ⟨hnodup, hfind, -⟩ := rebuild_name_unique_iff hrebuild hauthored
  obtain ⟨source, -, hsource⟩ := hfind ⟨"keyword.a", ["set"], false, none⟩ List.mem_cons_self rfl
  refine ⟨hauthored, _, hrebuild, hnodup.2 ?_, source, hsource.2 ?_⟩
  · decide +kernel
  · decide +kernel

/-- An authored rule that is named like the scope of a group hides the rule of the group. -/
theorem rebuild_repeats_authored_name :
    ((ofRules [⟨"keyword.a", "a", .authored⟩]).authored.map Rule.name).Nodup ∧
      ∃ report after, (ofRules [⟨"keyword.a", "a", .authored⟩]).rebuild
          [⟨"keyword.a", ["set"], false, none⟩] .all = .ok (report, after) ∧
        ¬ (after.rules.map Rule.name).Nodup ∧
        after.find? "keyword.a" = some ⟨"keyword.a", "a", .authored⟩ := by
  refine ⟨by decide +kernel, _, _, rebuild_of_generateRules _ (generateRules_set .all), ?_, ?_⟩
  · decide +kernel
  · decide +kernel

end Grammar

end GeckScript
