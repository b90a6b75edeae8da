import GeckScript.Proofs.Grammar.Rebuild

/-!
The features gate groups of tokens, and a feature moves the rules of its own groups only. If rules
can be made with some features, they can be made with fewer of them as well, and these are the same
rules less those of the groups that went off. What was seen of the scopes in front of a group keeps
rules from being made, but never changes one that is made.
-/

namespace GeckScript

/-- A list of rules taken apart into those of some groups and the others, each in their order. -/
structure Parts (whole kept own : List Rule) : Prop where
  kept_eq : whole.filter (· ∉ own) = kept
  own_eq : whole.filter (· ∈ own) = own

namespace Parts

variable {whole kept own : List Rule} {rule : Rule}

theorem nil : Parts [] [] [] :=
  ⟨rfl, rfl⟩

theorem not_mem_own (h : Parts whole kept own) (hnew : rule ∉ whole) : rule ∉ own := by
  rw [← h.own_eq]
  intro hmem
  exact hnew (List.mem_filter.1 hmem).1

/-- A new rule in front that is kept. -/
theorem cons_kept (h : Parts whole kept own) (hnew : rule ∉ whole) :
    Parts (rule :: whole) (rule :: kept) own where
  kept_eq := by
    rw [List.filter_cons_of_pos (by simpa using h.not_mem_own hnew), h.kept_eq]
  own_eq := by
    rw [List.filter_cons_of_neg (by simpa using h.not_mem_own hnew), h.own_eq]

/-- A new rule in front that is taken out. -/
theorem cons_own (h : Parts whole kept own) (hnew : rule ∉ whole) :
    Parts (rule :: whole) kept (rule :: own) := by
  have hsame {other : Rule} (hother : other ∈ whole) : other ∈ rule :: own ↔ other ∈ own := by
    have hne : other ≠ rule := fun heq => hnew (heq ▸ hother)
    simp [hne]
  constructor
  · rw [List.filter_cons_of_neg (by simp), ← h.kept_eq]
    apply List.filter_congr
    intro other hother
    simp only [hsame hother]
  · rw [List.filter_cons_of_pos (by simp)]
    congr 1
    conv_rhs => rw [← h.own_eq]
    apply List.filter_congr
    intro other hother
    simp only [hsame hother]

theorem length_eq (h : Parts whole kept own) : whole.length = kept.length + own.length := by
  have hsplit := List.length_eq_length_filter_add (l := whole) fun rule => decide (rule ∈ own)
  simp only [← decide_not] at hsplit
  rw [h.own_eq, h.kept_eq] at hsplit
  omega

end Parts

/-- Rules that are made behind some scopes are made behind fewer of them as well. -/
theorem rulesOf_of_subset {seen seen' : List String} {groups : List Group} {rules : List Rule}
    (h : rulesOf seen' groups = .ok rules) (hsub : seen ⊆ seen') :
    rulesOf seen groups = .ok rules := by
  obtain ⟨hnodup, hnew, hrules⟩ := rulesOf_eq_ok_iff.1 h
  refine rulesOf_eq_ok_iff.2 ⟨hnodup, ?_, hrules⟩
  intro g hg hmem
  exact hnew g hg (hsub hmem)

/-- Of any choice among the groups the rules are a part of the rules of all groups. -/
theorem exists_parts_of_rulesOf {seen : List String} {groups : List Group} {rules : List Rule}
    (h : rulesOf seen groups = .ok rules) (p : Group → Bool) :
    ∃ kept own, rulesOf seen (groups.filter p) = .ok kept ∧
      rulesOf seen (groups.filter (!p ·)) = .ok own ∧ Parts rules kept own := by
  induction groups generalizing seen rules with
  | nil =>
    cases h
    exact ⟨[], [], rfl, rfl, .nil⟩
  | cons g groups ih =>
    obtain ⟨hseen, rule, tail, hrule, htail, rfl⟩ := rulesOf_cons_eq_ok_iff.1 h
    obtain ⟨kept, own, hkept, hown, hparts⟩ := ih htail
    -- the scopes of the groups behind differ from that of the first one, and so do their rules
    have hnew : rule ∉ tail := by
      intro hmem
      have hname := List.mem_map_of_mem hmem (f := Rule.name)
      rw [map_name_of_rulesOf htail, Group.name_of_toRule hrule] at hname
      obtain ⟨other, hother, hscope⟩ := List.mem_map.1 hname
      exact (rulesOf_eq_ok_iff.1 htail).2.1 other hother (hscope ▸ List.mem_cons_self)
    have hweaken {part : List Group} {made : List Rule}
        (hmade : rulesOf (g.scope :: seen) part = .ok made) : rulesOf seen part = .ok made :=
      rulesOf_of_subset hmade (List.subset_cons_self _ _)
    by_cases hp : p g
    · refine ⟨rule :: kept, own, ?_, ?_, hparts.cons_kept hnew⟩
      · rw [List.filter_cons_of_pos hp]
        exact rulesOf_cons_eq_ok_iff.2 ⟨hseen, rule, kept, hrule, hkept, rfl⟩
      · rw [List.filter_cons_of_neg (by simpa using hp)]
        exact hweaken hown
    · refine ⟨kept, rule :: own, ?_, ?_, hparts.cons_own hnew⟩
      · rw [List.filter_cons_of_neg hp]
        exact hweaken hkept
      · rw [List.filter_cons_of_pos (by simpa using hp)]
        exact rulesOf_cons_eq_ok_iff.2 ⟨hseen, rule, own, hrule, hown, rfl⟩

section Features

variable {catalogue : List Group} {less more : FeatureSet} {rules : List Rule}

theorem Group.isEnabled_mono (hle : ∀ f, less.has f → more.has f) {g : Group}
    (h : g.isEnabled less) : g.isEnabled more := by
  unfold Group.isEnabled at h ⊢
  cases hgate : g.gate with
  | none => rfl
  | some f =>
    rw [hgate] at h
    exact hle f h

/-- With fewer features the rules are the same, less those of the groups that are off then. -/
theorem exists_parts_of_generateRules (hle : ∀ f, less.has f → more.has f)
    (h : generateRules catalogue more = .ok rules) :
    ∃ kept own, generateRules catalogue less = .ok kept ∧
      generateRules (catalogue.filter (!·.isEnabled less)) more = .ok own ∧
      Parts rules kept own := by
  obtain ⟨kept, own, hkept, hown, hparts⟩ := exists_parts_of_rulesOf h (·.isEnabled less)
  refine ⟨kept, own, ?_, ?_, hparts⟩
  -- a group that is on with fewer features is on with all of them as well
  · rw [List.filter_filter] at hkept
    rw [generateRules, ← hkept]
    congr 1
    apply List.filter_congr
    intro g _
    cases hg : g.isEnabled less with
    | false => rfl
    | true => rw [Group.isEnabled_mono hle hg]; rfl
  · rw [generateRules, List.filter_comm]
    exact hown

/-- The two sets of features differ in one feature, which `more` has. -/
structure FeatureSet.Adds (f : Feature) (less more : FeatureSet) : Prop where
  off : less.has f = false
  on : more.has f = true
  same : ∀ g, g ≠ f → less.has g = more.has g

/-- Switching a feature that is off adds it, and switching one that is on takes it away. -/
theorem FeatureSet.adds_toggle (s : FeatureSet) (f : Feature) :
    if s.has f then Adds f (s.toggle f) s else Adds f s (s.toggle f) := by
  have hsame (g : Feature) (hg : g ≠ f) : (s.toggle f).has g = s.has g := by
    rw [has_toggle, if_neg hg]
  have hswitched : (s.toggle f).has f = !s.has f := by
    rw [has_toggle, if_pos rfl]
  split
  · rename_i hon
    exact ⟨by rw [hswitched, hon]; rfl, hon, hsame⟩
  · rename_i hoff
    have hfalse : s.has f = false := by simpa using hoff
    exact ⟨hfalse, by rw [hswitched, hfalse]; rfl, fun g hg => (hsame g hg).symm⟩

namespace FeatureSet.Adds

variable {f : Feature}

theorem le (h : Adds f less more) (g : Feature) (hg : less.has g) : more.has g := by
  by_cases heq : g = f
  · rw [heq]
    exact h.on
  · rwa [← h.same g heq]

/-- Between the two sets of features just the groups that the feature gates go on or off. -/
theorem isEnabled_and_not (h : Adds f less more) (g : Group) :
    (g.isEnabled more && !g.isEnabled less) = (g.gate == some f) := by
  unfold Group.isEnabled
  cases hgate : g.gate with
  | none => rfl
  | some other =>
    by_cases heq : other = f
    · subst heq
      simp [h.on, h.off]
    · simp [h.same other heq, heq]

end FeatureSet.Adds

def gatedBy (f : Feature) (catalogue : List Group) : List Group :=
  catalogue.filter (·.gate == some f)

theorem filter_isEnabled_gatedBy {f : Feature} (hf : more.has f) :
    (gatedBy f catalogue).filter (·.isEnabled more) = gatedBy f catalogue := by
  rw [List.filter_eq_self]
  intro g hg
  have hgate : g.gate = some f := by simpa using (List.mem_filter.1 hg).2
  rw [Group.isEnabled, hgate]
  exact hf

/-- A feature more or less makes the rules of its own groups more or less. -/
theorem exists_parts_of_adds {f : Feature} (hadds : FeatureSet.Adds f less more)
    (h : generateRules catalogue more = .ok rules) :
    ∃ kept own, generateRules catalogue less = .ok kept ∧
      generateRules (gatedBy f catalogue) .all = .ok own ∧ Parts rules kept own ∧
      own.length = (gatedBy f catalogue).length := by
  obtain ⟨kept, own, hkept, hown, hparts⟩ := exists_parts_of_generateRules hadds.le h
  -- the groups that are on only with the feature are those it gates
  have hgroups : (catalogue.filter (!·.isEnabled less)).filter (·.isEnabled more) =
      gatedBy f catalogue := by
    rw [List.filter_filter]
    apply List.filter_congr
    intro g _
    exact hadds.isEnabled_and_not g
  rw [generateRules, hgroups] at hown
  have hall : FeatureSet.all.has f = true := by cases f <;> rfl
  refine ⟨kept, own, hkept, ?_, hparts, ?_⟩
  · rw [generateRules, filter_isEnabled_gatedBy hall, hown]
  · have hnames := congrArg List.length (map_name_of_rulesOf hown)
    simpa using hnames

/-- Switching a feature makes the rules of its own groups come or go. -/
theorem exists_parts_of_toggle {s : FeatureSet} {f : Feature} {switched : List Rule}
    (h : generateRules catalogue s = .ok rules)
    (h' : generateRules catalogue (s.toggle f) = .ok switched) :
    ∃ own, generateRules (gatedBy f catalogue) .all = .ok own ∧
      if s.has f then
        Parts rules switched own ∧
          (switched.length : Int) - rules.length = -(gatedBy f catalogue).length
      else
        Parts switched rules own ∧
          (switched.length : Int) - rules.length = (gatedBy f catalogue).length := by
  have hadds := s.adds_toggle f
  -- the rules with the feature are the whole, whether it is switched off or on
  by_cases hon : s.has f
  · rw [if_pos hon] at hadds
    obtain ⟨kept, own, hkept, hown, hparts, hlength⟩ := exists_parts_of_adds hadds h
    rw [h'] at hkept
    cases hkept
    have hcount := hparts.length_eq
    refine ⟨own, hown, ?_⟩
    rw [if_pos hon]
    exact ⟨hparts, by omega⟩
  · rw [if_neg hon] at hadds
    obtain ⟨kept, own, hkept, hown, hparts, hlength⟩ := exists_parts_of_adds hadds h'
    rw [h] at hkept
    cases hkept
    have hcount := hparts.length_eq
    refine ⟨own, hown, ?_⟩
    rw [if_neg hon]
    exact ⟨hparts, by omega⟩

theorem exists_generateRules_toggle {s : FeatureSet} {f : Feature} (hon : s.has f)
    (h : generateRules catalogue s = .ok rules) :
    ∃ switched, generateRules catalogue (s.toggle f) = .ok switched := by
  have hadds := s.adds_toggle f
  rw [if_pos hon] at hadds
  obtain ⟨kept, -, hkept, -⟩ := exists_parts_of_generateRules hadds.le h
  exact ⟨kept, hkept⟩

end Features

end GeckScript
