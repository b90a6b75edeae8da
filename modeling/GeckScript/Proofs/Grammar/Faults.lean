import GeckScript.Proofs.Grammar.Rebuild
import Mathlib.Data.List.DropRight

/-!
What keeps the rules of a catalogue from being made, and which fault is reported. Of the enabled
groups the first that repeats a scope or has a bad token is reported, for the scope if it repeats
one, and otherwise for its first bad token. Groups that are not enabled play no part.
-/

namespace GeckScript

open Text

/-! ### Tokens -/

def trimBlanks (text : List Char) : List Char :=
  (text.dropWhile isBlank).rdropWhile isBlank

/-- A token that no pattern is built for: nothing but blanks, or with a control character in it. -/
def IsBadToken (token : String) : Prop :=
  trimBlanks token.toList = [] ∨ ∃ c ∈ token.toList, isControl c

/-- What is said of a bad token: that it is blank before all, and a NUL character before other
controls. -/
def badTokenFlaw (token : String) : TokenFlaw :=
  if trimBlanks token.toList = [] then .blank
  else if '\x00' ∈ token.toList then .nul
  else .control

theorem trimBlanks_eq_nil_iff {text : List Char} :
    trimBlanks text = [] ↔ ∀ c ∈ text, isBlank c := by
  rw [trimBlanks, List.rdropWhile_eq_nil_iff]
  constructor
  · intro h
    rw [← List.takeWhile_append_dropWhile (p := isBlank) (l := text)]
    intro c hc
    rcases List.mem_append.1 hc with hc | hc
    · exact List.mem_takeWhile_imp hc
    · exact h c hc
  · intro h c hc
    exact h c ((List.dropWhile_suffix _).subset hc)

theorem tokenFlaw?_eq (token : String) :
    tokenFlaw? token =
      if trimBlanks token.toList = [] then some .blank
      else if '\x00' ∈ token.toList then some .nul
      else if token.toList.any isControl then some .control
      else none := by
  simp only [tokenFlaw?, trimBlanks_eq_nil_iff, List.all_eq_true, List.contains_iff_mem]

theorem tokenFlaw?_of_isBadToken {token : String} (h : IsBadToken token) :
    tokenFlaw? token = some (badTokenFlaw token) := by
  rw [tokenFlaw?_eq, badTokenFlaw]
  by_cases hblank : trimBlanks token.toList = []
  · rw [if_pos hblank, if_pos hblank]
  by_cases hnul : '\x00' ∈ token.toList
  · rw [if_neg hblank, if_neg hblank, if_pos hnul, if_pos hnul]
  · have hcontrol := List.any_eq_true.2 (h.resolve_left hblank)
    rw [if_neg hblank, if_neg hblank, if_neg hnul, if_neg hnul, if_pos hcontrol]

theorem tokenFlaw?_eq_none_iff {token : String} : tokenFlaw? token = none ↔ ¬ IsBadToken token := by
  constructor
  · intro hnone hbad
    rw [tokenFlaw?_of_isBadToken hbad] at hnone
    cases hnone
  · intro hgood
    obtain ⟨hblank, hcontrol⟩ := not_or.1 hgood
    have hnul : '\x00' ∉ token.toList := fun hmem => hcontrol ⟨_, hmem, rfl⟩
    rw [tokenFlaw?_eq, if_neg hblank, if_neg hnul, if_neg (mt List.any_eq_true.1 hcontrol)]

theorem tokenFlaw?_eq_some_iff {token : String} {flaw : TokenFlaw} :
    tokenFlaw? token = some flaw ↔ IsBadToken token ∧ flaw = badTokenFlaw token := by
  by_cases hbad : IsBadToken token
  · rw [tokenFlaw?_of_isBadToken hbad, Option.some.injEq, eq_comm, and_iff_right hbad]
  · rw [tokenFlaw?_eq_none_iff.2 hbad]
    exact iff_of_false nofun fun h => hbad h.1

/-- The first bad token is reported, with its index in the order in which the tokens are given. -/
theorem firstFlaw?_eq_some_iff {tokens : List String} {index : Nat} {token : String}
    {flaw : TokenFlaw} :
    firstFlaw? tokens = some (index, token, flaw) ↔
      ∃ front back, tokens = front ++ token :: back ∧ index = front.length ∧
        (∀ other ∈ front, ¬ IsBadToken other) ∧ IsBadToken token ∧
        flaw = badTokenFlaw token := by
  have hfront (front : List String) :
      (∀ p ∈ front.zipIdx, ((tokenFlaw? p.1).map fun flaw => (p.2, p.1, flaw)) = none) ↔
        ∀ other ∈ front, ¬ IsBadToken other := by
    rw [← List.findSome?_eq_none_iff]
    refine (@firstFlaw?_eq_none_iff front).trans ?_
    simp only [tokenFlaw?_eq_none_iff]
  rw [firstFlaw?, List.findSome?_eq_some_iff]
  -- the index of a token is the number of those in front of it
  constructor
  · rintro ⟨_, _, _, hsplit, hflaw, hnone⟩
    obtain ⟨front, _, rfl, rfl, hback⟩ := List.zipIdx_eq_append_iff.1 hsplit
    obtain ⟨other, back, rfl, rfl, -⟩ := List.zipIdx_eq_cons_iff.1 hback.symm
    obtain ⟨flaw, hflaw, heq⟩ := Option.map_eq_some_iff.1 hflaw
    cases heq
    obtain ⟨hbad, rfl⟩ := tokenFlaw?_eq_some_iff.1 hflaw
    exact ⟨front, back, rfl, Nat.zero_add _, (hfront front).1 hnone, hbad, rfl⟩
  · rintro ⟨front, back, rfl, rfl, hgood, hbad, rfl⟩
    refine ⟨front.zipIdx, (token, front.length), back.zipIdx (front.length + 1), ?_, ?_,
      (hfront front).2 hgood⟩
    · rw [List.zipIdx_append, List.zipIdx_cons, Nat.zero_add]
    · show (tokenFlaw? token).map _ = _
      rw [tokenFlaw?_of_isBadToken hbad]
      rfl

theorem buildPattern_eq_error_iff {tokens : List String} {ignoreCase : Bool}
    {cause : PatternError} :
    buildPattern tokens ignoreCase = .error cause ↔
      ∃ front token back, tokens = front ++ token :: back ∧
        (∀ other ∈ front, ¬ IsBadToken other) ∧ IsBadToken token ∧
        cause = .invalidToken front.length token (badTokenFlaw token) := by
  have hflaw : buildPattern tokens ignoreCase = .error cause ↔
      ∃ index token flaw, firstFlaw? tokens = some (index, token, flaw) ∧
        cause = .invalidToken index token flaw := by
    rw [buildPattern]
    rcases firstFlaw? tokens with - | ⟨index, token, flaw⟩
    · dsimp only
      split <;> simp
    · simp [eq_comm]
  rw [hflaw]
  constructor
  · rintro ⟨_, token, _, hfirst, rfl⟩
    obtain ⟨front, back, rfl, rfl, hgood, hbad, rfl⟩ := firstFlaw?_eq_some_iff.1 hfirst
    exact ⟨front, token, back, rfl, hgood, hbad, rfl⟩
  · rintro ⟨front, token, back, rfl, hgood, hbad, rfl⟩
    exact ⟨_, _, _, firstFlaw?_eq_some_iff.2 ⟨front, back, rfl, rfl, hgood, hbad, rfl⟩, rfl⟩

/-! ### Groups -/

/-- Groups that can all have their rules: their scopes differ and no token is bad. -/
structure SoundGroups (groups : List Group) : Prop where
  scopes_nodup : (groups.map Group.scope).Nodup
  good : ∀ g ∈ groups, ∀ token ∈ g.tokens, ¬ IsBadToken token

theorem soundGroups_iff {groups : List Group} : SoundGroups groups ↔ SoundCatalogue groups := by
  have hgood (g : Group) : (∀ token ∈ g.tokens, ¬ IsBadToken token) ↔
      ∃ source, buildPattern g.tokens g.ignoreCase = .ok source := by
    simp only [exists_buildPattern_eq_ok_iff, tokenFlaw?_eq_none_iff]
  constructor
  · rintro ⟨hnodup, h⟩
    exact ⟨hnodup, fun g hg => (hgood g).1 (h g hg)⟩
  · rintro ⟨hnodup, h⟩
    exact ⟨hnodup, fun g hg => (hgood g).2 (h g hg)⟩

theorem exists_rulesOf_eq_ok_iff {groups : List Group} :
    (∃ rules, rulesOf [] groups = .ok rules) ↔ SoundGroups groups := by
  rw [soundGroups_iff]
  constructor
  · rintro ⟨rules, hrules⟩
    refine ⟨(rulesOf_eq_ok_iff.1 hrules).1, fun g hg => ?_⟩
    obtain ⟨rule, -, hrule⟩ := exists_mem_of_rulesOf hrules g hg
    obtain ⟨source, hsource, -⟩ := Group.toRule_eq_ok_iff.1 hrule
    exact ⟨source, hsource⟩
  · exact fun hsound => hsound.exists_rulesOf_eq_ok fun _ _ => List.not_mem_nil

theorem Group.toRule_eq_error_iff {g : Group} {cause : RebuildError} :
    g.toRule = .error cause ↔
      ∃ front token back, g.tokens = front ++ token :: back ∧
        (∀ other ∈ front, ¬ IsBadToken other) ∧ IsBadToken token ∧
        cause = .pattern g.scope (.invalidToken front.length token (badTokenFlaw token)) := by
  have hpattern : g.toRule = .error cause ↔
      ∃ fault, buildPattern g.tokens g.ignoreCase = .error fault ∧
        cause = .pattern g.scope fault := by
    rw [Group.toRule]
    cases buildPattern g.tokens g.ignoreCase with
    | ok source => simp
    | error fault => simp [eq_comm]
  rw [hpattern]
  constructor
  · rintro ⟨_, hfault, rfl⟩
    obtain ⟨front, token, back, htokens, hgood, hbad, rfl⟩ := buildPattern_eq_error_iff.1 hfault
    exact ⟨front, token, back, htokens, hgood, hbad, rfl⟩
  · rintro ⟨front, token, back, htokens, hgood, hbad, rfl⟩
    exact ⟨_, buildPattern_eq_error_iff.2 ⟨front, token, back, htokens, hgood, hbad, rfl⟩, rfl⟩

/-- If rules are not made, the groups up to some group have theirs, and that group repeats a scope
or makes no rule of its own. A repeated scope is reported even if the group makes no rule. -/
theorem exists_of_rulesOf_eq_error {seen : List String} {groups : List Group}
    {cause : RebuildError} (h : rulesOf seen groups = .error cause) :
    ∃ front g back, groups = front ++ g :: back ∧ (∃ rules, rulesOf seen front = .ok rules) ∧
      if g.scope ∈ front.map Group.scope ++ seen then cause = .duplicate g.scope
      else g.toRule = .error cause := by
  -- along the groups, the scopes of those in front are added to the ones seen
  induction groups generalizing seen with
  | nil => cases h
  | cons g groups ih =>
    rw [rulesOf] at h
    by_cases hseen : seen.contains g.scope
    · rw [if_pos hseen] at h
      cases h
      exact ⟨[], g, groups, rfl, ⟨[], rfl⟩, by simp [List.contains_iff_mem.1 hseen]⟩
    · rw [if_neg hseen] at h
      have hnew : g.scope ∉ seen := fun hmem => hseen (List.contains_iff_mem.2 hmem)
      cases hrule : g.toRule with
      | error c =>
        rw [hrule] at h
        cases h
        exact ⟨[], g, groups, rfl, ⟨[], rfl⟩, by simp [hnew, hrule]⟩
      | ok rule =>
        cases hrest : rulesOf (g.scope :: seen) groups with
        | ok rules =>
          rw [hrule, hrest] at h
          cases h
        | error c =>
          rw [hrule, hrest] at h
          cases h
          obtain ⟨front, other, back, rfl, ⟨rules, hrules⟩, hother⟩ := ih hrest
          have hcons : rulesOf seen (g :: front) = .ok (rule :: rules) :=
            rulesOf_cons_eq_ok_iff.2 ⟨hnew, rule, rules, hrule, hrules, rfl⟩
          refine ⟨g :: front, other, back, rfl, ⟨_, hcons⟩, ?_⟩
          have hmem : other.scope ∈ (g :: front).map Group.scope ++ seen ↔
              other.scope ∈ front.map Group.scope ++ g.scope :: seen := by
            simp only [List.map_cons, List.cons_append, List.mem_cons, List.mem_append]
            tauto
          simpa only [hmem] using hother

/-- Rules are made exactly if the enabled groups are sound, one for each group in order. Otherwise
the first group that makes them unsound is reported: that it repeats a scope before anything wrong
with its tokens, and of these the first bad one. -/
theorem generateRules_reports_first_fault (catalogue : List Group) (features : FeatureSet) :
    let enabled := catalogue.filter (·.isEnabled features)
    (SoundGroups enabled → ∃ rules, generateRules catalogue features = .ok rules ∧
      List.Forall₂ (fun g rule => rule.name = g.scope ∧ rule.isGenerated ∧
        buildPattern g.tokens g.ignoreCase = .ok rule.source) enabled rules) ∧
    (¬ SoundGroups enabled → ∃ front g back, enabled = front ++ g :: back ∧ SoundGroups front ∧
      if g.scope ∈ front.map Group.scope then
        generateRules catalogue features = .error (.duplicate g.scope)
      else ∃ before token after, g.tokens = before ++ token :: after ∧
        (∀ other ∈ before, ¬ IsBadToken other) ∧ IsBadToken token ∧
        generateRules catalogue features =
          .error (.pattern g.scope (.invalidToken before.length token (badTokenFlaw token)))) ∧
    ∀ other : List Group, other.filter (·.isEnabled features) = enabled →
      generateRules other features = generateRules catalogue features := by
  intro enabled
  have hgenerate : generateRules catalogue features = rulesOf [] enabled := rfl
  rw [hgenerate]
  refine ⟨?sound, ?unsound, ?others⟩
  case sound =>
    intro hsound
    obtain ⟨rules, hrules⟩ := exists_rulesOf_eq_ok_iff.2 hsound
    refine ⟨rules, hrules, (rulesOf_eq_ok_iff.1 hrules).2.2.imp ?_⟩
    intro g rule hrule
    obtain ⟨source, hsource, rfl⟩ := Group.toRule_eq_ok_iff.1 hrule
    exact ⟨rfl, rfl, hsource⟩
  case unsound =>
    intro hunsound
    cases hrules : rulesOf [] enabled with
    | ok rules => exact absurd (exists_rulesOf_eq_ok_iff.1 ⟨rules, hrules⟩) hunsound
    | error cause =>
      obtain ⟨front, g, back, hsplit, hfront, hfault⟩ := exists_of_rulesOf_eq_error hrules
      refine ⟨front, g, back, hsplit, exists_rulesOf_eq_ok_iff.1 hfront, ?_⟩
      rw [List.append_nil] at hfault
      split_ifs at hfault ⊢ with hscope
      · rw [hfault]
      · obtain ⟨before, token, after, htokens, hgood, hbad, rfl⟩ :=
          Group.toRule_eq_error_iff.1 hfault
        exact ⟨before, token, after, htokens, hgood, hbad, rfl⟩
  case others =>
    intro other hother
    rw [generateRules, hother]

/-- A repeated scope hides the bad tokens of its group, and a group that is off hides its own. -/
example :
    generateRules [⟨"a", ["x"], false, none⟩, ⟨"b", [""], false, some .nvse⟩,
      ⟨"a", ["\x00"], false, none⟩] .none = .error (.duplicate "a") := by
  decide +kernel

end GeckScript
