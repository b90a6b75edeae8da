import GeckScript.Proofs.Editor.Session
import GeckScript.Proofs.Grammar.Gates

/-!
Switching one feature of an extension whose rules are in line with its features. The rules of the
groups that the feature gates come or go, and all other rules stay as they are and where they are.
-/

namespace GeckScript

def Answer.outcome? : Answer → Option CommandOutcome
  | executed result => result.toOption
  | toggled result => result.toOption
  | _ => none

namespace Extension

/-- The generated rules are those that the features ask for. -/
def InLine (e : Extension) : Prop :=
  generateRules e.catalogue e.features = .ok e.grammar.generated

theorem toggle_of_generateRules (e : Extension) {f : Feature} {rules : List Rule}
    (h : generateRules e.catalogue (e.features.toggle f) = .ok rules) :
    e.toggle f =
      (.ok (.toggled f (!e.features.has f) ⟨e.grammar.generated.length, rules.length⟩),
        { e with features := e.features.toggle f, grammar := e.grammar.rebuilt rules }) := by
  have hupdate := updateGrammar_of_generateRules { e with features := e.features.toggle f } h
  have hswitched : (e.features.toggle f).has f = !e.features.has f := by
    rw [FeatureSet.has_toggle, if_pos rfl]
  rw [toggle, hupdate]
  show (Except.ok (CommandOutcome.toggled f ((e.features.toggle f).has f) _), _) = _
  rw [hswitched]

theorem toggle_of_error (e : Extension) {f : Feature} {cause : RebuildError}
    (h : generateRules e.catalogue (e.features.toggle f) = .error cause) :
    (e.toggle f).1 = .error (.rebuild cause) := by
  have hupdate := updateGrammar_of_error { e with features := e.features.toggle f } h
  rw [toggle, hupdate]
  rfl

/-- A call that switches a feature, directly or by the name of a command, does what the switch
does. -/
theorem handle_of_feature? (e : Extension) {call : Call} {f : Feature}
    (h : call.feature? = some f) :
    (e.handle call).1.outcome? = (e.toggle f).1.toOption ∧
      (e.handle call).2 = (e.toggle f).2 := by
  cases call with
  | activate => cases h
  | updateGrammar => cases h
  | lookup selections => cases h
  | toggle g =>
    cases h
    exact ⟨rfl, rfl⟩
  | execute name selections =>
    rw [Call.feature?] at h
    split at h
    · rename_i g hname
      cases h
      have hexecute : e.execute name selections = e.toggle f := by
        rw [execute, hname]
      rw [handle, hexecute]
      exact ⟨rfl, rfl⟩
    · cases h

/-- Features only act on the groups that they gate. With fewer features rules can still be made if
they could before, and they are the same less those of the groups that went off. So a call that
switches a feature of an extension whose rules are in line makes the rules of the feature's own
groups come or go, counts them in its report, and never fails to switch the feature off. -/
theorem features_gate_own_rules :
    (∀ {catalogue : List Group} {less more : FeatureSet} {rules : List Rule},
      (∀ f, less.has f → more.has f) → generateRules catalogue more = .ok rules →
      ∃ kept own, generateRules catalogue less = .ok kept ∧
        generateRules (catalogue.filter (!·.isEnabled less)) more = .ok own ∧
        Parts rules kept own) ∧
    ∀ {e : Extension} {call : Call} {f : Feature}, e.InLine → call.feature? = some f →
      (e.features.has f → (e.handle call).1.outcome?.isSome) ∧
      ∀ outcome, (e.handle call).1.outcome? = some outcome →
        let before := e.grammar
        let after := (e.handle call).2.grammar
        (e.handle call).2.InLine ∧ after.authored = before.authored ∧
        ∃ own report, generateRules (gatedBy f e.catalogue) .all = .ok own ∧
          outcome = .toggled f (!e.features.has f) report ∧
          if e.features.has f then
            Parts before.generated after.generated own ∧
              (report.added : Int) - report.removed = -(gatedBy f e.catalogue).length
          else
            Parts after.generated before.generated own ∧
              (report.added : Int) - report.removed = (gatedBy f e.catalogue).length := by
  refine ⟨fun hle h => exists_parts_of_generateRules hle h, ?_⟩
  intro e call f hline hfeature
  obtain ⟨houtcome, hafter⟩ := e.handle_of_feature? hfeature
  rw [houtcome, hafter]
  constructor
  · intro hon
    obtain ⟨rules, hrules⟩ := exists_generateRules_toggle hon hline
    rw [e.toggle_of_generateRules hrules]
    rfl
  · intro outcome hsome
    -- the switch succeeded, so the rules for the switched features could be made
    cases hrules : generateRules e.catalogue (e.features.toggle f) with
    | error cause =>
      rw [e.toggle_of_error hrules] at hsome
      cases hsome
    | ok rules =>
      rw [e.toggle_of_generateRules hrules] at hsome ⊢
      cases hsome
      have hgenerated := e.grammar.generated_rebuilt hrules
      obtain ⟨own, hown, hparts⟩ := exists_parts_of_toggle hline hrules
      refine ⟨?_, e.grammar.authored_rebuilt hrules, own, _, hown, rfl, ?_⟩
      · show generateRules e.catalogue (e.features.toggle f) =
          .ok (e.grammar.rebuilt rules).generated
        rw [hgenerated, hrules]
      · rw [hgenerated]
        exact hparts

/-- The standard groups lose one rule with the feature NX, and a command that switches it off after
the first update of the grammar says so. -/
theorem features_gate_own_rules_nx :
    (∃ rules kept own, generateRules standardCatalogue .all = .ok rules ∧
      generateRules standardCatalogue (FeatureSet.all.toggle .nx) = .ok kept ∧
      Parts rules kept own) ∧
    ∃ e : Extension, e.catalogue = standardCatalogue ∧ e.InLine ∧
      (Call.execute "language-geck:toggleNX" []).feature? = some .nx ∧
      ∃ report, (e.handle (.execute "language-geck:toggleNX" [])).1.outcome? =
          some (.toggled .nx false report) ∧
        (report.added : Int) - report.removed = -1 := by
  obtain ⟨rules, hrules⟩ := soundCatalogue_standardCatalogue.exists_generateRules_eq_ok .all
  constructor
  · have hle (f : Feature) (_ : (FeatureSet.all.toggle .nx).has f) : FeatureSet.all.has f := by
      cases f <;> rfl
    obtain ⟨kept, own, hkept, -, hparts⟩ := features_gate_own_rules.1 hle hrules
    exact ⟨rules, kept, own, hrules, hkept, hparts⟩
  · let site : Site := ⟨⟨"https".toList, none, .segments [], none, none⟩, "title", ""⟩
    obtain ⟨e, he⟩ : ∃ e, e = (installed site).updateGrammar.2 := ⟨_, rfl⟩
    rw [updateGrammar_of_generateRules (installed site) hrules] at he
    have hcatalogue : e.catalogue = standardCatalogue := by
      rw [he]
      rfl
    have hon : e.features.has .nx = true := by
      rw [he]
      rfl
    have hline : e.InLine := by
      rw [he, InLine, Grammar.generated_rebuilt (installed site).grammar hrules]
      exact hrules
    have hfeature : (Call.execute "language-geck:toggleNX" []).feature? = some .nx := by
      decide +kernel
    obtain ⟨hsome, hswitch⟩ := features_gate_own_rules.2 hline hfeature
    obtain ⟨outcome, houtcome⟩ := Option.isSome_iff_exists.1 (hsome hon)
    obtain ⟨-, -, own, report, -, rfl, hparts⟩ := hswitch outcome houtcome
    have hgated : (gatedBy .nx standardCatalogue).length = 1 := by decide +kernel
    rw [if_pos hon, hcatalogue, hgated] at hparts
    rw [hon] at houtcome
    exact ⟨e, hcatalogue, hline, hfeature, report, houtcome, hparts.2⟩

end Extension

end GeckScript
