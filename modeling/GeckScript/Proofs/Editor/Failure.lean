import GeckScript.Proofs.Editor.Session

/-!
Calls that fail. They leave the grammar as it is, and all else too unless they switch a feature. A
feature is switched before the rules are made for it, so if these cannot be made it stays switched,
and the grammar no longer shows the features that are on.
-/

namespace GeckScript

theorem FeatureSet.toggle_ne (s : FeatureSet) (f : Feature) : s.toggle f ≠ s := by
  intro h
  have hf := s.has_toggle f f
  rw [h, if_pos rfl] at hf
  revert hf
  cases s.has f <;> decide

namespace Extension

theorem features_switched_eq_iff (e : Extension) (call : Call) :
    (e.switched call).features = e.features ↔ call.feature? = none := by
  rw [switched]
  cases call.feature? with
  | none => simp
  | some f => simpa using e.features.toggle_ne f

theorem handle_eq_switched {e : Extension} {call : Call} {cause : ExtensionError}
    (h : (e.handle call).1.error? = some cause) : (e.handle call).2 = e.switched call := by
  cases hupdates : call.updates with
  | true =>
    cases hrules : generateRules e.catalogue (e.switched call).features with
    | ok rules =>
      rw [(e.handle_of_ok hupdates hrules).1] at h
      cases h
    | error c => exact (e.handle_of_error hupdates hrules).2
  | false =>
    rcases e.handle_of_idle hupdates with ⟨herror, -⟩ | ⟨-, hafter⟩
    · rw [herror] at h
      cases h
    · rw [hafter, switched, Call.feature?_of_updates hupdates]
      rfl

/-- A call that switches a feature fails only for want of rules for the features after it. -/
theorem exists_generateRules_eq_error {e : Extension} {call : Call} {cause : ExtensionError}
    (h : (e.handle call).1.error? = some cause) {f : Feature} (hfeature : call.feature? = some f) :
    ∃ c, generateRules e.catalogue (e.features.toggle f) = .error c ∧ cause = .rebuild c := by
  have hswitched : (e.switched call).features = e.features.toggle f := by
    rw [switched, hfeature]
    rfl
  cases hupdates : call.updates with
  | true =>
    cases hrules : generateRules e.catalogue (e.switched call).features with
    | ok rules =>
      rw [(e.handle_of_ok hupdates hrules).1] at h
      cases h
    | error c =>
      rw [(e.handle_of_error hupdates hrules).1] at h
      rw [hswitched] at hrules
      cases h
      exact ⟨c, hrules, rfl⟩
  | false =>
    rw [Call.feature?_of_updates hupdates] at hfeature
    cases hfeature

/-- A call that fails leaves the features and the grammar as they were exactly if it switches no
feature. The grammar it leaves in any case, and a feature that it switches stays switched, although
the rules for the features after it cannot be made. -/
theorem failed_call_keeps_iff {e : Extension} {call : Call} {cause : ExtensionError}
    (h : (e.handle call).1.error? = some cause) :
    ((e.handle call).2.features = e.features ∧
        (e.handle call).2.grammar.rules = e.grammar.rules ∧
        (e.handle call).2.grammar.revision = e.grammar.revision ↔ call.feature? = none) ∧
      (e.handle call).2.grammar = e.grammar ∧
      ∀ f, call.feature? = some f → (e.handle call).2.features = e.features.toggle f ∧
        ∃ c, generateRules e.catalogue (e.features.toggle f) = .error c ∧ cause = .rebuild c := by
  rw [handle_eq_switched h]
  refine ⟨?_, rfl, ?_⟩
  · rw [← e.features_switched_eq_iff]
    constructor
    · intro hkept
      exact hkept.1
    · intro hfeatures
      exact ⟨hfeatures, rfl, rfl⟩
  · intro f hfeature
    refine ⟨?_, exists_generateRules_eq_error h hfeature⟩
    rw [switched, hfeature]
    rfl

/-- An extension without features, where a group has a token that no pattern can be built for. -/
def unbuildable (gate : Option Feature) : Extension :=
  ⟨.none, .initial, .willing, ⟨⟨"https".toList, none, .segments [], none, none⟩, "title", ""⟩,
    [⟨"keyword.bad", ["ok", ""], false, gate⟩]⟩

theorem failed_call_keeps_activate :
    ((unbuildable none).handle .activate).1.error? =
        some (.rebuild (.pattern "keyword.bad" (.invalidToken 1 "" .blank))) ∧
      ((unbuildable none).handle .activate).2.features = .none ∧
      ((unbuildable none).handle .activate).2.grammar.rules = authoredRules ∧
      ((unbuildable none).handle .activate).2.grammar.revision = 0 := by
  have herror : ((unbuildable none).handle .activate).1.error? =
      some (.rebuild (.pattern "keyword.bad" (.invalidToken 1 "" .blank))) := by
    decide +kernel
  exact ⟨herror, (failed_call_keeps_iff herror).1.2 rfl⟩

/-- The feature that gates the group stays on after it could not be switched on. -/
theorem failed_toggle_stays_switched :
    ((unbuildable (some .fose)).handle (.toggle .fose)).1.error? =
        some (.rebuild (.pattern "keyword.bad" (.invalidToken 1 "" .blank))) ∧
      (unbuildable (some .fose)).features.has .fose = false ∧
      ((unbuildable (some .fose)).handle (.toggle .fose)).2.features.has .fose = true := by
  decide +kernel

end Extension

end GeckScript
