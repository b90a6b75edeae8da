import GeckScript.Editor.Extension
import GeckScript.Proofs.Grammar.Rebuild
import Mathlib.Algebra.Ring.Parity

/-!
Sessions: an editor calls an extension again and again. Over a sound catalogue no call fails to
update the grammar, and a session comes down to which features were switched an odd number of
times: the features decide the generated rules, and the authored rules stay.
-/

namespace GeckScript

inductive Call where
  | activate
  | execute (name : String) (selections : List Selection)
  | lookup (selections : List Selection)
  | toggle (feature : Feature)
  | updateGrammar
  deriving Repr, DecidableEq

namespace Call

/-- The feature that a call switches, directly or by the name of a command. -/
def feature? : Call → Option Feature
  | execute name _ =>
    match Command.ofName? name with
    | some (.toggle f) => some f
    | _ => none
  | toggle f => some f
  | _ => none

def updates : Call → Bool
  | activate => true
  | updateGrammar => true
  | call => call.feature?.isSome

theorem updates_execute (name : String) (selections : List Selection) :
    (execute name selections).updates = (execute name selections).feature?.isSome := rfl

/-- A feature is never switched without an update of the grammar. -/
theorem feature?_of_updates {call : Call} (h : call.updates = false) : call.feature? = none := by
  cases call with
  | activate => rfl
  | updateGrammar => rfl
  | lookup => rfl
  | execute name selections => exact Option.isNone_iff_eq_none.1 (Option.isSome_eq_false_iff.1 h)
  | toggle f => cases h

end Call

inductive Answer where
  | activated (commands : List String) (result : Except ExtensionError RebuildReport)
  | executed (result : Except ExtensionError CommandOutcome)
  | lookedUp (outcomes : List LookupOutcome)
  | toggled (result : Except ExtensionError CommandOutcome)
  | updated (result : Except ExtensionError RebuildReport)

def Answer.error? : Answer → Option ExtensionError
  | activated _ (.error e) => some e
  | executed (.error e) => some e
  | toggled (.error e) => some e
  | updated (.error e) => some e
  | _ => none

namespace Extension

def installed (site : Site) : Extension :=
  ⟨.all, .initial, .willing, site, standardCatalogue⟩

def handle (e : Extension) : Call → Answer × Extension
  | .activate =>
    let (commands, result, e) := e.activate
    (.activated commands result, e)
  | .execute name selections =>
    let (result, e) := e.execute name selections
    (.executed result, e)
  | .lookup selections =>
    let (outcomes, e) := e.lookup selections
    (.lookedUp outcomes, e)
  | .toggle f =>
    let (result, e) := e.toggle f
    (.toggled result, e)
  | .updateGrammar =>
    let (result, e) := e.updateGrammar
    (.updated result, e)

def run (e : Extension) : List Call → List Answer × Extension
  | [] => ([], e)
  | call :: rest =>
    let (answer, e) := e.handle call
    let (answers, e) := e.run rest
    (answer :: answers, e)

theorem updateGrammar_of_generateRules (e : Extension) {rules : List Rule}
    (h : generateRules e.catalogue e.features = .ok rules) :
    e.updateGrammar = (.ok ⟨e.grammar.generated.length, rules.length⟩,
      { e with grammar := e.grammar.rebuilt rules }) := by
  rw [updateGrammar, e.grammar.rebuild_of_generateRules h]

theorem updateGrammar_of_error (e : Extension) {cause : RebuildError}
    (h : generateRules e.catalogue e.features = .error cause) :
    e.updateGrammar = (.error (.rebuild cause), e) := by
  rw [updateGrammar, Grammar.rebuild, h]

theorem openPage_snd (e : Extension) (page : Page) :
    (e.openPage page).2 = { e with browser := (e.browser.ask (e.site.urlFor page)).2 } := by
  unfold openPage
  dsimp only
  split <;> rename_i h <;> rw [h]

theorem exists_lookup_snd_eq (e : Extension) (selections : List Selection) :
    ∃ browser, (e.lookup selections).2 = { e with browser } := by
  induction selections generalizing e with
  | nil => exact ⟨e.browser, rfl⟩
  | cons s rest ih =>
    obtain ⟨browser, h⟩ := ih (e.openPage (s.page wordRegex)).2
    refine ⟨browser, ?_⟩
    rw [lookup, h, openPage_snd]

/-- The extension after a call has switched its feature, if it switches one. -/
def switched (e : Extension) (call : Call) : Extension :=
  { e with features := call.feature?.elim e.features e.features.toggle }

theorem exists_toggle_eq (e : Extension) (f : Feature) :
    ∃ on, e.toggle f = ((e.switched (.toggle f)).updateGrammar.1.map (.toggled f on),
      (e.switched (.toggle f)).updateGrammar.2) :=
  ⟨_, rfl⟩

/-- Every call that updates the grammar switches its feature first and updates then. -/
theorem handle_of_updates (e : Extension) {call : Call} (h : call.updates) :
    (e.handle call).1.error? = (Answer.updated (e.switched call).updateGrammar.1).error? ∧
      (e.handle call).2 = (e.switched call).updateGrammar.2 := by
  cases call with
  | activate =>
    refine ⟨?_, rfl⟩
    show (Answer.activated _ e.updateGrammar.1).error? = (Answer.updated e.updateGrammar.1).error?
    cases e.updateGrammar.1 <;> rfl
  | updateGrammar => exact ⟨rfl, rfl⟩
  | lookup selections => cases h
  | toggle f =>
    obtain ⟨on, htoggle⟩ := e.exists_toggle_eq f
    rw [handle, htoggle]
    refine ⟨?_, rfl⟩
    cases (e.switched (.toggle f)).updateGrammar.1 <;> rfl
  | execute name selections =>
    rw [Call.updates_execute, Call.feature?] at h
    split at h
    · rename_i f hname
      have hswitched : e.switched (.execute name selections) = e.switched (.toggle f) := by
        rw [switched, Call.feature?, hname]
        rfl
      have hexecute : e.execute name selections = e.toggle f := by
        rw [execute, hname]
      obtain ⟨on, htoggle⟩ := e.exists_toggle_eq f
      rw [handle, hexecute, htoggle, hswitched]
      refine ⟨?_, rfl⟩
      cases (e.switched (.toggle f)).updateGrammar.1 <;> rfl
    · -- only the name of a switching command makes it an update
      cases h

theorem handle_of_ok (e : Extension) {call : Call} {rules : List Rule} (h : call.updates)
    (hrules : generateRules e.catalogue (e.switched call).features = .ok rules) :
    (e.handle call).1.error? = none ∧
      (e.handle call).2 = { e.switched call with grammar := e.grammar.rebuilt rules } := by
  obtain ⟨herror, hafter⟩ := e.handle_of_updates h
  rw [herror, hafter, (e.switched call).updateGrammar_of_generateRules hrules]
  exact ⟨rfl, rfl⟩

theorem handle_of_error (e : Extension) {call : Call} {cause : RebuildError} (h : call.updates)
    (hrules : generateRules e.catalogue (e.switched call).features = .error cause) :
    (e.handle call).1.error? = some (.rebuild cause) ∧ (e.handle call).2 = e.switched call := by
  obtain ⟨herror, hafter⟩ := e.handle_of_updates h
  rw [herror, hafter, (e.switched call).updateGrammar_of_error hrules]
  exact ⟨rfl, rfl⟩

/-- A call that does not update the grammar asks the browser at most, and can only fail on a name
that is no command's. -/
theorem handle_of_idle (e : Extension) {call : Call} (h : call.updates = false) :
    ((e.handle call).1.error? = none ∧ ∃ browser, (e.handle call).2 = { e with browser }) ∨
      ((∃ name, (e.handle call).1.error? = some (.unknownCommand name)) ∧
        (e.handle call).2 = e) := by
  cases call with
  | activate => cases h
  | updateGrammar => cases h
  | toggle f => cases h
  | lookup selections => exact .inl ⟨rfl, e.exists_lookup_snd_eq selections⟩
  | execute name selections =>
    rw [Call.updates_execute, Call.feature?] at h
    rw [handle, execute]
    cases hname : Command.ofName? name with
    | none => exact .inr ⟨⟨name, rfl⟩, rfl⟩
    | some command =>
      cases command with
      | lookup => exact .inl ⟨rfl, e.exists_lookup_snd_eq selections⟩
      | toggle f =>
        rw [hname] at h
        cases h

/-- What one call over a sound catalogue does. -/
structure Steps (e : Extension) (call : Call) (answer : Answer) (after : Extension) : Prop where
  answered : ∀ cause, answer.error? ≠ some (.rebuild cause)
  catalogue : after.catalogue = e.catalogue
  features : after.features = call.feature?.elim e.features e.features.toggle
  idle : call.updates = false → after.grammar = e.grammar
  updated : call.updates → ∃ rules, generateRules e.catalogue after.features = .ok rules ∧
    after.grammar = e.grammar.rebuilt rules

theorem steps_handle (e : Extension) (h : SoundCatalogue e.catalogue) (call : Call) :
    e.Steps call (e.handle call).1 (e.handle call).2 := by
  cases hupdates : call.updates with
  | true =>
    obtain ⟨rules, hrules⟩ := h.exists_generateRules_eq_ok (e.switched call).features
    obtain ⟨herror, hafter⟩ := e.handle_of_ok hupdates hrules
    rw [hafter]
    refine ⟨?_, rfl, rfl, ?_, fun _ => ⟨rules, hrules, rfl⟩⟩
    · simp [herror]
    · simp [hupdates]
  | false =>
    have hfeatures : e.features = call.feature?.elim e.features e.features.toggle := by
      rw [Call.feature?_of_updates hupdates]
      rfl
    rcases e.handle_of_idle hupdates with ⟨herror, browser, hafter⟩ | ⟨⟨name, herror⟩, hafter⟩
    · rw [hafter]
      exact ⟨by simp [herror], rfl, hfeatures, fun _ => rfl, by simp [hupdates]⟩
    · rw [hafter]
      exact ⟨by simp [herror], rfl, hfeatures, fun _ => rfl, by simp [hupdates]⟩

end Extension

def toggles (f : Feature) (calls : List Call) : Nat :=
  calls.countP (·.feature? == some f)

def updates (calls : List Call) : Nat :=
  calls.countP Call.updates

theorem toggles_concat (f : Feature) (calls : List Call) (call : Call) :
    toggles f (calls ++ [call]) = toggles f calls + if call.feature? = some f then 1 else 0 := by
  simp [toggles, List.countP_append, List.countP_singleton]

theorem updates_concat (calls : List Call) (call : Call) :
    updates (calls ++ [call]) = updates calls + if call.updates then 1 else 0 := by
  simp [updates, List.countP_append, List.countP_singleton]

namespace Extension

/-- How an extension relates to the one that a session started with, after the calls so far. -/
structure Follows (e : Extension) (calls : List Call) (after : Extension) : Prop where
  catalogue : after.catalogue = e.catalogue
  features : ∀ f, after.features.has f ≠ e.features.has f ↔ Odd (toggles f calls)
  authored : after.grammar.authored = e.grammar.authored
  revision : after.grammar.revision = e.grammar.revision + .ofNat (updates calls)
  rules : 0 < updates calls → ∃ rules, generateRules e.catalogue after.features = .ok rules ∧
    after.grammar.rules = e.grammar.authored ++ rules

theorem follows_nil (e : Extension) : e.Follows [] e where
  catalogue := rfl
  features := by simp [toggles]
  authored := rfl
  revision := (UInt64.add_zero e.grammar.revision).symm
  rules h := by simp [updates] at h

theorem Follows.step {e mid after : Extension} {calls : List Call} {call : Call} {answer : Answer}
    (h : e.Follows calls mid) (hstep : mid.Steps call answer after) :
    e.Follows (calls ++ [call]) after where
  catalogue := hstep.catalogue.trans h.catalogue
  features f := by
    rw [toggles_concat, hstep.features]
    cases hfeature : call.feature? with
    | none => simpa using h.features f
    | some g =>
      by_cases hg : g = f
      · -- one more switch, and the feature is what it was not
        subst hg
        rw [Option.elim_some, FeatureSet.has_toggle, if_pos rfl, if_pos rfl, Nat.odd_add_one,
          ← h.features g]
        cases mid.features.has g <;> cases e.features.has g <;> decide
      · rw [Option.elim_some, FeatureSet.has_toggle, if_neg (Ne.symm hg),
          if_neg (by simpa using hg), Nat.add_zero]
        exact h.features f
  authored := by
    cases hupdates : call.updates with
    | false => rw [hstep.idle hupdates, h.authored]
    | true =>
      obtain ⟨rules, hrules, hgrammar⟩ := hstep.updated hupdates
      rw [hgrammar, Grammar.authored_rebuilt _ hrules, h.authored]
  revision := by
    rw [updates_concat]
    cases hupdates : call.updates with
    | false =>
      rw [hstep.idle hupdates, h.revision]
      rfl
    | true =>
      obtain ⟨rules, -, hgrammar⟩ := hstep.updated hupdates
      rw [hgrammar]
      show mid.grammar.revision + 1 = e.grammar.revision + .ofNat (updates calls + 1)
      rw [h.revision, UInt64.ofNat_add, UInt64.add_assoc]
      rfl
  rules hpos := by
    cases hupdates : call.updates with
    | false =>
      -- the rules in place stay right, as no feature is switched either
      have hfeature := Call.feature?_of_updates hupdates
      rw [updates_concat, hupdates] at hpos
      rw [hstep.idle hupdates, hstep.features, hfeature]
      exact h.rules hpos
    | true =>
      obtain ⟨rules, hrules, hgrammar⟩ := hstep.updated hupdates
      refine ⟨rules, h.catalogue ▸ hrules, ?_⟩
      rw [hgrammar, ← h.authored]
      rfl

/-- A session goes on from what the calls in front of it left. -/
theorem Follows.run {e mid : Extension} {done : List Call} (h : e.Follows done mid)
    (hsound : SoundCatalogue e.catalogue) (calls : List Call) :
    e.Follows (done ++ calls) (mid.run calls).2 ∧
      ∀ answer ∈ (mid.run calls).1, ∀ cause, answer.error? ≠ some (.rebuild cause) := by
  induction calls generalizing mid done with
  | nil =>
    rw [List.append_nil]
    exact ⟨h, by simp [Extension.run]⟩
  | cons call calls ih =>
    have hstep := mid.steps_handle (h.catalogue ▸ hsound) call
    obtain ⟨hfollows, hanswers⟩ := ih (h.step hstep)
    rw [List.append_assoc] at hfollows
    exact ⟨hfollows, List.forall_mem_cons.2 ⟨hstep.answered, hanswers⟩⟩

/-- Over a sound catalogue a session never fails to update the grammar. A feature has changed if
it was switched an odd number of times; after any update the rules are the authored ones and those
that the features ask for; each update counts as one revision, as long as the bits of a revision
hold the count; and no other call changes any of this. So two sessions that switch each feature
equally often, up to an even number, end alike. -/
theorem run_follows_toggles {e : Extension} (h : SoundCatalogue e.catalogue) (calls : List Call) :
    (∀ answer ∈ (e.run calls).1, ∀ cause, answer.error? ≠ some (.rebuild cause)) ∧
      (∀ f, (e.run calls).2.features.has f ≠ e.features.has f ↔ Odd (toggles f calls)) ∧
      (0 < updates calls → ∃ rules,
        generateRules e.catalogue (e.run calls).2.features = .ok rules ∧
        (e.run calls).2.grammar.rules = e.grammar.authored ++ rules) ∧
      (e.run calls).2.grammar.revision = e.grammar.revision + .ofNat (updates calls) ∧
      (e.grammar.revision.toNat + updates calls < 2 ^ 64 →
        (e.run calls).2.grammar.revision.toNat = e.grammar.revision.toNat + updates calls) ∧
      (∀ call : Call, call.updates = false →
        ((e.run calls).2.handle call).2.features = (e.run calls).2.features ∧
        ((e.run calls).2.handle call).2.grammar = (e.run calls).2.grammar) ∧
      (∀ others : List Call, (∀ f, Odd (toggles f calls) ↔ Odd (toggles f others)) →
        0 < updates calls → 0 < updates others →
        (e.run calls).2.features = (e.run others).2.features ∧
        (e.run calls).2.grammar.rules = (e.run others).2.grammar.rules) := by
  obtain ⟨hfollows, hanswers⟩ := e.follows_nil.run h calls
  refine ⟨hanswers, hfollows.features, hfollows.rules, hfollows.revision, ?_, ?_, ?_⟩
  · intro hlimit
    rw [hfollows.revision]
    exact toNat_add_ofNat_of_lt hlimit
  · intro call hupdates
    have hstep := (e.run calls).2.steps_handle (hfollows.catalogue ▸ h) call
    refine ⟨?_, hstep.idle hupdates⟩
    rw [hstep.features, Call.feature?_of_updates hupdates]
    rfl
  · intro others hparity hcalls hothers
    obtain ⟨hfollows', -⟩ := e.follows_nil.run h others
    have hfeatures : (e.run calls).2.features = (e.run others).2.features := by
      apply FeatureSet.eq_of_has
      intro f
      have hsame := (hfollows.features f).trans ((hparity f).trans (hfollows'.features f).symm)
      revert hsame
      cases (e.run calls).2.features.has f <;> cases (e.run others).2.features.has f <;>
        cases e.features.has f <;> decide
    -- the same features make the same rules
    obtain ⟨rules, hrules, hgrammar⟩ := hfollows.rules hcalls
    obtain ⟨rules', hrules', hgrammar'⟩ := hfollows'.rules hothers
    rw [← hfeatures, hrules] at hrules'
    cases hrules'
    exact ⟨hfeatures, hgrammar.trans hgrammar'.symm⟩

theorem run_follows_toggles_nx :
    SoundCatalogue standardCatalogue ∧
      ((installed ⟨⟨"https".toList, none, .segments [], none, none⟩, "title", ""⟩).run
        [.toggle .fose, .execute "language-geck:toggleNX" [], .lookup [.ofText "GetPos"],
          .execute "language-geck:toggleFOSE" [], .activate]).2.features =
        ⟨true, true, true, false⟩ := by
  have hodd (f : Feature) : Odd (toggles f [.toggle .fose,
      .execute "language-geck:toggleNX" [], .lookup [.ofText "GetPos"],
      .execute "language-geck:toggleFOSE" [], .activate]) ↔ f = .nx := by
    cases f <;> decide +kernel
  -- said of all features, lest the run be evaluated
  have honly (features : FeatureSet) (h : ∀ f, features.has f ≠ true ↔ f = .nx) :
      features = ⟨true, true, true, false⟩ := by
    apply FeatureSet.eq_of_has
    intro f
    have hf := h f
    cases f <;> simpa [FeatureSet.has] using hf
  obtain ⟨-, hfeatures, -⟩ := run_follows_toggles
    (e := installed ⟨⟨"https".toList, none, .segments [], none, none⟩, "title", ""⟩)
    soundCatalogue_standardCatalogue
    [.toggle .fose, .execute "language-geck:toggleNX" [], .lookup [.ofText "GetPos"],
      .execute "language-geck:toggleFOSE" [], .activate]
  refine ⟨soundCatalogue_standardCatalogue, honly _ fun f => ?_⟩
  have hinstalled (site : Site) : (installed site).features.has f = true := by
    cases f <;> rfl
  rw [← hodd f, ← hfeatures f, hinstalled]

end Extension

end GeckScript
