import GeckScript.Proofs.Basic
import GeckScript.Proofs.Cli.Arguments
import GeckScript.Proofs.Cli.Groups
import GeckScript.Proofs.Cli.Overrides
import GeckScript.Proofs.Editor.Session
import GeckScript.Proofs.Grammar.Json

/-!
The two commands that show what the settings switch on. The list of groups and the printed grammar
come from the same arguments and files, and the groups that are listed as on are those whose rules
are in the grammar.
-/

namespace GeckScript.Cli

theorem alike_grammarForm_groupsForm : grammarForm.Alike groupsForm :=
  ⟨rfl, rfl⟩

theorem run_form (form : CommandForm) (hform : formOf? form.name = some form)
    (hname : form.name ≠ helpForm.name) (env : Surroundings) (args : List String) :
    run env (form.name :: args) = match form.read args with
      | .ok a => .ofExcept ((Invocation.ofArguments form a).run env)
      | .error stop => .ofStop stop := by
  have hargs : Invocation.ofArgs (form.name :: args) =
      (form.read args).map (Invocation.ofArguments form) := by
    simp only [Invocation.ofArgs, if_neg hname, hform]
  rw [run, hargs]
  cases form.read args <;> rfl

theorem run_grammar (env : Surroundings) (args : List String) :
    run env ("grammar" :: args) = match grammarForm.read args with
      | .ok a => .ofExcept (runGrammar env (Invocation.settingsOf a))
      | .error stop => .ofStop stop :=
  run_form grammarForm rfl (by decide) env args

theorem run_groups (env : Surroundings) (args : List String) :
    run env ("groups" :: args) = match groupsForm.read args with
      | .ok a => .ofExcept (runGroups env (Invocation.settingsOf a))
      | .error stop => .ofStop stop :=
  run_form groupsForm rfl (by decide) env args

theorem exists_eq_ok_of_code {result : Except Failure Outcome}
    (h : (Outcome.ofExcept result).code = 0) : ∃ outcome, result = .ok outcome := by
  cases result with
  | ok outcome => exact ⟨outcome, rfl⟩
  | error e => exact Nat.noConfusion h

theorem extensionOf_eq_ok_iff {settings : Settings} {browser : Browser} {e : Extension} :
    extensionOf settings browser = .ok e ↔ ∃ site, Site.ofConfig settings.docs = .ok site ∧
      e = ⟨settings.highlight, .initial, browser, site, standardCatalogue⟩ := by
  rw [extensionOf, bind_eq_ok_iff]
  simp only [mapError_eq_ok_iff, pure, Except.pure, Except.ok.injEq, @eq_comm _ e]

section Grammar

variable {env : Surroundings} {request : SettingsRequest} {settings : Settings} {site : Site}
  {rules : List Rule}

theorem runGrammar_of_load (hload : request.load env.order env.files = .ok settings)
    (hsite : Site.ofConfig settings.docs = .ok site)
    (hrules : generateRules standardCatalogue settings.highlight = .ok rules) :
    runGrammar env request =
      .ok (.printed ((Grammar.initial.rebuilt rules).toJson.pretty ++ "\n")) := by
  have hextension : extensionOf settings .willing =
      .ok ⟨settings.highlight, .initial, .willing, site, standardCatalogue⟩ :=
    extensionOf_eq_ok_iff.2 ⟨site, hsite, rfl⟩
  have hactivate :
      (Extension.mk settings.highlight .initial .willing site standardCatalogue).activate =
        (Command.all.map Command.name, .ok ⟨Grammar.initial.generated.length, rules.length⟩,
          ⟨settings.highlight, Grammar.initial.rebuilt rules, .willing, site, standardCatalogue⟩) :=
    congrArg (Prod.mk _) (Extension.updateGrammar_of_generateRules _ hrules)
  refine bind_eq_ok_iff.2 ⟨settings, hload, bind_eq_ok_iff.2 ⟨_, hextension, ?_⟩⟩
  rw [hactivate]
  rfl

/-- Only the settings and the address of the documentation can keep the grammar from being
printed. -/
theorem runGrammar_eq_ok_iff {outcome : Outcome} :
    runGrammar env request = .ok outcome ↔
      ∃ settings site rules, request.load env.order env.files = .ok settings ∧
        Site.ofConfig settings.docs = .ok site ∧
        generateRules standardCatalogue settings.highlight = .ok rules ∧
        outcome = .printed ((Grammar.initial.rebuilt rules).toJson.pretty ++ "\n") := by
  constructor
  · intro h
    obtain ⟨settings, hload, hnext⟩ := bind_eq_ok_iff.1 h
    obtain ⟨e, hextension, -⟩ := bind_eq_ok_iff.1 hnext
    obtain ⟨site, hsite, -⟩ := extensionOf_eq_ok_iff.1 hextension
    -- the catalogue has rules for any features
    obtain ⟨rules, hrules⟩ :=
      soundCatalogue_standardCatalogue.exists_generateRules_eq_ok settings.highlight
    rw [runGrammar_of_load hload hsite hrules, Except.ok.injEq] at h
    exact ⟨settings, site, rules, hload, hsite, hrules, h.symm⟩
  · rintro ⟨settings, site, rules, hload, hsite, hrules, rfl⟩
    exact runGrammar_of_load hload hsite hrules

end Grammar

theorem runGroups_eq_ok {env : Surroundings} {request : SettingsRequest} {settings : Settings}
    (h : request.load env.order env.files = .ok settings) :
    runGroups env request =
      .ok (.printed (String.join (standardCatalogue.map (groupLine settings.highlight)))) := by
  rw [runGroups, h]
  rfl

/-- The printed grammar is read back: its generated rules are named by the groups that are on, and
the others are the authored rules. -/
theorem read?_rebuilt {features : FeatureSet} {rules : List Rule}
    (h : generateRules standardCatalogue features = .ok rules) :
    ∃ g, Grammar.read? ((Grammar.initial.rebuilt rules).toJson.pretty ++ "\n") = some g ∧
      g.generated.map Rule.name =
        (standardCatalogue.filter (·.isEnabled features)).map Group.scope ∧
      g.authored = authoredRules := by
  refine ⟨_, Grammar.read?_pretty_append _ rfl, ?_, ?_⟩
  · exact (congrArg (List.map Rule.name) (Grammar.initial.generated_rebuilt h)).trans
      (map_name_of_rulesOf h)
  · exact Grammar.initial.authored_rebuilt h

end GeckScript.Cli
