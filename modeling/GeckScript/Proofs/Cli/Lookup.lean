import GeckScript.Proofs.Cli.Accepted
import GeckScript.Proofs.Cli.Launcher
import GeckScript.Proofs.Cli.Views
import GeckScript.Proofs.Editor.Lookups
import GeckScript.Proofs.Lookup.Page

/-!
The command that looks a selection up. With and without the switch for printing it comes to the same
page; without it, the page is opened by the launcher that is found, and printed if it does not open.
-/

namespace GeckScript.Cli

/-- What is looked up for a text and a column: a cursor if there is a column, and a selected text
otherwise. A text that is not given is empty. -/
def selectionFor (text : Option String) : Option Nat → Selection
  | some column => .ofCursor (text.getD "") column
  | none => .ofText (text.getD "")

/-- Arguments with a text and a column, where each may be left out. -/
structure Arguments.Asks (a : Arguments) (text : Option String) (column : Option Nat) : Prop where
  text : a.operands = text.toList
  column : (a.values "column").map readNumber = (column.map Except.ok).toList

/-- Arguments with the switch for printing besides those of `a`. -/
structure Arguments.IsPrintOf (b a : Arguments) : Prop where
  print : b.has "print"
  options : b.options.filter (·.1 != "print") = a.options
  operands : b.operands = a.operands

section Arguments

variable {args : List String} {a b : Arguments} {text : Option String} {column : Option Nat}

theorem run_lookup (env : Surroundings) (args : List String) :
    run env ("lookup" :: args) = match lookupForm.read args with
      | .ok a => .ofExcept (runLookup env (Invocation.selectionOf a) (a.has "print")
          (Invocation.settingsOf a))
      | .error stop => .ofStop stop :=
  run_form lookupForm rfl (by decide) env args

theorem exists_asks_of_read (h : lookupForm.read args = .ok a) :
    ∃ text column, a.Asks text column := by
  have hname : ∀ o ∈ lookupForm.options, o.name = "column" → o.kind = .number := by decide
  obtain ⟨text, htext⟩ := (takes_of_read h).operands_eq_toList rfl rfl
  obtain ⟨column, hcolumn⟩ := (takes_of_read h).values_eq_toList hname
  exact ⟨text, column, htext, hcolumn⟩

theorem Arguments.Asks.selectionOf_eq (h : a.Asks text column) :
    Invocation.selectionOf a = selectionFor text column := by
  have hhead : (a.values "column").head?.map readNumber = column.map Except.ok := by
    rw [← List.head?_map, h.column, Option.head?_toList]
  rw [Invocation.selectionOf, h.text, Option.head?_toList, hhead]
  cases column <;> rfl

theorem read_print_cons (h : lookupForm.read args = .ok a) (hprint : a.has "print" = false) :
    lookupForm.read ("--print" :: args) = .ok (a.behind ("print", "")) := by
  obtain ⟨hread, -⟩ := read_eq_ok_iff.1 h
  have hfirst : readArguments lookupForm .start ("--print" :: args) =
      readArguments lookupForm (Progress.start.behind ("print", "")) args := rfl
  refine read_eq_ok_iff.2 ⟨?_, nofun⟩
  rw [hfirst]
  exact readArguments_behind Progress.fits_start hread hprint

theorem Arguments.isPrintOf_behind (h : a.has "print" = false) :
    (a.behind ("print", "")).IsPrintOf a where
  print := rfl
  options := by
    rw [has, List.any_eq_false] at h
    refine (List.filter_cons_of_neg (by decide)).trans (List.filter_eq_self.2 fun o ho => ?_)
    simpa using h o ho
  operands := rfl

theorem Arguments.IsPrintOf.values_eq (h : b.IsPrintOf a) {name : String} (hname : name ≠ "print") :
    b.values name = a.values name := by
  rw [values, values, ← h.options, List.filter_filter]
  congr 1
  refine List.filter_congr fun o _ => ?_
  by_cases ho : o.1 = name
  · simp [ho, hname]
  · simp [ho]

theorem Arguments.IsPrintOf.asks (h : b.IsPrintOf a) (hasks : a.Asks text column) :
    b.Asks text column where
  text := h.operands.trans hasks.text
  column := by rw [h.values_eq (by decide), hasks.column]

theorem Arguments.IsPrintOf.settingsOf_eq (h : b.IsPrintOf a) :
    Invocation.settingsOf b = Invocation.settingsOf a := by
  rw [Invocation.settingsOf, Invocation.settingsOf, h.values_eq (by decide),
    h.values_eq (by decide), h.values_eq (by decide)]

end Arguments

def noBrowserLine : String :=
  "Error: no browser available (none of xdg-open, open, wslview found)\n"

def failedLine (detail : String) : String :=
  "Error: browser failed to open (" ++ detail ++ ")\n"

def logLine (u : Url) (message : String) : String :=
  "cannot open " ++ u.write ++ ": " ++ message

theorem failedLine_ne {detail line : String}
    (h : ¬ "Error: browser failed to open (".toList <+: line.toList) :
    failedLine detail ≠ line := by
  have hstart (front middle back : String) : front.toList <+: (front ++ middle ++ back).toList := by
    rw [String.toList_append, String.toList_append, List.append_assoc]
    exact List.prefix_append _ _
  rintro rfl
  exact h (hstart _ detail _)

theorem failedLine_ne_empty (detail : String) : failedLine detail ≠ "" :=
  failedLine_ne (by decide)

theorem failedLine_ne_noBrowserLine (detail : String) : failedLine detail ≠ noBrowserLine :=
  failedLine_ne (by decide)

section Run

variable {env : Surroundings} {request : SettingsRequest} {settings : Settings} {site : Site}

theorem join_singleton (text : String) : String.join [text] = text := by
  simp [String.join]

theorem asked_browser (opener : Opener) : opener.browser.asked = [] := by
  cases opener with
  | printer => rfl
  | launcher programs =>
    show (launcherBrowser programs).asked = []
    unfold launcherBrowser
    split <;> rfl

/-- One page is asked for, and what is shown goes by the answer. -/
theorem runLookup_eq (hload : request.load env.order env.files = .ok settings)
    (hsite : Site.ofConfig settings.docs = .ok site) (selection : Selection) (print : Bool) :
    let opener := if print then Opener.printer else .launcher env.programs
    let page := selection.page wordRegex
    let outcome := site.outcome page (opener.browser.reply 0)
    let asked := [site.urlFor page]
    runLookup env selection print request = .ok {
      code := 0
      output := opener.output asked ++ shownUrl outcome
      errors := errorLine outcome
      log := outcome.logged?.toList
      started := opener.started asked } := by
  intro opener page outcome asked
  let e : Extension :=
    ⟨settings.highlight, .initial, opener.browser, site, standardCatalogue⟩
  have hextension : extensionOf settings opener.browser = .ok e :=
    extensionOf_eq_ok_iff.2 ⟨site, hsite, rfl⟩
  have houtcomes : (e.lookup [selection]).1 = [outcome] := e.lookup_fst [selection]
  have hasked : (e.lookup [selection]).2.browser.asked = asked := by
    rw [(e.asked_lookup [selection]).asked, asked_browser]
    rfl
  refine bind_eq_ok_iff.2 ⟨settings, hload, bind_eq_ok_iff.2 ⟨e, hextension, ?_⟩⟩
  dsimp only
  rw [houtcomes, hasked, List.map_singleton, List.map_singleton, join_singleton, join_singleton]
  cases outcome <;> rfl

theorem runLookup_print (hload : request.load env.order env.files = .ok settings)
    (hsite : Site.ofConfig settings.docs = .ok site) (selection : Selection) :
    runLookup env selection true request =
      .ok (.printed ((site.urlFor (selection.page wordRegex)).write ++ "\n")) := by
  rw [runLookup_eq hload hsite]
  let u := site.urlFor (selection.page wordRegex)
  have houtput : Opener.printer.output [u] ++ "" = u.write ++ "\n" := by
    rw [String.append_empty]
    exact join_singleton (u.write ++ "\n")
  exact congrArg (fun output => Except.ok (Outcome.printed output)) houtput

def openOutcome (u : Url) : Option Program → Outcome
  | none => ⟨0, u.write ++ "\n", noBrowserLine,
      [logLine u "Browser unavailable: none of xdg-open, open, wslview found"], []⟩
  | some ⟨name, path, none⟩ => ⟨0, "", "", [], [(⟨name, path, none⟩, [u.write])]⟩
  | some ⟨_, path, some fault⟩ =>
    let detail := s!"{path}: {fault}"
    ⟨0, u.write ++ "\n", failedLine detail, [logLine u ("Failed to open browser: " ++ detail)], []⟩

theorem runLookup_open (hload : request.load env.order env.files = .ok settings)
    (hsite : Site.ofConfig settings.docs = .ok site) (selection : Selection) :
    runLookup env selection false request =
      .ok (openOutcome (site.urlFor (selection.page wordRegex)) (launcher? env.programs)) := by
  rw [runLookup_eq hload hsite]
  simp only [Bool.false_eq_true, if_false, Opener.browser, Opener.output, Opener.started,
    launcherBrowser, String.empty_append]
  -- the browser answers by the launcher that is found, so it is found for both
  rcases launcher? env.programs with - | ⟨name, path, - | fault⟩
  · rfl
  · rfl
  · rfl

variable {args : List String} {a : Arguments} {text : Option String} {column : Option Nat}

theorem run_lookup_print (hread : lookupForm.read args = .ok a) (hasks : a.Asks text column)
    (hprint : a.has "print")
    (hload : (Invocation.settingsOf a).load env.order env.files = .ok settings)
    (hsite : Site.ofConfig settings.docs = .ok site) :
    run env ("lookup" :: args) =
      .printed ((site.urlFor ((selectionFor text column).page wordRegex)).write ++ "\n") := by
  rw [run_lookup, hread]
  dsimp only
  rw [hasks.selectionOf_eq, hprint, runLookup_print hload hsite, Outcome.ofExcept]

theorem run_lookup_open (hread : lookupForm.read args = .ok a) (hasks : a.Asks text column)
    (hprint : a.has "print" = false)
    (hload : (Invocation.settingsOf a).load env.order env.files = .ok settings)
    (hsite : Site.ofConfig settings.docs = .ok site) :
    run env ("lookup" :: args) =
      openOutcome (site.urlFor ((selectionFor text column).page wordRegex))
        (launcher? env.programs) := by
  rw [run_lookup, hread]
  dsimp only
  rw [hasks.selectionOf_eq, hprint, runLookup_open hload hsite, Outcome.ofExcept]

end Run

section Launchers

variable {launchers : List PathFile} {f : PathFile} {u : Url}

theorem openOutcome_of_noLauncher (h : NoLauncher launchers) :
    openOutcome u (launcher? (programsOn launchers)) =
      ⟨0, u.write ++ "\n", noBrowserLine,
        [logLine u "Browser unavailable: none of xdg-open, open, wslview found"], []⟩ := by
  rw [launcher?_programsOn_eq_none_iff.2 h, openOutcome]

theorem openOutcome_of_starts (h : IsFirstLauncher launchers f) (hfault : f.fault = none) :
    openOutcome u (launcher? (programsOn launchers)) =
      ⟨0, "", "", [], [(f.toProgram, [u.write])]⟩ := by
  rw [launcher?_programsOn_eq_some_iff.2 ⟨f, h, rfl⟩, PathFile.toProgram, hfault, openOutcome]

theorem openOutcome_of_fails {fault : String} (h : IsFirstLauncher launchers f)
    (hfault : f.fault = some fault) :
    let detail := s!"{f.path}: {fault}"
    openOutcome u (launcher? (programsOn launchers)) = ⟨0, u.write ++ "\n", failedLine detail,
      [logLine u ("Failed to open browser: " ++ detail)], []⟩ := by
  rw [launcher?_programsOn_eq_some_iff.2 ⟨f, h, rfl⟩, PathFile.toProgram, hfault, openOutcome]

theorem errors_eq_noBrowserLine_iff :
    (openOutcome u (launcher? (programsOn launchers))).errors = noBrowserLine ↔
      NoLauncher launchers := by
  constructor
  · intro herrors
    by_contra hlauncher
    obtain ⟨f, hf⟩ := exists_isFirstLauncher_iff.2 hlauncher
    cases hfault : f.fault with
    | none =>
      rw [openOutcome_of_starts hf hfault] at herrors
      exact absurd herrors (show "" ≠ noBrowserLine by decide)
    | some fault =>
      rw [openOutcome_of_fails hf hfault] at herrors
      exact failedLine_ne_noBrowserLine _ herrors
  · intro h
    rw [openOutcome_of_noLauncher h]

theorem exists_errors_eq_failedLine_iff :
    (∃ detail, (openOutcome u (launcher? (programsOn launchers))).errors = failedLine detail) ↔
      ∃ f, IsFirstLauncher launchers f ∧ f.fault ≠ none := by
  constructor
  · rintro ⟨detail, herrors⟩
    by_cases hlauncher : NoLauncher launchers
    · rw [openOutcome_of_noLauncher hlauncher] at herrors
      exact absurd herrors.symm (failedLine_ne_noBrowserLine detail)
    obtain ⟨f, hf⟩ := exists_isFirstLauncher_iff.2 hlauncher
    refine ⟨f, hf, fun hfault => ?_⟩
    rw [openOutcome_of_starts hf hfault] at herrors
    exact failedLine_ne_empty detail herrors.symm
  · rintro ⟨f, hf, hfault⟩
    obtain ⟨fault, hfault⟩ := Option.ne_none_iff_exists'.1 hfault
    rw [openOutcome_of_fails hf hfault]
    exact ⟨_, rfl⟩

end Launchers

end GeckScript.Cli
