import GeckScript.Proofs.Editor.Session

/-!
Lookups, whatever the browser answers. Each selection makes one request, in order, for the URL of
the page that it asks for, and comes to an outcome by the answer to that request. So the outcomes
depend on the site, the selections and the answers alone, and a page that does not open keeps no
other from being asked for.
-/

namespace GeckScript

/-! ### Scripted answers -/

namespace Browser

/-- The answer to the request that comes behind `n` others. Behind the end of the script it is the
last one again. -/
def reply (b : Browser) (n : Nat) : Option LaunchError :=
  b.replies.getD (min n (b.replies.length - 1)) none

theorem ask_fst (b : Browser) (url : Url) : (b.ask url).1 = b.reply 0 := by
  obtain ⟨replies, asked⟩ := b
  match replies with
  | [] => rfl
  | [reply] => rfl
  | reply :: next :: rest => rfl

theorem asked_ask (b : Browser) (url : Url) : (b.ask url).2.asked = b.asked ++ [url] := by
  obtain ⟨replies, asked⟩ := b
  match replies with
  | [] => rfl
  | [reply] => rfl
  | reply :: next :: rest => rfl

theorem reply_ask (b : Browser) (url : Url) (n : Nat) :
    (b.ask url).2.reply n = b.reply (n + 1) := by
  obtain ⟨replies, asked⟩ := b
  match replies with
  | [] => rfl
  | [reply] => simp [ask, Browser.reply]
  | reply :: next :: rest =>
    -- one answer fewer is left, and one request fewer is to come
    have hmin : min (n + 1) (rest.length + 1) = min n rest.length + 1 := by omega
    simp [ask, Browser.reply, hmin]

end Browser

namespace Site

def outcome (site : Site) (page : Page) : Option LaunchError → LookupOutcome
  | none => .opened page (site.urlFor page)
  | some cause => .notOpened (site.urlFor page) cause

def urlsFor (site : Site) (selections : List Selection) : List Url :=
  selections.map fun s => site.urlFor (s.page wordRegex)

variable (site : Site)

theorem outcome_eq_opened_iff {page : Page} {reply : Option LaunchError} :
    site.outcome page reply = .opened page (site.urlFor page) ↔ reply = none := by
  cases reply <;> simp [outcome]

theorem outcome_eq_notOpened_iff {page : Page} {reply : Option LaunchError} {cause : LaunchError} :
    site.outcome page reply = .notOpened (site.urlFor page) cause ↔ reply = some cause := by
  cases reply <;> simp [outcome]

end Site

/-! ### Requests -/

def Call.selections : Call → List Selection
  | execute name selections => if Command.ofName? name = some .lookup then selections else []
  | lookup selections => selections
  | _ => []

def lookedUp (calls : List Call) : List Selection :=
  calls.flatMap Call.selections

namespace Extension

theorem openPage_fst (e : Extension) (page : Page) :
    (e.openPage page).1 = e.site.outcome page (e.browser.reply 0) := by
  rw [← e.browser.ask_fst (e.site.urlFor page)]
  unfold openPage
  dsimp only
  split <;> rename_i h <;> rw [h] <;> rfl

/-- An extension on the same site after selections are looked up: its browser was asked for a page
for each of them and has gone on by as many answers. -/
structure Asked (e : Extension) (selections : List Selection) (after : Extension) : Prop where
  site : after.site = e.site
  asked : after.browser.asked = e.browser.asked ++ e.site.urlsFor selections
  reply : ∀ n, after.browser.reply n = e.browser.reply (selections.length + n)

variable {e after last : Extension} {selections others : List Selection}

theorem Asked.none (hsite : after.site = e.site) (hbrowser : after.browser = e.browser) :
    e.Asked [] after where
  site := hsite
  asked := by rw [hbrowser, Site.urlsFor, List.map_nil, List.append_nil]
  reply n := by rw [hbrowser, List.length_nil, Nat.zero_add]

theorem Asked.trans (h : e.Asked selections after) (hlast : after.Asked others last) :
    e.Asked (selections ++ others) last where
  site := hlast.site.trans h.site
  asked := by
    have hurls : after.site.urlsFor others = e.site.urlsFor others := by rw [h.site]
    rw [hlast.asked, h.asked, hurls, Site.urlsFor, Site.urlsFor, Site.urlsFor, List.map_append,
      List.append_assoc]
  reply n := by rw [hlast.reply, h.reply, List.length_append, Nat.add_assoc]

theorem asked_openPage (e : Extension) (s : Selection) :
    e.Asked [s] (e.openPage (s.page wordRegex)).2 := by
  rw [openPage_snd]
  exact ⟨rfl, e.browser.asked_ask _, fun n => by
    rw [e.browser.reply_ask, List.length_singleton, Nat.add_comm]⟩

theorem asked_lookup (e : Extension) (selections : List Selection) :
    e.Asked selections (e.lookup selections).2 := by
  induction selections generalizing e with
  | nil => exact .none rfl rfl
  | cons s rest ih => exact (e.asked_openPage s).trans (ih _)

theorem lookup_fst (e : Extension) (selections : List Selection) : (e.lookup selections).1 =
    selections.mapIdx fun i s => e.site.outcome (s.page wordRegex) (e.browser.reply i) := by
  induction selections generalizing e with
  | nil => rfl
  | cons s rest ih =>
    -- the first request uses one answer up
    have hfirst := e.asked_openPage s
    have hlookup : (e.lookup (s :: rest)).1 = (e.openPage (s.page wordRegex)).1 ::
        ((e.openPage (s.page wordRegex)).2.lookup rest).1 := rfl
    rw [hlookup, ih, openPage_fst, List.mapIdx_cons, hfirst.site]
    simp only [hfirst.reply, List.length_singleton, Nat.add_comm 1]

theorem asked_updateGrammar (e : Extension) (features : FeatureSet) :
    e.Asked [] (Extension.updateGrammar { e with features }).2 := by
  cases hrules : generateRules e.catalogue features with
  | ok rules =>
    rw [updateGrammar_of_generateRules { e with features } hrules]
    exact .none rfl rfl
  | error cause =>
    rw [updateGrammar_of_error { e with features } hrules]
    exact .none rfl rfl

theorem asked_handle (e : Extension) (call : Call) : e.Asked call.selections (e.handle call).2 := by
  cases call with
  | activate => exact e.asked_updateGrammar e.features
  | updateGrammar => exact e.asked_updateGrammar e.features
  | toggle f => exact e.asked_updateGrammar (e.features.toggle f)
  | lookup selections => exact e.asked_lookup selections
  | execute name selections =>
    rw [handle, execute, Call.selections]
    cases hname : Command.ofName? name with
    | none =>
      -- a command that is not known does nothing
      exact .none rfl rfl
    | some command =>
      cases command with
      | lookup => exact e.asked_lookup selections
      | toggle f => exact e.asked_updateGrammar (e.features.toggle f)

theorem asked_run (e : Extension) (calls : List Call) :
    e.Asked (lookedUp calls) (e.run calls).2 := by
  induction calls generalizing e with
  | nil => exact .none rfl rfl
  | cons call rest ih => exact (e.asked_handle call).trans (ih _)

/-- A lookup, called for directly or as a command, after any calls: the browser is asked once for
the page of each selection, in order, and each selection has one outcome, in order, by the answer
to its request. The page is opened exactly if the answer has no fault, and otherwise the fault is
kept with the URL. Nothing but the browser changes. -/
theorem lookup_has_outcome_of_each (e : Extension) (calls : List Call)
    (selections : List Selection) :
    let now := (e.run calls).2
    let count := (lookedUp calls).length
    let outcomes := selections.mapIdx fun i s =>
      e.site.outcome (s.page wordRegex) (e.browser.reply (count + i))
    now.site = e.site ∧
      now.browser.asked = e.browser.asked ++ e.site.urlsFor (lookedUp calls) ∧
      (∃ browser, now.lookup selections = (outcomes, { now with browser }) ∧
        now.execute Command.lookup.name selections =
          (.ok (.lookup outcomes), { now with browser }) ∧
        browser.asked = now.browser.asked ++ e.site.urlsFor selections ∧
        ∀ n, browser.reply n = e.browser.reply (count + selections.length + n)) ∧
      ∀ i (hi : i < selections.length),
        let page := selections[i].page wordRegex
        let url := e.site.urlFor page
        let reply := e.browser.reply (count + i)
        (outcomes[i]? = some (.opened page url) ↔ reply = none) ∧
        ∀ cause, outcomes[i]? = some (.notOpened url cause) ↔ reply = some cause := by
  intro now count outcomes
  have hbefore : e.Asked (lookedUp calls) now := e.asked_run calls
  have hasked : now.Asked selections (now.lookup selections).2 := now.asked_lookup selections
  -- the browser has gone on by the requests of the calls, and the site is still the same
  have houtcomes : (now.lookup selections).1 = outcomes := by
    rw [lookup_fst]
    simp only [outcomes, count, hbefore.site, hbefore.reply]
  obtain ⟨browser, hafter⟩ := now.exists_lookup_snd_eq selections
  have hlookup : now.lookup selections = (outcomes, { now with browser }) :=
    Prod.ext houtcomes hafter
  rw [hafter] at hasked
  refine ⟨hbefore.site, hbefore.asked, ⟨browser, hlookup, ?execute, ?asked, ?reply⟩, ?each⟩
  case execute =>
    have hname : Command.ofName? Command.lookup.name = some .lookup := by decide +kernel
    rw [execute, hname]
    dsimp only
    rw [hlookup]
  case asked =>
    have hurls := hasked.asked
    rwa [hbefore.site] at hurls
  case reply =>
    intro n
    have hreply := hasked.reply n
    rwa [hbefore.reply, ← Nat.add_assoc] at hreply
  case each =>
    intro i hi
    have houtcome : outcomes[i]? = some (e.site.outcome (selections[i].page wordRegex)
        (e.browser.reply (count + i))) := by
      simp [outcomes, hi]
    rw [houtcome]
    simp only [Option.some.injEq, Site.outcome_eq_opened_iff, Site.outcome_eq_notOpened_iff,
      implies_true, and_self]

end Extension

end GeckScript
