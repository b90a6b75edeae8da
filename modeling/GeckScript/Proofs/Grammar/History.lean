import GeckScript.Proofs.Grammar.Rebuild

/-!
A grammar that is rebuilt again and again. Its rules do not tell what was asked for before: they are
the authored ones and those of the last request that could be met. A request that makes no rules
changes nothing, and what a report says was removed is what the report in front of it says was
added.
-/

namespace GeckScript

structure RebuildRequest where
  catalogue : List Group
  features : FeatureSet
  deriving Repr, DecidableEq

def RebuildRequest.rules (q : RebuildRequest) : Except RebuildError (List Rule) :=
  generateRules q.catalogue q.features

def madeRules (requests : List RebuildRequest) : List (List Rule) :=
  requests.filterMap (·.rules.toOption)

theorem madeRules_cons_of_error {q : RebuildRequest} {cause : RebuildError}
    (h : q.rules = .error cause) (requests : List RebuildRequest) :
    madeRules (q :: requests) = madeRules requests := by
  simp [madeRules, h, Except.toOption]

theorem madeRules_cons_of_ok {q : RebuildRequest} {rules : List Rule} (h : q.rules = .ok rules)
    (requests : List RebuildRequest) :
    madeRules (q :: requests) = rules :: madeRules requests := by
  simp [madeRules, h, Except.toOption]

namespace Grammar

/-- The answer to a request, with the grammar after it. The rules are made before any rule is
replaced, so there is nothing to undo if that fails. -/
def serve (g : Grammar) (q : RebuildRequest) : Except RebuildError RebuildReport × Grammar :=
  match g.rebuild q.catalogue q.features with
  | .ok (report, after) => (.ok report, after)
  | .error cause => (.error cause, g)

def serveAll (g : Grammar) :
    List RebuildRequest → List (Except RebuildError RebuildReport) × Grammar
  | [] => ([], g)
  | q :: rest =>
    let (answer, g) := g.serve q
    let (answers, g) := g.serveAll rest
    (answer :: answers, g)

theorem serve_of_ok (g : Grammar) {q : RebuildRequest} {rules : List Rule}
    (h : q.rules = .ok rules) :
    g.serve q = (.ok ⟨g.generated.length, rules.length⟩, g.rebuilt rules) := by
  rw [serve, g.rebuild_of_generateRules h]

theorem serve_of_error (g : Grammar) {q : RebuildRequest} {cause : RebuildError}
    (h : q.rules = .error cause) : g.serve q = (.error cause, g) := by
  have hrebuild : g.rebuild q.catalogue q.features = .error cause := by
    rw [rebuild, show generateRules q.catalogue q.features = .error cause from h]
  rw [serve, hrebuild]

theorem serve_eq_error_iff (g : Grammar) (q : RebuildRequest) (cause : RebuildError) :
    (g.serve q).1 = .error cause ↔ q.rules = .error cause := by
  cases h : q.rules with
  | error e => rw [g.serve_of_error h]; simp
  | ok rules => rw [g.serve_of_ok h]; simp

theorem serveAll_cons (g : Grammar) (q : RebuildRequest) (rest : List RebuildRequest) :
    g.serveAll (q :: rest) =
      ((g.serve q).1 :: ((g.serve q).2.serveAll rest).1, ((g.serve q).2.serveAll rest).2) := rfl

theorem serveAll_concat_snd (g : Grammar) (requests : List RebuildRequest) (q : RebuildRequest) :
    (g.serveAll (requests ++ [q])).2 = ((g.serveAll requests).2.serve q).2 := by
  induction requests generalizing g with
  | nil => rfl
  | cons p rest ih => exact ih (g.serve p).2

/-- The grammar after requests is told by the authored rules and the last rules that were made. -/
theorem serveAll_snd (g : Grammar) (requests : List RebuildRequest) :
    (g.serveAll requests).2 = { g with
      rules := (madeRules requests).getLast?.elim g.rules (g.authored ++ ·)
      revision := g.revision + .ofNat (madeRules requests).length } := by
  induction requests generalizing g with
  | nil =>
    show g = { g with revision := g.revision + 0 }
    rw [UInt64.add_zero]
  | cons q rest ih =>
    rw [serveAll_cons]
    cases h : q.rules with
    | error cause => rw [g.serve_of_error h, madeRules_cons_of_error h, ih]
    | ok rules =>
      have hrules : (madeRules rest).getLast?.elim (g.rebuilt rules).rules
          ((g.rebuilt rules).authored ++ ·) =
          (rules :: madeRules rest).getLast?.elim g.rules (g.authored ++ ·) := by
        rw [g.authored_rebuilt h, List.getLast?_cons]
        -- without later rules those of this request stay
        cases (madeRules rest).getLast? <;> rfl
      have hrevision : (g.rebuilt rules).revision + .ofNat (madeRules rest).length =
          g.revision + .ofNat (rules :: madeRules rest).length :=
        add_one_add_ofNat g.revision (madeRules rest).length
      rw [g.serve_of_ok h, madeRules_cons_of_ok h]
      show ((g.rebuilt rules).serveAll rest).2 = _
      rw [ih, hrules, hrevision]
      rfl

theorem serveAll_errors (g : Grammar) (requests : List RebuildRequest) :
    List.Forall₂ (fun q answer => ∀ cause, answer = .error cause ↔ q.rules = .error cause)
      requests (g.serveAll requests).1 := by
  induction requests generalizing g with
  | nil => exact .nil
  | cons q rest ih => exact .cons (g.serve_eq_error_iff q) (ih (g.serve q).2)

theorem serveAll_reports (g : Grammar) (requests : List RebuildRequest) :
    (g.serveAll requests).1.filterMap Except.toOption =
      List.zipWith RebuildReport.mk
        (g.generated.length :: (madeRules requests).map List.length)
        ((madeRules requests).map List.length) := by
  induction requests generalizing g with
  | nil => rfl
  | cons q rest ih =>
    rw [serveAll_cons]
    cases h : q.rules with
    | error cause =>
      rw [g.serve_of_error h, madeRules_cons_of_error h, ← ih g]
      rfl
    | ok rules =>
      rw [g.serve_of_ok h, madeRules_cons_of_ok h]
      show _ :: ((g.rebuilt rules).serveAll rest).1.filterMap Except.toOption = _
      rw [ih, g.generated_rebuilt h]
      rfl

end Grammar

end GeckScript
