import GeckScript.Grammar.Basic
import GeckScript.Proofs.Json.Reading
import Mathlib.Data.List.Monad

/-!
Reading the written form of a grammar. It has everything but the revision, so grammars of one
written form differ in their revision at most.
-/

namespace GeckScript

open Json (Value)

def Json.Value.text? : Value → Option String
  | .text s => some s
  | _ => none

def Json.Value.list? : Value → Option (List Value)
  | .list items => some items
  | _ => none

def Json.Value.member? (key : String) : Value → Option Value
  | .object members => members.lookup key
  | _ => none

/-- A rule without an origin is authored. -/
def Origin.ofJson? : Option Value → Option Origin
  | none => some .authored
  | some (.text "generated") => some .generated
  | _ => none

def Rule.ofJson? (v : Value) : Option Rule := do
  let name ← (← v.member? "name").text?
  let source ← (← v.member? "match").text?
  let origin ← Origin.ofJson? (v.member? "origin")
  return ⟨name, source, origin⟩

namespace Grammar

/-- A grammar that has just been read has no revision yet. -/
def ofJson? (v : Value) : Option Grammar := do
  let scopeName ← (← v.member? "scopeName").text?
  let name ← (← v.member? "name").text?
  let fileTypes ← (← (← v.member? "fileTypes").list?).mapM Value.text?
  let rules ← (← (← v.member? "patterns").list?).mapM Rule.ofJson?
  return ⟨scopeName, name, fileTypes, rules, 0⟩

def read? (document : String) : Option Grammar := do
  ofJson? (← Json.parse? document)

end Grammar

theorem Rule.ofJson?_toJson (r : Rule) : ofJson? r.toJson = some r := by
  cases r with
  | mk name source origin => cases origin <;> rfl

theorem mapM_map_eq_some {α β : Type} (f : α → β) (g : β → Option α) (h : ∀ a, g (f a) = some a)
    (items : List α) : (items.map f).mapM g = some items := by
  have hcomp : g ∘ f = fun a => pure (id a) := funext h
  rw [List.mapM_map, hcomp, List.mapM_pure, List.map_id]
  rfl

namespace Grammar

theorem ofJson?_toJson (g : Grammar) : ofJson? g.toJson = some { g with revision := 0 } := by
  have hfileTypes : (g.fileTypes.map Value.text).mapM Value.text? = some g.fileTypes :=
    mapM_map_eq_some Value.text Value.text? (fun _ => rfl) g.fileTypes
  have hrules : (g.rules.map Rule.toJson).mapM Rule.ofJson? = some g.rules :=
    mapM_map_eq_some Rule.toJson Rule.ofJson? Rule.ofJson?_toJson g.rules
  have hmembers : g.toJson.member? "scopeName" = some (.text g.scopeName) ∧
      g.toJson.member? "name" = some (.text g.name) ∧
      g.toJson.member? "fileTypes" = some (.list (g.fileTypes.map Value.text)) ∧
      g.toJson.member? "patterns" = some (.list (g.rules.map Rule.toJson)) :=
    ⟨rfl, rfl, rfl, rfl⟩
  simp only [ofJson?, hmembers, Value.text?, Value.list?, hfileTypes, hrules, Option.bind_eq_bind,
    Option.bind_some, Option.pure_def]

/-- A grammar is read back from its written form, whatever blanks stand behind it. -/
theorem read?_pretty_append (g : Grammar) {blanks : String} (h : blanks.toList.all Json.isBlank) :
    read? (g.toJson.pretty ++ blanks) = some { g with revision := 0 } := by
  rw [read?, Json.parse?_pretty_append _ h]
  exact ofJson?_toJson g

theorem read?_pretty (g : Grammar) : read? g.toJson.pretty = some { g with revision := 0 } := by
  rw [read?, Json.parse?_pretty]
  exact ofJson?_toJson g

/-- The written form is a document from which all but the revision is read back, and two grammars
share it exactly if they differ in their revision at most. -/
theorem written_form_omits_revision (g : Grammar) :
    Json.parse? g.toJson.pretty = some g.toJson ∧
      read? g.toJson.pretty = some { g with revision := 0 } ∧
      ∀ other : Grammar,
        g.toJson.pretty = other.toJson.pretty ↔ other = { g with revision := other.revision } := by
  refine ⟨Json.parse?_pretty g.toJson, read?_pretty g, fun other => ⟨fun h => ?_, fun h => ?_⟩⟩
  · have hread := (read?_pretty other).symm.trans (congrArg read? h.symm)
    rw [read?_pretty, Option.some.injEq, Grammar.mk.injEq] at hread
    obtain ⟨hscope, hname, htypes, hrules, -⟩ := hread
    rw [← hscope, ← hname, ← htypes, ← hrules]
  · rw [h]
    rfl

end Grammar

end GeckScript
