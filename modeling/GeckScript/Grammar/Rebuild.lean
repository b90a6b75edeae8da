import GeckScript.Grammar.Basic
import GeckScript.Vocabulary.Pattern
import GeckScript.Vocabulary.Standard

/-!
Bringing the generated rules of a grammar in line with a catalogue of token groups and the features
that are switched on.
-/

namespace GeckScript

inductive RebuildError where
  | pattern (scope : String) (cause : PatternError)
  /-- Two enabled groups have the same scope. -/
  | duplicate (scope : String)
  deriving Repr, DecidableEq

def RebuildError.message : RebuildError → String
  | pattern scope cause => s!"Cannot build pattern for '{scope}': {cause.message}"
  | duplicate scope => s!"Duplicate generated entry '{scope}'"

def Group.toRule (g : Group) : Except RebuildError Rule :=
  match buildPattern g.tokens g.ignoreCase with
  | .ok source => .ok ⟨g.scope, source, .generated⟩
  | .error cause => .error (.pattern g.scope cause)

/-- A rule for each group in order, where `seen` holds the scopes in front. A repeated scope is
reported before anything wrong with the tokens of its group. -/
def rulesOf (seen : List String) : List Group → Except RebuildError (List Rule)
  | [] => .ok []
  | g :: rest =>
    if seen.contains g.scope then .error (.duplicate g.scope)
    else do
      let rule ← g.toRule
      let rules ← rulesOf (g.scope :: seen) rest
      return rule :: rules

def generateRules (catalogue : List Group) (features : FeatureSet) :
    Except RebuildError (List Rule) :=
  rulesOf [] (catalogue.filter (·.isEnabled features))

/-- Puts newly generated rules in the place of the old ones, behind the authored rules. -/
def replaceGenerated (current generated : List Rule) : List Rule :=
  current.filter (!·.isGenerated) ++ generated

structure RebuildReport where
  removed : Nat
  added : Nat
  deriving Repr, DecidableEq

def Grammar.rebuild (g : Grammar) (catalogue : List Group) (features : FeatureSet) :
    Except RebuildError (RebuildReport × Grammar) :=
  match generateRules catalogue features with
  | .error e => .error e
  | .ok rules =>
    .ok (⟨g.generated.length, rules.length⟩,
      { g with rules := replaceGenerated g.rules rules }.announce)

end GeckScript
