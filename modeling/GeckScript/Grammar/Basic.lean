import GeckScript.Json.Value
import GeckScript.Vocabulary.Pattern

/-!
Grammars: a list of rules under a scope name, with the file types they apply to. A rule names a
scope for the text that its pattern matches, and is either written by hand or generated from a group
of tokens. The revision counts the changes that were announced, and is not part of the written form.
-/

namespace GeckScript

inductive Origin where
  | authored
  | generated
  deriving Repr, DecidableEq

structure Rule where
  name : String
  source : String
  origin : Origin
  deriving Repr, DecidableEq

def Rule.isGenerated (r : Rule) : Bool :=
  r.origin == .generated

def authoredRules : List Rule := [
  ⟨"comment.line.semicolon.geck", ";.*$", .authored⟩,
  ⟨"string.quoted.double.geck", "\"(?:[^\"\\\\]|\\\\.)*\"", .authored⟩,
  ⟨"constant.numeric.geck", "\\b\\d+(?:\\.\\d+)?\\b", .authored⟩,
  ⟨"keyword.operator.geck", "==|!=|<=|>=|&&|\\|\\||[-+*/<>=!]", .authored⟩]

structure Grammar where
  scopeName : String
  name : String
  fileTypes : List String
  rules : List Rule
  revision : UInt64
  deriving Repr, DecidableEq

def Rule.toJson (r : Rule) : Json.Value :=
  let origin := if r.isGenerated then [("origin", Json.Value.text "generated")] else []
  .object ([("name", .text r.name), ("match", .text r.source)] ++ origin)

namespace Grammar

def ofRules (rules : List Rule) : Grammar :=
  ⟨"source.geck", "GECK", ["geck", "gek"], rules, 0⟩

def initial : Grammar :=
  ofRules authoredRules

def generated (g : Grammar) : List Rule :=
  g.rules.filter Rule.isGenerated

def authored (g : Grammar) : List Rule :=
  g.rules.filter (!·.isGenerated)

def find? (g : Grammar) (name : String) : Option Rule :=
  g.rules.find? (·.name == name)

/-- Announces a change of the rules. Behind the last number the revision starts again at zero. -/
def announce (g : Grammar) : Grammar :=
  { g with revision := g.revision + 1 }

def toJson (g : Grammar) : Json.Value :=
  .object [
    ("scopeName", .text g.scopeName),
    ("name", .text g.name),
    ("fileTypes", .list (g.fileTypes.map .text)),
    ("patterns", .list (g.rules.map Rule.toJson))]

end Grammar

structure CompiledRule where
  name : String
  regex : Regex.Expr

/-- Reads the source of every rule, up to the first that cannot be read. -/
def compileRules (rules : List Rule) : Except PatternError (List CompiledRule) :=
  rules.mapM fun rule => do
    let regex ← compilePattern rule.source
    return ⟨rule.name, regex⟩

def highlight (rules : List CompiledRule) (text : String) : List (String × List Regex.Found) :=
  let found := rules.map fun rule => (rule.name, rule.regex.findAll text.toList)
  found.filter fun (_, spans) => !spans.isEmpty

end GeckScript
