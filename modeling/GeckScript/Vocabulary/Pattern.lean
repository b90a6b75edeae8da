import GeckScript.Regex.Match
import GeckScript.Regex.Parser
import GeckScript.Text.Basic
import GeckScript.Text.Quoted

/-!
The pattern of a set of tokens: an alternation of the tokens, literally and as whole words, the
longer ones first so that a token never hides a longer one that starts with it. As tokens are
matched literally, each has to show something and holds no control character.
-/

namespace GeckScript

open Text

inductive TokenFlaw where
  | blank
  | nul
  | control
  deriving Repr, DecidableEq

def TokenFlaw.message : TokenFlaw → String
  | blank => "token is empty"
  | nul => "token contains a NUL character"
  | control => "token contains a control character"

/-- What is wrong with a token. A blank token is reported as such even if it holds controls, and a
NUL character before any other control. -/
def tokenFlaw? (token : String) : Option TokenFlaw :=
  let chars := token.toList
  if chars.all isBlank then some .blank
  else if chars.contains '\x00' then some .nul
  else if chars.any isControl then some .control
  else none

def firstFlaw? (tokens : List String) : Option (Nat × String × TokenFlaw) :=
  tokens.zipIdx.findSome? fun (token, index) =>
    (tokenFlaw? token).map fun flaw => (index, token, flaw)

open Text

inductive PatternError where
  | invalidToken (index : Nat) (token : String) (flaw : TokenFlaw)
  /-- A source that cannot be read, with the report on its fault. -/
  | invalidSource (report : String)
  deriving Repr, DecidableEq

def PatternError.message : PatternError → String
  | invalidToken index token flaw =>
    s!"Invalid token #{index} ({quote token}): {flaw.message}"
  | invalidSource report => s!"Invalid regex pattern: {report}"

/-- A pattern without any match: no position is a word boundary and none at once. -/
def neverMatch : String :=
  "\\b\\B"

def ignoreCaseFlag : String :=
  "(?i)"

/-- Tokens by falling number of characters; tokens of one length keep their order. -/
def longestFirst (tokens : List String) : List String :=
  tokens.mergeSort fun a b => b.length ≤ a.length

def escapeMeta (c : Char) : List Char :=
  if Regex.isMeta c then ['\\', c] else [c]

def needsBoundary (c : Char) : Bool :=
  isAlphanumeric c || c == '_'

def boundary (c : Option Char) : List Char :=
  if c.any needsBoundary then ['\\', 'b'] else []

def boundedLiteral (token : String) : List Char :=
  let chars := token.toList
  boundary chars.head? ++ chars.flatMap escapeMeta ++ boundary chars.getLast?

def alternation (ignoreCase : Bool) (tokens : List String) : List Char :=
  (if ignoreCase then ignoreCaseFlag.toList else []) ++ "(?:".toList ++
    ['|'].intercalate (tokens.map boundedLiteral) ++ [')']

/-- The source that matches any of the tokens; no token gives a source without matches. -/
def buildPattern (tokens : List String) (ignoreCase : Bool) : Except PatternError String :=
  match firstFlaw? tokens with
  | some (index, token, flaw) => .error (.invalidToken index token flaw)
  | none =>
    if tokens.isEmpty then .ok neverMatch
    else
      .ok (String.ofList (alternation ignoreCase (longestFirst tokens)))

def compilePattern (source : String) : Except PatternError Regex.Expr :=
  match Regex.parse source with
  | .ok r => .ok r
  | .error fault => .error (.invalidSource (fault.report source))

end GeckScript
