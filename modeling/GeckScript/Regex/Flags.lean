import GeckScript.Regex.Basic

/-!
The flags under which a stretch of a pattern is read. Classes, boundaries and case variants are
those of Unicode under any flags.
-/

namespace GeckScript.Regex

structure Flags where
  ignoreCase : Bool
  multiLine : Bool
  dotAll : Bool
  swapGreed : Bool
  crlf : Bool
  /-- Blanks and comments in the pattern are layout. -/
  layout : Bool
  deriving Repr, DecidableEq

namespace Flags

def none : Flags :=
  ⟨false, false, false, false, false, false⟩

def isLetter (c : Char) : Bool :=
  c ∈ ['i', 'm', 's', 'U', 'u', 'R', 'x']

def set (f : Flags) (letter : Char) (on : Bool) : Flags :=
  match letter with
  | 'i' => { f with ignoreCase := on }
  | 'm' => { f with multiLine := on }
  | 's' => { f with dotAll := on }
  | 'U' => { f with swapGreed := on }
  | 'R' => { f with crlf := on }
  | 'x' => { f with layout := on }
  | _ => f

def dot (f : Flags) : CharClass :=
  if f.dotAll then .any
  else if f.crlf then .complement (.union (.literal '\r') (.literal '\n'))
  else .complement (.literal '\n')

def lineStart (f : Flags) : Assertion :=
  if f.multiLine then if f.crlf then .crlfLineStart else .lineStart else .textStart

def lineEnd (f : Flags) : Assertion :=
  if f.multiLine then if f.crlf then .crlfLineEnd else .lineEnd else .textEnd

def fold (f : Flags) (s : CharClass) : CharClass :=
  if f.ignoreCase then .folded s else s

end Flags

end GeckScript.Regex
