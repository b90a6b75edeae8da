import GeckScript.Text.Basic
import GeckScript.Text.CaseFold
import GeckScript.Text.Word

/-!
Sets of characters as a pattern describes them: single characters, ranges, the three named classes
and what the set operators make of them. Membership is decided on the description itself.
-/

namespace GeckScript.Regex

open Text

inductive CharClass where
  | any
  | literal (c : Char)
  /-- The characters whose case folding is `f`. -/
  | alike (f : Char)
  | range (first last : Char)
  | digit
  | blank
  | word
  | complement (s : CharClass)
  | union (s t : CharClass)
  | intersection (s t : CharClass)
  /-- The characters that have a case variant in `s`. -/
  | folded (s : CharClass)
  deriving Repr, DecidableEq

namespace CharClass

def contains : CharClass → Char → Bool
  | any, _ => true
  | literal d, c => c == d
  | alike f, c => fold c == f
  | range first last, c => first ≤ c && c ≤ last
  | digit, c => isDecimalDigit c
  | blank, c => isBlank c
  | word, c => isWordChar c
  | complement s, c => !s.contains c
  | union s t, c => s.contains c || t.contains c
  | intersection s t, c => s.contains c && t.contains c
  | folded s, c => (foldClass (fold c)).any fun d => s.contains d

def none : CharClass :=
  complement any

def difference (s t : CharClass) : CharClass :=
  intersection s (complement t)

def symmetricDifference (s t : CharClass) : CharClass :=
  union (difference s t) (difference t s)

def unionAll : List CharClass → CharClass
  | [] => none
  | [s] => s
  | s :: rest => union s (unionAll rest)

def ofChar (ignoreCase : Bool) (c : Char) : CharClass :=
  if ignoreCase then alike (fold c) else literal c

end CharClass

end GeckScript.Regex
