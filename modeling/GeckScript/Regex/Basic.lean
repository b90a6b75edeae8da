import GeckScript.Regex.CharClass

/-!
Regular expressions as trees, and positions in a text. A position is the text cut in two: the
characters before it, nearest first, and the characters after it.
-/

namespace GeckScript.Regex

open Text

structure Cursor where
  before : List Char
  after : List Char
  deriving Repr, DecidableEq

namespace Cursor

def start (text : List Char) : Cursor :=
  ⟨[], text⟩

def text (s : Cursor) : List Char :=
  s.before.reverse ++ s.after

def column (s : Cursor) : Nat :=
  s.before.length

def wordBefore (s : Cursor) : Bool :=
  match s.before with
  | [] => false
  | c :: _ => isWordChar c

def wordAfter (s : Cursor) : Bool :=
  match s.after with
  | [] => false
  | c :: _ => isWordChar c

def atBoundary (s : Cursor) : Bool :=
  s.wordBefore != s.wordAfter

end Cursor

/-- Conditions on a position that take no character. The CRLF variants treat a carriage return, a
line feed and the two in a row as one line end. -/
inductive Assertion where
  | textStart
  | textEnd
  | lineStart
  | lineEnd
  | crlfLineStart
  | crlfLineEnd
  | wordBoundary
  | noWordBoundary
  | wordStart
  | wordEnd
  | wordStartHalf
  | wordEndHalf
  deriving Repr, DecidableEq

def Assertion.holds (a : Assertion) (s : Cursor) : Bool :=
  match a with
  | textStart => s.before.isEmpty
  | textEnd => s.after.isEmpty
  | lineStart => s.before.isEmpty || s.before.head? == some '\n'
  | lineEnd => s.after.isEmpty || s.after.head? == some '\n'
  | crlfLineStart =>
    s.before.isEmpty || s.before.head? == some '\n' ||
      (s.before.head? == some '\r' && s.after.head? != some '\n')
  | crlfLineEnd =>
    s.after.isEmpty || s.after.head? == some '\r' ||
      (s.after.head? == some '\n' && s.before.head? != some '\r')
  | wordBoundary => s.atBoundary
  | noWordBoundary => !s.atBoundary
  | wordStart => !s.wordBefore && s.wordAfter
  | wordEnd => s.wordBefore && !s.wordAfter
  | wordStartHalf => !s.wordBefore
  | wordEndHalf => !s.wordAfter

/-- Groups need no node: nothing asks where a part of a pattern matched. -/
inductive Expr where
  | empty
  | one (s : CharClass)
  | assert (a : Assertion)
  | cat (r t : Expr)
  | alt (r t : Expr)
  | star (greedy : Bool) (r : Expr)
  deriving Repr, DecidableEq

namespace Expr

def catAll : List Expr → Expr
  | [] => empty
  | [r] => r
  | r :: rest => cat r (catAll rest)

/-- One of the expressions, the earlier ones preferred; no expression never matches. -/
def altAll : List Expr → Expr
  | [] => one CharClass.none
  | [r] => r
  | r :: rest => alt r (altAll rest)

def optional (greedy : Bool) (r : Expr) : Expr :=
  if greedy then alt r empty else alt empty r

def plus (greedy : Bool) (r : Expr) : Expr :=
  cat r (star greedy r)

def upTo (greedy : Bool) (r : Expr) : Nat → Expr
  | 0 => empty
  | n + 1 => optional greedy (cat r (upTo greedy r n))

def repeated (greedy : Bool) (r : Expr) (least : Nat) (most : Option Nat) : Expr :=
  let tail :=
    match most with
    | none => star greedy r
    | some n => upTo greedy r (n - least)
  catAll (List.replicate least r ++ [tail])

end Expr

end GeckScript.Regex
