import GeckScript.Regex.Basic

/-!
Leftmost-first matching. At a position the ways in which an expression can match are tried in order
of preference, and the first that lets the rest succeed is taken; a search takes the leftmost
position with a match. Successive matches do not overlap, and an empty one may not touch the end of
the match in front of it.
-/

namespace GeckScript.Regex

/-- A matcher hands each way to go on from a position to a continuation, best first, and returns
the first answer. -/
abbrev Matcher (α : Type) :=
  Cursor → (Cursor → Option α) → Option α

/-- Repeats a matcher for at most `fuel` rounds that take a character; a round that takes none ends
the repetition. -/
def repeatMatch {α : Type} (greedy : Bool) (round : Matcher α) : Nat → Matcher α
  | 0, s, k => k s
  | fuel + 1, s, k =>
    let more t := if t.after.length < s.after.length then repeatMatch greedy round fuel t k else k t
    if greedy then round s more <|> k s else k s <|> round s more

namespace Expr

/-- A repetition takes at most as many rounds as there are characters left. -/
def run {α : Type} : Expr → Matcher α
  | empty, s, k => k s
  | one set, s, k =>
    match s.after with
    | [] => none
    | c :: rest => if set.contains c then k ⟨c :: s.before, rest⟩ else none
  | assert a, s, k => if a.holds s then k s else none
  | cat r t, s, k => r.run s fun u => t.run u k
  | alt r t, s, k => r.run s k <|> t.run s k
  | star greedy r, s, k => repeatMatch greedy r.run s.after.length s k

def matchAt (r : Expr) (s : Cursor) : Option Cursor :=
  r.run s some

end Expr

structure Found where
  start : Cursor
  stop : Cursor
  deriving Repr, DecidableEq

namespace Found

def length (m : Found) : Nat :=
  m.start.after.length - m.stop.after.length

def chars (m : Found) : List Char :=
  m.start.after.take m.length

def text (m : Found) : String :=
  String.ofList m.chars

end Found

namespace Expr

/-- The first match in the text cut at `before` and `after` that starts at the cut or behind it. -/
def search (r : Expr) (before : List Char) : List Char → Option Found
  | [] => (r.matchAt ⟨before, []⟩).map fun stop => ⟨⟨before, []⟩, stop⟩
  | c :: after =>
    match r.matchAt ⟨before, c :: after⟩ with
    | some stop => some ⟨⟨before, c :: after⟩, stop⟩
    | none => r.search (c :: before) after

def find (r : Expr) (text : List Char) : Option Found :=
  r.search [] text

/-- The next match from `s` on, where `mayBeEmpty` tells whether an empty match at `s` itself
counts. -/
def next (r : Expr) (s : Cursor) (mayBeEmpty : Bool) : Option Found :=
  match r.search s.before s.after with
  | none => none
  | some m =>
    if !mayBeEmpty && m.stop.column == s.column then
      match s.after with
      | [] => none
      | c :: after => r.search (c :: s.before) after
    else some m

/-- The matches from `s` on. Every one but the first ends behind the one in front of it, so there
is one for each character left and one more at most. -/
def findFrom (r : Expr) : Nat → Cursor → Bool → List Found
  | 0, _, _ => []
  | fuel + 1, s, mayBeEmpty =>
    match r.next s mayBeEmpty with
    | none => []
    | some m => m :: r.findFrom fuel m.stop false

def findAll (r : Expr) (text : List Char) : List Found :=
  r.findFrom (text.length + 1) (Cursor.start text) true

end Expr

end GeckScript.Regex
