/-!
Properties and mappings of characters as Unicode publishes them. A set of characters is given by
ranges, of which a sorted list becomes a balanced search tree, so that membership takes logarithmic
time. A mapping of single characters is given by runs of evenly spaced characters that are all moved
by the same distance.
-/

namespace GeckScript.Text

inductive RangeSet where
  | empty
  | node (below : RangeSet) (first last : Nat) (above : RangeSet)

namespace RangeSet

def contains : RangeSet → Nat → Bool
  | empty, _ => false
  | node below first last above, n =>
    if n < first then below.contains n
    else if last < n then above.contains n
    else true

/-- Takes the first `count` ranges off the list and balances them, at most to a depth. -/
def takeBalanced : Nat → Nat → List (Nat × Nat) → RangeSet × List (Nat × Nat)
  | 0, _, ranges => (empty, ranges)
  | depth + 1, count, ranges =>
    if count = 0 then (empty, ranges)
    else
      match takeBalanced depth (count / 2) ranges with
      | (below, []) => (below, [])
      | (below, (first, last) :: rest) =>
        let (above, rest) := takeBalanced depth (count - count / 2 - 1) rest
        (node below first last above, rest)

def ofSorted (ranges : List (Nat × Nat)) : RangeSet :=
  (takeBalanced (ranges.length.log2 + 1) ranges.length ranges).1

def mem (set : RangeSet) (c : Char) : Bool :=
  set.contains c.toNat

end RangeSet

/-- The characters from `first` to `last`, every `stride`th of them, mapped in order to the
characters from `image` on. -/
structure CharRun where
  first : Nat
  last : Nat
  stride : Nat
  image : Nat

namespace CharRun

def covers (run : CharRun) (n : Nat) : Bool :=
  run.first ≤ n && n ≤ run.last && (n - run.first) % run.stride == 0

def apply (runs : List CharRun) (c : Char) : Char :=
  match runs.find? fun run => run.covers c.toNat with
  | some run => Char.ofNat (run.image + (c.toNat - run.first))
  | none => c

def preimages (runs : List CharRun) (c : Char) : List Char :=
  runs.filterMap fun run =>
    let n := run.first + (c.toNat - run.image)
    if run.image ≤ c.toNat && run.covers n then some (Char.ofNat n) else none

end CharRun

end GeckScript.Text
