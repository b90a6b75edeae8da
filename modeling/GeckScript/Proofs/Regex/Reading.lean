import GeckScript.Regex.Parser
import Mathlib.Data.List.Basic

/-!
How the reader of patterns takes a source apart, without its fuel. A stretch of source spells some
expressions if reading it puts just these, one behind the other, onto the branch being read.
-/

namespace GeckScript.Regex

open Text

/-- With fuel for the characters left, the reader comes from `s` to the answer. -/
def State.Reads (s : State) (answer : Except Fault Expr) : Prop :=
  ∀ fuel, s.reader.rest.length < fuel → State.run fuel s = answer

namespace State.Reads

theorem parse_eq {source : String} {answer : Except Fault Expr}
    (h : (State.start source).Reads answer) : parse source = answer :=
  h _ (Nat.lt_succ_self _)

variable {pos : Nat} {rest : List Char} {f : Flags} {l : Level} {g : List OpenGroup}
  {n : List (List Char × Stretch)} {answer : Except Fault Expr}

theorem nil (hf : f.layout = false) :
    Reads ⟨⟨pos, []⟩, f, l, g, n⟩ (finish ⟨⟨pos, []⟩, f, l, g, n⟩) := by
  intro fuel hfuel
  cases fuel with
  | zero => omega
  | succ fuel => simp [run, hf, Reader.skip]

/-- One round of the reader, which has to pass a character. -/
theorem cons {c : Char} {s : State} (hf : f.layout = false)
    (hstep : step ⟨⟨pos, c :: rest⟩, f, l, g, n⟩ c = .ok s)
    (hlength : s.reader.rest.length ≤ rest.length) (h : s.Reads answer) :
    Reads ⟨⟨pos, c :: rest⟩, f, l, g, n⟩ answer := by
  intro fuel hfuel
  cases fuel with
  | zero => omega
  | succ fuel =>
    have hrun : run fuel s = answer := h fuel (by simp only [List.length_cons] at hfuel; omega)
    simp only [run, Reader.skip, hf, Bool.false_eq_true, if_false, hstep]
    exact hrun

/-- An opening parenthesis with flags that stay as they are. -/
theorem openGroup (hf : f.layout = false)
    (h : Reads ⟨⟨pos + 3, rest⟩, f, .empty, ⟨pos, f, l⟩ :: g, n⟩ answer) :
    Reads ⟨⟨pos, '(' :: '?' :: ':' :: rest⟩, f, l, g, n⟩ answer := by
  refine cons hf (s := ⟨⟨pos + 3, rest⟩, f, .empty, ⟨pos, f, l⟩ :: g, n⟩) ?_ ?_ h
  · simp [step, readGroup, Reader.startsWith, Reader.advanceSkip, Reader.skip, Reader.advance, hf,
      bind, Except.bind, pure, Except.pure, Reader.atEnd, readFlags, State.openGroup]
  · simp only [List.length_cons]
    omega

theorem setIgnoreCase (hf : f.layout = false)
    (h : Reads ⟨⟨pos + 4, rest⟩, { f with ignoreCase := true },
      { l with pieces := .flags :: l.pieces }, g, n⟩ answer) :
    Reads ⟨⟨pos, '(' :: '?' :: 'i' :: ')' :: rest⟩, f, l, g, n⟩ answer := by
  refine cons hf (s := ⟨⟨pos + 4, rest⟩, { f with ignoreCase := true },
    { l with pieces := .flags :: l.pieces }, g, n⟩) ?_ ?_ h
  · simp [step, readGroup, Reader.startsWith, Reader.advanceSkip, Reader.skip, Reader.advance, hf,
      bind, Except.bind, pure, Except.pure, Reader.atEnd, readFlags, Flags.isLetter, Flags.set]
  · simp only [List.length_cons]
    omega

theorem closeGroup {opened : OpenGroup} (hf : f.layout = false)
    (h : Reads ⟨⟨pos + 1, rest⟩, opened.flags, opened.around.push l.close, g, n⟩ answer) :
    Reads ⟨⟨pos, ')' :: rest⟩, f, l, opened :: g, n⟩ answer :=
  cons hf rfl (Nat.le_refl _) h

theorem endBranch (hf : f.layout = false)
    (h : Reads ⟨⟨pos + 1, rest⟩, f, l.endBranch, g, n⟩ answer) :
    Reads ⟨⟨pos, '|' :: rest⟩, f, l, g, n⟩ answer :=
  cons hf rfl (Nat.le_refl _) h

/-- A character without a meaning of its own stands for itself. -/
theorem plain {c : Char} (hf : f.layout = false) (hc : isMeta c = false)
    (h : Reads ⟨⟨pos + 1, rest⟩, f, l.push (.one (.ofChar f.ignoreCase c)), g, n⟩ answer) :
    Reads ⟨⟨pos, c :: rest⟩, f, l, g, n⟩ answer := by
  refine cons hf ?_ (Nat.le_refl _) h
  have hstep : step ⟨⟨pos, c :: rest⟩, f, l, g, n⟩ c =
      .ok (State.push ⟨⟨pos, c :: rest⟩, f, l, g, n⟩ (.one (.ofChar f.ignoreCase c))
        ⟨pos + 1, rest⟩) := by
    unfold step
    -- every character that a round treats apart has a meaning of its own
    split <;> first | rfl | exact absurd hc (by decide)
  rw [hstep]
  rfl

/-- A backslash takes the meaning of its own from a character. -/
theorem escaped {c : Char} (hf : f.layout = false) (hc : isMeta c)
    (h : Reads ⟨⟨pos + 2, rest⟩, f, l.push (.one (.ofChar f.ignoreCase c)), g, n⟩ answer) :
    Reads ⟨⟨pos, '\\' :: c :: rest⟩, f, l, g, n⟩ answer := by
  have hescape : readEscape f.layout ⟨pos, '\\' :: c :: rest⟩ = .ok (.char c, ⟨pos + 2, rest⟩) := by
    -- a character with a meaning does not start any of the longer escapes
    have hclass : ∀ d, isMeta d → d.isDigit = false ∧ d ≠ 'x' ∧ d ≠ 'u' ∧ d ≠ 'U' ∧
        d ∉ ['d', 's', 'w', 'D', 'S', 'W'] := by
      intro d hd
      simp only [isMeta, decide_eq_true_eq] at hd
      revert d
      rw [← List.forall_iff_forall_mem]
      decide
    obtain ⟨h1, h2, h3, h4, h5⟩ := hclass c hc
    simp [readEscape, Reader.advance, h1, h2, h3, h4, h5, isEscapable, hc]
  refine cons hf (s := ⟨⟨pos + 2, rest⟩, f, l.push (.one (.ofChar f.ignoreCase c)), g, n⟩) ?_ ?_ h
  · simp [step, hescape, bind, Except.bind, pure, Except.pure, State.push]
  · simp

/-- A boundary, unless a brace behind it makes it a named one. -/
theorem boundary (hf : f.layout = false) (hrest : rest.head? ≠ some '{')
    (h : Reads ⟨⟨pos + 2, rest⟩, f, l.push (.assert .wordBoundary), g, n⟩ answer) :
    Reads ⟨⟨pos, '\\' :: 'b' :: rest⟩, f, l, g, n⟩ answer := by
  have hescape : readEscape f.layout ⟨pos, '\\' :: 'b' :: rest⟩ =
      .ok (.assertion .wordBoundary, ⟨pos + 2, rest⟩) := by
    have hread (r : Nat) :
        readBoundary f.layout pos ⟨r, rest⟩ = .ok (.wordBoundary, ⟨r, rest⟩) := by
      rw [readBoundary]
      cases rest with
      | nil => rfl
      | cons c rest =>
        have hc : c ≠ '{' := by simpa using hrest
        split
        · simp_all
        · rfl
    simp [readEscape, Reader.advance, isEscapable, isMeta, hread, bind, Except.bind, pure,
      Except.pure]
  refine cons hf (s := ⟨⟨pos + 2, rest⟩, f, l.push (.assert .wordBoundary), g, n⟩) ?_ ?_ h
  · simp [step, hescape, bind, Except.bind, pure, Except.pure, State.push]
  · simp

end State.Reads

namespace Level

def pushAll (l : Level) (rs : List Expr) : Level :=
  rs.foldl push l

theorem pushAll_append (l : Level) (rs ts : List Expr) :
    l.pushAll (rs ++ ts) = (l.pushAll rs).pushAll ts :=
  List.foldl_append

theorem pushAll_eq (l : Level) (rs : List Expr) :
    l.pushAll rs = ⟨l.branches, (rs.map .regex).reverse ++ l.pieces⟩ := by
  induction rs generalizing l with
  | nil => rfl
  | cons r rs ih =>
    rw [pushAll, List.foldl_cons, ← pushAll, ih]
    simp [push]

theorem endBranch_pushAll (branches : List Expr) (rs : List Expr) :
    (pushAll ⟨branches, []⟩ rs).endBranch = ⟨.catAll rs :: branches, []⟩ := by
  have hpieces : (rs.map Piece.regex).filterMap Piece.regex? = rs := by
    simp [List.filterMap_map, Function.comp_def, Piece.regex?]
  rw [pushAll_eq, endBranch, branch]
  simp only [List.append_nil, List.reverse_reverse, hpieces]

/-- A single expression in a level, beside changes of flags, is what the level stands for. -/
theorem close_push {l : Level} (r : Expr) (hbranches : l.branches = [])
    (hpieces : l.pieces.filterMap Piece.regex? = []) : (l.push r).close = r := by
  simp [close, endBranch, branch, push, hbranches, hpieces, Piece.regex?, Expr.catAll,
    Expr.altAll]

end Level

/-- Reading `source` under `f` puts `rs` onto the branch. What follows must not be an opening brace,
which would make a boundary at the end of `source` a named one. -/
def Spells (f : Flags) (source : List Char) (rs : List Expr) : Prop :=
  ∀ ⦃rest : List Char⦄ ⦃l : Level⦄ ⦃g : List OpenGroup⦄ ⦃n : List (List Char × Stretch)⦄
    ⦃answer : Except Fault Expr⦄, rest.head? ≠ some '{' →
    (∀ pos, State.Reads ⟨⟨pos, rest⟩, f, l.pushAll rs, g, n⟩ answer) →
    ∀ pos, State.Reads ⟨⟨pos, source ++ rest⟩, f, l, g, n⟩ answer

namespace Spells

variable {f : Flags}

theorem nil : Spells f [] [] :=
  fun _ _ _ _ _ _ h pos => h pos

theorem append {source more : List Char} {rs ts : List Expr} (h : Spells f source rs)
    (hmore : Spells f more ts) (hbrace : more.head? ≠ some '{') :
    Spells f (source ++ more) (rs ++ ts) := by
  intro rest l g n answer hrest hreads pos
  rw [List.append_assoc]
  refine h ?_ (hmore hrest ?_) pos
  · cases more with
    | nil => exact hrest
    | cons c more => exact hbrace
  · rwa [Level.pushAll_append] at hreads

theorem plain {c : Char} (hf : f.layout = false) (hc : isMeta c = false) :
    Spells f [c] [.one (.ofChar f.ignoreCase c)] :=
  fun _ _ _ _ _ _ h _ => .plain hf hc (h _)

theorem escaped {c : Char} (hf : f.layout = false) (hc : isMeta c) :
    Spells f ['\\', c] [.one (.ofChar f.ignoreCase c)] :=
  fun _ _ _ _ _ _ h _ => .escaped hf hc (h _)

theorem boundary (hf : f.layout = false) : Spells f ['\\', 'b'] [.assert .wordBoundary] :=
  fun _ _ _ _ _ hrest h _ => .boundary hf hrest (h _)

end Spells

/-- Branches in a group, each of which spells its expressions, are read as their alternation. -/
theorem State.Reads.branches {f : Flags} (hf : f.layout = false) {rest : List Char}
    {opened : OpenGroup} {g : List OpenGroup} {n : List (List Char × Stretch)}
    {answer : Except Fault Expr} {parts : List (List Char × List Expr)} (hparts : parts ≠ [])
    (hspells : ∀ part ∈ parts, Spells f part.1 part.2) (done : List Expr)
    (h : ∀ pos, State.Reads ⟨⟨pos, rest⟩, opened.flags, opened.around.push
      (.altAll (done.reverse ++ parts.map fun part => .catAll part.2)), g, n⟩ answer) (pos : Nat) :
    State.Reads ⟨⟨pos, ['|'].intercalate (parts.map Prod.fst) ++ ')' :: rest⟩, f, ⟨done, []⟩,
      opened :: g, n⟩ answer := by
  induction parts generalizing done pos with
  | nil => exact absurd rfl hparts
  | cons part parts ih =>
    have hpart := hspells part List.mem_cons_self
    -- the last branch ends with the group, any other one with a bar
    cases parts with
    | nil =>
      have hsource : ['|'].intercalate ([part].map Prod.fst) = part.1 := by
        simp [List.intercalate]
      rw [hsource]
      refine hpart (by simp) (fun pos => .closeGroup hf ?_) pos
      rw [Level.close, Level.endBranch_pushAll, List.reverse_cons]
      exact h _
    | cons next parts =>
      have hsource : ['|'].intercalate ((part :: next :: parts).map Prod.fst) ++ ')' :: rest =
          part.1 ++ '|' :: (['|'].intercalate ((next :: parts).map Prod.fst) ++ ')' :: rest) := by
        simp [List.intercalate]
      rw [hsource]
      refine hpart (by simp) (fun pos => .endBranch hf ?_) pos
      rw [Level.endBranch_pushAll]
      refine ih (by simp) (fun part hmem => hspells part (List.mem_cons_of_mem _ hmem)) _ ?_ _
      intro pos
      simpa using h pos

end GeckScript.Regex
