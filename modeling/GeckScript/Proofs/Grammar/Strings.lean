import GeckScript.Grammar.Basic
import GeckScript.Proofs.Regex.Repetition

/-!
The authored rule for strings. A string goes from a double quote to the next one that no backslash
takes. Its inside is a row of items, each a character or a backslash with the character behind it.
No item starts with a quote, so the pattern can read the items in one way only, and it finds what a
reader finds that never goes back within a string.
-/

namespace GeckScript

open Regex

/-- How far it is from behind an opening quote to behind the quote that closes the string. A
backslash takes the character behind it along, which cannot be a line feed. -/
def closingQuote : List Char → Option Nat
  | [] => none
  | '"' :: _ => some 1
  | '\\' :: taken =>
    match taken with
    | [] => none
    | '\n' :: _ => none
    | _ :: rest => (closingQuote rest).map (· + 2)
  | _ :: rest => (closingQuote rest).map (· + 1)

theorem closingQuote_escape {c : Char} (h : c ≠ '\n') (rest : List Char) :
    closingQuote ('\\' :: c :: rest) = (closingQuote rest).map (· + 2) := by
  rw [closingQuote]
  exact h

theorem closingQuote_cons {c : Char} (hquote : c ≠ '"') (hescape : c ≠ '\\') (rest : List Char) :
    closingQuote (c :: rest) = (closingQuote rest).map (· + 1) := by
  rw [closingQuote]
  · exact hquote
  · exact hescape

/-- The length of the string that a double quote opens, if it is closed. -/
def stringHit (s : Cursor) : Option Nat :=
  if s.after.head? = some '"' then (closingQuote (s.advance 1).after).map (· + 1) else none

/-- Whether a backslash takes the character behind `front`. A backslash that is taken itself takes
none. -/
def takesNext (front : List Char) : Bool :=
  front.foldl (fun taken c => !taken && c == '\\') false

theorem takesNext_cons_of_ne {c : Char} (h : c ≠ '\\') (front : List Char) :
    takesNext (c :: front) = takesNext front := by
  have hc : (c == '\\') = false := by simpa using h
  rw [takesNext, List.foldl_cons, hc]
  rfl

/-- Behind a character that is taken everything starts again. -/
theorem takesNext_escape (c : Char) (front : List Char) :
    takesNext ('\\' :: c :: front) = takesNext front := rfl

/-- The inside of a string: its quotes are all taken by backslashes, and what comes behind it is
not. -/
structure IsStringBody (body : List Char) : Prop where
  quote_taken : ∀ front back, body = front ++ '"' :: back → takesNext front
  next_not_taken : takesNext body = false

namespace IsStringBody

variable {body : List Char} {c : Char}

theorem nil : IsStringBody [] where
  quote_taken := by
    intro front back h
    exact absurd h (List.append_ne_nil_of_right_ne_nil _ (List.cons_ne_nil _ _)).symm
  next_not_taken := rfl

theorem plain (hquote : c ≠ '"') (hescape : c ≠ '\\') (h : IsStringBody body) :
    IsStringBody (c :: body) where
  quote_taken := by
    intro front back hsplit
    cases front with
    | nil => exact absurd (List.cons.inj hsplit).1 hquote
    | cons d front =>
      obtain ⟨rfl, hbody⟩ := List.cons.inj hsplit
      rw [takesNext_cons_of_ne hescape]
      exact h.quote_taken front back hbody
  next_not_taken := by
    rw [takesNext_cons_of_ne hescape]
    exact h.next_not_taken

theorem taken (h : IsStringBody body) : IsStringBody ('\\' :: c :: body) where
  quote_taken := by
    intro front back hsplit
    -- the quote is not the backslash; it is the character taken or stands further behind
    cases front with
    | nil => exact absurd (List.cons.inj hsplit).1 (by decide)
    | cons d front =>
      obtain ⟨rfl, hrest⟩ := List.cons.inj hsplit
      cases front with
      | nil => rfl
      | cons e front =>
        obtain ⟨rfl, hbody⟩ := List.cons.inj hrest
        rw [takesNext_escape]
        exact h.quote_taken front back hbody
  next_not_taken := h.next_not_taken

end IsStringBody

/-- The closing quote stands behind a body. -/
theorem exists_body_of_closingQuote {chars : List Char} {n : Nat}
    (h : closingQuote chars = some n) :
    ∃ body rest, chars = body ++ '"' :: rest ∧ n = body.length + 1 ∧ IsStringBody body := by
  induction chars using closingQuote.induct generalizing n with
  | case1 => cases h
  | case2 rest =>
    cases h
    exact ⟨[], rest, rfl, rfl, .nil⟩
  -- a backslash that has no character to take
  | case3 => cases h
  | case4 rest => cases h
  | case5 c rest hc ih =>
    rw [closingQuote_escape hc] at h
    obtain ⟨n, hn, rfl⟩ := Option.map_eq_some_iff.1 h
    obtain ⟨body, behind, rfl, rfl, hbody⟩ := ih hn
    exact ⟨'\\' :: c :: body, behind, rfl, rfl, hbody.taken⟩
  | case6 c rest hquote hescape ih =>
    rw [closingQuote_cons hquote hescape] at h
    obtain ⟨n, hn, rfl⟩ := Option.map_eq_some_iff.1 h
    obtain ⟨body, behind, rfl, rfl, hbody⟩ := ih hn
    exact ⟨c :: body, behind, rfl, rfl, hbody.plain hquote hescape⟩

/-- A string consists of its body between two quotes. -/
theorem exists_body_of_stringHit {s : Cursor} {n : Nat} (h : stringHit s = some n) :
    ∃ body rest, s.after = '"' :: (body ++ '"' :: rest) ∧ n = body.length + 2 ∧
      IsStringBody body := by
  unfold stringHit at h
  by_cases hquote : s.after.head? = some '"'
  · rw [if_pos hquote] at h
    obtain ⟨n, hn, rfl⟩ := Option.map_eq_some_iff.1 h
    obtain ⟨body, rest, hchars, rfl, hbody⟩ := exists_body_of_closingQuote hn
    obtain ⟨behind, hafter⟩ := List.head?_eq_some_iff.1 hquote
    have hbehind : behind = body ++ '"' :: rest := by
      rw [← hchars, Cursor.after_advance, hafter]
      rfl
    rw [hafter, hbehind]
    exact ⟨body, rest, rfl, rfl, hbody⟩
  · rw [if_neg hquote] at h
    cases h

theorem advances_stringHit : Advances stringHit where
  pos := by
    intro s n hn
    obtain ⟨body, rest, -, rfl, -⟩ := exists_body_of_stringHit hn
    omega
  le := by
    intro s n hn
    obtain ⟨body, rest, hafter, rfl, -⟩ := exists_body_of_stringHit hn
    rw [hafter, List.length_cons, List.length_append, List.length_cons]
    omega

/-! ### The pattern -/

/-- A character other than a quote and a backslash, or a backslash with the character behind it. -/
def stringItem : Expr :=
  .alt (.one (.complement (.union (.literal '"') (.literal '\\'))))
    (.cat (.one (.literal '\\')) (.one (.complement (.literal '\n'))))

def stringExpr : Expr :=
  .catAll [.one (.literal '"'), .star true stringItem, .one (.literal '"')]

def itemHit (s : Cursor) : Option Nat :=
  match s.after with
  | [] => none
  | c :: rest =>
    if c = '"' then none
    else if c = '\\' then if rest.head?.any (· ≠ '\n') then some 2 else none
    else some 1

theorem advances_itemHit : Advances itemHit where
  pos := by
    rintro ⟨before, after⟩ n hn
    cases after with
    | nil => cases hn
    | cons c rest =>
      simp only [itemHit] at hn
      split_ifs at hn <;> cases hn <;> omega
  le := by
    rintro ⟨before, after⟩ n hn
    cases after with
    | nil => cases hn
    | cons c rest =>
      simp only [itemHit] at hn
      split_ifs at hn with hquote hescape hnext
      · cases hn
        cases rest with
        | nil => cases hnext
        | cons d rest => simp
      · cases hn
        simp

/-- A position is the start of one kind of item at most. -/
theorem hasOneWay_stringItem : stringItem.HasOneWay itemHit where
  toAdvances := advances_itemHit
  run_eq := by
    rintro α ⟨before, after⟩ k
    cases after with
    | nil => rfl
    | cons c rest =>
      by_cases hquote : c = '"'
      · subst hquote
        rfl
      · by_cases hescape : c = '\\'
        · subst hescape
          cases rest with
          | nil => rfl
          | cons d rest =>
            by_cases hd : d = '\n'
            · subst hd
              rfl
            · simp [stringItem, Expr.run, CharClass.contains, itemHit, hd, Cursor.advance]
        · simp [stringItem, Expr.run, CharClass.contains, itemHit, hquote, hescape, Cursor.advance]

theorem head?_ne_of_itemHit {s : Cursor} {n : Nat} (h : itemHit s = some n) :
    s.after.head? ≠ some '"' := by
  obtain ⟨before, after⟩ := s
  intro hquote
  cases after with
  | nil => cases hquote
  | cons c rest =>
    cases hquote
    cases h

/-- The way to the closing quote goes over the items of the string. -/
theorem closingQuote_of_itemHit {s : Cursor} {n : Nat} (h : itemHit s = some n) :
    closingQuote s.after = (closingQuote (s.advance n).after).map (· + n) := by
  obtain ⟨before, after⟩ := s
  cases after with
  | nil => cases h
  | cons c rest =>
    simp only [itemHit] at h
    split_ifs at h with hquote hescape hnext
    · subst hescape
      cases h
      cases rest with
      | nil => cases hnext
      | cons d rest =>
        exact closingQuote_escape (by simpa using hnext) rest
    · cases h
      exact closingQuote_cons hquote hescape rest

/-- Where the items end, the quote stands or the string is not closed. -/
theorem closingQuote_of_itemHit_eq_none {s : Cursor} (h : itemHit s = none) :
    closingQuote s.after = if s.after.head? = some '"' then some 1 else none := by
  obtain ⟨before, after⟩ := s
  cases after with
  | nil => rfl
  | cons c rest =>
    simp only [itemHit] at h
    split_ifs at h with hquote hescape hnext
    · subst hquote
      rfl
    · subst hescape
      cases rest with
      | nil => rfl
      | cons d rest =>
        have hd : d = '\n' := by simpa using hnext
        subst hd
        rfl

/-- Items and the quote behind them are read in one way only, whatever follows. -/
theorem repeatMatch_stringItem {α : Type} {k : Cursor → Option α} (fuel : Nat) {s : Cursor}
    (hfuel : s.after.length ≤ fuel) :
    repeatMatch true stringItem.run fuel s (fun u => (Expr.one (.literal '"')).run u k) =
      (closingQuote s.after).bind fun n => k (s.advance n) := by
  have hitem := hasOneWay_stringItem
  -- on the fuel; going back to the start of an item leads nowhere, as no quote stands there
  induction fuel generalizing s with
  | zero =>
    have hnil : s.after = [] := List.length_eq_zero_iff.1 (Nat.le_zero.1 hfuel)
    rw [repeatMatch, Expr.run_one_literal, hnil]
    rfl
  | succ fuel ih =>
    cases hhit : itemHit s with
    | none =>
      rw [hitem.repeatMatch_of_none hhit, Expr.run_one_literal,
        closingQuote_of_itemHit_eq_none hhit]
      by_cases hquote : s.after.head? = some '"'
      · rw [if_pos hquote, if_pos hquote, Option.bind_some]
      · rw [if_neg hquote, if_neg hquote, Option.bind_none]
    | some n =>
      have hless := hitem.length_after_advance_lt hhit
      rw [hitem.repeatMatch_of_some hhit, ih (by omega), Expr.run_one_literal,
        if_neg (head?_ne_of_itemHit hhit), closingQuote_of_itemHit hhit]
      cases closingQuote (s.advance n).after with
      | none => rfl
      | some m =>
        show (k ((s.advance n).advance m) <|> none) = k (s.advance (m + n))
        rw [Cursor.advance_advance, Nat.add_comm]
        cases k (s.advance (m + n)) <;> rfl

/-- The pattern finds at a position the string that opens there. -/
theorem hasHits_stringExpr : stringExpr.HasHits stringHit where
  toAdvances := advances_stringHit
  matchAt_eq := by
    intro s
    rw [Expr.matchAt, stringExpr, Expr.run_catAll_cons, Expr.run_one_literal, stringHit]
    by_cases hquote : s.after.head? = some '"'
    · rw [if_pos hquote, if_pos hquote, Expr.run_catAll_cons, Expr.run, Expr.catAll,
        repeatMatch_stringItem _ (Nat.le_refl _)]
      cases closingQuote (s.advance 1).after with
      | none => rfl
      | some n =>
        show some ((s.advance 1).advance n) = some (s.advance (n + 1))
        rw [Cursor.advance_advance, Nat.add_comm]
    · rw [if_neg hquote, if_neg hquote]
      rfl

/-- The authored rule for strings matches in any text what a reader finds that goes from each double
quote to the next one that no backslash takes. So a match is a body between two quotes, and the one
that ends it is its first quote behind the opening one that is not taken. -/
theorem string_rule_reads_strings :
    ∃ rule r, Grammar.initial.find? "string.quoted.double.geck" = some rule ∧
      compilePattern rule.source = .ok r ∧
      ∀ text : String, r.findAll text.toList = scan stringHit (.start text.toList) ∧
        ∀ m ∈ r.findAll text.toList, ∃ body, m.chars = '"' :: (body ++ ['"']) ∧
          takesNext body = false ∧
          ∀ front back, body = front ++ '"' :: back → takesNext front := by
  refine ⟨_, stringExpr, rfl, rfl, fun text => ⟨hasHits_stringExpr.findAll_eq text.toList, ?_⟩⟩
  intro m hm
  rw [hasHits_stringExpr.findAll_eq] at hm
  obtain ⟨i, n, hn, rfl⟩ := advances_stringHit.exists_of_mem_scan hm
  obtain ⟨body, rest, hafter, rfl, hbody⟩ := exists_body_of_stringHit hn
  refine ⟨body, ?_, hbody.next_not_taken, hbody.quote_taken⟩
  rw [← Cursor.advance_advance, Found.chars_advance (advances_stringHit.le hn), hafter,
    List.take_succ_cons, List.take_length_add_append]
  rfl

/-- The second quote is taken by a backslash, and the last one opens a string that is not closed. -/
example : (stringExpr.findAll "\"a\\\"b\" c \"d\\".toList).map (String.ofList ·.chars) =
    ["\"a\\\"b\""] := by
  decide +kernel

end GeckScript
