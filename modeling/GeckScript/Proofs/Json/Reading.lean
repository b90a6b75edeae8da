import GeckScript.Json.Value
import GeckScript.Text.Basic
import Mathlib.Data.List.TakeWhile

/-!
Reading JSON documents. The reader knows every escape and every layout of the format and takes
nothing else: a control character in a text, a comma too many or anything behind the document makes
it fail. What is written is read back, so a value has no written form of another value.
-/

namespace GeckScript.Json

open Text (isHexDigit digitsValue scalar?)

/-! ### The reader -/

def isBlank (c : Char) : Bool :=
  c ∈ [' ', '\t', '\n', '\r']

def skip (input : List Char) : List Char :=
  input.dropWhile isBlank

def simpleEscape? : Char → Option Char
  | '"' => some '"'
  | '\\' => some '\\'
  | '/' => some '/'
  | 'b' => some '\x08'
  | 'f' => some '\x0c'
  | 'n' => some '\n'
  | 'r' => some '\r'
  | 't' => some '\t'
  | _ => none

def unit? (input : List Char) : Option Nat :=
  let digits := input.take 4
  if digits.length = 4 && digits.all isHexDigit then some (digitsValue 16 digits) else none

/-- The character that an escape stands for, and how many characters it has behind its backslash.
A character beyond the first plane is written as a pair of two units. -/
def escape? : List Char → Option (Char × Nat)
  | [] => none
  | 'u' :: rest => do
    let high ← unit? rest
    if 0xd800 ≤ high && high < 0xdc00 then
      match rest.drop 4 with
      | '\\' :: 'u' :: rest => do
        let low ← unit? rest
        if 0xdc00 ≤ low && low < 0xe000 then
          some (Char.ofNat (0x10000 + (high - 0xd800) * 0x400 + (low - 0xdc00)), 11)
        else none
      | _ => none
    else do
      let c ← scalar? high
      some (c, 5)
  | c :: _ => do
    let e ← simpleEscape? c
    some (e, 1)

def readChars : List Char → Option (List Char × List Char)
  | [] => none
  | c :: rest =>
    if c = '"' then some ([], rest)
    else if c = '\\' then do
      let (e, n) ← escape? rest
      let (text, after) ← readChars (rest.drop n)
      some (e :: text, after)
    else if c.toNat < 0x20 then none
    else do
      let (text, after) ← readChars rest
      some (c :: text, after)
termination_by input => input.length
decreasing_by all_goals (simp only [List.length_drop, List.length_cons]; omega)

def readText (input : List Char) : Option (String × List Char) := do
  let (text, after) ← readChars input
  some (.ofList text, after)

def readKey (input : List Char) : Option (String × List Char) :=
  match skip input with
  | '"' :: rest => do
    let (key, after) ← readText rest
    match skip after with
    | ':' :: rest => some (key, rest)
    | _ => none
  | _ => none

mutual

/-- Reads a value and tells what stands behind it; every round takes a character. -/
def readValue : Nat → List Char → Option (Value × List Char)
  | 0, _ => none
  | fuel + 1, input =>
    match skip input with
    | '"' :: rest => do
      let (s, after) ← readText rest
      some (.text s, after)
    | '[' :: rest =>
      match skip rest with
      | ']' :: after => some (.list [], after)
      | _ => do
        let (v, after) ← readValue fuel rest
        let (items, after) ← readItems fuel after
        some (.list (v :: items), after)
    | '\x7b' :: rest =>
      match skip rest with
      | '\x7d' :: after => some (.object [], after)
      | _ => do
        let (key, after) ← readKey rest
        let (v, after) ← readValue fuel after
        let (members, after) ← readMembers fuel after
        some (.object ((key, v) :: members), after)
    | _ => none

def readItems : Nat → List Char → Option (List Value × List Char)
  | 0, _ => none
  | fuel + 1, input =>
    match skip input with
    | ']' :: after => some ([], after)
    | ',' :: rest => do
      let (v, after) ← readValue fuel rest
      let (items, after) ← readItems fuel after
      some (v :: items, after)
    | _ => none

def readMembers : Nat → List Char → Option (List (String × Value) × List Char)
  | 0, _ => none
  | fuel + 1, input =>
    match skip input with
    | '\x7d' :: after => some ([], after)
    | ',' :: rest => do
      let (key, after) ← readKey rest
      let (v, after) ← readValue fuel after
      let (members, after) ← readMembers fuel after
      some ((key, v) :: members, after)
    | _ => none

end

def parse? (document : String) : Option Value := do
  let (v, after) ← readValue (document.toList.length + 1) document.toList
  if (skip after).isEmpty then some v else none

example : (parse? "[\"a\", \x7b\"b\": [ ]\x7d]").isSome ∧ (parse? "[\"a\",]").isNone := by
  decide +kernel

/-! ### Texts -/

section Texts

variable {rest text after : List Char}

theorem readChars_escape {e : Char} {n : Nat} (hescape : escape? rest = some (e, n))
    (hrest : readChars (rest.drop n) = some (text, after)) :
    readChars ('\\' :: rest) = some (e :: text, after) := by
  rw [readChars, if_neg (by decide), if_pos rfl, hescape]
  show (readChars (rest.drop n)).bind _ = _
  rw [hrest]
  rfl

theorem readChars_plain {c : Char} (hquote : c ≠ '"') (hslash : c ≠ '\\')
    (hcontrol : ¬ c.toNat < 0x20) (hrest : readChars rest = some (text, after)) :
    readChars (c :: rest) = some (c :: text, after) := by
  rw [readChars, if_neg hquote, if_neg hslash, if_neg hcontrol, hrest]
  rfl

theorem unit?_of_lt :
    ∀ n < 0x20, unit? ['0', '0', hexDigit (n / 16), hexDigit (n % 16)] = some n := by
  decide

/-- A character has no unit of a pair for its code point. -/
theorem escape?_unit {c : Char} (h : unit? rest = some c.toNat) :
    escape? ('u' :: rest) = some (c, 5) := by
  have hvalid : c.toNat.isValidChar := c.valid
  have hpair : ¬ (0xd800 ≤ c.toNat && c.toNat < 0xdc00) := by
    rw [Bool.and_eq_true, decide_eq_true_eq, decide_eq_true_eq]
    simp only [Nat.isValidChar] at hvalid
    omega
  have hscalar : scalar? c.toNat = some c := by
    rw [scalar?, if_pos hvalid, Char.ofNat_toNat]
  simp only [escape?, h, Option.bind_eq_bind, Option.bind_some, if_neg hpair, hscalar]

/-- A character is written as itself, or by an escape that is read as the character. -/
theorem escapeChar_cases (c : Char) :
    (escapeChar c = [c] ∧ c ≠ '"' ∧ c ≠ '\\' ∧ ¬ c.toNat < 0x20) ∨
      ∃ code, escapeChar c = '\\' :: code ∧
        ∀ rest, escape? (code ++ rest) = some (c, code.length) := by
  unfold escapeChar
  -- the characters with an escape of their own, the other controls, and then the rest
  split
  · next h => exact .inr ⟨['"'], rfl, fun rest => by subst h; rfl⟩
  split
  · next h => exact .inr ⟨['\\'], rfl, fun rest => by subst h; rfl⟩
  split
  · next h => exact .inr ⟨['b'], rfl, fun rest => by subst h; rfl⟩
  split
  · next h => exact .inr ⟨['f'], rfl, fun rest => by subst h; rfl⟩
  split
  · next h => exact .inr ⟨['n'], rfl, fun rest => by subst h; rfl⟩
  split
  · next h => exact .inr ⟨['r'], rfl, fun rest => by subst h; rfl⟩
  split
  · next h => exact .inr ⟨['t'], rfl, fun rest => by subst h; rfl⟩
  split
  · next hcontrol =>
    refine .inr ⟨_, rfl, fun rest => ?_⟩
    have hunit : unit? ('0' :: '0' :: hexDigit (c.toNat / 16) :: hexDigit (c.toNat % 16) :: rest) =
        some c.toNat := unit?_of_lt c.toNat hcontrol
    exact escape?_unit hunit
  · next hquote hslash _ _ _ _ _ hcontrol => exact .inl ⟨rfl, hquote, hslash, hcontrol⟩

theorem readChars_escapeChar (c : Char) (hrest : readChars rest = some (text, after)) :
    readChars (escapeChar c ++ rest) = some (c :: text, after) := by
  rcases escapeChar_cases c with ⟨hc, hquote, hslash, hcontrol⟩ | ⟨code, hc, hescape⟩
  · rw [hc, List.singleton_append]
    exact readChars_plain hquote hslash hcontrol hrest
  · rw [hc, List.cons_append]
    refine readChars_escape (hescape rest) ?_
    rw [List.drop_left]
    exact hrest

theorem readText_quoted (s : String) (rest : List Char) :
    readText (s.toList.flatMap escapeChar ++ '"' :: rest) = some (s, rest) := by
  have hchars (cs : List Char) :
      readChars (cs.flatMap escapeChar ++ '"' :: rest) = some (cs, rest) := by
    induction cs with
    | nil =>
      rw [List.flatMap_nil, List.nil_append, readChars]
      rfl
    | cons c cs ih =>
      rw [List.flatMap_cons, List.append_assoc]
      exact readChars_escapeChar c ih
  rw [readText, hchars]
  exact congrArg (fun s => some (s, rest)) String.ofList_toList

end Texts

/-! ### Layout -/

theorem skip_newline (depth : Nat) (rest : List Char) :
    skip (newline depth ++ rest) = skip rest := by
  have hblank : ∀ c ∈ newline depth, isBlank c := by
    intro c hc
    rcases List.mem_cons.1 hc with rfl | hc
    · rfl
    · rw [List.eq_of_mem_replicate hc]
      rfl
  exact List.dropWhile_append_of_pos hblank

theorem skip_space (rest : List Char) : skip (' ' :: rest) = skip rest := rfl

theorem skip_of_not_isBlank {c : Char} (h : isBlank c = false) (rest : List Char) :
    skip (c :: rest) = c :: rest := by
  rw [skip, List.dropWhile_cons, h]
  rfl

/-- A written value starts with the quote or the bracket that tells its kind. -/
theorem exists_write_eq_cons (v : Value) (depth : Nat) :
    ∃ c ∈ ['"', '[', '\x7b'], ∃ tail, v.write depth = c :: tail := by
  match v with
  | .text s => exact ⟨'"', by decide, _, rfl⟩
  | .list [] => exact ⟨'[', by decide, _, rfl⟩
  | .list (_ :: _) => exact ⟨'[', by decide, _, rfl⟩
  | .object [] => exact ⟨'\x7b', by decide, _, rfl⟩
  | .object ((_, _) :: _) => exact ⟨'\x7b', by decide, _, rfl⟩

theorem skip_write (v : Value) (depth : Nat) (rest : List Char) :
    skip (v.write depth ++ rest) = v.write depth ++ rest := by
  obtain ⟨c, hc, tail, hv⟩ := exists_write_eq_cons v depth
  have hblank : isBlank c = false := by
    simp only [List.mem_cons, List.not_mem_nil, or_false] at hc
    rcases hc with rfl | rfl | rfl <;> rfl
  rw [hv, List.cons_append]
  exact skip_of_not_isBlank hblank _

theorem readKey_quoted (key : String) (depth : Nat) (rest : List Char) :
    readKey (newline depth ++ quoted key ++ ':' :: rest) = some (key, rest) := by
  have hskip : skip (newline depth ++ quoted key ++ ':' :: rest) =
      '"' :: (key.toList.flatMap escapeChar ++ '"' :: ':' :: rest) := by
    rw [List.append_assoc, skip_newline, quoted]
    simp only [List.cons_append, List.append_assoc, List.nil_append]
    exact skip_of_not_isBlank rfl _
  have hcolon : skip (':' :: rest) = ':' :: rest := skip_of_not_isBlank rfl _
  simp only [readKey, hskip, readText_quoted, Option.bind_eq_bind, Option.bind_some, hcolon]

/-! ### One round of reading -/

section Rounds

variable {fuel : Nat} {input rest mid after : List Char} {s key : String} {v : Value}
  {items : List Value} {members : List (String × Value)}

theorem readValue_text (h : skip input = '"' :: rest) (htext : readText rest = some (s, after)) :
    readValue (fuel + 1) input = some (.text s, after) := by
  simp only [readValue, h, htext, Option.bind_eq_bind, Option.bind_some]

theorem readValue_list_nil (h : skip input = '[' :: rest) (hclose : skip rest = ']' :: after) :
    readValue (fuel + 1) input = some (.list [], after) := by
  simp only [readValue, h, hclose]

theorem readValue_list_cons (h : skip input = '[' :: rest) (hopen : (skip rest).head? ≠ some ']')
    (hv : readValue fuel rest = some (v, mid)) (hitems : readItems fuel mid = some (items, after)) :
    readValue (fuel + 1) input = some (.list (v :: items), after) := by
  simp only [readValue, h]
  split
  · next hclose => exact absurd (by rw [hclose]; rfl) hopen
  · simp only [hv, hitems, Option.bind_eq_bind, Option.bind_some]

theorem readItems_nil (h : skip input = ']' :: after) :
    readItems (fuel + 1) input = some ([], after) := by
  simp only [readItems, h]

theorem readItems_cons (h : skip input = ',' :: rest) (hv : readValue fuel rest = some (v, mid))
    (hitems : readItems fuel mid = some (items, after)) :
    readItems (fuel + 1) input = some (v :: items, after) := by
  simp only [readItems, h, hv, hitems, Option.bind_eq_bind, Option.bind_some]

theorem readValue_object_nil (h : skip input = '\x7b' :: rest)
    (hclose : skip rest = '\x7d' :: after) :
    readValue (fuel + 1) input = some (.object [], after) := by
  simp only [readValue, h, hclose]

variable {behindKey : List Char}

theorem readValue_object_cons (h : skip input = '\x7b' :: rest)
    (hopen : (skip rest).head? ≠ some '\x7d') (hkey : readKey rest = some (key, behindKey))
    (hv : readValue fuel behindKey = some (v, mid))
    (hmembers : readMembers fuel mid = some (members, after)) :
    readValue (fuel + 1) input = some (.object ((key, v) :: members), after) := by
  simp only [readValue, h]
  split
  · next hclose => exact absurd (by rw [hclose]; rfl) hopen
  · simp only [hkey, hv, hmembers, Option.bind_eq_bind, Option.bind_some]

theorem readMembers_nil (h : skip input = '\x7d' :: after) :
    readMembers (fuel + 1) input = some ([], after) := by
  simp only [readMembers, h]

theorem readMembers_cons (h : skip input = ',' :: rest)
    (hkey : readKey rest = some (key, behindKey)) (hv : readValue fuel behindKey = some (v, mid))
    (hmembers : readMembers fuel mid = some (members, after)) :
    readMembers (fuel + 1) input = some ((key, v) :: members, after) := by
  simp only [readMembers, h, hkey, hv, hmembers, Option.bind_eq_bind, Option.bind_some]

/-- Blanks in front of a value are passed over. -/
theorem readValue_congr {other : List Char} (h : skip input = skip other) :
    readValue fuel input = readValue fuel other := by
  cases fuel with
  | zero => rw [readValue, readValue]
  | succ fuel => rw [readValue, readValue, h]

end Rounds

/-! ### Values -/

theorem head?_write_ne {c : Char} (v : Value) (depth : Nat) (rest : List Char)
    (hc : c ∉ ['"', '[', '\x7b']) : (v.write depth ++ rest).head? ≠ some c := by
  obtain ⟨d, hd, tail, hv⟩ := exists_write_eq_cons v depth
  rw [hv, List.cons_append, List.head?_cons, ne_eq, Option.some.injEq]
  rintro rfl
  exact hc hd

theorem length_write_pos (v : Value) (depth : Nat) : 0 < (v.write depth).length := by
  obtain ⟨c, -, tail, hv⟩ := exists_write_eq_cons v depth
  rw [hv]
  exact Nat.succ_pos _

-- The induction is on the value. Each round takes a character at least, so a value needs no more
-- rounds than its written form has characters.
mutual

theorem readValue_write (v : Value) (depth fuel : Nat) (rest : List Char)
    (h : (v.write depth).length ≤ fuel) :
    readValue fuel (v.write depth ++ rest) = some (v, rest) := by
  have hskip := skip_write v depth rest
  obtain ⟨fuel, rfl⟩ : ∃ n, fuel = n + 1 :=
    Nat.exists_eq_add_one.2 (Nat.lt_of_lt_of_le (length_write_pos v depth) h)
  match v with
  | .text s =>
    have hform : (Value.text s).write depth ++ rest =
        '"' :: (s.toList.flatMap escapeChar ++ '"' :: rest) := by
      simp only [Value.write, quoted, List.cons_append, List.append_assoc, List.nil_append]
    exact readValue_text (hskip.trans hform) (readText_quoted s rest)
  | .list [] => exact readValue_list_nil hskip rfl
  | .list (v :: items) =>
    -- the bracket pays for this round
    have hlength : (v.write (depth + 1)).length ≤ fuel ∧
        (writeItems (depth + 1) items).length < fuel := by
      simp only [Value.write, List.length_cons, List.length_append, List.length_nil] at h
      omega
    have hform : (Value.list (v :: items)).write depth ++ rest =
        '[' :: (newline (depth + 1) ++ (v.write (depth + 1) ++
          (writeItems (depth + 1) items ++ newline depth ++ ']' :: rest))) := by
      simp only [Value.write, List.cons_append, List.append_assoc, List.nil_append]
    refine readValue_list_cons (hskip.trans hform) ?_
      ((readValue_congr (skip_newline _ _)).trans
        (readValue_write v (depth + 1) fuel _ hlength.1))
      (readItems_writeItems items depth (depth + 1) fuel rest hlength.2)
    rw [skip_newline, skip_write]
    exact head?_write_ne v _ _ (by decide)
  | .object [] => exact readValue_object_nil hskip rfl
  | .object ((key, v) :: members) =>
    have hlength : (v.write (depth + 1)).length ≤ fuel ∧
        (writeMembers (depth + 1) members).length < fuel := by
      simp only [Value.write, List.length_cons, List.length_append, List.length_nil] at h
      omega
    have hform : (Value.object ((key, v) :: members)).write depth ++ rest =
        '\x7b' :: (newline (depth + 1) ++ quoted key ++ ':' :: ' ' :: (v.write (depth + 1) ++
          (writeMembers (depth + 1) members ++ newline depth ++ '\x7d' :: rest))) := by
      simp only [Value.write, List.cons_append, List.append_assoc, List.nil_append]
    refine readValue_object_cons (hskip.trans hform) ?_ (readKey_quoted key (depth + 1) _)
      ((readValue_congr (skip_space _)).trans
        (readValue_write v (depth + 1) fuel _ hlength.1))
      (readMembers_writeMembers members depth (depth + 1) fuel rest hlength.2)
    rw [List.append_assoc, skip_newline]
    exact (by decide : '"' ≠ '\x7d') ∘ Option.some.inj

theorem readItems_writeItems (items : List Value) (outer depth fuel : Nat) (rest : List Char)
    (h : (writeItems depth items).length < fuel) :
    readItems fuel (writeItems depth items ++ newline outer ++ ']' :: rest) =
      some (items, rest) := by
  obtain ⟨fuel, rfl⟩ : ∃ n, fuel = n + 1 := Nat.exists_eq_add_one.2 (Nat.zero_lt_of_lt h)
  match items with
  | [] => exact readItems_nil ((skip_newline outer _).trans (skip_of_not_isBlank rfl rest))
  | v :: items =>
    have hlength : (v.write depth).length ≤ fuel ∧ (writeItems depth items).length < fuel := by
      simp only [writeItems, List.length_cons, List.length_append] at h
      omega
    have hform : writeItems depth (v :: items) ++ newline outer ++ ']' :: rest =
        ',' :: (newline depth ++ (v.write depth ++
          (writeItems depth items ++ newline outer ++ ']' :: rest))) := by
      simp only [writeItems, List.cons_append, List.append_assoc]
    rw [hform]
    exact readItems_cons (skip_of_not_isBlank rfl _)
      ((readValue_congr (skip_newline _ _)).trans (readValue_write v depth fuel _ hlength.1))
      (readItems_writeItems items outer depth fuel rest hlength.2)

theorem readMembers_writeMembers (members : List (String × Value)) (outer depth fuel : Nat)
    (rest : List Char) (h : (writeMembers depth members).length < fuel) :
    readMembers fuel (writeMembers depth members ++ newline outer ++ '\x7d' :: rest) =
      some (members, rest) := by
  obtain ⟨fuel, rfl⟩ : ∃ n, fuel = n + 1 := Nat.exists_eq_add_one.2 (Nat.zero_lt_of_lt h)
  match members with
  | [] => exact readMembers_nil ((skip_newline outer _).trans (skip_of_not_isBlank rfl rest))
  | (key, v) :: members =>
    have hlength : (v.write depth).length ≤ fuel ∧ (writeMembers depth members).length < fuel := by
      simp only [writeMembers, List.length_cons, List.length_append] at h
      omega
    have hform : writeMembers depth ((key, v) :: members) ++ newline outer ++ '\x7d' :: rest =
        ',' :: (newline depth ++ quoted key ++ ':' :: ' ' :: (v.write depth ++
          (writeMembers depth members ++ newline outer ++ '\x7d' :: rest))) := by
      simp only [writeMembers, List.cons_append, List.append_assoc, List.nil_append]
    rw [hform]
    exact readMembers_cons (skip_of_not_isBlank rfl _) (readKey_quoted key depth _)
      ((readValue_congr (skip_space _)).trans (readValue_write v depth fuel _ hlength.1))
      (readMembers_writeMembers members outer depth fuel rest hlength.2)

end

/-- What is written is a document, and is read back, whatever blanks stand behind it. -/
theorem parse?_pretty_append (v : Value) {blanks : String} (h : blanks.toList.all isBlank) :
    parse? (v.pretty ++ blanks) = some v := by
  have hchars : (v.pretty ++ blanks).toList = v.write 0 ++ blanks.toList := by
    rw [String.toList_append, Value.pretty, String.toList_ofList]
  have hlength : (v.write 0).length ≤ (v.write 0 ++ blanks.toList).length + 1 := by
    rw [List.length_append]
    omega
  have hskip : skip blanks.toList = [] := List.dropWhile_eq_nil_iff.2 (List.all_eq_true.1 h)
  rw [parse?, hchars, readValue_write v 0 _ blanks.toList hlength]
  show (if (skip blanks.toList).isEmpty then some v else none) = some v
  rw [hskip]
  rfl

theorem parse?_pretty (v : Value) : parse? v.pretty = some v := by
  rw [← String.append_empty (s := v.pretty)]
  exact parse?_pretty_append v rfl

end GeckScript.Json
