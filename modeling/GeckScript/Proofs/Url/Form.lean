import GeckScript.Proofs.Text.Utf8
import GeckScript.Proofs.Text.Word
import GeckScript.Url.Percent

/-!
Reading queries in form encoding. A part between ampersands is a name and a value around its first
equals sign; a plus sign reads as a space, an encoded byte as the byte, and the bytes as UTF-8. A
pair that was added to a query is read back behind the pairs that were there.
-/

namespace GeckScript.Url

open Text

namespace Percent

def digitByte (n : Nat) : UInt8 :=
  UInt8.ofNat (hexDigit n).toNat

theorem utf8EncodeChar_hexDigit : ∀ n < 16, String.utf8EncodeChar (hexDigit n) = [digitByte n] := by
  decide

theorem hexValue?_digitByte : ∀ n < 16, hexValue? (digitByte n) = some (UInt8.ofNat n) := by
  decide

theorem hexDigit_not_mem : ∀ n < 16, hexDigit n ∉ ['+', '&', '=', '#', '\n'] := by
  decide

theorem div_lt_16 (b : UInt8) : b.toNat / 16 < 16 := by
  have hb := b.toNat_lt
  omega

theorem mod_lt_16 (b : UInt8) : b.toNat % 16 < 16 := Nat.mod_lt _ (by decide)

theorem eq_of_mem_encodeByte {b : UInt8} {c : Char} (h : c ∈ encodeByte b) :
    c = '%' ∨ ∃ n < 16, c = hexDigit n := by
  rw [encodeByte, List.mem_cons, List.mem_cons, List.mem_singleton] at h
  rcases h with rfl | rfl | rfl
  · exact .inl rfl
  · exact .inr ⟨_, div_lt_16 b, rfl⟩
  · exact .inr ⟨_, mod_lt_16 b, rfl⟩

theorem not_mem_of_mem_encodeByte {b : UInt8} :
    ∀ c ∈ encodeByte b, c ∉ ['+', '&', '=', '#', '\n'] := by
  intro c hc
  rcases eq_of_mem_encodeByte hc with rfl | ⟨n, hn, rfl⟩
  · decide
  · exact hexDigit_not_mem n hn

theorem decode_cons {b : UInt8} (h : b ≠ 0x25) (rest : List UInt8) :
    decode (b :: rest) = b :: decode rest := by
  have hbeq : (b == 0x25) = false := beq_eq_false_iff_ne.2 h
  match rest with
  | [] => rfl
  | [low] => rfl
  | high :: low :: rest =>
    rw [decode]
    cases hexValue? high <;> cases hexValue? low <;> simp [hbeq]

theorem decode_encodeByte (b : UInt8) (rest : List UInt8) :
    decode ((encodeByte b).flatMap String.utf8EncodeChar ++ rest) = b :: decode rest := by
  have hhigh := div_lt_16 b
  have hlow := mod_lt_16 b
  have hbytes : (encodeByte b).flatMap String.utf8EncodeChar =
      [0x25, digitByte (b.toNat / 16), digitByte (b.toNat % 16)] := by
    rw [encodeByte, List.flatMap_cons, List.flatMap_cons, List.flatMap_cons, List.flatMap_nil,
      utf8EncodeChar_hexDigit _ hhigh, utf8EncodeChar_hexDigit _ hlow]
    rfl
  -- the two digits make the byte again, within its eight bits
  have hvalue : UInt8.ofNat (b.toNat / 16) * 16 + UInt8.ofNat (b.toNat % 16) = b := by
    have hsixteen : (16 : UInt8).toNat = 16 := rfl
    have hb := b.toNat_lt
    apply UInt8.toNat_inj.1
    simp only [UInt8.toNat_add, UInt8.toNat_mul, UInt8.toNat_ofNat', hsixteen]
    omega
  rw [hbytes]
  simp only [List.cons_append, List.nil_append, decode, hexValue?_digitByte _ hhigh,
    hexValue?_digitByte _ hlow, beq_self_eq_true, if_true, hvalue]

theorem decode_flatMap_encodeByte (bytes rest : List UInt8) :
    decode ((bytes.flatMap encodeByte).flatMap String.utf8EncodeChar ++ rest) =
      bytes ++ decode rest := by
  induction bytes with
  | nil => rfl
  | cons b bytes ih =>
    rw [List.flatMap_cons, List.flatMap_append, List.append_assoc, decode_encodeByte, ih,
      List.cons_append]

end Percent

namespace Form

def unplus (c : Char) : Char :=
  if c = '+' then ' ' else c

def decode (text : List Char) : List Char :=
  Utf8.decode (Percent.decode ((text.map unplus).flatMap String.utf8EncodeChar))

def readPair (part : List Char) : String × String :=
  let name := part.takeWhile (· != '=')
  let value := (part.dropWhile (· != '=')).drop 1
  (.ofList (decode name), .ofList (decode value))

/-- The pairs of a query. Nothing between two ampersands is no pair. -/
def pairs (query : List Char) : List (String × String) :=
  ((query.splitOn '&').filter fun part => !part.isEmpty).map readPair

theorem of_isPlain {c : Char} (h : isPlain c) :
    c.toNat < 0x80 ∧ c ∉ ['%', '+', '&', '=', '#', '\n'] := by
  have hascii : c.toNat < 0x80 := toNat_lt_of_isAlphanum_or_mem rfl h
  exact ⟨hascii, of_toNat_lt (p := fun c => isPlain c → c ∉ ['%', '+', '&', '=', '#', '\n'])
    (by decide) hascii h⟩

/-- The encoding of a character: a plus sign, the character itself, or its bytes. -/
theorem encodeChar_cases (c : Char) :
    (c = ' ' ∧ encodeChar c = ['+']) ∨ (isPlain c ∧ encodeChar c = [c]) ∨
      encodeChar c = (String.utf8EncodeChar c).flatMap Percent.encodeByte := by
  rw [encodeChar, Percent.encodeChar, Bool.not_not]
  by_cases hspace : c = ' '
  · exact .inl ⟨hspace, if_pos hspace⟩
  by_cases hplain : isPlain c
  · have hascii := (of_isPlain hplain).1
    exact .inr (.inl ⟨hplain, by simp [hspace, hplain, hascii]⟩)
  · exact .inr (.inr (by simp [hspace, hplain]))

/-- Neither a separator of a query nor a line end is left in what is encoded. -/
theorem not_mem_of_mem_encode {text : List Char} :
    ∀ c ∈ encode text, c ∉ ['&', '=', '#', '\n'] := by
  intro c hc
  obtain ⟨d, -, hc⟩ := List.mem_flatMap.1 hc
  rcases encodeChar_cases d with ⟨-, hd⟩ | ⟨hplain, hd⟩ | hd
  · rw [hd, List.mem_singleton] at hc
    subst hc
    decide
  · rw [hd, List.mem_singleton] at hc
    subst hc
    intro hmem
    exact (of_isPlain hplain).2 (List.mem_cons_of_mem _ (List.mem_cons_of_mem _ hmem))
  · rw [hd] at hc
    obtain ⟨b, -, hc⟩ := List.mem_flatMap.1 hc
    intro hmem
    exact Percent.not_mem_of_mem_encodeByte c hc (List.mem_cons_of_mem _ hmem)

theorem utf8EncodeChar_of_ascii {c : Char} (h : c.toNat < 0x80) :
    String.utf8EncodeChar c = [UInt8.ofNat c.toNat] := by
  have hascii : c.val.toNat ≤ 0x7f := Nat.le_of_lt_succ h
  unfold String.utf8EncodeChar
  simp only [if_pos hascii]
  rfl

theorem decode_encodeChar (c : Char) (rest : List UInt8) :
    Percent.decode (((encodeChar c).map unplus).flatMap String.utf8EncodeChar ++ rest) =
      String.utf8EncodeChar c ++ Percent.decode rest := by
  rcases encodeChar_cases c with ⟨rfl, hc⟩ | ⟨hplain, hc⟩ | hc
  · rw [hc]
    exact Percent.decode_cons (by decide) rest
  · obtain ⟨hascii, hmem⟩ := of_isPlain hplain
    have hplus : c ≠ '+' := by
      rintro rfl
      exact hmem (by decide)
    have hpercent : UInt8.ofNat c.toNat ≠ 0x25 := by
      intro heq
      have hnat := congrArg UInt8.toNat heq
      rw [UInt8.toNat_ofNat', Nat.mod_eq_of_lt (by omega)] at hnat
      have hchar : c = '%' := by
        rw [← Char.ofNat_toNat c, hnat]
        rfl
      rw [hchar] at hmem
      exact hmem (by decide)
    rw [hc, List.map_singleton, unplus, if_neg hplus, List.flatMap_singleton,
      utf8EncodeChar_of_ascii hascii]
    exact Percent.decode_cons hpercent rest
  · -- encoded bytes are spelt without a plus sign
    have hmap : (encodeChar c).map unplus = encodeChar c := by
      refine (List.map_congr_left (g := id) fun d hd => ?_).trans (List.map_id _)
      rw [hc] at hd
      obtain ⟨b, -, hd⟩ := List.mem_flatMap.1 hd
      have hplus : d ≠ '+' := by
        rintro rfl
        exact Percent.not_mem_of_mem_encodeByte _ hd (by decide)
      exact if_neg hplus
    rw [hmap, hc, Percent.decode_flatMap_encodeByte]

theorem decode_encode (text : List Char) : decode (encode text) = text := by
  have hbytes : Percent.decode (((encode text).map unplus).flatMap String.utf8EncodeChar) =
      text.flatMap String.utf8EncodeChar := by
    induction text with
    | nil => rfl
    | cons c text ih =>
      have hencode : encode (c :: text) = encodeChar c ++ encode text := List.flatMap_cons
      rw [hencode, List.map_append, List.flatMap_append, decode_encodeChar, ih,
        List.flatMap_cons]
  rw [decode, hbytes, Utf8.decode_flatMap_utf8EncodeChar]

theorem encodePair_ne_nil (name value : List Char) : encodePair name value ≠ [] := by
  rw [encodePair]
  exact List.append_ne_nil_of_right_ne_nil _ (List.cons_ne_nil _ _)

theorem not_mem_of_mem_encodePair {name value : List Char} :
    ∀ c ∈ encodePair name value, c ∉ ['&', '#', '\n'] := by
  intro c hc hmem
  have hall : c ∈ ['&', '=', '#', '\n'] := by
    simp only [List.mem_cons, List.not_mem_nil, or_false] at hmem ⊢
    exact hmem.imp_right .inr
  rcases List.mem_append.1 hc with hc | hc
  · exact not_mem_of_mem_encode c hc hall
  · rcases List.mem_cons.1 hc with rfl | hc
    · exact absurd hmem (by decide)
    · exact not_mem_of_mem_encode c hc hall

theorem not_mem_appendPair {query : Option (List Char)} {name value : List Char} {c : Char}
    (hc : c ∈ ['#', '\n']) (h : c ∉ query.getD []) : c ∉ appendPair query name value := by
  have hpair : c ∉ encodePair name value :=
    fun hmem => not_mem_of_mem_encodePair c hmem (List.mem_cons_of_mem _ hc)
  have hampersand : c ≠ '&' := by
    rintro rfl
    exact absurd hc (by decide)
  unfold appendPair
  dsimp only
  split
  · exact hpair
  · simpa using ⟨h, hampersand, hpair⟩

/-- The first equals sign of an encoded pair parts the name from the value. -/
theorem readPair_encodePair (name value : String) :
    readPair (encodePair name.toList value.toList) = (name, value) := by
  -- an equals sign in the name is encoded, so the name is read up to its end
  have hname : ∀ c ∈ encode name.toList, (c != '=') = true := by
    intro c hc
    have hmem := not_mem_of_mem_encode c hc
    simp only [List.mem_cons, not_or] at hmem
    simpa using hmem.2.1
  rw [readPair, encodePair, List.takeWhile_append_of_pos hname, List.dropWhile_append_of_pos hname,
    List.takeWhile_cons_of_neg (by decide), List.dropWhile_cons_of_neg (by decide),
    List.append_nil, List.drop_one, List.tail_cons, decode_encode, decode_encode]
  simp only [String.ofList_toList]

theorem pairs_encodePair (name value : String) :
    pairs (encodePair name.toList value.toList) = [(name, value)] := by
  have hampersand : '&' ∉ encodePair name.toList value.toList := by
    intro hmem
    exact not_mem_of_mem_encodePair _ hmem (by decide)
  have hne := encodePair_ne_nil name.toList value.toList
  rw [pairs, List.splitOn_eq_singleton hampersand, List.filter_cons_of_pos (by simpa using hne),
    List.filter_nil, List.map_singleton, readPair_encodePair]

theorem pairs_append_ampersand (front back : List Char) :
    pairs (front ++ '&' :: back) = pairs front ++ pairs back := by
  rw [pairs, List.splitOn_append_cons_self, List.filter_append, List.map_append]
  rfl

/-- A pair that is added to a query is read behind those that the query had. -/
theorem pairs_appendPair (query : Option (List Char)) (name value : String) :
    pairs (appendPair query name.toList value.toList) =
      pairs (query.getD []) ++ [(name, value)] := by
  unfold appendPair
  by_cases hempty : query.getD [] = []
  · simp only [hempty, List.isEmpty_nil, if_true]
    exact pairs_encodePair name value
  · simp only [List.isEmpty_iff, hempty, if_false]
    rw [pairs_append_ampersand, pairs_encodePair]

end Form

end GeckScript.Url
