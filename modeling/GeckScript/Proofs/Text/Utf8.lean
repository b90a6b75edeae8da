/-!
Reading UTF-8 without ever failing, as the encoding standard lays down: bytes that are no part of a
character read as replacement characters. Encoded text is read back, whatever stands behind it.
-/

namespace GeckScript.Text.Utf8

def replacement : Char := '\ufffd'

/-- A character whose first bytes have been read: how many bytes are missing, the bits so far, and
the range in which the next byte has to lie. -/
structure Unfinished where
  missing : Nat
  bits : Nat
  least : Nat
  most : Nat

/-- Reads a byte in front of which no character is unfinished. The ranges leave out the long forms,
the surrogates and what lies beyond the last character. -/
def readFirst (b : UInt8) : List Char × Option Unfinished :=
  let n := b.toNat
  if n < 0x80 then ([Char.ofNat n], none)
  else if 0xc2 ≤ n ∧ n < 0xe0 then ([], some ⟨1, n - 0xc0, 0x80, 0xbf⟩)
  else if 0xe0 ≤ n ∧ n < 0xf0 then
    ([], some ⟨2, n - 0xe0, if n = 0xe0 then 0xa0 else 0x80, if n = 0xed then 0x9f else 0xbf⟩)
  else if 0xf0 ≤ n ∧ n < 0xf5 then
    ([], some ⟨3, n - 0xf0, if n = 0xf0 then 0x90 else 0x80, if n = 0xf4 then 0x8f else 0xbf⟩)
  else ([replacement], none)

/-- Reads a byte. One that does not go on with the unfinished character is read afresh. -/
def readByte (state : Option Unfinished) (b : UInt8) : List Char × Option Unfinished :=
  match state with
  | none => readFirst b
  | some u =>
    if u.least ≤ b.toNat ∧ b.toNat ≤ u.most then
      let bits := u.bits * 64 + b.toNat % 64
      if u.missing = 1 then ([Char.ofNat bits], none)
      else ([], some ⟨u.missing - 1, bits, 0x80, 0xbf⟩)
    else
      let (chars, state) := readFirst b
      (replacement :: chars, state)

def decodeFrom : Option Unfinished → List UInt8 → List Char
  | none, [] => []
  | some _, [] => [replacement]
  | state, b :: rest =>
    let (chars, state) := readByte state b
    chars ++ decodeFrom state rest

def decode (bytes : List UInt8) : List Char :=
  decodeFrom none bytes

theorem decode_cons (b : UInt8) (rest : List UInt8) :
    decode (b :: rest) = (readFirst b).1 ++ decodeFrom (readFirst b).2 rest := rfl

section Range

variable {bits least most : Nat} {b : UInt8} (hleast : least ≤ b.toNat) (hmost : b.toNat ≤ most)

include hleast hmost

theorem decodeFrom_cons (missing : Nat) (rest : List UInt8) :
    decodeFrom (some ⟨missing + 2, bits, least, most⟩) (b :: rest) =
      decodeFrom (some ⟨missing + 1, bits * 64 + b.toNat % 64, 0x80, 0xbf⟩) rest := by
  rw [decodeFrom, readByte]
  simp only [if_pos (And.intro hleast hmost), if_neg (show missing + 2 ≠ 1 by omega)]
  rfl

theorem decodeFrom_last (rest : List UInt8) :
    decodeFrom (some ⟨1, bits, least, most⟩) (b :: rest) =
      Char.ofNat (bits * 64 + b.toNat % 64) :: decode rest := by
  rw [decodeFrom, readByte]
  simp only [if_pos (And.intro hleast hmost), if_true]
  rfl

end Range

theorem toNat_ofNat_of_lt {n : Nat} (h : n < 256) : (UInt8.ofNat n).toNat = n := by
  rw [UInt8.toNat_ofNat', Nat.mod_eq_of_lt h]

section ReadFirst

variable {n : Nat}

theorem readFirst_one (h : n < 0x80) : readFirst (UInt8.ofNat n) = ([Char.ofNat n], none) := by
  rw [readFirst, toNat_ofNat_of_lt (by omega)]
  simp only [if_pos h]

theorem readFirst_two (hlow : 0xc2 ≤ n) (hhigh : n < 0xe0) :
    readFirst (UInt8.ofNat n) = ([], some ⟨1, n - 0xc0, 0x80, 0xbf⟩) := by
  rw [readFirst, toNat_ofNat_of_lt (by omega)]
  simp only [if_neg (show ¬ n < 0x80 by omega), if_pos (And.intro hlow hhigh)]

theorem readFirst_three (hlow : 0xe0 ≤ n) (hhigh : n < 0xf0) :
    readFirst (UInt8.ofNat n) = ([], some ⟨2, n - 0xe0, if n = 0xe0 then 0xa0 else 0x80,
      if n = 0xed then 0x9f else 0xbf⟩) := by
  rw [readFirst, toNat_ofNat_of_lt (by omega)]
  simp only [if_neg (show ¬ n < 0x80 by omega), if_neg (show ¬ (0xc2 ≤ n ∧ n < 0xe0) by omega),
    if_pos (And.intro hlow hhigh)]

theorem readFirst_four (hlow : 0xf0 ≤ n) (hhigh : n < 0xf5) :
    readFirst (UInt8.ofNat n) = ([], some ⟨3, n - 0xf0, if n = 0xf0 then 0x90 else 0x80,
      if n = 0xf4 then 0x8f else 0xbf⟩) := by
  rw [readFirst, toNat_ofNat_of_lt (by omega)]
  simp only [if_neg (show ¬ n < 0x80 by omega), if_neg (show ¬ (0xc2 ≤ n ∧ n < 0xe0) by omega),
    if_neg (show ¬ (0xe0 ≤ n ∧ n < 0xf0) by omega), if_pos (And.intro hlow hhigh)]

end ReadFirst

theorem decode_utf8EncodeChar (c : Char) (rest : List UInt8) :
    decode (String.utf8EncodeChar c ++ rest) = c :: decode rest := by
  have hvalid : c.val.toNat < 0xd800 ∨ 0xdfff < c.val.toNat ∧ c.val.toNat < 0x110000 := c.valid
  have hback : Char.ofNat c.val.toNat = c := Char.ofNat_toNat c
  unfold String.utf8EncodeChar
  generalize c.val.toNat = v at hvalid hback ⊢
  subst hback
  have hbyte (n : Nat) (h : n < 256) : (UInt8.ofNat n).toNat = n := toNat_ofNat_of_lt h
  -- by the number of bytes that the code takes, whose bits make it up again
  by_cases hone : v ≤ 0x7f
  · simp only [if_pos hone, List.singleton_append]
    rw [decode_cons, readFirst_one (by omega)]
    rfl
  by_cases htwo : v ≤ 0x7ff
  · simp only [if_neg hone, if_pos htwo, List.cons_append, List.nil_append]
    have hlast := hbyte (v % 64 + 128) (by omega)
    rw [decode_cons, readFirst_two (by omega) (by omega), List.nil_append,
      decodeFrom_last (by omega) (by omega), hlast]
    congr 2
    omega
  by_cases hthree : v ≤ 0xffff
  · simp only [if_neg hone, if_neg htwo, if_pos hthree, List.cons_append, List.nil_append]
    have hmiddle := hbyte (v / 64 % 64 + 128) (by omega)
    have hlast := hbyte (v % 64 + 128) (by omega)
    rw [decode_cons, readFirst_three (by omega) (by omega), List.nil_append,
      decodeFrom_cons (by split <;> omega) (by split <;> omega),
      decodeFrom_last (by omega) (by omega), hmiddle, hlast]
    congr 2
    omega
  · simp only [if_neg hone, if_neg htwo, if_neg hthree, List.cons_append, List.nil_append]
    have hsecond := hbyte (v / 4096 % 64 + 128) (by omega)
    have hthird := hbyte (v / 64 % 64 + 128) (by omega)
    have hlast := hbyte (v % 64 + 128) (by omega)
    rw [decode_cons, readFirst_four (by omega) (by omega), List.nil_append,
      decodeFrom_cons (by split <;> omega) (by split <;> omega),
      decodeFrom_cons (by omega) (by omega),
      decodeFrom_last (by omega) (by omega), hsecond, hthird, hlast]
    congr 2
    omega

theorem decode_flatMap_utf8EncodeChar (chars : List Char) :
    decode (chars.flatMap String.utf8EncodeChar) = chars := by
  induction chars with
  | nil => rfl
  | cons c chars ih => rw [List.flatMap_cons, decode_utf8EncodeChar, ih]

end GeckScript.Text.Utf8
