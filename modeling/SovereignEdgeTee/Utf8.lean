/-
Two functions of Rust's string library, on the bytes and characters they are
specified on: `String::from_utf8_lossy` and `str::trim`.

`from_utf8_lossy` replaces each maximal run of bytes that begins a UTF-8 sequence
but does not complete it, and each byte that begins none, by `U+FFFD`. The second half
shows that it changes nothing else: `lossyChars_flatMap_encode`, one lemma for each
length of a sequence before it.
-/
import Mathlib.Algebra.Group.Nat.Defs

set_option autoImplicit false

namespace Utf8

/-- A continuation byte, `0b10xxxxxx`. -/
def isCont (b : UInt8) : Bool := 0x80 ≤ b && b ≤ 0xBF

/-- The second byte a three-byte sequence led by `a` may have: no overlong form
after `0xE0`, no surrogate after `0xED`. -/
def second3 (a b : UInt8) : Bool :=
  (a == 0xE0 && 0xA0 ≤ b && b ≤ 0xBF) || (a == 0xED && 0x80 ≤ b && b ≤ 0x9F) ||
    (((0xE1 ≤ a && a ≤ 0xEC) || a == 0xEE || a == 0xEF) && isCont b)

/-- The second byte a four-byte sequence led by `a` may have: no overlong form
after `0xF0`, nothing past `U+10FFFF` after `0xF4`. -/
def second4 (a b : UInt8) : Bool :=
  (a == 0xF0 && 0x90 ≤ b && b ≤ 0xBF) || (a == 0xF4 && 0x80 ≤ b && b ≤ 0x8F) ||
    (0xF1 ≤ a && a ≤ 0xF3 && isCont b)

/-- The payload bits of a continuation byte. -/
def low6 (b : UInt8) : ℕ := (b &&& 0x3F).toNat

/-- `U+FFFD`. -/
def replacement : Char := Char.ofNat 0xFFFD

/-- `String::from_utf8_lossy`, as characters. -/
def lossyChars : List UInt8 → List Char
  | [] => []
  | a :: r =>
    if a < 0x80 then Char.ofNat a.toNat :: lossyChars r
    else if 0xC2 ≤ a && a ≤ 0xDF then
      match r with
      | b :: r₁ =>
        if isCont b then Char.ofNat ((a &&& 0x1F).toNat * 64 + low6 b) :: lossyChars r₁
        else replacement :: lossyChars (b :: r₁)
      | [] => [replacement]
    else if 0xE0 ≤ a && a ≤ 0xEF then
      match r with
      | b :: c :: r₂ =>
        if second3 a b then
          if isCont c then
            Char.ofNat ((a &&& 0x0F).toNat * 4096 + low6 b * 64 + low6 c) :: lossyChars r₂
          else replacement :: lossyChars (c :: r₂)
        else replacement :: lossyChars (b :: c :: r₂)
      | [b] => if second3 a b then [replacement] else replacement :: lossyChars [b]
      | [] => [replacement]
    else if 0xF0 ≤ a && a ≤ 0xF4 then
      match r with
      | b :: c :: d :: r₃ =>
        if second4 a b then
          if isCont c then
            if isCont d then
              Char.ofNat ((a &&& 0x07).toNat * 262144 + low6 b * 4096 + low6 c * 64 + low6 d)
                :: lossyChars r₃
            else replacement :: lossyChars (d :: r₃)
          else replacement :: lossyChars (c :: d :: r₃)
        else replacement :: lossyChars (b :: c :: d :: r₃)
      | [b, c] =>
        if second4 a b then
          if isCont c then [replacement] else replacement :: lossyChars [c]
        else replacement :: lossyChars [b, c]
      | [b] => if second4 a b then [replacement] else replacement :: lossyChars [b]
      | [] => [replacement]
    else replacement :: lossyChars r
termination_by structural bs => bs

/-- `String::from_utf8_lossy`. -/
def from_utf8_lossy (bytes : List UInt8) : String := String.ofList (lossyChars bytes)

/-- The characters with the Unicode property `White_Space`. -/
def isWhite (c : Char) : Bool :=
  (0x09 ≤ c.toNat && c.toNat ≤ 0x0D) || c.toNat == 0x20 || c.toNat == 0x85 || c.toNat == 0xA0 ||
    c.toNat == 0x1680 || (0x2000 ≤ c.toNat && c.toNat ≤ 0x200A) || c.toNat == 0x2028 ||
    c.toNat == 0x2029 || c.toNat == 0x202F || c.toNat == 0x205F || c.toNat == 0x3000

/-- `str::trim`. -/
def trim (s : String) : String :=
  String.ofList ((s.toList.dropWhile isWhite).reverse.dropWhile isWhite).reverse

/-- A byte no sequence begins with, and a two-byte sequence cut short. -/
example : lossyChars [0x61, 0xFF, 0xC3, 0xA9, 0xC3] = ['a', replacement, 'é', replacement] := by
  decide

/-! ## Complete sequences

A sequence that is complete is read as one character, and what follows it is read from there
on. One lemma for each length, with the conditions of the branch it goes through. -/

section Complete

variable {a b c d : UInt8} (rest : List UInt8)

theorem lossyChars_one (ha : a < 0x80) :
    lossyChars (a :: rest) = Char.ofNat a.toNat :: lossyChars rest := by
  rw [lossyChars.eq_def]
  exact if_pos ha

theorem lossyChars_two (ha : 0xC2 ≤ a ∧ a ≤ 0xDF) (hb : isCont b = true) :
    lossyChars (a :: b :: rest)
      = Char.ofNat ((a &&& 0x1F).toNat * 64 + low6 b) :: lossyChars rest := by
  have hone : ¬ a < 0x80 := by grind
  rw [lossyChars.eq_def]
  simp only [if_neg hone, ha, hb, decide_true, Bool.and_self, if_true]

theorem lossyChars_three (ha : 0xE0 ≤ a ∧ a ≤ 0xEF) (hb : second3 a b = true)
    (hc : isCont c = true) :
    lossyChars (a :: b :: c :: rest)
      = Char.ofNat ((a &&& 0x0F).toNat * 4096 + low6 b * 64 + low6 c) :: lossyChars rest := by
  have hone : ¬ a < 0x80 := by grind
  have htwo : ¬ a ≤ 0xDF := by grind
  rw [lossyChars.eq_def]
  simp [if_neg hone, htwo, ha, hb, hc]

theorem lossyChars_four (ha : 0xF0 ≤ a ∧ a ≤ 0xF4) (hb : second4 a b = true)
    (hc : isCont c = true) (hd : isCont d = true) :
    lossyChars (a :: b :: c :: d :: rest)
      = Char.ofNat ((a &&& 0x07).toNat * 262144 + low6 b * 4096 + low6 c * 64 + low6 d)
        :: lossyChars rest := by
  have hone : ¬ a < 0x80 := by grind
  have htwo : ¬ a ≤ 0xDF := by grind
  have hthree : ¬ a ≤ 0xEF := by grind
  rw [lossyChars.eq_def]
  simp [if_neg hone, htwo, hthree, ha, hb, hc, hd]

end Complete

/-! ## Reading an encoding back

`String.utf8EncodeChar` cuts a code into groups of six bits from the right. Each lemma here
puts the groups of one length together again: the lead byte is one of that length, the second
byte is none that the table rules out, and the sum of the groups is the code. -/

/-- What is left of a byte under a mask of low bits. -/
theorem toNat_and_low (k n : ℕ) (hk : k < 8) (hn : n < 256) :
    (UInt8.ofNat n &&& UInt8.ofNat (2 ^ k - 1)).toNat = n % 2 ^ k := by
  have hpow : 2 ^ k < 256 := Nat.pow_lt_pow_right (by omega) hk
  rw [UInt8.toNat_and, UInt8.toNat_ofNat', UInt8.toNat_ofNat', Nat.mod_eq_of_lt (by omega),
    Nat.mod_eq_of_lt (by omega), Nat.and_two_pow_sub_one_eq_mod]

theorem low6_ofNat (n : ℕ) : low6 (UInt8.ofNat (n % 64 + 0x80)) = n % 64 := by
  have h : low6 (UInt8.ofNat (n % 64 + 0x80)) = (n % 64 + 0x80) % 64 :=
    toNat_and_low 6 (n % 64 + 0x80) (by omega) (by omega)
  omega

theorem isCont_ofNat (n : ℕ) : isCont (UInt8.ofNat (n % 64 + 0x80)) = true := by
  simp only [isCont, Bool.and_eq_true, decide_eq_true_eq, UInt8.le_iff_toNat_le,
    UInt8.toNat_ofNat', UInt8.reduceToNat]
  omega

/-- The second byte of a three-byte character is one `second3` allows. -/
theorem second3_ofNat (n : ℕ) (h : 0x7FF < n) (hle : n ≤ 0xFFFF)
    (hscalar : n < 0xD800 ∨ 0xDFFF < n) :
    second3 (UInt8.ofNat (n / 4096 % 16 + 0xE0)) (UInt8.ofNat (n / 64 % 64 + 0x80)) = true := by
  simp only [second3, isCont, Bool.or_eq_true, Bool.and_eq_true, decide_eq_true_eq, beq_iff_eq,
    UInt8.le_iff_toNat_le, ← UInt8.toNat_inj, UInt8.toNat_ofNat', UInt8.reduceToNat]
  omega

/-- The second byte of a four-byte character is one `second4` allows. -/
theorem second4_ofNat (n : ℕ) (h : 0xFFFF < n) (hle : n ≤ 0x10FFFF) :
    second4 (UInt8.ofNat (n / 262144 % 8 + 0xF0)) (UInt8.ofNat (n / 4096 % 64 + 0x80)) = true := by
  simp only [second4, isCont, Bool.or_eq_true, Bool.and_eq_true, decide_eq_true_eq, beq_iff_eq,
    UInt8.le_iff_toNat_le, ← UInt8.toNat_inj, UInt8.toNat_ofNat', UInt8.reduceToNat]
  omega

section Encode

variable (c : Char) (rest : List UInt8)

theorem lossyChars_encode_one (h : c.toNat ≤ 0x7F) :
    lossyChars (UInt8.ofNat c.toNat :: rest) = c :: lossyChars rest := by
  have hcode : (UInt8.ofNat c.toNat).toNat = c.toNat := by
    rw [UInt8.toNat_ofNat', Nat.mod_eq_of_lt (by omega)]
  have hlead : UInt8.ofNat c.toNat < 0x80 := by
    rw [UInt8.lt_iff_toNat_lt, hcode]
    exact Nat.lt_succ_of_le h
  rw [lossyChars_one _ hlead, hcode, Char.ofNat_toNat]

theorem lossyChars_encode_two (hlong : 0x7F < c.toNat) (h : c.toNat ≤ 0x7FF) :
    lossyChars (UInt8.ofNat (c.toNat / 64 % 32 + 0xC0) :: UInt8.ofNat (c.toNat % 64 + 0x80)
      :: rest) = c :: lossyChars rest := by
  -- a shorter code would be overlong, under a lead byte below `0xC2`
  have hlead : 0xC2 ≤ UInt8.ofNat (c.toNat / 64 % 32 + 0xC0)
      ∧ UInt8.ofNat (c.toNat / 64 % 32 + 0xC0) ≤ 0xDF := by
    simp only [UInt8.le_iff_toNat_le, UInt8.toNat_ofNat', UInt8.reduceToNat]
    omega
  have hbits : (UInt8.ofNat (c.toNat / 64 % 32 + 0xC0) &&& 0x1F).toNat
      = (c.toNat / 64 % 32 + 0xC0) % 32 :=
    toNat_and_low 5 _ (by omega) (by omega)
  have hcode : (c.toNat / 64 % 32 + 0xC0) % 32 * 64 + c.toNat % 64 = c.toNat := by omega
  rw [lossyChars_two _ hlead (isCont_ofNat _), hbits, low6_ofNat, hcode, Char.ofNat_toNat]

theorem lossyChars_encode_three (hlong : 0x7FF < c.toNat) (h : c.toNat ≤ 0xFFFF) :
    lossyChars (UInt8.ofNat (c.toNat / 4096 % 16 + 0xE0)
      :: UInt8.ofNat (c.toNat / 64 % 64 + 0x80) :: UInt8.ofNat (c.toNat % 64 + 0x80) :: rest)
        = c :: lossyChars rest := by
  -- a character is no surrogate
  have hscalar : c.toNat < 0xD800 ∨ 0xDFFF < c.toNat ∧ c.toNat < 0x110000 := c.valid
  have hlead : 0xE0 ≤ UInt8.ofNat (c.toNat / 4096 % 16 + 0xE0)
      ∧ UInt8.ofNat (c.toNat / 4096 % 16 + 0xE0) ≤ 0xEF := by
    simp only [UInt8.le_iff_toNat_le, UInt8.toNat_ofNat', UInt8.reduceToNat]
    omega
  have hbits : (UInt8.ofNat (c.toNat / 4096 % 16 + 0xE0) &&& 0x0F).toNat
      = (c.toNat / 4096 % 16 + 0xE0) % 16 :=
    toNat_and_low 4 _ (by omega) (by omega)
  have hcode : (c.toNat / 4096 % 16 + 0xE0) % 16 * 4096 + c.toNat / 64 % 64 * 64
      + c.toNat % 64 = c.toNat := by omega
  rw [lossyChars_three _ hlead (second3_ofNat _ hlong h (by omega)) (isCont_ofNat _), hbits,
    low6_ofNat, low6_ofNat, hcode, Char.ofNat_toNat]

theorem lossyChars_encode_four (hlong : 0xFFFF < c.toNat) :
    lossyChars (UInt8.ofNat (c.toNat / 262144 % 8 + 0xF0)
      :: UInt8.ofNat (c.toNat / 4096 % 64 + 0x80) :: UInt8.ofNat (c.toNat / 64 % 64 + 0x80)
      :: UInt8.ofNat (c.toNat % 64 + 0x80) :: rest) = c :: lossyChars rest := by
  -- a character is at most `U+10FFFF`
  have hscalar : c.toNat < 0xD800 ∨ 0xDFFF < c.toNat ∧ c.toNat < 0x110000 := c.valid
  have hlead : 0xF0 ≤ UInt8.ofNat (c.toNat / 262144 % 8 + 0xF0)
      ∧ UInt8.ofNat (c.toNat / 262144 % 8 + 0xF0) ≤ 0xF4 := by
    simp only [UInt8.le_iff_toNat_le, UInt8.toNat_ofNat', UInt8.reduceToNat]
    omega
  have hbits : (UInt8.ofNat (c.toNat / 262144 % 8 + 0xF0) &&& 0x07).toNat
      = (c.toNat / 262144 % 8 + 0xF0) % 8 :=
    toNat_and_low 3 _ (by omega) (by omega)
  have hcode : (c.toNat / 262144 % 8 + 0xF0) % 8 * 262144 + c.toNat / 4096 % 64 * 4096
      + c.toNat / 64 % 64 * 64 + c.toNat % 64 = c.toNat := by omega
  rw [lossyChars_four _ hlead (second4_ofNat _ hlong (by omega)) (isCont_ofNat _)
      (isCont_ofNat _),
    hbits, low6_ofNat, low6_ofNat, low6_ofNat, hcode, Char.ofNat_toNat]

/-- The bytes of a character are read back as that character, whatever follows them. -/
theorem lossyChars_encode :
    lossyChars (String.utf8EncodeChar c ++ rest) = c :: lossyChars rest := by
  have hnat : c.val.toNat = c.toNat := rfl
  rw [String.utf8EncodeChar, hnat]
  by_cases hone : c.toNat ≤ 0x7F
  · rw [if_pos hone]
    exact lossyChars_encode_one c rest hone
  · rw [if_neg hone]
    by_cases htwo : c.toNat ≤ 0x7FF
    · rw [if_pos htwo]
      exact lossyChars_encode_two c rest (by omega) htwo
    · rw [if_neg htwo]
      by_cases hthree : c.toNat ≤ 0xFFFF
      · rw [if_pos hthree]
        exact lossyChars_encode_three c rest (by omega) hthree
      · rw [if_neg hthree]
        exact lossyChars_encode_four c rest (by omega)

end Encode

/-- The characters of a string, encoded, are read back unchanged. -/
theorem lossyChars_flatMap_encode (chars : List Char) :
    lossyChars (chars.flatMap String.utf8EncodeChar) = chars := by
  induction chars with
  | nil => rfl
  | cons c chars ih => rw [List.flatMap_cons, lossyChars_encode, ih]

end Utf8
