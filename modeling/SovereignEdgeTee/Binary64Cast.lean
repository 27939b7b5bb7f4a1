/-
The cast of an integer to a double, `n as f64`, as a function on integers.

The double of an integer is an integer again, `nearest n`: `n` rounded to 53 significant
bits. Casting is monotone and is exact below `2 ^ 53`, so a comparison of two casts says of
the integers what it says of the doubles, except where two integers are cast to one.
-/
import SovereignEdgeTee.Binary64
import Mathlib.Algebra.Order.Ring.Int
import Mathlib.Tactic.Ring
import Mathlib.Tactic.Positivity

set_option autoImplicit false

namespace Binary64

/-! ## Rounding to a multiple of a power of two

What the rounding does is pinned between two integer bounds: `le_roundShift` and `roundShift_le`
say that it never leaves an interval whose ends are multiples of the unit. Ties do not come up
in them, and monotonicity is the only place where the remainder is looked at. -/

section RoundShift

variable {m m' c : ℤ} {s : ℕ}

theorem two_pow_pos (s : ℕ) : (0 : ℤ) < 2 ^ s := by positivity

/-- The integer below or the one above. -/
theorem roundShift_cases (m : ℤ) (s : ℕ) :
    roundShift m s = m / 2 ^ s ∨ roundShift m s = m / 2 ^ s + 1 := by
  unfold roundShift
  dsimp only
  split
  · exact Or.inl rfl
  · exact Or.inr rfl

theorem le_roundShift (h : c * 2 ^ s ≤ m) : c ≤ roundShift m s := by
  -- the quotient is the multiple below `m`, and `c` is not above that one
  have hq : c ≤ m / 2 ^ s := Int.le_ediv_of_mul_le (two_pow_pos s) h
  rcases roundShift_cases m s with hr | hr
  · omega
  · omega

theorem roundShift_le (h : m ≤ c * 2 ^ s) : roundShift m s ≤ c := by
  have hpos := two_pow_pos s
  have hq : m / 2 ^ s ≤ c := Int.ediv_le_of_le_mul hpos h
  by_cases hc : m / 2 ^ s = c
  · -- `m` is the multiple itself, and there is nothing to round
    have hdiv := Int.mul_ediv_add_emod m (2 ^ s)
    have hmod := Int.emod_nonneg m hpos.ne'
    have hzero : m % 2 ^ s = 0 := by
      rw [hc, Int.mul_comm] at hdiv
      omega
    unfold roundShift
    dsimp only
    rw [hzero, if_pos (Or.inl (by omega)), hc]
  · rcases roundShift_cases m s with hr | hr
    · omega
    · omega

theorem roundShift_mono (h : m ≤ m') : roundShift m s ≤ roundShift m' s := by
  have hpos := two_pow_pos s
  have hq : m / 2 ^ s ≤ m' / 2 ^ s := Int.ediv_le_ediv hpos h
  by_cases hsame : m / 2 ^ s = m' / 2 ^ s
  · -- between the same two multiples, the remainder decides
    have hdiv := Int.mul_ediv_add_emod m (2 ^ s)
    have hdiv' := Int.mul_ediv_add_emod m' (2 ^ s)
    have hr : m % 2 ^ s ≤ m' % 2 ^ s := by
      rw [hsame] at hdiv
      omega
    unfold roundShift
    dsimp only
    rw [hsame]
    split
    · split
      · exact le_refl _
      · omega
    · split
      · omega
      · exact le_refl _
  · -- the multiple above `m` is at most the one below `m'`
    rcases roundShift_cases m s with hr | hr
    · rcases roundShift_cases m' s with hr' | hr'
      · omega
      · omega
    · rcases roundShift_cases m' s with hr' | hr'
      · omega
      · omega

/-- Rounding to a multiple of one changes nothing. -/
theorem roundShift_zero (m : ℤ) : roundShift m 0 = m := by
  unfold roundShift
  simp

end RoundShift

/-! ## The nearest double, as an integer

`excess n 0` is the number of low bits of `n` that a double cannot hold, and `2 ^ excess` is the
unit `n` is rounded to. Within one unit rounding is monotone by the section above; between two
units it is enough that the numbers lie in different binades (`nearest_large`, `binade_le`). -/

/-- The shift leaves 53 bits, and does not leave fewer than it has to. -/
theorem excess_spec (m : ℤ) {e : ℤ} (he : -1074 ≤ e) :
    m.natAbs < 2 ^ 53 * 2 ^ excess m e ∧
      (excess m e ≠ 0 → 2 ^ 52 * 2 ^ excess m e ≤ m.natAbs) := by
  have hs : excess m e = Nat.log2 m.natAbs + 1 - 53 := by
    unfold excess
    omega
  rw [← Nat.pow_add, ← Nat.pow_add]
  -- the upper bound is `log2` from above, the lower one `log2` from below
  constructor
  · refine lt_of_lt_of_le Nat.lt_log2_self ?_
    exact Nat.pow_le_pow_right (by decide) (by omega)
  · intro hne
    have hzero : m.natAbs ≠ 0 := by
      intro hzero
      rw [hs, hzero] at hne
      exact hne rfl
    refine le_trans ?_ (Nat.log2_self_le hzero)
    exact Nat.pow_le_pow_right (by decide) (by omega)

/-- The same bounds, on both sides of zero. -/
theorem excess_bounds (m : ℤ) {e : ℤ} (he : -1074 ≤ e) :
    -2 ^ 53 * 2 ^ excess m e ≤ m ∧ m ≤ 2 ^ 53 * 2 ^ excess m e ∧
      (excess m e ≠ 0 → m ≤ -2 ^ 52 * 2 ^ excess m e ∨ 2 ^ 52 * 2 ^ excess m e ≤ m) := by
  obtain ⟨habove, hbelow⟩ := excess_spec m he
  generalize excess m e = s at habove hbelow ⊢
  have hcast : ((2 ^ s : ℕ) : ℤ) = 2 ^ s := by rw [Nat.cast_pow]; rfl
  rw [← hcast]
  -- with the power as an unknown the bounds are linear
  generalize (2 ^ s : ℕ) = p at habove hbelow ⊢
  refine ⟨by omega, by omega, ?_⟩
  intro hne
  have := hbelow hne
  omega

/-- `n` rounded to 53 significant bits, to nearest with ties to even. -/
def nearest (n : ℤ) : ℤ := roundShift n (excess n 0) * 2 ^ excess n 0

/-- Below `2 ^ 53` there is nothing to round. -/
theorem nearest_of_small {n : ℤ} (hn : n.natAbs < 2 ^ 53) : nearest n = n := by
  have hs : excess n 0 = 0 := by
    by_contra hne
    have hlarge := (excess_spec n (by omega)).2 hne
    have hpow : 1 < 2 ^ excess n 0 := Nat.one_lt_two_pow hne
    omega
  rw [nearest, hs, roundShift_zero, pow_zero, mul_one]

/-- Rounding keeps the magnitude within the binade. -/
theorem nearest_bounds (n : ℤ) :
    -2 ^ 53 * 2 ^ excess n 0 ≤ nearest n ∧ nearest n ≤ 2 ^ 53 * 2 ^ excess n 0 := by
  obtain ⟨hlow, hhigh, -⟩ := excess_bounds n (e := 0) (by omega)
  have hpos := (two_pow_pos (excess n 0)).le
  exact ⟨Int.mul_le_mul_of_nonneg_right (le_roundShift hlow) hpos,
    Int.mul_le_mul_of_nonneg_right (roundShift_le hhigh) hpos⟩

/-- A number that is rounded at all stays on its side of zero, in its binade. -/
theorem nearest_large {n : ℤ} (hne : excess n 0 ≠ 0) :
    (n ≤ -2 ^ 52 * 2 ^ excess n 0 ∧ nearest n ≤ -2 ^ 52 * 2 ^ excess n 0) ∨
      (2 ^ 52 * 2 ^ excess n 0 ≤ n ∧ 2 ^ 52 * 2 ^ excess n 0 ≤ nearest n) := by
  obtain ⟨-, -, hlarge⟩ := excess_bounds n (e := 0) (by omega)
  have hpos := (two_pow_pos (excess n 0)).le
  rcases hlarge hne with hneg | hpos'
  · exact Or.inl ⟨hneg, Int.mul_le_mul_of_nonneg_right (roundShift_le hneg) hpos⟩
  · exact Or.inr ⟨hpos', Int.mul_le_mul_of_nonneg_right (le_roundShift hpos') hpos⟩

/-- The largest number of a binade is not above the least one of a later binade. -/
theorem binade_le {s s' : ℕ} (h : s < s') : (2 : ℤ) ^ 53 * 2 ^ s ≤ 2 ^ 52 * 2 ^ s' := by
  rw [← pow_add, ← pow_add]
  exact pow_le_pow_right₀ (by decide) (by omega)

/-- A larger number is not rounded to a smaller one. -/
theorem nearest_mono {n n' : ℤ} (h : n ≤ n') : nearest n ≤ nearest n' := by
  by_cases hsame : n = n'
  · rw [hsame]
  obtain ⟨hlow, hhigh, -⟩ := excess_bounds n (e := 0) (by omega)
  obtain ⟨hlow', hhigh', -⟩ := excess_bounds n' (e := 0) (by omega)
  have hbounds := nearest_bounds n
  have hbounds' := nearest_bounds n'
  rcases lt_trichotomy (excess n 0) (excess n' 0) with hlt | heq | hgt
  · -- `n'` has the larger magnitude, so it is positive
    have hbinade := binade_le hlt
    rcases nearest_large (n := n') (by omega) with ⟨hneg, -⟩ | ⟨-, hpos⟩
    · omega
    · omega
  · -- one unit for both, and rounding to it is monotone
    rw [nearest, nearest, heq]
    exact Int.mul_le_mul_of_nonneg_right (roundShift_mono h) (two_pow_pos _).le
  · -- `n` has the larger magnitude, so it is negative
    have hbinade := binade_le hgt
    rcases nearest_large (n := n) (by omega) with ⟨-, hneg⟩ | ⟨hpos, -⟩
    · omega
    · omega

/-- A number that fits into 53 bits shares its double with no other number. -/
theorem nearest_inj_of_small {n n' : ℤ} (hsmall : n.natAbs < 2 ^ 53 ∨ n'.natAbs < 2 ^ 53)
    (h : nearest n = nearest n') : n = n' := by
  have hexact : ∀ a b : ℤ, a.natAbs < 2 ^ 53 → nearest a = nearest b → a = b := by
    intro a b ha hab
    rw [nearest_of_small ha] at hab
    by_cases hb : excess b 0 = 0
    · rw [hab, nearest, hb, roundShift_zero, pow_zero, mul_one]
    · -- `b` is rounded to a double that is out of reach for `a`
      have hbinade := binade_le (Nat.pos_of_ne_zero hb)
      rcases nearest_large hb with ⟨-, hneg⟩ | ⟨-, hpos⟩
      · omega
      · omega
  -- the equation is symmetric, so it does not matter which of the two is small
  rcases hsmall with hn | hn'
  · exact hexact n n' hn h
  · exact (hexact n' n hn' h.symm).symm

/-! ## Doubles that are integers

A double with a non-negative exponent is an integer, and every cast is such a double. On these
`≤` and the test against `f64::EPSILON` say of the doubles what they say of the integers: a
difference is exact, or it is rounded to a number that is far from zero. -/

/-- `x` is the integer `n`. -/
def IsInt (x : F64) (n : ℤ) : Prop :=
  ∃ d : Finite, x = .finite d ∧ 0 ≤ d.e ∧ d.m * 2 ^ d.e.toNat = n

/-- Changing the exponent does not change the number. -/
theorem Finite.scaled_mul (d : Finite) {k : ℤ} (hk : 0 ≤ k) (hle : k ≤ d.e) :
    d.scaled k * 2 ^ k.toNat = d.m * 2 ^ d.e.toNat := by
  rw [Finite.scaled, mul_assoc, ← pow_add]
  congr 2
  omega

/-- A cast gives the nearest double. The bound is above every machine integer. -/
theorem ofInt_isInt {n : ℤ} (hn : n.natAbs < 2 ^ 128) : IsInt (F64.ofInt n) (nearest n) := by
  have hs : excess n 0 ≤ 128 := by
    by_contra hlarge
    have hbig := (excess_spec n (e := 0) (by omega)).2 (by omega)
    have hpow : 2 ^ 128 ≤ 2 ^ excess n 0 := Nat.pow_le_pow_right (by decide) (by omega)
    omega
  -- the rounded significand is `2 ^ 53` at most, so it is packed as it is or with one carry
  obtain ⟨hlow, hhigh, -⟩ := excess_bounds n (e := 0) (by omega)
  have hq := le_roundShift hlow
  have hq' := roundShift_le hhigh
  have hround : F64.ofInt n = pack (roundShift n (excess n 0)) (excess n 0) := by
    rw [F64.ofInt, round]
    simp
  rw [hround, nearest]
  generalize excess n 0 = s at hs hq hq' ⊢
  generalize roundShift n s = q at hq hq' ⊢
  rw [pack]
  by_cases hfits : q.natAbs < 2 ^ 53
  · rw [dif_pos ⟨hfits, by omega, by omega⟩]
    exact ⟨_, rfl, by simp, by simp⟩
  · -- rounded up to the next power of two, which takes one exponent more
    rw [dif_neg (fun h => hfits h.1), dif_pos ⟨by omega, by omega, by omega⟩]
    refine ⟨_, rfl, by show (0 : ℤ) ≤ (s : ℤ) + 1; omega, ?_⟩
    show q / 2 * 2 ^ ((s : ℤ) + 1).toNat = q * 2 ^ s
    have hexp : ((s : ℤ) + 1).toNat = 1 + s := by omega
    have heven : q / 2 * 2 = q := by omega
    rw [hexp, pow_add, pow_one, ← mul_assoc, heven]

section Compare

variable {x y : F64} {a b : ℤ}

theorem ble_iff (hx : IsInt x a) (hy : IsInt y b) : x.ble y = true ↔ a ≤ b := by
  obtain ⟨d, rfl, hd, rfl⟩ := hx
  obtain ⟨d', rfl, hd', rfl⟩ := hy
  rw [← d.scaled_mul (k := min d.e d'.e) (by omega) (by omega),
    ← d'.scaled_mul (k := min d.e d'.e) (by omega) (by omega)]
  rw [F64.ble, decide_eq_true_iff]
  exact (mul_le_mul_iff_of_pos_right (two_pow_pos _)).symm

/-- One is far more than `epsilon`: a double with a non-negative exponent is within
`epsilon` of zero only if it is zero. -/
theorem Finite.within_epsilon_iff (d : Finite) (hd : 0 ≤ d.e) :
    (F64.finite d).abs.blt F64.epsilon = true ↔ d.m = 0 := by
  have hmin : min d.e (-52) = -52 := by omega
  have hpos := two_pow_pos (d.e + 52).toNat
  show decide ((d.m.natAbs : ℤ) * 2 ^ (d.e - min d.e (-52)).toNat
    < 1 * 2 ^ ((-52 : ℤ) - min d.e (-52)).toNat) = true ↔ d.m = 0
  rw [decide_eq_true_iff, hmin, sub_neg_eq_add]
  constructor
  · intro hlt
    by_contra hne
    -- one in the significand already gives `1`, which is `2 ^ 52` times `epsilon`
    have hone : (1 : ℤ) ≤ d.m.natAbs := by omega
    have hle := mul_le_mul hone hpos zero_le_one (by omega)
    simp only [mul_one, one_mul, sub_self, Int.toNat_zero, pow_zero] at hlt hle
    omega
  · intro hzero
    rw [hzero, Int.natAbs_zero, Nat.cast_zero, zero_mul]
    decide

/-- A packed number is within `epsilon` of zero only if it is zero, and an infinity is not. -/
theorem pack_within_epsilon (q : ℤ) {e : ℤ} (he : 0 ≤ e) :
    (pack q e).abs.blt F64.epsilon = true ↔ q = 0 ∧ e ≤ 971 := by
  rw [pack]
  by_cases hfits : q.natAbs < 2 ^ 53 ∧ -1074 ≤ e ∧ e ≤ 971
  · rw [dif_pos hfits, Finite.within_epsilon_iff _ he]
    show q = 0 ↔ q = 0 ∧ e ≤ 971
    exact ⟨fun hq => ⟨hq, hfits.2.2⟩, fun h => h.1⟩
  · rw [dif_neg hfits]
    by_cases hcarry : (q / 2).natAbs < 2 ^ 53 ∧ -1074 ≤ e + 1 ∧ e + 1 ≤ 971
    · rw [dif_pos hcarry, Finite.within_epsilon_iff _ (by show (0 : ℤ) ≤ e + 1; omega)]
      show q / 2 = 0 ↔ q = 0 ∧ e ≤ 971
      omega
    · -- an infinity; a zero would have been packed by the first branch
      rw [dif_neg hcarry]
      refine ⟨fun h => absurd h (by simp [F64.abs, F64.blt, F64.epsilon]), ?_⟩
      rintro ⟨rfl, hle⟩
      exact absurd ⟨by decide, by omega, hle⟩ hfits

/-- Rounding takes no other integer to zero. -/
theorem round_within_epsilon (m : ℤ) {e : ℤ} (he : 0 ≤ e) (hle : e ≤ 971) :
    (round m e).abs.blt F64.epsilon = true ↔ m = 0 := by
  obtain ⟨-, -, hlarge⟩ := excess_bounds m (e := e) (by omega)
  have hround : round m e = pack (roundShift m (excess m e)) (e + excess m e) := by
    have hexp : (e - 971).toNat = 0 := by omega
    have hmin : min e 971 = e := by omega
    rw [round, hexp, hmin, pow_zero, mul_one]
  rw [hround, pack_within_epsilon _ (by omega)]
  by_cases hs : excess m e = 0
  · rw [hs, roundShift_zero]
    omega
  · -- 53 bits of `m` are left, so neither it nor the rounded number is zero
    have hpos := two_pow_pos (excess m e)
    rcases hlarge hs with hneg | hpos'
    · have hq := roundShift_le hneg
      omega
    · have hq := le_roundShift hpos'
      omega

/-- The comparison with a tolerance is equality on integers. -/
theorem sub_within_epsilon_iff (hx : IsInt x a) (hy : IsInt y b) :
    (x.sub y).abs.blt F64.epsilon = true ↔ a = b := by
  obtain ⟨d, rfl, hd, rfl⟩ := hx
  obtain ⟨d', rfl, hd', rfl⟩ := hy
  have hexp := d.he
  have hexp' := d'.he
  rw [← d.scaled_mul (k := min d.e d'.e) (by omega) (by omega),
    ← d'.scaled_mul (k := min d.e d'.e) (by omega) (by omega)]
  -- the difference is taken at the smaller exponent and rounded once
  have hsub : (F64.finite d).sub (.finite d')
      = round (d.scaled (min d.e d'.e) - d'.scaled (min d.e d'.e)) (min d.e d'.e) := by
    show round (d.scaled (min d.e d'.e) + -d'.m * 2 ^ (d'.e - min d.e d'.e).toNat) _ = _
    rw [neg_mul, ← sub_eq_add_neg]
    rfl
  rw [hsub, round_within_epsilon _ (by omega) (by omega), sub_eq_zero]
  exact (mul_left_inj' (two_pow_pos _).ne').symm

end Compare

end Binary64
