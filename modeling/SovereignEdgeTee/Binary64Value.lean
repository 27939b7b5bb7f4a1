/-
The rational number a finite double stands for.

Comparing doubles is comparing these numbers, and rounding a number that is not negative
keeps it so and takes it across no integer of 53 bits. A reading may be taken in whole units,
`1 / c` each, rounded up: what is above a whole threshold stays above it, and nothing else
gets above it.
-/
import SovereignEdgeTee.Binary64Cast
import Mathlib.Algebra.Order.Field.Power
import Mathlib.Data.Rat.Floor

set_option autoImplicit false

namespace Binary64

/-! ## Values

The number a finite double stands for, as a rational. Scaling two doubles to one exponent
multiplies both values by the same positive power of two, so the comparisons of the format are
the comparisons of the values, whatever spelling the doubles have. -/

/-- The number `d` stands for. -/
def Finite.value (d : Finite) : ℚ := d.m * 2 ^ d.e

theorem two_zpow_pos (k : ℤ) : (0 : ℚ) < 2 ^ k := zpow_pos (by decide) k

theorem two_zpow_natCast (k : ℕ) : (2 : ℚ) ^ (k : ℤ) = ((2 ^ k : ℕ) : ℚ) := by
  rw [zpow_natCast, Nat.cast_pow, Nat.cast_ofNat]

/-- Moving bits from the exponent into the integer does not change the number. -/
theorem shift_value (m : ℤ) {e k : ℤ} (hk : k ≤ e) :
    ((m * 2 ^ (e - k).toNat : ℤ) : ℚ) * 2 ^ k = m * 2 ^ e := by
  have hexp : ((e - k).toNat : ℤ) + k = e := by omega
  rw [Int.cast_mul, Int.cast_pow, mul_assoc, Int.cast_ofNat, ← zpow_natCast,
    ← zpow_add₀ (by decide), hexp]

theorem Finite.scaled_value (d : Finite) {k : ℤ} (hk : k ≤ d.e) :
    (d.scaled k : ℚ) * 2 ^ k = d.value :=
  shift_value d.m hk

theorem Finite.scaled_lt_iff (a b : Finite) :
    a.scaled (min a.e b.e) < b.scaled (min a.e b.e) ↔ a.value < b.value := by
  rw [← a.scaled_value (min_le_left a.e b.e), ← b.scaled_value (min_le_right a.e b.e),
    mul_lt_mul_iff_of_pos_right (two_zpow_pos _), Int.cast_lt]

theorem blt_finite (a b : Finite) :
    (F64.finite a).blt (.finite b) = true ↔ a.value < b.value := by
  rw [F64.blt, decide_eq_true_iff, Finite.scaled_lt_iff]

theorem ble_finite (a b : Finite) :
    (F64.finite a).ble (.finite b) = true ↔ a.value ≤ b.value := by
  have hmin : min b.e a.e = min a.e b.e := min_comm _ _
  rw [F64.ble, decide_eq_true_iff, ← not_lt, ← not_lt, ← Finite.scaled_lt_iff, hmin]

/-- A small integer is cast to a double of its value. -/
theorem ofInt_value {n : ℤ} (hn : n.natAbs < 2 ^ 53) :
    ∃ d, F64.ofInt n = .finite d ∧ d.value = n := by
  obtain ⟨d, hd, he, hvalue⟩ := ofInt_isInt (n := n) (by omega)
  rw [nearest_of_small hn] at hvalue
  refine ⟨d, hd, ?_⟩
  have hshift := shift_value d.m he
  rw [sub_zero, hvalue, zpow_zero, mul_one] at hshift
  exact hshift.symm

/-! ## Doubles that are integers

The link between `IsInt`, which the casts are stated with, and values: no integer is a NaN, so
`>` is the negation of `≤`, and an integer that is a double already is its own rounding. -/

theorem IsInt.ne_nan {x : F64} {n : ℤ} (h : IsInt x n) : x ≠ .nan := by
  obtain ⟨d, rfl, -⟩ := h
  intro hnan
  cases hnan

theorem bgt_iff {x y : F64} {a b : ℤ} (hx : IsInt x a) (hy : IsInt y b) :
    x.bgt y = true ↔ b < a := by
  rw [← not_le, ← ble_iff hx hy, F64.ble_iff_not_bgt hx.ne_nan hy.ne_nan, Bool.not_eq_false]

/-- An integer that some double is equal to is rounded to itself. -/
theorem IsInt.nearest_eq {x : F64} {n : ℤ} (h : IsInt x n) : nearest n = n := by
  obtain ⟨d, -, -, rfl⟩ := h
  have hm := d.hm
  generalize d.m = m at hm ⊢
  generalize d.e.toNat = e
  -- only bits of the exponent are past the 53rd
  have hs : excess (m * 2 ^ e) 0 ≤ e := by
    by_contra hlarge
    have hbig := (excess_spec (m * 2 ^ e) (e := 0) (by omega)).2 (by omega)
    have habs : (m * 2 ^ e).natAbs = m.natAbs * 2 ^ e := by
      rw [Int.natAbs_mul, Int.natAbs_pow]
      rfl
    rw [habs, ← pow_add] at hbig
    have hpow : 2 ^ (53 + e) ≤ 2 ^ (52 + excess (m * 2 ^ e) 0) :=
      Nat.pow_le_pow_right (by decide) (by omega)
    have hlt : m.natAbs * 2 ^ e < 2 ^ (53 + e) := by
      rw [pow_add]
      exact Nat.mul_lt_mul_of_pos_right hm (Nat.two_pow_pos e)
    omega
  rw [nearest]
  generalize excess (m * 2 ^ e) 0 = s at hs ⊢
  have hsplit : m * 2 ^ e = m * 2 ^ (e - s) * 2 ^ s := by
    rw [mul_assoc, ← pow_add]
    congr 2
    omega
  have hround : roundShift (m * 2 ^ e) s = m * 2 ^ (e - s) :=
    le_antisymm (roundShift_le hsplit.le) (le_roundShift hsplit.ge)
  rw [hround, ← hsplit]

/-! ## Rounding

The one fact the programs need of rounding is that it crosses no integer below `2 ^ 53`: a
product or a sum that is exactly at most a whole bound is still at most that bound after
rounding. It splits on the unit that is rounded to. With a unit above one the exact number was
short enough not to be rounded; with a unit of one or less the bound is a multiple of the unit,
and `roundShift_le` keeps it. -/

/-- The value of `q · 2 ^ e`, where it is packed without an overflow. -/
theorem pack_value {q e : ℤ} (hq : 0 ≤ q) (hq' : q ≤ 2 ^ 53) (he : -1074 ≤ e) (he' : e < 971) :
    ∃ d, pack q e = .finite d ∧ d.value = q * 2 ^ e := by
  rw [pack]
  by_cases hfits : q.natAbs < 2 ^ 53
  · rw [dif_pos ⟨hfits, he, by omega⟩]
    exact ⟨_, rfl, rfl⟩
  · rw [dif_neg (fun h => hfits h.1), dif_pos ⟨by omega, by omega, by omega⟩]
    refine ⟨_, rfl, ?_⟩
    -- `q` is `2 ^ 53`, so the bit that goes to the exponent is a zero
    have heven : q / 2 * 2 = q := by omega
    show ((q / 2 : ℤ) : ℚ) * 2 ^ (e + 1) = q * 2 ^ e
    rw [zpow_add_one₀ (by decide), mul_comm ((2 : ℚ) ^ e), ← mul_assoc]
    congr 1
    have hcast := congrArg (Int.cast : ℤ → ℚ) heven
    rw [Int.cast_mul, Int.cast_ofNat] at hcast
    exact hcast

/-- A number that has bits past the 53rd fills 53 bits. -/
theorem excess_large {m e : ℤ} (hlong : (-1074 - e).toNat < excess m e) :
    2 ^ 52 * 2 ^ excess m e ≤ m.natAbs := by
  have hs : excess m e = Nat.log2 m.natAbs + 1 - 53 := by
    unfold excess at hlong ⊢
    omega
  -- a zero has no bits at all, let alone bits past the 53rd
  have hzero : m.natAbs ≠ 0 := by
    intro hzero
    rw [hs, hzero] at hlong
    exact absurd hlong (by simp)
  rw [← Nat.pow_add]
  refine le_trans (Nat.pow_le_pow_right (by decide) ?_) (Nat.log2_self_le hzero)
  omega

theorem lt_excess (m e : ℤ) : m.natAbs < 2 ^ 53 * 2 ^ excess m e := by
  rw [← Nat.pow_add]
  refine lt_of_lt_of_le Nat.lt_log2_self (Nat.pow_le_pow_right (by decide) ?_)
  unfold excess
  omega

/-- Rounding starts from the same number with an exponent of the format or less. -/
theorem round_eq (m e : ℤ) :
    ∃ m₀ e₀ : ℤ, e₀ ≤ 971 ∧ (m₀ : ℚ) * 2 ^ e₀ = m * 2 ^ e ∧
      round m e = pack (roundShift m₀ (excess m₀ e₀)) (e₀ + excess m₀ e₀) := by
  refine ⟨m * 2 ^ (e - 971).toNat, min e 971, min_le_right _ _, ?_, rfl⟩
  have hshift : (e - 971).toNat = (e - min e 971).toNat := by omega
  rw [hshift]
  exact shift_value m (min_le_left _ _)

/-- Zero is rounded to a zero. -/
theorem round_zero_value {e : ℤ} (he : e ≤ 971) :
    ∃ d, pack (roundShift 0 (excess 0 e)) (e + excess 0 e) = .finite d ∧ d.value = 0 := by
  have hq : roundShift 0 (excess 0 e) = 0 :=
    le_antisymm (roundShift_le (by simp)) (le_roundShift (by simp))
  have hs : excess 0 e = (-1074 - e).toNat := by
    unfold excess
    simp
  rw [hq, hs, pack, dif_pos ⟨by decide, by omega, by omega⟩]
  exact ⟨_, rfl, by rw [Finite.value]; simp⟩

/-- A positive number below `2 ^ 53` has no room for bits past the 53rd and a positive
exponent. -/
theorem excess_small {m e : ℤ} {c : ℕ} (hm : 0 < m) (hc : c < 2 ^ 53)
    (hle : (m : ℚ) * 2 ^ e ≤ c) (hexp : 0 < e + excess m e) : excess m e = 0 ∧ e < 53 := by
  -- otherwise `m` fills 53 bits, and with the exponent it is at least `2 ^ 53`
  have hexcess : excess m e ≤ (-1074 - e).toNat := by
    by_contra hlong
    have hlarge := excess_large (not_le.mp hlong)
    have hm' : ((2 ^ 52 * 2 ^ excess m e : ℕ) : ℚ) ≤ m := by
      have hint : ((2 ^ 52 * 2 ^ excess m e : ℕ) : ℤ) ≤ m := by omega
      exact_mod_cast hint
    have hpow : (2 : ℚ) ^ (1 : ℤ) ≤ 2 ^ (e + excess m e) :=
      zpow_le_zpow_right₀ (by decide) (by omega)
    have hbig : (2 : ℚ) ^ 53 ≤ m * 2 ^ e :=
      calc (2 : ℚ) ^ 53 = 2 ^ 52 * 2 ^ (1 : ℤ) := by norm_num
        _ ≤ 2 ^ 52 * 2 ^ (e + excess m e) := mul_le_mul_of_nonneg_left hpow (by positivity)
        _ = ((2 ^ 52 * 2 ^ excess m e : ℕ) : ℚ) * 2 ^ e := by
          rw [zpow_add₀ (by decide), Nat.cast_mul, Nat.cast_pow, Nat.cast_pow, zpow_natCast]
          ring
        _ ≤ m * 2 ^ e := mul_le_mul_of_nonneg_right hm' (two_zpow_pos e).le
    have hc' : (c : ℚ) < 2 ^ 53 := by exact_mod_cast hc
    exact absurd (hbig.trans hle) (not_le.mpr hc')
  refine ⟨by omega, ?_⟩
  -- the same, now from the exponent alone
  by_contra hlarge
  have hone : (1 : ℚ) ≤ m := by exact_mod_cast hm
  have hpow : (2 : ℚ) ^ (53 : ℤ) ≤ 2 ^ e := zpow_le_zpow_right₀ (by decide) (by omega)
  have hbig : (2 : ℚ) ^ (53 : ℤ) ≤ c :=
    calc (2 : ℚ) ^ (53 : ℤ) ≤ 1 * 2 ^ e := by rw [one_mul]; exact hpow
      _ ≤ m * 2 ^ e := mul_le_mul_of_nonneg_right hone (two_zpow_pos e).le
      _ ≤ c := hle
  have hc' : (c : ℚ) < 2 ^ (53 : ℤ) := by exact_mod_cast hc
  exact absurd hbig (not_le.mpr hc')

/-- **Rounding crosses no integer.** What is rounded from between zero and an integer of 53
bits is a number between them. -/
theorem round_value_le {m e : ℤ} {c : ℕ} (hm : 0 ≤ m) (hc : c < 2 ^ 53)
    (hle : (m : ℚ) * 2 ^ e ≤ c) :
    ∃ d, round m e = .finite d ∧ 0 ≤ d.value ∧ d.value ≤ c := by
  obtain ⟨m₀, e₀, he, hvalue, hround⟩ := round_eq m e
  rw [hround]
  rw [← hvalue] at hle
  have hm₀ : 0 ≤ m₀ := by
    have hprod : (0 : ℚ) ≤ m₀ * 2 ^ e₀ := by
      rw [hvalue]
      exact mul_nonneg (by exact_mod_cast hm) (two_zpow_pos e).le
    exact_mod_cast nonneg_of_mul_nonneg_left hprod (two_zpow_pos e₀)
  rcases eq_or_lt_of_le hm₀ with hzero | hpos
  · subst hzero
    obtain ⟨d, hd, hd'⟩ := round_zero_value he
    exact ⟨d, hd, hd'.ge, by rw [hd']; exact Nat.cast_nonneg c⟩
  -- the unit is never below the smallest one of the format
  have hlow : -1074 ≤ e₀ + excess m₀ e₀ := by
    unfold excess
    omega
  by_cases hexp : 0 < e₀ + excess m₀ e₀
  · -- nothing is rounded
    obtain ⟨hs, he'⟩ := excess_small hpos hc hle hexp
    have hlt := lt_excess m₀ e₀
    rw [hs] at hexp hlt ⊢
    rw [roundShift_zero, Nat.cast_zero, add_zero]
    obtain ⟨d, hd, hd'⟩ := pack_value (q := m₀) (e := e₀) hm₀ (by omega) (by omega) (by omega)
    refine ⟨d, hd, ?_, by rw [hd']; exact hle⟩
    rw [hd']
    exact mul_nonneg (by exact_mod_cast hm₀) (two_zpow_pos e₀).le
  · -- the bound is a multiple of the unit that is rounded to
    have hlt := lt_excess m₀ e₀
    generalize excess m₀ e₀ = s at hlow hexp hlt ⊢
    -- the bound, counted in units
    have hbound : m₀ ≤ c * 2 ^ (-(e₀ + s)).toNat * 2 ^ s := by
      have hshift := shift_value (c : ℤ) (e := 0) (k := e₀) (by omega)
      have hsum : (0 - e₀).toNat = (-(e₀ + s)).toNat + s := by omega
      rw [zpow_zero, mul_one, hsum, Int.cast_natCast] at hshift
      rw [← hshift, mul_le_mul_iff_of_pos_right (two_zpow_pos e₀), Int.cast_le] at hle
      rw [mul_assoc, ← pow_add]
      exact hle
    have hq : 0 ≤ roundShift m₀ s := le_roundShift (by rw [zero_mul]; exact hm₀)
    have hq' : roundShift m₀ s ≤ 2 ^ 53 := by
      refine roundShift_le ?_
      have hcast : ((2 ^ 53 * 2 ^ s : ℕ) : ℤ) = 2 ^ 53 * 2 ^ s := by push_cast; rfl
      omega
    obtain ⟨d, hd, hd'⟩ := pack_value hq hq' hlow (by omega)
    refine ⟨d, hd, ?_, ?_⟩
    · rw [hd']
      exact mul_nonneg (by exact_mod_cast hq) (two_zpow_pos _).le
    · have hshift := shift_value (c : ℤ) (e := 0) (k := e₀ + s) (by omega)
      rw [zpow_zero, mul_one, Int.cast_natCast, zero_sub] at hshift
      rw [hd', ← hshift, mul_le_mul_iff_of_pos_right (two_zpow_pos _), Int.cast_le]
      exact roundShift_le hbound

theorem Finite.nonneg {d : Finite} (h : 0 ≤ d.value) : 0 ≤ d.m := by
  exact_mod_cast nonneg_of_mul_nonneg_left h (two_zpow_pos d.e)

section Arithmetic

variable {a b : Finite} {c : ℕ}

/-- A product is rounded to nothing above a whole bound of it. -/
theorem mul_value_le (ha : 0 ≤ a.value) (hb : 0 ≤ b.value) (hc : c < 2 ^ 53)
    (hle : a.value * b.value ≤ c) :
    ∃ d, (F64.finite a).mul (.finite b) = .finite d ∧ 0 ≤ d.value ∧ d.value ≤ c := by
  refine round_value_le (mul_nonneg (Finite.nonneg ha) (Finite.nonneg hb)) hc ?_
  have hprod : ((a.m * b.m : ℤ) : ℚ) * 2 ^ (a.e + b.e) = a.value * b.value := by
    rw [Finite.value, Finite.value, Int.cast_mul, zpow_add₀ (by decide)]
    ring
  rw [hprod]
  exact hle

/-- So is a sum. -/
theorem add_value_le (ha : 0 ≤ a.value) (hb : 0 ≤ b.value) (hc : c < 2 ^ 53)
    (hle : a.value + b.value ≤ c) :
    ∃ d, (F64.finite a).add (.finite b) = .finite d ∧ 0 ≤ d.value ∧ d.value ≤ c := by
  have hsum : ((a.scaled (min a.e b.e) + b.scaled (min a.e b.e) : ℤ) : ℚ) * 2 ^ min a.e b.e
      = a.value + b.value := by
    rw [Int.cast_add, add_mul, a.scaled_value (min_le_left _ _), b.scaled_value (min_le_right _ _)]
  refine round_value_le (add_nonneg ?_ ?_) hc (by rw [hsum]; exact hle)
  · exact mul_nonneg (Finite.nonneg ha) (two_pow_pos _).le
  · exact mul_nonneg (Finite.nonneg hb) (two_pow_pos _).le

end Arithmetic

/-- What no finite double reaches. -/
def limit : ℕ := 2 ^ 1024

theorem lt_limit {n : ℕ} (hn : n < 2 ^ 53) : n < limit := by
  have hexp : 53 ≤ 1024 := by omega
  rw [limit]
  exact lt_of_lt_of_le hn (pow_le_pow_right₀ one_le_two hexp)

theorem Finite.value_le (d : Finite) : d.value ≤ limit := by
  have hm : (d.m : ℚ) ≤ 2 ^ (53 : ℤ) := by
    have hint : d.m ≤ 2 ^ 53 := by
      have := d.hm
      omega
    exact_mod_cast hint
  have he : (2 : ℚ) ^ d.e ≤ 2 ^ (971 : ℤ) := zpow_le_zpow_right₀ (by decide) d.he.2
  -- the largest significand with the largest exponent
  calc d.value = d.m * 2 ^ d.e := rfl
    _ ≤ 2 ^ (53 : ℤ) * 2 ^ d.e := mul_le_mul_of_nonneg_right hm (two_zpow_pos d.e).le
    _ ≤ 2 ^ (53 : ℤ) * 2 ^ (971 : ℤ) := mul_le_mul_of_nonneg_left he (two_zpow_pos 53).le
    _ = 2 ^ ((1024 : ℕ) : ℤ) := (zpow_add₀ (by decide) 53 971).symm
    _ = limit := two_zpow_natCast 1024

end Binary64

/-! ## Whole units

Programs compare latencies and bandwidths with whole thresholds. Counting a reading in units of
`1 / c`, rounded up, turns that comparison into one of natural numbers: what is above a whole
threshold has more units than the threshold, and a larger reading has no fewer. -/

namespace F64

open Binary64

/-- A reading in units of `1 / c`, rounded up; what is not above zero is zero. A NaN is above
nothing, and an infinity is above every other double. -/
def units (c : ℕ) : F64 → ℕ
  | .nan => 0
  | .inf negative => if negative then 0 else c * limit
  | .finite d => ⌈c * d.value⌉₊

/-- A reading is above a whole threshold just when it has more units than the threshold. -/
theorem bgt_ofInt_iff {c n : ℕ} (hc : 0 < c) (hn : n < 2 ^ 53) (x : F64) :
    x.bgt (F64.ofInt n) = true ↔ c * n < x.units c := by
  obtain ⟨bound, hbound, hvalue⟩ := ofInt_value (n := n) (by omega)
  rw [hbound, bgt]
  cases x with
  | nan => simp [blt, units]
  | inf negative =>
      cases negative with
      | true => simp [blt, units]
      | false =>
          exact iff_of_true rfl (Nat.mul_lt_mul_of_pos_left (lt_limit hn) hc)
  | finite d =>
      -- a whole number is below the ceiling just when it is below the value
      have hc' : (0 : ℚ) < c := by exact_mod_cast hc
      rw [blt_finite, hvalue, units, Nat.lt_ceil, Nat.cast_mul, Int.cast_natCast,
        mul_lt_mul_iff_of_pos_left hc']

/-- The larger reading has the more units. -/
theorem units_mono (c : ℕ) {a b : F64} (h : a.ble b = true) : a.units c ≤ b.units c := by
  cases a with
  | nan => exact Nat.zero_le _
  | inf negative =>
      cases b with
      | nan => cases h
      | inf negative' => cases negative <;> cases negative' <;> simp_all [ble, units]
      | finite d => cases negative <;> simp_all [ble, units]
  | finite d =>
      cases b with
      | nan => cases h
      | inf negative =>
          cases negative with
          | true => cases h
          | false =>
              have hle : (c : ℚ) * d.value ≤ (c * limit : ℕ) := by
                rw [Nat.cast_mul]
                exact mul_le_mul_of_nonneg_left d.value_le (Nat.cast_nonneg c)
              exact Nat.ceil_le.mpr hle
      | finite d' =>
          rw [ble_finite] at h
          exact Nat.ceil_mono (mul_le_mul_of_nonneg_left h (Nat.cast_nonneg c))

/-- A reading of at most a whole bound is not above it. -/
theorem not_bgt_of_value_le {d : Finite} {n : ℕ} (hn : n < 2 ^ 53) (h : d.value ≤ n) :
    (F64.finite d).bgt (F64.ofInt n) = false := by
  obtain ⟨bound, hbound, hvalue⟩ := ofInt_value (n := n) (by omega)
  rw [hbound, bgt, Bool.eq_false_iff, Ne, blt_finite, hvalue, Int.cast_natCast]
  exact not_lt.mpr h

end F64
