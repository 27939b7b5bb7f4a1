/-
IEEE 754 binary64, as far as programs compare, add and multiply doubles and cast
integers to them.

A finite double is an integer of fewer than 54 bits times a power of two in the
exponent range of the format. The pair is not normalised: a double has several
spellings, and the comparisons look at the value. The sign of zero is not kept,
since no comparison sees it. Every operation computes the exact result as an
integer times a power of two and rounds once, to nearest with ties to even.
-/
import Mathlib.Data.Int.Order.Basic
import Mathlib.Algebra.Order.Ring.Int

set_option autoImplicit false

/-- A finite double, `m · 2 ^ e`. -/
structure Binary64.Finite where
  m : ℤ
  e : ℤ
  hm : m.natAbs < 2 ^ 53
  he : -1074 ≤ e ∧ e ≤ 971
deriving DecidableEq

/-- A double: a number, an infinity or a NaN. -/
inductive F64 where
  | nan
  | inf (negative : Bool)
  | finite (d : Binary64.Finite)
deriving DecidableEq

namespace Binary64

/-- `d` as a multiple of `2 ^ k`, for `k` at most the exponent of `d`. -/
def Finite.scaled (d : Finite) (k : ℤ) : ℤ := d.m * 2 ^ (d.e - k).toNat

/-- The integer nearest to `m / 2 ^ s`, the even one of two that are as near. -/
def roundShift (m : ℤ) (s : ℕ) : ℤ :=
  let q := m / 2 ^ s
  let r := m % 2 ^ s
  if 2 * r < 2 ^ s ∨ (2 * r = 2 ^ s ∧ q % 2 = 0) then q else q + 1

/-- How many low bits of `m · 2 ^ e` the format cannot hold: those past the 53rd
bit of `m`, and those below `2 ^ -1074`. -/
def excess (m e : ℤ) : ℕ := max (Nat.log2 m.natAbs + 1 - 53) (-1074 - e).toNat

/-- The double `q · 2 ^ e`. Rounding up to `2 ^ 53` costs one exponent; past the
largest exponent the result is infinite. -/
def pack (q e : ℤ) : F64 :=
  if h : q.natAbs < 2 ^ 53 ∧ -1074 ≤ e ∧ e ≤ 971 then .finite ⟨q, e, h.1, h.2⟩
  else if h : (q / 2).natAbs < 2 ^ 53 ∧ -1074 ≤ e + 1 ∧ e + 1 ≤ 971 then
    .finite ⟨q / 2, e + 1, h.1, h.2⟩
  else .inf (q < 0)

/-- The double nearest to `m · 2 ^ e`. -/
def round (m e : ℤ) : F64 :=
  let m₀ := m * 2 ^ (e - 971).toNat
  let e₀ := min e 971
  let s := excess m₀ e₀
  pack (roundShift m₀ s) (e₀ + s)

end Binary64

namespace F64

open Binary64

/-- The cast of an integer, `n as f64`. -/
def ofInt (n : ℤ) : F64 := round n 0

/-- `a < b`; false as soon as one side is a NaN. -/
def blt : F64 → F64 → Bool
  | .nan, _ => false
  | _, .nan => false
  | .inf s, .inf t => s && !t
  | .inf s, .finite _ => s
  | .finite _, .inf t => !t
  | .finite a, .finite b => a.scaled (min a.e b.e) < b.scaled (min a.e b.e)

/-- `a ≤ b`; false as soon as one side is a NaN. -/
def ble : F64 → F64 → Bool
  | .nan, _ => false
  | _, .nan => false
  | .inf s, .inf t => s || !t
  | .inf s, .finite _ => s
  | .finite _, .inf t => !t
  | .finite a, .finite b => a.scaled (min a.e b.e) ≤ b.scaled (min a.e b.e)

/-- `a > b`. -/
def bgt (a b : F64) : Bool := blt b a

/-- `a ≥ b`. -/
def bge (a b : F64) : Bool := ble b a

def neg : F64 → F64
  | .nan => .nan
  | .inf s => .inf (!s)
  | .finite d => .finite ⟨-d.m, d.e, by rw [Int.natAbs_neg]; exact d.hm, d.he⟩

def abs : F64 → F64
  | .nan => .nan
  | .inf _ => .inf false
  | .finite d => .finite ⟨d.m.natAbs, d.e, by rw [Int.natAbs_natCast]; exact d.hm, d.he⟩

def add : F64 → F64 → F64
  | .nan, _ => .nan
  | _, .nan => .nan
  | .inf s, .inf t => if s = t then .inf s else .nan
  | .inf s, .finite _ => .inf s
  | .finite _, .inf t => .inf t
  | .finite a, .finite b =>
    round (a.scaled (min a.e b.e) + b.scaled (min a.e b.e)) (min a.e b.e)

def sub (a b : F64) : F64 := add a (neg b)

def mul : F64 → F64 → F64
  | .nan, _ => .nan
  | _, .nan => .nan
  | .inf s, .inf t => .inf (s != t)
  | .inf s, .finite d => if d.m = 0 then .nan else .inf (s != decide (d.m < 0))
  | .finite d, .inf t => if d.m = 0 then .nan else .inf (decide (d.m < 0) != t)
  | .finite a, .finite b => round (a.m * b.m) (a.e + b.e)

/-- `f64::EPSILON`, the distance from `1.0` to the next double. -/
def epsilon : F64 := .finite ⟨1, -52, by decide, by decide⟩

/-! ## Comparisons

A NaN answers `false` to every comparison, so `≤` is not the negation of `>`; the two are each
other's negation as soon as no side is a NaN. The proof goes through the spellings of both
doubles, and between two finite ones both comparisons scale to the same exponent. -/

theorem nan_bgt (b : F64) : nan.bgt b = false := by
  cases b <;> rfl

theorem ne_nan_of_ble {a b : F64} (h : a.ble b = true) : a ≠ .nan := by
  rintro rfl
  cases h

/-- Where no side is a NaN, one of two comparisons holds. -/
theorem ble_iff_not_bgt {a b : F64} (ha : a ≠ .nan) (hb : b ≠ .nan) :
    a.ble b = true ↔ a.bgt b = false := by
  cases a with
  | nan => exact absurd rfl ha
  | inf s =>
      cases b with
      | nan => exact absurd rfl hb
      | inf t => cases s <;> cases t <;> decide
      | finite y => cases s <;> simp [ble, bgt, blt]
  | finite x =>
      cases b with
      | nan => exact absurd rfl hb
      | inf t => cases t <;> simp [ble, bgt, blt]
      | finite y =>
          -- both comparisons scale to the smaller exponent, written from either side
          have hmin : min y.e x.e = min x.e y.e := min_comm _ _
          simp only [ble, bgt, blt, hmin, decide_eq_true_eq, decide_eq_false_iff_not, not_lt]

end F64
