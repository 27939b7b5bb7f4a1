/-
The two ways to write an integer bound: a `Range`, which compares integers, and a
`Threshold`, which casts the value of the field to a double first.

They differ where the cast does: on a value and a bound that are different integers and
the same double. There a `Threshold` accepts whatever it is asked, as `threshold_range_iff`
says, and below `2 ^ 53` there are no such values.
-/
import SovereignEdgeTee.Binary64Cast
import SovereignEdgeTee.ZkPolicy

set_option autoImplicit false

namespace SovereignEdgeTee

open Binary64

/-- `check_constraint` returns `Ok(true)`. -/
def Accepts (d : ActionData) (c : Constraint) : Prop := check_constraint d c = .ok true

/-- `Threshold { field, operator, value: bound as f64 }`. -/
def bound_threshold (field operator : String) (bound : Int64) : Constraint :=
  .Threshold field operator (F64.ofInt bound.toInt)

/-- The thresholds at `bound` accept what the ranges up to it, from it and of it alone do. -/
structure RangeAgrees (d : ActionData) (field : String) (bound : Int64) : Prop where
  at_most : Accepts d (bound_threshold field "<=" bound) ↔
    Accepts d (.Range field Int64.minValue bound)
  at_least : Accepts d (bound_threshold field ">=" bound) ↔
    Accepts d (.Range field bound Int64.maxValue)
  equal : Accepts d (bound_threshold field "==" bound) ↔ Accepts d (.Range field bound bound)

variable {d : ActionData} {field : String} {value : Int64}

/-! ## What is accepted

On a field that the action has, each of the constraints is one comparison: a range compares
the integers, a threshold their nearest doubles. -/

theorem isInt_cast (n : Int64) : IsInt (F64.ofInt n.toInt) (nearest n.toInt) := by
  refine ofInt_isInt ?_
  have hlow := n.le_toInt
  have hhigh := n.toInt_lt
  omega

theorem accepts_range_iff (hfield : d.get_numeric field = some value) (min max : Int64) :
    Accepts d (.Range field min max) ↔ min.toInt ≤ value.toInt ∧ value.toInt ≤ max.toInt := by
  rw [Accepts, check_constraint, hfield]
  simp only [Except.ok.injEq, Bool.and_eq_true, decide_eq_true_iff, ge_iff_le,
    Int64.le_iff_toInt_le]

theorem accepts_at_most_iff (hfield : d.get_numeric field = some value) (bound : Int64) :
    Accepts d (bound_threshold field "<=" bound) ↔
      nearest value.toInt ≤ nearest bound.toInt := by
  rw [Accepts, bound_threshold, check_constraint, hfield]
  simp only [check_threshold, Except.ok.injEq]
  exact ble_iff (isInt_cast value) (isInt_cast bound)

theorem accepts_at_least_iff (hfield : d.get_numeric field = some value) (bound : Int64) :
    Accepts d (bound_threshold field ">=" bound) ↔
      nearest bound.toInt ≤ nearest value.toInt := by
  rw [Accepts, bound_threshold, check_constraint, hfield]
  simp only [check_threshold, Except.ok.injEq]
  exact ble_iff (isInt_cast bound) (isInt_cast value)

theorem accepts_equal_iff (hfield : d.get_numeric field = some value) (bound : Int64) :
    Accepts d (bound_threshold field "==" bound) ↔
      nearest value.toInt = nearest bound.toInt := by
  rw [Accepts, bound_threshold, check_constraint, hfield]
  simp only [check_threshold, Except.ok.injEq]
  exact sub_within_epsilon_iff (isInt_cast value) (isInt_cast bound)

/-- Casts of integers that do not share a double compare as the integers do. -/
theorem nearest_le_iff {a b : ℤ} (hexact : nearest a = nearest b → a = b) :
    nearest a ≤ nearest b ↔ a ≤ b := by
  refine ⟨?_, nearest_mono⟩
  intro hle
  -- if the integers were the other way round, their doubles would be too, or would be one
  by_contra hlt
  have hge : nearest b ≤ nearest a := nearest_mono (by omega)
  exact hlt (hexact (le_antisymm hle hge)).le

/-- The two agree on a bound just when the value and the bound are the same integer or
different doubles. -/
theorem range_agrees_iff (hfield : d.get_numeric field = some value) (bound : Int64) :
    RangeAgrees d field bound ↔
      (nearest value.toInt = nearest bound.toInt → value = bound) := by
  have hmin : Int64.minValue.toInt ≤ value.toInt := value.minValue_le_toInt
  have hmax : value.toInt ≤ Int64.maxValue.toInt := value.toInt_le
  constructor
  · -- on one double the threshold `==` accepts, so the range of one integer has to
    rintro ⟨-, -, hequal⟩ hsame
    have hrange := (accepts_range_iff hfield _ _).mp
      (hequal.mp ((accepts_equal_iff hfield bound).mpr hsame))
    exact Int64.toInt_inj.mp (by omega)
  · intro hexact
    have hexact' : nearest value.toInt = nearest bound.toInt → value.toInt = bound.toInt :=
      fun hsame => congrArg Int64.toInt (hexact hsame)
    -- the open end of a range is met by every value
    refine ⟨?_, ?_, ?_⟩
    · rw [accepts_at_most_iff hfield, accepts_range_iff hfield, nearest_le_iff hexact']
      exact ⟨fun hle => ⟨hmin, hle⟩, fun h => h.2⟩
    · rw [accepts_at_least_iff hfield, accepts_range_iff hfield,
        nearest_le_iff fun hsame => (hexact' hsame.symm).symm]
      exact ⟨fun hle => ⟨hle, hmax⟩, fun h => h.1⟩
    · rw [accepts_equal_iff hfield, accepts_range_iff hfield]
      constructor
      · intro hsame
        have hvalue := hexact' hsame
        omega
      · rintro ⟨hle, hge⟩
        rw [le_antisymm hle hge]

/-- **Where `Range` and `Threshold` agree.** On every value and bound, except on different
integers that are cast to one double. Those are accepted by all three thresholds, and
there are none of them where the value or the bound is below `2 ^ 53`. -/
theorem threshold_range_iff (hfield : d.get_numeric field = some value) (bound : Int64) :
    (RangeAgrees d field bound ↔
      (nearest value.toInt = nearest bound.toInt → value = bound)) ∧
    (nearest value.toInt = nearest bound.toInt →
      Accepts d (bound_threshold field "<=" bound) ∧
        Accepts d (bound_threshold field ">=" bound) ∧
        Accepts d (bound_threshold field "==" bound)) ∧
    (value.toInt.natAbs < 2 ^ 53 ∨ bound.toInt.natAbs < 2 ^ 53 →
      RangeAgrees d field bound) := by
  refine ⟨range_agrees_iff hfield bound, ?_, ?_⟩
  · intro hsame
    rw [accepts_at_most_iff hfield, accepts_at_least_iff hfield, accepts_equal_iff hfield]
    -- on one double all three comparisons hold
    exact ⟨hsame.le, hsame.ge, hsame⟩
  · intro hsmall
    rw [range_agrees_iff hfield]
    intro hsame
    exact Int64.toInt_inj.mp (nearest_inj_of_small hsmall hsame)

/-- An action with one value. -/
def counted (value : Int64) : ActionData := ⟨AList.insert "count" value ∅⟩

/-- A value within 53 bits. -/
theorem threshold_range_iff_counted :
    RangeAgrees (counted 9007199254740991) "count" 9007199254740992 := by
  have hfield : (counted 9007199254740991).get_numeric "count" = some 9007199254740991 := rfl
  exact (threshold_range_iff hfield 9007199254740992).2.2 (Or.inl (by decide))

/-- `2 ^ 53 + 1` is at most `2 ^ 53` as a double and not as an integer. -/
theorem threshold_accepts_beyond_range :
    ¬ ∀ (d : ActionData) (field : String) (value bound : Int64),
      d.get_numeric field = some value → RangeAgrees d field bound := by
  intro h
  have hagrees := h (counted 9007199254740993) "count" 9007199254740993 9007199254740992 rfl
  have hthreshold : check_constraint (counted 9007199254740993)
      (bound_threshold "count" "<=" 9007199254740992) = .ok true := by decide +kernel
  have hrange := (accepts_range_iff rfl _ _).mp (hagrees.at_most.mp hthreshold)
  exact absurd hrange.2 (by decide)

end SovereignEdgeTee
