/-
Fixed-width little-endian encodings of natural numbers.
-/
import Mathlib.Data.Nat.Notation
import Mathlib.Tactic.Ring.RingNF

set_option autoImplicit false

namespace LeBytes

/-- The low `w` bytes of `n`, lowest first. -/
def to_le_bytes : ℕ → ℕ → List UInt8
  | 0, _ => []
  | w + 1, n => UInt8.ofNat n :: to_le_bytes w (n / 256)

@[simp] theorem length_to_le_bytes (w n : ℕ) : (to_le_bytes w n).length = w := by
  induction w generalizing n with
  | zero => rfl
  | succ w ih => simp only [to_le_bytes, List.length_cons, ih]

/-- A prefix of an encoding is the encoding in fewer bytes. -/
theorem take_to_le_bytes (w v n : ℕ) (h : v ≤ w) :
    (to_le_bytes w n).take v = to_le_bytes v n := by
  induction v generalizing w n with
  | zero => rfl
  | succ v ih =>
      obtain ⟨w, rfl⟩ : ∃ w', w = w' + 1 := ⟨w - 1, by omega⟩
      simp only [to_le_bytes, List.take_succ_cons]
      rw [ih w (n / 256) (by omega)]

/-- Numbers that fit in `w` bytes are told apart by their encodings. -/
theorem to_le_bytes_inj {w a b : ℕ} (ha : a < 256 ^ w) (hb : b < 256 ^ w)
    (h : to_le_bytes w a = to_le_bytes w b) : a = b := by
  induction w generalizing a b with
  | zero =>
      rw [pow_zero] at ha hb
      omega
  | succ w ih =>
      rw [pow_succ] at ha hb
      simp only [to_le_bytes, List.cons.injEq] at h
      have hlow : a % 256 = b % 256 := by
        have h8 := congrArg UInt8.toNat h.1
        simpa using h8
      have hhigh : a / 256 = b / 256 :=
        ih (Nat.div_lt_of_lt_mul (by omega)) (Nat.div_lt_of_lt_mul (by omega)) h.2
      omega

end LeBytes
