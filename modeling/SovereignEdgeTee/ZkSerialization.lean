/-
The bytes of a proof. `serialize_proof` writes the eight coordinates of the three points of
a proof in a fixed width and leaves out which of the points are at infinity. Nothing is
lost by that: a point at infinity is kept with both coordinates zero, and neither curve
has a point there.
-/
import SovereignEdgeTee.ZkGenerator

set_option autoImplicit false

namespace SovereignEdgeTee

open LeBytes

attribute [ext] Fq2 G1Affine G2Affine Groth16Proof

/-! ## The curves

An affine point has a flag for infinity beside its coordinates, and the flag is what
`serialize_proof` leaves out. On the curves of BN254 it can be computed from the coordinates:
the constant term of neither equation is zero, so `(0, 0)` solves neither. -/

/-- The product in `Fq2`, where `u ^ 2 = -1`. -/
def Fq2.mul (a b : Fq2) : Fq2 := ⟨a.c0 * b.c0 - a.c1 * b.c1, a.c0 * b.c1 + a.c1 * b.c0⟩

def Fq2.add (a b : Fq2) : Fq2 := ⟨a.c0 + b.c0, a.c1 + b.c1⟩

def Fq2.zero : Fq2 := ⟨0, 0⟩

/-- The constant of the first curve. -/
def curve_b : Fq := (3 : ℕ)

/-- The constant of the second curve, `3 / (9 + u)`. -/
def twist_b : Fq2 :=
  ⟨19485874751759354771024239261021720505790618469301721065564631296452457478373,
    266929791119991161246907387137283842545076965332900288569378510910307636690⟩

example : (Fq2.mul ⟨9, 1⟩ twist_b).c0 = curve_b ∧ (Fq2.mul ⟨9, 1⟩ twist_b).c1 = 0 := by
  decide +kernel

/-- A point at infinity is kept as `(0, 0)`, every other point is on the curve
`y ^ 2 = x ^ 3 + curve_b`. -/
def G1Affine.Valid (p : G1Affine) : Prop :=
  if p.infinity then p.x = 0 ∧ p.y = 0 else p.y * p.y = p.x * p.x * p.x + curve_b

/-- The same for the second group, whose curve is `y ^ 2 = x ^ 3 + twist_b`. -/
def G2Affine.Valid (p : G2Affine) : Prop :=
  if p.infinity then p.x = Fq2.zero ∧ p.y = Fq2.zero
  else p.y.mul p.y = ((p.x.mul p.x).mul p.x).add twist_b

theorem g1_generator_valid : g1_generator.Valid := by
  show (2 : Fq) * 2 = 1 * 1 * 1 + curve_b
  decide +kernel

theorem g2_generator_valid : g2_generator.Valid := by
  refine Fq2.ext ?_ ?_
  · decide +kernel
  · decide +kernel

/-- A proof made of points of the two groups. -/
structure ValidProof where
  proof : Groth16Proof
  a_valid : proof.a.Valid
  b_valid : proof.b.Valid
  c_valid : proof.c.Valid

/-- The proof made of the generators. -/
def generator_proof : ValidProof where
  proof := ⟨g1_generator, g2_generator, g1_generator⟩
  a_valid := g1_generator_valid
  b_valid := g2_generator_valid
  c_valid := g1_generator_valid

theorem curve_b_ne_zero : curve_b ≠ 0 := by
  decide +kernel

theorem twist_b_c0_ne_zero : twist_b.c0 ≠ 0 := by
  decide +kernel

/-- `(0, 0)` is not on the first curve, so it is the point at infinity. -/
theorem G1Affine.Valid.infinity_iff {p : G1Affine} (h : p.Valid) :
    p.infinity = true ↔ p.x = 0 ∧ p.y = 0 := by
  unfold G1Affine.Valid at h
  by_cases hinfinity : p.infinity = true
  · rw [if_pos hinfinity] at h
    exact iff_of_true hinfinity h
  · rw [if_neg hinfinity] at h
    refine iff_of_false hinfinity ?_
    rintro ⟨hx, hy⟩
    rw [hx, hy, mul_zero, mul_zero, zero_add] at h
    exact curve_b_ne_zero h.symm

/-- `(0, 0)` is not on the second curve either. -/
theorem G2Affine.Valid.infinity_iff {p : G2Affine} (h : p.Valid) :
    p.infinity = true ↔ p.x = Fq2.zero ∧ p.y = Fq2.zero := by
  unfold G2Affine.Valid at h
  by_cases hinfinity : p.infinity = true
  · rw [if_pos hinfinity] at h
    exact iff_of_true hinfinity h
  · rw [if_neg hinfinity] at h
    refine iff_of_false hinfinity ?_
    rintro ⟨hx, hy⟩
    -- the first components of the equation: zero on the left, the constant of the curve on
    -- the right
    have hc0 := congrArg Fq2.c0 h
    simp only [hx, hy, Fq2.mul, Fq2.add, Fq2.zero, mul_zero, sub_zero, zero_add] at hc0
    exact twist_b_c0_ne_zero hc0.symm

/-! ## The bytes

All parts have a fixed width, so that two serializations are equal only if their parts are. An
element of the field is written as a number below the modulus, in 32 bytes, which is enough
for it. -/

instance fq_neZero : NeZero
    (21888242871839275222246405745257275088696311157297823662689037894645226208583 : ℕ) :=
  ⟨by decide⟩

/-- An element of the field fits in 32 bytes. -/
theorem to_bytes_le_injective : Function.Injective to_bytes_le := by
  intro x y h
  have hfits : ∀ z : Fq, z.val < 256 ^ 32 := by
    intro z
    -- the modulus has 254 bits
    refine (ZMod.val_lt z).trans_le ?_
    decide
  exact ZMod.val_injective _ (to_le_bytes_inj (hfits x) (hfits y) h)

theorem length_to_bytes_le (x : Fq) : (to_bytes_le x).length = 32 := length_to_le_bytes 32 x.val

/-- The last coordinate of two serializations that are equal is the same, and so is what is
before it. -/
theorem append_to_bytes_le_inj {before before' : List UInt8} {x x' : Fq}
    (h : before ++ to_bytes_le x = before' ++ to_bytes_le x') : before = before' ∧ x = x' := by
  have hlength : (to_bytes_le x).length = (to_bytes_le x').length := by
    rw [length_to_bytes_le, length_to_bytes_le]
  obtain ⟨hbefore, hx⟩ := List.append_inj' h hlength
  exact ⟨hbefore, to_bytes_le_injective hx⟩

/-- The coordinates can be read back from the bytes. -/
theorem coordinates_of_serialize_proof {p q : Groth16Proof}
    (h : serialize_proof p = serialize_proof q) :
    (p.a.x = q.a.x ∧ p.a.y = q.a.y) ∧ (p.b.x = q.b.x ∧ p.b.y = q.b.y) ∧
      p.c.x = q.c.x ∧ p.c.y = q.c.y := by
  unfold serialize_proof at h
  -- the coordinates come off the end one by one
  obtain ⟨h, hcy⟩ := append_to_bytes_le_inj h
  obtain ⟨h, hcx⟩ := append_to_bytes_le_inj h
  obtain ⟨h, hby1⟩ := append_to_bytes_le_inj h
  obtain ⟨h, hby0⟩ := append_to_bytes_le_inj h
  obtain ⟨h, hbx1⟩ := append_to_bytes_le_inj h
  obtain ⟨h, hbx0⟩ := append_to_bytes_le_inj h
  obtain ⟨hax, hay⟩ := append_to_bytes_le_inj h
  have hax : p.a.x = q.a.x := to_bytes_le_injective hax
  exact ⟨⟨hax, hay⟩, ⟨Fq2.ext hbx0 hbx1, Fq2.ext hby0 hby1⟩, hcx, hcy⟩

/-- A point of the first group is known by its coordinates. -/
theorem G1Affine.Valid.eq_of_coordinates {p q : G1Affine} (hp : p.Valid) (hq : q.Valid)
    (hx : p.x = q.x) (hy : p.y = q.y) : p = q := by
  have hinfinity : p.infinity = q.infinity := by
    rw [Bool.eq_iff_iff, hp.infinity_iff, hq.infinity_iff, hx, hy]
  exact G1Affine.ext hx hy hinfinity

theorem G2Affine.Valid.eq_of_coordinates {p q : G2Affine} (hp : p.Valid) (hq : q.Valid)
    (hx : p.x = q.x) (hy : p.y = q.y) : p = q := by
  have hinfinity : p.infinity = q.infinity := by
    rw [Bool.eq_iff_iff, hp.infinity_iff, hq.infinity_iff, hx, hy]
  exact G2Affine.ext hx hy hinfinity

/-- **The bytes of a proof determine it**, if its points are points of the curves, and they
are as many for every proof. -/
theorem serialize_proof_injective :
    (Function.Injective fun p : ValidProof => serialize_proof p.proof) ∧
      ∀ p q : Groth16Proof, (serialize_proof p).length = (serialize_proof q).length := by
  constructor
  · rintro ⟨p, hpa, hpb, hpc⟩ ⟨q, hqa, hqb, hqc⟩ h
    obtain ⟨⟨hax, hay⟩, ⟨hbx, hby⟩, hcx, hcy⟩ := coordinates_of_serialize_proof h
    -- point by point, by its coordinates and the flag they determine
    have hproof : p = q := Groth16Proof.ext (hpa.eq_of_coordinates hqa hax hay)
      (hpb.eq_of_coordinates hqb hbx hby) (hpc.eq_of_coordinates hqc hcx hcy)
    subst hproof
    rfl
  · intro p q
    rw [length_serialize_proof, length_serialize_proof]

/-- The same proof with its last point at infinity. -/
def infinity_proof : ValidProof where
  proof := ⟨g1_generator, g2_generator, ⟨0, 0, true⟩⟩
  a_valid := g1_generator_valid
  b_valid := g2_generator_valid
  c_valid := ⟨rfl, rfl⟩

/-- The point at infinity is told from the generator by its coordinates alone. -/
theorem serialize_proof_injective_generators :
    serialize_proof generator_proof.proof ≠ serialize_proof infinity_proof.proof := by
  intro h
  have hsame : generator_proof = infinity_proof := serialize_proof_injective.1 h
  have hinfinity := congrArg (fun p : ValidProof => p.proof.c.infinity) hsame
  cases hinfinity

end SovereignEdgeTee
