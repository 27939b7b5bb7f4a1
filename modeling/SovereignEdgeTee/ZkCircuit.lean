/-
`crates/zk-proofs/src/lib.rs`: the circuit of a proof.

`PolicyCircuit` allocates every value twice and constrains the two copies to be equal.
It reads neither the policy nor the fields the values belong to, so its own assignment
always satisfies it (`circuit_satisfied`), and its shape is the number of its values
(`circuit_shape_iff`).

Hence a satisfied circuit says nothing about the policy. `circuit_soundness_iff` is
the extent of it: the circuits are sound for a policy only if there is no action the
policy turns down, and that is decided by the action that has no values.
-/
import SovereignEdgeTee.R1cs
import SovereignEdgeTee.ZkVerdicts
import Mathlib.Data.ZMod.Basic

set_option autoImplicit false

namespace SovereignEdgeTee

open R1cs (ConstraintSystem LinearCombination)

/-- The scalar field of BN254. -/
abbrev Fr := ZMod 21888242871839275222246405745257275088548364400416034343698204186575808495617

structure PolicyCircuit where
  values : List UInt64
deriving DecidableEq

namespace PolicyCircuit

/-- The body of the loop: two inputs with one value, and a constraint between them. -/
def allocate {F : Type*} [Semiring F] (one : ℕ) (cs : ConstraintSystem F) (val_fr : F) :
    ConstraintSystem F :=
  let (var, cs) := cs.new_input_variable val_fr
  let (var2, cs) := cs.new_input_variable val_fr
  cs.enforce (.of F var) (.of F one) (.of F var2)

/-- `PolicyCircuit::generate_constraints`, which never fails. -/
def generate_constraints (self : PolicyCircuit) (cs : ConstraintSystem Fr) :
    ConstraintSystem Fr :=
  let (one, cs) := cs.new_input_variable 1
  (self.values.map fun val => (val.toNat : Fr)).foldl (allocate one) cs

/-- The system a circuit builds from scratch, as set-up and prover have it build. -/
def synthesize (self : PolicyCircuit) : ConstraintSystem Fr :=
  self.generate_constraints (.new Fr)

end PolicyCircuit

/-- The circuit of `register_policy`. -/
def setup_circuit : PolicyCircuit := ⟨[42, 100]⟩

/-- The numeric values of an action in the order its map iterates in, cast to `u64`. -/
def ActionData.values (self : ActionData) : List UInt64 :=
  self.numeric_values.entries.map fun entry => entry.2.toUInt64

/-- The circuit of `generate_proof`. -/
def proving_circuit (action_data : ActionData) : PolicyCircuit :=
  ⟨if action_data.values.isEmpty then [0] else action_data.values⟩

/-! ## The circuit is always satisfied

The loop is followed by an invariant, `Allocated`: all constraints so far hold, they are over
inputs that exist, and the input `one` has the value one. A step of the loop adds two inputs
of one value and says that they are equal, which they are. -/

section Allocation

variable {F : Type*} [Semiring F]

/-- The system with the two copies of a value. -/
def with_copies (cs : ConstraintSystem F) (val_fr : F) : ConstraintSystem F :=
  ⟨cs.inputs ++ [val_fr] ++ [val_fr], cs.constraints⟩

theorem allocate_eq (one : ℕ) (cs : ConstraintSystem F) (val_fr : F) :
    PolicyCircuit.allocate one cs val_fr =
      (with_copies cs val_fr).enforce (.of F cs.inputs.length) (.of F one)
        (.of F (cs.inputs.length + 1)) := by
  simp only [PolicyCircuit.allocate, ConstraintSystem.new_input_variable, with_copies,
    List.length_append, List.length_singleton]

/-- What the loop keeps: the system is satisfied, and `one` is an input of value one. -/
structure Allocated (one : ℕ) (cs : ConstraintSystem F) : Prop where
  in_scope : cs.Scoped
  satisfied : cs.Satisfied
  one_eq : cs.inputs[one]? = some 1

theorem Allocated.allocate {one : ℕ} {cs : ConstraintSystem F} (h : Allocated one cs)
    (val_fr : F) : Allocated one (PolicyCircuit.allocate one cs val_fr) := by
  obtain ⟨hone, hvalue⟩ := List.getElem?_eq_some_iff.mp h.one_eq
  have hin : (with_copies cs val_fr).Scoped :=
    R1cs.scoped_new_input _ (R1cs.scoped_new_input _ h.in_scope)
  have hsat : (with_copies cs val_fr).Satisfied :=
    R1cs.satisfied_new_input _ (R1cs.scoped_new_input _ h.in_scope)
      (R1cs.satisfied_new_input _ h.in_scope h.satisfied)
  have hlen : (with_copies cs val_fr).inputs.length = cs.inputs.length + 2 := by
    simp [with_copies]
  have hget : (with_copies cs val_fr).inputs[one]? = some 1 := by
    rw [with_copies, List.append_assoc, List.getElem?_append_left hone, h.one_eq]
  rw [allocate_eq]
  refine ⟨R1cs.scoped_enforce hin ?_, R1cs.satisfied_enforce hsat ?_, hget⟩
  · -- the three terms of the constraint refer to the two copies and to `one`, all of them
    -- below the new number of inputs
    intro t ht
    rw [hlen]
    simp only [LinearCombination.of, List.cons_append, List.nil_append, List.mem_cons,
      List.not_mem_nil, or_false] at ht
    rcases ht with rfl | rfl | rfl <;> dsimp only <;> omega
  · -- both copies have the value, and the factor between them is one
    have hvar : (with_copies cs val_fr).inputs.getD cs.inputs.length 0 = val_fr := by
      simp [with_copies]
    have hvar2 : (with_copies cs val_fr).inputs.getD (cs.inputs.length + 1) 0 = val_fr := by
      simp [with_copies]
    have hfactor : (with_copies cs val_fr).inputs.getD one 0 = 1 := by
      rw [List.getD_eq_getElem?_getD, hget, Option.getD_some]
    rw [R1cs.eval_of, R1cs.eval_of, R1cs.eval_of, hvar, hvar2, hfactor, mul_one]

theorem Allocated.loop {one : ℕ} {cs : ConstraintSystem F} (h : Allocated one cs)
    (values : List F) : Allocated one (values.foldl (PolicyCircuit.allocate one) cs) := by
  induction values generalizing cs with
  | nil => exact h
  | cons val_fr values ih =>
      rw [List.foldl_cons]
      exact ih (h.allocate val_fr)

/-! ## The shape of the circuit

Without its values a system is a number of inputs and a list of constraints. The loop adds the
same to it for every value, so two circuits are of one shape exactly if they have as many
values. -/

theorem shape_allocate (one : ℕ) (cs : ConstraintSystem F) (val_fr : F) :
    (PolicyCircuit.allocate one cs val_fr).shape =
      (cs.shape.1 + 2, cs.shape.2 ++ [⟨.of F cs.shape.1, .of F one, .of F (cs.shape.1 + 1)⟩])
    := by
  rw [allocate_eq]
  simp [ConstraintSystem.shape, ConstraintSystem.enforce, with_copies]

/-- The loop sees the values only through their number. -/
theorem shape_loop {one : ℕ} {values values' : List F} (hlen : values.length = values'.length)
    {cs cs' : ConstraintSystem F} (hshape : cs.shape = cs'.shape) :
    (values.foldl (PolicyCircuit.allocate one) cs).shape =
      (values'.foldl (PolicyCircuit.allocate one) cs').shape := by
  induction values generalizing values' cs cs' with
  | nil =>
      rw [List.length_nil] at hlen
      rw [List.eq_nil_of_length_eq_zero hlen.symm]
      exact hshape
  | cons val_fr values ih =>
      cases values' with
      | nil => simp at hlen
      | cons val_fr' values' =>
          rw [List.foldl_cons, List.foldl_cons]
          refine ih (by simpa using hlen) ?_
          rw [shape_allocate, shape_allocate, hshape]

/-- Every value adds two inputs. -/
theorem inputs_loop (one : ℕ) (values : List F) (cs : ConstraintSystem F) :
    (values.foldl (PolicyCircuit.allocate one) cs).shape.1 = cs.shape.1 + 2 * values.length := by
  induction values generalizing cs with
  | nil => rfl
  | cons val_fr values ih =>
      rw [List.foldl_cons, ih, shape_allocate, List.length_cons]
      dsimp only
      omega

end Allocation

/-- The circuit of any values is satisfied by its own assignment. -/
theorem circuit_satisfied (circuit : PolicyCircuit) : circuit.synthesize.Satisfied := by
  have hstart : Allocated 1 ((ConstraintSystem.new Fr).new_input_variable 1).2 := by
    refine ⟨?_, ?_, rfl⟩
    · exact fun k hk => absurd hk List.not_mem_nil
    · exact fun k hk => absurd hk List.not_mem_nil
  exact (hstart.loop _).satisfied

/-- Two circuits have one shape when they have as many values. -/
theorem circuit_shape_iff (circuit circuit' : PolicyCircuit) :
    circuit.synthesize.shape = circuit'.synthesize.shape ↔
      circuit.values.length = circuit'.values.length := by
  unfold PolicyCircuit.synthesize PolicyCircuit.generate_constraints
  constructor
  · intro h
    -- two inputs for each value, so the numbers of values are equal
    have hinputs := congrArg Prod.fst h
    simp only at hinputs
    rw [inputs_loop, inputs_loop, List.length_map, List.length_map] at hinputs
    omega
  · intro h
    refine shape_loop ?_ rfl
    rw [List.length_map, List.length_map, h]

/-! ## What the circuit says about the policy

A circuit that is satisfied whatever its values cannot be evidence of anything. So it is sound
for a policy just when the policy has nothing to turn down. An action that is accepted stays
accepted as values are added (`verify_mono`), so the action without values is the one to ask.
-/

/-- An action without any value. -/
def ActionData.empty : ActionData := ⟨∅⟩

/-- **Circuit soundness.** A satisfied circuit means an action the policy accepts, for
every action, exactly when the policy accepts the action without any value. -/
theorem circuit_soundness_iff (policy : SafetyPolicy) :
    (∀ action_data : ActionData, (proving_circuit action_data).synthesize.Satisfied →
      verify_constraints action_data policy.circuit_constraints = .ok true) ↔
    verify_constraints .empty policy.circuit_constraints = .ok true := by
  constructor
  · -- the circuit of the empty action is satisfied too
    intro h
    exact h .empty (circuit_satisfied _)
  · -- the satisfied circuit adds nothing: acceptance comes from the empty action
    intro h action_data _
    refine verify_mono ?_ h
    intro field value hfield
    simp [ActionData.empty, ActionData.get_numeric] at hfield

/-- A speed limit. -/
def speed_policy : SafetyPolicy :=
  ⟨"safety-001", "Speed limit enforcement", [.Range "speed" 0 120]⟩

/-- An action over the limit. -/
def speeding : ActionData := ⟨AList.insert "speed" 200 ∅⟩

/-- The circuit of an action that violates the policy is satisfied. -/
theorem speeding_circuit_satisfied :
    (proving_circuit speeding).synthesize.Satisfied ∧
      verify_constraints speeding speed_policy.circuit_constraints = .ok false :=
  ⟨circuit_satisfied _, by decide⟩

end SovereignEdgeTee
