/-
What the answers of the proof generator guarantee.

* `policy_gate`: whatever `generate_proof` returns, it is right about the policy. A
  returned proof means that every constraint holds, and each error says what it names.
* `proof_bytes_genuine_iff`: when the bytes of a returned proof are a Groth16 proof for a
  circuit of the shape the keys were made for. `register_policy` sets its keys up on a
  circuit with two values, so that is the case for an action with two values on which the
  prover succeeds, and for no other. The prover does not compare the circuit with its
  keys, so an action with another number of values is proved all the same.
* `verification_sound_iff`: `verify_proof` asks only whether the bytes and the public
  inputs are empty. As soon as one policy is registered there are proofs it accepts
  that nobody issued.
-/
import SovereignEdgeTee.ZkGenerator

set_option autoImplicit false

namespace SovereignEdgeTee

variable {G : Groth16}

/-! ## A concrete backend

The results of this file hold of every `Groth16`. Their witnesses and counterexamples need
one that can be evaluated. It agrees with the real prover in the point that matters here:
a circuit of another shape than that of the set-up circuit is no error. -/

/-- A backend that can be evaluated. A key knows the number of inputs of the circuit it was
made for, and the prover does not look at it. Its proofs are made of the generators of the
two groups. -/
def Groth16.sized : Groth16 where
  ProvingKey := ℕ
  VerifyingKey := ℕ
  Draws := Unit
  circuit_specific_setup := fun cs _ => .ok (cs.inputs.length, cs.inputs.length)
  prove := fun _ _ _ => .ok ⟨g1_generator, g2_generator, g1_generator⟩
  vk_debug := fun vk => toString vk
  sha256 := fun x => Vector.replicate 32 (UInt8.ofNat x.length)

/-- A generator with the speed limit registered. -/
def speed_generator : ZkProofGenerator .sized :=
  (zk_run .sized [.register_policy speed_policy ()]).1

/-! ## The policy gate

Four outcomes say something about the constraints, and `Gate` states it of each. What they
rest on is the specification of the evaluator (`verify_spec`); here it is only followed
through `generate_proof`, which passes an error on and turns a `false` into one. -/

/-- What an outcome of `generate_proof` says about the constraints of its policy. -/
def Gate (d : ActionData) (constraints : List Constraint) : Except ZkError ZkProof → Prop
  | .ok _ => ∀ c ∈ constraints, Sat d c
  | .error .ConstraintViolation => ¬ ∀ c ∈ constraints, Sat d c
  | .error (.MissingField field) => d.get_numeric field = none ∧
      ∃ c ∈ constraints, ∃ leaf, Occurs leaf c ∧ leaf.field = some field
  | .error (.InvalidOperator operator) => operator ∉ known_operators ∧
      ∃ c ∈ constraints, ∃ field value, Occurs (.Threshold field operator value) c ∧
        (d.get_numeric field).isSome
  | .error _ => True

/-- **Policy gate.** Whatever the outcome for a registered policy, it is right. -/
theorem policy_gate (gen : ZkProofGenerator G) (policy_id : String) (policy : SafetyPolicy)
    (hpolicy : gen.policies.lookup policy_id = some policy) (action_data : ActionData)
    (execution_trace : List UInt8) (draws : G.Draws) (now : UInt64) :
    Gate action_data policy.circuit_constraints
      (gen.generate_proof policy_id action_data execution_trace draws now) := by
  have hjudged := verify_spec action_data policy.circuit_constraints
  cases hresult : gen.generate_proof policy_id action_data execution_trace draws now with
  | ok p =>
      obtain ⟨policy', setup, hpolicy', hverify, -⟩ := generate_proof_ok hresult
      -- the policy that was looked up is the one that is registered
      obtain rfl := Option.some.inj (hpolicy.symm.trans hpolicy')
      rw [hverify] at hjudged
      exact sat_and_iff.mp hjudged
  | error e =>
      rcases generate_proof_error hresult with rfl | ⟨policy', hpolicy', hverdict⟩
      -- no keys for the policy
      · trivial
      · obtain rfl := Option.some.inj (hpolicy.symm.trans hpolicy')
        rcases hverdict with hverify | ⟨rfl, hverify⟩
        · rw [hverify] at hjudged
          cases e with
          | MissingField field =>
              -- the leaf to blame is below one of the constraints, the list being no leaf
              obtain ⟨habsent, leaf, hoccurs, hfield⟩ := hjudged
              have hleaf : leaf.field.isSome := by
                rw [hfield]
                rfl
              obtain ⟨c, hc, hin⟩ := (occurs_and_iff hleaf).mp hoccurs
              exact ⟨habsent, c, hc, leaf, hin, hfield⟩
          | InvalidOperator operator =>
              obtain ⟨hop, field, value, hoccurs, hpresent⟩ := hjudged
              obtain ⟨c, hc, hin⟩ := (occurs_and_iff rfl).mp hoccurs
              exact ⟨hop, c, hc, field, value, hin, hpresent⟩
          | ConstraintViolation => exact hjudged.elim
          | _ => trivial
        · rw [hverify] at hjudged
          exact fun hall => hjudged (sat_and_iff.mpr hall)

/-- The gate at an action without the field the policy refers to. -/
theorem policy_gate_missing_field :
    Gate .empty [.Range "speed" 0 120]
      (speed_generator.generate_proof "safety-001" .empty [] () 0) :=
  policy_gate speed_generator "safety-001" speed_policy (by rfl) .empty [] () 0

/-! ## The bytes of a proof

`register_policy` makes its keys on the circuit with the values 42 and 100, and
`generate_proof` proves the circuit of the values the action happens to have. The shape of a
circuit is the number of its values (`circuit_shape_iff`), so the two circuits agree on
actions with two values. A prover that fails is the other way to bytes that are no proof: the
commitment of `fallback_bytes` is returned as `Ok`. -/

/-- Every stored key pair comes from a set-up of the circuit with two values. -/
def KeysFromSetup (gen : ZkProofGenerator G) : Prop :=
  ∀ policy_id setup, gen.setup_keys.lookup policy_id = some setup →
    ∃ draws, G.circuit_specific_setup setup_circuit.synthesize draws =
      .ok (setup.proving_key, setup.verifying_key)

theorem keys_register {gen : ZkProofGenerator G} (h : KeysFromSetup gen) (policy : SafetyPolicy)
    (draws : G.Draws) : KeysFromSetup (gen.register_policy policy draws) := by
  intro policy_id setup hlookup
  unfold ZkProofGenerator.register_policy at hlookup
  -- a set-up that fails leaves the old keys where they are
  rcases hsetup : G.circuit_specific_setup setup_circuit.synthesize draws with e | ⟨pk, vk⟩
  · rw [hsetup] at hlookup
    exact h policy_id setup hlookup
  · rw [hsetup] at hlookup
    dsimp only at hlookup
    -- only the entry of the registered policy changes
    by_cases hid : policy_id = policy.id
    · rw [hid, AList.lookup_insert, Option.some.injEq] at hlookup
      rw [← hlookup]
      exact ⟨draws, hsetup⟩
    · rw [AList.lookup_insert_ne hid] at hlookup
      exact h policy_id setup hlookup

theorem keys_from_setup (calls : List (ZkCall G)) : KeysFromSetup (zk_run G calls).1 := by
  refine Mealy.exec_induction ZkProofGenerator.step (I := fun gen _ => KeysFromSetup gen) ?_ ?_
    calls
  · intro policy_id setup hlookup
    simp [ZkProofGenerator.new] at hlookup
  · intro gen log call h
    -- only `register_policy` stores keys
    cases call with
    | register_policy policy draws => exact keys_register h policy draws
    | generate_proof policy_id action_data execution_trace draws now => exact h

/-- With two values, and with no other number of them, the circuit that is proved has the
shape of the circuit the keys were set up for. An action without values is given one. -/
theorem proving_shape_iff (action_data : ActionData) :
    (proving_circuit action_data).synthesize.shape = setup_circuit.synthesize.shape ↔
      action_data.numeric_values.entries.length = 2 := by
  have hlen : action_data.values.length = action_data.numeric_values.entries.length := by
    rw [ActionData.values, List.length_map]
  have htwo : setup_circuit.values.length = 2 := rfl
  rw [circuit_shape_iff, htwo, ← hlen, proving_circuit]
  by_cases hempty : action_data.values.isEmpty = true
  · -- the circuit has the value `0` in place of none
    have hnil : action_data.values = [] := List.isEmpty_iff.mp hempty
    rw [hnil]
    decide
  · dsimp only
    rw [if_neg hempty]

/-- The proof is genuine: its bytes serialise what the prover made of the circuit of the
action under the keys stored for the policy, and that circuit has the shape of the one these
keys were set up for. -/
def GenuineProof (gen : ZkProofGenerator G) (policy_id : String) (action_data : ActionData)
    (draws : G.Draws) (p : ZkProof) : Prop :=
  ∃ setup setup_draws proof, gen.setup_keys.lookup policy_id = some setup ∧
    G.circuit_specific_setup setup_circuit.synthesize setup_draws =
      .ok (setup.proving_key, setup.verifying_key) ∧
    G.prove setup.proving_key (proving_circuit action_data).synthesize draws = .ok proof ∧
    p.proof_bytes = serialize_proof proof ∧
    (proving_circuit action_data).synthesize.shape = setup_circuit.synthesize.shape

/-- What a call of `generate_proof` promises about its bytes: a proof that it returns is
genuine, and where the prover fails it returns an error. -/
structure ProvesGenuinely (gen : ZkProofGenerator G) (policy_id : String)
    (action_data : ActionData) (execution_trace : List UInt8) (draws : G.Draws) (now : UInt64) :
    Prop where
  genuine : ∀ p, gen.generate_proof policy_id action_data execution_trace draws now = .ok p →
    GenuineProof gen policy_id action_data draws p
  fails : ∀ setup e, gen.setup_keys.lookup policy_id = some setup →
    G.prove setup.proving_key (proving_circuit action_data).synthesize draws = .error e →
      ∃ error, gen.generate_proof policy_id action_data execution_trace draws now = .error error

/-- **When the bytes are a proof.** On a generator reached by any calls, `generate_proof` is
genuine for an action just when this holds, should it get as far as the prover: the action
has two numeric values, and the prover succeeds. -/
theorem proof_bytes_genuine_iff (calls : List (ZkCall G)) (policy_id : String)
    (action_data : ActionData) (execution_trace : List UInt8) (draws : G.Draws) (now : UInt64) :
    ProvesGenuinely (zk_run G calls).1 policy_id action_data execution_trace draws now ↔
      ∀ policy setup, (zk_run G calls).1.policies.lookup policy_id = some policy →
        verify_constraints action_data policy.circuit_constraints = .ok true →
        (zk_run G calls).1.setup_keys.lookup policy_id = some setup →
          action_data.numeric_values.entries.length = 2 ∧
            ∃ proof, G.prove setup.proving_key (proving_circuit action_data).synthesize draws =
              .ok proof := by
  constructor
  · intro h policy setup hpolicy hverify hsetup
    -- nothing is in the way, so a proof is returned, and it is genuine
    obtain ⟨p, hp⟩ : ∃ p, (zk_run G calls).1.generate_proof policy_id action_data execution_trace
        draws now = .ok p := by
      rw [ZkProofGenerator.generate_proof, hpolicy]
      dsimp only
      rw [hverify, hsetup]
      exact ⟨_, rfl⟩
    obtain ⟨setup', -, proof, hsetup', -, hprove, -, hshape⟩ := h.genuine p hp
    rw [hsetup, Option.some.injEq] at hsetup'
    subst hsetup'
    exact ⟨(proving_shape_iff action_data).mp hshape, proof, hprove⟩
  · intro h
    refine ⟨?_, ?_⟩
    · intro p hp
      obtain ⟨policy, setup, hpolicy, hverify, hsetup, -, hbytes, -⟩ := generate_proof_ok hp
      obtain ⟨setup_draws, hkeys⟩ := keys_from_setup calls policy_id setup hsetup
      obtain ⟨htwo, proof, hprove⟩ := h policy setup hpolicy hverify hsetup
      rw [hprove] at hbytes
      exact ⟨setup, setup_draws, proof, hsetup, hkeys, hprove, hbytes,
        (proving_shape_iff action_data).mpr htwo⟩
    · intro setup e hsetup hfails
      -- a proof that is returned here would be of an action on which the prover succeeds
      rcases hresult : (zk_run G calls).1.generate_proof policy_id action_data execution_trace
        draws now with error | p
      · exact ⟨error, rfl⟩
      · obtain ⟨policy, setup', hpolicy, hverify, hsetup', -⟩ := generate_proof_ok hresult
        obtain ⟨-, proof, hprove⟩ := h policy setup' hpolicy hverify hsetup'
        rw [hsetup, Option.some.injEq] at hsetup'
        subst hsetup'
        rw [hfails] at hprove
        cases hprove

/-- An action under the limit, with its heading: two values. -/
def driving : ActionData := ⟨AList.insert "heading" 270 (AList.insert "speed" 50 ∅)⟩

/-- An action under the limit, with nothing else: one value. -/
def cruising : ActionData := ⟨AList.insert "speed" 50 ∅⟩

/-- An action with one value satisfies its policy and is proved, and the proof is not genuine:
it is for a circuit of another shape than the one the keys were set up for. -/
theorem cruising_proof_not_genuine :
    verify_constraints cruising speed_policy.circuit_constraints = .ok true ∧
      (∃ p proof, speed_generator.generate_proof "safety-001" cruising [] () 0 = .ok p ∧
        p.proof_bytes = serialize_proof proof) ∧
      (proving_circuit cruising).synthesize.shape ≠ setup_circuit.synthesize.shape ∧
      ¬ ProvesGenuinely speed_generator "safety-001" cruising [] () 0 := by
  have hshape : (proving_circuit cruising).synthesize.shape ≠ setup_circuit.synthesize.shape := by
    rw [Ne, proving_shape_iff]
    decide
  refine ⟨by decide, ⟨_, _, rfl, rfl⟩, hshape, ?_⟩
  intro h
  obtain ⟨-, -, -, -, -, -, -, hsame⟩ := h.genuine _ rfl
  exact hshape hsame

/-! ## What the verifier accepts

`verify_proof` looks the policy up and asks whether two lists are empty. It never sees a key,
so that a forgery needs no more than the name of a policy. The one below has two public
inputs, which no issued proof has, so that it is nobody's proof in any run. -/

/-- The content of `p` was returned by `generate_proof` for the policy of `p`, under the keys
that are stored for it now. -/
def Issued (gen : ZkProofGenerator G) (log : List (ZkEntry G)) (p : ZkProof) : Prop :=
  ∃ e ∈ log, ∃ action_data execution_trace draws now q,
    e.input = .generate_proof p.policy_id action_data execution_trace draws now ∧
    e.output = .generated (.ok q) ∧
    e.before.setup_keys.lookup p.policy_id = gen.setup_keys.lookup p.policy_id ∧
    q.proof_bytes = p.proof_bytes ∧ q.public_inputs = p.public_inputs ∧
    q.verification_key_hash = p.verification_key_hash

/-- The verifier accepts only what was issued. -/
def VerificationSound (gen : ZkProofGenerator G) (log : List (ZkEntry G)) : Prop :=
  ∀ p result, gen.verify_proof p = .ok result → result.valid = true → Issued gen log p

/-- The call is `register_policy`. -/
def ZkCall.registers : ZkCall G → Bool
  | .register_policy _ _ => true
  | _ => false

/-- An issued proof has one public input, the hash of its trace. -/
theorem issued_public_inputs {calls : List (ZkCall G)} {p : ZkProof}
    (h : Issued (zk_run G calls).1 (zk_run G calls).2 p) : p.public_inputs.length = 1 := by
  obtain ⟨e, he, action_data, execution_trace, draws, now, q, hin, hout, -, -, hpublic, -⟩ := h
  have hstep := Mealy.exec_output _ _ _ e he
  rw [hin, hout] at hstep
  simp only [ZkProofGenerator.step, ZkReply.generated.injEq] at hstep
  obtain ⟨-, -, -, -, -, -, -, hinputs, -⟩ := generate_proof_ok hstep.symm
  rw [← hpublic, hinputs, List.length_singleton]

theorem policies_register (gen : ZkProofGenerator G) (policy : SafetyPolicy) (draws : G.Draws) :
    (gen.register_policy policy draws).policies = gen.policies.insert policy.id policy := by
  unfold ZkProofGenerator.register_policy
  rcases G.circuit_specific_setup setup_circuit.synthesize draws with e | ⟨pk, vk⟩ <;> rfl

/-- A policy is registered in the state a run ends in when the run registered one. -/
theorem registered_iff (calls : List (ZkCall G)) :
    (∃ policy_id policy, (zk_run G calls).1.policies.lookup policy_id = some policy) ↔
      ∃ call ∈ calls, call.registers = true := by
  have hrun := Mealy.exec_induction ZkProofGenerator.step (s := ZkProofGenerator.new G)
    (I := fun gen log => (∃ policy_id policy, gen.policies.lookup policy_id = some policy) ↔
      ∃ call ∈ log.map Mealy.Entry.input, call.registers = true) ?_ ?_ calls
  · rw [Mealy.exec_inputs] at hrun
    simp only [List.mem_reverse] at hrun
    exact hrun
  · simp [ZkProofGenerator.new]
  · intro gen log call ih
    rw [List.map_cons, List.exists_mem_cons_iff]
    cases call with
    | register_policy policy draws =>
        refine ⟨fun _ => Or.inl rfl, fun _ => ⟨policy.id, policy, ?_⟩⟩
        change (gen.register_policy policy draws).policies.lookup policy.id = some policy
        rw [policies_register, AList.lookup_insert]
    | generate_proof policy_id action_data execution_trace draws now =>
        refine ih.trans ⟨Or.inr, ?_⟩
        rintro (h | h)
        · exact absurd h Bool.false_ne_true
        · exact h

/-- **What the verifier is worth.** It accepts only issued proofs in the runs that register
no policy, and in no other. -/
theorem verification_sound_iff (calls : List (ZkCall G)) :
    VerificationSound (zk_run G calls).1 (zk_run G calls).2 ↔
      ∀ call ∈ calls, call.registers = false := by
  constructor
  · intro hsound call hcall
    rw [Bool.eq_false_iff]
    intro hregisters
    obtain ⟨policy_id, policy, hpolicy⟩ := (registered_iff calls).mpr ⟨call, hcall, hregisters⟩
    -- two public inputs are one more than any issued proof has
    have hissued := hsound ⟨"", policy_id, [0], ["", ""], "", 0⟩ ⟨true, "", "",
      policy.circuit_constraints.length, policy.circuit_constraints.length⟩
      (by unfold ZkProofGenerator.verify_proof; rw [hpolicy]; rfl) rfl
    have hlen := issued_public_inputs hissued
    exact absurd hlen (by simp)
  · intro hnone p result hverify hvalid
    unfold ZkProofGenerator.verify_proof at hverify
    cases hpolicy : (zk_run G calls).1.policies.lookup p.policy_id with
    | none =>
        rw [hpolicy] at hverify
        cases hverify
    | some policy =>
        -- a policy that is found was registered by some call of the run
        obtain ⟨call, hcall, hregisters⟩ := (registered_iff calls).mp ⟨_, policy, hpolicy⟩
        rw [hnone call hcall] at hregisters
        cases hregisters

/-- A proof of one zero byte for a policy under which none was ever issued. -/
def forged_proof : ZkProof := ⟨"", "safety-001", [0], [""], "", 0⟩

theorem forged_proof_accepted :
    speed_generator.verify_proof forged_proof = .ok ⟨true, "", "", 1, 1⟩ ∧
      ¬ Issued speed_generator (zk_run .sized [.register_policy speed_policy ()]).2
        forged_proof := by
  refine ⟨by rfl, ?_⟩
  rintro ⟨e, he, action_data, execution_trace, draws, now, q, hin, -⟩
  rw [List.mem_singleton.mp he] at hin
  cases hin

end SovereignEdgeTee
