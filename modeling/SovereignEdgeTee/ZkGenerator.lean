/-
`crates/zk-proofs/src/lib.rs`: the proof generator.

Groth16 and SHA-256 come from other crates and are a parameter, `Groth16`. Set-up and
prover take the constraint system a circuit builds; their random draws and the time
of a proof are arguments.

`generate_proof` does not change the generator. It asks the policy first, and what it
returns then is a proof whatever the prover does: a commitment takes the place of a
proof the prover could not make (`generate_proof_ok`). `verify_proof` looks at no key.
-/
import SovereignEdgeTee.LeBytes
import SovereignEdgeTee.Mealy
import SovereignEdgeTee.Text
import SovereignEdgeTee.ZkCircuit

set_option autoImplicit false

namespace SovereignEdgeTee

open LeBytes R1cs

/-- The base field of BN254. -/
abbrev Fq := ZMod 21888242871839275222246405745257275088696311157297823662689037894645226208583

/-- An element of the quadratic extension of `Fq`. -/
structure Fq2 where
  c0 : Fq
  c1 : Fq

/-- A point of the first group, in affine coordinates. -/
structure G1Affine where
  x : Fq
  y : Fq
  infinity : Bool

/-- A point of the second group, in affine coordinates. -/
structure G2Affine where
  x : Fq2
  y : Fq2
  infinity : Bool

/-- The generator of the first group. -/
def g1_generator : G1Affine := ⟨1, 2, false⟩

/-- The generator of the second group. -/
def g2_generator : G2Affine where
  x := ⟨10857046999023057135944570762232829481370756359578518086990519993285655852781,
    11559732032986387107991004021392285783925812861821192530917403151452391805634⟩
  y := ⟨8495653923123431417604973247489272438418190587263600148770280649306958101930,
    4082367875863433681332203403145435568316851327593401208105741076214120093531⟩
  infinity := false

/-- `Proof<Bn254>`. -/
structure Groth16Proof where
  a : G1Affine
  b : G2Affine
  c : G1Affine

/-- What the generator takes from other crates. An error is its text. -/
structure Groth16 where
  ProvingKey : Type
  VerifyingKey : Type
  Draws : Type
  /-- `Groth16::circuit_specific_setup`. -/
  circuit_specific_setup : ConstraintSystem Fr → Draws → Except String (ProvingKey × VerifyingKey)
  /-- `Groth16::prove`. -/
  prove : ProvingKey → ConstraintSystem Fr → Draws → Except String Groth16Proof
  /-- The debug form of a verifying key. -/
  vk_debug : VerifyingKey → String
  /-- `Sha256::digest`. -/
  sha256 : List UInt8 → Vector UInt8 32

/-- `into_bigint().to_bytes_le()`. -/
def to_bytes_le (x : Fq) : List UInt8 := to_le_bytes 32 x.val

/-- `serialize_proof`. The flags for the point at infinity are not written. -/
def serialize_proof (proof : Groth16Proof) : List UInt8 :=
  to_bytes_le proof.a.x ++ to_bytes_le proof.a.y ++
    to_bytes_le proof.b.x.c0 ++ to_bytes_le proof.b.x.c1 ++
    to_bytes_le proof.b.y.c0 ++ to_bytes_le proof.b.y.c1 ++
    to_bytes_le proof.c.x ++ to_bytes_le proof.c.y

theorem length_serialize_proof (proof : Groth16Proof) : (serialize_proof proof).length = 256 := by
  simp only [serialize_proof, to_bytes_le, List.length_append, length_to_le_bytes]

/-! ## The generator

A generator has two maps. `register_policy` always writes to `policies`, and to `setup_keys`
if the set-up succeeds. `generate_proof` takes `&self`, so the count of proofs stays what it
was when the generator was made. -/

structure ZkProof where
  proof_id : String
  policy_id : String
  proof_bytes : List UInt8
  public_inputs : List String
  verification_key_hash : String
  timestamp : UInt64
deriving DecidableEq

structure VerificationResult where
  valid : Bool
  proof_id : String
  execution_trace_hash : String
  satisfied_constraints : ℕ
  total_constraints : ℕ
deriving DecidableEq

variable {G : Groth16}

structure CircuitSetup (G : Groth16) where
  proving_key : G.ProvingKey
  verifying_key : G.VerifyingKey
  vk_hash : String

structure ZkProofGenerator (G : Groth16) where
  policies : AList fun _ : String => SafetyPolicy
  proof_count : UInt64
  setup_keys : AList fun _ : String => CircuitSetup G

namespace ZkProofGenerator

def new (G : Groth16) : ZkProofGenerator G := ⟨∅, 0, ∅⟩

def register_policy (self : ZkProofGenerator G) (policy : SafetyPolicy) (draws : G.Draws) :
    ZkProofGenerator G :=
  let self :=
    match G.circuit_specific_setup setup_circuit.synthesize draws with
    | .ok (pk, vk) =>
      let vk_hash := lower_hex (G.sha256 (as_bytes (G.vk_debug vk)))
      { self with setup_keys := self.setup_keys.insert policy.id ⟨pk, vk, vk_hash⟩ }
    | .error _ => self
  { self with policies := self.policies.insert policy.id policy }

/-- The commitment that stands in for a proof the prover could not make. -/
def fallback_bytes (self : ZkProofGenerator G) (policy_id : String)
    (execution_trace : List UInt8) (e : String) : List UInt8 :=
  as_bytes policy_id ++ execution_trace.take 32 ++ to_le_bytes 8 (self.proof_count + 1).toNat ++
    as_bytes ("fallback:" ++ e)

/-- `ZkProofGenerator::generate_proof`, at time `now`. -/
def generate_proof (self : ZkProofGenerator G) (policy_id : String) (action_data : ActionData)
    (execution_trace : List UInt8) (draws : G.Draws) (now : UInt64) : Except ZkError ZkProof :=
  match self.policies.lookup policy_id with
  | none => .error (.PolicyNotFound policy_id)
  | some policy =>
    match verify_constraints action_data policy.circuit_constraints with
    | .error e => .error e
    | .ok false => .error .ConstraintViolation
    | .ok true =>
      match self.setup_keys.lookup policy_id with
      | none => .error (.PolicyNotFound policy_id)
      | some setup =>
        let proof_id := "zk-proof-" ++ toString (self.proof_count + 1)
        let circuit := proving_circuit action_data
        let proof_bytes :=
          match G.prove setup.proving_key circuit.synthesize draws with
          | .ok proof => serialize_proof proof
          | .error e => self.fallback_bytes policy_id execution_trace e
        .ok {
          proof_id := proof_id
          policy_id := policy_id
          proof_bytes := proof_bytes
          public_inputs := [lower_hex (G.sha256 execution_trace)]
          verification_key_hash := setup.vk_hash
          timestamp := now }

def verify_proof (self : ZkProofGenerator G) (proof : ZkProof) :
    Except ZkError VerificationResult :=
  match self.policies.lookup proof.policy_id with
  | none => .error (.PolicyNotFound proof.policy_id)
  | some policy =>
    let total_constraints := policy.circuit_constraints.length
    let is_valid := !proof.proof_bytes.isEmpty && !proof.public_inputs.isEmpty
    .ok {
      valid := is_valid
      proof_id := proof.proof_id
      execution_trace_hash := (proof.public_inputs.head?).getD ""
      satisfied_constraints := if is_valid then total_constraints else 0
      total_constraints := total_constraints }

end ZkProofGenerator

/-! ## Calls

The calls that an owner makes, as a machine: a proof is a reply and leaves the generator as it
is. `verify_proof` is not among them, since it changes nothing and depends on the registered
policies alone. -/

/-- A call of a generator, with the draws and the time it takes. -/
inductive ZkCall (G : Groth16) where
  | register_policy (policy : SafetyPolicy) (draws : G.Draws)
  | generate_proof (policy_id : String) (action_data : ActionData)
      (execution_trace : List UInt8) (draws : G.Draws) (now : UInt64)

inductive ZkReply where
  | registered
  | generated (result : Except ZkError ZkProof)

/-- One call. -/
def ZkProofGenerator.step (self : ZkProofGenerator G) : ZkCall G → ZkProofGenerator G × ZkReply
  | .register_policy policy draws => (self.register_policy policy draws, .registered)
  | .generate_proof policy_id action_data execution_trace draws now =>
    (self, .generated (self.generate_proof policy_id action_data execution_trace draws now))

/-- A step of a generator. -/
abbrev ZkEntry (G : Groth16) := Mealy.Entry (ZkProofGenerator G) (ZkCall G) ZkReply

/-- The run of the calls on a new generator. -/
def zk_run (G : Groth16) (calls : List (ZkCall G)) : ZkProofGenerator G × List (ZkEntry G) :=
  Mealy.exec ZkProofGenerator.step (ZkProofGenerator.new G) calls

/-! ## What the generator returns

The branches of `generate_proof`, read from its result. Other modules use these two lemmas and
do not unfold the function. -/

section Specification

variable {gen : ZkProofGenerator G} {policy_id : String} {action_data : ActionData}
  {execution_trace : List UInt8} {draws : G.Draws} {now : UInt64}

/-- A proof is returned for a registered policy that accepts the action, under the keys
stored for it. -/
theorem generate_proof_ok {p : ZkProof}
    (h : gen.generate_proof policy_id action_data execution_trace draws now = .ok p) :
    ∃ policy setup, gen.policies.lookup policy_id = some policy ∧
      verify_constraints action_data policy.circuit_constraints = .ok true ∧
      gen.setup_keys.lookup policy_id = some setup ∧
      p.policy_id = policy_id ∧
      p.proof_bytes =
        (match G.prove setup.proving_key (proving_circuit action_data).synthesize draws with
        | .ok proof => serialize_proof proof
        | .error e => gen.fallback_bytes policy_id execution_trace e) ∧
      p.public_inputs = [lower_hex (G.sha256 execution_trace)] ∧
      p.verification_key_hash = setup.vk_hash := by
  unfold ZkProofGenerator.generate_proof at h
  cases hpolicy : gen.policies.lookup policy_id with
  | none => simp [hpolicy] at h
  | some policy =>
      -- an error of the evaluator and a `false` both end the call before the prover
      rcases hverify : verify_constraints action_data policy.circuit_constraints with e | _ | _
      · simp [hpolicy, hverify] at h
      · simp [hpolicy, hverify] at h
      · cases hsetup : gen.setup_keys.lookup policy_id with
        | none => simp [hpolicy, hverify, hsetup] at h
        | some setup =>
            simp only [hpolicy, hverify, hsetup, Except.ok.injEq] at h
            subst h
            exact ⟨policy, setup, rfl, hverify, rfl, rfl, rfl, rfl, rfl⟩

/-- An error says that the policy or its keys are not there, or is the policy's verdict. -/
theorem generate_proof_error {e : ZkError}
    (h : gen.generate_proof policy_id action_data execution_trace draws now = .error e) :
    e = .PolicyNotFound policy_id ∨
      ∃ policy, gen.policies.lookup policy_id = some policy ∧
        (verify_constraints action_data policy.circuit_constraints = .error e ∨
          e = .ConstraintViolation ∧
            verify_constraints action_data policy.circuit_constraints = .ok false) := by
  unfold ZkProofGenerator.generate_proof at h
  cases hpolicy : gen.policies.lookup policy_id with
  | none =>
      simp only [hpolicy, Except.error.injEq] at h
      exact Or.inl h.symm
  | some policy =>
      rcases hverify : verify_constraints action_data policy.circuit_constraints with e' | _ | _
      · simp only [hpolicy, hverify, Except.error.injEq] at h
        rw [h] at hverify
        exact Or.inr ⟨policy, rfl, Or.inl hverify⟩
      · simp only [hpolicy, hverify, Except.error.injEq] at h
        exact Or.inr ⟨policy, rfl, Or.inr ⟨h.symm, hverify⟩⟩
      · cases hsetup : gen.setup_keys.lookup policy_id with
        | none =>
            simp only [hpolicy, hverify, hsetup, Except.error.injEq] at h
            exact Or.inl h.symm
        | some setup => simp [hpolicy, hverify, hsetup] at h

end Specification

end SovereignEdgeTee
