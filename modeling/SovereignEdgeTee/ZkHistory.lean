/-
A proof generator as its history: what its two maps hold, what it answers, and what becomes of
the proofs it issued.

`proof_of` says what `generate_proof` answers from the registrations so far: what it answers on
a generator that was given two things, the policy of the last registration of the id, and the
keys of the last one whose set-up succeeded, which may be an older one. A policy is replaced but
never removed, so a proof is never stranded: `verify_proof` accepts what was issued at every later
moment. It counts the constraints of the policy of that moment, and not of the one that was
proved.
-/
import SovereignEdgeTee.ZkRegistry

set_option autoImplicit false

namespace SovereignEdgeTee

open Mealy

variable {G : Groth16}

def ZkProofGenerator.policy_count (self : ZkProofGenerator G) : ℕ := self.policies.keys.length

/-! ## What the history holds

A registration always replaces the policy of its id, and replaces the keys only if its set-up
succeeds. So the policy and the keys are read off the log each by its own recursion, and may
come from two registrations. -/

/-- The policy of the last registration of `policy_id`. -/
def last_policy (policy_id : String) (log : List (ZkEntry G)) : Option SafetyPolicy :=
  (last_registration policy_id log).map Prod.fst

/-- The keys of the last registration of `policy_id` whose set-up succeeded. -/
def last_setup (policy_id : String) : List (ZkEntry G) → Option (CircuitSetup G)
  | [] => none
  | e :: older =>
    match e.input with
    | .register_policy policy draws =>
      if policy.id = policy_id then (generated_setup G draws).or (last_setup policy_id older)
      else last_setup policy_id older
    | .generate_proof _ _ _ _ _ => last_setup policy_id older

/-- The id of the policy a call registers. -/
def ZkCall.registered : ZkCall G → Option String
  | .register_policy policy _ => some policy.id
  | .generate_proof _ _ _ _ _ => none

/-- The ids registered in a log, newest first. -/
def registered_ids (log : List (ZkEntry G)) : List String :=
  log.filterMap fun e => e.input.registered

/-- The proof a step returned. -/
def ZkEntry.issued (e : ZkEntry G) : Option ZkProof :=
  match e.output with
  | .generated (.ok p) => some p
  | _ => none

/-- The proofs returned in a log, newest first. -/
def issued_proofs (log : List (ZkEntry G)) : List ZkProof := log.filterMap ZkEntry.issued

/-- A generator that holds what the calls of `older` have left under `policy_id`, and nothing
else. -/
def remembered (older : List (ZkEntry G)) (policy_id : String) : ZkProofGenerator G where
  policies := (last_policy policy_id older).elim ∅ fun policy =>
    AList.insert policy_id policy ∅
  proof_count := 0
  setup_keys := (last_setup policy_id older).elim ∅ fun setup => AList.insert policy_id setup ∅

/-- What `generate_proof` answers after the calls of `older`: what it answers on a generator that
remembers nothing but the last policy and the last keys of this id. -/
def proof_of (older : List (ZkEntry G)) (policy_id : String) (action_data : ActionData)
    (execution_trace : List UInt8) (draws : G.Draws) (now : UInt64) : Except ZkError ZkProof :=
  (remembered older policy_id).generate_proof policy_id action_data execution_trace draws now

/-- A proof is asked for and answered as the history has it. -/
def ProvedFrom (older : List (ZkEntry G)) (e : ZkEntry G) : Prop :=
  ∀ policy_id action_data execution_trace draws now,
    e.input = .generate_proof policy_id action_data execution_trace draws now →
      e.output = .generated (proof_of older policy_id action_data execution_trace draws now)

/-- A proof that has something in it. -/
structure Filled (p : ZkProof) : Prop where
  proof_id : p.proof_id = "zk-proof-1"
  proof_bytes : p.proof_bytes.isEmpty = false
  public_inputs : ∃ trace_hash, p.public_inputs = [trace_hash]

/-- The generator is as its history has it, and there is a policy for every proof issued. -/
structure FromHistory (gen : ZkProofGenerator G) (log : List (ZkEntry G)) : Prop where
  policies : ∀ policy_id, gen.policies.lookup policy_id = last_policy policy_id log
  setup_keys : ∀ policy_id, gen.setup_keys.lookup policy_id = last_setup policy_id log
  keys : ∀ policy_id, policy_id ∈ gen.policies ↔ policy_id ∈ registered_ids log
  proof_count : gen.proof_count = 0
  issued : ∀ p ∈ issued_proofs log, Filled p ∧ p.policy_id ∈ gen.policies

/-! ## Steps

One call keeps what the generator holds and what its history says together. Both registration
cases are about one id: under the other ids the maps stay as they were, and so does what the
log says of them. -/

/-- A fallback commitment has the counter in it, at least. -/
theorem fallback_bytes_isEmpty (gen : ZkProofGenerator G) (policy_id : String)
    (execution_trace : List UInt8) (e : String) :
    (gen.fallback_bytes policy_id execution_trace e).isEmpty = false := by
  rw [List.isEmpty_eq_false_iff, ← List.length_pos_iff, ZkProofGenerator.fallback_bytes]
  rw [List.length_append, List.length_append, LeBytes.length_to_le_bytes]
  omega

/-- The answer depends on the generator through what it holds under the id, and the counter. -/
theorem generate_proof_congr {gen other : ZkProofGenerator G} {policy_id : String}
    (hpolicy : gen.policies.lookup policy_id = other.policies.lookup policy_id)
    (hsetup : gen.setup_keys.lookup policy_id = other.setup_keys.lookup policy_id)
    (hcount : gen.proof_count = other.proof_count) (action_data : ActionData)
    (execution_trace : List UInt8) (draws : G.Draws) (now : UInt64) :
    gen.generate_proof policy_id action_data execution_trace draws now =
      other.generate_proof policy_id action_data execution_trace draws now := by
  unfold ZkProofGenerator.generate_proof ZkProofGenerator.fallback_bytes
  rw [hpolicy, hsetup, hcount]

/-- A proof is numbered by the counter. -/
theorem generate_proof_id {gen : ZkProofGenerator G} {policy_id : String}
    {action_data : ActionData} {execution_trace : List UInt8} {draws : G.Draws} {now : UInt64}
    {p : ZkProof}
    (h : gen.generate_proof policy_id action_data execution_trace draws now = .ok p) :
    p.proof_id = "zk-proof-" ++ toString (gen.proof_count + 1) := by
  unfold ZkProofGenerator.generate_proof at h
  split at h
  · cases h
  · split at h
    · cases h
    · cases h
    · split at h
      · cases h
      · rw [← Except.ok.inj h]

theorem remembered_policy (older : List (ZkEntry G)) (policy_id : String) :
    (remembered older policy_id).policies.lookup policy_id = last_policy policy_id older := by
  rw [remembered]
  cases last_policy policy_id older with
  | none => rfl
  | some policy => exact AList.lookup_insert _

theorem remembered_setup (older : List (ZkEntry G)) (policy_id : String) :
    (remembered older policy_id).setup_keys.lookup policy_id = last_setup policy_id older := by
  rw [remembered]
  cases last_setup policy_id older with
  | none => rfl
  | some setup => exact AList.lookup_insert _

theorem serialize_proof_isEmpty (proof : Groth16Proof) :
    (serialize_proof proof).isEmpty = false := by
  rw [List.isEmpty_eq_false_iff, ← List.length_pos_iff, length_serialize_proof]
  decide

namespace FromHistory

variable {gen : ZkProofGenerator G} {log : List (ZkEntry G)}

/-- Proofs are made from the registrations. -/
theorem proof_eq (h : FromHistory gen log) (policy_id : String) (action_data : ActionData)
    (execution_trace : List UInt8) (draws : G.Draws) (now : UInt64) :
    gen.generate_proof policy_id action_data execution_trace draws now =
      proof_of log policy_id action_data execution_trace draws now := by
  refine generate_proof_congr ?_ ?_ h.proof_count action_data execution_trace draws now
  · rw [h.policies, remembered_policy]
  · rw [h.setup_keys, remembered_setup]

/-- A proof that is returned has something in it, and is for a policy that is there. -/
theorem filled (h : FromHistory gen log) {policy_id : String} {action_data : ActionData}
    {execution_trace : List UInt8} {draws : G.Draws} {now : UInt64} {p : ZkProof}
    (hproof : gen.generate_proof policy_id action_data execution_trace draws now = .ok p) :
    Filled p ∧ p.policy_id ∈ gen.policies := by
  obtain ⟨policy, setup, hpolicy, -, -, hid, hbytes, hinputs, -⟩ := generate_proof_ok hproof
  refine ⟨⟨?_, ?_, ⟨_, hinputs⟩⟩, ?_⟩
  · rw [generate_proof_id hproof, h.proof_count]
    rfl
  · rw [hbytes]
    split
    · exact serialize_proof_isEmpty _
    · exact fallback_bytes_isEmpty gen _ _ _
  · rw [hid, ← AList.lookup_isSome, hpolicy]
    rfl

/-- A registration becomes the last one of its id. -/
theorem register (h : FromHistory gen log) (policy : SafetyPolicy) (draws : G.Draws) :
    FromHistory (gen.register_policy policy draws)
      (entry ZkProofGenerator.step gen (.register_policy policy draws) :: log) := by
  have hids : registered_ids
      (entry ZkProofGenerator.step gen (.register_policy policy draws) :: log)
      = policy.id :: registered_ids log := List.filterMap_cons_some rfl
  have hissued : issued_proofs
      (entry ZkProofGenerator.step gen (.register_policy policy draws) :: log)
      = issued_proofs log := List.filterMap_cons_none rfl
  refine ⟨?_, ?_, ?_, ?_, ?_⟩
  · intro policy_id
    rw [policies_register, last_policy]
    by_cases hid : policy.id = policy_id
    · have hlast : last_registration policy_id
          (entry ZkProofGenerator.step gen (.register_policy policy draws) :: log) =
          some (policy, draws) := if_pos hid
      rw [hlast, ← hid, AList.lookup_insert, Option.map_some]
    · have hlast : last_registration policy_id
          (entry ZkProofGenerator.step gen (.register_policy policy draws) :: log) =
          last_registration policy_id log := if_neg hid
      rw [hlast, AList.lookup_insert_ne (Ne.symm hid)]
      exact h.policies policy_id
  · intro policy_id
    by_cases hid : policy.id = policy_id
    · have hlast : last_setup policy_id
          (entry ZkProofGenerator.step gen (.register_policy policy draws) :: log) =
          (generated_setup G draws).or (last_setup policy_id log) := if_pos hid
      -- a set-up that fails leaves the keys of the one before
      rw [hlast, ← hid, setup_keys_register, h.setup_keys]
    · have hlast : last_setup policy_id
          (entry ZkProofGenerator.step gen (.register_policy policy draws) :: log) =
          last_setup policy_id log := if_neg hid
      rw [hlast, setup_keys_register_ne gen policy draws (Ne.symm hid)]
      exact h.setup_keys policy_id
  · intro policy_id
    rw [policies_register, AList.mem_insert, hids, List.mem_cons, h.keys]
  · exact (register_policy_proof_count gen policy draws).trans h.proof_count
  · rw [hissued, policies_register]
    -- a policy may be replaced, but its id stays
    intro p hp
    obtain ⟨hfilled, hpolicy⟩ := h.issued p hp
    exact ⟨hfilled, (AList.mem_insert _).mpr (Or.inr hpolicy)⟩

/-- A proof changes nothing, and joins the issued ones. -/
theorem generate (h : FromHistory gen log) (policy_id : String) (action_data : ActionData)
    (execution_trace : List UInt8) (draws : G.Draws) (now : UInt64) :
    FromHistory gen (entry ZkProofGenerator.step gen
      (.generate_proof policy_id action_data execution_trace draws now) :: log) := by
  have hids : registered_ids (entry ZkProofGenerator.step gen
      (.generate_proof policy_id action_data execution_trace draws now) :: log)
      = registered_ids log := List.filterMap_cons_none rfl
  refine ⟨h.policies, h.setup_keys, ?_, h.proof_count, ?_⟩
  · rw [hids]
    exact h.keys
  · intro p hp
    rw [issued_proofs, List.filterMap_cons] at hp
    cases hissued : ZkEntry.issued (entry ZkProofGenerator.step gen
        (.generate_proof policy_id action_data execution_trace draws now)) with
    | none =>
        rw [hissued] at hp
        exact h.issued p hp
    | some newest =>
        rw [hissued] at hp
        rcases List.mem_cons.mp hp with rfl | hp
        · rw [ZkEntry.issued] at hissued
          split at hissued
          · rename_i p' houtput
            obtain rfl := Option.some.inj hissued
            exact h.filled (ZkReply.generated.inj houtput)
          · cases hissued
        · exact h.issued p hp

/-- There are as many policies as different ids were registered. -/
theorem policy_count (h : FromHistory gen log) :
    gen.policy_count = (registered_ids log).dedup.length := by
  refine List.Perm.length_eq ?_
  refine (List.perm_ext_iff_of_nodup gen.policies.keys_nodup (List.nodup_dedup _)).mpr ?_
  intro policy_id
  rw [List.mem_dedup, ← h.keys, AList.mem_keys]

/-- A proof that was issued is accepted. -/
theorem verify (h : FromHistory gen log) {p : ZkProof} (hp : p ∈ issued_proofs log) :
    ∃ policy, last_policy p.policy_id log = some policy ∧
      gen.verify_proof p = .ok
        { valid := true
          proof_id := "zk-proof-1"
          execution_trace_hash := (p.public_inputs.head?).getD ""
          satisfied_constraints := policy.circuit_constraints.length
          total_constraints := policy.circuit_constraints.length } := by
  obtain ⟨hfilled, hpolicy⟩ := h.issued p hp
  obtain ⟨policy, hlookup⟩ := Option.isSome_iff_exists.mp (AList.lookup_isSome.mpr hpolicy)
  refine ⟨policy, (h.policies p.policy_id).symm.trans hlookup, ?_⟩
  obtain ⟨trace_hash, hinputs⟩ := hfilled.public_inputs
  have hvalid : (!p.proof_bytes.isEmpty && !p.public_inputs.isEmpty) = true := by
    rw [hfilled.proof_bytes, hinputs]
    rfl
  rw [ZkProofGenerator.verify_proof, hlookup]
  dsimp only
  rw [hvalid, hfilled.proof_id, if_pos rfl]

end FromHistory

/-! ## Runs

`FromHistory` holds of a new generator and an empty log, so it holds in every run; that each
step is answered from the log before it is the guarded form of the same induction. -/

theorem from_history_new (G : Groth16) : FromHistory (ZkProofGenerator.new G) [] := by
  refine ⟨fun _ => rfl, fun _ => rfl, ?_, rfl, ?_⟩
  · intro policy_id
    exact iff_of_false (AList.notMem_empty policy_id) List.not_mem_nil
  · intro p hp
    cases hp

theorem from_history_step (gen : ZkProofGenerator G) (log : List (ZkEntry G)) (call : ZkCall G)
    (h : FromHistory gen log) :
    FromHistory (gen.step call).1 (entry ZkProofGenerator.step gen call :: log) := by
  cases call with
  | register_policy policy draws => exact h.register policy draws
  | generate_proof policy_id action_data execution_trace draws now =>
      exact h.generate policy_id action_data execution_trace draws now

/-- **A generator is its history.** In every run each proof is granted or refused as the
registrations before it have it, for the policy registered last and under the keys set up last;
there are as many policies as different ids were registered; and each proof issued at any time
is accepted at the end, with every constraint of the policy registered last counted as
satisfied. -/
theorem generator_history (calls : List (ZkCall G)) :
    let run := zk_run G calls
    Guarded ProvedFrom run.2 ∧
      run.1.policy_count = (registered_ids run.2).dedup.length ∧
      ∀ p ∈ issued_proofs run.2, ∃ policy, last_policy p.policy_id run.2 = some policy ∧
        run.1.verify_proof p = .ok
          { valid := true
            proof_id := "zk-proof-1"
            execution_trace_hash := (p.public_inputs.head?).getD ""
            satisfied_constraints := policy.circuit_constraints.length
            total_constraints := policy.circuit_constraints.length } := by
  intro run
  have hfrom : FromHistory run.1 run.2 :=
    exec_induction ZkProofGenerator.step (from_history_new G) from_history_step calls
  refine ⟨?_, hfrom.policy_count, fun p hp => hfrom.verify hp⟩
  refine exec_guarded ZkProofGenerator.step (from_history_new G) from_history_step ?_ calls
  intro gen log call h policy_id action_data execution_trace draws now hinput
  have hcall : call = .generate_proof policy_id action_data execution_trace draws now := hinput
  rw [hcall]
  exact congrArg ZkReply.generated
    (h.proof_eq policy_id action_data execution_trace draws now)

end SovereignEdgeTee
