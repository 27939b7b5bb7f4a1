/-
What a proof generator keeps from call to call: a counter, and for each policy id a policy
and a pair of keys.

The counter is read for every proof and never written, so all proofs of a run have the
same id (`proof_ids_eq`). The policies and the keys are two maps. A registration always
writes the first and, when its set-up fails, leaves in the second what an older
registration put there.
-/
import SovereignEdgeTee.ZkGuarantees

set_option autoImplicit false

namespace SovereignEdgeTee

open Mealy

variable {G : Groth16}

/-! ## Proof ids

`generate_proof` makes the id from the counter plus one. Since no call writes the counter, the
invariant of a run is that it is zero, and every id is the same. `proves` says which calls get
as far as an id. -/

/-- `generate_proof` gets as far as making a proof: the policy is there and accepts the
action, and there are keys for it. -/
def ZkProofGenerator.proves (gen : ZkProofGenerator G) : ZkCall G → Bool
  | .generate_proof policy_id action_data _ _ _ =>
    match gen.policies.lookup policy_id with
    | none => false
    | some policy =>
      match verify_constraints action_data policy.circuit_constraints with
      | .ok true => (gen.setup_keys.lookup policy_id).isSome
      | _ => false
  | .register_policy _ _ => false

/-- The id of the proof a step returned. -/
def ZkEntry.proof_id (e : ZkEntry G) : Option String :=
  match e.output with
  | .generated (.ok p) => some p.proof_id
  | _ => none

/-- The ids of the proofs returned in a run. -/
def proof_ids (log : List (ZkEntry G)) : List String := log.filterMap ZkEntry.proof_id

/-- The calls of a run that got as far as making a proof. -/
def proving_calls (log : List (ZkEntry G)) : ℕ := log.countP fun e => e.before.proves e.input

/-- A proof is returned just when there is nothing in the way, and its id is the successor
of the counter. -/
theorem proof_id_step (gen : ZkProofGenerator G) (call : ZkCall G) :
    ZkEntry.proof_id (entry ZkProofGenerator.step gen call) =
      if gen.proves call then some ("zk-proof-" ++ toString (gen.proof_count + 1)) else none := by
  cases call with
  | register_policy policy draws => rfl
  | generate_proof policy_id action_data execution_trace draws now =>
      have houtput : (entry ZkProofGenerator.step gen
          (.generate_proof policy_id action_data execution_trace draws now)).output
          = .generated (gen.generate_proof policy_id action_data execution_trace draws now) := rfl
      rw [ZkEntry.proof_id, houtput, ZkProofGenerator.generate_proof, ZkProofGenerator.proves]
      -- the tests of the call, in the order of the source; each that fails returns an error
      rcases gen.policies.lookup policy_id with _ | policy
      · rfl
      · rcases hverify : verify_constraints action_data policy.circuit_constraints with e | _ | _
        · simp only [hverify]
          rfl
        · simp only [hverify]
          rfl
        · rcases gen.setup_keys.lookup policy_id with _ | setup
          · simp only [hverify]
            rfl
          · simp only [hverify]
            rfl

theorem register_policy_proof_count (gen : ZkProofGenerator G) (policy : SafetyPolicy)
    (draws : G.Draws) : (gen.register_policy policy draws).proof_count = gen.proof_count := by
  rw [ZkProofGenerator.register_policy]
  split <;> rfl

/-- Nothing writes the counter. -/
theorem step_proof_count (gen : ZkProofGenerator G) (call : ZkCall G) :
    (gen.step call).1.proof_count = gen.proof_count := by
  cases call with
  | register_policy policy draws => exact register_policy_proof_count gen policy draws
  | generate_proof policy_id action_data execution_trace draws now => rfl

/-- Every proof of a run has the id of the first. -/
theorem proof_ids_eq (calls : List (ZkCall G)) :
    proof_ids (zk_run G calls).2
      = List.replicate (proving_calls (zk_run G calls).2) "zk-proof-1" := by
  have hrun := exec_induction ZkProofGenerator.step (s := ZkProofGenerator.new G)
    (I := fun gen log => gen.proof_count = 0 ∧
      proof_ids log = List.replicate (proving_calls log) "zk-proof-1") ⟨rfl, rfl⟩ ?_ calls
  · exact hrun.2
  · rintro gen log call ⟨hcount, ih⟩
    have hid := proof_id_step gen call
    refine ⟨(step_proof_count gen call).trans hcount, ?_⟩
    rw [proof_ids] at ih ⊢
    -- one more id, and one more call that proves, or none of both
    by_cases hproves : gen.proves call = true
    · have hone : "zk-proof-" ++ toString (gen.proof_count + 1) = "zk-proof-1" := by
        rw [hcount]
        rfl
      rw [if_pos hproves, hone] at hid
      have hcalls : proving_calls (entry ZkProofGenerator.step gen call :: log)
          = proving_calls log + 1 := List.countP_cons_of_pos hproves
      rw [List.filterMap_cons_some hid, ih, hcalls, List.replicate_succ]
    · rw [if_neg hproves] at hid
      have hcalls : proving_calls (entry ZkProofGenerator.step gen call :: log)
          = proving_calls log := List.countP_cons_of_neg hproves
      rw [List.filterMap_cons_none hid, ih, hcalls]

/-- **When proof ids are distinct.** The proofs of a run have different ids just when the
run makes at most one. -/
theorem proof_ids_nodup_iff (calls : List (ZkCall G)) :
    (proof_ids (zk_run G calls).2).Nodup ↔ proving_calls (zk_run G calls).2 ≤ 1 := by
  rw [proof_ids_eq]
  exact List.nodup_replicate

/-- Two proofs of one run, of different actions, under one id. -/
theorem proof_ids_repeat :
    let log := (zk_run .sized [.register_policy speed_policy (),
      .generate_proof "safety-001" driving [1] () 0,
      .generate_proof "safety-001" cruising [2] () 1]).2
    proof_ids log = ["zk-proof-1", "zk-proof-1"] ∧ ¬ (proof_ids log).Nodup :=
  ⟨rfl, fun h => absurd h (by decide)⟩

/-! ## Policies and keys

Both maps are keyed by the policy id, and one registration writes both of them, the keys
first. If its set-up fails it goes on to the second write all the same. Then the id has a new
policy and the keys of an older registration, or no keys if there were none. `Paired` is the
invariant that is lost there, and `paired_step` says at which step exactly. -/

/-- The keys a registration with these draws generates, if its set-up succeeds. -/
def generated_setup (G : Groth16) (draws : G.Draws) : Option (CircuitSetup G) :=
  match G.circuit_specific_setup setup_circuit.synthesize draws with
  | .ok (pk, vk) => some ⟨pk, vk, lower_hex (G.sha256 (as_bytes (G.vk_debug vk)))⟩
  | .error _ => none

/-- The policy and the draws of the last registration of `policy_id`. -/
def last_registration (policy_id : String) :
    List (ZkEntry G) → Option (SafetyPolicy × G.Draws)
  | [] => none
  | e :: older =>
    match e.input with
    | .register_policy policy draws =>
      if policy.id = policy_id then some (policy, draws) else last_registration policy_id older
    | .generate_proof _ _ _ _ _ => last_registration policy_id older

/-- The keys of every id were generated by the last registration of that id, which is the
one that stored its policy. -/
def Paired (gen : ZkProofGenerator G) (log : List (ZkEntry G)) : Prop :=
  ∀ policy_id setup, gen.setup_keys.lookup policy_id = some setup →
    ∃ policy draws, last_registration policy_id log = some (policy, draws) ∧
      gen.policies.lookup policy_id = some policy ∧ generated_setup G draws = some setup

/-- A set-up of the step fails only for an id without keys. -/
def FailsWithoutKeys (_older : List (ZkEntry G)) (e : ZkEntry G) : Prop :=
  ∀ policy draws, e.input = .register_policy policy draws → generated_setup G draws = none →
    e.before.setup_keys.lookup policy.id = none

section Registration

variable (gen : ZkProofGenerator G) (policy : SafetyPolicy) (draws : G.Draws)

/-- After a registration the keys of its id are those it generated, or else the old ones. -/
theorem setup_keys_register :
    (gen.register_policy policy draws).setup_keys.lookup policy.id
      = (generated_setup G draws).or (gen.setup_keys.lookup policy.id) := by
  rw [ZkProofGenerator.register_policy, generated_setup]
  rcases G.circuit_specific_setup setup_circuit.synthesize draws with e | ⟨pk, vk⟩
  · exact Option.none_or.symm
  · rw [Option.some_or]
    exact AList.lookup_insert _

theorem setup_keys_register_ne {policy_id : String} (h : policy_id ≠ policy.id) :
    (gen.register_policy policy draws).setup_keys.lookup policy_id
      = gen.setup_keys.lookup policy_id := by
  rw [ZkProofGenerator.register_policy]
  rcases G.circuit_specific_setup setup_circuit.synthesize draws with e | ⟨pk, vk⟩
  · rfl
  · exact AList.lookup_insert_ne h

variable {gen} {log : List (ZkEntry G)}

/-- An id that is not registered keeps its pair. -/
theorem paired_other (h : Paired gen log) {policy_id : String} (hid : policy_id ≠ policy.id)
    (setup : CircuitSetup G)
    (hsetup : (gen.register_policy policy draws).setup_keys.lookup policy_id = some setup) :
    ∃ policy' draws',
      last_registration policy_id
          (entry ZkProofGenerator.step gen (.register_policy policy draws) :: log)
        = some (policy', draws') ∧
      (gen.register_policy policy draws).policies.lookup policy_id = some policy' ∧
      generated_setup G draws' = some setup := by
  rw [setup_keys_register_ne gen policy draws hid] at hsetup
  obtain ⟨policy', draws', hlast, hpolicy, hgenerated⟩ := h policy_id setup hsetup
  refine ⟨policy', draws', ?_, ?_, hgenerated⟩
  · exact (if_neg (Ne.symm hid)).trans hlast
  · rw [policies_register, AList.lookup_insert_ne hid]
    exact hpolicy

/-- A registration pairs its policy with its own keys, or with none. -/
theorem paired_register (h : Paired gen log) :
    Paired (gen.register_policy policy draws)
        (entry ZkProofGenerator.step gen (.register_policy policy draws) :: log) ↔
      (generated_setup G draws = none → gen.setup_keys.lookup policy.id = none) := by
  have hlast : last_registration policy.id
      (entry ZkProofGenerator.step gen (.register_policy policy draws) :: log)
      = some (policy, draws) := if_pos rfl
  have hkeys := setup_keys_register gen policy draws
  constructor
  · -- keys left under the id would have to come from a set-up that failed
    intro hpaired hfail
    rw [hfail, Option.none_or] at hkeys
    rw [← hkeys, Option.eq_none_iff_forall_not_mem]
    intro setup hsetup
    obtain ⟨policy', draws', hlast', -, hgenerated⟩ := hpaired policy.id setup hsetup
    rw [hlast, Option.some.injEq, Prod.mk.injEq] at hlast'
    rw [← hlast'.2, hfail] at hgenerated
    cases hgenerated
  · intro hfails policy_id setup hsetup
    by_cases hid : policy_id = policy.id
    · subst hid
      refine ⟨policy, draws, hlast, ?_, ?_⟩
      · rw [policies_register, AList.lookup_insert]
      · rw [hkeys] at hsetup
        -- if the set-up has failed there were no keys, so the keys that are there are the
        -- new ones
        rcases hgenerated : generated_setup G draws with _ | generated
        · rw [hgenerated, hfails hgenerated] at hsetup
          cases hsetup
        · rw [hgenerated, Option.some_or] at hsetup
          exact hsetup
    · exact paired_other policy draws h hid setup hsetup

end Registration

theorem paired_step (gen : ZkProofGenerator G) (log : List (ZkEntry G)) (call : ZkCall G)
    (h : Paired gen log) :
    Paired (gen.step call).1 (entry ZkProofGenerator.step gen call :: log) ↔
      FailsWithoutKeys log (entry ZkProofGenerator.step gen call) := by
  cases call with
  | register_policy policy draws =>
      apply (paired_register policy draws h).trans
      constructor
      · rintro hfails policy' draws' hinput
        obtain ⟨rfl, rfl⟩ := ZkCall.register_policy.inj hinput
        exact hfails
      · intro hfails
        exact hfails policy draws rfl
  | generate_proof policy_id action_data execution_trace draws now =>
      refine ⟨?_, fun _ => h⟩
      -- a proof registers nothing, and changes no map
      intro _ policy draws' hinput
      cases hinput

/-- **When policies and keys stay paired.** Throughout a run the keys of an id come from
the registration that stored its policy just when no set-up of the run fails for an id
that has keys already. -/
theorem paired_iff (calls : List (ZkCall G)) :
    (∀ earlier, earlier <+: calls → Paired (zk_run G earlier).1 (zk_run G earlier).2) ↔
      Guarded FailsWithoutKeys (zk_run G calls).2 := by
  refine always_iff_guarded ZkProofGenerator.step ?_ paired_step calls
  intro policy_id setup hsetup
  cases hsetup

/-- A backend whose set-up succeeds when the draws say so. -/
def Groth16.flaky : Groth16 where
  ProvingKey := ℕ
  VerifyingKey := ℕ
  Draws := Bool
  circuit_specific_setup := fun cs drawn =>
    if drawn then .ok (cs.inputs.length, cs.inputs.length) else .error "UnexpectedIdentity"
  prove := fun _ _ _ => .error "MalformedProvingKey"
  vk_debug := fun vk => toString vk
  sha256 := fun x => Vector.replicate 32 (UInt8.ofNat x.length)

/-- The speed limit, lowered. -/
def town_policy : SafetyPolicy :=
  ⟨"safety-001", "Speed limit in town", [.Range "speed" 0 50]⟩

/-- The set-up of the second registration fails, and its policy is used with the keys of
the first. -/
theorem new_policy_with_old_keys :
    let run := zk_run .flaky
      [.register_policy speed_policy true, .register_policy town_policy false]
    run.1.policies.lookup "safety-001" = some town_policy ∧
      (run.1.setup_keys.lookup "safety-001").isSome = true ∧
      generated_setup .flaky false = none ∧ ¬ Paired run.1 run.2 := by
  refine ⟨rfl, rfl, rfl, ?_⟩
  intro hpaired
  obtain ⟨policy, draws, hlast, -, hgenerated⟩ := hpaired "safety-001" _ rfl
  have hdraws : false = draws := congrArg Prod.snd (Option.some.inj hlast)
  rw [← hdraws] at hgenerated
  cases hgenerated

end SovereignEdgeTee
