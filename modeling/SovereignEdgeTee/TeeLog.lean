/-
The execution log of a gateway as a whole. The program announces it as hash-chained. The
hash of an entry covers the fields of that entry alone: `generate_execution_log` keeps
nothing from one entry to the next, and reads nothing of the gateway. So whatever was
logged before, the last entry is the same, for every digest.
-/
import SovereignEdgeTee.TeeGateway

set_option autoImplicit false

namespace SovereignEdgeTee

open Mealy

variable {T T' : Type}

/-! ## What a run logged

The pairs and the entries of a run, and what it means that somebody has changed an earlier
one. The two gateways may be of different kinds, on different networks. -/

/-- The pair a step logged, and the entry it emitted. A step that panics emits none. -/
def GatewayEntry.logged (e : GatewayEntry T) : Option ((UInt64 × QwenResponse) × List UInt8) :=
  match e.input, e.output with
  | .generate_execution_log frame_id response, .logged (some emitted) =>
    some ((frame_id, response), emitted)
  | _, _ => none

/-- The pairs logged in a run, newest first. -/
def logged_pairs (log : List (GatewayEntry T)) : List (UInt64 × QwenResponse) :=
  (log.filterMap GatewayEntry.logged).map Prod.fst

/-- The last entry emitted in a run. -/
def last_entry (log : List (GatewayEntry T)) : Option (List UInt8) :=
  ((log.filterMap GatewayEntry.logged).map Prod.snd).head?

/-- Two logs that a chain has to tell apart by their last entries: as many pairs, the last
one the same, and another one different. -/
structure Tampered (log : List (GatewayEntry T)) (log' : List (GatewayEntry T')) : Prop where
  length : (logged_pairs log).length = (logged_pairs log').length
  last : (logged_pairs log).head? = (logged_pairs log').head?
  differ : logged_pairs log ≠ logged_pairs log'

theorem Tampered.exists_last {log : List (GatewayEntry T)} {log' : List (GatewayEntry T')}
    (h : Tampered log log') : ∃ pair, (logged_pairs log).head? = some pair := by
  rcases hpairs : logged_pairs log with _ | ⟨pair, older⟩
  · -- two empty lists would not differ
    have hlength := h.length
    rw [hpairs] at hlength
    have hnil := List.length_eq_zero_iff.mp hlength.symm
    exact absurd (hpairs.trans hnil.symm) h.differ
  · exact ⟨pair, rfl⟩

/-! ## The entry of a pair

`generate_execution_log` reads its two arguments and nothing else: any gateway makes the same
entry of the same pair. That is the whole argument, and it says that the entries are no chain. -/

section Entries

variable [TeeBackend T] (D : Dependencies)

/-- Every entry is made from its own pair, and any gateway would make the same. -/
theorem entry_of_logged (gateway : TeeGateway T) (call : GatewayCall)
    {pair : UInt64 × QwenResponse} {emitted : List UInt8}
    (h : GatewayEntry.logged (entry (TeeGateway.step D) gateway call) = some (pair, emitted))
    (any : TeeGateway T') :
    any.generate_execution_log D pair.1 pair.2 = some emitted := by
  cases call with
  | generate_execution_log frame_id response =>
      have houtput : (entry (TeeGateway.step D) gateway
          (.generate_execution_log frame_id response)).output
          = .logged (any.generate_execution_log D frame_id response) := rfl
      rw [GatewayEntry.logged, houtput] at h
      rcases hmade : any.generate_execution_log D frame_id response with _ | made
      · rw [hmade] at h
        cases h
      · rw [hmade] at h
        cases h
        exact hmade
  | initialize_with api_token => cases h
  | process_frame frame now send => cases h

theorem entries_of_logged (gateway : TeeGateway T) (calls : List GatewayCall)
    (any : TeeGateway T') :
    ∀ x ∈ (exec (TeeGateway.step D) gateway calls).2.filterMap GatewayEntry.logged,
      any.generate_execution_log D x.1.1 x.1.2 = some x.2 := by
  refine exec_induction (TeeGateway.step D) (I := fun _ log =>
    ∀ x ∈ log.filterMap GatewayEntry.logged,
      any.generate_execution_log D x.1.1 x.1.2 = some x.2) ?_ ?_ calls
  · intro x hx
    cases hx
  · intro before log call ih x hx
    rcases hlogged : GatewayEntry.logged (entry (TeeGateway.step D) before call) with _ | newest
    · rw [List.filterMap_cons_none hlogged] at hx
      exact ih x hx
    · rw [List.filterMap_cons_some hlogged] at hx
      rcases List.mem_cons.mp hx with rfl | hx
      · exact entry_of_logged D before call hlogged any
      · exact ih x hx

/-- The last entry of a run is made from its last pair. -/
theorem last_entry_eq (gateway : TeeGateway T) (calls : List GatewayCall) (any : TeeGateway T')
    {pair : UInt64 × QwenResponse}
    (h : (logged_pairs (exec (TeeGateway.step D) gateway calls).2).head? = some pair) :
    last_entry (exec (TeeGateway.step D) gateway calls).2
        = any.generate_execution_log D pair.1 pair.2 ∧
      ∃ emitted, any.generate_execution_log D pair.1 pair.2 = some emitted := by
  have hmade := entries_of_logged D gateway calls any
  rw [logged_pairs] at h
  rw [last_entry]
  -- the newest entry is the newest of the list, whatever the list is
  generalize (exec (TeeGateway.step D) gateway calls).2.filterMap GatewayEntry.logged = entries
    at h hmade ⊢
  cases entries with
  | nil => cases h
  | cons newest older =>
      have hnewest := hmade newest List.mem_cons_self
      rw [List.map_cons, List.head?_cons, Option.some.injEq] at h
      rw [← h, hnewest]
      exact ⟨rfl, newest.2, rfl⟩

end Entries

/-- **The log is not a chain.** Where two gateways logged as many pairs, the last one the
same and another one different, the last entries are the same nevertheless. -/
theorem last_entry_ignores_history [TeeBackend T] [TeeBackend T'] (D : Dependencies)
    (tee : T) (tee' : T') (qwen_endpoint qwen_endpoint' : String)
    (live_model live_model' : Option String) (calls calls' : List GatewayCall)
    (h : Tampered (gateway_run D tee qwen_endpoint live_model calls).2
      (gateway_run D tee' qwen_endpoint' live_model' calls').2) :
    ∃ emitted,
      last_entry (gateway_run D tee qwen_endpoint live_model calls).2 = some emitted ∧
      last_entry (gateway_run D tee' qwen_endpoint' live_model' calls').2 = some emitted := by
  obtain ⟨pair, hpair⟩ := h.exists_last
  have hpair' := h.last.symm.trans hpair
  obtain ⟨hlast, emitted, hmade⟩ :=
    last_entry_eq D _ calls (TeeGateway.start tee qwen_endpoint live_model) hpair
  obtain ⟨hlast', -⟩ :=
    last_entry_eq D _ calls' (TeeGateway.start tee qwen_endpoint live_model) hpair'
  exact ⟨emitted, hlast.trans hmade, hlast'.trans hmade⟩

/-! ## Two runs

The digest of this example tells all the texts of it apart, so it is not the digest that hides
the change. -/

/-- A response with this content. -/
def answer (content : String) : QwenResponse :=
  ⟨"tee-req-1", "qwen-max", [⟨0, ⟨"assistant", content⟩, "stop"⟩], ⟨0, 0, 0⟩⟩

/-- A digest that tells short texts of a gateway apart. -/
def short_digest : Dependencies where
  from_str _ := .error "expected value"
  sha256 bytes := Vector.replicate 32 (bytes.getD 6 0 + UInt8.ofNat bytes.length)

/-- A gateway that logs this content, and then another. -/
def two_entries (content : String) :
    TeeGateway (SimulatedTee short_digest.sha256) ×
      List (GatewayEntry (SimulatedTee short_digest.sha256)) :=
  gateway_run short_digest (SimulatedTee.new short_digest.sha256)
    "https://dashscope.aliyuncs.com/api/v1" none
    [.generate_execution_log 1 (answer content), .generate_execution_log 2 (answer "STOP")]

theorem two_entries_tampered : Tampered (two_entries "STOP").2 (two_entries "GO").2 :=
  ⟨rfl, rfl, by decide⟩

theorem last_entry_ignores_first :
    ∃ emitted, last_entry (two_entries "STOP").2 = some emitted ∧
      last_entry (two_entries "GO").2 = some emitted :=
  last_entry_ignores_history short_digest (SimulatedTee.new short_digest.sha256)
    (SimulatedTee.new short_digest.sha256) _ _ none none _ _ two_entries_tampered

/-- The digest keeps the three texts apart, and still the last entry does not show that
the first one was replaced. -/
theorem replaced_entry_undetected :
    Tampered (two_entries "STOP").2 (two_entries "GO").2 ∧
      ([TeeGateway.log_text 1 "qwen-max" "STOP" 0, TeeGateway.log_text 1 "qwen-max" "GO" 0,
        TeeGateway.log_text 2 "qwen-max" "STOP" 0].map
          (fun text => short_digest.sha256 (as_bytes text))).Nodup ∧
      last_entry (two_entries "STOP").2 = last_entry (two_entries "GO").2 := by
  refine ⟨two_entries_tampered, ?_, rfl⟩
  decide +kernel

end SovereignEdgeTee
