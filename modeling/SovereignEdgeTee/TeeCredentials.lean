/-
The API token in the two places a gateway keeps it: sealed in the storage, and as the
string that goes out as the bearer token. With the simulated backend every sealing
succeeds, and the loop that seals also unseals (`xor_key_xor_key`).

The two copies part in two ways. The storage takes empty data for no data, so an empty
plaintext is never given back; and `from_utf8_lossy` changes a token that is not UTF-8.
-/
import SovereignEdgeTee.TeeGateway

set_option autoImplicit false

namespace SovereignEdgeTee

open Mealy

variable {sha256 : List UInt8 → Vector UInt8 32}

/-! ## The simulated backend

Exclusive or with a repeated key keeps the length and undoes itself. The only plaintext that
does not come back is the empty one, which the storage takes for nothing sealed. -/

namespace SimulatedTee

@[simp] theorem length_xor_key (self : SimulatedTee sha256) (bytes : List UInt8) :
    (self.xor_key bytes).length = bytes.length := by
  rw [xor_key, List.length_mapIdx]

@[simp] theorem xor_key_eq_nil (self : SimulatedTee sha256) (bytes : List UInt8) :
    self.xor_key bytes = [] ↔ bytes = [] := by
  rw [← List.length_eq_zero_iff, length_xor_key, List.length_eq_zero_iff]

/-- Both uses of a byte of the key cancel. -/
theorem xor_key_xor_key (self : SimulatedTee sha256) (bytes : List UInt8) :
    self.xor_key (self.xor_key bytes) = bytes := by
  rw [xor_key, xor_key, List.mapIdx_mapIdx]
  apply List.ext_getElem
  · rw [List.length_mapIdx]
  · intro i _ _
    rw [List.getElem_mapIdx, Function.comp_apply, UInt8.xor_assoc, UInt8.xor_self,
      UInt8.xor_zero]

end SimulatedTee

namespace SealedStorage

/-- Data sealed from `plaintext` opens to it, unless it is empty. -/
theorem unseal_iff {storage : SealedStorage (SimulatedTee sha256)} {plaintext : List UInt8}
    (hattested : storage.attested = true)
    (hsealed : storage.sealed_data = storage.tee.xor_key plaintext) :
    storage.unseal.1 = .ok plaintext ↔ plaintext ≠ [] := by
  rw [SealedStorage.unseal, hattested]
  by_cases hempty : plaintext = []
  · -- nothing sealed and an empty plaintext sealed look the same
    have hnone : storage.sealed_data.isEmpty = true := by
      rw [List.isEmpty_iff, hsealed, SimulatedTee.xor_key_eq_nil]
      exact hempty
    rw [if_neg (by decide), if_pos hnone]
    constructor
    · intro h
      cases h
    · intro hne
      exact absurd hempty hne
  · have hsome : ¬ storage.sealed_data.isEmpty = true := by
      rw [List.isEmpty_iff, hsealed, SimulatedTee.xor_key_eq_nil]
      exact hempty
    rw [if_neg (by decide), if_neg hsome]
    refine ⟨fun _ => hempty, fun _ => ?_⟩
    change Except.ok (storage.tee.xor_key storage.sealed_data) = _
    rw [hsealed, SimulatedTee.xor_key_xor_key]

end SealedStorage

/-! ## Runs on a storage

`SimulatedRun` follows a storage through any calls. `seal` overwrites, so the last plaintext
is the one that counts, and one attestation anywhere opens the storage for good. -/

/-- The plaintext a call seals. -/
def StorageCall.plaintext : StorageCall → Option (List UInt8)
  | .seal plaintext => some plaintext
  | _ => none

/-- The plaintext of the last `seal` of `calls`. -/
def last_sealed (calls : List StorageCall) : Option (List UInt8) :=
  (calls.filterMap StorageCall.plaintext).getLast?

theorem last_sealed_concat (calls : List StorageCall) (call : StorageCall) :
    last_sealed (calls ++ [call]) = call.plaintext.or (last_sealed calls) := by
  rw [last_sealed, last_sealed, List.filterMap_append]
  cases hplain : call.plaintext with
  | none =>
      rw [List.filterMap_cons_none hplain, List.filterMap_nil, List.append_nil, Option.none_or]
  | some plaintext =>
      rw [List.filterMap_cons_some hplain, List.filterMap_nil, List.getLast?_concat, Option.some_or]

/-- What `calls` make of a simulated storage: the backend as it was, the last plaintext
sealed, and the flag set when anything was attested. -/
structure SimulatedRun (storage : SealedStorage (SimulatedTee sha256)) (calls : List StorageCall)
    (after : SealedStorage (SimulatedTee sha256)) : Prop where
  tee : after.tee = storage.tee
  sealed_data : ∀ plaintext, last_sealed calls = some plaintext →
    after.sealed_data = storage.tee.xor_key plaintext
  attested : .verify_attestation ∈ calls → after.attested = true

/-- Unsealing changes nothing. -/
theorem SealedStorage.simulated_unseal (storage : SealedStorage (SimulatedTee sha256)) :
    storage.unseal.2 = storage := by
  rw [SealedStorage.unseal]
  split
  · rfl
  · split <;> rfl

namespace SimulatedRun

variable {storage before : SealedStorage (SimulatedTee sha256)} {calls : List StorageCall}

theorem seal_step (h : SimulatedRun storage calls before) (newest : List UInt8) :
    SimulatedRun storage (calls ++ [.seal newest]) (before.step (.seal newest)).1 := by
  have hdata : (before.step (.seal newest)).1.sealed_data = before.tee.xor_key newest := rfl
  refine ⟨h.tee, ?_, ?_⟩
  · intro plaintext hlast
    rw [last_sealed_concat] at hlast
    rw [hdata, h.tee, Option.some.inj hlast]
  · intro hmem
    rcases List.mem_append.mp hmem with hmem | hmem
    · exact h.attested hmem
    · cases List.mem_singleton.mp hmem

theorem unseal_step (h : SimulatedRun storage calls before) :
    SimulatedRun storage (calls ++ [.unseal]) (before.step .unseal).1 := by
  have hsame : (before.step .unseal).1 = before := before.simulated_unseal
  rw [hsame]
  refine ⟨h.tee, ?_, ?_⟩
  · intro plaintext hlast
    rw [last_sealed_concat] at hlast
    exact h.sealed_data plaintext hlast
  · intro hmem
    rcases List.mem_append.mp hmem with hmem | hmem
    · exact h.attested hmem
    · cases List.mem_singleton.mp hmem

theorem verify_attestation_step (h : SimulatedRun storage calls before) :
    SimulatedRun storage (calls ++ [.verify_attestation]) (before.step .verify_attestation).1 := by
  refine ⟨h.tee, ?_, fun _ => rfl⟩
  intro plaintext hlast
  rw [last_sealed_concat] at hlast
  exact h.sealed_data plaintext hlast

end SimulatedRun

theorem simulated_run (storage : SealedStorage (SimulatedTee sha256)) (calls : List StorageCall) :
    SimulatedRun storage calls (exec SealedStorage.step storage calls).1 := by
  induction calls using List.reverseRecOn with
  | nil =>
      refine ⟨rfl, ?_, ?_⟩
      · intro plaintext h
        cases h
      · intro h
        cases h
  | append_singleton calls call ih =>
      rw [exec_concat]
      cases call with
      | «seal» newest => exact ih.seal_step newest
      | «unseal» => exact ih.unseal_step
      | verify_attestation => exact ih.verify_attestation_step

/-! ## The two copies of a token

The sealed copy is the token's bytes, and the bearer token is a string made of them. Reading
the string's bytes gives back the token just when the conversion had nothing to replace. -/

/-- The copy in memory, as bytes. -/
def TeeGateway.bearer_bytes {T : Type} (self : TeeGateway T) : Option (List UInt8) :=
  self.qwen_api_key.map as_bytes

/-- The token is text in UTF-8. -/
def IsUtf8 (bytes : List UInt8) : Prop := ∃ s : String, as_bytes s = bytes

/-- The lossy conversion changes every token that is not UTF-8, and no other. -/
theorem as_bytes_lossy_iff (bytes : List UInt8) :
    as_bytes (Utf8.from_utf8_lossy bytes) = bytes ↔ IsUtf8 bytes := by
  constructor
  · intro h
    exact ⟨_, h⟩
  · rintro ⟨s, rfl⟩
    rw [from_utf8_lossy_as_bytes]

/-- With the simulated backend `initialize` succeeds on every token. -/
theorem initialize_with_simulated (gateway : TeeGateway (SimulatedTee sha256))
    (api_token : List UInt8) :
    gateway.initialize_with api_token = (.ok (), { gateway with
      storage := ⟨gateway.storage.tee, gateway.storage.tee.xor_key api_token, true⟩
      qwen_api_key := some (Utf8.from_utf8_lossy api_token)
      http_client := some ⟨⟩ }) := rfl

/-- **When the two copies agree.** After `initialize` the storage gives the token back and
the bearer token has its bytes just when the token is not empty and is UTF-8; and of the
plaintexts sealed in a storage that was ever attested the last one is given back just
when it is not empty. -/
theorem credentials_agree_iff :
    (∀ (gateway : TeeGateway (SimulatedTee sha256)) (api_token : List UInt8),
      (gateway.initialize_with api_token).1 = .ok () →
        ((gateway.initialize_with api_token).2.storage.unseal.1 = .ok api_token ∧
            (gateway.initialize_with api_token).2.bearer_bytes = some api_token ↔
          api_token ≠ [] ∧ IsUtf8 api_token)) ∧
    (∀ (storage : SealedStorage (SimulatedTee sha256)) (calls : List StorageCall)
        (plaintext : List UInt8),
      last_sealed calls = some plaintext → .verify_attestation ∈ calls →
        ((exec SealedStorage.step storage calls).1.unseal.1 = .ok plaintext ↔ plaintext ≠ [])) := by
  constructor
  · intro gateway api_token _
    have hkey : (gateway.initialize_with api_token).2.bearer_bytes
        = some (as_bytes (Utf8.from_utf8_lossy api_token)) := rfl
    have hunseal : (gateway.initialize_with api_token).2.storage.unseal.1 = .ok api_token ↔
        api_token ≠ [] := by
      rw [initialize_with_simulated]
      exact SealedStorage.unseal_iff rfl rfl
    rw [hunseal, hkey, Option.some.injEq, as_bytes_lossy_iff]
  · intro storage calls plaintext hlast hmem
    have hrun := simulated_run storage calls
    apply SealedStorage.unseal_iff (hrun.attested hmem)
    rw [hrun.tee]
    exact hrun.sealed_data plaintext hlast

/-- The empty token is not given back, and a token that is one stray byte goes out as the
three bytes of `U+FFFD`. -/
theorem credentials_disagree :
    let gateway := TeeGateway.new
      (SimulatedTee.new fun _ => Vector.replicate 32 0) "https://dashscope.aliyuncs.com/api/v1"
    let empty := gateway.initialize_with []
    let stray := gateway.initialize_with [0xFF]
    empty.1 = .ok () ∧
      empty.2.storage.unseal.1 = .error (.UnsealingFailed "No sealed data available") ∧
      stray.1 = .ok () ∧ stray.2.bearer_bytes = some [0xEF, 0xBF, 0xBD] := by
  refine ⟨rfl, rfl, rfl, ?_⟩
  change some (as_bytes (Utf8.from_utf8_lossy [0xFF])) = _
  rw [as_bytes_eq, Utf8.from_utf8_lossy, String.toList_ofList]
  decide

end SovereignEdgeTee
