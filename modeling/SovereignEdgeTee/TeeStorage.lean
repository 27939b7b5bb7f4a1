/-
`crates/tee-gateway/src/lib.rs`, the lower half: the backend interface, the simulated
backend and the sealed storage.

A backend's methods take `&self`, but an enclave may answer differently each time it is
asked. So a call of a backend also returns the backend after the call: its type is
arbitrary, and stands for everything the next answer depends on.

The second half is about whole runs on one storage: when the flag `attested` follows
the last attestation, and when what was sealed can be unsealed again.
-/
import SovereignEdgeTee.Mealy
import SovereignEdgeTee.Text

set_option autoImplicit false

namespace SovereignEdgeTee

open Mealy

inductive GatewayError where
  | SealingFailed (reason : String)
  | UnsealingFailed (reason : String)
  | AttestationFailed
  | ApiKeyNotInitialized
  | QwenApiError (reason : String)
  | HttpError (reason : String)
  | Io (reason : String)
deriving DecidableEq

structure AttestationReport where
  quote : List UInt8
  measurement : List UInt8
deriving DecidableEq

class TeeBackend (T : Type) where
  «seal» : T → List UInt8 → Except GatewayError (List UInt8) × T
  «unseal» : T → List UInt8 → Except GatewayError (List UInt8) × T
  attest : T → Except GatewayError AttestationReport × T

/-! ## The simulated backend

The one backend of the source. Its key is a constant, and both directions are one loop, which
is why everything about it can be computed. -/

/-- `SimulatedTee`. `sha256` is `Sha256::digest`, which its attestation calls. -/
structure SimulatedTee (sha256 : List UInt8 → Vector UInt8 32) where
  encryption_key : Vector UInt8 32

namespace SimulatedTee

variable {sha256 : List UInt8 → Vector UInt8 32}

def new (sha256 : List UInt8 → Vector UInt8 32) : SimulatedTee sha256 :=
  ⟨Vector.ofFn fun i => UInt8.ofNat (i.val * 7 + 13)⟩

/-- The loop of `seal` and of `unseal`: each byte, with the byte of the key at its
position modulo 32. -/
def xor_key (self : SimulatedTee sha256) (bytes : List UInt8) : List UInt8 :=
  bytes.mapIdx fun i byte =>
    byte ^^^ self.encryption_key.get ⟨i % 32, Nat.mod_lt _ (by decide)⟩

instance backend : TeeBackend (SimulatedTee sha256) where
  «seal» self plaintext := (.ok (self.xor_key plaintext), self)
  «unseal» self sealed_data := (.ok (self.xor_key sealed_data), self)
  attest self :=
    (.ok ⟨as_bytes "simulated-tee-quote-v1",
      (sha256 (as_bytes "simulated-tee-measurement")).toList⟩, self)

end SimulatedTee

/-! ## The storage

The three methods over a backend, with the checks in the source's order: the flag, then
whether there is anything, then the backend. Empty data is the mark for no data. -/

structure SealedStorage (T : Type) where
  tee : T
  sealed_data : List UInt8
  attested : Bool

namespace SealedStorage

variable {T : Type} [TeeBackend T]

def new (tee : T) : SealedStorage T := ⟨tee, [], false⟩

/-- `SealedStorage::seal`: a failure leaves the data sealed before. -/
def «seal» (self : SealedStorage T) (plaintext : List UInt8) :
    Except GatewayError Unit × SealedStorage T :=
  match TeeBackend.seal self.tee plaintext with
  | (.error e, tee) => (.error e, { self with tee := tee })
  | (.ok sealed_data, tee) => (.ok (), { self with tee := tee, sealed_data := sealed_data })

def «unseal» (self : SealedStorage T) : Except GatewayError (List UInt8) × SealedStorage T :=
  if !self.attested then (.error .AttestationFailed, self)
  else if self.sealed_data.isEmpty then
    (.error (.UnsealingFailed "No sealed data available"), self)
  else
    match TeeBackend.unseal self.tee self.sealed_data with
    | (result, tee) => (result, { self with tee := tee })

/-- `SealedStorage::verify_attestation`. The `?` leaves before `attested` is written, so a
failure keeps the flag of an earlier success. -/
def verify_attestation (self : SealedStorage T) :
    Except GatewayError AttestationReport × SealedStorage T :=
  match TeeBackend.attest self.tee with
  | (.error e, tee) => (.error e, { self with tee := tee })
  | (.ok report, tee) => (.ok report, { self with tee := tee, attested := true })

def is_attested (self : SealedStorage T) : Bool := self.attested

end SealedStorage

/-! ## Calls

A storage on its own, for the claims about the flag and about sealing. The gateway makes the
same calls, two of them, from inside `initialize`. -/

/-- A call on a storage. -/
inductive StorageCall where
  | «seal» (plaintext : List UInt8)
  | «unseal»
  | verify_attestation

inductive StorageReply where
  | sealed (result : Except GatewayError Unit)
  | unsealed (result : Except GatewayError (List UInt8))
  | verified (result : Except GatewayError AttestationReport)

/-- One call. -/
def SealedStorage.step {T : Type} [TeeBackend T] (self : SealedStorage T) :
    StorageCall → SealedStorage T × StorageReply
  | .seal plaintext => ((self.seal plaintext).2, .sealed (self.seal plaintext).1)
  | .unseal => (self.unseal.2, .unsealed self.unseal.1)
  | .verify_attestation =>
    (self.verify_attestation.2, .verified self.verify_attestation.1)

/-- A step of a storage. -/
abbrev StorageEntry (T : Type) := Entry (SealedStorage T) StorageCall StorageReply

/-- The run of `calls` on a new storage. -/
def storage_run {T : Type} [TeeBackend T] (tee : T) (calls : List StorageCall) :
    SealedStorage T × List (StorageEntry T) :=
  exec SealedStorage.step (SealedStorage.new tee) calls

/-! ## The flag and the last attestation

`attested` is set and never cleared. So it says that some attestation succeeded, and the last
one did only if none has failed since. `fresh_step` has that as an equivalence for one call. -/

section Attestation

variable {T : Type} [TeeBackend T]

@[simp] theorem SealedStorage.seal_attested (self : SealedStorage T) (plaintext : List UInt8) :
    (self.seal plaintext).2.attested = self.attested := by
  rw [SealedStorage.seal]
  split <;> rfl

@[simp] theorem SealedStorage.unseal_attested (self : SealedStorage T) :
    self.unseal.2.attested = self.attested := by
  rw [SealedStorage.unseal]
  split
  · rfl
  · split <;> rfl

theorem SealedStorage.attested_of_unseal {self : SealedStorage T} {data : List UInt8}
    (h : self.unseal.1 = .ok data) : self.attested = true := by
  by_contra hnot
  rw [SealedStorage.unseal, if_pos (by simpa using hnot)] at h
  cases h

/-- `verify_attestation` answers what the backend answers. -/
theorem SealedStorage.verify_attestation_reply (self : SealedStorage T) :
    self.verify_attestation.1 = (TeeBackend.attest self.tee).1 := by
  rw [SealedStorage.verify_attestation]
  split <;> rename_i h <;> rw [h]

/-- It sets the flag when the backend agrees, and never clears it. -/
theorem SealedStorage.verify_attestation_attested (self : SealedStorage T) :
    self.verify_attestation.2.attested = true ↔
      self.attested = true ∨ ∃ report, (TeeBackend.attest self.tee).1 = .ok report := by
  rw [SealedStorage.verify_attestation]
  split <;> rename_i h <;> simp [h]

/-- The answer of the last `verify_attestation` of a log. -/
def last_attestation : List (StorageEntry T) → Option (Except GatewayError AttestationReport)
  | [] => none
  | e :: older =>
    match e.output with
    | .verified result => some result
    | _ => last_attestation older

/-- The storage counts as attested, and opens its data, only on the strength of the last
attestation. -/
structure Fresh (storage : SealedStorage T) (log : List (StorageEntry T)) : Prop where
  attested : storage.is_attested = true → ∃ report, last_attestation log = some (.ok report)
  unsealed : ∀ data, storage.unseal.1 = .ok data →
    ∃ report, last_attestation log = some (.ok report)

theorem fresh_iff {storage : SealedStorage T} {log : List (StorageEntry T)} :
    Fresh storage log ↔
      (storage.attested = true → ∃ report, last_attestation log = some (.ok report)) := by
  constructor
  · intro h
    exact h.attested
  · intro h
    exact ⟨h, fun _ hdata => h (SealedStorage.attested_of_unseal hdata)⟩

/-- The attestations of a step fail only while the storage is not attested. -/
def FailsUnattested (_older : List (StorageEntry T)) (e : StorageEntry T) : Prop :=
  e.input = .verify_attestation → e.before.attested = true →
    ∃ report, (TeeBackend.attest e.before.tee).1 = .ok report

/-- One call keeps the flag fresh, unless it is an attestation that fails while the flag
is set. -/
theorem fresh_step (storage : SealedStorage T) (log : List (StorageEntry T)) (call : StorageCall)
    (h : Fresh storage log) :
    Fresh (storage.step call).1 (entry SealedStorage.step storage call :: log) ↔
      FailsUnattested log (entry SealedStorage.step storage call) := by
  rw [fresh_iff] at h ⊢
  cases call with
  | «seal» plaintext =>
      have hlast : last_attestation (entry SealedStorage.step storage (.seal plaintext) :: log)
          = last_attestation log := rfl
      have hflag : (storage.step (.seal plaintext)).1.attested = storage.attested :=
        storage.seal_attested plaintext
      rw [hlast, hflag]
      refine ⟨?_, fun _ => h⟩
      intro _ hcall
      cases hcall
  | «unseal» =>
      have hlast : last_attestation (entry SealedStorage.step storage .unseal :: log)
          = last_attestation log := rfl
      have hflag : (storage.step .unseal).1.attested = storage.attested := storage.unseal_attested
      rw [hlast, hflag]
      refine ⟨?_, fun _ => h⟩
      intro _ hcall
      cases hcall
  | verify_attestation =>
      have hlast : last_attestation (entry SealedStorage.step storage .verify_attestation :: log)
          = some (TeeBackend.attest storage.tee).1 :=
        congrArg some storage.verify_attestation_reply
      have hflag : (storage.step .verify_attestation).1.attested = true ↔ _ :=
        storage.verify_attestation_attested
      rw [hlast, hflag]
      -- a failure that finds the flag set leaves it set, and is the last answer
      simp only [Option.some.injEq]
      constructor
      · intro hfresh _ hset
        exact hfresh (Or.inl hset)
      · rintro hok (hset | hreport)
        · exact hok rfl hset
        · exact hreport

/-- **When the flag follows the last attestation.** Throughout a run on a storage its flag
and its data are backed by the last attestation just when no attestation of the run
fails while the storage counts as attested. -/
theorem attestation_fresh_iff (tee : T) (calls : List StorageCall) :
    (∀ earlier, earlier <+: calls →
        Fresh (storage_run tee earlier).1 (storage_run tee earlier).2) ↔
      Guarded FailsUnattested (storage_run tee calls).2 := by
  refine always_iff_guarded SealedStorage.step ?_ fresh_step calls
  rw [fresh_iff]
  intro hset
  cases hset

end Attestation

/-- A backend that agrees to the attestations it is told to, in turn, and seals by doing
nothing. -/
structure ScriptedTee where
  attestations : List Bool

instance : TeeBackend ScriptedTee where
  «seal» self plaintext := (.ok plaintext, self)
  «unseal» self sealed_data := (.ok sealed_data, self)
  attest self :=
    match self.attestations with
    | true :: later => (.ok ⟨[], []⟩, ⟨later⟩)
    | _ => (.error .AttestationFailed, ⟨self.attestations.tail⟩)

/-- The second attestation fails, and the secret can be read all the same. -/
theorem failed_attestation_keeps_access :
    let run := storage_run (⟨[true, false]⟩ : ScriptedTee)
      [.seal [0x73], .verify_attestation, .verify_attestation]
    last_attestation run.2 = some (.error .AttestationFailed)
      ∧ run.1.is_attested = true ∧ run.1.unseal.1 = .ok [0x73] :=
  ⟨rfl, rfl, rfl⟩

end SovereignEdgeTee
