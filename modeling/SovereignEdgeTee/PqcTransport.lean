/-
`crates/pqc-transport/src/lib.rs`: the hybrid key exchange, the sessions and the
session manager.

The cryptography comes from other crates and is a parameter, `Primitives`. Random
draws and clock readings are arguments of the functions that make them. A fixed
array `[u8; n]` is a `Vector UInt8 n`; the `u128` counters are natural numbers,
which the guard of `encrypt` and `decrypt` keeps at or below `2 ^ 64`.

Callers share sessions through `Arc` handles, and keep them after the manager has
dropped its own. So a process is the manager together with every session object
ever allocated, and a handle is the number of a session.
-/
import SovereignEdgeTee.Common
import SovereignEdgeTee.LeBytes
import SovereignEdgeTee.Mealy

set_option autoImplicit false

namespace SovereignEdgeTee

open LeBytes

/-- `PqcError`, less the `Io` variant no function of the crate raises. -/
inductive PqcError where
  | KeyExchangeFailed
  | EncapsulationFailed
  | DecapsulationFailed
  | EncryptionFailed (reason : String)
  | DecryptionFailed (reason : String)
  | InvalidKeySize (expected actual : ℕ)
  | InvalidMlKemKey
  | NonceExhausted (session_id : UInt64)
  | SessionExpired
deriving DecidableEq

/-- What the transport takes from other crates. -/
structure Primitives where
  /-- `x25519_dalek::PublicKey::from(&secret)`. -/
  x25519_public : Vector UInt8 32 → Vector UInt8 32
  /-- `secret.diffie_hellman(&public)`. -/
  diffie_hellman : Vector UInt8 32 → Vector UInt8 32 → Vector UInt8 32
  /-- The encapsulation key of the ML-KEM pair with this seed, as bytes. -/
  mlkem_public : Vector UInt8 64 → List UInt8
  /-- The length of an encapsulation key. -/
  mlkem_ek_len : ℕ
  /-- `EncapsulationKey::new` accepts these bytes. -/
  mlkem_ek_valid : List UInt8 → Bool
  /-- `ek.encapsulate()` with the random message it draws: ciphertext and secret. -/
  mlkem_encapsulate : List UInt8 → Vector UInt8 32 → List UInt8 × Vector UInt8 32
  /-- The length of a ciphertext. -/
  mlkem_ct_len : ℕ
  /-- `dk.decapsulate(&ct)`, which never fails. -/
  mlkem_decapsulate : Vector UInt8 64 → List UInt8 → Vector UInt8 32
  /-- `Sha256::digest`. -/
  sha256 : List UInt8 → Vector UInt8 32
  /-- `Aes256Gcm::encrypt`: key, nonce, message, associated data. -/
  aes_encrypt : Vector UInt8 32 → List UInt8 → List UInt8 → List UInt8 →
    Except String (List UInt8)
  /-- `Aes256Gcm::decrypt`: key, nonce, ciphertext, associated data. -/
  aes_decrypt : Vector UInt8 32 → List UInt8 → List UInt8 → List UInt8 →
    Except String (List UInt8)

namespace Primitives

/-- Both ends of a Diffie-Hellman exchange compute the same secret. -/
def DhCommutes (P : Primitives) : Prop :=
  ∀ a b, P.diffie_hellman a (P.x25519_public b) = P.diffie_hellman b (P.x25519_public a)

/-- Decapsulation inverts encapsulation. -/
def MlKemCorrect (P : Primitives) : Prop :=
  ∀ seed m, P.mlkem_decapsulate seed (P.mlkem_encapsulate (P.mlkem_public seed) m).1 =
    (P.mlkem_encapsulate (P.mlkem_public seed) m).2

/-- Decryption inverts encryption. -/
def AeadCorrect (P : Primitives) : Prop :=
  ∀ key nonce msg associated_data ciphertext,
    P.aes_encrypt key nonce msg associated_data = .ok ciphertext →
      P.aes_decrypt key nonce ciphertext associated_data = .ok msg

end Primitives

/-! ## Sessions

`encrypt` and `decrypt` share their shape: the guard on the counter, the cipher, and only then
the counter and the activity. Every failure leaves the session as it was, which is the branch
a reader should look for first. -/

structure PqcSession where
  session_id : UInt64
  send_key : Vector UInt8 32
  recv_key : Vector UInt8 32
  send_nonce : ℕ
  recv_nonce : ℕ
  last_activity : UInt64
deriving DecidableEq

/-- The nonce of a counter value: twelve bytes of the little-endian `u128`. -/
def nonce_bytes (counter : ℕ) : List UInt8 := (to_le_bytes 16 counter).take 12

/-- The associated data of a frame: its id, little-endian. -/
def frame_aad (frame_id : UInt64) : List UInt8 := to_le_bytes 8 frame_id.toNat

namespace PqcSession

def new (send_key recv_key : Vector UInt8 32) (session_id now : UInt64) : PqcSession :=
  ⟨session_id, send_key, recv_key, 0, 0, now⟩

def encrypt (P : Primitives) (self : PqcSession) (plaintext associated_data : List UInt8)
    (now : UInt64) : Except PqcError (List UInt8) × PqcSession :=
  if self.send_nonce ≥ 2 ^ 64 then (.error (.NonceExhausted self.session_id), self)
  else
    match P.aes_encrypt self.send_key (nonce_bytes self.send_nonce) plaintext
        associated_data with
    -- a nonce the cipher failed under stays free for the next call
    | .error e => (.error (.EncryptionFailed e), self)
    | .ok ciphertext =>
      (.ok ciphertext, { self with send_nonce := self.send_nonce + 1, last_activity := now })

def decrypt (P : Primitives) (self : PqcSession) (ciphertext associated_data : List UInt8)
    (now : UInt64) : Except PqcError (List UInt8) × PqcSession :=
  if self.recv_nonce ≥ 2 ^ 64 then (.error (.NonceExhausted self.session_id), self)
  else
    match P.aes_decrypt self.recv_key (nonce_bytes self.recv_nonce) ciphertext
        associated_data with
    -- a rejected frame leaves the counter where it is
    | .error e => (.error (.DecryptionFailed e), self)
    | .ok plaintext =>
      (.ok plaintext, { self with recv_nonce := self.recv_nonce + 1, last_activity := now })

/-- `PqcSession::is_expired`, with the subtraction saturating at zero. -/
def is_expired (self : PqcSession) (timeout_nanos now : UInt64) : Bool :=
  let elapsed := if now < self.last_activity then 0 else now - self.last_activity
  elapsed > timeout_nanos

/-- `PqcTransportManager::encrypt_frame`, on the session its handle names. The nonce
and the tag of the frame stay zero. -/
def encrypt_frame (P : Primitives) (sess : PqcSession) (frame : TelemetryFrame)
    (now : UInt64) : Except PqcError EncryptedFrame × PqcSession :=
  match sess.encrypt P frame.payload (frame_aad frame.frame_id) now with
  | (.error e, sess) => (.error e, sess)
  | (.ok ciphertext, sess) =>
    (.ok ⟨frame.frame_id, Vector.replicate 12 0, ciphertext, Vector.replicate 16 0⟩, sess)

/-- `PqcTransportManager::decrypt_frame`, on the session its handle names. The nonce
and the tag of the frame are not read. -/
def decrypt_frame (P : Primitives) (sess : PqcSession) (encrypted : EncryptedFrame)
    (now : UInt64) : Except PqcError (List UInt8) × PqcSession :=
  sess.decrypt P encrypted.ciphertext (frame_aad encrypted.frame_id) now

end PqcSession

/-! ## The hybrid key exchange

Each function of the source that combines secrets and hashes them is split in two, the secrets
and the hash (`encapsulation_secrets` and `peer_secrets`), because the proofs speak of what
was hashed. The functions of the source are the two put together. -/

structure HybridPublicKey where
  x25519_pubkey : Vector UInt8 32
  mlkem_pubkey : List UInt8
deriving DecidableEq

structure HybridSecretKey where
  x25519_seckey : Vector UInt8 32
  mlkem_seed : Vector UInt8 64
deriving DecidableEq

structure HybridEncapsulation where
  x25519_ephemeral_pubkey : Vector UInt8 32
  mlkem_ciphertext : List UInt8
deriving DecidableEq

/-- `HybridKem`. Its fields are private and `generate` is its only constructor, so the
public half always belongs to the secret half. -/
structure HybridKem (P : Primitives) where
  local_secret : HybridSecretKey
  local_public : HybridPublicKey
  x25519_pubkey_eq : local_public.x25519_pubkey = P.x25519_public local_secret.x25519_seckey
  mlkem_pubkey_eq : local_public.mlkem_pubkey = P.mlkem_public local_secret.mlkem_seed
deriving DecidableEq

/-- The random draws of `encapsulate_to_peer`. -/
structure EncapsulationDraws where
  eph_x25519_secret : Vector UInt8 32
  mlkem_message : Vector UInt8 32
deriving DecidableEq

/-- The pair of shared secrets a key exchange combines. -/
structure SharedSecrets where
  x25519_shared : Vector UInt8 32
  mlkem_shared : Vector UInt8 32
deriving DecidableEq

namespace SharedSecrets

/-- The 64 bytes that are hashed into the session secret. -/
def combined (self : SharedSecrets) : List UInt8 :=
  self.x25519_shared.toList ++ self.mlkem_shared.toList

/-- The session secret. -/
def shared_key (P : Primitives) (self : SharedSecrets) : Vector UInt8 32 :=
  P.sha256 self.combined

end SharedSecrets

namespace HybridKem

variable {P : Primitives}

/-- `HybridKem::generate`, from its random draws. -/
def generate (P : Primitives) (x25519_secret : Vector UInt8 32) (mlkem_seed : Vector UInt8 64) :
    HybridKem P :=
  ⟨⟨x25519_secret, mlkem_seed⟩, ⟨P.x25519_public x25519_secret, P.mlkem_public mlkem_seed⟩,
    rfl, rfl⟩

def x25519_dh_real (P : Primitives) (seckey_bytes pubkey_bytes : Vector UInt8 32) :
    Except PqcError (Vector UInt8 32) :=
  .ok (P.diffie_hellman seckey_bytes pubkey_bytes)

def mlkem_encapsulate (P : Primitives) (pubkey_bytes : List UInt8)
    (mlkem_message : Vector UInt8 32) : Except PqcError (List UInt8 × Vector UInt8 32) :=
  if pubkey_bytes.length ≠ P.mlkem_ek_len then .error .InvalidMlKemKey
  else if !P.mlkem_ek_valid pubkey_bytes then .error .InvalidMlKemKey
  else .ok (P.mlkem_encapsulate pubkey_bytes mlkem_message)

def mlkem_decapsulate (self : HybridKem P) (ciphertext_bytes : List UInt8) :
    Except PqcError (Vector UInt8 32) :=
  if ciphertext_bytes.length ≠ P.mlkem_ct_len then .error .InvalidMlKemKey
  else .ok (P.mlkem_decapsulate self.local_secret.mlkem_seed ciphertext_bytes)

/-- The shared secrets of `decapsulate_from_peer`. -/
def peer_secrets (self : HybridKem P) (encapsulation : HybridEncapsulation) :
    Except PqcError SharedSecrets := do
  let x25519_shared ← x25519_dh_real P self.local_secret.x25519_seckey
    encapsulation.x25519_ephemeral_pubkey
  let mlkem_shared ← self.mlkem_decapsulate encapsulation.mlkem_ciphertext
  return ⟨x25519_shared, mlkem_shared⟩

def decapsulate_from_peer (self : HybridKem P) (encapsulation : HybridEncapsulation) :
    Except PqcError (Vector UInt8 32) := do
  let secrets ← self.peer_secrets encapsulation
  return secrets.shared_key P

/-- The encapsulation and the shared secrets of `encapsulate_to_peer`. -/
def encapsulation_secrets (P : Primitives) (remote_public : HybridPublicKey)
    (draws : EncapsulationDraws) : Except PqcError (HybridEncapsulation × SharedSecrets) := do
  let eph_x25519_pubkey := P.x25519_public draws.eph_x25519_secret
  let x25519_shared ← x25519_dh_real P draws.eph_x25519_secret remote_public.x25519_pubkey
  let (mlkem_ciphertext, mlkem_shared) ←
    mlkem_encapsulate P remote_public.mlkem_pubkey draws.mlkem_message
  return (⟨eph_x25519_pubkey, mlkem_ciphertext⟩, ⟨x25519_shared, mlkem_shared⟩)

/-- `HybridKem::encapsulate_to_peer`. It reads nothing of the local key pair. -/
def encapsulate_to_peer (_self : HybridKem P) (remote_public : HybridPublicKey)
    (draws : EncapsulationDraws) : Except PqcError (HybridEncapsulation × Vector UInt8 32) := do
  let (encapsulation, secrets) ← encapsulation_secrets P remote_public draws
  return (encapsulation, secrets.shared_key P)

end HybridKem

/-! ## The manager

The manager's list and the sessions are kept apart: a handle survives the removal of its
session from the list, as an `Arc` does. `establish_session` and `accept_session` derive their
two keys from one secret under two labels, with the roles swapped; neither looks at what was
accepted before. -/

/-- `b"SEND"`. -/
def send_label : List UInt8 := [0x53, 0x45, 0x4E, 0x44]

/-- `b"RECV"`. -/
def recv_label : List UInt8 := [0x52, 0x45, 0x43, 0x56]

/-- The 64 bytes a session key is hashed from: the secret, a label, zeros. -/
def key_material (shared_key : Vector UInt8 32) (label : List UInt8) : List UInt8 :=
  shared_key.toList ++ label ++ List.replicate 28 0

structure PqcTransportManager where
  sessions : List ℕ
  session_timeout_nanos : UInt64
deriving DecidableEq

/-- The product wraps around, as a release build lets it. -/
def PqcTransportManager.new (session_timeout_secs : UInt64) : PqcTransportManager :=
  ⟨[], session_timeout_secs * 1000000000⟩

/-- A manager and the sessions its callers can reach; a handle is a position in
`heap`. -/
structure Process where
  manager : PqcTransportManager
  heap : List PqcSession
deriving DecidableEq

namespace Process

variable {P : Primitives}

/-- A process that has just built its manager. -/
def start (session_timeout_secs : UInt64) : Process :=
  ⟨PqcTransportManager.new session_timeout_secs, []⟩

/-- `Arc::new(Mutex::new(session))`, pushed on the manager's list. -/
def add_session (self : Process) (session : PqcSession) : Process :=
  { manager := { self.manager with sessions := self.manager.sessions ++ [self.heap.length] }
    heap := self.heap ++ [session] }

/-- `PqcTransportManager::establish_session`. -/
def establish_session (self : Process) (local_kem : HybridKem P)
    (remote_public : HybridPublicKey) (draws : EncapsulationDraws) (session_id now : UInt64) :
    Except PqcError (ℕ × HybridEncapsulation) × Process :=
  match local_kem.encapsulate_to_peer remote_public draws with
  | .error e => (.error e, self)
  | .ok (encapsulation, shared_key) =>
    let send_key := P.sha256 (key_material shared_key send_label)
    let recv_key := P.sha256 (key_material shared_key recv_label)
    let session := PqcSession.new send_key recv_key session_id now
    (.ok (self.heap.length, encapsulation), self.add_session session)

/-- `PqcTransportManager::accept_session`. The keys are swapped relative to the
sender's. -/
def accept_session (self : Process) (local_kem : HybridKem P)
    (encapsulation : HybridEncapsulation) (session_id now : UInt64) :
    Except PqcError ℕ × Process :=
  match local_kem.decapsulate_from_peer encapsulation with
  | .error e => (.error e, self)
  | .ok shared_key =>
    let recv_key := P.sha256 (key_material shared_key send_label)
    let send_key := P.sha256 (key_material shared_key recv_label)
    let session := PqcSession.new send_key recv_key session_id now
    (.ok self.heap.length, self.add_session session)

/-- The sessions `cleanup_expired` keeps. Each check reads the clock anew: `clock k`
is the reading at the check of the `k`-th session of the list. -/
def unexpired (self : Process) (clock : ℕ → UInt64) : List ℕ :=
  (self.manager.sessions.zipIdx.filter fun s =>
    !((self.heap[s.1]?.map fun session =>
      session.is_expired self.manager.session_timeout_nanos (clock s.2)).getD false)).map Prod.fst

/-- `PqcTransportManager::cleanup_expired`. -/
def cleanup_expired (self : Process) (clock : ℕ → UInt64) : ℕ × Process :=
  let sessions := self.unexpired clock
  (self.manager.sessions.length - sessions.length,
    { self with manager := { self.manager with sessions := sessions } })

/-- `PqcTransportManager::session_count`. -/
def session_count (self : Process) : ℕ := self.manager.sessions.length

end Process

/-! ## Calls

A process takes the five calls of a manager in any order. One call is one step: the source's
locks are taken up in `PqcThreads`, where calls of several threads overlap. -/

/-- A call of a manager, with the draws and clock readings it makes. -/
inductive TransportCall (P : Primitives) where
  | establish_session (local_kem : HybridKem P) (remote_public : HybridPublicKey)
      (draws : EncapsulationDraws) (session_id now : UInt64)
  | accept_session (local_kem : HybridKem P) (encapsulation : HybridEncapsulation)
      (session_id now : UInt64)
  | encrypt_frame (session : ℕ) (frame : TelemetryFrame) (now : UInt64)
  | decrypt_frame (session : ℕ) (encrypted : EncryptedFrame) (now : UInt64)
  | cleanup_expired (clock : ℕ → UInt64)

/-- What a call returns. `no_session` answers a handle no call has returned, which no
caller can hold. -/
inductive TransportReply where
  | established (result : Except PqcError (ℕ × HybridEncapsulation))
  | accepted (result : Except PqcError ℕ)
  | encrypted (result : Except PqcError EncryptedFrame)
  | decrypted (result : Except PqcError (List UInt8))
  | cleaned (removed : ℕ)
  | no_session

/-- The handle of the session a call has made. -/
def TransportReply.handle : TransportReply → Option ℕ
  | .established (.ok (session, _)) => some session
  | .accepted (.ok session) => some session
  | _ => none

/-- One call. -/
def Process.step (P : Primitives) (self : Process) :
    TransportCall P → Process × TransportReply
  | .establish_session local_kem remote_public draws session_id now =>
    let r := self.establish_session local_kem remote_public draws session_id now
    (r.2, .established r.1)
  | .accept_session local_kem encapsulation session_id now =>
    let r := self.accept_session local_kem encapsulation session_id now
    (r.2, .accepted r.1)
  | .encrypt_frame session frame now =>
    match self.heap[session]? with
    | none => (self, .no_session)
    | some sess =>
      let r := sess.encrypt_frame P frame now
      ({ self with heap := self.heap.set session r.2 }, .encrypted r.1)
  | .decrypt_frame session encrypted now =>
    match self.heap[session]? with
    | none => (self, .no_session)
    | some sess =>
      let r := sess.decrypt_frame P encrypted now
      ({ self with heap := self.heap.set session r.2 }, .decrypted r.1)
  | .cleanup_expired clock =>
    let r := self.cleanup_expired clock
    (r.2, .cleaned r.1)

end SovereignEdgeTee
