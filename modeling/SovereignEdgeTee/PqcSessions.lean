/-
Where the sessions of a process come from, and what its calls do to them.

A session is made by one key exchange. Its two keys are functions of the shared
secrets and of the side of the exchange it is on (`Origin`), so the key pairs in a
process are the origins of its calls, in order (`heap_keys`). The keys of different
origins differ as far as SHA-256 tells its inputs apart (`derived_key_inj`).

After that a call does one of four things to the sessions (`SessionEffect`): it adds one,
it seals a frame on one, it opens a frame on one, or it leaves them all as they are.
`step_effect` says which, with everything later files use about it.
-/
import SovereignEdgeTee.CounterChannel
import SovereignEdgeTee.PqcTransport

set_option autoImplicit false

namespace SovereignEdgeTee

open LeBytes

/-- An AES-256 key. -/
abbrev AesKey := Vector UInt8 32

/-! ## Key exchanges

The source derives the two keys of a session in two functions that mirror each other. `Origin`
keeps what they depend on, the shared secrets and the side, so that both are one definition
with a label. `ShaInjective` asks SHA-256 to tell apart just the inputs it is given in a list
of calls, which is what an assumption on a hash can ask. -/

/-- The two sides of a key exchange: `establish_session` and `accept_session`. -/
inductive Side where
  | Sender
  | Receiver
deriving DecidableEq

namespace Side

def other : Side → Side
  | Sender => Receiver
  | Receiver => Sender

/-- The label of the key this side sends under. -/
def label : Side → List UInt8
  | Sender => send_label
  | Receiver => recv_label

theorem length_label (side : Side) : side.label.length = 4 := by
  cases side <;> rfl

theorem other_inj {s t : Side} (h : s.other = t.other) : s = t := by
  revert h
  cases s <;> cases t <;> decide

theorem label_inj {s t : Side} (h : s.label = t.label) : s = t := by
  revert h
  cases s <;> cases t <;> decide

end Side

/-- A key exchange as one side sees it. -/
structure Origin where
  side : Side
  secrets : SharedSecrets
deriving DecidableEq

theorem origin_ext {o o' : Origin} (hsecrets : o.secrets = o'.secrets) (hside : o.side = o'.side) :
    o = o' := by
  obtain ⟨side, secrets⟩ := o
  rw [show side = o'.side from hside, show secrets = o'.secrets from hsecrets]

/-- The key under which `side` sends, for the shared secrets of the exchange. -/
def derived_key (P : Primitives) (secrets : SharedSecrets) (side : Side) : AesKey :=
  P.sha256 (key_material (secrets.shared_key P) side.label)

namespace Origin

def send_key (P : Primitives) (self : Origin) : AesKey :=
  derived_key P self.secrets self.side

def recv_key (P : Primitives) (self : Origin) : AesKey :=
  derived_key P self.secrets self.side.other

def keys (P : Primitives) (self : Origin) : AesKey × AesKey := (self.send_key P, self.recv_key P)

/-- What a key exchange hashes. -/
def hashed (P : Primitives) (self : Origin) : List (List UInt8) :=
  [self.secrets.combined, key_material (self.secrets.shared_key P) send_label,
    key_material (self.secrets.shared_key P) recv_label]

end Origin

/-- The key exchange a call makes, if it succeeds. -/
def TransportCall.origin {P : Primitives} : TransportCall P → Option Origin
  | .establish_session _ remote_public draws _ _ =>
    match HybridKem.encapsulation_secrets P remote_public draws with
    | .ok (_, secrets) => some ⟨.Sender, secrets⟩
    | .error _ => none
  | .accept_session local_kem encapsulation _ _ =>
    match local_kem.peer_secrets encapsulation with
    | .ok secrets => some ⟨.Receiver, secrets⟩
    | .error _ => none
  | _ => none

/-- The key exchanges of a list of calls. -/
def origins {P : Primitives} (calls : List (TransportCall P)) : List Origin :=
  calls.filterMap TransportCall.origin

/-- The shared secrets of the exchanges made on one side. -/
def side_secrets (side : Side) (os : List Origin) : List SharedSecrets :=
  (os.filter fun o => o.side = side).map Origin.secrets

/-- The shared secrets the `establish_session` calls draw. -/
def established_secrets {P : Primitives} (calls : List (TransportCall P)) : List SharedSecrets :=
  side_secrets .Sender (origins calls)

/-- The shared secrets the `accept_session` calls recover. -/
def accepted_secrets {P : Primitives} (calls : List (TransportCall P)) : List SharedSecrets :=
  side_secrets .Receiver (origins calls)

/-- SHA-256 tells apart the inputs it is given by a list of calls. -/
def ShaInjective (P : Primitives) (calls : List (TransportCall P)) : Prop :=
  ∀ x ∈ (origins calls).flatMap (Origin.hashed P),
    ∀ y ∈ (origins calls).flatMap (Origin.hashed P), P.sha256 x = P.sha256 y → x = y

instance (P : Primitives) (calls : List (TransportCall P)) : Decidable (ShaInjective P calls) :=
  inferInstanceAs (Decidable (∀ x ∈ (origins calls).flatMap (Origin.hashed P),
    ∀ y ∈ (origins calls).flatMap (Origin.hashed P), P.sha256 x = P.sha256 y → x = y))

/-- A further call adds its key exchange, if it makes one. -/
theorem origins_concat {P : Primitives} (calls : List (TransportCall P))
    (call : TransportCall P) : origins (calls ++ [call]) = origins calls ++ call.origin.toList := by
  rw [origins, List.filterMap_append, List.filterMap_cons, List.filterMap_nil]
  cases call.origin <;> rfl

/-- Exchanges that repeat on neither side repeat nowhere. -/
theorem origins_nodup {os : List Origin} (h : ∀ side, (side_secrets side os).Nodup) :
    os.Nodup := by
  induction os with
  | nil => exact List.nodup_nil
  | cons o os ih =>
      rw [List.nodup_cons]
      refine ⟨?_, ih ?_⟩
      · -- a second copy of `o` would be a second one on the side of `o`
        intro hmem
        have ho := h o.side
        rw [side_secrets, List.filter_cons_of_pos (by simp), List.map_cons,
          List.nodup_cons] at ho
        exact ho.1 (List.mem_map.mpr ⟨o, List.mem_filter.mpr ⟨hmem, by simp⟩, rfl⟩)
      · intro side
        exact (h side).sublist (((List.sublist_cons_self o os).filter _).map _)

/-! ## Distinct exchanges have distinct keys

Key and session secret are both hashes of texts of a fixed layout: 32 bytes, four bytes of
label and zeros, or two secrets of 32 bytes. The layouts are injective, and the hash is on
these inputs, so a key determines the secrets and the side. -/

theorem combined_inj {s t : SharedSecrets} (h : s.combined = t.combined) : s = t := by
  obtain ⟨sx, sm⟩ := s
  obtain ⟨tx, tm⟩ := t
  obtain ⟨hx, hm⟩ := List.append_inj h (by simp)
  have hxx : sx = tx := Vector.toList_inj.mp hx
  have hmm : sm = tm := Vector.toList_inj.mp hm
  rw [hxx, hmm]

theorem key_material_inj {k l : Vector UInt8 32} {s t : Side}
    (h : key_material k s.label = key_material l t.label) : k = l ∧ s = t := by
  unfold key_material at h
  obtain ⟨hkl, -⟩ := List.append_inj h (by simp [Side.length_label])
  obtain ⟨hk, hl⟩ := List.append_inj hkl (by simp)
  exact ⟨Vector.toList_inj.mp hk, Side.label_inj hl⟩

/-- Different exchanges, and the two directions of one exchange, use different keys. -/
theorem derived_key_inj {P : Primitives} {calls : List (TransportCall P)}
    (hsha : ShaInjective P calls) {o o' : Origin} (ho : o ∈ origins calls)
    (ho' : o' ∈ origins calls) {s t : Side}
    (h : derived_key P o.secrets s = derived_key P o'.secrets t) :
    o.secrets = o'.secrets ∧ s = t := by
  have hmem : ∀ {p : Origin} {x : List UInt8}, p ∈ origins calls → x ∈ p.hashed P →
      x ∈ (origins calls).flatMap (Origin.hashed P) := by
    intro p x hp hx
    exact List.mem_flatMap.mpr ⟨p, hp, hx⟩
  have hlabel : ∀ (p : Origin) (r : Side),
      key_material (p.secrets.shared_key P) r.label ∈ p.hashed P := by
    intro p r
    cases r <;> simp [Origin.hashed, Side.label]
  -- two hashes to undo: the key is hashed from the session secret and the label, and
  -- the session secret from the shared secrets
  have hkm := hsha _ (hmem ho (hlabel o s)) _ (hmem ho' (hlabel o' t)) h
  obtain ⟨hkey, hside⟩ := key_material_inj hkm
  have hcomb := hsha _ (hmem ho (by simp [Origin.hashed])) _
    (hmem ho' (by simp [Origin.hashed])) hkey
  exact ⟨combined_inj hcomb, hside⟩

/-! ## Both ends of an exchange

The secrets that `accept_session` recovers are those that `establish_session` drew, by the
correctness of the two key exchanges. Nothing else of the cryptography is needed for
agreement. -/

/-- What an encapsulation carries and what the sender keeps. -/
theorem encapsulation_secrets_ok {P : Primitives} {remote_public : HybridPublicKey}
    {draws : EncapsulationDraws} {encapsulation : HybridEncapsulation} {secrets : SharedSecrets}
    (h : HybridKem.encapsulation_secrets P remote_public draws = .ok (encapsulation, secrets)) :
    encapsulation = ⟨P.x25519_public draws.eph_x25519_secret,
        (P.mlkem_encapsulate remote_public.mlkem_pubkey draws.mlkem_message).1⟩ ∧
      secrets = ⟨P.diffie_hellman draws.eph_x25519_secret remote_public.x25519_pubkey,
        (P.mlkem_encapsulate remote_public.mlkem_pubkey draws.mlkem_message).2⟩ := by
  unfold HybridKem.encapsulation_secrets HybridKem.x25519_dh_real HybridKem.mlkem_encapsulate at h
  -- the two checks of `mlkem_encapsulate`; past them nothing fails
  by_cases hlen : remote_public.mlkem_pubkey.length ≠ P.mlkem_ek_len
  · rw [if_pos hlen] at h
    cases h
  · rw [if_neg hlen] at h
    by_cases hvalid : (!P.mlkem_ek_valid remote_public.mlkem_pubkey) = true
    · rw [if_pos hvalid] at h
      cases h
    · rw [if_neg hvalid] at h
      cases h
      exact ⟨rfl, rfl⟩

/-- What the receiver recovers. -/
theorem peer_secrets_ok {P : Primitives} {kem : HybridKem P} {encapsulation : HybridEncapsulation}
    {secrets : SharedSecrets} (h : kem.peer_secrets encapsulation = .ok secrets) :
    secrets = ⟨P.diffie_hellman kem.local_secret.x25519_seckey
        encapsulation.x25519_ephemeral_pubkey,
      P.mlkem_decapsulate kem.local_secret.mlkem_seed encapsulation.mlkem_ciphertext⟩ := by
  unfold HybridKem.peer_secrets HybridKem.x25519_dh_real HybridKem.mlkem_decapsulate at h
  by_cases hlen : encapsulation.mlkem_ciphertext.length ≠ P.mlkem_ct_len
  · rw [if_pos hlen] at h
    cases h
  · rw [if_neg hlen] at h
    cases h
    rfl

/-- The receiver of an encapsulation recovers the secrets its sender kept. -/
theorem peer_secrets_eq {P : Primitives} (hdh : P.DhCommutes) (hkem : P.MlKemCorrect)
    {kem : HybridKem P} {draws : EncapsulationDraws} {encapsulation : HybridEncapsulation}
    {sent received : SharedSecrets}
    (hsent : HybridKem.encapsulation_secrets P kem.local_public draws = .ok (encapsulation, sent))
    (hreceived : kem.peer_secrets encapsulation = .ok received) : received = sent := by
  obtain ⟨rfl, rfl⟩ := encapsulation_secrets_ok hsent
  rw [peer_secrets_ok hreceived, kem.x25519_pubkey_eq, kem.mlkem_pubkey_eq, hkem, hdh]

/-! ## Uses of the cipher

A use of AES-GCM has five parts, and the code computes nonce and associated data from a
counter and a frame id. Below the limit of `2 ^ 64` that is injective, so a use of the cipher
stands for one key, one counter value and one frame. -/

/-- A frame as it passes through a session. -/
structure SealedFrame where
  frame_id : UInt64
  payload : List UInt8
  ciphertext : List UInt8
deriving DecidableEq

/-- One use of the cipher: what goes in and what comes out. -/
structure AeadUse where
  key : AesKey
  nonce : List UInt8
  associated_data : List UInt8
  msg : List UInt8
  ciphertext : List UInt8
deriving DecidableEq

/-- The use of the cipher for a frame under a key and a counter value. -/
def aead_use (x : AesKey × ℕ × SealedFrame) : AeadUse :=
  ⟨x.1, nonce_bytes x.2.1, frame_aad x.2.2.frame_id, x.2.2.payload, x.2.2.ciphertext⟩

/-- Counter values below the limit give different nonces: the twelve bytes kept are
more than the eight that can be in use. -/
theorem nonce_bytes_inj {m n : ℕ} (hm : m < 2 ^ 64) (hn : n < 2 ^ 64)
    (h : nonce_bytes m = nonce_bytes n) : m = n := by
  unfold nonce_bytes at h
  -- the four bytes cut off are zero
  rw [take_to_le_bytes 16 12 m (by omega), take_to_le_bytes 16 12 n (by omega)] at h
  exact to_le_bytes_inj (by omega) (by omega) h

theorem frame_aad_inj {a b : UInt64} (h : frame_aad a = frame_aad b) : a = b := by
  have ha := a.toNat_lt
  have hb := b.toNat_lt
  exact UInt64.toNat.inj (to_le_bytes_inj (by omega) (by omega) h)

theorem aead_use_inj {x y : AesKey × ℕ × SealedFrame} (hx : x.2.1 < 2 ^ 64)
    (hy : y.2.1 < 2 ^ 64) (h : aead_use x = aead_use y) : x = y := by
  obtain ⟨k, m, f, p, c⟩ := x
  obtain ⟨l, n, g, q, d⟩ := y
  simp only [aead_use, AeadUse.mk.injEq] at h
  obtain ⟨hk, hmn, hfg, hp, hc⟩ := h
  have hnn : m = n := nonce_bytes_inj hx hy hmn
  rw [hk, hnn, frame_aad_inj hfg, hp, hc]

/-! ## What a call does

`SessionEffect` lists what one call can do to the sessions, in four cases. Each case carries
all that any later file asks of such a step, so that no later proof unfolds a call again. -/

/-- A step of a process. -/
abbrev TransportEntry (P : Primitives) := Mealy.Entry Process (TransportCall P) TransportReply

section Observations

variable {P : Primitives}

/-- The use of the cipher by a successful `encrypt_frame`. -/
def encryption (e : TransportEntry P) : Option AeadUse :=
  match e.input, e.output with
  | .encrypt_frame session frame _, .encrypted (.ok encrypted) =>
    e.before.heap[session]?.map fun sess =>
      ⟨sess.send_key, nonce_bytes sess.send_nonce, frame_aad frame.frame_id, frame.payload,
        encrypted.ciphertext⟩
  | _, _ => none

/-- The use of the cipher by a successful `decrypt_frame`. -/
def decryption (e : TransportEntry P) : Option AeadUse :=
  match e.input, e.output with
  | .decrypt_frame session encrypted _, .decrypted (.ok payload) =>
    e.before.heap[session]?.map fun sess =>
      ⟨sess.recv_key, nonce_bytes sess.recv_nonce, frame_aad encrypted.frame_id, payload,
        encrypted.ciphertext⟩
  | _, _ => none

/-- What a step does to the sessions, in the terms of `CounterChannel`. -/
def channel_event (e : TransportEntry P) : Option (CounterChannel.Event ℕ AesKey SealedFrame) :=
  match e.input, e.output with
  | .encrypt_frame session frame _, .encrypted (.ok encrypted) =>
    some (.send session ⟨frame.frame_id, frame.payload, encrypted.ciphertext⟩)
  | .decrypt_frame session encrypted _, .decrypted (.ok payload) =>
    some (.recv session ⟨encrypted.frame_id, payload, encrypted.ciphertext⟩)
  | call, _ =>
    call.origin.map fun o => .join e.before.heap.length (o.send_key P) (o.recv_key P)

end Observations

/-- The two keys of a session. -/
def PqcSession.keys (self : PqcSession) : AesKey × AesKey := (self.send_key, self.recv_key)

/-- A session in the terms of `CounterChannel`. -/
def PqcSession.channel (self : PqcSession) : CounterChannel.Session AesKey :=
  ⟨self.send_key, self.recv_key, self.send_nonce, self.recv_nonce⟩

/-- The sessions of a process in the terms of `CounterChannel`. -/
def Process.view (self : Process) (session : ℕ) : Option (CounterChannel.Session AesKey) :=
  self.heap[session]?.map PqcSession.channel

/-- The four things a step can do. Each case says what becomes of the sessions and how
the step shows in `channel_event`, `encryption` and `decryption`. -/
inductive SessionEffect (P : Primitives) (e : TransportEntry P) (after : Process) : Prop where
  | joined (o : Origin) (sess : PqcSession)
      (horigin : e.input.origin = some o)
      (hnew : sess.channel = ⟨o.send_key P, o.recv_key P, 0, 0⟩)
      (hheap : after.heap = e.before.heap ++ [sess])
      (hevent : channel_event e =
        some (.join e.before.heap.length (o.send_key P) (o.recv_key P)))
      (hencryption : encryption e = none) (hdecryption : decryption e = none)
      (hhandle : e.output.handle = some e.before.heap.length)
  | sealed (session : ℕ) (frame : SealedFrame) (sess sess' : PqcSession)
      (horigin : e.input.origin = none)
      (hsess : e.before.heap[session]? = some sess) (hlimit : sess.send_nonce < 2 ^ 64)
      (hnext : sess'.channel = { sess.channel with sealed := sess.send_nonce + 1 })
      (hheap : after.heap = e.before.heap.set session sess')
      (hevent : channel_event e = some (.send session frame))
      (hencryption : encryption e = some (aead_use (sess.send_key, sess.send_nonce, frame)))
      (hdecryption : decryption e = none) (hhandle : e.output.handle = none)
  | opened (session : ℕ) (frame : SealedFrame) (sess sess' : PqcSession)
      (horigin : e.input.origin = none)
      (hsess : e.before.heap[session]? = some sess) (hlimit : sess.recv_nonce < 2 ^ 64)
      (hnext : sess'.channel = { sess.channel with opened := sess.recv_nonce + 1 })
      (hheap : after.heap = e.before.heap.set session sess')
      (hevent : channel_event e = some (.recv session frame))
      (hencryption : encryption e = none)
      (hdecryption : decryption e = some (aead_use (sess.recv_key, sess.recv_nonce, frame)))
      (hhandle : e.output.handle = none)
  | idle (horigin : e.input.origin = none) (hheap : after.heap = e.before.heap)
      (hevent : channel_event e = none)
      (hencryption : encryption e = none) (hdecryption : decryption e = none)
      (hhandle : e.output.handle = none)

/-! ### The functions behind the calls

One spec for each function of the source: it succeeds and this is what it leaves, or it fails
and leaves everything as it was. -/

section Calls

variable {P : Primitives}

/-- `encrypt` either seals under the next nonce and counts on, or changes nothing. -/
theorem encrypt_spec (sess : PqcSession) (plaintext associated_data : List UInt8)
    (now : UInt64) :
    (∃ ciphertext, sess.send_nonce < 2 ^ 64 ∧
      P.aes_encrypt sess.send_key (nonce_bytes sess.send_nonce) plaintext associated_data =
        .ok ciphertext ∧
      sess.encrypt P plaintext associated_data now =
        (.ok ciphertext, { sess with send_nonce := sess.send_nonce + 1, last_activity := now })) ∨
    ∃ e, sess.encrypt P plaintext associated_data now = (.error e, sess) := by
  unfold PqcSession.encrypt
  by_cases hlimit : sess.send_nonce ≥ 2 ^ 64
  · rw [if_pos hlimit]
    exact Or.inr ⟨_, rfl⟩
  · rw [if_neg hlimit]
    cases haes : P.aes_encrypt sess.send_key (nonce_bytes sess.send_nonce) plaintext
        associated_data with
    | error e => exact Or.inr ⟨_, rfl⟩
    | ok ciphertext => exact Or.inl ⟨ciphertext, by omega, rfl, rfl⟩

/-- `decrypt` either opens under the next nonce and counts on, or changes nothing. -/
theorem decrypt_spec (sess : PqcSession) (ciphertext associated_data : List UInt8)
    (now : UInt64) :
    (∃ plaintext, sess.recv_nonce < 2 ^ 64 ∧
      P.aes_decrypt sess.recv_key (nonce_bytes sess.recv_nonce) ciphertext associated_data =
        .ok plaintext ∧
      sess.decrypt P ciphertext associated_data now =
        (.ok plaintext, { sess with recv_nonce := sess.recv_nonce + 1, last_activity := now })) ∨
    ∃ e, sess.decrypt P ciphertext associated_data now = (.error e, sess) := by
  unfold PqcSession.decrypt
  by_cases hlimit : sess.recv_nonce ≥ 2 ^ 64
  · rw [if_pos hlimit]
    exact Or.inr ⟨_, rfl⟩
  · rw [if_neg hlimit]
    cases haes : P.aes_decrypt sess.recv_key (nonce_bytes sess.recv_nonce) ciphertext
        associated_data with
    | error e => exact Or.inr ⟨_, rfl⟩
    | ok plaintext => exact Or.inl ⟨plaintext, by omega, rfl, rfl⟩

/-- A session `establish_session` returns holds the sender's keys. -/
theorem establish_session_ok {p : Process} {local_kem : HybridKem P}
    {remote_public : HybridPublicKey} {draws : EncapsulationDraws} {session_id now : UInt64}
    {encapsulation : HybridEncapsulation} {secrets : SharedSecrets}
    (h : HybridKem.encapsulation_secrets P remote_public draws = .ok (encapsulation, secrets)) :
    p.establish_session local_kem remote_public draws session_id now =
      (.ok (p.heap.length, encapsulation), p.add_session (PqcSession.new
        (Origin.send_key P ⟨.Sender, secrets⟩) (Origin.recv_key P ⟨.Sender, secrets⟩)
        session_id now)) := by
  unfold Process.establish_session HybridKem.encapsulate_to_peer
  rw [h]
  rfl

theorem establish_session_error {p : Process} {local_kem : HybridKem P}
    {remote_public : HybridPublicKey} {draws : EncapsulationDraws} {session_id now : UInt64}
    {e : PqcError} (h : HybridKem.encapsulation_secrets P remote_public draws = .error e) :
    p.establish_session local_kem remote_public draws session_id now = (.error e, p) := by
  unfold Process.establish_session HybridKem.encapsulate_to_peer
  rw [h]
  rfl

/-- A session `accept_session` returns holds the receiver's keys. -/
theorem accept_session_ok {p : Process} {local_kem : HybridKem P}
    {encapsulation : HybridEncapsulation} {session_id now : UInt64} {secrets : SharedSecrets}
    (h : local_kem.peer_secrets encapsulation = .ok secrets) :
    p.accept_session local_kem encapsulation session_id now =
      (.ok p.heap.length, p.add_session (PqcSession.new
        (Origin.send_key P ⟨.Receiver, secrets⟩) (Origin.recv_key P ⟨.Receiver, secrets⟩)
        session_id now)) := by
  unfold Process.accept_session HybridKem.decapsulate_from_peer
  rw [h]
  rfl

theorem accept_session_error {p : Process} {local_kem : HybridKem P}
    {encapsulation : HybridEncapsulation} {session_id now : UInt64} {e : PqcError}
    (h : local_kem.peer_secrets encapsulation = .error e) :
    p.accept_session local_kem encapsulation session_id now = (.error e, p) := by
  unfold Process.accept_session HybridKem.decapsulate_from_peer
  rw [h]
  rfl

/-! ### The effect of a call

One lemma for each call, put together in `step_effect`. `cleanup_expired` is among the idle
ones: it drops handles from the manager's list, and the sessions are still there for who holds
one. -/

/-- Replacing a session by itself changes nothing. -/
theorem set_same {heap : List PqcSession} {session : ℕ} {sess : PqcSession}
    (h : heap[session]? = some sess) : heap.set session sess = heap := by
  obtain ⟨hlt, rfl⟩ := List.getElem?_eq_some_iff.mp h
  exact List.set_getElem_self hlt

theorem establish_session_effect (p : Process) (local_kem : HybridKem P)
    (remote_public : HybridPublicKey) (draws : EncapsulationDraws) (session_id now : UInt64) :
    let call := .establish_session local_kem remote_public draws session_id now
    SessionEffect P (Mealy.entry (Process.step P) p call) (Process.step P p call).1 := by
  intro call
  cases h : HybridKem.encapsulation_secrets P remote_public draws with
  | error e =>
      have horigin : call.origin = none := by
        simp only [call, TransportCall.origin, h]
      have hstep : Process.step P p call = (p, .established (.error e)) := by
        simp only [call, Process.step, establish_session_error h]
      exact .idle horigin (by rw [hstep]; rfl)
        (by simp only [call, channel_event, Mealy.entry, horigin, Option.map_none]) rfl rfl
        (by rw [Mealy.entry, hstep]; rfl)
  | ok r =>
      obtain ⟨encapsulation, secrets⟩ := r
      have horigin : call.origin = some ⟨.Sender, secrets⟩ := by
        simp only [call, TransportCall.origin, h]
      exact .joined _ _ horigin rfl
        (by simp only [call, Process.step, Mealy.entry, establish_session_ok h]; rfl)
        (by simp only [call, channel_event, Mealy.entry, horigin, Option.map_some]) rfl rfl
        (by simp only [call, Process.step, Mealy.entry, establish_session_ok h]; rfl)

theorem accept_session_effect (p : Process) (local_kem : HybridKem P)
    (encapsulation : HybridEncapsulation) (session_id now : UInt64) :
    let call := .accept_session local_kem encapsulation session_id now
    SessionEffect P (Mealy.entry (Process.step P) p call) (Process.step P p call).1 := by
  intro call
  cases h : local_kem.peer_secrets encapsulation with
  | error e =>
      have horigin : call.origin = none := by
        simp only [call, TransportCall.origin, h]
      have hstep : Process.step P p call = (p, .accepted (.error e)) := by
        simp only [call, Process.step, accept_session_error h]
      exact .idle horigin (by rw [hstep]; rfl)
        (by simp only [call, channel_event, Mealy.entry, horigin, Option.map_none]) rfl rfl
        (by rw [Mealy.entry, hstep]; rfl)
  | ok secrets =>
      have horigin : call.origin = some ⟨.Receiver, secrets⟩ := by
        simp only [call, TransportCall.origin, h]
      exact .joined _ _ horigin rfl
        (by simp only [call, Process.step, Mealy.entry, accept_session_ok h]; rfl)
        (by simp only [call, channel_event, Mealy.entry, horigin, Option.map_some]) rfl rfl
        (by simp only [call, Process.step, Mealy.entry, accept_session_ok h]; rfl)

theorem encrypt_frame_effect (p : Process) (session : ℕ) (frame : TelemetryFrame) (now : UInt64) :
    let call : TransportCall P := .encrypt_frame session frame now
    SessionEffect P (Mealy.entry (Process.step P) p call) (Process.step P p call).1 := by
  intro call
  cases hsess : p.heap[session]? with
  | none =>
      refine .idle rfl ?_ ?_ ?_ rfl ?_
      all_goals simp only [call, Process.step, Mealy.entry, channel_event, encryption,
        TransportCall.origin, TransportReply.handle, hsess, Option.map_none]
  | some sess =>
      obtain ⟨ciphertext, hlimit, -, henc⟩ | ⟨e, henc⟩ :=
        encrypt_spec (P := P) sess frame.payload (frame_aad frame.frame_id) now
      · refine .sealed session ⟨frame.frame_id, frame.payload, ciphertext⟩ sess
          { sess with send_nonce := sess.send_nonce + 1, last_activity := now }
          rfl hsess hlimit rfl ?_ ?_ ?_ ?_ ?_
        all_goals simp only [call, Process.step, Mealy.entry, channel_event, encryption,
          decryption, TransportReply.handle, PqcSession.encrypt_frame, hsess, henc,
          Option.map_some, aead_use]
      · -- the session is written back as it was
        refine .idle rfl ?_ ?_ ?_ ?_ ?_
        all_goals simp only [call, Process.step, Mealy.entry, channel_event, encryption,
          decryption, TransportReply.handle, PqcSession.encrypt_frame, hsess, henc,
          TransportCall.origin, Option.map_none]
        exact set_same hsess

theorem decrypt_frame_effect (p : Process) (session : ℕ) (encrypted : EncryptedFrame)
    (now : UInt64) :
    let call : TransportCall P := .decrypt_frame session encrypted now
    SessionEffect P (Mealy.entry (Process.step P) p call) (Process.step P p call).1 := by
  intro call
  cases hsess : p.heap[session]? with
  | none =>
      refine .idle rfl ?_ ?_ rfl ?_ ?_
      all_goals simp only [call, Process.step, Mealy.entry, channel_event, decryption,
        TransportCall.origin, TransportReply.handle, hsess, Option.map_none]
  | some sess =>
      obtain ⟨plaintext, hlimit, -, hdec⟩ | ⟨e, hdec⟩ :=
        decrypt_spec (P := P) sess encrypted.ciphertext (frame_aad encrypted.frame_id) now
      · refine .opened session ⟨encrypted.frame_id, plaintext, encrypted.ciphertext⟩ sess
          { sess with recv_nonce := sess.recv_nonce + 1, last_activity := now }
          rfl hsess hlimit rfl ?_ ?_ ?_ ?_ ?_
        all_goals simp only [call, Process.step, Mealy.entry, channel_event, encryption,
          decryption, TransportReply.handle, PqcSession.decrypt_frame, hsess, hdec,
          Option.map_some, aead_use]
      · refine .idle rfl ?_ ?_ ?_ ?_ ?_
        all_goals simp only [call, Process.step, Mealy.entry, channel_event, encryption,
          decryption, TransportReply.handle, PqcSession.decrypt_frame, hsess, hdec,
          TransportCall.origin, Option.map_none]
        exact set_same hsess

/-- **One step.** Every call does one of the four things. -/
theorem step_effect (p : Process) (call : TransportCall P) :
    SessionEffect P (Mealy.entry (Process.step P) p call) (Process.step P p call).1 := by
  cases call with
  | establish_session local_kem remote_public draws session_id now =>
      exact establish_session_effect p local_kem remote_public draws session_id now
  | accept_session local_kem encapsulation session_id now =>
      exact accept_session_effect p local_kem encapsulation session_id now
  | encrypt_frame session frame now => exact encrypt_frame_effect p session frame now
  | decrypt_frame session encrypted now => exact decrypt_frame_effect p session encrypted now
  | cleanup_expired clock =>
      -- the manager forgets sessions, but no session object changes
      exact .idle rfl rfl rfl rfl rfl rfl

/-- A session replaced in the heap is replaced in the view. -/
theorem view_set {p : Process} {after : Process} {session : ℕ} {sess sess' : PqcSession}
    (hsess : p.heap[session]? = some sess) (hheap : after.heap = p.heap.set session sess') :
    after.view = Function.update p.view session (some sess'.channel) := by
  obtain ⟨hlt, -⟩ := List.getElem?_eq_some_iff.mp hsess
  funext i
  rw [Process.view, hheap]
  by_cases hi : i = session
  · rw [hi, Function.update_self, List.getElem?_set_self hlt, Option.map_some]
  · rw [Function.update_of_ne hi, List.getElem?_set_ne (Ne.symm hi), Process.view]

/-- A session added to the heap is added to the view. -/
theorem view_add {p : Process} {after : Process} {sess : PqcSession}
    (hheap : after.heap = p.heap ++ [sess]) :
    after.view = Function.update p.view p.heap.length (some sess.channel) := by
  funext i
  rw [Process.view, hheap]
  by_cases hi : i = p.heap.length
  · rw [hi, Function.update_self, List.getElem?_concat_length, Option.map_some]
  · rw [Function.update_of_ne hi, Process.view]
    by_cases hlt : i < p.heap.length
    · rw [List.getElem?_append_left hlt]
    · rw [List.getElem?_eq_none (by simp; omega), List.getElem?_eq_none (by omega)]

/-- The sessions after a step are those `CounterChannel` computes from its event. -/
theorem SessionEffect.view_eq {e : TransportEntry P} {after : Process}
    (h : SessionEffect P e after) :
    after.view = (channel_event e).elim e.before.view (fun ev => ev.apply e.before.view) := by
  have hview : ∀ {session : ℕ} {sess : PqcSession}, e.before.heap[session]? = some sess →
      e.before.view session = some sess.channel := by
    intro session sess hsess
    rw [Process.view, hsess, Option.map_some]
  cases h with
  | joined o sess horigin hnew hheap hevent =>
      rw [hevent, view_add hheap, hnew]
      rfl
  | sealed session frame sess sess' horigin hsess hlimit hnext hheap hevent =>
      rw [hevent, view_set hsess hheap, hnext, Option.elim_some, CounterChannel.Event.apply,
        hview hsess]
      rfl
  | opened session frame sess sess' horigin hsess hlimit hnext hheap hevent =>
      rw [hevent, view_set hsess hheap, hnext, Option.elim_some, CounterChannel.Event.apply,
        hview hsess]
      rfl
  | idle horigin hheap hevent =>
      funext i
      rw [hevent, Option.elim_none, Process.view, Process.view, hheap]

/-! ### The keys in a process

Keys are only written when a session is made. So the keys in the heap are a list of their own,
the keys of the exchanges so far, and a handle is the number of its exchange in that list. -/

/-- Replacing a session by one with the same keys leaves the keys as they are. -/
theorem map_keys_set {heap : List PqcSession} {session : ℕ} {sess sess' : PqcSession}
    (hsess : heap[session]? = some sess) (hsend : sess'.channel.sendKey = sess.send_key)
    (hrecv : sess'.channel.recvKey = sess.recv_key) :
    (heap.set session sess').map PqcSession.keys = heap.map PqcSession.keys := by
  obtain ⟨hlt, rfl⟩ := List.getElem?_eq_some_iff.mp hsess
  have hkeys : sess'.keys = heap[session].keys := Prod.ext hsend hrecv
  have hlt' : session < (heap.map PqcSession.keys).length := by rwa [List.length_map]
  have hget : heap[session].keys = (heap.map PqcSession.keys)[session] := by
    rw [List.getElem_map]
  rw [List.map_set, hkeys, hget, List.set_getElem_self]

/-- What a step does to the keys: it adds those of its key exchange. -/
theorem step_keys (p : Process) (call : TransportCall P) :
    (Process.step P p call).1.heap.map PqcSession.keys =
      p.heap.map PqcSession.keys ++ call.origin.toList.map (Origin.keys P) := by
  cases step_effect p call with
  | joined o sess horigin hnew hheap =>
      simp only [Mealy.entry] at horigin hheap
      simp only [PqcSession.channel, CounterChannel.Session.mk.injEq] at hnew
      rw [hheap, horigin, List.map_append, List.map_singleton, PqcSession.keys, hnew.1, hnew.2.1]
      rfl
  -- a frame moves a counter, and leaves both keys as they are
  | sealed session frame sess sess' horigin hsess hlimit hnext hheap =>
      simp only [Mealy.entry] at horigin hsess hheap
      rw [hheap, horigin, map_keys_set hsess (by rw [hnext]; rfl) (by rw [hnext]; rfl)]
      exact (List.append_nil _).symm
  | opened session frame sess sess' horigin hsess hlimit hnext hheap =>
      simp only [Mealy.entry] at horigin hsess hheap
      rw [hheap, horigin, map_keys_set hsess (by rw [hnext]; rfl) (by rw [hnext]; rfl)]
      exact (List.append_nil _).symm
  | idle horigin hheap =>
      simp only [Mealy.entry] at horigin hheap
      rw [hheap, horigin]
      exact (List.append_nil _).symm

/-- **Where keys come from.** The sessions of a process hold the keys of its key
exchanges, in the order of the calls. -/
theorem heap_keys (session_timeout_secs : UInt64) (calls : List (TransportCall P)) :
    (Mealy.exec (Process.step P) (Process.start session_timeout_secs) calls).1.heap.map
        PqcSession.keys = (origins calls).map (Origin.keys P) := by
  -- the invariant reads the calls made so far off the log
  have hrun := Mealy.exec_induction (Process.step P) (s := Process.start session_timeout_secs)
    (I := fun p log => p.heap.map PqcSession.keys =
      (origins (log.map Mealy.Entry.input).reverse).map (Origin.keys P)) rfl ?_ calls
  · rw [hrun, Mealy.exec_inputs, List.reverse_reverse]
  · intro p log call ih
    rw [step_keys, ih, List.map_cons, List.reverse_cons, origins_concat, List.map_append]
    rfl

/-- Only a key exchange returns a handle, and it is that of the session it added. -/
theorem SessionEffect.of_handle {e : TransportEntry P} {after : Process}
    (h : SessionEffect P e after) {i : ℕ} (hi : e.output.handle = some i) :
    ∃ o, e.input.origin = some o ∧ i = e.before.heap.length := by
  cases h with
  | joined o sess horigin hnew hheap hevent hencryption hdecryption hhandle =>
      exact ⟨o, horigin, Option.some.inj (hi.symm.trans hhandle)⟩
  | sealed _ _ _ _ _ _ _ _ _ _ _ _ hhandle => exact absurd (hhandle.symm.trans hi) nofun
  | opened _ _ _ _ _ _ _ _ _ _ _ _ hhandle => exact absurd (hhandle.symm.trans hi) nofun
  | idle _ _ _ _ _ hhandle => exact absurd (hhandle.symm.trans hi) nofun

/-- A call that returns a handle has made a key exchange, and the handle is the number
of that exchange. -/
theorem handle_origin (session_timeout_secs : UInt64) (calls : List (TransportCall P)) :
    ∀ e ∈ (Mealy.exec (Process.step P) (Process.start session_timeout_secs) calls).2, ∀ i,
      e.output.handle = some i → ∃ o, e.input.origin = some o ∧ (origins calls)[i]? = some o := by
  have hrun := Mealy.exec_induction (Process.step P) (s := Process.start session_timeout_secs)
    (I := fun p log => p.heap.length = (origins (log.map Mealy.Entry.input).reverse).length ∧
      ∀ e ∈ log, ∀ i, e.output.handle = some i → ∃ o, e.input.origin = some o ∧
        (origins (log.map Mealy.Entry.input).reverse)[i]? = some o)
    ⟨rfl, fun e he => absurd he List.not_mem_nil⟩ ?_ calls
  · rw [Mealy.exec_inputs, List.reverse_reverse] at hrun
    exact hrun.2
  · rintro p log call ⟨hlen, hold⟩
    rw [List.map_cons, List.reverse_cons, origins_concat]
    refine ⟨?_, ?_⟩
    · have hkeys := congrArg List.length (step_keys p call)
      simp only [List.length_map, List.length_append] at hkeys
      rw [hkeys, List.length_append, hlen]
      rfl
    · intro e he i hi
      rcases List.mem_cons.mp he with rfl | he
      · -- the new session is the next one of the heap, as its exchange is of the list
        obtain ⟨o, horigin, rfl⟩ := (step_effect p call).of_handle hi
        refine ⟨o, horigin, ?_⟩
        change (origins _ ++ call.origin.toList)[p.heap.length]? = some o
        rw [hlen, show call.origin = some o from horigin]
        exact List.getElem?_concat_length
      · -- the list of exchanges only grows at its end
        obtain ⟨o, ho, hget⟩ := hold e he i hi
        refine ⟨o, ho, ?_⟩
        rw [List.getElem?_append_left (List.getElem?_eq_some_iff.mp hget).1, hget]

end Calls

end SovereignEdgeTee
