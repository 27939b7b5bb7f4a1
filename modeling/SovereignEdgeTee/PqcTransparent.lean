/-
A transparent instance of the primitives: it has the algebra of the real ones and
none of their secrecy, and it can be evaluated.

* The Diffie-Hellman function commutes, and it ignores the top bit of a public key,
  as X25519 does.
* The ML-KEM stand-in masks its secret with the encapsulation key, which is half of
  the seed.
* The cipher leaves the message as it is and appends a tag of the nonce and of two
  sums, of the key and of the associated data.
-/
import SovereignEdgeTee.PqcSessions
import Mathlib.Data.List.GetD

set_option autoImplicit false

namespace SovereignEdgeTee.Transparent

/-! ## The primitives

Each is the simplest function with the algebra that the theorems assume, so that these can be
applied to runs that the kernel evaluates. None of them is secret, and `sha256` is no hash; it
is injective on the few inputs that these runs have. -/

/-- The first 32 bytes of a list, filled up with zeros. -/
def bytes32 (x : List UInt8) : Vector UInt8 32 :=
  ⟨((x ++ List.replicate 32 0).take 32).toArray, by simp⟩

/-- Byte by byte exclusive or. -/
def mask (x y : List UInt8) : List UInt8 := List.zipWith (fun a b => a ^^^ b) x y

/-- A public key without its top bit. -/
def clear_top_bit (u : Vector UInt8 32) : Vector UInt8 32 := u.set 31 (u[31] &&& 0x7F)

/-- A public key with its top bit the other way. -/
def toggle_top_bit (u : Vector UInt8 32) : Vector UInt8 32 := u.set 31 (u[31] ^^^ 0x80)

def diffie_hellman (a u : Vector UInt8 32) : Vector UInt8 32 :=
  bytes32 (mask (clear_top_bit a).toList (clear_top_bit u).toList)

def mlkem_public (seed : Vector UInt8 64) : List UInt8 := seed.toList.take 32

def mlkem_encapsulate (ek : List UInt8) (m : Vector UInt8 32) : List UInt8 × Vector UInt8 32 :=
  (mask ek m.toList, m)

def mlkem_decapsulate (seed : Vector UInt8 64) (ct : List UInt8) : Vector UInt8 32 :=
  bytes32 (mask (mlkem_public seed) ct)

/-- The two halves of a 64-byte input, added up, in place of a hash. -/
def sha256 (x : List UInt8) : Vector UInt8 32 :=
  bytes32 (List.zipWith (fun a b => a + 31 * b + 7) (x.take 32) (x.drop 32))

def add_up (x : List UInt8) : UInt8 := x.foldr (· + ·) 0

/-- The sixteen bytes of the tag: the nonce, and the sums of key and associated data. -/
def tag (key : Vector UInt8 32) (nonce associated_data : List UInt8) : List UInt8 :=
  nonce ++ [add_up key.toList, add_up associated_data, 0, 0]

def aes_encrypt (key : Vector UInt8 32) (nonce msg associated_data : List UInt8) :
    Except String (List UInt8) :=
  .ok (msg ++ tag key nonce associated_data)

def aes_decrypt (key : Vector UInt8 32) (nonce ciphertext associated_data : List UInt8) :
    Except String (List UInt8) :=
  if tag key nonce associated_data <:+ ciphertext then
    .ok (ciphertext.take (ciphertext.length - (tag key nonce associated_data).length))
  else .error "aead::Error"

theorem diffie_hellman_comm (a b : Vector UInt8 32) :
    diffie_hellman a b = diffie_hellman b a := by
  unfold diffie_hellman mask
  rw [List.zipWith_comm_of_comm (fun x y => UInt8.xor_comm x y)]

/-- Masking twice with the same bytes gives back what was masked. -/
theorem mask_mask {x y : List UInt8} (h : x.length = y.length) : mask x (mask x y) = y := by
  unfold mask
  refine List.ext_getElem (by simp [h]) ?_
  intro i h1 h2
  rw [List.getElem_zipWith, List.getElem_zipWith, ← UInt8.xor_assoc, UInt8.xor_self,
    UInt8.zero_xor]

theorem bytes32_toList (v : Vector UInt8 32) : bytes32 v.toList = v := by
  rw [← Vector.toList_inj]
  simp [bytes32, Vector.toList]

theorem mlkem_decapsulate_encapsulate (seed : Vector UInt8 64) (m : Vector UInt8 32) :
    mlkem_decapsulate seed (mlkem_encapsulate (mlkem_public seed) m).1 = m := by
  unfold mlkem_decapsulate mlkem_encapsulate
  rw [mask_mask (by simp [mlkem_public]), bytes32_toList]

theorem aes_decrypt_encrypt {key : Vector UInt8 32} {nonce msg associated_data c : List UInt8}
    (h : aes_encrypt key nonce msg associated_data = .ok c) :
    aes_decrypt key nonce c associated_data = .ok msg := by
  have hc : msg ++ tag key nonce associated_data = c := Except.ok.inj h
  rw [aes_decrypt, ← hc, if_pos (List.suffix_append _ _), List.length_append,
    Nat.add_sub_cancel, List.take_left]

end SovereignEdgeTee.Transparent

namespace SovereignEdgeTee

/-- The transparent primitives. -/
def Primitives.transparent : Primitives where
  x25519_public := id
  diffie_hellman := Transparent.diffie_hellman
  mlkem_public := Transparent.mlkem_public
  mlkem_ek_len := 32
  mlkem_ek_valid := fun _ => true
  mlkem_encapsulate := Transparent.mlkem_encapsulate
  mlkem_ct_len := 32
  mlkem_decapsulate := Transparent.mlkem_decapsulate
  sha256 := Transparent.sha256
  aes_encrypt := Transparent.aes_encrypt
  aes_decrypt := Transparent.aes_decrypt

namespace Primitives

theorem transparent_dh : transparent.DhCommutes := Transparent.diffie_hellman_comm

theorem transparent_mlkem : transparent.MlKemCorrect := Transparent.mlkem_decapsulate_encapsulate

theorem transparent_aead : transparent.AeadCorrect :=
  fun _ _ _ _ _ => Transparent.aes_decrypt_encrypt

end Primitives

/-! ## A sender and a receiver

The runs of the later files are made of these: key pairs, draws and frames for a sender and a
receiver, numbered by exchange, and the frame on the wire as the sender would have sealed it. -/

namespace Transparent

/-- The key pair of a sender. -/
def sender_kem : HybridKem .transparent :=
  .generate .transparent (Vector.replicate 32 5) (Vector.replicate 64 6)

/-- The key pair of a receiver. -/
def receiver_kem : HybridKem .transparent :=
  .generate .transparent (Vector.replicate 32 9) (Vector.replicate 64 10)

/-- The draws of the sender's `n`-th key exchange. -/
def draws (n : UInt8) : EncapsulationDraws :=
  ⟨Vector.replicate 32 n, Vector.replicate 32 (n + 100)⟩

/-- The encapsulation the sender's `n`-th key exchange sends to the receiver. -/
def encapsulation (n : UInt8) : HybridEncapsulation :=
  ⟨(draws n).eph_x25519_secret,
    (mlkem_encapsulate receiver_kem.local_public.mlkem_pubkey (draws n).mlkem_message).1⟩

/-- The sender's `n`-th call of `establish_session`. -/
def establish (n : UInt8) : TransportCall .transparent :=
  .establish_session sender_kem receiver_kem.local_public (draws n) n.toUInt64 0

/-- The receiver's call of `accept_session` on an encapsulation. -/
def accept (encapsulation : HybridEncapsulation) : TransportCall .transparent :=
  .accept_session receiver_kem encapsulation 0 0

/-- The shared secrets of the sender's `n`-th key exchange. -/
def exchange_secrets (n : UInt8) : SharedSecrets :=
  ⟨diffie_hellman (draws n).eph_x25519_secret receiver_kem.local_public.x25519_pubkey,
    (draws n).mlkem_message⟩

/-- The frame that `side` of the `n`-th key exchange puts on the wire under a counter
value. -/
def wire (n : UInt8) (side : Side) (counter : ℕ) (frame : TelemetryFrame) : EncryptedFrame :=
  ⟨frame.frame_id, Vector.replicate 12 0,
    frame.payload ++ tag (derived_key .transparent (exchange_secrets n) side)
      (nonce_bytes counter) (frame_aad frame.frame_id),
    Vector.replicate 16 0⟩

/-- A frame with this id and this payload. -/
def telemetry (frame_id : UInt64) (payload : List UInt8) : TelemetryFrame :=
  ⟨frame_id, "10.0.0.1", none, 0, payload⟩

end Transparent

end SovereignEdgeTee
