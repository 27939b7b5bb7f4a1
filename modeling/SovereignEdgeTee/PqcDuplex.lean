/-
The two sessions of an exchange over a link that delivers in order and loses nothing.

Both sides seal and open at any time, and frames of both directions are in flight while they
do. A session keeps a key and a counter for each direction, and a call touches one of them. So
a conversation is two directions that do not meet (`InStep`), and in each the opener's counter
is that of the oldest frame in flight. Every frame that is delivered is opened, and to the
payload it was sealed from.
-/
import SovereignEdgeTee.PqcInOrder

set_option autoImplicit false

namespace SovereignEdgeTee

open Mealy

/-- Two sessions and the frames each side has sealed that have not been delivered, oldest
first. -/
structure Conversation where
  session : Side → PqcSession
  in_flight : Side → List EncryptedFrame

/-- A side seals a frame, or the oldest frame a side has in flight reaches the other. -/
inductive ConversationCall where
  | send (side : Side) (frame : TelemetryFrame) (now : UInt64)
  | deliver (side : Side) (now : UInt64)

/-- What the call of the session returned. `no_frame` answers a delivery of nothing. -/
inductive ConversationReply where
  | sent (result : Except PqcError EncryptedFrame)
  | opened (result : Except PqcError (List UInt8))
  | no_frame

abbrev ConversationEntry := Entry Conversation ConversationCall ConversationReply

namespace Conversation

/-- A frame that was sealed is in flight. -/
def put (self : Conversation) (side : Side) : Except PqcError EncryptedFrame → Conversation
  | .ok encrypted =>
    { self with
      in_flight := Function.update self.in_flight side (self.in_flight side ++ [encrypted]) }
  | .error _ => self

def step (P : Primitives) (self : Conversation) :
    ConversationCall → Conversation × ConversationReply
  | .send side frame now =>
    let r := (self.session side).encrypt_frame P frame now
    (({ self with session := Function.update self.session side r.2 }).put side r.1, .sent r.1)
  | .deliver side now =>
    match self.in_flight side with
    | [] => (self, .no_frame)
    | encrypted :: rest =>
      let r := (self.session side.other).decrypt_frame P encrypted now
      ({ session := Function.update self.session side.other r.2
         in_flight := Function.update self.in_flight side rest }, .opened r.1)

/-- The conversation of two sessions before their first call. -/
def start (sender receiver : PqcSession) : Conversation where
  session
    | .Sender => sender
    | .Receiver => receiver
  in_flight _ := []

/-- The payloads `side` has sealed, oldest first. -/
def sealed_by (side : Side) : List ConversationEntry → List (List UInt8)
  | [] => []
  | e :: older =>
    match e.input, e.output with
    | .send sealer frame _, .sent (.ok _) =>
      if sealer = side then sealed_by side older ++ [frame.payload] else sealed_by side older
    | _, _ => sealed_by side older

/-- What the deliveries of the frames of `side` were opened to, oldest first. -/
def opened_of (side : Side) : List ConversationEntry → List (Except PqcError (List UInt8))
  | [] => []
  | e :: older =>
    match e.input, e.output with
    | .deliver sealer _, .opened result =>
      if sealer = side then opened_of side older ++ [result] else opened_of side older
    | _, _ => opened_of side older

end Conversation

/-! ## One direction

`InStep` relates a sealer, an opener and what is between them: the frames in flight were
sealed under consecutive counters, from the opener's up to the sealer's. Sealing adds one at
the end and delivering takes one from the front, and the other direction of either session is
not mentioned. -/

section InStep

variable {P : Primitives}

/-- The frames of one direction are sealed from the opener's counter up to the sealer's, and
what was opened is what was sealed, less what is in flight. -/
structure InStep (P : Primitives) (sealer opener : PqcSession) (in_flight : List EncryptedFrame)
    (payloads : List (List UInt8)) (results : List (Except PqcError (List UInt8)))
    (pairs : List (TelemetryFrame × EncryptedFrame)) : Prop where
  frames : in_flight = pairs.map Prod.snd
  key : sealer.send_key = opener.recv_key
  counter : sealer.send_nonce = opener.recv_nonce + pairs.length
  frames_sealed : SealedFrom P opener.recv_key opener.recv_nonce pairs
  opened : results ++ pairs.map (fun x => .ok x.1.payload) = payloads.map .ok

/-- The two directions of a session do not meet. -/
theorem InStep.congr {sealer sealer' opener opener' : PqcSession} {in_flight : List EncryptedFrame}
    {payloads : List (List UInt8)} {results : List (Except PqcError (List UInt8))}
    {pairs : List (TelemetryFrame × EncryptedFrame)}
    (h : InStep P sealer opener in_flight payloads results pairs)
    (hsend : sealer'.send_key = sealer.send_key ∧ sealer'.send_nonce = sealer.send_nonce)
    (hrecv : opener'.recv_key = opener.recv_key ∧ opener'.recv_nonce = opener.recv_nonce) :
    InStep P sealer' opener' in_flight payloads results pairs := by
  refine ⟨h.frames, ?_, ?_, ?_, h.opened⟩
  · rw [hsend.1, hrecv.1, h.key]
  · rw [hsend.2, hrecv.2, h.counter]
  · rw [hrecv.1, hrecv.2]
    exact h.frames_sealed

theorem SealedFrom.concat {key : AesKey} {n : ℕ} {pairs : List (TelemetryFrame × EncryptedFrame)}
    (h : SealedFrom P key n pairs) {x : TelemetryFrame × EncryptedFrame}
    (hx : SealedFrom P key (n + pairs.length) [x]) : SealedFrom P key n (pairs ++ [x]) := by
  induction pairs generalizing n with
  | nil => exact hx
  | cons y pairs ih =>
      obtain ⟨hy, hrest⟩ := h
      refine ⟨hy, ih hrest ?_⟩
      rw [List.length_cons, Nat.add_comm pairs.length 1, ← Nat.add_assoc] at hx
      exact hx

/-- What `encrypt_frame` does to a session: it seals under the counter and counts on, or it
changes nothing. -/
theorem encrypt_frame_cases (sess : PqcSession) (frame : TelemetryFrame) (now : UInt64) :
    (∃ encrypted, sess.encrypt_frame P frame now =
        (.ok encrypted, { sess with send_nonce := sess.send_nonce + 1, last_activity := now }) ∧
      SealedFrom P sess.send_key sess.send_nonce [(frame, encrypted)]) ∨
    ∃ e, sess.encrypt_frame P frame now = (.error e, sess) := by
  obtain ⟨ciphertext, hlimit, haes, hencrypt⟩ | ⟨e, herror⟩ :=
    encrypt_spec (P := P) sess frame.payload (frame_aad frame.frame_id) now
  · refine Or.inl ⟨⟨frame.frame_id, Vector.replicate 12 0, ciphertext, Vector.replicate 16 0⟩,
      ?_, ⟨hlimit, rfl, haes⟩, trivial⟩
    rw [PqcSession.encrypt_frame, hencrypt]
  · refine Or.inr ⟨e, ?_⟩
    rw [PqcSession.encrypt_frame, herror]

variable {sealer opener : PqcSession} {in_flight : List EncryptedFrame}
  {payloads : List (List UInt8)} {results : List (Except PqcError (List UInt8))}
  {pairs : List (TelemetryFrame × EncryptedFrame)}

/-- A frame more is sealed. -/
theorem InStep.seal (h : InStep P sealer opener in_flight payloads results pairs)
    {frame : TelemetryFrame} {encrypted : EncryptedFrame}
    (hsealed : SealedFrom P sealer.send_key sealer.send_nonce [(frame, encrypted)])
    (now : UInt64) :
    InStep P { sealer with send_nonce := sealer.send_nonce + 1, last_activity := now } opener
      (in_flight ++ [encrypted]) (payloads ++ [frame.payload]) results
      (pairs ++ [(frame, encrypted)]) := by
  refine ⟨?_, h.key, ?_, ?_, ?_⟩
  · rw [h.frames, List.map_append]
    rfl
  · rw [List.length_append, List.length_singleton, ← Nat.add_assoc, ← h.counter]
  · -- the new frame is sealed under the counter behind those in flight
    rw [h.key, h.counter] at hsealed
    exact h.frames_sealed.concat hsealed
  · rw [List.map_append, ← List.append_assoc, h.opened, List.map_append]
    rfl

/-- The oldest frame in flight is delivered, and opened. -/
theorem InStep.deliver (haead : P.AeadCorrect) {frame : TelemetryFrame} {encrypted : EncryptedFrame}
    (h : InStep P sealer opener in_flight payloads results ((frame, encrypted) :: pairs))
    (now : UInt64) :
    opener.decrypt_frame P encrypted now =
        (.ok frame.payload,
          { opener with recv_nonce := opener.recv_nonce + 1, last_activity := now }) ∧
      InStep P sealer { opener with recv_nonce := opener.recv_nonce + 1, last_activity := now }
        (pairs.map Prod.snd) payloads (results ++ [.ok frame.payload]) pairs := by
  obtain ⟨⟨hlimit, hid, haes⟩, hrest⟩ := h.frames_sealed
  refine ⟨decrypt_frame_sealed haead hlimit hid haes, rfl, h.key, ?_, hrest, ?_⟩
  · rw [h.counter, List.length_cons]
    show _ = opener.recv_nonce + 1 + pairs.length
    omega
  · rw [List.append_assoc, ← h.opened]
    rfl

end InStep

/-! ## Both directions

A call moves one side's send counter or the other side's receive counter. `InStep.congr` says
that a direction does not notice the rest of a session, so each call has one direction to
prove something about and one to leave alone. -/

theorem Side.other_ne (side : Side) : side.other ≠ side := by
  cases side <;> decide

theorem Side.other_other (side : Side) : side.other.other = side := by
  cases side <;> rfl

theorem Side.eq_other_of_ne {s side : Side} (h : s ≠ side) : s = side.other := by
  revert h
  cases s <;> cases side <;> decide

namespace Conversation

variable {P : Primitives}

/-- Both directions are in step. -/
def Conversing (P : Primitives) (self : Conversation) (log : List ConversationEntry) : Prop :=
  ∀ side, ∃ pairs, InStep P (self.session side) (self.session side.other) (self.in_flight side)
    (sealed_by side log) (opened_of side log) pairs

section Log

variable (self : Conversation) (log : List ConversationEntry) (side sealer : Side)
  (frame : TelemetryFrame) (now : UInt64)

theorem sealed_by_sent (encrypted : EncryptedFrame) :
    sealed_by side (⟨self, .send sealer frame now, .sent (.ok encrypted)⟩ :: log) =
      if sealer = side then sealed_by side log ++ [frame.payload] else sealed_by side log := rfl

theorem opened_of_opened (result : Except PqcError (List UInt8)) :
    opened_of side (⟨self, .deliver sealer now, .opened result⟩ :: log) =
      if sealer = side then opened_of side log ++ [result] else opened_of side log := rfl

end Log

variable {self : Conversation} {log : List ConversationEntry} (h : Conversing P self log)

include h

/-- A frame is sealed: the direction of the sealer gets it, and the other does not notice. -/
theorem conversing_send (side : Side) (frame : TelemetryFrame) (now : UInt64) :
    Conversing P (self.step P (.send side frame now)).1
      (entry (step P) self (.send side frame now) :: log) := by
  obtain ⟨encrypted, hencrypt, hsealed⟩ | ⟨e, herror⟩ :=
    encrypt_frame_cases (P := P) (self.session side) frame now
  · have hstep : self.step P (.send side frame now) =
        (⟨Function.update self.session side { self.session side with
            send_nonce := (self.session side).send_nonce + 1, last_activity := now },
          Function.update self.in_flight side (self.in_flight side ++ [encrypted])⟩,
          .sent (.ok encrypted)) := by
      rw [step, hencrypt]
      rfl
    rw [entry, hstep]
    intro s
    dsimp only
    rw [sealed_by_sent]
    by_cases hs : side = s
    · -- the direction of the sealer has a frame more
      subst hs
      obtain ⟨pairs, hpairs⟩ := h side
      refine ⟨pairs ++ [(frame, encrypted)], ?_⟩
      rw [if_pos rfl, Function.update_self, Function.update_self,
        Function.update_of_ne side.other_ne]
      exact hpairs.seal hsealed now
    · -- in the other direction the sealer opens, with the counter and key it had
      obtain ⟨pairs, hpairs⟩ := h s
      refine ⟨pairs, ?_⟩
      obtain rfl := Side.eq_other_of_ne (Ne.symm hs)
      rw [side.other_other] at hpairs ⊢
      rw [if_neg hs, Function.update_of_ne (Ne.symm hs), Function.update_of_ne (Ne.symm hs),
        Function.update_self]
      exact hpairs.congr ⟨rfl, rfl⟩ ⟨rfl, rfl⟩
  · have hstep : self.step P (.send side frame now) = (self, .sent (.error e)) := by
      -- a failed call gives the session back as it was
      rw [step, herror]
      show ({ self with session := Function.update self.session side (self.session side) }, _) = _
      rw [Function.update_eq_self]
    rw [entry, hstep]
    exact h

/-- The oldest frame of a side is delivered: the other side opens it. -/
theorem conversing_deliver (haead : P.AeadCorrect) (side : Side) (now : UInt64) :
    Conversing P (self.step P (.deliver side now)).1
      (entry (step P) self (.deliver side now) :: log) := by
  obtain ⟨pairs, hpairs⟩ := h side
  have hframes := hpairs.frames
  cases pairs with
  | nil =>
      have hstep : self.step P (.deliver side now) = (self, .no_frame) := by
        rw [step, hframes]
        rfl
      rw [entry, hstep]
      exact h
  | cons x pairs =>
      obtain ⟨hopened, hnext⟩ := hpairs.deliver haead now
      have hstep : self.step P (.deliver side now) =
          (⟨Function.update self.session side.other { self.session side.other with
              recv_nonce := (self.session side.other).recv_nonce + 1, last_activity := now },
            Function.update self.in_flight side (pairs.map Prod.snd)⟩,
            .opened (.ok x.1.payload)) := by
        rw [step, hframes]
        show (_, _) = _
        rw [hopened]
      rw [entry, hstep]
      intro s
      dsimp only
      rw [opened_of_opened]
      by_cases hs : side = s
      · -- the direction of the frame has one less in flight
        subst hs
        refine ⟨pairs, ?_⟩
        rw [if_pos rfl, Function.update_self, Function.update_self,
          Function.update_of_ne (Ne.symm side.other_ne)]
        exact hnext
      · -- in the other direction the opener seals, and `recv_nonce` is not its counter
        obtain ⟨others, hothers⟩ := h s
        refine ⟨others, ?_⟩
        obtain rfl := Side.eq_other_of_ne (Ne.symm hs)
        rw [side.other_other] at hothers ⊢
        rw [if_neg hs, Function.update_self, Function.update_of_ne hs,
          Function.update_of_ne (Ne.symm hs)]
        exact hothers.congr ⟨rfl, rfl⟩ ⟨rfl, rfl⟩

omit h

/-- **A conversation.** Two sessions of an exchange seal and open over a link that delivers in
order and loses nothing, in both directions at once. However the calls are interleaved, every
frame that is delivered is opened, and what a side's frames were opened to is what it sealed,
in order, but for the payloads of the frames that are still in flight. -/
theorem conversation_opens (hdh : P.DhCommutes) (hkem : P.MlKemCorrect) (haead : P.AeadCorrect)
    {sender receiver : PqcSession} (hexchanged : Exchanged P sender receiver)
    (calls : List ConversationCall) (side : Side) :
    let r := exec (step P) (start sender receiver) calls
    ∃ pending : List (List UInt8), pending.length = (r.1.in_flight side).length ∧
      opened_of side r.2 ++ pending.map .ok = (sealed_by side r.2).map .ok := by
  intro r
  have hcrossed := hexchanged.crossed hdh hkem
  obtain ⟨hsender_send, hsender_recv, hreceiver_send, hreceiver_recv⟩ := hcrossed.unused
  have hstart : Conversing P (start sender receiver) [] := by
    intro side
    cases side with
    | Sender =>
        refine ⟨[], rfl, hcrossed.recv_key.symm, ?_, trivial, rfl⟩
        exact hsender_send.trans hreceiver_recv.symm
    | Receiver =>
        refine ⟨[], rfl, hcrossed.send_key.symm, ?_, trivial, rfl⟩
        exact hreceiver_send.trans hsender_recv.symm
  -- from here on the two sides need not be told apart
  have hrun : Conversing P r.1 r.2 := by
    refine exec_induction (step P) hstart ?_ calls
    intro self log call h
    cases call with
    | send side frame now => exact conversing_send h side frame now
    | deliver side now => exact conversing_deliver h haead side now
  obtain ⟨pairs, hpairs⟩ := hrun side
  refine ⟨pairs.map fun x => x.1.payload, ?_, ?_⟩
  · rw [hpairs.frames, List.length_map, List.length_map]
  · rw [← hpairs.opened, List.map_map]
    rfl

/-- Frames of both directions in flight at once. -/
theorem conversation_opens_crossing :
    let r := exec (step .transparent) (start sender_session receiver_session)
      [.send .Sender (Transparent.telemetry 1 [7]) 0,
        .send .Receiver (Transparent.telemetry 1 [8]) 0,
        .send .Sender (Transparent.telemetry 2 [9]) 0, .deliver .Receiver 0, .deliver .Sender 0]
    ∃ pending : List (List UInt8), pending.length = (r.1.in_flight .Sender).length ∧
      opened_of .Sender r.2 ++ pending.map .ok = (sealed_by .Sender r.2).map .ok :=
  conversation_opens Primitives.transparent_dh Primitives.transparent_mlkem
    Primitives.transparent_aead exchanged_transparent _ .Sender

end Conversation

end SovereignEdgeTee
