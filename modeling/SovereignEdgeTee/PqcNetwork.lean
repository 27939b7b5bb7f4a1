/-
Processes side by side, and the history of their sessions.

A network is a family of processes. Nothing joins them: any call may come next at
any process, with any encapsulation and any frame as its argument, so an adversary
that drops, repeats, reorders, alters and injects is one that chooses the calls.

A run of the network is followed by the history `CounterChannel` reasons about.
`tracks_exec` is the refinement: the sessions the history leads to are those of the
processes, and the uses of the cipher are the sealings of the history. The cipher's
own guarantee is an assumption on a run, `IdealAead`; it makes the history authentic
(`authentic_exec`).

The keys of the sessions come from the key exchanges of the calls (`session_origin`),
and exchanges that are told apart have different keys.
-/
import SovereignEdgeTee.PqcSessions

set_option autoImplicit false

namespace SovereignEdgeTee

open CounterChannel (Event Session view WellKeyed Authentic sealings SendKeysUnique
  RecvKeysUnique)

variable {P : Primitives} {ι : Type*} [DecidableEq ι]

/-! ## Runs of a network

A network is a product of processes in the sense of `Mealy`, with no link between them. What
an adversary can do is to choose the calls, their order and their arguments, and a theorem
about all runs is about all adversaries. `IdealAead` is the only thing assumed of what they
can compute. -/

/-- A step of a network. -/
abbrev NetworkEntry (P : Primitives) (ι : Type*) :=
  Mealy.Entry (ι → Process) (ι × TransportCall P) TransportReply

/-- The run of the calls `xs` on processes that have just built their managers. -/
def network (P : Primitives) (session_timeout_secs : ι → UInt64)
    (xs : List (ι × TransportCall P)) : (ι → Process) × List (NetworkEntry P ι) :=
  Mealy.exec (Mealy.prodStep (Process.step P)) (fun k => Process.start (session_timeout_secs k))
    xs

/-- The calls of a run of the network, whichever process takes them. -/
def network_calls (xs : List (ι × TransportCall P)) : List (TransportCall P) := xs.map Prod.snd

/-- The sessions of a network: a handle is a process and a session of it. -/
def network_view (w : ι → Process) (x : ι × ℕ) : Option (Session AesKey) := (w x.1).view x.2

/-- What the sessions of the network did, newest event first. -/
def history (log : List (NetworkEntry P ι)) : List (Event (ι × ℕ) AesKey SealedFrame) :=
  log.filterMap fun e => (channel_event (Mealy.localEntry e)).map (Event.tag e.input.1)

/-- The successful encryptions of the network, newest first. -/
def encryptions (log : List (NetworkEntry P ι)) : List AeadUse :=
  log.filterMap fun e => encryption (Mealy.localEntry e)

/-- The frame a step of the network encrypted, with the session it was encrypted on. -/
def sealed_on (e : NetworkEntry P ι) : Option ((ι × ℕ) × SealedFrame) :=
  match e.input.2, e.output with
  | .encrypt_frame session frame _, .encrypted (.ok encrypted) =>
    some ((e.input.1, session), ⟨frame.frame_id, frame.payload, encrypted.ciphertext⟩)
  | _, _ => none

/-- The frame a step of the network decrypted, with the session it was decrypted on. -/
def opened_on (e : NetworkEntry P ι) : Option ((ι × ℕ) × SealedFrame) :=
  match e.input.2, e.output with
  | .decrypt_frame session encrypted _, .decrypted (.ok payload) =>
    some ((e.input.1, session), ⟨encrypted.frame_id, payload, encrypted.ciphertext⟩)
  | _, _ => none

/-- The cipher is ideal in a run: what it decrypts under a key, a nonce and associated
data, it had encrypted under exactly these, and it returns what was encrypted. -/
def IdealAead : List (NetworkEntry P ι) → Prop :=
  Mealy.Guarded fun older e => ∀ u ∈ decryption (Mealy.localEntry e), u ∈ encryptions older

instance (log : List (NetworkEntry P ι)) : Decidable (IdealAead log) :=
  inferInstanceAs (Decidable (Mealy.Guarded _ log))

/-! ## The history refines the run

`Tracks` relates a network to the history its log projects to. The step lemma goes by the four
effects of a call: joining, sealing and opening are the three events of `CounterChannel`, and
an idle call is none. An ideal cipher opens what was sealed, and as a use of the cipher stands
for one key and counter value, what was sealed is found in the history under just these. -/

/-- The history describes the network it belongs to. -/
structure Tracks (w : ι → Process) (log : List (NetworkEntry P ι)) : Prop where
  view_eq : view (history log) = network_view w
  well_keyed : WellKeyed (history log)
  encryptions_eq : encryptions log = (sealings (history log)).map aead_use
  below_limit : ∀ x ∈ sealings (history log), x.2.1 < 2 ^ 64

/-- The entry one step of the network adds to its log. -/
abbrev network_entry (w : ι → Process) (x : ι × TransportCall P) : NetworkEntry P ι :=
  Mealy.entry (Mealy.prodStep (Process.step P)) w x

/-- The effect of a step of the network at the process that takes it. -/
theorem network_effect (w : ι → Process) (x : ι × TransportCall P) :
    SessionEffect P (Mealy.localEntry (network_entry w x)) (Process.step P (w x.1) x.2).1 :=
  step_effect (w x.1) x.2

omit [DecidableEq ι] in
theorem history_cons_some {e : NetworkEntry P ι} {ev : Event ℕ AesKey SealedFrame}
    (h : channel_event (Mealy.localEntry e) = some ev) (log : List (NetworkEntry P ι)) :
    history (e :: log) = ev.tag e.input.1 :: history log := by
  rw [history, List.filterMap_cons, h]
  rfl

omit [DecidableEq ι] in
theorem history_cons_none {e : NetworkEntry P ι} (h : channel_event (Mealy.localEntry e) = none)
    (log : List (NetworkEntry P ι)) : history (e :: log) = history log := by
  rw [history, List.filterMap_cons, h]
  rfl

theorem network_view_step (w : ι → Process) (x : ι × TransportCall P) :
    network_view (Mealy.prodStep (Process.step P) w x).1 =
      (channel_event (Mealy.localEntry (network_entry w x))).elim (network_view w)
        (fun ev => (ev.tag x.1).apply (network_view w)) := by
  have hview := (network_effect w x).view_eq
  have hupdate : network_view (Mealy.prodStep (Process.step P) w x).1 = fun y =>
      Function.update (fun k => (w k).view) x.1 (Process.step P (w x.1) x.2).1.view y.1 y.2 := by
    funext ⟨k, h⟩
    simp only [network_view, Mealy.prodStep]
    by_cases hk : k = x.1
    · subst hk
      rw [Function.update_self, Function.update_self]
    · rw [Function.update_of_ne hk, Function.update_of_ne hk]
  -- the view of the network moves where the process moved
  rw [hupdate, hview]
  cases channel_event (Mealy.localEntry (network_entry w x)) with
  | none =>
      rw [Option.elim_none]
      simp only [Mealy.localEntry, network_entry, Mealy.entry, Function.update_eq_self]
      rfl
  | some ev =>
      rw [Option.elim_some]
      exact (Event.apply_tag (fun k => (w k).view) x.1 ev).symm

/-- The sessions after a step are those the longer history leads to. -/
theorem view_history_step {w : ι → Process} {log : List (NetworkEntry P ι)}
    (hview : view (history log) = network_view w) (x : ι × TransportCall P) :
    view (history (network_entry w x :: log)) =
      network_view (Mealy.prodStep (Process.step P) w x).1 := by
  rw [network_view_step]
  cases hevent : channel_event (Mealy.localEntry (network_entry w x)) with
  | none => rw [history_cons_none hevent, hview, Option.elim_none]
  | some ev =>
      rw [history_cons_some hevent, view, hview, Option.elim_some]
      rfl

/-- A session of a process is in the history under the process and its handle. -/
theorem Tracks.view_session {w : ι → Process} {log : List (NetworkEntry P ι)} (h : Tracks w log)
    {k : ι} {session : ℕ} {sess : PqcSession} (hsess : (w k).heap[session]? = some sess) :
    view (history log) (k, session) = some sess.channel := by
  rw [h.view_eq, network_view, Process.view, hsess, Option.map_some]

/-- A step that encrypts nothing leaves the sealings and the uses of the cipher as they are. -/
theorem Tracks.quiet {w : ι → Process} {log : List (NetworkEntry P ι)} (h : Tracks w log)
    {e : NetworkEntry P ι} (hencryption : encryption (Mealy.localEntry e) = none)
    (hseal : sealings (history (e :: log)) = sealings (history log)) :
    encryptions (e :: log) = (sealings (history (e :: log))).map aead_use ∧
      ∀ y ∈ sealings (history (e :: log)), y.2.1 < 2 ^ 64 := by
  rw [hseal, encryptions, List.filterMap_cons, hencryption]
  exact ⟨h.encryptions_eq, h.below_limit⟩

/-- One step keeps the history in line with the network. -/
theorem Tracks.step {w : ι → Process} {log : List (NetworkEntry P ι)} (ih : Tracks w log)
    (x : ι × TransportCall P) :
    Tracks (Mealy.prodStep (Process.step P) w x).1 (network_entry w x :: log) := by
  have hview := view_history_step ih.view_eq x
  cases network_effect w x with
  | joined o sess horigin hnew hheap hevent hencryption hdecryption =>
      -- the handle of a new session is the first free one
      have hhist := history_cons_some hevent log
      obtain ⟨huses, hlimits⟩ := ih.quiet hencryption (by rw [hhist]; rfl)
      have hfresh : view (history log) (x.1, (w x.1).heap.length) = none := by
        rw [ih.view_eq, network_view, Process.view, List.getElem?_eq_none (Nat.le_refl _)]
        rfl
      refine ⟨hview, ?_, huses, hlimits⟩
      rw [hhist]
      exact ⟨hfresh, ih.well_keyed⟩
  | sealed session frame sess sess' horigin hsess hlimit hnext hheap hevent hencryption =>
      have hhist := history_cons_some hevent log
      have hsession : view (history log) (x.1, session) = some sess.channel :=
        ih.view_session hsess
      -- the new sealing is under the key and the counter the session had before the step
      have hseal : sealings (history (network_entry w x :: log)) =
          (sess.send_key, sess.send_nonce, frame) :: sealings (history log) := by
        rw [hhist]
        change ((view (history log) (x.1, session)).map _).toList ++ _ = _
        rw [hsession]
        rfl
      refine ⟨hview, ?_, ?_, ?_⟩
      · -- only a session that has joined seals
        rw [hhist]
        refine ⟨?_, ih.well_keyed⟩
        exact Option.isSome_of_eq_some hsession
      · rw [encryptions, List.filterMap_cons, hencryption, hseal, List.map_cons,
          ← ih.encryptions_eq]
        rfl
      · intro y hy
        rw [hseal, List.mem_cons] at hy
        rcases hy with rfl | hy
        · exact hlimit
        · exact ih.below_limit y hy
  | opened session frame sess sess' horigin hsess hlimit hnext hheap hevent hencryption =>
      have hhist := history_cons_some hevent log
      obtain ⟨huses, hlimits⟩ := ih.quiet hencryption (by rw [hhist]; rfl)
      refine ⟨hview, ?_, huses, hlimits⟩
      rw [hhist]
      refine ⟨?_, ih.well_keyed⟩
      exact Option.isSome_of_eq_some (ih.view_session hsess)
  | idle horigin hheap hevent hencryption =>
      have hhist := history_cons_none hevent log
      obtain ⟨huses, hlimits⟩ := ih.quiet hencryption (by rw [hhist])
      refine ⟨hview, ?_, huses, hlimits⟩
      rw [hhist]
      exact ih.well_keyed

omit [DecidableEq ι] in
theorem sends_history (log : List (NetworkEntry P ι)) :
    CounterChannel.sends (history log) = log.filterMap sealed_on := by
  rw [CounterChannel.sends, history, List.filterMap_filterMap]
  refine List.filterMap_congr ?_
  rintro ⟨w, ⟨k, call⟩, reply⟩ -
  simp only [channel_event, Mealy.localEntry, sealed_on]
  split <;> simp_all [Event.tag]

omit [DecidableEq ι] in
theorem recvs_history (log : List (NetworkEntry P ι)) :
    CounterChannel.recvs (history log) = log.filterMap opened_on := by
  rw [CounterChannel.recvs, history, List.filterMap_filterMap]
  refine List.filterMap_congr ?_
  rintro ⟨w, ⟨k, call⟩, reply⟩ -
  simp only [channel_event, Mealy.localEntry, opened_on]
  split <;> simp_all [Event.tag]

/-- **Refinement.** The history of every run describes the network the run ends in. -/
theorem tracks_exec (timeouts : ι → UInt64) (xs : List (ι × TransportCall P)) :
    Tracks (network P timeouts xs).1 (network P timeouts xs).2 := by
  refine Mealy.exec_induction (Mealy.prodStep (Process.step P)) (I := Tracks) ?_ ?_ xs
  · refine ⟨?_, trivial, rfl, ?_⟩
    · funext x
      rfl
    · intro x hx
      exact absurd hx List.not_mem_nil
  · intro w log x ih
    exact ih.step x

/-- Under an ideal cipher every history is authentic: what a session opens had been
sealed under its receive key and the number it has reached. -/
theorem authentic_exec (timeouts : ι → UInt64) (xs : List (ι × TransportCall P))
    (hideal : IdealAead (network P timeouts xs).2) :
    Authentic (history (network P timeouts xs).2) := by
  have hrun : Tracks (network P timeouts xs).1 (network P timeouts xs).2 ∧
      Authentic (history (network P timeouts xs).2) := by
    refine Mealy.exec_induction_of (Mealy.prodStep (Process.step P)) (A := IdealAead)
      (I := fun w log => Tracks w log ∧ Authentic (history log))
      (fun e log => Mealy.Guarded.tail e log)
      ⟨tracks_exec timeouts [], trivial⟩ ?_ xs hideal
    rintro w log x ⟨hlast, -⟩ ⟨htracks, hauth⟩
    refine ⟨htracks.step x, ?_⟩
    cases network_effect w x with
    | joined o sess horigin hnew hheap hevent =>
        rw [history_cons_some hevent]
        exact hauth
    | sealed session frame sess sess' horigin hsess hlimit hnext hheap hevent =>
        rw [history_cons_some hevent]
        exact hauth
    | idle horigin hheap hevent =>
        rw [history_cons_none hevent]
        exact hauth
    | opened session frame sess sess' horigin hsess hlimit hnext hheap hevent hencryption
        hdecryption =>
        have hsession : view (history log) (x.1, session) = some sess.channel := by
          rw [htracks.view_eq]
          exact congrArg (Option.map PqcSession.channel) hsess
        -- the cipher opened what it had sealed, and a use of it fixes key, number and frame
        have hmem : aead_use (sess.recv_key, sess.recv_nonce, frame) ∈ encryptions log :=
          hlast _ hdecryption
        rw [htracks.encryptions_eq, List.mem_map] at hmem
        obtain ⟨y, hy, huse⟩ := hmem
        have hyx : y = (sess.recv_key, sess.recv_nonce, frame) :=
          aead_use_inj (htracks.below_limit y hy) hlimit huse
        rw [hyx] at hy
        rw [history_cons_some hevent]
        exact ⟨⟨sess.channel, hsession, hy⟩, hauth⟩
  exact hrun.2

/-! ## The keys of the network

A handle of the network is a process and a number, and the exchange behind it is the one of
that number among the calls of that process. Two handles with one key therefore come from one
exchange on one side of it, and an exchange that was made once has one handle. -/

/-- The key exchange the session with this handle comes from. -/
def origin_of (xs : List (ι × TransportCall P)) (x : ι × ℕ) : Option Origin :=
  (origins (Mealy.partyInputs x.1 xs))[x.2]?

/-- Every session of a run comes from a key exchange of the run, and holds its keys. -/
theorem session_origin {timeouts : ι → UInt64} {xs : List (ι × TransportCall P)} {x : ι × ℕ}
    {s : Session AesKey} (hs : network_view (network P timeouts xs).1 x = some s) :
    ∃ o, origin_of xs x = some o ∧ s.sendKey = o.send_key P ∧ s.recvKey = o.recv_key P := by
  obtain ⟨k, i⟩ := x
  rw [network_view, network, (Mealy.party_exec _ _ xs k).1, Process.view,
    Option.map_eq_some_iff] at hs
  obtain ⟨sess, hsess, rfl⟩ := hs
  -- the process runs by itself on its own calls, so its keys are those of its exchanges
  have hkeys := congrArg (fun l => l[i]?) (heap_keys (timeouts k) (Mealy.partyInputs k xs))
  simp only [List.getElem?_map] at hkeys
  rw [hsess, Option.map_some] at hkeys
  obtain ⟨o, ho, hok⟩ := Option.map_eq_some_iff.mp hkeys.symm
  rw [Origin.keys, PqcSession.keys, Prod.mk.injEq] at hok
  exact ⟨o, ho, hok.1.symm, hok.2.symm⟩

theorem origin_of_mem {xs : List (ι × TransportCall P)} {x : ι × ℕ} {o : Origin}
    (h : origin_of xs x = some o) : o ∈ origins (network_calls xs) := by
  have hmem : o ∈ origins (Mealy.partyInputs x.1 xs) := List.mem_of_getElem? h
  unfold origins Mealy.partyInputs network_calls at *
  rw [List.mem_filterMap] at hmem ⊢
  obtain ⟨call, hcall, ho⟩ := hmem
  obtain ⟨y, hy, rfl⟩ := List.mem_map.mp hcall
  exact ⟨y.2, List.mem_map.mpr ⟨y, (List.mem_filter.mp hy).1, rfl⟩, ho⟩

/-- Sessions that send under one key come from one exchange, on the same side of it. -/
theorem origin_of_send_key {timeouts : ι → UInt64} {xs : List (ι × TransportCall P)}
    (hsha : ShaInjective P (network_calls xs)) {x y : ι × ℕ} {s t : Session AesKey}
    (hs : network_view (network P timeouts xs).1 x = some s)
    (ht : network_view (network P timeouts xs).1 y = some t) (hkey : s.sendKey = t.sendKey) :
    ∃ o, origin_of xs x = some o ∧ origin_of xs y = some o := by
  obtain ⟨o, ho, hsend, -⟩ := session_origin hs
  obtain ⟨o', ho', hsend', -⟩ := session_origin ht
  rw [hsend, hsend', Origin.send_key, Origin.send_key] at hkey
  obtain ⟨hsecrets, hside⟩ := derived_key_inj hsha (origin_of_mem ho) (origin_of_mem ho') hkey
  rw [← origin_ext hsecrets hside] at ho'
  exact ⟨o, ho, ho'⟩

/-- Sessions that receive under one key come from one exchange, on the same side of it. -/
theorem origin_of_recv_key {timeouts : ι → UInt64} {xs : List (ι × TransportCall P)}
    (hsha : ShaInjective P (network_calls xs)) {x y : ι × ℕ} {s t : Session AesKey}
    (hs : network_view (network P timeouts xs).1 x = some s)
    (ht : network_view (network P timeouts xs).1 y = some t) (hkey : s.recvKey = t.recvKey) :
    ∃ o, origin_of xs x = some o ∧ origin_of xs y = some o := by
  obtain ⟨o, ho, -, hrecv⟩ := session_origin hs
  obtain ⟨o', ho', -, hrecv'⟩ := session_origin ht
  rw [hrecv, hrecv', Origin.recv_key, Origin.recv_key] at hkey
  obtain ⟨hsecrets, hside⟩ := derived_key_inj hsha (origin_of_mem ho) (origin_of_mem ho') hkey
  rw [← origin_ext hsecrets (Side.other_inj hside)] at ho'
  exact ⟨o, ho, ho'⟩

/-- Handles of one process with the same key exchange are the same handle, when the
exchanges of that process repeat on neither side. -/
theorem origin_of_inj {xs : List (ι × TransportCall P)} {k : ι}
    (hestablish : (established_secrets (Mealy.partyInputs k xs)).Nodup)
    (haccept : (accepted_secrets (Mealy.partyInputs k xs)).Nodup) {i j : ℕ} {o : Origin}
    (hi : origin_of xs (k, i) = some o) (hj : origin_of xs (k, j) = some o) : i = j := by
  have hnd : (origins (Mealy.partyInputs k xs)).Nodup := by
    refine origins_nodup ?_
    intro side
    cases side with
    | Sender => exact hestablish
    | Receiver => exact haccept
  obtain ⟨hi, hio⟩ := List.getElem?_eq_some_iff.mp hi
  obtain ⟨hj, hjo⟩ := List.getElem?_eq_some_iff.mp hj
  exact (List.Nodup.getElem_inj_iff hnd).mp (hio.trans hjo.symm)

/-- A session of a longer run was there before, or the last call made it. -/
theorem origin_of_concat {xs : List (ι × TransportCall P)} {z : ι × TransportCall P} {x : ι × ℕ}
    {o : Origin} (h : origin_of (xs ++ [z]) x = some o) :
    origin_of xs x = some o ∨
      z.2.origin = some o ∧ x = (z.1, (origins (Mealy.partyInputs z.1 xs)).length) := by
  obtain ⟨k, i⟩ := x
  unfold origin_of Mealy.partyInputs origins at *
  rw [List.filter_append, List.map_append, List.filterMap_append] at h
  by_cases hk : z.1 = k
  · -- the call is one of the process of `x`, whose exchanges it may lengthen
    subst hk
    rw [List.filter_cons_of_pos (by simp), List.filter_nil, List.map_singleton] at h
    cases hz : z.2.origin with
    | none =>
        rw [List.filterMap_cons_none hz, List.filterMap_nil, List.append_nil] at h
        exact Or.inl h
    | some o' =>
        rw [List.filterMap_cons_some hz, List.filterMap_nil, List.getElem?_append] at h
        split at h
        · exact Or.inl h
        · obtain ⟨hlt, rfl⟩ := List.getElem?_eq_some_iff.mp h
          simp only [List.length_singleton] at hlt
          refine Or.inr ⟨by simp, ?_⟩
          rw [Prod.mk.injEq]
          refine ⟨rfl, ?_⟩
          dsimp only at *
          omega
  · rw [List.filter_cons_of_neg (by simpa using hk), List.filter_nil, List.map_nil,
      List.filterMap_nil, List.append_nil] at h
    exact Or.inl h

/-- When a key exchange is made once in a run, one session comes from it. -/
theorem origin_of_once {xs : List (ι × TransportCall P)} {o : Origin}
    (honce : (origins (network_calls xs)).count o ≤ 1) {x y : ι × ℕ}
    (hx : origin_of xs x = some o) (hy : origin_of xs y = some o) : x = y := by
  induction xs using List.reverseRecOn with
  | nil => simp [origin_of, Mealy.partyInputs, origins] at hx
  | append_singleton xs z ih =>
      have hcount : (origins (network_calls (xs ++ [z]))).count o =
          (origins (network_calls xs)).count o + z.2.origin.toList.count o := by
        rw [network_calls, List.map_append, List.map_singleton, origins_concat,
          List.count_append]
        rfl
      -- a session that was there before already counts for one
      have hold : ∀ {w : ι × ℕ}, origin_of xs w = some o →
          1 ≤ (origins (network_calls xs)).count o := by
        intro w hw
        exact List.count_pos_iff.mpr (origin_of_mem hw)
      rcases origin_of_concat hx with hx | ⟨hz, hx⟩ <;>
        rcases origin_of_concat hy with hy | ⟨hz', hy⟩
      · exact ih (by omega) hx hy
      -- an old session and a new one would be two exchanges
      · have hone := hold hx
        rw [hz', Option.toList_some, List.count_singleton_self] at hcount
        omega
      · have hone := hold hy
        rw [hz, Option.toList_some, List.count_singleton_self] at hcount
        omega
      · rw [hx, hy]

end SovereignEdgeTee
