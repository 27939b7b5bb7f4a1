/-
Sessions that number what they seal, and open in order.

A session holds two keys and two counters. It seals a message under its send key
and the number of messages it has sealed so far, and it opens a message under its
receive key and the number of messages it has opened so far. Neither number travels
with the message.

A history is the list of what the sessions did, newest event first. Three
facts about histories, for any set of sessions, keys and messages:

* `sealings_nodup`: when no two sessions share a send key, no two messages were
  sealed under the same key and number;
* `received_prefix`: when every message opened had been sealed under the same key
  and number, a session whose receive key is the send key of exactly one session
  has received a prefix of what that session sent;
* `openings_le_sealings`: under the same assumption, a group of sessions with
  pairwise different receive keys opens no message more often than it was sealed.

The uniqueness of the keys is an assumption of each, stated on the sessions
reached: where the keys come from is the business of whoever uses this file.
-/
import Mathlib.Data.List.Perm.Subperm
import Mathlib.Data.List.Nodup
import Mathlib.Logic.Function.Basic

set_option autoImplicit false

namespace CounterChannel

/-- What a session does: it comes into being with its keys, seals a message, or
opens one. -/
inductive Event (H K M : Type*) where
  | join (h : H) (sendKey recvKey : K)
  | send (h : H) (m : M)
  | recv (h : H) (m : M)

/-- What decides the next seal and the next opening of a session. -/
@[ext] structure Session (K : Type*) where
  sendKey : K
  recvKey : K
  sealed : ℕ
  opened : ℕ

variable {H K M : Type*} [DecidableEq H]

/-- The sessions after an event. -/
def Event.apply (e : Event H K M) (v : H → Option (Session K)) : H → Option (Session K) :=
  match e with
  | .join h sk rk => Function.update v h (some ⟨sk, rk, 0, 0⟩)
  | .send h _ => Function.update v h ((v h).map fun s => { s with sealed := s.sealed + 1 })
  | .recv h _ => Function.update v h ((v h).map fun s => { s with opened := s.opened + 1 })

/-- The sessions a history leads to. -/
def view : List (Event H K M) → H → Option (Session K)
  | [] => fun _ => none
  | e :: older => e.apply (view older)

/-- A session joins once, and only a session that has joined seals or opens. -/
def WellKeyed : List (Event H K M) → Prop
  | [] => True
  | .join h _ _ :: older => view older h = none ∧ WellKeyed older
  | .send h _ :: older => (view older h).isSome ∧ WellKeyed older
  | .recv h _ :: older => (view older h).isSome ∧ WellKeyed older

/-- Every message sealed, with the key and the number it was sealed under. -/
def sealings : List (Event H K M) → List (K × ℕ × M)
  | [] => []
  | .send h m :: older =>
    ((view older h).map fun s => (s.sendKey, s.sealed, m)).toList ++ sealings older
  | _ :: older => sealings older

/-- Every message a session of the group `R` opened, with the key and the number
it was opened under. -/
def openings (R : H → Bool) : List (Event H K M) → List (K × ℕ × M)
  | [] => []
  | .recv h m :: older =>
    if R h then ((view older h).map fun s => (s.recvKey, s.opened, m)).toList ++ openings R older
    else openings R older
  | _ :: older => openings R older

/-- The messages session `h` sealed, first one first. -/
def sentBy (h : H) : List (Event H K M) → List M
  | [] => []
  | .send h' m :: older => if h' = h then sentBy h older ++ [m] else sentBy h older
  | _ :: older => sentBy h older

/-- The messages session `h` opened, first one first. -/
def receivedBy (h : H) : List (Event H K M) → List M
  | [] => []
  | .recv h' m :: older =>
    if h' = h then receivedBy h older ++ [m] else receivedBy h older
  | _ :: older => receivedBy h older

/-- Every message sealed, with the session that sealed it. -/
def sends (t : List (Event H K M)) : List (H × M) :=
  t.filterMap fun
    | .send h m => some (h, m)
    | _ => none

/-- Every message opened, with the session that opened it. -/
def recvs (t : List (Event H K M)) : List (H × M) :=
  t.filterMap fun
    | .recv h m => some (h, m)
    | _ => none

/-- An ideal cipher: whatever is opened under a key and a number had been sealed
under that key and number. -/
def Authentic : List (Event H K M) → Prop
  | [] => True
  | .recv h m :: older =>
    (∃ s, view older h = some s ∧ (s.recvKey, s.opened, m) ∈ sealings older) ∧ Authentic older
  | _ :: older => Authentic older

/-! ## One event

An event moves one session, leaves every key as it is and lets no counter fall. `view_mono` says
it for an arbitrary event, and the inductions below use it instead of the three cases. -/

theorem WellKeyed.tail {e : Event H K M} {t : List (Event H K M)} (h : WellKeyed (e :: t)) :
    WellKeyed t := by
  cases e <;> exact h.2

theorem Authentic.tail {e : Event H K M} {t : List (Event H K M)} (h : Authentic (e :: t)) :
    Authentic t := by
  cases e with
  | recv h' m => exact h.2
  | _ => exact h

/-- A session keeps its keys, and its counters never go back. -/
theorem view_mono {e : Event H K M} {t : List (Event H K M)} (hw : WellKeyed (e :: t))
    {h : H} {s : Session K} (hs : view t h = some s) :
    ∃ s', view (e :: t) h = some s' ∧ s'.sendKey = s.sendKey ∧ s'.recvKey = s.recvKey ∧
      s.sealed ≤ s'.sealed ∧ s.opened ≤ s'.opened := by
  simp only [view]
  cases e with
  | join h' sk rk =>
      have hne : h ≠ h' := by
        rintro rfl
        exact absurd hs (by simp [hw.1])
      exact ⟨s, by simp [Event.apply, hne, hs], rfl, rfl, Nat.le_refl _, Nat.le_refl _⟩
  | send h' m =>
      by_cases hh : h = h'
      · subst hh
        exact ⟨{ s with sealed := s.sealed + 1 }, by simp [Event.apply, hs], rfl, rfl,
          Nat.le_succ _, Nat.le_refl _⟩
      · exact ⟨s, by simp [Event.apply, hh, hs], rfl, rfl, Nat.le_refl _, Nat.le_refl _⟩
  | recv h' m =>
      by_cases hh : h = h'
      · subst hh
        exact ⟨{ s with opened := s.opened + 1 }, by simp [Event.apply, hs], rfl, rfl,
          Nat.le_refl _, Nat.le_succ _⟩
      · exact ⟨s, by simp [Event.apply, hh, hs], rfl, rfl, Nat.le_refl _, Nat.le_refl _⟩

/-! ## Who sealed what

A counter counts what its session sealed or opened. `getElem_sentBy` is the lemma the safety of
the channel rests on: if one session only sends under a key, a message sealed under that key and
the number `n` is the `n`th message of that session, counted from zero. Later events do not move
it, since a list of sent messages only grows at its end. -/

/-- Everything sealed under a key was sealed by a session that still holds it, below
that session's counter. -/
theorem mem_sealings {t : List (Event H K M)} (hw : WellKeyed t) {k : K} {n : ℕ} {m : M}
    (hm : (k, n, m) ∈ sealings t) :
    ∃ h s, view t h = some s ∧ s.sendKey = k ∧ n < s.sealed := by
  induction t with
  | nil => simp [sealings] at hm
  | cons e t ih =>
      -- an old sealing keeps its owner, whatever the new event is
      have hold : (k, n, m) ∈ sealings t → ∃ h s, view (e :: t) h = some s ∧
          s.sendKey = k ∧ n < s.sealed := by
        intro hmem
        obtain ⟨h, s, hs, hk, hn⟩ := ih hw.tail hmem
        obtain ⟨s', hs', hk', -, hle, -⟩ := view_mono hw hs
        exact ⟨h, s', hs', by rw [hk', hk], by omega⟩
      cases e with
      | join h' sk rk => exact hold hm
      | recv h' m' => exact hold hm
      | send h' m' =>
          simp only [sealings, List.mem_append, Option.mem_toList,
            Option.map_eq_some_iff, Prod.mk.injEq] at hm
          rcases hm with ⟨s, hs, hk, hn, -⟩ | hm
          · refine ⟨h', { s with sealed := s.sealed + 1 }, ?_, hk, by simp [← hn]⟩
            simp [view, Event.apply, hs]
          · exact hold hm

/-- A session has sent as many messages as its counter says. -/
theorem length_sentBy {t : List (Event H K M)} (hw : WellKeyed t) (h : H) :
    (sentBy h t).length = ((view t h).map Session.sealed).getD 0 := by
  induction t with
  | nil => rfl
  | cons e t ih =>
      have ih := ih hw.tail
      cases e with
      | join h' sk rk =>
          -- who joins was not there before, so its list was empty
          simp only [sentBy, view, Event.apply, ih]
          by_cases hh : h = h'
          · subst hh; simp [hw.1]
          · simp [hh]
      | send h' m =>
          simp only [sentBy, view, Event.apply]
          by_cases hh : h' = h
          · subst hh
            obtain ⟨s, hs⟩ := Option.isSome_iff_exists.mp hw.1
            simp [ih, hs]
          · simp [hh, Ne.symm hh, ih]
      | recv h' m =>
          simp only [sentBy, view, Event.apply, ih]
          by_cases hh : h = h'
          · subst hh; cases hv : view t h <;> simp
          · simp [hh]

/-- A session has received as many messages as its counter says. -/
theorem length_receivedBy {t : List (Event H K M)} (hw : WellKeyed t) (h : H) :
    (receivedBy h t).length = ((view t h).map Session.opened).getD 0 := by
  induction t with
  | nil => rfl
  | cons e t ih =>
      have ih := ih hw.tail
      cases e with
      | join h' sk rk =>
          simp only [receivedBy, view, Event.apply, ih]
          by_cases hh : h = h'
          · subst hh; simp [hw.1]
          · simp [hh]
      | send h' m =>
          simp only [receivedBy, view, Event.apply, ih]
          by_cases hh : h = h'
          · subst hh; cases hv : view t h <;> simp
          · simp [hh]
      | recv h' m =>
          simp only [receivedBy, view, Event.apply]
          by_cases hh : h' = h
          · subst hh
            obtain ⟨s, hs⟩ := Option.isSome_iff_exists.mp hw.1
            simp [ih, hs]
          · simp [hh, Ne.symm hh, ih]

/-- What was sealed under a key only `a` sends with is in `a`'s list, at its number. -/
theorem getElem_sentBy {t : List (Event H K M)} (hw : WellKeyed t) {a : H} {k : K}
    (hown : ∀ h s, view t h = some s → s.sendKey = k → h = a) {n : ℕ} {m : M}
    (hm : (k, n, m) ∈ sealings t) : (sentBy a t)[n]? = some m := by
  induction t with
  | nil => simp [sealings] at hm
  | cons e t ih =>
      -- the owner of the key is the owner now, so it was the owner before the event
      have hown' : ∀ h s, view t h = some s → s.sendKey = k → h = a := by
        intro h s hs hk
        obtain ⟨s', hs', hk', -⟩ := view_mono hw hs
        exact hown h s' hs' (by rw [hk', hk])
      cases e with
      | join h' sk rk => exact ih hw.tail hown' hm
      | recv h' m' => exact ih hw.tail hown' hm
      | send h' m' =>
          simp only [sealings, List.mem_append, Option.mem_toList,
            Option.map_eq_some_iff, Prod.mk.injEq] at hm
          rcases hm with ⟨s, hs, hk, hn, hmm⟩ | hm
          · -- the new message: its number is the length of the list it ends
            have ha : h' = a := hown' h' s hs hk
            subst ha
            have hlen : (sentBy h' t).length = n := by
              rw [length_sentBy hw.tail, hs]
              exact hn
            simp [sentBy, ← hlen, hmm]
          · -- an old message keeps its place when the list grows at its end
            have hget := ih hw.tail hown' hm
            simp only [sentBy]
            by_cases hh : h' = a
            · rw [if_pos hh, List.getElem?_append_left]
              · exact hget
              · exact (List.getElem?_eq_some_iff.mp hget).1
            · rw [if_neg hh, hget]

/-! ## Keys and numbers are used once

Uniqueness of keys is stated of the sessions reached, and `tail` carries it back to every shorter
history, as keys never change. Then a pair of key and number names its session by the key and is
below that session's counter, and the next sealing uses the counter itself. -/

/-- No two sessions of the group send under the same key. -/
def SendKeysUnique (v : H → Option (Session K)) : Prop :=
  ∀ h h' s s', v h = some s → v h' = some s' → s.sendKey = s'.sendKey → h = h'

/-- No two sessions of the group `R` receive under the same key. -/
def RecvKeysUnique (R : H → Bool) (v : H → Option (Session K)) : Prop :=
  ∀ h h' s s', R h → R h' → v h = some s → v h' = some s' → s.recvKey = s'.recvKey → h = h'

theorem SendKeysUnique.tail {e : Event H K M} {t : List (Event H K M)}
    (hw : WellKeyed (e :: t)) (hu : SendKeysUnique (view (e :: t))) : SendKeysUnique (view t) := by
  intro h h' s s' hs hs' hk
  obtain ⟨r, hr, hrk, -⟩ := view_mono hw hs
  obtain ⟨r', hr', hrk', -⟩ := view_mono hw hs'
  exact hu h h' r r' hr hr' (by rw [hrk, hrk', hk])

theorem RecvKeysUnique.tail {R : H → Bool} {e : Event H K M} {t : List (Event H K M)}
    (hw : WellKeyed (e :: t)) (hu : RecvKeysUnique R (view (e :: t))) :
    RecvKeysUnique R (view t) := by
  intro h h' s s' hR hR' hs hs' hk
  obtain ⟨r, hr, -, hrk, -⟩ := view_mono hw hs
  obtain ⟨r', hr', -, hrk', -⟩ := view_mono hw hs'
  exact hu h h' r r' hR hR' hr hr' (by rw [hrk, hrk', hk])

/-- **Nonce discipline.** When every send key belongs to one session, no key and
number are used for two messages. -/
theorem sealings_nodup {t : List (Event H K M)} (hw : WellKeyed t)
    (hu : SendKeysUnique (view t)) :
    ((sealings t).map fun x => (x.1, x.2.1)).Nodup := by
  induction t with
  | nil => simp [sealings]
  | cons e t ih =>
      have ih := ih hw.tail (hu.tail hw)
      cases e with
      | join h' sk rk => exact ih
      | recv h' m' => exact ih
      | send h' m' =>
          obtain ⟨s, hs⟩ := Option.isSome_iff_exists.mp hw.1
          simp only [sealings, hs, Option.map_some, Option.toList_some, List.singleton_append,
            List.map_cons, List.nodup_cons]
          refine ⟨?_, ih⟩
          -- an older use of the same pair would be below the counter it equals
          simp only [List.mem_map, Prod.mk.injEq, Prod.exists, not_exists, not_and]
          intro k n m hm hk hn
          obtain ⟨h, r, hr, hrk, hlt⟩ := mem_sealings hw.tail hm
          have hh : h = h' := hu.tail hw h h' r s hr hs (by rw [hrk, hk])
          subst hh
          have hrs : r = s := Option.some.inj (hr.symm.trans hs)
          subst hrs
          omega

/-! ## What is received was sent

The receiver has opened a prefix, its counter is the length of that prefix, and the next message
it opens was sealed under that number. By `getElem_sentBy` it stands in the sender's list just
behind the prefix, which `prefix_concat_of_getElem` makes a longer prefix. -/

/-- A list that continues a prefix at the right place is still a prefix. -/
theorem prefix_concat_of_getElem {α : Type*} {p l : List α} {x : α} (hp : p <+: l)
    (hx : l[p.length]? = some x) : p ++ [x] <+: l := by
  obtain ⟨r, rfl⟩ := hp
  rw [List.getElem?_append_right (Nat.le_refl _), Nat.sub_self] at hx
  cases r with
  | nil => simp at hx
  | cons y r =>
      have hxy : y = x := by simpa using hx
      subst hxy
      exact ⟨r, by simp⟩

/-- **Channel safety.** When only `a` sends under `k`, and `b` receives under `k`,
what `b` has received is a prefix of what `a` has sent. -/
theorem received_prefix {t : List (Event H K M)} (hw : WellKeyed t) (ha : Authentic t)
    {a b : H} {k : K} (hown : ∀ h s, view t h = some s → s.sendKey = k → h = a)
    (hb : ∀ s, view t b = some s → s.recvKey = k) :
    receivedBy b t <+: sentBy a t := by
  induction t with
  | nil => exact List.nil_prefix
  | cons e t ih =>
      have hown' : ∀ h s, view t h = some s → s.sendKey = k → h = a := by
        intro h s hs hk
        obtain ⟨s', hs', hk', -⟩ := view_mono hw hs
        exact hown h s' hs' (by rw [hk', hk])
      -- so does the receiver keep the key it receives under
      have hb' : ∀ s, view t b = some s → s.recvKey = k := by
        intro s hs
        obtain ⟨s', hs', -, hk', -⟩ := view_mono hw hs
        rw [← hk', hb s' hs']
      have ih := ih hw.tail ha.tail hown' hb'
      cases e with
      | join h' sk rk => exact ih
      | send h' m =>
          simp only [sentBy, receivedBy]
          by_cases hh : h' = a
          · rw [if_pos hh]
            exact ih.trans (List.prefix_append _ _)
          · rwa [if_neg hh]
      | recv h' m =>
          simp only [sentBy, receivedBy]
          by_cases hh : h' = b
          · subst hh
            rw [if_pos rfl]
            -- the message opened was sealed under the number `b` has reached, so it is
            -- the one that comes next in the list of `a`
            obtain ⟨⟨s, hs, hm⟩, -⟩ := ha
            have hlen : (receivedBy h' t).length = s.opened := by
              rw [length_receivedBy hw.tail, hs]
              rfl
            refine prefix_concat_of_getElem ih ?_
            rw [hlen]
            exact getElem_sentBy hw.tail hown' (by rwa [hb' s hs] at hm)
          · rwa [if_neg hh]

/-! ## Nothing is opened twice

The same argument on the receiving side, for a group of sessions with different receive keys. As
what is opened was sealed under the same key and number and no pair is opened twice, counting
gives `openings_le_sealings`: the openings are a sublist, up to order, of the sealings. -/

/-- Everything opened under a key was opened by a session that still holds it, below
that session's counter. -/
theorem mem_openings {R : H → Bool} {t : List (Event H K M)} (hw : WellKeyed t) {k : K} {n : ℕ}
    {m : M} (hm : (k, n, m) ∈ openings R t) :
    ∃ h s, R h ∧ view t h = some s ∧ s.recvKey = k ∧ n < s.opened := by
  induction t with
  | nil => simp [openings] at hm
  | cons e t ih =>
      -- an old opening keeps its owner too
      have hold : (k, n, m) ∈ openings R t → ∃ h s, R h ∧ view (e :: t) h = some s ∧
          s.recvKey = k ∧ n < s.opened := by
        intro hmem
        obtain ⟨h, s, hR, hs, hk, hn⟩ := ih hw.tail hmem
        obtain ⟨s', hs', -, hk', -, hle⟩ := view_mono hw hs
        exact ⟨h, s', hR, hs', by rw [hk', hk], by omega⟩
      cases e with
      | join h' sk rk => exact hold hm
      | send h' m' => exact hold hm
      | recv h' m' =>
          simp only [openings] at hm
          split at hm
          · rename_i hR
            simp only [List.mem_append, Option.mem_toList,
              Option.map_eq_some_iff, Prod.mk.injEq] at hm
            rcases hm with ⟨s, hs, hk, hn, -⟩ | hm
            · refine ⟨h', { s with opened := s.opened + 1 }, hR, ?_, hk, by simp [← hn]⟩
              simp [view, Event.apply, hs]
            · exact hold hm
          · exact hold hm

theorem openings_nodup {R : H → Bool} {t : List (Event H K M)} (hw : WellKeyed t)
    (hu : RecvKeysUnique R (view t)) :
    ((openings R t).map fun x => (x.1, x.2.1)).Nodup := by
  induction t with
  | nil => simp [openings]
  | cons e t ih =>
      have ih := ih hw.tail (hu.tail hw)
      cases e with
      | join h' sk rk => exact ih
      | send h' m' => exact ih
      | recv h' m' =>
          simp only [openings]
          by_cases hR : R h'
          · obtain ⟨s, hs⟩ := Option.isSome_iff_exists.mp hw.1
            simp only [hR, if_true, hs, Option.map_some, Option.toList_some,
              List.singleton_append, List.map_cons, List.nodup_cons]
            refine ⟨?_, ih⟩
            -- as for sealings: an older use would be below the counter it equals
            simp only [List.mem_map, Prod.mk.injEq, Prod.exists, not_exists, not_and]
            intro k n m hm hk hn
            obtain ⟨h, r, hRh, hr, hrk, hlt⟩ := mem_openings hw.tail hm
            have hh : h = h' := hu.tail hw h h' r s hRh hR hr hs (by rw [hrk, hk])
            subst hh
            have hrs : r = s := Option.some.inj (hr.symm.trans hs)
            subst hrs
            omega
          · simpa [hR] using ih

theorem sealings_subset (e : Event H K M) (t : List (Event H K M)) :
    sealings t ⊆ sealings (e :: t) := by
  cases e with
  | send h m => exact List.subset_append_right _ _
  | _ => exact List.Subset.refl _

/-- In an authentic history, what was opened had been sealed under the same key and
number. -/
theorem openings_subset {R : H → Bool} {t : List (Event H K M)} (ha : Authentic t) :
    openings R t ⊆ sealings t := by
  induction t with
  | nil => exact List.Subset.refl _
  | cons e t ih =>
      have ih : openings R t ⊆ sealings (e :: t) :=
        List.Subset.trans (ih ha.tail) (sealings_subset e t)
      cases e with
      | join h' sk rk => exact ih
      | send h' m' => exact ih
      | recv h' m' =>
          obtain ⟨⟨s, hs, hm⟩, -⟩ := ha
          simp only [openings]
          split
          · rw [hs]
            exact List.append_subset.mpr ⟨by simpa [sealings] using hm, ih⟩
          · exact ih

/-- **No replay.** A group of sessions with pairwise different receive keys opens the
messages `p` picks out no more often than they were sealed. -/
theorem openings_le_sealings {R : H → Bool} {t : List (Event H K M)} (hw : WellKeyed t)
    (ha : Authentic t) (hu : RecvKeysUnique R (view t)) (p : K × ℕ × M → Bool) :
    ((openings R t).filter p).length ≤ ((sealings t).filter p).length := by
  have hnd : (openings R t).Nodup := (openings_nodup hw hu).of_map
  refine (List.subperm_of_subset (hnd.filter p) ?_).length_le
  intro x hx
  obtain ⟨hx, hp⟩ := List.mem_filter.mp hx
  exact List.mem_filter.mpr ⟨openings_subset ha hx, hp⟩

/-! ## Messages alone

Whoever uses this file counts messages and does not see keys and numbers. `sends` and `recvs` are
the same lists with the session in place of the key, and in a well keyed history they have the
same messages in the same order. -/

omit [DecidableEq H] in
@[simp] theorem sends_send (h : H) (m : M) (t : List (Event H K M)) :
    sends (.send h m :: t) = (h, m) :: sends t := rfl

omit [DecidableEq H] in
@[simp] theorem recvs_recv (h : H) (m : M) (t : List (Event H K M)) :
    recvs (.recv h m :: t) = (h, m) :: recvs t := rfl

/-- What a session sealed, out of all that was sealed. -/
theorem sentBy_eq (h : H) (t : List (Event H K M)) :
    sentBy h t = (((sends t).filter fun x => x.1 = h).map Prod.snd).reverse := by
  induction t with
  | nil => rfl
  | cons e t ih =>
      cases e with
      | join h' sk rk => exact ih
      | recv h' m => exact ih
      | send h' m =>
          rw [sentBy, sends_send, List.filter_cons]
          by_cases hh : h' = h <;> simp [hh, ih]

/-- What a session opened, out of all that was opened. -/
theorem receivedBy_eq (h : H) (t : List (Event H K M)) :
    receivedBy h t = (((recvs t).filter fun x => x.1 = h).map Prod.snd).reverse := by
  induction t with
  | nil => rfl
  | cons e t ih =>
      cases e with
      | join h' sk rk => exact ih
      | send h' m => exact ih
      | recv h' m =>
          rw [receivedBy, recvs_recv, List.filter_cons]
          by_cases hh : h' = h <;> simp [hh, ih]

theorem map_sealings {t : List (Event H K M)} (hw : WellKeyed t) :
    (sealings t).map (fun x => x.2.2) = (sends t).map Prod.snd := by
  induction t with
  | nil => rfl
  | cons e t ih =>
      have ih := ih hw.tail
      cases e with
      | join h' sk rk => exact ih
      | recv h' m => exact ih
      | send h' m =>
          obtain ⟨s, hs⟩ := Option.isSome_iff_exists.mp hw.1
          rw [sealings, hs, sends_send, List.map_append, ih]
          rfl

theorem map_openings {R : H → Bool} {t : List (Event H K M)} (hw : WellKeyed t) :
    (openings R t).map (fun x => x.2.2) = ((recvs t).filter fun x => R x.1).map Prod.snd := by
  induction t with
  | nil => rfl
  | cons e t ih =>
      have ih := ih hw.tail
      cases e with
      | join h' sk rk => exact ih
      | send h' m => exact ih
      | recv h' m =>
          obtain ⟨s, hs⟩ := Option.isSome_iff_exists.mp hw.1
          rw [openings, hs, recvs_recv, List.filter_cons]
          by_cases hR : R h'
          · rw [if_pos hR, if_pos hR, List.map_append, ih]
            rfl
          · rw [if_neg hR, if_neg hR, ih]

/-- `openings_le_sealings`, for the messages without their keys and numbers. -/
theorem recvs_le_sends {R : H → Bool} {t : List (Event H K M)} (hw : WellKeyed t)
    (ha : Authentic t) (hu : RecvKeysUnique R (view t)) (p : M → Bool) :
    (((recvs t).filter fun x => R x.1).map Prod.snd).countP p ≤
      ((sends t).map Prod.snd).countP p := by
  have hle := openings_le_sealings hw ha hu (fun x => p x.2.2)
  rw [← List.countP_eq_length_filter, ← List.countP_eq_length_filter] at hle
  rw [← map_openings hw, ← map_sealings hw, List.countP_map, List.countP_map]
  exact hle

/-! ## Families of sessions

Several processes, each with sessions of its own, make one family with pairs as handles. An event
of one member moves that member alone, so the histories of the members can be merged and read as
one history of the family. -/

/-- An event of a session of member `k` of a family. -/
def Event.tag {κ : Type*} (k : κ) : Event H K M → Event (κ × H) K M
  | .join h sk rk => .join (k, h) sk rk
  | .send h m => .send (k, h) m
  | .recv h m => .recv (k, h) m

/-- An event of one member moves that member's sessions and no others. -/
theorem Event.apply_tag {κ : Type*} [DecidableEq κ] (u : κ → H → Option (Session K)) (k : κ)
    (e : Event H K M) :
    (e.tag k).apply (fun x => u x.1 x.2) =
      fun x => Function.update u k (e.apply (u k)) x.1 x.2 := by
  funext ⟨k', h'⟩
  by_cases hk : k' = k
  · subst hk
    rw [Function.update_self]
    cases e <;> simp [Event.tag, Event.apply, Function.update_apply]
  · rw [Function.update_of_ne hk]
    cases e <;> simp [Event.tag, Event.apply, hk]

end CounterChannel
