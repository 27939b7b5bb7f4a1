/-
Runs of a deterministic machine that answers every input it is given.

The machine is a bare step function `σ → ι → σ × ο`. A run keeps, beside the
state it reaches, the log of its steps: the state a step started from, its
input and its output. Every ghost quantity of a development (what was sent,
what was accepted, which keys were drawn) is a projection of that log, so no
model has to carry ghost fields in its states.

The log is kept newest entry first. Every predicate on a run is then a plain
recursion on a list whose tail is the run before the last step, and the rules of
this file are the only inductions over runs there are: `exec_induction` for what
holds along a run, `exec_erase` for inputs that change nothing, `exec_simulation`
for two machines, `exec_commutes` for inputs that can be reordered.

The last section runs a family of machines side by side: an input names the party
that takes it, and `party_exec` says that the part of a run one party sees is a
run of that party alone.
-/
import Mathlib.Data.List.Forall2
import Mathlib.Data.List.Induction
import Mathlib.Logic.Function.Basic

set_option autoImplicit false

namespace Mealy

/-- One step of a run: the state it started from, its input, its output. -/
structure Entry (σ ι ο : Type*) where
  before : σ
  input : ι
  output : ο

variable {σ ι ο : Type*}

/-- The entry the step from `s` on `i` leaves in the log. -/
def entry (step : σ → ι → σ × ο) (s : σ) (i : ι) : Entry σ ι ο := ⟨s, i, (step s i).2⟩

/-- One step of a run, on the state and the log together. -/
def advance (step : σ → ι → σ × ο) (c : σ × List (Entry σ ι ο)) (i : ι) :
    σ × List (Entry σ ι ο) :=
  ((step c.1 i).1, entry step c.1 i :: c.2)

/-- The run of `step` from `s` on the inputs `is`: the state it ends in, and its
log, newest entry first. -/
def exec (step : σ → ι → σ × ο) (s : σ) (is : List ι) : σ × List (Entry σ ι ο) :=
  is.foldl (advance step) (s, [])

@[simp] theorem exec_nil (step : σ → ι → σ × ο) (s : σ) : exec step s [] = (s, []) := rfl

/-- A run extended by one input is one more step. -/
theorem exec_concat (step : σ → ι → σ × ο) (s : σ) (is : List ι) (i : ι) :
    exec step s (is ++ [i]) = advance step (exec step s is) i := by
  simp only [exec, List.foldl_append, List.foldl_cons, List.foldl_nil]

/-- A run in two parts: the second part starts where the first one ends. -/
theorem exec_append (step : σ → ι → σ × ο) (s : σ) (is later : List ι) :
    exec step s (is ++ later) =
      ((exec step (exec step s is).1 later).1,
        (exec step (exec step s is).1 later).2 ++ (exec step s is).2) := by
  induction later using List.reverseRecOn with
  | nil => rw [List.append_nil, exec_nil, List.nil_append]
  | append_singleton later i ih =>
      rw [← List.append_assoc, exec_concat, exec_concat, ih]
      rfl

/-- The inputs of a run can be read off its log. -/
theorem exec_inputs (step : σ → ι → σ × ο) (s : σ) (is : List ι) :
    (exec step s is).2.map Entry.input = is.reverse := by
  induction is using List.reverseRecOn with
  | nil => rfl
  | append_singleton is i ih =>
      rw [exec_concat, List.reverse_append, ← ih]
      rfl

/-- A run leaves one entry for each of its inputs. -/
theorem exec_length (step : σ → ι → σ × ο) (s : σ) (is : List ι) :
    (exec step s is).2.length = is.length := by
  rw [← List.length_map Entry.input, exec_inputs, List.length_reverse]

/-- Every entry of a log is a step. -/
theorem exec_output (step : σ → ι → σ × ο) (s : σ) (is : List ι) :
    ∀ e ∈ (exec step s is).2, e.output = (step e.before e.input).2 := by
  induction is using List.reverseRecOn with
  | nil => exact fun e he => absurd he List.not_mem_nil
  | append_singleton is i ih =>
      rw [exec_concat]
      intro e he
      rcases List.mem_cons.mp he with rfl | he
      · rfl
      · exact ih e he

/-- The inputs of the entries of a log, oldest first. -/
def replayed (log : List (Entry σ ι ο)) : List ι := (log.map Entry.input).reverse

/-- Inputs that leave the state as it is can be left out of a run: it ends in the same state,
and every other step is the step it was. -/
theorem exec_erase (step : σ → ι → σ × ο) {keep : ο → Bool}
    (hidle : ∀ s i, ¬ keep (step s i).2 = true → (step s i).1 = s) (s : σ) (is : List ι) :
    exec step s (replayed ((exec step s is).2.filter fun e => keep e.output))
      = ((exec step s is).1, (exec step s is).2.filter fun e => keep e.output) := by
  induction is using List.reverseRecOn with
  | nil => rfl
  | append_singleton is i ih =>
      rw [exec_concat]
      by_cases hkeep : keep (step (exec step s is).1 i).2 = true
      · -- the step is kept, and is made after the steps that were kept before it
        have hfilter : (advance step (exec step s is) i).2.filter (fun e => keep e.output)
            = entry step (exec step s is).1 i
                :: (exec step s is).2.filter fun e => keep e.output :=
          List.filter_cons_of_pos hkeep
        rw [hfilter, replayed, List.map_cons, List.reverse_cons, ← replayed]
        refine (exec_concat step s _ _).trans ?_
        rw [ih]
        rfl
      · -- the step is left out, and the state it would have changed is the same without it
        have hfilter : (advance step (exec step s is) i).2.filter (fun e => keep e.output)
            = (exec step s is).2.filter fun e => keep e.output :=
          List.filter_cons_of_neg hkeep
        rw [hfilter, ih]
        exact Prod.ext (hidle _ _ hkeep).symm rfl

/-! ## The induction rules

Each rule is an induction on the inputs from their end. `exec_induction` is the plain one;
`exec_induction_of` is for what only holds under an assumption on the run, `exec_guarded` for
what every step of a run shows, and `always_iff_guarded` for an invariant that a step keeps
just when it meets a guard: that one turns an equivalence on steps into one on runs. -/

section Induction

variable (step : σ → ι → σ × ο) {s : σ} {I : σ → List (Entry σ ι ο) → Prop}

/-- What holds at the start and is kept by every step holds at the end of every
run. The predicate sees the log, so it may relate the state to the history. -/
theorem exec_induction (h0 : I s [])
    (hstep : ∀ t log i, I t log → I (step t i).1 (entry step t i :: log)) (is : List ι) :
    I (exec step s is).1 (exec step s is).2 := by
  induction is using List.reverseRecOn with
  | nil => exact h0
  | append_singleton is i ih =>
      rw [exec_concat]
      exact hstep _ _ i ih

/-- The same rule under an assumption on the run. `A` is a predicate on logs that
passes to the shorter log, so it may be used at every step. -/
theorem exec_induction_of {A : List (Entry σ ι ο) → Prop}
    (hA : ∀ e log, A (e :: log) → A log) (h0 : I s [])
    (hstep : ∀ t log i, A (entry step t i :: log) → I t log →
      I (step t i).1 (entry step t i :: log))
    (is : List ι) (his : A (exec step s is).2) :
    I (exec step s is).1 (exec step s is).2 := by
  refine exec_induction step (I := fun t log => A log → I t log) (fun _ => h0) ?_ is his
  intro t log i ih hlog
  exact hstep t log i hlog (ih (hA _ _ hlog))

end Induction

/-- Every step of the log meets `ok`, which sees the steps before it. -/
def Guarded (ok : List (Entry σ ι ο) → Entry σ ι ο → Prop) : List (Entry σ ι ο) → Prop
  | [] => True
  | e :: older => ok older e ∧ Guarded ok older

/-- A guard that can be evaluated can be evaluated along a run. -/
instance Guarded.decidable (ok : List (Entry σ ι ο) → Entry σ ι ο → Prop)
    [∀ older e, Decidable (ok older e)] : (log : List (Entry σ ι ο)) → Decidable (Guarded ok log)
  | [] => isTrue trivial
  | _ :: older => @instDecidableAnd _ _ _ (Guarded.decidable ok older)

theorem Guarded.tail {ok : List (Entry σ ι ο) → Entry σ ι ο → Prop} (e : Entry σ ι ο)
    (log : List (Entry σ ι ο)) (h : Guarded ok (e :: log)) : Guarded ok log :=
  h.2

/-- A guard that looks at one step only is met by every step. -/
theorem Guarded.forall {ok : Entry σ ι ο → Prop} {log : List (Entry σ ι ο)}
    (h : Guarded (fun _ e => ok e) log) : ∀ e ∈ log, ok e := by
  induction log with
  | nil => exact fun e he => absurd he List.not_mem_nil
  | cons e older ih =>
      obtain ⟨hok, holder⟩ := h
      exact List.forall_mem_cons.mpr ⟨hok, ih holder⟩

/-- A guard that looks at the input only is met by a run just when every input meets it. -/
theorem guarded_input_iff (step : σ → ι → σ × ο) (s : σ) {ok : ι → Prop} (is : List ι) :
    Guarded (fun _ e => ok e.input) (exec step s is).2 ↔ ∀ i ∈ is, ok i := by
  induction is using List.reverseRecOn with
  | nil => exact iff_of_true trivial fun i hi => absurd hi List.not_mem_nil
  | append_singleton is i ih =>
      rw [exec_concat, List.forall_mem_append, List.forall_mem_singleton, and_comm, ← ih]
      exact Iff.rfl

/-- A guard that an invariant implies is met by every step of every run. -/
theorem exec_guarded (step : σ → ι → σ × ο) {s : σ} {I : σ → List (Entry σ ι ο) → Prop}
    {ok : List (Entry σ ι ο) → Entry σ ι ο → Prop} (h0 : I s [])
    (hstep : ∀ t log i, I t log → I (step t i).1 (entry step t i :: log))
    (hok : ∀ t log i, I t log → ok log (entry step t i)) (is : List ι) :
    Guarded ok (exec step s is).2 := by
  have h : I (exec step s is).1 (exec step s is).2 ∧ Guarded ok (exec step s is).2 := by
    refine exec_induction step (I := fun t log => I t log ∧ Guarded ok log) ⟨h0, trivial⟩ ?_ is
    rintro t log i ⟨hI, hguard⟩
    exact ⟨hstep t log i hI, hok t log i hI, hguard⟩
  exact h.2

/-- **When an invariant holds throughout.** If a step keeps `I` just when it meets the
guard, `I` holds at the end of every beginning of a run just when all its steps meet it. -/
theorem always_iff_guarded (step : σ → ι → σ × ο) {s : σ} {I : σ → List (Entry σ ι ο) → Prop}
    {ok : List (Entry σ ι ο) → Entry σ ι ο → Prop} (h0 : I s [])
    (hstep : ∀ t log i, I t log →
      (I (step t i).1 (entry step t i :: log) ↔ ok log (entry step t i)))
    (is : List ι) :
    (∀ earlier, earlier <+: is → I (exec step s earlier).1 (exec step s earlier).2) ↔
      Guarded ok (exec step s is).2 := by
  induction is using List.reverseRecOn with
  | nil =>
      refine ⟨fun _ => trivial, ?_⟩
      intro _ earlier hpre
      rw [List.prefix_nil.mp hpre]
      exact h0
  | append_singleton is i ih =>
      have hlast := hstep (exec step s is).1 (exec step s is).2 i
      rw [exec_concat]
      constructor
      · -- the invariant held before the last step, so that step must have met the guard
        intro h
        have his : ∀ earlier, earlier <+: is →
            I (exec step s earlier).1 (exec step s earlier).2 := by
          intro earlier hpre
          exact h earlier (hpre.trans (List.prefix_append _ _))
        have hend := h (is ++ [i]) (List.prefix_refl _)
        rw [exec_concat] at hend
        exact ⟨(hlast (his is (List.prefix_refl _))).mp hend, ih.mp his⟩
      · -- a beginning is the whole run or a beginning of the run without its last step
        rintro ⟨hok, hguard⟩ earlier hpre
        have his := ih.mpr hguard
        rcases List.prefix_concat_iff.mp hpre with rfl | hpre
        · rw [exec_concat]
          exact (hlast (his is (List.prefix_refl _))).mpr hok
        · exact his earlier hpre

/-! ## Simulation

Two machines on related inputs. `exec_simulation` reads the inputs and outputs of one as those
of the other, for refinement; `exec_related` has two runs of machines whose inputs need not
determine each other, for statements about what an observer of two runs can tell. -/

section Simulation

variable {σ' ι' ο' : Type*}

/-- What a caller sees of a run: its inputs and outputs, newest first. -/
def exchanges (log : List (Entry σ ι ο)) : List (ι × ο) :=
  log.map fun e => (e.input, e.output)

theorem exchanges_append (log older : List (Entry σ ι ο)) :
    exchanges (log ++ older) = exchanges log ++ exchanges older :=
  List.map_append

theorem exchanges_concat (step : σ → ι → σ × ο) (s : σ) (is : List ι) (i : ι) :
    exchanges (exec step s (is ++ [i])).2 =
      (i, (step (exec step s is).1 i).2) :: exchanges (exec step s is).2 := by
  rw [exec_concat]
  rfl

/-- What is seen of a run is what its inputs were answered. -/
theorem input_mem_of_exchanges {step : σ → ι → σ × ο} {s : σ} {is : List ι} {x : ι × ο}
    (h : x ∈ exchanges (exec step s is).2) : x.1 ∈ is := by
  obtain ⟨e, he, rfl⟩ := List.mem_map.mp h
  rw [← List.mem_reverse, ← exec_inputs step s is]
  exact List.mem_map.mpr ⟨e, he, rfl⟩

/-- Two machines whose states stay related, step for step, and whose outputs agree once
they are read alike, end related and have been seen to do the same. -/
theorem exec_simulation (step : σ → ι → σ × ο) (step' : σ' → ι' → σ' × ο')
    {R : σ → σ' → Prop} {f : ι → ι'} {g : ο → ο'}
    (hstep : ∀ s t i, R s t →
      R (step s i).1 (step' t (f i)).1 ∧ g (step s i).2 = (step' t (f i)).2)
    {s : σ} {t : σ'} (h0 : R s t) (is : List ι) :
    R (exec step s is).1 (exec step' t (is.map f)).1 ∧
      (exchanges (exec step s is).2).map (Prod.map f g)
        = exchanges (exec step' t (is.map f)).2 := by
  induction is using List.reverseRecOn with
  | nil => exact ⟨h0, rfl⟩
  | append_singleton is i ih =>
      obtain ⟨hR, hseen⟩ := ih
      obtain ⟨hnext, hout⟩ := hstep _ _ i hR
      rw [List.map_append, List.map_singleton, exec_concat, exec_concat]
      refine ⟨hnext, ?_⟩
      simp only [exchanges, advance, entry, List.map_cons, Prod.map_apply, hout]
      rw [← exchanges, ← exchanges, hseen]

end Simulation

/-! ## Inputs that do not interfere

For reordering the inputs of several parties on one state: what a run does not change, and a
change that may be made before or after it. -/

section Interference

variable (step : σ → ι → σ × ο)

/-- What no input of a run changes is at its end as it was. -/
theorem exec_unchanged {α : Type*} (view : σ → α) {is : List ι}
    (h : ∀ i ∈ is, ∀ s, view (step s i).1 = view s) (s : σ) :
    view (exec step s is).1 = view s := by
  induction is using List.reverseRecOn with
  | nil => rfl
  | append_singleton is i ih =>
      obtain ⟨his, hi⟩ := List.forall_mem_append.mp h
      rw [exec_concat]
      exact (hi i List.mem_cons_self _).trans (ih his)

/-- A change of the state that the inputs of a run neither see nor undo may as well be made
after the run as before it. -/
theorem exec_commutes (change : σ → σ) {is : List ι}
    (h : ∀ i ∈ is, ∀ s, step (change s) i = (change (step s i).1, (step s i).2)) (s : σ) :
    (exec step (change s) is).1 = change (exec step s is).1 ∧
      exchanges (exec step (change s) is).2 = exchanges (exec step s is).2 := by
  induction is using List.reverseRecOn with
  | nil => exact ⟨rfl, rfl⟩
  | append_singleton is i ih =>
      obtain ⟨his, hi⟩ := List.forall_mem_append.mp h
      obtain ⟨hstate, hseen⟩ := ih his
      have hstep := hi i List.mem_cons_self (exec step s is).1
      rw [exec_concat, exec_concat]
      simp only [advance, exchanges, entry, List.map_cons]
      rw [hstate, hstep, ← exchanges, ← exchanges, hseen]
      exact ⟨rfl, rfl⟩

end Interference

/-! ## Machines side by side

A product of machines has no step of its own that a party could not take alone, so a theorem
about one machine holds of every party of a product, over every interleaving. -/

section Parties

variable {κ : Type*} [DecidableEq κ] (step : σ → ι → σ × ο)

/-- A family of machines, one per party. An input names the party that takes it,
and no other party moves. -/
def prodStep (w : κ → σ) (x : κ × ι) : (κ → σ) × ο :=
  (Function.update w x.1 (step (w x.1) x.2).1, (step (w x.1) x.2).2)

/-- An entry of the family's log as the party that moved sees it. -/
def localEntry (e : Entry (κ → σ) (κ × ι) ο) : Entry σ ι ο :=
  ⟨e.before e.input.1, e.input.2, e.output⟩

/-- The log of party `k`. -/
def partyLog (k : κ) (log : List (Entry (κ → σ) (κ × ι) ο)) : List (Entry σ ι ο) :=
  (log.filter (fun e => e.input.1 = k)).map localEntry

/-- The inputs of party `k`. -/
def partyInputs (k : κ) (xs : List (κ × ι)) : List ι :=
  (xs.filter (fun x => x.1 = k)).map Prod.snd

/-- What party `k` sees of a run of the family is its own run on its own inputs. -/
theorem party_exec (w : κ → σ) (xs : List (κ × ι)) (k : κ) :
    (exec (prodStep step) w xs).1 k = (exec step (w k) (partyInputs k xs)).1 ∧
      partyLog k (exec (prodStep step) w xs).2 = (exec step (w k) (partyInputs k xs)).2 := by
  induction xs using List.reverseRecOn with
  | nil => exact ⟨rfl, rfl⟩
  | append_singleton xs x ih =>
      obtain ⟨ihs, ihl⟩ := ih
      rw [exec_concat]
      by_cases hk : x.1 = k
      · -- the input is for `k`, and `k` takes the step it would take alone
        subst hk
        have hin : partyInputs x.1 (xs ++ [x]) = partyInputs x.1 xs ++ [x.2] := by
          simp [partyInputs]
        rw [hin, exec_concat]
        refine ⟨by simp [advance, prodStep, ihs], ?_⟩
        simp only [advance, partyLog, entry, List.filter_cons, decide_true, if_true,
          List.map_cons]
        rw [← ihs, ← ihl]
        rfl
      · -- the input is for another party, and `k` sees nothing of it
        have hin : partyInputs k (xs ++ [x]) = partyInputs k xs := by
          simp [partyInputs, hk]
        rw [hin]
        refine ⟨?_, ?_⟩
        · simp only [advance, prodStep]
          rw [Function.update_of_ne (Ne.symm hk), ihs]
        · rw [← ihl]
          simp [advance, partyLog, entry, hk]

end Parties

end Mealy
