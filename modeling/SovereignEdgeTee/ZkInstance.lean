/-
The public inputs of a proof, and how much of the action they fix.

`generate_proof` puts the values of the action's map into the circuit in the order the map
iterates in, without their fields. Two orders of one map give two statements, unless all
its values are the same, and two maps give one statement in some of their orders whenever
their values are the same up to order. `instance_determined_iff` puts the two together.

An action of the model has its map in one of its orders. `SameMap` is equality of maps.
-/
import SovereignEdgeTee.ZkCircuit
import Mathlib.Data.List.Perm.Basic

set_option autoImplicit false

namespace SovereignEdgeTee

open R1cs (ConstraintSystem)

namespace ActionData

/-- The two actions have the same `numeric_values`, whatever order these iterate in. -/
def SameMap (d d' : ActionData) : Prop := ∀ field, d.get_numeric field = d'.get_numeric field

/-- The values in the order the map iterates in. -/
def numbers (d : ActionData) : List Int64 := d.numeric_values.entries.map fun entry => entry.2

/-- The values the circuit is built from: a zero in place of none. -/
def shown (d : ActionData) : List Int64 := if d.numbers = [] then [0] else d.numbers

/-- The public inputs of the circuit of `generate_proof`, in the order of their variables. -/
def public_inputs (d : ActionData) : List Fr := (proving_circuit d).synthesize.inputs

end ActionData

/-! ## The inputs show the values in their order

The inputs of the circuit are the constant one and then every value twice. From them the list
of values can be read back, since a `u64` is less than the modulus of the field. What is lost
before that is the fields of the values, and the difference between no value and a zero. -/

/-- The loop appends every value twice. -/
theorem loop_inputs (one : ℕ) (values : List Fr) (cs : ConstraintSystem Fr) :
    (values.foldl (PolicyCircuit.allocate one) cs).inputs
      = cs.inputs ++ values.flatMap fun val_fr => [val_fr, val_fr] := by
  induction values generalizing cs with
  | nil => simp
  | cons val_fr values ih =>
      rw [List.foldl_cons, ih, allocate_eq]
      simp [ConstraintSystem.enforce, with_copies]

/-- A list can be read off its doubled elements. -/
theorem doubled_inj {α : Type*} :
    ∀ l l' : List α, l.flatMap (fun x => [x, x]) = l'.flatMap (fun x => [x, x]) → l = l'
  | [], [], _ => rfl
  | [], x' :: l', h => by simp at h
  | x :: l, [], h => by simp at h
  | x :: l, x' :: l', h => by
      simp only [List.flatMap_cons, List.cons_append, List.nil_append, List.cons.injEq] at h
      rw [h.1, doubled_inj l l' h.2.2]

/-- No two `u64` are one in the field. -/
theorem fr_of_u64_inj : Function.Injective fun val : UInt64 => (val.toNat : Fr) := by
  intro v v' h
  have hlt := v.toNat_lt
  have hlt' := v'.toNat_lt
  have hmod := (ZMod.natCast_eq_natCast_iff' _ _ _).mp h
  -- both are below the modulus, which has 254 bits
  rw [Nat.mod_eq_of_lt (by omega), Nat.mod_eq_of_lt (by omega)] at hmod
  exact UInt64.toNat_inj.mp hmod

/-- The values of a circuit can be read off its inputs. -/
theorem circuit_inputs_inj {circuit circuit' : PolicyCircuit}
    (h : circuit.synthesize.inputs = circuit'.synthesize.inputs) : circuit = circuit' := by
  unfold PolicyCircuit.synthesize PolicyCircuit.generate_constraints at h
  simp only [loop_inputs] at h
  have hvalues := doubled_inj _ _ (List.append_cancel_left h)
  exact congrArg PolicyCircuit.mk (fr_of_u64_inj.list_map hvalues)

namespace ActionData

theorem proving_circuit_eq (d : ActionData) :
    proving_circuit d = ⟨d.shown.map Int64.toUInt64⟩ := by
  have hvalues : d.values = d.numbers.map Int64.toUInt64 := by
    rw [values, numbers, List.map_map]
    rfl
  rw [proving_circuit, hvalues, shown, List.isEmpty_map]
  by_cases hnone : d.numbers = []
  · rw [if_pos hnone, hnone]
    rfl
  · rw [if_neg hnone, if_neg (by rw [List.isEmpty_iff]; exact hnone)]

/-- The public inputs are the values shown, in the order they are shown in. -/
theorem public_inputs_eq_iff {d d' : ActionData} :
    d.public_inputs = d'.public_inputs ↔ d.shown = d'.shown := by
  rw [public_inputs, public_inputs, proving_circuit_eq, proving_circuit_eq]
  constructor
  · intro h
    -- the cast keeps the bits
    have hcast : Function.Injective Int64.toUInt64 := by
      rintro ⟨v⟩ ⟨v'⟩ hv
      exact congrArg Int64.ofUInt64 hv
    exact hcast.list_map (congrArg PolicyCircuit.values (circuit_inputs_inj h))
  · intro h
    rw [h]

/-! ## The orders of a map

A map iterates in some order, and the result is about all of them. So the lemmas are about
permutations: two actions have one map when their entries are the same up to order, and every
arrangement of the values shown is shown by some action with that map. -/

variable {d d' : ActionData}

/-- Two actions have one map just when their entries are the same up to order. -/
theorem sameMap_iff : d.SameMap d' ↔ d.numeric_values.entries.Perm d'.numeric_values.entries := by
  constructor
  · intro h
    refine List.lookup_ext d.numeric_values.nodupKeys d'.numeric_values.nodupKeys ?_
    intro field value
    have hfield : d.numeric_values.entries.dlookup field =
        d'.numeric_values.entries.dlookup field := h field
    rw [hfield]
  · intro h field
    exact AList.perm_lookup h

/-- Every arrangement of the entries is the order of some action with the same map. -/
theorem exists_arranged {entries : List (Sigma fun _ : String => Int64)}
    (h : entries.Perm d.numeric_values.entries) :
    ∃ e : ActionData, e.SameMap d ∧ e.numeric_values.entries = entries := by
  refine ⟨⟨⟨entries, ?_⟩⟩, sameMap_iff.mpr h, rfl⟩
  exact (List.perm_nodupKeys h).mpr d.numeric_values.nodupKeys

theorem SameMap.numbers_perm (h : d.SameMap d') : d.numbers.Perm d'.numbers :=
  (sameMap_iff.mp h).map _

theorem numbers_eq_nil_iff (h : d.SameMap d') : d.numbers = [] ↔ d'.numbers = [] := by
  rw [← List.length_eq_zero_iff, ← List.length_eq_zero_iff, h.numbers_perm.length_eq]

theorem SameMap.shown_perm (h : d.SameMap d') : d.shown.Perm d'.shown := by
  rw [shown, shown]
  by_cases hnone : d.numbers = []
  · rw [if_pos hnone, if_pos ((numbers_eq_nil_iff h).mp hnone)]
  · rw [if_neg hnone, if_neg (fun hnone' => hnone ((numbers_eq_nil_iff h).mpr hnone'))]
    exact h.numbers_perm

/-- Every arrangement of the values shown is shown in some order of the map. -/
theorem exists_shown {l : List Int64} (h : l.Perm d.shown) :
    ∃ e : ActionData, e.SameMap d ∧ e.shown = l := by
  by_cases hnone : d.numbers = []
  · rw [shown, if_pos hnone] at h
    refine ⟨d, fun _ => rfl, ?_⟩
    -- of one zero there is one arrangement
    rw [shown, if_pos hnone, List.perm_singleton.mp h]
  · rw [shown, if_neg hnone, numbers] at h
    -- the entries are put in the order their values are to have
    have hlists : List.Forall₂ (fun value (entry : Sigma fun _ : String => Int64) =>
        value = entry.2) (d.numeric_values.entries.map fun entry => entry.2)
        d.numeric_values.entries := by
      rw [List.forall₂_map_left_iff]
      exact List.forall₂_same.mpr fun _ _ => rfl
    obtain ⟨entries, hvalues, hperm⟩ := List.perm_comp_forall₂ h hlists
    obtain ⟨e, hsame, hentries⟩ := exists_arranged hperm
    refine ⟨e, hsame, ?_⟩
    rw [shown, if_neg (fun hnone' => hnone ((numbers_eq_nil_iff hsame).mp hnone')), numbers,
      hentries]
    rw [← List.forall₂_map_right_iff, List.forall₂_eq_eq_eq] at hvalues
    exact hvalues.symm

/-- All values of the map are the same. -/
def Constant (d : ActionData) : Prop := ∀ v ∈ d.numbers, ∀ v' ∈ d.numbers, v = v'

theorem mem_shown {d : ActionData} {v : Int64} (h : v ∈ d.numbers) : v ∈ d.shown := by
  rw [shown, if_neg (List.ne_nil_of_mem h)]
  exact h

/-- There is always a value shown, and it is the only one if the map has no two. -/
theorem Constant.exists_shown (h : d.Constant) : ∃ v, ∀ v' ∈ d.shown, v' = v := by
  rw [shown]
  by_cases hnone : d.numbers = []
  · rw [if_pos hnone]
    exact ⟨0, fun v' hv' => List.mem_singleton.mp hv'⟩
  · rw [if_neg hnone]
    obtain ⟨v, hv⟩ := List.exists_mem_of_ne_nil _ hnone
    exact ⟨v, fun v' hv' => h v' hv' v hv⟩

/-- The order does not show just when all values are the same. -/
theorem order_hidden_iff :
    (∀ e e' : ActionData, e.SameMap d → e'.SameMap d → e.shown = e'.shown) ↔ d.Constant := by
  constructor
  · -- two orders of the map, with either value first
    intro h v hv v' hv'
    obtain ⟨e, he, hshown⟩ := exists_shown (List.perm_cons_erase (mem_shown hv)).symm
    obtain ⟨e', he', hshown'⟩ := exists_shown (List.perm_cons_erase (mem_shown hv')).symm
    have hequal := h e e' he he'
    rw [hshown, hshown'] at hequal
    exact (List.cons.inj hequal).1
  · intro h e e' he he'
    obtain ⟨v, hv⟩ := h.exists_shown
    -- as many copies of the one value as there are values
    have hall : ∀ e : ActionData, e.SameMap d → e.shown = List.replicate d.shown.length v := by
      intro e he
      rw [← he.shown_perm.length_eq]
      exact List.eq_replicate_of_mem fun v' hv' => hv v' (he.shown_perm.mem_iff.mp hv')
    rw [hall e he, hall e' he']

/-- Two maps differ in all their orders just when their values are not the same up to
order. -/
theorem maps_told_apart_iff :
    (∀ e e' : ActionData, e.SameMap d → e'.SameMap d' → e.shown ≠ e'.shown) ↔
      ¬ d.shown.Perm d'.shown := by
  constructor
  · intro h hperm
    obtain ⟨e, hsame, hshown⟩ := exists_shown hperm
    exact h d e (fun _ => rfl) hsame hshown.symm
  · intro hperm e e' he he' heq
    exact hperm (he.shown_perm.symm.trans (heq ▸ he'.shown_perm))

/-- **What the statement proved fixes of the action.** Two maps, in whatever orders they
iterate, give one vector of public inputs just when they are one map: this is so for a map
and itself if all its values are the same, for two maps if their values differ by more
than their order, and not otherwise. A map without values counts as one zero. -/
theorem instance_determined_iff (d d' : ActionData) :
    (∀ e e' : ActionData, e.SameMap d → e'.SameMap d' →
      (e.public_inputs = e'.public_inputs ↔ d.SameMap d')) ↔
    (d.SameMap d' → d.Constant) ∧ (¬ d.SameMap d' → ¬ d.shown.Perm d'.shown) := by
  simp only [public_inputs_eq_iff]
  by_cases hsame : d.SameMap d'
  · -- the two actions are orders of one map, so the statement is about its orders
    have htrans : ∀ e : ActionData, e.SameMap d' ↔ e.SameMap d :=
      fun e => forall_congr' fun field => by rw [hsame field]
    simp only [hsame, htrans, iff_true, true_implies, not_true_eq_false, false_implies, and_true]
    exact order_hidden_iff
  · simp only [hsame, iff_false, false_implies, not_false_eq_true, true_implies, true_and]
    exact maps_told_apart_iff

/-- A speed and a load, in either order. -/
def speed_load : ActionData := ⟨AList.insert "speed" 80 (AList.insert "load" 5 ∅)⟩
def load_speed : ActionData := ⟨AList.insert "load" 5 (AList.insert "speed" 80 ∅)⟩

/-- The two values exchanged. -/
def swapped : ActionData := ⟨AList.insert "load" 80 (AList.insert "speed" 5 ∅)⟩

/-- One map gives two statements, and a statement about one map is one about another, in
which each value belongs to the other field. -/
theorem instance_not_determined :
    ¬ (∀ d d' : ActionData, d.SameMap d' → d.public_inputs = d'.public_inputs) ∧
      ¬ ∀ d d' : ActionData, d.public_inputs = d'.public_inputs → d.SameMap d' := by
  constructor
  · intro h
    -- the values are shown as 80, 5 and as 5, 80
    have hinputs := h speed_load load_speed (sameMap_iff.mpr (List.Perm.swap _ _ _))
    rw [public_inputs_eq_iff] at hinputs
    revert hinputs
    decide
  · intro h
    -- here both are shown as 80, 5
    have hmap := h speed_load swapped (public_inputs_eq_iff.mpr (by decide))
    have hspeed := hmap "speed"
    revert hspeed
    decide

end ActionData

end SovereignEdgeTee
