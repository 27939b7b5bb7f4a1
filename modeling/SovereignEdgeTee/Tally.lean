/-
Maps that count.

A map is kept while a list of keys comes in: the entry of a key is made the first time it
comes and goes up by one each time. Counters have a width, so an entry counts modulo some
`m` only; with `m = 0` it counts exactly. Entries and keys come in no order, and nothing
here depends on one: the sum of the entries is the number of keys because the keys with
an entry are the different keys of the list.
-/
import Mathlib.Algebra.BigOperators.Group.List.Lemmas
import Mathlib.Algebra.BigOperators.ModEq
import Mathlib.Data.List.AList

set_option autoImplicit false

namespace Tally

variable {κ ν : Type*} [DecidableEq κ]

/-- The keys of `ks` have an entry and no others do, and the entry of a key counts it. -/
structure Tallied (count : ν → ℕ) (m : ℕ) (s : AList fun _ : κ => ν) (ks : List κ) : Prop where
  mem : ∀ k, k ∈ s ↔ k ∈ ks
  count_eq : ∀ k v, s.lookup k = some v → count v ≡ ks.count k [MOD m]

namespace Tallied

variable {count : ν → ℕ} {m : ℕ} {s : AList fun _ : κ => ν} {ks : List κ}

theorem empty (count : ν → ℕ) (m : ℕ) : Tallied count m (∅ : AList fun _ : κ => ν) [] := by
  refine ⟨?_, ?_⟩
  · intro k
    exact iff_of_false (AList.notMem_empty k) List.not_mem_nil
  · intro k v hlookup
    rw [AList.lookup_empty] at hlookup
    cases hlookup

/-- What the entry of `k` counts, with no entry counting nothing. -/
theorem count_getD (h : Tallied count m s ks) (k : κ) :
    ((s.lookup k).map count).getD 0 ≡ ks.count k [MOD m] := by
  cases hlookup : s.lookup k with
  | none =>
      have habsent : k ∉ ks := fun hmem => AList.lookup_eq_none.mp hlookup ((h.mem k).mpr hmem)
      rw [List.count_eq_zero.mpr habsent]
      rfl
  | some v => exact h.count_eq k v hlookup

/-- One more key, and its entry made or raised. -/
theorem insert (h : Tallied count m s ks) {k : κ} {v : ν}
    (hv : count v ≡ ((s.lookup k).map count).getD 0 + 1 [MOD m]) :
    Tallied count m (s.insert k v) (k :: ks) := by
  refine ⟨?_, ?_⟩
  · intro k'
    rw [AList.mem_insert, List.mem_cons, h.mem]
  · intro k' v' hlookup
    -- the entry that was written, and those that were not
    by_cases hk : k' = k
    · rw [hk, AList.lookup_insert, Option.some.injEq] at hlookup
      rw [hk, ← hlookup, List.count_cons_self]
      exact hv.trans ((h.count_getD k).add_right 1)
    · rw [AList.lookup_insert_ne hk] at hlookup
      rw [List.count_cons_of_ne (Ne.symm hk)]
      exact h.count_eq k' v' hlookup

/-- Entries that no count has wrapped around count exactly. -/
theorem exact (h : Tallied count m s ks) (hcount : ∀ v, count v < m) (hks : ks.length < m) :
    Tallied count 0 s ks := by
  refine ⟨h.mem, ?_⟩
  intro k v hlookup
  have hle : ks.count k ≤ ks.length := List.count_le_length
  have heq : count v = ks.count k :=
    (h.count_eq k v hlookup).eq_of_lt_of_lt (hcount v) (hle.trans_lt hks)
  rw [heq]

/-- The keys with an entry are the different keys that came. -/
theorem keys_perm (h : Tallied count m s ks) : s.keys.Perm ks.dedup := by
  refine (List.perm_ext_iff_of_nodup s.keys_nodup (List.nodup_dedup ks)).mpr ?_
  intro k
  rw [List.mem_dedup, ← h.mem, AList.mem_keys]

/-- **The entries add up to the number of keys that came.** -/
theorem sum_modEq (h : Tallied count m s ks) :
    (s.entries.map fun e => count e.2).sum ≡ ks.length [MOD m] := by
  have hentries : (s.entries.map fun e => count e.2).sum
      ≡ (s.entries.map fun e => ks.count e.1).sum [MOD m] := by
    refine Nat.ModEq.listSum_map ?_
    intro e he
    exact h.count_eq e.1 e.2 (AList.mem_lookup_iff.mpr he)
  have hkeys : (s.entries.map fun e => ks.count e.1) = s.keys.map fun k => ks.count k := by
    rw [AList.keys, List.keys, List.map_map]
    rfl
  rw [hkeys, (h.keys_perm.map _).sum_eq, List.sum_map_count_dedup_eq_length] at hentries
  exact hentries

end Tallied

end Tally
