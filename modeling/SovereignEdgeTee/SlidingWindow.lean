/-
The window of a bounded buffer over everything that was pushed into it.

A buffer that drops its oldest elements until the newest one fits has no memory of
what it dropped. Still it holds the longest end of its whole history that fits, as long
as fitting is inherited by sublists: what did not fit once, with less behind it, does
not fit later with more. `IsWindow.push` is that argument, and `shed_shed` says that two
loops that each drop for a reason of their own drop what one loop with both reasons drops.

An element that does not fit alone is held nevertheless, and alone.
-/
import Mathlib.Data.List.Infix

set_option autoImplicit false

namespace SlidingWindow

variable {α : Type*}

/-- What is left when elements are dropped from the front until the rest has the
property, or until nothing is left. -/
def shed (p : List α → Prop) [DecidablePred p] : List α → List α
  | [] => []
  | x :: xs => if p (x :: xs) then x :: xs else shed p xs

/-- The longest suffix of a list that has a property: it has the property, and every
suffix that has it is a suffix of this one. -/
structure Longest (p : List α → Prop) (l w : List α) : Prop where
  suffix : w <:+ l
  holds : p w
  longest : ∀ s, s <:+ l → p s → s <:+ w

/-- What a buffer that accepts what `fits` should hold after a history of pushes: the
longest suffix of the history that fits, or the newest element when it does not fit
alone. -/
structure IsWindow (fits : List α → Prop) (history w : List α) : Prop where
  empty : history = [] → w = []
  fitting : ∀ newest, history.getLast? = some newest → fits [newest] → Longest fits history w
  oversized : ∀ newest, history.getLast? = some newest → ¬ fits [newest] → w = [newest]

/-- The property passes to sublists. -/
def Hereditary (p : List α → Prop) : Prop := ∀ s l, s.Sublist l → p l → p s

/-! ## Shedding

`shed` finds the first suffix that has the property, so any suffix that has it is inside what is
left (`suffix_shed`). Shedding for one property and then for another is one `shed` for both only
where the first is hereditary: the second loop must not undo what the first established. -/

section Shed

variable {p : List α → Prop} [DecidablePred p]

theorem shed_suffix (l : List α) : shed p l <:+ l := by
  induction l with
  | nil => exact List.suffix_refl _
  | cons x xs ih =>
      rw [shed]
      split
      · exact List.suffix_refl _
      · exact ih.trans (List.suffix_cons _ _)

theorem shed_eq_self {l : List α} (h : p l) : shed p l = l := by
  cases l with
  | nil => rfl
  | cons x xs => rw [shed, if_pos h]

theorem shed_holds (l : List α) : p (shed p l) ∨ shed p l = [] := by
  induction l with
  | nil => exact Or.inr rfl
  | cons x xs ih =>
      rw [shed]
      split
      · rename_i h
        exact Or.inl h
      · exact ih

/-- Shedding stops as early as it can. -/
theorem suffix_shed {s l : List α} (hs : s <:+ l) (hp : p s) : s <:+ shed p l := by
  induction l with
  | nil => exact hs
  | cons x xs ih =>
      rw [shed]
      split
      · exact hs
      · rename_i hnot
        -- the whole list does not have the property, so a suffix that has it is shorter
        rcases List.suffix_cons_iff.mp hs with rfl | hs
        · exact absurd hp hnot
        · exact ih hs

/-- When no suffix but the empty one has the property, nothing is left. -/
theorem shed_eq_nil {l : List α} (h : ∀ s, s <:+ l → p s → s = []) : shed p l = [] := by
  rcases shed_holds (p := p) l with hp | hnil
  · exact h _ (shed_suffix l) hp
  · exact hnil

/-- Dropping for one reason and then for another is dropping for both. -/
theorem shed_shed {q : List α → Prop} [DecidablePred q] (hp : Hereditary p) (l : List α) :
    shed q (shed p l) = shed (fun s => p s ∧ q s) l := by
  induction l with
  | nil => rfl
  | cons x xs ih =>
      by_cases hpx : p (x :: xs)
      · -- the first loop stops here, and so it does on every shorter rest
        have hpxs : p xs := hp _ _ (List.sublist_cons_self x xs) hpx
        rw [shed_eq_self hpxs] at ih
        rw [shed_eq_self hpx, shed, shed, ih]
        simp only [hpx, true_and]
      · rw [shed, if_neg hpx, ih, shed, if_neg (fun h => hpx h.1)]

end Shed

/-! ## The window

`IsWindow` speaks of the whole history, of which the buffer holds only the end. The step lemma
`push` therefore needs `contains`: a suffix of the longer history that fits is, but for its last
element, a suffix of the old history that fits, and lies in the old window already. Nothing that
was dropped could have been needed again. -/

theorem suffix_concat {s t : List α} (h : s <:+ t) (x : α) : s ++ [x] <:+ t ++ [x] := by
  obtain ⟨r, rfl⟩ := h
  exact ⟨r, by rw [List.append_assoc]⟩

variable {fits : List α → Prop}

theorem IsWindow.nil : IsWindow fits [] [] := by
  refine ⟨fun _ => rfl, ?_, ?_⟩
  · intro newest h
    cases h
  · intro newest h
    cases h

/-- Every suffix of the history that fits lies in the window, unless the window is an
element that does not fit. -/
theorem IsWindow.contains (hfits : Hereditary fits) {history w : List α}
    (h : IsWindow fits history w) {s : List α} (hs : s <:+ history) (hp : fits s) : s <:+ w := by
  rcases List.eq_nil_or_concat history with rfl | ⟨older, newest, rfl⟩
  · rw [List.suffix_nil.mp hs]
    exact List.nil_suffix
  · rw [List.concat_eq_append] at h hs
    have hlast : (older ++ [newest]).getLast? = some newest := List.getLast?_concat
    by_cases hnewest : fits [newest]
    · exact (h.fitting newest hlast hnewest).longest s hs hp
    · -- a suffix with an element in it ends in the newest one
      rcases List.suffix_concat_iff.mp hs with rfl | ⟨t, rfl, -⟩
      · exact List.nil_suffix
      · exact absurd (hfits _ _ (List.sublist_append_right t [newest]) hp) hnewest

theorem IsWindow.suffix {history w : List α} (h : IsWindow fits history w) : w <:+ history := by
  rcases List.eq_nil_or_concat history with rfl | ⟨older, newest, rfl⟩
  · rw [h.empty rfl]
  · rw [List.concat_eq_append] at h ⊢
    have hlast : (older ++ [newest]).getLast? = some newest := List.getLast?_concat
    by_cases hnewest : fits [newest]
    · exact (h.fitting newest hlast hnewest).suffix
    · rw [h.oversized newest hlast hnewest]
      exact List.suffix_append _ _

/-- **One push.** Dropping from the window until the new element fits gives the window
of the longer history. -/
theorem IsWindow.push [DecidablePred fits] (hfits : Hereditary fits) {history w : List α}
    (h : IsWindow fits history w) (x : α) :
    IsWindow fits (history ++ [x]) (shed (fun l => fits (l ++ [x])) w ++ [x]) := by
  refine ⟨fun hnil => absurd hnil (by simp), ?_, ?_⟩
  · intro newest hlast hnewest
    rw [List.getLast?_concat, Option.some.injEq] at hlast
    subst hlast
    refine ⟨?_, ?_, ?_⟩
    · exact suffix_concat ((shed_suffix w).trans h.suffix) x
    · -- the new element fits alone, so the window fits even if everything else was dropped
      rcases shed_holds (p := fun l => fits (l ++ [x])) w with hp | hnil
      · exact hp
      · rw [hnil]
        exact hnewest
    · intro s hs hp
      rcases List.suffix_concat_iff.mp hs with rfl | ⟨t, rfl, ht⟩
      · exact List.nil_suffix
      · -- without its last element it still fits, so it lies in the old window
        have htw := h.contains hfits ht (hfits _ _ (List.sublist_append_left t [x]) hp)
        exact suffix_concat (suffix_shed htw hp) x
  · intro newest hlast hnewest
    rw [List.getLast?_concat, Option.some.injEq] at hlast
    subst hlast
    -- nothing fits with an element that does not fit alone, so all of the old window goes
    have hnil : shed (fun l => fits (l ++ [x])) w = [] := by
      refine shed_eq_nil ?_
      intro s _ hp
      exact absurd (hfits _ _ (List.sublist_append_right s [x]) hp) hnewest
    rw [hnil]
    rfl

end SlidingWindow
