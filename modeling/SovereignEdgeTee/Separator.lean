/-
Lists cut by separators.

A separator is marked if it begins with a mark that does not occur in it again, as `|TAG:`
begins with its bar. Two occurrences of marked separators never overlap, so a list that is
cut by one in two ways holds it twice, with one cut wholly before the other. That is
`cut_cases`, and all there is to know about where the ambiguity of a list of fields joined
by separators can come from.
-/
import Mathlib.Data.List.Basic
import Mathlib.Data.List.Infix

set_option autoImplicit false

namespace Separator

variable {α : Type*} {mark : α} {sep l l' r r' : List α}

/-- The separator begins with `mark`, and `mark` occurs nowhere else in it. -/
def Marked (mark : α) (sep : List α) : Prop := ∃ rest, sep = mark :: rest ∧ mark ∉ rest

/-! ## Two marks in one list

The mark is what two cuts are compared by: it occurs in a separator once, at its beginning, so
the marks of two separators are at one place or apart. -/

/-- The first mark is behind a part that has none. -/
theorem clear_prefix {rest : List α} (hclear : mark ∉ rest)
    (h : rest ++ r = l ++ mark :: r') : ∃ mid, l = rest ++ mid ∧ r = mid ++ mark :: r' := by
  rcases List.append_eq_append_iff.mp h with ⟨mid, hl, hr⟩ | ⟨mid, hrest, hr⟩
  · exact ⟨mid, hl, hr⟩
  · -- a part of `rest` would reach over the mark
    cases mid with
    | nil => exact ⟨[], by simpa using hrest.symm, by simpa using hr.symm⟩
    | cons x mid =>
        obtain ⟨rfl, -⟩ := List.cons.inj hr
        exact absurd (hrest ▸ List.mem_append_right _ List.mem_cons_self) hclear

/-- A separator and a mark in one list: the separator is before the mark, or at it, or
behind it. -/
theorem mark_cases (hsep : Marked mark sep) (h : l ++ (sep ++ r) = l' ++ mark :: r') :
    (∃ mid, l' = l ++ (sep ++ mid) ∧ r = mid ++ mark :: r') ∨
      (l = l' ∧ sep ++ r = mark :: r') ∨
      ∃ mid, l = l' ++ mark :: mid ∧ r' = mid ++ (sep ++ r) := by
  obtain ⟨rest, rfl, hclear⟩ := hsep
  rcases List.append_eq_append_iff.mp h with ⟨gap, hl', hr⟩ | ⟨gap, hl, hr⟩
  · cases gap with
    | nil => exact Or.inr (Or.inl ⟨by simpa using hl'.symm, by simpa using hr⟩)
    | cons x gap =>
        obtain ⟨rfl, hrest⟩ := List.cons.inj hr
        obtain ⟨mid, rfl, hmid⟩ := clear_prefix hclear hrest
        exact Or.inl ⟨mid, hl', hmid⟩
  · cases gap with
    | nil => exact Or.inr (Or.inl ⟨by simpa using hl, by simpa using hr.symm⟩)
    | cons x gap =>
        obtain ⟨rfl, hrest⟩ := List.cons.inj hr
        exact Or.inr (Or.inr ⟨gap, hl, hrest⟩)

/-- **Two cuts of one list.** They are at the same place, or one is wholly before the
other. -/
theorem cut_cases (hsep : Marked mark sep) (h : l ++ (sep ++ r) = l' ++ (sep ++ r')) :
    (l = l' ∧ r = r') ∨
      (∃ mid, l' = l ++ (sep ++ mid) ∧ r = mid ++ (sep ++ r')) ∨
      ∃ mid, l = l' ++ (sep ++ mid) ∧ r' = mid ++ (sep ++ r) := by
  obtain ⟨rest, hmark, hclear⟩ := id hsep
  have h' : l ++ (sep ++ r) = l' ++ mark :: (rest ++ r') := by
    rw [h, hmark]
    rfl
  rcases mark_cases hsep h' with ⟨mid, hl', hr⟩ | ⟨hl, hr⟩ | ⟨mid, hl, hr⟩
  · refine Or.inr (Or.inl ⟨mid, hl', ?_⟩)
    rw [hr, hmark]
    rfl
  · have hcut : sep ++ r = sep ++ r' := by
      rw [hr, hmark]
      rfl
    exact Or.inl ⟨hl, List.append_cancel_left hcut⟩
  · -- the mark of the later separator is behind the rest of the earlier one
    have hsplit : rest ++ r' = mid ++ mark :: (rest ++ r) := by
      rw [hr, hmark]
      rfl
    obtain ⟨mid', rfl, hr'⟩ := clear_prefix hclear hsplit
    refine Or.inr (Or.inr ⟨mid', ?_, ?_⟩)
    · rw [hl, hmark]
      rfl
    · rw [hr', hmark]
      rfl

/-! ## Parts without the separator

Of the three cases of `cut_cases` the second and the third put the separator into one of the
parts. So the parts that are known not to hold it rule one of them out, or both. -/

/-- Where neither left part holds the separator there is one cut. -/
theorem cut_of_left_clear (hsep : Marked mark sep) (hl : ¬ sep <:+: l) (hl' : ¬ sep <:+: l')
    (h : l ++ (sep ++ r) = l' ++ (sep ++ r')) : l = l' ∧ r = r' := by
  rcases cut_cases hsep h with hsame | ⟨mid, rfl, -⟩ | ⟨mid, rfl, -⟩
  · exact hsame
  · exact absurd (List.infix_append' _ _ _) hl'
  · exact absurd (List.infix_append' _ _ _) hl

/-- Where neither right part holds the separator there is one cut. -/
theorem cut_of_right_clear (hsep : Marked mark sep) (hr : ¬ sep <:+: r) (hr' : ¬ sep <:+: r')
    (h : l ++ (sep ++ r) = l' ++ (sep ++ r')) : l = l' ∧ r = r' := by
  rcases cut_cases hsep h with hsame | ⟨mid, -, rfl⟩ | ⟨mid, -, rfl⟩
  · exact hsame
  · exact absurd (List.infix_append' _ _ _) hr
  · exact absurd (List.infix_append' _ _ _) hr'

/-- Where no part of one of two cuts holds the separator they are the same. -/
theorem cut_of_clear (hsep : Marked mark sep) (hl : ¬ sep <:+: l) (hr : ¬ sep <:+: r)
    (h : l ++ (sep ++ r) = l' ++ (sep ++ r')) : l = l' ∧ r = r' := by
  rcases cut_cases hsep h with hsame | ⟨mid, -, rfl⟩ | ⟨mid, rfl, -⟩
  · exact hsame
  · exact absurd (List.infix_append' _ _ _) hr
  · exact absurd (List.infix_append' _ _ _) hl

theorem Marked.append_ne (hsep : Marked mark sep) : l ++ (sep ++ r) ≠ l := by
  obtain ⟨rest, rfl, -⟩ := hsep
  simp

/-- A part without the mark does not hold the separator. -/
theorem Marked.not_infix (hsep : Marked mark sep) (hclear : mark ∉ l) : ¬ sep <:+: l := by
  obtain ⟨rest, rfl, -⟩ := hsep
  intro h
  exact hclear (h.mem List.mem_cons_self)

/-- A separator in a list that ends with a different one is in the part before it. -/
theorem Marked.infix_of_append (hsep : Marked mark sep) {rest : List α} (hclear : mark ∉ rest)
    (hne : ¬ sep <+: mark :: rest) (h : sep <:+: l ++ mark :: rest) : sep <:+: l := by
  obtain ⟨before, after, h⟩ := h
  rw [List.append_assoc] at h
  rcases mark_cases hsep h with ⟨mid, rfl, -⟩ | ⟨-, hat⟩ | ⟨mid, -, hbehind⟩
  · exact List.infix_append' _ _ _
  · exact absurd ⟨after, hat⟩ hne
  · exact absurd (hbehind ▸ List.infix_append' _ _ _) (hsep.not_infix hclear)

end Separator
