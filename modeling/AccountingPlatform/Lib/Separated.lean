/-
  Parts joined by a separator.

  A separator inside a part makes the join ambiguous: `separated_eq_iff` says which other
  pairs of parts give the same text, and `intercalate_eq_iff` which other lists of parts.
-/
import Mathlib.Data.List.Basic
import Mathlib.Tactic.Common

namespace AccountingPlatform.Lib

universe u
variable {α : Type u}

/-! ## Two parts -/

/-- The second pair has a piece, up to a separator, moved from the right part to the left. -/
def Shifted (sep : α) (left right left' right' : List α) : Prop :=
  ∃ piece, left' = left ++ sep :: piece ∧ right = piece ++ sep :: right'

theorem Shifted.separated_eq {sep : α} {left right left' right' : List α}
    (h : Shifted sep left right left' right') : left ++ sep :: right = left' ++ sep :: right' := by
  obtain ⟨piece, rfl, rfl⟩ := h
  rw [List.append_assoc, List.cons_append]

/-- Joined texts agree when the parts do, or when a piece moved across the separator. -/
theorem separated_eq_iff {sep : α} {left right left' right' : List α} :
    left ++ sep :: right = left' ++ sep :: right' ↔
      (left = left' ∧ right = right') ∨ Shifted sep left right left' right' ∨
        Shifted sep left' right' left right := by
  constructor
  · intro h
    rcases List.append_eq_append_iff.mp h with ⟨rest, hleft, hright⟩ | ⟨rest, hleft, hright⟩
    · cases rest with
      | nil =>
        rw [List.nil_append, List.cons.injEq] at hright
        exact Or.inl ⟨(hleft.trans (List.append_nil _)).symm, hright.2⟩
      | cons c piece =>
        rw [List.cons_append, List.cons.injEq] at hright
        exact Or.inr (Or.inl ⟨piece, hright.1 ▸ hleft, hright.2⟩)
    · cases rest with
      | nil =>
        rw [List.nil_append, List.cons.injEq] at hright
        exact Or.inl ⟨hleft.trans (List.append_nil _), hright.2.symm⟩
      | cons c piece =>
        rw [List.cons_append, List.cons.injEq] at hright
        exact Or.inr (Or.inr ⟨piece, hright.1 ▸ hleft, hright.2⟩)
  · rintro (⟨rfl, rfl⟩ | h | h)
    · rfl
    · exact h.separated_eq
    · exact h.separated_eq.symm

/-! ## Lists of parts -/

/-- Parts cut at every separator they hold. -/
def pieces [BEq α] (sep : α) (parts : List (List α)) : List (List α) := parts.flatMap (·.splitOn sep)

theorem splitOn_intercalate_eq_pieces [BEq α] [LawfulBEq α] {sep : α} {parts : List (List α)}
    (h : parts ≠ []) : ([sep].intercalate parts).splitOn sep = pieces sep parts := by
  induction parts with
  | nil => exact absurd rfl h
  | cons part parts ih =>
    cases parts with
    | nil => simp [pieces]
    | cons next rest =>
      rw [List.intercalate_cons_cons, List.append_assoc, List.singleton_append,
        List.splitOn_append_cons_self, ih (List.cons_ne_nil _ _)]
      rfl

/-- Joined lists agree exactly when their pieces do. -/
theorem intercalate_eq_iff [BEq α] [LawfulBEq α] {sep : α} {parts others : List (List α)}
    (h : parts ≠ []) (h' : others ≠ []) :
    [sep].intercalate parts = [sep].intercalate others ↔ pieces sep parts = pieces sep others := by
  rw [← splitOn_intercalate_eq_pieces h, ← splitOn_intercalate_eq_pieces h']
  constructor
  · intro hjoin
    rw [hjoin]
  · intro hsplit
    have hjoin := congrArg [sep].intercalate hsplit
    rwa [List.intercalate_splitOn, List.intercalate_splitOn] at hjoin

/-- Without separators inside, parts are their own pieces. -/
theorem pieces_of_not_mem [BEq α] [LawfulBEq α] {sep : α} {parts : List (List α)}
    (h : ∀ part ∈ parts, sep ∉ part) : pieces sep parts = parts := by
  induction parts with
  | nil => rfl
  | cons part parts ih =>
    obtain ⟨hpart, hparts⟩ := List.forall_mem_cons.mp h
    have hrest : parts.flatMap (·.splitOn sep) = parts := ih hparts
    rw [pieces, List.flatMap_cons, List.splitOn_eq_singleton hpart, hrest, List.singleton_append]

end AccountingPlatform.Lib
