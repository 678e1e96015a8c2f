/-
  Half-open windows of time and rows that hold for one.

  A window starts and may have an end. Rows with proper windows hold one at a time, at every
  instant, exactly when no two of them meet.
-/
import Mathlib.Order.Lattice
import Mathlib.Data.List.Basic
import Mathlib.Tactic.Common

namespace AccountingPlatform.Lib

universe u v

/-- From `start` on, until `finish` if it has one. -/
structure Window (τ : Type u) where
  start : τ
  finish : Option τ
  deriving DecidableEq

variable {τ : Type u} [LinearOrder τ]

namespace Window

/-- The window is in force at an instant. -/
def Covers (w : Window τ) (instant : τ) : Prop :=
  w.start ≤ instant ∧ ∀ f ∈ w.finish, instant < f

/-- Neither empty nor inverted. -/
def Proper (w : Window τ) : Prop := ∀ f ∈ w.finish, w.start < f

/-- Each starts before the other ends. -/
def Meets (v w : Window τ) : Prop := (∀ f ∈ v.finish, w.start < f) ∧ ∀ f ∈ w.finish, v.start < f

instance decCovers (w : Window τ) (instant : τ) : Decidable (w.Covers instant) :=
  inferInstanceAs (Decidable (_ ∧ _))

instance decProper (w : Window τ) : Decidable w.Proper :=
  inferInstanceAs (Decidable (∀ f ∈ w.finish, w.start < f))

instance decMeets (v w : Window τ) : Decidable (v.Meets w) :=
  inferInstanceAs (Decidable (_ ∧ _))

theorem Covers.proper {w : Window τ} {instant : τ} (h : w.Covers instant) : w.Proper :=
  fun f hf => lt_of_le_of_lt h.1 (h.2 f hf)

/-- Proper windows meet exactly when one instant is in both. -/
theorem meets_iff {v w : Window τ} (hv : v.Proper) (hw : w.Proper) :
    v.Meets w ↔ ∃ instant, v.Covers instant ∧ w.Covers instant := by
  constructor
  · rintro ⟨hfirst, hsecond⟩
    refine ⟨max v.start w.start, ⟨le_max_left _ _, ?_⟩, le_max_right _ _, ?_⟩
    · exact fun f hf => max_lt (hv f hf) (hfirst f hf)
    · exact fun f hf => max_lt (hsecond f hf) (hw f hf)
  · rintro ⟨instant, hvi, hwi⟩
    exact ⟨fun f hf => lt_of_le_of_lt hwi.1 (hvi.2 f hf), fun f hf => lt_of_le_of_lt hvi.1 (hwi.2 f hf)⟩

end Window

/-! ## Rows that hold one at a time -/

/-- At most one row of a list passes a test exactly when no two of them pass it. -/
theorem length_filter_le_one_iff {α : Type v} {p : α → Prop} [DecidablePred p] {rows : List α} :
    (rows.filter p).length ≤ 1 ↔ rows.Pairwise fun a b => ¬(p a ∧ p b) := by
  induction rows with
  | nil => simp
  | cons row rows ih =>
    rw [List.pairwise_cons, ← ih, List.filter_cons]
    by_cases hp : p row
    · rw [if_pos (decide_eq_true hp), List.length_cons]
      have hnone : (rows.filter p).length = 0 ↔ ∀ b ∈ rows, ¬(p row ∧ p b) := by
        rw [List.length_eq_zero_iff, List.filter_eq_nil_iff]
        simp [hp]
      constructor
      · intro hle
        exact ⟨hnone.mp (by omega), by omega⟩
      · rintro ⟨hno, -⟩
        have := hnone.mpr hno
        omega
    · rw [if_neg (by simpa using hp)]
      exact ⟨fun h => ⟨fun b _ hb => hp hb.1, h⟩, And.right⟩

/-- Rows of one group hold one at a time, whatever the instant, exactly when no two rows of a
    group meet. -/
theorem one_at_a_time_iff {α : Type v} {κ : Type v} [DecidableEq κ] {group : α → κ}
    {window : α → Window τ} {rows : List α} (hproper : ∀ row ∈ rows, (window row).Proper) :
    (∀ k instant, (rows.filter fun row => group row = k ∧ (window row).Covers instant).length ≤ 1) ↔
      rows.Pairwise fun a b => group a = group b → ¬(window a).Meets (window b) := by
  simp only [length_filter_le_one_iff]
  constructor
  · intro h
    rw [List.pairwise_iff_forall_sublist]
    intro a b hab hgroup hmeets
    have ha : a ∈ rows := hab.subset List.mem_cons_self
    have hb : b ∈ rows := hab.subset (List.mem_cons_of_mem a List.mem_cons_self)
    obtain ⟨instant, hca, hcb⟩ := (Window.meets_iff (hproper a ha) (hproper b hb)).mp hmeets
    exact List.pairwise_iff_forall_sublist.mp (h (group b) instant) hab ⟨⟨hgroup, hca⟩, rfl, hcb⟩
  · intro h k instant
    refine h.imp ?_
    rintro a b hno ⟨⟨rfl, hca⟩, hgroup, hcb⟩
    exact hno hgroup.symm ((Window.meets_iff hca.proper hcb.proper).mpr ⟨instant, hca, hcb⟩)

end AccountingPlatform.Lib
