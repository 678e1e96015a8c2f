/-
  Rows of a table with a unique key.

  A key is unique when the keys of the rows, in order, have no duplicate. Inserting a row
  whose key is absent keeps it unique, and a lookup by the key of a row finds that row.
-/
import Mathlib.Data.List.Nodup
import Mathlib.Tactic.Common

namespace AccountingPlatform.Lib

universe u v
variable {α : Type u} {β : Type v} {f : α → β} {rows : List α} {row : α}

theorem nodup_map_concat (h : (rows.map f).Nodup) (hnew : ∀ r ∈ rows, f r ≠ f row) :
    ((rows ++ [row]).map f).Nodup := by
  rw [List.map_append, List.nodup_append]
  refine ⟨h, List.nodup_singleton _, ?_⟩
  intro a ha b hb hab
  obtain ⟨r, hr, rfl⟩ := List.mem_map.mp ha
  rw [List.map_singleton, List.mem_singleton] at hb
  exact hnew r hr (hab.trans hb)

theorem find?_of_nodup_map [DecidableEq β] (hn : (rows.map f).Nodup) (h : row ∈ rows) :
    (rows.find? fun r => f r = f row) = some row := by
  induction rows with
  | nil => cases h
  | cons r rows ih =>
    rw [List.map_cons, List.nodup_cons] at hn
    rcases List.mem_cons.mp h with rfl | h
    · simp
    · have hne : f r ≠ f row := fun he => hn.1 (List.mem_map.mpr ⟨row, h, he.symm⟩)
      rw [List.find?_cons_of_neg (by simpa using hne)]
      exact ih hn.2 h

/-- A reference stays good when rows are added. -/
theorem exists_mem_append_left {P : α → Prop} (added : List α) (h : ∃ r ∈ rows, P r) :
    ∃ r ∈ rows ++ added, P r := by
  obtain ⟨r, hr, hp⟩ := h
  exact ⟨r, List.mem_append_left added hr, hp⟩

/-- One row of a table changes and then shows something more; the others show what they did. -/
theorem filterMap_update_perm {γ : Type*} {g : α → Option γ} {u : α → α} {shown : γ}
    (hn : (rows.map f).Nodup) (h : row ∈ rows) (hother : ∀ r ∈ rows, f r ≠ f row → u r = r)
    (hold : g row = none) (hnew : g (u row) = some shown) :
    ((rows.map u).filterMap g).Perm (shown :: rows.filterMap g) := by
  obtain ⟨before, after, rfl⟩ := List.append_of_mem h
  rw [List.map_append, List.map_cons, List.nodup_middle, List.nodup_cons, List.mem_append] at hn
  have hsame : ∀ {rs : List α}, (∀ r ∈ rs, r ∈ before ++ row :: after) → f row ∉ rs.map f →
      rs.map u = rs := by
    intro rs hsub hnot
    refine (List.map_congr_left fun r hr => ?_).trans (List.map_id rs)
    exact hother r (hsub r hr) fun he => hnot (List.mem_map.mpr ⟨r, hr, he⟩)
  rw [List.map_append, List.map_cons,
    hsame (fun r hr => List.mem_append_left _ hr) fun hm => hn.1 (Or.inl hm),
    hsame (fun r hr => List.mem_append_right _ (List.mem_cons_of_mem _ hr))
      fun hm => hn.1 (Or.inr hm),
    List.filterMap_append, List.filterMap_append, List.filterMap_cons_some hnew,
    List.filterMap_cons_none hold]
  exact List.perm_middle

end AccountingPlatform.Lib
