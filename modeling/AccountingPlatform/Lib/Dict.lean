/-
  Insertion-ordered dictionaries: an association list whose keys are distinct.

  Assigning to a present key replaces the value in place, assigning to a new key appends.
  `values` is therefore the iteration order of the source language's dictionaries.
-/
import Mathlib.Data.List.Nodup
import Mathlib.Data.List.Basic
import Mathlib.Tactic.Common

namespace AccountingPlatform.Lib

universe u v

/-- Entries in insertion order; no key occurs twice. -/
structure Dict (κ : Type u) (ν : Type v) where
  entries : List (κ × ν)
  nodup : (entries.map Prod.fst).Nodup

namespace Dict

variable {κ : Type u} {ν : Type v}

def empty : Dict κ ν := ⟨[], List.nodup_nil⟩

def values (d : Dict κ ν) : List ν := d.entries.map Prod.snd

def keys (d : Dict κ ν) : List κ := d.entries.map Prod.fst

variable [DecidableEq κ]

/-- `d.get(k)`. -/
def get? (d : Dict κ ν) (k : κ) : Option ν :=
  (d.entries.find? fun e => e.1 = k).map Prod.snd

/-- Entry list after `d[k] = v`. -/
def assign (k : κ) (v : ν) : List (κ × ν) → List (κ × ν)
  | [] => [(k, v)]
  | e :: es => if e.1 = k then (k, v) :: es else e :: assign k v es

theorem map_fst_assign (k : κ) (v : ν) (es : List (κ × ν)) :
    (assign k v es).map Prod.fst =
      if k ∈ es.map Prod.fst then es.map Prod.fst else es.map Prod.fst ++ [k] := by
  induction es with
  | nil => simp [assign]
  | cons e es ih =>
    by_cases h : e.1 = k
    · simp [assign, h]
    · have hk : ¬k = e.1 := fun e' => h e'.symm
      simp only [assign, h, if_false, List.map_cons, ih, List.mem_cons, hk, false_or]
      split <;> simp

/-- `d[k] = v`. -/
def set (d : Dict κ ν) (k : κ) (v : ν) : Dict κ ν where
  entries := assign k v d.entries
  nodup := by
    rw [map_fst_assign]
    split
    · exact d.nodup
    · next h => exact (List.nodup_append.mpr ⟨d.nodup, List.nodup_singleton k, by
        intro a ha b hb
        rw [List.mem_singleton] at hb
        rintro rfl
        exact h (hb ▸ ha)⟩)

@[simp] theorem get?_empty (k : κ) : (empty : Dict κ ν).get? k = none := rfl

theorem find?_assign (k k' : κ) (v : ν) (es : List (κ × ν)) :
    ((assign k v es).find? fun e => e.1 = k').map Prod.snd =
      if k = k' then some v else (es.find? fun e => e.1 = k').map Prod.snd := by
  induction es with
  | nil => by_cases h : k = k' <;> simp [assign, h]
  | cons e es ih =>
    by_cases he : e.1 = k
    · by_cases h : k = k'
      · simp [assign, he, h]
      · simp [assign, he, h]
    · by_cases h' : e.1 = k'
      · have hk : ¬k = k' := fun hk => he (h'.trans hk.symm)
        simp [assign, h', hk, show ¬k' = k from fun x => hk x.symm]
      · simp [assign, he, h', ih]

@[simp] theorem get?_set (d : Dict κ ν) (k k' : κ) (v : ν) :
    (d.set k v).get? k' = if k = k' then some v else d.get? k' :=
  find?_assign k k' v d.entries

theorem get?_set_self (d : Dict κ ν) (k : κ) (v : ν) : (d.set k v).get? k = some v := by simp

theorem get?_set_of_ne (d : Dict κ ν) {k k' : κ} (h : k ≠ k') (v : ν) :
    (d.set k v).get? k' = d.get? k' := by simp [h]

theorem find?_eq_some_of_nodup {es : List (κ × ν)} (hn : (es.map Prod.fst).Nodup) (k : κ) (v : ν) :
    (es.find? fun e => e.1 = k).map Prod.snd = some v ↔ (k, v) ∈ es := by
  induction es with
  | nil => simp
  | cons e es ih =>
    rw [List.map_cons, List.nodup_cons] at hn
    by_cases h : e.1 = k
    · subst h
      simp only [List.find?_cons, decide_true, Option.map_some, Option.some.injEq, List.mem_cons]
      constructor
      · rintro rfl; exact Or.inl rfl
      · rintro (h | h)
        · rw [← h]
        · exact absurd (List.mem_map.mpr ⟨_, h, rfl⟩) hn.1
    · have hne : (k, v) ≠ e := by rintro rfl; exact h rfl
      simp [h, ih hn.2, hne]

/-- A lookup finds exactly the stored entry. -/
theorem get?_eq_some_iff (d : Dict κ ν) (k : κ) (v : ν) :
    d.get? k = some v ↔ (k, v) ∈ d.entries :=
  find?_eq_some_of_nodup d.nodup k v

theorem get?_eq_none_iff (d : Dict κ ν) (k : κ) : d.get? k = none ↔ k ∉ d.keys := by
  unfold get? keys
  rw [Option.map_eq_none_iff, List.find?_eq_none]
  simp only [decide_eq_true_eq, List.mem_map, not_exists, not_and]

theorem mem_keys_iff (d : Dict κ ν) (k : κ) : k ∈ d.keys ↔ ∃ v, d.get? k = some v := by
  constructor
  · intro h
    obtain ⟨⟨k', v⟩, hm, rfl⟩ := List.mem_map.mp h
    exact ⟨v, (d.get?_eq_some_iff _ _).mpr hm⟩
  · rintro ⟨v, h⟩
    exact List.mem_map.mpr ⟨(k, v), (d.get?_eq_some_iff _ _).mp h, rfl⟩

theorem mem_values_iff (d : Dict κ ν) (v : ν) : v ∈ d.values ↔ ∃ k, d.get? k = some v := by
  constructor
  · intro h
    obtain ⟨⟨k, v'⟩, hm, rfl⟩ := List.mem_map.mp h
    exact ⟨k, (d.get?_eq_some_iff _ _).mpr hm⟩
  · rintro ⟨k, h⟩
    exact List.mem_map.mpr ⟨(k, v), (d.get?_eq_some_iff _ _).mp h, rfl⟩

theorem assign_of_not_mem {k : κ} {v : ν} {es : List (κ × ν)} (h : k ∉ es.map Prod.fst) :
    assign k v es = es ++ [(k, v)] := by
  induction es with
  | nil => rfl
  | cons e es ih =>
    rw [List.map_cons, List.mem_cons, not_or] at h
    rw [assign, if_neg (fun he => h.1 he.symm), ih h.2, List.cons_append]

/-- A new key is appended. -/
theorem entries_set_of_none (d : Dict κ ν) {k : κ} (h : d.get? k = none) (v : ν) :
    (d.set k v).entries = d.entries ++ [(k, v)] :=
  assign_of_not_mem ((d.get?_eq_none_iff k).mp h)

theorem values_set_of_none (d : Dict κ ν) {k : κ} (h : d.get? k = none) (v : ν) :
    (d.set k v).values = d.values ++ [v] := by
  simp [values, d.entries_set_of_none h v]

/-! ## Comprehensions -/

/-- `{key(x): val(x) for x in xs}`. -/
def ofRows {α : Type*} (key : α → κ) (val : α → ν) (xs : List α) : Dict κ ν :=
  xs.foldl (fun d x => d.set (key x) (val x)) empty

/-- The last row of a key counts. -/
theorem get?_ofRows {α : Type*} (key : α → κ) (val : α → ν) (xs : List α) (k : κ) :
    (ofRows key val xs).get? k = (xs.filter fun x => key x = k).getLast?.map val := by
  have hfold : ∀ d : Dict κ ν, (xs.foldl (fun d x => d.set (key x) (val x)) d).get? k =
      ((xs.filter fun x => key x = k).getLast?.map val).or (d.get? k) := by
    induction xs with
    | nil => intro d; rfl
    | cons x xs ih =>
      intro d
      rw [List.foldl_cons, ih, get?_set]
      by_cases h : key x = k
      · rw [List.filter_cons_of_pos (by simpa using h), List.getLast?_cons, if_pos h]
        cases (xs.filter fun x => key x = k).getLast? with
        | none => rfl
        | some y => rfl
      · rw [List.filter_cons_of_neg (by simpa using h), if_neg h]
  rw [ofRows, hfold, get?_empty, Option.or_none]

theorem mem_keys_ofRows {α : Type*} (key : α → κ) (val : α → ν) (xs : List α) (k : κ) :
    k ∈ (ofRows key val xs).keys ↔ ∃ x ∈ xs, key x = k := by
  rw [mem_keys_iff]
  constructor
  · rintro ⟨v, hv⟩
    rw [get?_ofRows, Option.map_eq_some_iff] at hv
    obtain ⟨x, hx, -⟩ := hv
    have hmem := List.mem_of_getLast? hx
    rw [List.mem_filter, decide_eq_true_eq] at hmem
    exact ⟨x, hmem⟩
  · rintro ⟨x, hx, hk⟩
    have hmem : x ∈ xs.filter fun x => key x = k := List.mem_filter.mpr ⟨hx, by simpa using hk⟩
    cases hlast : (xs.filter fun x => key x = k).getLast? with
    | none =>
      rw [List.getLast?_eq_none_iff] at hlast
      rw [hlast] at hmem
      cases hmem
    | some y => exact ⟨val y, by rw [get?_ofRows, hlast, Option.map_some]⟩

/-! ## Restriction -/

/-- The entries whose keys are kept, in order. -/
def restrict (keep : κ → Bool) (d : Dict κ ν) : Dict κ ν where
  entries := d.entries.filter fun e => keep e.1
  nodup := d.nodup.sublist (List.filter_sublist.map Prod.fst)

omit [DecidableEq κ] in
@[simp] theorem restrict_empty (keep : κ → Bool) :
    (empty : Dict κ ν).restrict keep = empty := rfl

theorem get?_restrict {keep : κ → Bool} {k : κ} (h : keep k = true) (d : Dict κ ν) :
    (d.restrict keep).get? k = d.get? k := by
  have hfind : (d.entries.filter fun e => keep e.1).find? (fun e => e.1 = k) =
      d.entries.find? fun e => e.1 = k := by
    rw [List.find?_filter]
    congr 1
    funext e
    by_cases he : e.1 = k
    · simp [he, h]
    · simp [he]
  unfold get? restrict
  rw [hfind]

theorem filter_assign_of_kept {keep : κ → Bool} {k : κ} (h : keep k = true) (v : ν)
    (es : List (κ × ν)) :
    (assign k v es).filter (fun e => keep e.1) = assign k v (es.filter fun e => keep e.1) := by
  induction es with
  | nil => simp [assign, h]
  | cons e es ih =>
    by_cases he : e.1 = k
    · have hkeep : keep e.1 = true := he ▸ h
      rw [assign, if_pos he, List.filter_cons, List.filter_cons, if_pos h, if_pos hkeep, assign,
        if_pos he]
    · rw [assign, if_neg he, List.filter_cons, List.filter_cons, ih]
      split
      · rw [assign, if_neg he]
      · rfl

theorem filter_assign_of_dropped {keep : κ → Bool} {k : κ} (h : keep k = false) (v : ν)
    (es : List (κ × ν)) :
    (assign k v es).filter (fun e => keep e.1) = es.filter fun e => keep e.1 := by
  have hnot : ¬keep k = true := by simp [h]
  induction es with
  | nil => rw [assign, List.filter_cons, if_neg hnot]
  | cons e es ih =>
    by_cases he : e.1 = k
    · have hdrop : ¬keep e.1 = true := he ▸ hnot
      rw [assign, if_pos he, List.filter_cons, List.filter_cons, if_neg hnot, if_neg hdrop]
    · rw [assign, if_neg he, List.filter_cons, List.filter_cons, ih]

theorem restrict_set_of_kept {keep : κ → Bool} {k : κ} (h : keep k = true) (d : Dict κ ν) (v : ν) :
    (d.set k v).restrict keep = (d.restrict keep).set k v := by
  unfold set restrict
  congr 1
  exact filter_assign_of_kept h v d.entries

theorem restrict_set_of_dropped {keep : κ → Bool} {k : κ} (h : keep k = false) (d : Dict κ ν)
    (v : ν) : (d.set k v).restrict keep = d.restrict keep := by
  unfold set restrict
  congr 1
  exact filter_assign_of_dropped h v d.entries

end Dict

end AccountingPlatform.Lib
