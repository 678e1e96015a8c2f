/-
  Rows sorted into buckets of a dictionary, and running sums with a rounding of their own.

  `bucket = d.setdefault(key(row), init(row))` followed by an update of the bucket: the bucket
  of a key is the fold of the rows with that key, whatever rows come between them, so a total
  over the buckets is a total over the rows (`total_accumulate`).
-/
import Mathlib.Data.List.Induction
import AccountingPlatform.Lib.Dict
import AccountingPlatform.Lib.Significant
import AccountingPlatform.Lib.Totals

namespace AccountingPlatform.Lib

universe u v w
variable {α : Type u} {κ : Type v} {ν : Type w} [DecidableEq κ]

/-! ## Buckets -/

namespace Dict

theorem keys_set (d : Dict κ ν) (k : κ) (v : ν) :
    (d.set k v).keys = if k ∈ d.keys then d.keys else d.keys ++ [k] :=
  map_fst_assign k v d.entries

omit [DecidableEq κ] in
theorem nodup_keys (d : Dict κ ν) : d.keys.Nodup := d.nodup

theorem map_some_values (d : Dict κ ν) : d.values.map some = d.keys.map d.get? := by
  unfold values keys
  rw [List.map_map, List.map_map]
  refine List.map_congr_left fun e he => ?_
  exact ((d.get?_eq_some_iff e.1 e.2).mpr he).symm

/-- Every row updates the bucket of its key, which its first row initialises. -/
def accumulate (key : α → κ) (init : α → ν) (step : ν → α → ν) (xs : List α) : Dict κ ν :=
  xs.foldl (fun d x => d.set (key x) (step ((d.get? (key x)).getD (init x)) x)) empty

variable (key : α → κ) (init : α → ν) (step : ν → α → ν)

/-- The bucket of some rows. -/
def bucket : List α → Option ν
  | [] => none
  | x :: xs => some (xs.foldl step (step (init x) x))

omit [DecidableEq κ] in
theorem bucket_concat (xs : List α) (x : α) :
    bucket init step (xs ++ [x]) = some (step ((bucket init step xs).getD (init x)) x) := by
  cases xs with
  | nil => rfl
  | cons y ys =>
    show some ((ys ++ [x]).foldl step (step (init y) y)) = _
    rw [List.foldl_append]
    rfl

theorem accumulate_concat (xs : List α) (x : α) :
    accumulate key init step (xs ++ [x]) = (accumulate key init step xs).set (key x)
      (step (((accumulate key init step xs).get? (key x)).getD (init x)) x) := by
  unfold accumulate
  rw [List.foldl_append]
  rfl

theorem get?_accumulate (xs : List α) (k : κ) :
    (accumulate key init step xs).get? k = bucket init step (xs.filter fun x => key x = k) := by
  induction xs using List.reverseRecOn with
  | nil => rfl
  | append_singleton xs x ih =>
    rw [accumulate_concat, get?_set, List.filter_append]
    by_cases h : key x = k
    · have hkept : [x].filter (fun x => key x = k) = [x] := by simp [h]
      rw [if_pos h, hkept, bucket_concat, ← ih, h]
    · have hdropped : [x].filter (fun x => key x = k) = [] := by simp [h]
      rw [if_neg h, hdropped, List.append_nil, ih]

/-- The keys do not depend on what is kept in the buckets. -/
theorem keys_accumulate_congr {ν' : Type*} (init' : α → ν') (step' : ν' → α → ν') (xs : List α) :
    (accumulate key init step xs).keys = (accumulate key init' step' xs).keys := by
  induction xs using List.reverseRecOn with
  | nil => rfl
  | append_singleton xs x ih => rw [accumulate_concat, accumulate_concat, keys_set, keys_set, ih]

theorem mem_keys_accumulate {xs : List α} {k : κ} :
    k ∈ (accumulate key init step xs).keys ↔ ∃ x ∈ xs, key x = k := by
  rw [mem_keys_iff, get?_accumulate]
  constructor
  · intro ⟨v, hv⟩
    cases hrows : xs.filter fun x => key x = k with
    | nil => rw [hrows] at hv; cases hv
    | cons x rest =>
      have hx : x ∈ xs.filter fun x => key x = k := hrows ▸ List.mem_cons_self
      rw [List.mem_filter, decide_eq_true_eq] at hx
      exact ⟨x, hx⟩
  · intro ⟨x, hx, hk⟩
    have hmem : x ∈ xs.filter fun x => key x = k := List.mem_filter.mpr ⟨hx, by simpa using hk⟩
    cases hrows : xs.filter fun x => key x = k with
    | nil => rw [hrows] at hmem; cases hmem
    | cons y rest => exact ⟨_, rfl⟩

/-- Buckets that agree key by key agree in their order too. -/
theorem values_accumulate_congr {step' : ν → α → ν} {xs : List α}
    (h : ∀ k, bucket init step (xs.filter fun x => key x = k) =
      bucket init step' (xs.filter fun x => key x = k)) :
    (accumulate key init step xs).values = (accumulate key init step' xs).values := by
  have hsome : (accumulate key init step xs).values.map some =
      (accumulate key init step' xs).values.map some := by
    rw [map_some_values, map_some_values, keys_accumulate_congr key init step init step' xs]
    refine List.map_congr_left fun k _ => ?_
    rw [get?_accumulate, get?_accumulate, h]
  exact (List.map_injective_iff.mpr (Option.some_injective ν)) hsome

/-- A total over the buckets is one over the rows. -/
theorem total_accumulate {M : Type*} [AddCommMonoid M] {f : ν → M} {g : α → M} {xs : List α}
    (h : ∀ k v, bucket init step (xs.filter fun x => key x = k) = some v →
      f v = total g (xs.filter fun x => key x = k)) :
    total f (accumulate key init step xs).values = total g xs := by
  rw [← total_groups key g (accumulate key init step xs).nodup_keys fun x hx =>
    (mem_keys_accumulate key init step).mpr ⟨x, hx, rfl⟩]
  unfold values keys
  rw [total_map, total_map]
  refine total_congr fun e he => h e.1 e.2 ?_
  rw [← get?_accumulate]
  exact (get?_eq_some_iff _ _ _).mpr he

end Dict

/-! ## Running sums -/

theorem abs_total_le {β : Type*} (f : β → ℤ) (xs : List β) :
    |total f xs| ≤ total (fun x => |f x|) xs := by
  induction xs with
  | nil => exact (abs_zero (α := ℤ)).le
  | cons x xs ih =>
    rw [total_cons, total_cons]
    exact (abs_add_le _ _).trans (by omega)

theorem total_filter_le {β : Type*} {f : β → ℤ} {xs : List β} (h : ∀ x ∈ xs, 0 ≤ f x) (p : β → Bool) :
    total f (xs.filter p) ≤ total f xs := by
  have hrest : 0 ≤ total f (xs.filter fun x => !p x) :=
    List.sum_nonneg (List.forall_mem_map.mpr fun x hx => h x (List.mem_filter.mp hx).1)
  have hsplit := total_filter_add_not f p xs
  omega

/-- `for x in xs: acc += x`, every result rounded. -/
def runningSum (round : ℤ → ℤ) (acc : ℤ) (xs : List ℤ) : ℤ := xs.foldl (fun acc x => round (acc + x)) acc

@[simp] theorem runningSum_nil (round : ℤ → ℤ) (acc : ℤ) : runningSum round acc [] = acc := rfl

@[simp] theorem runningSum_cons (round : ℤ → ℤ) (acc x : ℤ) (xs : List ℤ) :
    runningSum round acc (x :: xs) = runningSum round (round (acc + x)) xs := rfl

theorem runningSum_id (acc : ℤ) (xs : List ℤ) : runningSum id acc xs = acc + xs.sum := by
  induction xs generalizing acc with
  | nil => simp
  | cons x xs ih =>
    rw [runningSum_cons, ih, List.sum_cons, id_eq]
    ring

/-- A rounding that leaves small amounts alone does not show in a sum of few digits. -/
theorem runningSum_of_small {round : ℤ → ℤ} {bound : ℤ} (hround : ∀ z, |z| < bound → round z = z)
    {acc : ℤ} {xs : List ℤ} (h : |acc| + total (fun x => |x|) xs < bound) :
    runningSum round acc xs = acc + xs.sum := by
  induction xs generalizing acc with
  | nil => simp
  | cons x xs ih =>
    have hrest : 0 ≤ total (fun x : ℤ => |x|) xs :=
      List.sum_nonneg (List.forall_mem_map.mpr fun y _ => abs_nonneg y)
    rw [total_cons] at h
    have htri := abs_add_le acc x
    rw [runningSum_cons, hround _ (by omega), ih (by omega), List.sum_cons]
    ring

/-- A sum that never sinks to zero again. -/
theorem runningSum_eq_zero_iff {round : ℤ → ℤ} (hpos : ∀ z, 0 < z → 0 < round z) (hzero : round 0 = 0)
    {acc : ℤ} (hacc : 0 ≤ acc) {xs : List ℤ} (h : ∀ x ∈ xs, 0 ≤ x) :
    runningSum round acc xs = 0 ↔ acc = 0 ∧ ∀ x ∈ xs, x = 0 := by
  induction xs generalizing acc with
  | nil => simp
  | cons x xs ih =>
    have hx := h x List.mem_cons_self
    have hrest : ∀ y ∈ xs, 0 ≤ y := fun y hy => h y (List.mem_cons_of_mem x hy)
    have hround : 0 ≤ round (acc + x) ∧ (round (acc + x) = 0 ↔ acc = 0 ∧ x = 0) := by
      rcases (add_nonneg hacc hx).eq_or_lt with heq | hlt
      · rw [← heq, hzero]
        omega
      · have := hpos _ hlt
        omega
    rw [runningSum_cons, ih hround.1 hrest, hround.2, List.forall_mem_cons, and_assoc]

end AccountingPlatform.Lib
