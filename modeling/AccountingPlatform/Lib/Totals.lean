/-
  Totals over the rows of a table: SUM with a WHERE clause, joins of a parent row with its
  child rows, and GROUP BY.

  A total under a condition is turned into a total of indicators (`total_filter`), so two
  populations of one table are compared row by row with `total_congr` and `total_add`.
-/
import Mathlib.Algebra.BigOperators.Group.List.Basic
import Mathlib.Algebra.Order.BigOperators.Group.List
import Mathlib.Algebra.Order.Group.Nat
import Mathlib.Algebra.Ring.Int.Defs
import Mathlib.Data.List.Sort
import Mathlib.Data.List.Dedup
import Mathlib.Data.Nat.Cast.Basic
import Mathlib.Tactic.Abel
import AccountingPlatform.Lib.Outcome

namespace AccountingPlatform.Lib

universe u v w
variable {α : Type u} {β : Type v} {κ : Type w} {M : Type*} [AddCommMonoid M]

/-! ## Totals -/

/-- Sum of `f` over the rows. -/
def total (f : α → M) (xs : List α) : M := (xs.map f).sum

@[simp] theorem total_nil (f : α → M) : total f [] = 0 := rfl

@[simp] theorem total_cons (f : α → M) (x : α) (xs : List α) :
    total f (x :: xs) = f x + total f xs := by simp [total]

@[simp] theorem total_append (f : α → M) (xs ys : List α) :
    total f (xs ++ ys) = total f xs + total f ys := by simp [total]

theorem total_congr {f g : α → M} {xs : List α} (h : ∀ x ∈ xs, f x = g x) :
    total f xs = total g xs := by
  unfold total
  rw [List.map_congr_left h]

theorem total_add (f g : α → M) (xs : List α) :
    total (fun x => f x + g x) xs = total f xs + total g xs := by
  induction xs with
  | nil => simp
  | cons x xs ih => simp only [total_cons, ih]; abel

theorem total_zero (xs : List α) : total (fun _ => (0 : M)) xs = 0 := by
  induction xs with
  | nil => rfl
  | cons x xs ih => simp [ih]

theorem total_eq_zero {f : α → M} {xs : List α} (h : ∀ x ∈ xs, f x = 0) : total f xs = 0 :=
  (total_congr h).trans (total_zero xs)

theorem total_map (f : β → M) (g : α → β) (xs : List α) :
    total f (xs.map g) = total (fun x => f (g x)) xs := by
  simp [total, Function.comp_def]

theorem total_flatMap (f : β → M) (g : α → List β) (xs : List α) :
    total f (xs.flatMap g) = total (fun x => total f (g x)) xs := by
  induction xs with
  | nil => rfl
  | cons x xs ih => simp [List.flatMap_cons, ih]

/-- WHERE as an indicator. -/
theorem total_filter (f : α → M) (p : α → Bool) (xs : List α) :
    total f (xs.filter p) = total (fun x => if p x then f x else 0) xs := by
  induction xs with
  | nil => rfl
  | cons x xs ih =>
    by_cases h : p x
    · simp [h, ih]
    · simp [h, ih]

theorem total_filter_add_not (f : α → M) (p : α → Bool) (xs : List α) :
    total f (xs.filter p) + total f (xs.filter fun x => !p x) = total f xs := by
  simp only [total_filter, ← total_add]
  refine total_congr fun x _ => ?_
  by_cases h : p x <;> simp [h]

/-- A population that falls into three disjoint ones. -/
theorem total_split₃ (f : α → M) {p a b c : α → Prop} [DecidablePred p] [DecidablePred a]
    [DecidablePred b] [DecidablePred c] {xs : List α}
    (h : ∀ x ∈ xs, (p x ∧ a x ∧ ¬b x ∧ ¬c x) ∨ (p x ∧ ¬a x ∧ b x ∧ ¬c x) ∨
      (p x ∧ ¬a x ∧ ¬b x ∧ c x) ∨ (¬p x ∧ ¬a x ∧ ¬b x ∧ ¬c x)) :
    total f (xs.filter fun x => p x) =
      total f (xs.filter fun x => a x) + total f (xs.filter fun x => b x) +
        total f (xs.filter fun x => c x) := by
  simp only [total_filter, ← total_add]
  refine total_congr fun x hx => ?_
  rcases h x hx with ⟨hp, ha, hb, hc⟩ | ⟨hp, ha, hb, hc⟩ | ⟨hp, ha, hb, hc⟩ | ⟨hp, ha, hb, hc⟩ <;>
    simp [hp, ha, hb, hc]

theorem total_perm {f : α → M} {xs ys : List α} (h : xs.Perm ys) : total f xs = total f ys :=
  (h.map f).sum_eq

theorem total_map_hom {N : Type*} [AddCommMonoid N] (g : M →+ N) (f : α → M) (xs : List α) :
    g (total f xs) = total (fun x => g (f x)) xs := by
  induction xs with
  | nil => simp
  | cons x xs ih => simp [ih]

theorem natCast_total (f : α → ℕ) (xs : List α) :
    ((total f xs : ℕ) : ℤ) = total (fun x => (f x : ℤ)) xs :=
  total_map_hom (Nat.castAddMonoidHom ℤ) f xs

theorem total_sub (f g : α → ℤ) (xs : List α) :
    total (fun x => f x - g x) xs = total f xs - total g xs := by
  induction xs with
  | nil => rfl
  | cons x xs ih => simp only [total_cons, ih]; omega

theorem total_mono {f g : α → ℕ} {xs : List α} (h : ∀ x ∈ xs, f x ≤ g x) :
    total f xs ≤ total g xs := by
  induction xs with
  | nil => exact Nat.le_refl _
  | cons x xs ih =>
    have := h x List.mem_cons_self
    have := ih fun y hy => h y (List.mem_cons_of_mem x hy)
    simp only [total_cons]; omega

theorem le_total {f : α → ℕ} {xs : List α} {x : α} (h : x ∈ xs) : f x ≤ total f xs := by
  induction xs with
  | nil => cases h
  | cons y ys ih =>
    rcases List.mem_cons.mp h with rfl | h
    · simp
    · have := ih h; simp only [total_cons]; omega

theorem total_eq_zero_iff {f : α → ℕ} {xs : List α} : total f xs = 0 ↔ ∀ x ∈ xs, f x = 0 := by
  constructor
  · intro h x hx
    have := le_total (f := f) hx
    omega
  · exact total_eq_zero

/-- A stricter condition leaves the total alone when it only drops rows that count nothing. -/
theorem total_filter_and_eq_iff (f : α → ℕ) (p q : α → Prop) [DecidablePred p] [DecidablePred q]
    (xs : List α) :
    total f (xs.filter fun x => p x ∧ q x) = total f (xs.filter fun x => p x) ↔
      ∀ x ∈ xs, p x → ¬q x → f x = 0 := by
  have hsplit : total f (xs.filter fun x => p x) = total f (xs.filter fun x => p x ∧ q x) +
      total (fun x => if p x ∧ ¬q x then f x else 0) xs := by
    simp only [total_filter, ← total_add]
    refine total_congr fun x _ => ?_
    by_cases hp : p x <;> by_cases hq : q x <;> simp [hp, hq]
  rw [hsplit, left_eq_add, total_eq_zero_iff]
  refine forall₂_congr fun x _ => ?_
  by_cases hp : p x <;> by_cases hq : q x <;> simp [hp, hq]

/-- A total over rows that were built one by one. -/
theorem total_tryMap {ε : Type*} {γ : Type u} {h : α → Except ε γ} {f : γ → M} {g : α → M}
    (hfg : ∀ a b, h a = .ok b → f b = g a) {as : List α} {bs : List γ}
    (hok : tryMap h as = .ok bs) : total f bs = total g as := by
  rw [total, total, map_tryMap hfg hok]

/-! ## GROUP BY -/

theorem total_single [DecidableEq κ] {ks : List κ} (hn : ks.Nodup) {k : κ} (hk : k ∈ ks) (m : M) :
    total (fun k' => if k = k' then m else 0) ks = m := by
  induction ks with
  | nil => cases hk
  | cons a ks ih =>
    rw [List.nodup_cons] at hn
    by_cases ha : k = a
    · subst ha
      have h0 : total (fun k' => if k = k' then m else 0) ks = 0 :=
        total_eq_zero fun x hx => if_neg (by rintro rfl; exact hn.1 hx)
      simp [h0]
    · have hk' : k ∈ ks := (List.mem_cons.mp hk).resolve_left ha
      simp [ha, ih hn.2 hk']

/-- Adding up the groups gives the ungrouped total. -/
theorem total_groups [DecidableEq κ] (key : α → κ) (f : α → M) {ks : List κ} (hn : ks.Nodup)
    {xs : List α} (hk : ∀ x ∈ xs, key x ∈ ks) :
    total (fun k => total f (xs.filter fun x => key x = k)) ks = total f xs := by
  induction xs with
  | nil => simp [total_zero]
  | cons x xs ih =>
    have hrest := ih fun y hy => hk y (List.mem_cons_of_mem x hy)
    have hx := total_single (M := M) hn (hk x List.mem_cons_self) (f x)
    rw [total_cons, ← hrest, ← hx, ← total_add]
    refine total_congr fun k _ => ?_
    by_cases h : key x = k
    · simp [h]
    · simp [h]

/-- Distinct keys of the rows, in the order the database returns groups. -/
def groupKeys [DecidableEq κ] (le : κ → κ → Bool) (key : α → κ) (xs : List α) : List κ :=
  ((xs.map key).dedup).insertionSort fun a b => le a b

theorem mem_groupKeys [DecidableEq κ] {le : κ → κ → Bool} {key : α → κ} {xs : List α} {k : κ} :
    k ∈ groupKeys le key xs ↔ ∃ x ∈ xs, key x = k := by
  unfold groupKeys
  rw [(List.perm_insertionSort _ _).mem_iff, List.mem_dedup, List.mem_map]

theorem groupKeys_nodup [DecidableEq κ] (le : κ → κ → Bool) (key : α → κ) (xs : List α) :
    (groupKeys le key xs).Nodup :=
  (List.perm_insertionSort _ _).nodup_iff.mpr (List.nodup_dedup _)

theorem total_groupKeys [DecidableEq κ] (le : κ → κ → Bool) (key : α → κ) (f : α → M)
    (xs : List α) :
    total (fun k => total f (xs.filter fun x => key x = k)) (groupKeys le key xs) = total f xs :=
  total_groups key f (groupKeys_nodup le key xs) fun x hx => mem_groupKeys.mpr ⟨x, hx, rfl⟩

/-! ## ORDER BY with LIMIT 1 -/

/-- The first row in any order, when the query has one row only. -/
theorem head?_insertionSort_of_unique (r : α → α → Prop) [DecidableRel r] {xs : List α} {x : α}
    (hx : x ∈ xs) (hu : ∀ y ∈ xs, y = x) : (xs.insertionSort r).head? = some x := by
  have hperm := List.perm_insertionSort r xs
  cases hs : xs.insertionSort r with
  | nil =>
    rw [hs] at hperm
    rw [hperm.nil_eq.symm] at hx
    cases hx
  | cons y ys =>
    rw [hs] at hperm
    rw [List.head?_cons, hu y (hperm.mem_iff.mp List.mem_cons_self)]

end AccountingPlatform.Lib
