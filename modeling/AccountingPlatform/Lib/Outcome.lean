/-
  Computations that may fail: the shape of a successful run of a sequence of checks.

  `require` and `fetch` are the two guards such code is made of: a condition that must
  hold and a row that must be there. The simp lemmas turn "this sequence returned `b`" into
  the conjunction of what every guard saw.
-/
import Mathlib.Logic.Basic
import Mathlib.Tactic.Common

namespace AccountingPlatform.Lib

universe u v
variable {ε : Type u} {α β : Type v}

/-- Go on only if `c` holds. -/
def require (c : Prop) [Decidable c] (e : ε) : Except ε Unit :=
  if c then .ok () else .error e

/-- Go on with the row that was found. -/
def fetch (row : Option α) (e : ε) : Except ε α :=
  match row with
  | some a => .ok a
  | none => .error e

@[simp] theorem bind_eq_ok {x : Except ε α} {f : α → Except ε β} {b : β} :
    (x >>= f) = .ok b ↔ ∃ a, x = .ok a ∧ f a = .ok b := by
  cases x with
  | error e => simp [bind, Except.bind]
  | ok a => simp [bind, Except.bind]

@[simp] theorem pure_eq_ok {a b : α} : (pure a : Except ε α) = .ok b ↔ a = b := by
  simp [pure, Except.pure]

@[simp] theorem require_eq_ok {c : Prop} [Decidable c] {e : ε} {u : Unit} :
    require c e = .ok u ↔ c := by
  unfold require
  split <;> simp_all

@[simp] theorem fetch_eq_ok {row : Option α} {e : ε} {a : α} :
    fetch row e = .ok a ↔ row = some a := by
  cases row <;> simp [fetch]

@[simp] theorem map_eq_ok {f : α → β} {x : Except ε α} {b : β} :
    x.map f = .ok b ↔ ∃ a, x = .ok a ∧ f a = b := by
  cases x with
  | error e => simp [Except.map]
  | ok a => simp [Except.map]

theorem toOption_eq_some {x : Except ε α} {a : α} : x.toOption = some a ↔ x = .ok a := by
  cases x with
  | error e => simp [Except.toOption]
  | ok a => simp [Except.toOption]

theorem require_of {c : Prop} [Decidable c] (h : c) (e : ε) : require c e = .ok () := if_pos h

/-- A guard either passes or raises its own error. -/
theorem require_cases (c : Prop) [Decidable c] (e : ε) :
    (c ∧ require c e = .ok ()) ∨ (¬c ∧ require c e = .error e) := by
  by_cases h : c
  · exact Or.inl ⟨h, if_pos h⟩
  · exact Or.inr ⟨h, if_neg h⟩

@[simp] theorem ok_bind (a : α) (f : α → Except ε β) : ((.ok a : Except ε α) >>= f) = f a := rfl

@[simp] theorem error_bind (e : ε) (f : α → Except ε β) :
    ((.error e : Except ε α) >>= f) = .error e := rfl

/-- Success, as a proposition that can be decided. -/
def Succeeds (x : Except ε α) : Prop := ∃ a, x = .ok a

instance decSucceeds (x : Except ε α) : Decidable (Succeeds x) :=
  match x with
  | .ok a => isTrue ⟨a, rfl⟩
  | .error _ => isFalse (by rintro ⟨a, h⟩; cases h)

theorem succeeds_map {x : Except ε α} {f : α → β} : Succeeds (x.map f) ↔ Succeeds x := by
  cases x with
  | ok a => exact iff_of_true ⟨f a, rfl⟩ ⟨a, rfl⟩
  | error e => exact iff_of_false nofun nofun

/-- Map over a list, stopping at the first failure. -/
def tryMap (f : α → Except ε β) : List α → Except ε (List β)
  | [] => .ok []
  | a :: as => do
    let b ← f a
    let bs ← tryMap f as
    pure (b :: bs)

theorem tryMap_ok {f : α → Except ε β} {as : List α} {bs : List β}
    (h : tryMap f as = .ok bs) : List.Forall₂ (fun a b => f a = .ok b) as bs := by
  induction as generalizing bs with
  | nil => cases h; exact .nil
  | cons a as ih =>
    simp only [tryMap, bind_eq_ok, pure_eq_ok] at h
    obtain ⟨b, hb, bs', hbs, rfl⟩ := h
    exact .cons hb (ih hbs)

/-- What the results show is what their inputs determine. -/
theorem map_tryMap {γ : Type*} {f : α → Except ε β} {g : β → γ} {g' : α → γ}
    (h : ∀ a b, f a = .ok b → g b = g' a) {as : List α} {bs : List β}
    (hok : tryMap f as = .ok bs) : bs.map g = as.map g' := by
  have hall := tryMap_ok hok
  clear hok
  induction hall with
  | nil => rfl
  | cons hb _ ih => rw [List.map_cons, List.map_cons, h _ _ hb, ih]

theorem tryMap_length {f : α → Except ε β} {as : List α} {bs : List β}
    (h : tryMap f as = .ok bs) : bs.length = as.length := by
  have hall := tryMap_ok h
  clear h
  induction hall with
  | nil => rfl
  | cons _ _ ih => rw [List.length_cons, List.length_cons, ih]

theorem mem_tryMap {f : α → Except ε β} {as : List α} {bs : List β} (h : tryMap f as = .ok bs)
    {b : β} (hb : b ∈ bs) : ∃ a ∈ as, f a = .ok b := by
  have hall := tryMap_ok h
  clear h
  induction hall with
  | nil => cases hb
  | cons hrow _ ih =>
    rcases List.mem_cons.mp hb with rfl | hb
    · exact ⟨_, List.mem_cons_self, hrow⟩
    · obtain ⟨a, ha, hab⟩ := ih hb
      exact ⟨a, List.mem_cons_of_mem _ ha, hab⟩

/-! ## Errors -/

theorem require_eq_error {c : Prop} [Decidable c] {e e' : ε} :
    require c e = .error e' ↔ ¬c ∧ e = e' := by
  unfold require
  split <;> simp_all

/-- Whatever error the computation ends with satisfies `P`. -/
def Raises (P : ε → Prop) (x : Except ε α) : Prop := ∀ e, x = .error e → P e

section
variable {P : ε → Prop}

theorem raises_ok (a : α) : Raises P (.ok a : Except ε α) := by
  intro e h
  cases h

theorem raises_error {e : ε} (h : P e) : Raises P (.error e : Except ε α) := by
  intro e' he
  cases he
  exact h

theorem raises_pure (a : α) : Raises P (pure a : Except ε α) := raises_ok a

theorem raises_require {c : Prop} [Decidable c] {e : ε} (h : P e) : Raises P (require c e) := by
  unfold require
  split
  · exact raises_ok ()
  · exact raises_error h

theorem raises_fetch {row : Option α} {e : ε} (h : P e) : Raises P (fetch row e) := by
  unfold fetch
  split
  · exact raises_ok _
  · exact raises_error h

/-- What runs first may raise, and what follows a success of it. -/
theorem raises_bind {x : Except ε α} {f : α → Except ε β} (hx : Raises P x)
    (hf : ∀ a, x = .ok a → Raises P (f a)) : Raises P (x >>= f) := by
  cases x with
  | error e => exact raises_error (hx e rfl)
  | ok a => exact hf a rfl

theorem raises_bind_iff {x : Except ε α} {f : α → Except ε β} :
    Raises P (x >>= f) ↔ Raises P x ∧ ∀ a, x = .ok a → Raises P (f a) := by
  constructor
  · intro h
    refine ⟨fun e he => h e (by rw [he]; rfl), fun a ha e he => h e ?_⟩
    rw [ha]
    exact he
  · exact fun h => raises_bind h.1 h.2

theorem raises_require_iff {c : Prop} [Decidable c] {e : ε} :
    Raises P (require c e) ↔ (¬c → P e) := by
  constructor
  · exact fun h hc => h e (if_neg hc)
  · intro h e' he
    obtain ⟨hc, rfl⟩ := require_eq_error.mp he
    exact h hc

theorem raises_map {x : Except ε α} {f : α → β} (hx : Raises P x) : Raises P (x.map f) := by
  cases x with
  | error e => exact raises_error (hx e rfl)
  | ok a => exact raises_ok _

theorem raises_tryMap {f : α → Except ε β} (hf : ∀ a, Raises P (f a)) (as : List α) :
    Raises P (tryMap f as) := by
  induction as with
  | nil => exact raises_ok _
  | cons a as ih =>
    exact raises_bind (hf a) fun b _ => raises_bind ih fun bs _ => raises_pure _

/-- A sequence ends with an error of its first part or of its second. -/
theorem bind_eq_error {x : Except ε α} {f : α → Except ε β} {e : ε} :
    (x >>= f) = .error e ↔ x = .error e ∨ ∃ a, x = .ok a ∧ f a = .error e := by
  cases x with
  | error e' => simp [bind, Except.bind]
  | ok a => simp [bind, Except.bind]

theorem map_eq_error {x : Except ε α} {f : α → β} {e : ε} : x.map f = .error e ↔ x = .error e := by
  cases x with
  | error e' => simp [Except.map]
  | ok a => simp [Except.map]

theorem fetch_eq_error {row : Option α} {e e' : ε} :
    fetch row e = .error e' ↔ row = none ∧ e = e' := by
  cases row <;> simp [fetch]

theorem pure_ne_error {a : α} {e : ε} : (pure a : Except ε α) ≠ .error e := nofun

/-- An error that the first part never raises comes from the second. -/
theorem Raises.bind_error {x : Except ε α} {f : α → Except ε β} {e : ε} (hx : Raises P x)
    (he : ¬P e) (h : (x >>= f) = .error e) : ∃ a, x = .ok a ∧ f a = .error e := by
  rcases bind_eq_error.mp h with h | h
  · exact absurd (hx e h) he
  · exact h

/-- A computation that does not succeed ends with one of its errors. -/
theorem Raises.error_of_not {x : Except ε α} (h : Raises P x) (hx : ¬Succeeds x) :
    ∃ e, x = .error e ∧ P e := by
  cases x with
  | error e => exact ⟨e, rfl, h e rfl⟩
  | ok a => exact absurd ⟨a, rfl⟩ hx

end

end AccountingPlatform.Lib
