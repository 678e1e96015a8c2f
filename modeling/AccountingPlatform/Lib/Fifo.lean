/-
  A queue of keyed amounts: increases join at the end, decreases are taken from the front.

  What is left is a suffix of the increases, its first item perhaps reduced
  (`fifo_leavesSuffix`), and it adds up to a balance that is held at zero from below
  (`total_fifo`). That balance is the plain one, or zero where the plain one is negative,
  exactly when the plain balance never was lower before (`outstanding_eq_max_iff`).
-/
import Mathlib.Algebra.Order.Ring.Defs
import Mathlib.Data.List.Infix
import Mathlib.Tactic.Linarith
import Mathlib.Tactic.Ring
import AccountingPlatform.Lib.Totals

namespace AccountingPlatform.Lib

universe u v
variable {δ : Type u} {R : Type v} [CommRing R] [LinearOrder R]

/-! ## The queue -/

inductive Movement (δ : Type u) (R : Type v)
  | increase (key : δ) (amount : R)
  | decrease (amount : R)

/-- What each item keeps when an amount is taken from them in order. -/
def consume : R → List (δ × R) → List (δ × R)
  | _, [] => []
  | amount, (key, held) :: items =>
    (key, held - min held amount) :: consume (amount - min held amount) items

/-- The items that still hold something. -/
def openItems (items : List (δ × R)) : List (δ × R) := items.filter fun item => 0 < item.2

def fifoStep (items : List (δ × R)) : Movement δ R → List (δ × R)
  | .increase key amount => items ++ [(key, amount)]
  | .decrease amount => openItems (consume amount items)

def fifo (moves : List (Movement δ R)) : List (δ × R) := moves.foldl fifoStep []

namespace Movement

def Proper : Movement δ R → Prop
  | .increase _ amount => 0 < amount
  | .decrease amount => 0 < amount

def signed : Movement δ R → R
  | .increase _ amount => amount
  | .decrease amount => -amount

def increase? : Movement δ R → Option (δ × R)
  | .increase key amount => some (key, amount)
  | .decrease _ => none

end Movement

/-- The increases, in order. -/
def increases (moves : List (Movement δ R)) : List (δ × R) := moves.filterMap Movement.increase?

/-- A balance that a decrease cannot take below zero. -/
def outstandingStep (balance : R) : Movement δ R → R
  | .increase _ amount => balance + amount
  | .decrease amount => max (balance - amount) 0

def outstanding (moves : List (Movement δ R)) : R := moves.foldl outstandingStep 0

def balance (moves : List (Movement δ R)) : R := (moves.map Movement.signed).sum

/-- A suffix of the items, its first one perhaps reduced, or nothing. -/
def LeavesSuffix (left items : List (δ × R)) : Prop :=
  left = [] ∨ ∃ done key held kept rest, items = done ++ (key, held) :: rest ∧
    left = (key, kept) :: rest ∧ 0 < kept ∧ kept ≤ held

/-! ## Suffixes -/

theorem LeavesSuffix.trans {left middle items : List (δ × R)} (h : LeavesSuffix left middle)
    (h' : LeavesSuffix middle items) : LeavesSuffix left items := by
  rcases h with hnil | ⟨done, k, a, b, rest, hmiddle, hleft, hb, hba⟩
  · exact Or.inl hnil
  rcases h' with hnil | ⟨done', k', a', b', rest', hitems, hmiddle', hb', hba'⟩
  · rw [hnil] at hmiddle
    cases done <;> cases hmiddle
  rw [hmiddle'] at hmiddle
  cases done with
  | nil =>
    -- the same item is reduced once more
    obtain ⟨hhead, hrest⟩ := List.cons.inj hmiddle
    obtain ⟨hk, ha⟩ := Prod.mk.inj hhead
    subst hk ha hrest
    exact Or.inr ⟨done', k', a', b, rest', hitems, hleft, hb, hba.trans hba'⟩
  | cons first done =>
    obtain ⟨-, hrest⟩ := List.cons.inj hmiddle
    refine Or.inr ⟨done' ++ (k', a') :: done, k, a, b, rest, ?_, hleft, hb, hba⟩
    rw [hitems, hrest, List.append_assoc]
    rfl

theorem LeavesSuffix.concat {left items : List (δ × R)} (h : LeavesSuffix left items) {key : δ}
    {amount : R} (hamount : 0 < amount) :
    LeavesSuffix (left ++ [(key, amount)]) (items ++ [(key, amount)]) := by
  rcases h with hnil | ⟨done, k, a, b, rest, hitems, hleft, hb, hba⟩
  · exact Or.inr ⟨items, key, amount, amount, [], rfl, by rw [hnil]; rfl, hamount, le_refl _⟩
  · refine Or.inr ⟨done, k, a, b, rest ++ [(key, amount)], ?_, ?_, hb, hba⟩
    · rw [hitems, List.append_assoc, List.cons_append]
    · rw [hleft, List.cons_append]

theorem LeavesSuffix.keys {left items : List (δ × R)} (h : LeavesSuffix left items) :
    left.map Prod.fst <:+ items.map Prod.fst := by
  rcases h with hnil | ⟨done, k, a, b, rest, hitems, hleft, -, -⟩
  · rw [hnil]
    exact List.nil_suffix
  · rw [hitems, hleft, List.map_append]
    exact List.suffix_append _ _

/-- What is left of an item is no more than the item. -/
theorem LeavesSuffix.amount_lt {left items : List (δ × R)} (h : LeavesSuffix left items) {b : R}
    (hitems : ∀ item ∈ items, item.2 < b) : ∀ item ∈ left, item.2 < b := by
  rcases h with hnil | ⟨done, key, held, kept, rest, hsplit, hleft, -, hle⟩
  · rw [hnil]
    exact fun item hitem => absurd hitem List.not_mem_nil
  · rw [hleft]
    rw [hsplit] at hitems
    intro item hitem
    rcases List.mem_cons.mp hitem with rfl | hitem
    · exact hle.trans_lt (hitems (key, held) (by simp))
    · exact hitems item (by simp [hitem])

/-! ## One more movement -/

theorem fifo_concat (moves : List (Movement δ R)) (move : Movement δ R) :
    fifo (moves ++ [move]) = fifoStep (fifo moves) move := by
  unfold fifo
  rw [List.foldl_concat]

theorem outstanding_concat (moves : List (Movement δ R)) (move : Movement δ R) :
    outstanding (moves ++ [move]) = outstandingStep (outstanding moves) move := by
  unfold outstanding
  rw [List.foldl_concat]

omit [LinearOrder R] in
theorem balance_concat (moves : List (Movement δ R)) (move : Movement δ R) :
    balance (moves ++ [move]) = balance moves + move.signed := by
  unfold balance
  rw [List.map_append, List.sum_append, List.map_singleton, List.sum_singleton]

/-! ## One decrease -/

section Consume

variable {items : List (δ × R)} {key : δ} {held amount : R}

theorem openItems_consume_zero (h : ∀ item ∈ items, 0 < item.2) :
    openItems (consume 0 items) = items := by
  induction items with
  | nil => rfl
  | cons item items ih =>
    obtain ⟨key, held⟩ := item
    have hheld : 0 < held := h (key, held) List.mem_cons_self
    have hrest := ih fun i hi => h i (List.mem_cons_of_mem _ hi)
    rw [consume, min_eq_right hheld.le, sub_zero, sub_zero, openItems,
      List.filter_cons_of_pos (by simpa using hheld)]
    exact congrArg _ hrest

/-- A decrease as large as the first item takes it whole and goes on. -/
theorem openItems_consume_of_le (hle : held ≤ amount) :
    openItems (consume amount ((key, held) :: items)) =
      openItems (consume (amount - held) items) := by
  rw [consume, min_eq_left hle, sub_self, openItems, List.filter_cons_of_neg (by simp)]
  rfl

theorem openItems_pos {item : δ × R} (h : item ∈ openItems items) : 0 < item.2 := by
  simpa using (List.mem_filter.mp h).2

variable [IsStrictOrderedRing R]

/-- A decrease smaller than the first item stops there. -/
theorem openItems_consume_of_lt (h : ∀ item ∈ items, 0 < item.2) (hlt : amount < held) :
    openItems (consume amount ((key, held) :: items)) = (key, held - amount) :: items := by
  rw [consume, min_eq_right hlt.le, sub_self, openItems,
    List.filter_cons_of_pos (by simpa using hlt)]
  exact congrArg _ (openItems_consume_zero h)

theorem total_consume (h : ∀ item ∈ items, 0 < item.2) (hamount : 0 ≤ amount) :
    total Prod.snd (openItems (consume amount items)) = max (total Prod.snd items - amount) 0 := by
  induction items generalizing amount with
  | nil =>
    show (0 : R) = max (0 - amount) 0
    rw [zero_sub, max_eq_right (neg_nonpos.mpr hamount)]
  | cons item items ih =>
    obtain ⟨key, held⟩ := item
    have hitems : ∀ i ∈ items, 0 < i.2 := fun i hi => h i (List.mem_cons_of_mem _ hi)
    have hsum : 0 ≤ total Prod.snd items :=
      List.sum_nonneg (List.forall_mem_map.mpr fun i hi => (hitems i hi).le)
    rw [total_cons]
    rcases lt_or_ge amount held with hlt | hle
    · rw [openItems_consume_of_lt hitems hlt, total_cons, max_eq_left (by linarith)]
      ring
    · rw [openItems_consume_of_le hle, ih hitems (by linarith)]
      congr 1
      ring

theorem leavesSuffix_consume (h : ∀ item ∈ items, 0 < item.2) (hamount : 0 ≤ amount) :
    LeavesSuffix (openItems (consume amount items)) items := by
  induction items generalizing amount with
  | nil => exact Or.inl rfl
  | cons item items ih =>
    obtain ⟨key, held⟩ := item
    have hitems : ∀ i ∈ items, 0 < i.2 := fun i hi => h i (List.mem_cons_of_mem _ hi)
    rcases lt_or_ge amount held with hlt | hle
    · refine Or.inr ⟨[], key, held, held - amount, items, rfl, ?_, by linarith, by linarith⟩
      exact openItems_consume_of_lt hitems hlt
    · rw [openItems_consume_of_le hle]
      rcases ih hitems (show 0 ≤ amount - held by linarith) with hnil | ⟨done, k, a, b, rest, hsplit, hleft⟩
      · exact Or.inl hnil
      · refine Or.inr ⟨(key, held) :: done, k, a, b, rest, ?_, hleft⟩
        rw [hsplit, List.cons_append]

end Consume

/-! ## The whole queue -/

section Fifo

variable [IsStrictOrderedRing R] {moves : List (Movement δ R)}

/-- What is left is positive and a suffix of the increases. -/
theorem fifo_pos_leavesSuffix (h : ∀ move ∈ moves, move.Proper) :
    (∀ item ∈ fifo moves, 0 < item.2) ∧ LeavesSuffix (fifo moves) (increases moves) := by
  induction moves using List.reverseRecOn with
  | nil => exact ⟨fun item hitem => absurd hitem List.not_mem_nil, Or.inl rfl⟩
  | append_singleton moves move ih =>
    obtain ⟨hpos, hsuffix⟩ := ih fun m hm => h m (List.mem_append_left _ hm)
    have hmove : move.Proper := h move (List.mem_append_right _ List.mem_cons_self)
    rw [fifo_concat, increases, List.filterMap_append]
    cases move with
    | increase key amount =>
      refine ⟨fun item hitem => ?_, hsuffix.concat hmove⟩
      rcases List.mem_append.mp hitem with hitem | hitem
      · exact hpos item hitem
      · rw [List.mem_singleton.mp hitem]
        exact hmove
    | decrease amount =>
      refine ⟨fun item hitem => openItems_pos hitem, ?_⟩
      have hnone : List.filterMap Movement.increase? [Movement.decrease (δ := δ) amount] = [] := rfl
      rw [hnone, List.append_nil]
      exact (leavesSuffix_consume hpos (le_of_lt hmove)).trans hsuffix

theorem fifo_leavesSuffix (h : ∀ move ∈ moves, move.Proper) :
    LeavesSuffix (fifo moves) (increases moves) :=
  (fifo_pos_leavesSuffix h).2

theorem total_fifo (h : ∀ move ∈ moves, move.Proper) :
    total Prod.snd (fifo moves) = outstanding moves := by
  induction moves using List.reverseRecOn with
  | nil => rfl
  | append_singleton moves move ih =>
    have hmoves : ∀ m ∈ moves, m.Proper := fun m hm => h m (List.mem_append_left _ hm)
    have hmove : move.Proper := h move (List.mem_append_right _ List.mem_cons_self)
    rw [fifo_concat, outstanding_concat, ← ih hmoves]
    cases move with
    | increase key amount =>
      show total Prod.snd (fifo moves ++ [(key, amount)]) = _
      rw [total_append, total_cons, total_nil, add_zero]
      rfl
    | decrease amount => exact total_consume (fifo_pos_leavesSuffix hmoves).1 (le_of_lt hmove)

theorem fifo_keys_sorted [LE δ]
    (hsorted : ((increases moves).map Prod.fst).Pairwise fun a b => a ≤ b)
    (h : ∀ move ∈ moves, move.Proper) :
    ((fifo moves).map Prod.fst).Pairwise fun a b => a ≤ b :=
  hsorted.sublist (fifo_leavesSuffix h).keys.sublist

end Fifo

/-! ## The plain balance -/

section Balance

/-- Some moment is the last at which nothing was outstanding. -/
theorem exists_outstanding_eq (moves : List (Movement δ R)) :
    ∃ earlier, earlier <+: moves ∧ outstanding moves = balance moves - balance earlier := by
  induction moves using List.reverseRecOn with
  | nil => exact ⟨[], List.prefix_refl _, (sub_self _).symm⟩
  | append_singleton moves move ih =>
    obtain ⟨earlier, hearlier, heq⟩ := ih
    rw [outstanding_concat, balance_concat]
    cases move with
    | increase key amount =>
      refine ⟨earlier, hearlier.trans (List.prefix_append _ _), ?_⟩
      show outstanding moves + amount = balance moves + amount - balance earlier
      rw [heq]
      ring
    | decrease amount =>
      rcases le_or_gt 0 (outstanding moves - amount) with hleft | hnone
      · refine ⟨earlier, hearlier.trans (List.prefix_append _ _), ?_⟩
        show max (outstanding moves - amount) 0 = balance moves + -amount - balance earlier
        rw [max_eq_left hleft, heq]
        ring
      · refine ⟨_, List.prefix_refl _, ?_⟩
        show max (outstanding moves - amount) 0 = _
        rw [max_eq_right hnone.le, balance_concat]
        exact (sub_self _).symm

variable [IsStrictOrderedRing R] {moves : List (Movement δ R)}

/-- What came after any moment is still outstanding. -/
theorem balance_sub_le_outstanding (h : ∀ move ∈ moves, move.Proper)
    {earlier : List (Movement δ R)} (hearlier : earlier <+: moves) :
    balance moves - balance earlier ≤ outstanding moves := by
  induction moves using List.reverseRecOn generalizing earlier with
  | nil =>
    rw [List.prefix_nil.mp hearlier, sub_self]
    exact le_refl _
  | append_singleton moves move ih =>
    have hmoves : ∀ m ∈ moves, m.Proper := fun m hm => h m (List.mem_append_left _ hm)
    have hmove : move.Proper := h move (List.mem_append_right _ List.mem_cons_self)
    have hnonneg : 0 ≤ outstanding moves := by
      have hself := ih hmoves (List.prefix_refl moves)
      rwa [sub_self] at hself
    rw [outstanding_concat]
    rcases List.prefix_concat_iff.mp hearlier with rfl | hearlier
    · rw [sub_self]
      cases move with
      | increase key amount => exact add_nonneg hnonneg (le_of_lt hmove)
      | decrease amount => exact le_max_right _ _
    · have hle := ih hmoves hearlier
      rw [balance_concat]
      cases move with
      | increase key amount =>
        show balance moves + amount - balance earlier ≤ outstanding moves + amount
        linarith
      | decrease amount =>
        refine le_trans ?_ (le_max_left _ _)
        show balance moves + -amount - balance earlier ≤ outstanding moves - amount
        linarith

/-- The outstanding amount is the balance, or zero for a negative one, exactly when no decrease
    was lost for good: the balance was never below both zero and what it is now. -/
theorem outstanding_eq_max_iff (h : ∀ move ∈ moves, move.Proper) :
    outstanding moves = max (balance moves) 0 ↔
      ∀ earlier, earlier <+: moves → min (balance moves) 0 ≤ balance earlier := by
  have hsum := min_add_max (balance moves) 0
  constructor
  · intro heq earlier hearlier
    have hle := balance_sub_le_outstanding h hearlier
    linarith
  · intro hall
    obtain ⟨earlier, hearlier, heq⟩ := exists_outstanding_eq moves
    have hmin := hall earlier hearlier
    have hnow := balance_sub_le_outstanding h (List.prefix_refl moves)
    have hstart := balance_sub_le_outstanding h (List.nil_prefix (l := moves))
    have hzero : balance ([] : List (Movement δ R)) = 0 := rfl
    refine le_antisymm (by linarith) (max_le (by linarith) (by linarith))

end Balance

end AccountingPlatform.Lib
