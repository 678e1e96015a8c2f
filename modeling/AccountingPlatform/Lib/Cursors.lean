/-
  Pages of a list that keeps its own order, filtered by a cursor in another order.

  A page holds the first rows whose key is greater than the cursor; its last key is the next
  cursor. Following the cursors returns every row once exactly when every page break splits
  the list by key (`exists_cursorWalk_iff`).
-/
import AccountingPlatform.Lib.Pages

namespace AccountingPlatform.Lib

universe u v
variable {α : Type u} {κ : Type v} [LinearOrder κ] (key : α → κ) (start : κ)

/-- The rows beyond a cursor; `start` stands for no cursor. -/
def rowsAfter (rows : List α) (cursor : κ) : List α :=
  if cursor = start then rows else rows.filter fun row => cursor < key row

/-- The cursor of the next page, when rows are left. -/
def cursorAfter (limit : ℕ) (rows : List α) (cursor : κ) : Option κ :=
  if limit < (rowsAfter key start rows cursor).length then
    ((rowsAfter key start rows cursor).take limit).getLast?.map key
  else none

/-- The rows returned by following the cursors. -/
inductive CursorWalk (limit : ℕ) (rows : List α) : κ → List α → Prop
  | last {cursor : κ} (hnext : cursorAfter key start limit rows cursor = none) :
      CursorWalk limit rows cursor ((rowsAfter key start rows cursor).take limit)
  | more {cursor next : κ} {returned : List α}
      (hnext : cursorAfter key start limit rows cursor = some next)
      (hwalk : CursorWalk limit rows next returned) :
      CursorWalk limit rows cursor ((rowsAfter key start rows cursor).take limit ++ returned)

/-- Every page break of `todo` splits the list by key: no row before it is beyond the last key
    of the page, every row after it is, and that key can serve as a cursor. -/
def PagesSplit (limit : ℕ) (done todo : List α) : Prop :=
  ∀ before last later, todo = before ++ last :: later → later ≠ [] → limit ∣ before.length + 1 →
    key last ≠ start ∧ (∀ row ∈ done ++ before, key row ≤ key last) ∧
      ∀ row ∈ later, key last < key row

variable {key start} {limit : ℕ} {rows : List α}

/-- Rows in strict order of their keys split at every page break. -/
theorem pagesSplit_of_pairwise (h : rows.Pairwise fun a b => key a < key b)
    (hstart : ∀ row ∈ rows, key row ≠ start) : PagesSplit key start limit [] rows := by
  rintro before last later rfl - -
  rw [List.pairwise_append, List.pairwise_cons] at h
  obtain ⟨-, ⟨hlater, -⟩, hbefore⟩ := h
  refine ⟨hstart last (List.mem_append_right _ List.mem_cons_self), ?_, hlater⟩
  intro row hrow
  exact le_of_lt (hbefore row hrow last List.mem_cons_self)

/-! ## One page -/

theorem cursorAfter_eq_none (hlimit : 0 < limit) {cursor : κ} :
    cursorAfter key start limit rows cursor = none ↔
      (rowsAfter key start rows cursor).length ≤ limit := by
  unfold cursorAfter
  split
  · next hlt =>
    rw [Option.map_eq_none_iff, List.getLast?_eq_none_iff, List.take_eq_nil_iff]
    constructor
    · rintro (h | h)
      · omega
      · rw [h] at hlt
        exact absurd hlt (Nat.not_lt_zero _)
    · omega
  · next hle => exact iff_of_true rfl (by omega)

/-- With rows left, the page ends in the row whose key is the next cursor. -/
theorem cursorAfter_eq_some {cursor next : κ}
    (h : cursorAfter key start limit rows cursor = some next) :
    ∃ before last later, rowsAfter key start rows cursor = before ++ last :: later ∧
      later ≠ [] ∧ before.length + 1 = limit ∧ key last = next ∧
      (rowsAfter key start rows cursor).take limit = before ++ [last] := by
  unfold cursorAfter at h
  split at h
  · next hlt =>
    rw [Option.map_eq_some_iff] at h
    obtain ⟨last, hlast, rfl⟩ := h
    obtain ⟨before, later, hrows, hlater, hlength, hpage⟩ := take_split hlt hlast
    exact ⟨before, last, later, hrows, hlater, hlength, rfl, hpage⟩
  · cases h

theorem CursorWalk.unique {cursor : κ} {returned returned' : List α}
    (h : CursorWalk key start limit rows cursor returned)
    (h' : CursorWalk key start limit rows cursor returned') : returned = returned' := by
  induction h generalizing returned' with
  | last hnext =>
    cases h' with
    | last _ => rfl
    | more hnext' _ =>
      rw [hnext] at hnext'
      cases hnext'
  | more hnext _ ih =>
    cases h' with
    | last hnext' =>
      rw [hnext] at hnext'
      cases hnext'
    | more hnext' hwalk' =>
      rw [hnext] at hnext'
      cases hnext'
      rw [ih hwalk']

/-- Beyond a cursor only greater keys are returned. -/
theorem CursorWalk.beyond (hstart : ∀ k, start ≤ k) {cursor : κ} {returned : List α}
    (h : CursorWalk key start limit rows cursor returned) (hcursor : cursor ≠ start) :
    ∀ row ∈ returned, cursor < key row := by
  have hpage : ∀ {cursor : κ}, cursor ≠ start →
      ∀ row ∈ (rowsAfter key start rows cursor).take limit, cursor < key row := by
    intro cursor hne row hrow
    have hmem := List.mem_of_mem_take hrow
    rw [rowsAfter, if_neg hne, List.mem_filter, decide_eq_true_eq] at hmem
    exact hmem.2
  induction h with
  | last _ => exact hpage hcursor
  | @more cursor next returned hnext _ ih =>
    obtain ⟨before, last, later, -, -, -, rfl, hpage'⟩ := cursorAfter_eq_some hnext
    have hlt : cursor < key last := hpage hcursor last (by rw [hpage']; simp)
    have hne : key last ≠ start := ne_of_gt (lt_of_le_of_lt (hstart cursor) hlt)
    intro row hrow
    rcases List.mem_append.mp hrow with hrow | hrow
    · exact hpage hcursor row hrow
    · exact hlt.trans (ih hne row hrow)

/-! ## Whole walks -/

/-- Page breaks that split the list lead to a walk over the rest of it. -/
theorem exists_cursorWalk (hlimit : 0 < limit) (done todo : List α) (hrows : rows = done ++ todo)
    (hdone : limit ∣ done.length) {cursor : κ} (hcursor : rowsAfter key start rows cursor = todo)
    (hsplit : PagesSplit key start limit [] rows) :
    CursorWalk key start limit rows cursor todo := by
  induction hn : todo.length using Nat.strong_induction_on generalizing done todo cursor with
  | _ n ih =>
    cases hnext : cursorAfter key start limit rows cursor with
    | none =>
      have hle := (cursorAfter_eq_none hlimit).mp hnext
      have hwalk := CursorWalk.last hnext
      rwa [List.take_of_length_le hle, hcursor] at hwalk
    | some next =>
      obtain ⟨before, last, later, htodo, hlater, hlength, rfl, hpage⟩ := cursorAfter_eq_some hnext
      rw [hcursor] at htodo
      have hbreak : rows = (done ++ before) ++ last :: later := by
        rw [hrows, htodo, List.append_assoc]
      obtain ⟨hne, hearlier, hbeyond⟩ := hsplit (done ++ before) last later hbreak hlater (by
        rw [List.length_append, Nat.add_assoc, hlength]
        exact Nat.dvd_add hdone (Nat.dvd_refl _))
      have hrest : rowsAfter key start rows (key last) = later := by
        rw [rowsAfter, if_neg hne, hbreak, List.filter_append, List.filter_cons_of_neg (by simp),
          List.filter_eq_nil_iff.mpr, List.nil_append, List.filter_eq_self]
        · exact fun row hrow => decide_eq_true (hbeyond row hrow)
        · intro row hrow
          simpa using hearlier row hrow
      have hlonger := congrArg List.length htodo
      rw [List.length_append, List.length_cons] at hlonger
      have hwalk := ih later.length (by omega) (done ++ before ++ [last]) later
        (by rw [hbreak, List.append_assoc (done ++ before), List.singleton_append])
        (by
          rw [List.length_append, List.length_append, List.length_singleton, Nat.add_assoc, hlength]
          exact Nat.dvd_add hdone (Nat.dvd_refl _))
        hrest rfl
      have hmore := CursorWalk.more hnext hwalk
      rwa [hpage, List.append_assoc, List.singleton_append, ← htodo] at hmore

/-- Rows with the same key stand together. -/
def KeysAdjacent (key : α → κ) (rows : List α) : Prop :=
  ∀ before a middle b after, rows = before ++ a :: (middle ++ b :: after) → key a = key b →
    ∀ row ∈ middle, key row = key a

omit [LinearOrder κ] in
/-- Rows sorted by an antisymmetric relation on their keys have equal keys together. -/
theorem keysAdjacent_of_pairwise {le : κ → κ → Prop} (hanti : ∀ a b, le a b → le b a → a = b)
    (h : rows.Pairwise fun a b => le (key a) (key b)) : KeysAdjacent key rows := by
  rintro before a middle b after rfl heq row hrow
  rw [List.pairwise_append, List.pairwise_cons, List.pairwise_append] at h
  obtain ⟨-, ⟨ha, -, -, hmiddle⟩, -⟩ := h
  have hle := ha row (List.mem_append_left _ hrow)
  have hge := hmiddle row hrow b List.mem_cons_self
  rw [← heq] at hge
  exact (hanti _ _ hle hge).symm

/-- A walk that returns what is left, each row once, breaks its pages between keys. -/
theorem CursorWalk.pagesSplit (hlimit : 0 < limit) (hstart : ∀ k, start ≤ k)
    (hadjacent : KeysAdjacent key rows) {cursor : κ} {returned : List α}
    (h : CursorWalk key start limit rows cursor returned) {done todo : List α}
    (hrows : rows = done ++ todo) (hdone : limit ∣ done.length)
    (hcursor : rowsAfter key start rows cursor = todo) (hperm : returned.Perm todo) :
    PagesSplit key start limit done todo := by
  induction h generalizing done todo with
  | last hnext =>
    have hle := (cursorAfter_eq_none hlimit).mp hnext
    rw [hcursor] at hle
    rintro before last later rfl hlater hdvd
    have hpos := List.length_pos_of_ne_nil hlater
    rw [List.length_append, List.length_cons] at hle
    exact absurd (Nat.le_of_dvd (Nat.succ_pos _) hdvd) (by omega)
  | @more cursor next returned hnext hwalk ih =>
    obtain ⟨before, last, later, htodo, hlater, hlength, rfl, hpage⟩ := cursorAfter_eq_some hnext
    rw [hcursor] at htodo
    rw [hpage, htodo] at hperm
    have hreturned : returned.Perm later := by
      rw [List.append_assoc, List.singleton_append] at hperm
      exact (List.perm_cons last).mp ((List.perm_append_left_iff before).mp hperm)
    have hbreak : rows = (done ++ before) ++ last :: later := by
      rw [hrows, htodo, List.append_assoc]
    have hne : key last ≠ start := by
      intro heq
      by_cases hfirst : cursor = start
      · -- the walk would begin again and never end
        have hagain := hwalk
        rw [heq.trans hfirst.symm] at hagain
        have hsame := (CursorWalk.more hnext hwalk).unique hagain
        have hnil := List.append_left_eq_self.mp hsame
        rw [hpage] at hnil
        simp at hnil
      · have hmem : last ∈ rowsAfter key start rows cursor := by
          rw [hcursor, htodo]
          simp
        rw [rowsAfter, if_neg hfirst, List.mem_filter, decide_eq_true_eq] at hmem
        exact absurd (heq ▸ hmem.2) (not_lt_of_ge (hstart cursor))
    have hbeyond : ∀ row ∈ later, key last < key row := fun row hrow =>
      hwalk.beyond hstart hne row (hreturned.mem_iff.mpr hrow)
    have hafter : rowsAfter key start rows (key last) =
        (done ++ before).filter (fun row => key last < key row) ++ later := by
      rw [rowsAfter, if_neg hne, hbreak, List.filter_append, List.filter_cons_of_neg (by simp),
        List.filter_eq_self.mpr fun row hrow => decide_eq_true (hbeyond row hrow)]
    have hearlier : ∀ row ∈ done ++ before, key row ≤ key last := by
      by_contra hnot
      push Not at hnot
      obtain ⟨row, hrow, hlt⟩ := hnot
      -- the next page would begin with an earlier row, whose key does not come again
      have hmem : row ∈ (done ++ before).filter fun row => key last < key row :=
        List.mem_filter.mpr ⟨hrow, decide_eq_true hlt⟩
      obtain ⟨first, rest, hfirst⟩ := List.exists_cons_of_ne_nil (List.ne_nil_of_mem hmem)
      have hin : first ∈ returned := by
        have hhead : first ∈ (rowsAfter key start rows (key last)).take limit := by
          rw [hafter, hfirst, List.cons_append]
          obtain ⟨m, rfl⟩ : ∃ m, limit = m + 1 := ⟨limit - 1, by omega⟩
          rw [List.take_succ_cons]
          exact List.mem_cons_self
        cases hwalk with
        | last _ => exact hhead
        | more _ _ => exact List.mem_append_left _ hhead
      have hlater' : first ∈ later := hreturned.mem_iff.mp hin
      have hfirst' : first ∈ (done ++ before).filter fun row => key last < key row := by
        rw [hfirst]
        exact List.mem_cons_self
      obtain ⟨hearly, hgt⟩ := List.mem_filter.mp hfirst'
      obtain ⟨as, bs, has⟩ := List.append_of_mem hearly
      obtain ⟨cs, ds, hcs⟩ := List.append_of_mem hlater'
      have heq := hadjacent as first (bs ++ last :: cs) first ds
        (by rw [hbreak, has, hcs]; simp) rfl last (by simp)
      rw [decide_eq_true_eq, heq] at hgt
      exact lt_irrefl _ hgt
    have hrest : rowsAfter key start rows (key last) = later := by
      rw [hafter, List.filter_eq_nil_iff.mpr, List.nil_append]
      intro row hrow
      simpa using hearlier row hrow
    have hdone' : limit ∣ (done ++ before ++ [last]).length := by
      rw [List.length_append, List.length_append, List.length_singleton, Nat.add_assoc, hlength]
      exact Nat.dvd_add hdone (Nat.dvd_refl _)
    have hall : rows = (done ++ before ++ [last]) ++ later := by
      rw [hbreak, List.append_assoc (done ++ before), List.singleton_append]
    have hsplit := ih hall hdone' hrest hreturned
    -- a break of what is left is this one or one of the rest
    intro before' last' later' htodo' hlater' hdvd
    have hdvd₀ : limit ∣ ([] : List α).length + before'.length + 1 := by
      rw [List.length_nil, Nat.zero_add]
      exact hdvd
    rcases break_cases (Nat.dvd_zero limit) hlength (htodo.symm.trans htodo') hdvd₀ with
      ⟨rfl, rfl, rfl⟩ | ⟨more, rfl, hlater'', hdvd'⟩
    · exact ⟨hne, hearlier, hbeyond⟩
    · rw [List.nil_append, List.length_append, List.length_singleton, hlength, Nat.add_assoc] at hdvd'
      obtain ⟨hne', hle', hlt'⟩ := hsplit more last' later' hlater'' hlater'
        ((Nat.dvd_add_right (Nat.dvd_refl _)).mp hdvd')
      refine ⟨hne', ?_, hlt'⟩
      simpa only [List.append_assoc, List.singleton_append] using hle'

/-- Following the cursors from the start returns every row once exactly when every page break
    splits the list by key. -/
theorem exists_cursorWalk_iff (hlimit : 0 < limit) (hstart : ∀ k, start ≤ k)
    (hadjacent : KeysAdjacent key rows) :
    (∃ returned, CursorWalk key start limit rows start returned ∧ returned.Perm rows) ↔
      PagesSplit key start limit [] rows := by
  have hall : rowsAfter key start rows start = rows := if_pos rfl
  constructor
  · rintro ⟨returned, hwalk, hperm⟩
    exact hwalk.pagesSplit hlimit hstart hadjacent (List.nil_append rows).symm (Nat.dvd_zero _) hall
      hperm
  · intro hsplit
    exact ⟨rows, exists_cursorWalk hlimit [] rows (List.nil_append rows).symm (Nat.dvd_zero _) hall hsplit,
      List.Perm.refl _⟩

end AccountingPlatform.Lib
