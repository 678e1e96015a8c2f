/-
  Pages of a table: rows in the order of a key, beyond a cursor, up to a limit.

  When the rows have distinct keys a page is a stretch of the table in key order. Its last row
  is counted off by the rows with smaller keys (`getLast?_page_iff`). A walk that follows the
  cursors while the table changes returns every row that stays (`Walk.complete`), each at most
  once (`Walk.increasing`).
-/
import Mathlib.Data.List.Sort
import Mathlib.Data.List.Nodup
import Mathlib.Data.List.Perm.Basic
import Mathlib.Order.Lattice
import Mathlib.Tactic.Common

namespace AccountingPlatform.Lib

universe u v
variable {α : Type u} {κ : Type v} [LinearOrder κ] (key : α → κ)

/-- ORDER BY the key. -/
def ordered (rows : List α) : List α := rows.insertionSort fun a b => key a ≤ key b

/-- The key is greater than that of the cursor, if there is one. -/
def Beyond (cursor : Option κ) (row : α) : Prop := ∀ c ∈ cursor, c < key row

instance decBeyond (cursor : Option κ) (row : α) : Decidable (Beyond key cursor row) :=
  inferInstanceAs (Decidable (∀ c ∈ cursor, c < key row))

/-- Rows beyond the cursor, in key order. -/
def rest (cursor : Option κ) (rows : List α) : List α :=
  ordered key (rows.filter fun row => Beyond key cursor row)

def page (limit : ℕ) (cursor : Option κ) (rows : List α) : List α := (rest key cursor rows).take limit

/-- The cursor of the next page, when rows are left. -/
def nextCursor (limit : ℕ) (cursor : Option κ) (rows : List α) : Option κ :=
  if limit < (rest key cursor rows).length then (page key limit cursor rows).getLast?.map key
  else none

/-- The order of a strict comparison that tells any two keys apart. -/
@[reducible] def orderOfBefore {κ : Type v} (before : κ → κ → Prop) [DecidableRel before]
    (irrefl : ∀ a, ¬before a a) (trans : ∀ a b c, before a b → before b c → before a c)
    (apart : ∀ a b, a ≠ b → before a b ∨ before b a) : LinearOrder κ where
  le a b := ¬before b a
  lt a b := before a b
  le_refl := irrefl
  le_trans a b c hab hbc hca := by
    by_cases hsame : a = b
    · exact hbc (hsame ▸ hca)
    · exact hbc (trans c a b hca ((apart a b hsame).resolve_right hab))
  lt_iff_le_not_ge a b := by
    constructor
    · intro h
      exact ⟨fun hba => irrefl a (trans a b a h hba), fun hnot => hnot h⟩
    · intro h
      exact not_not.mp h.2
  le_antisymm a b hab hba := by
    by_contra hne
    exact (apart a b hne).elim hba hab
  le_total a b := by
    by_cases h : before b a
    · exact Or.inr fun hab => irrefl a (trans a b a hab h)
    · exact Or.inl h
  toDecidableLE := fun a b => inferInstanceAs (Decidable (¬before b a))
  toDecidableLT := fun a b => inferInstanceAs (Decidable (before a b))

variable {key}

theorem ordered_perm (rows : List α) : (ordered key rows).Perm rows := List.perm_insertionSort _ _

theorem mem_ordered {rows : List α} {row : α} : row ∈ ordered key rows ↔ row ∈ rows :=
  (ordered_perm rows).mem_iff

/-- A sort whose comparison follows the key sorts by the key. -/
theorem pairwise_insertionSort_of {r : α → α → Prop} [DecidableRel r]
    (hle : ∀ a b, r a b → key a ≤ key b) (hge : ∀ a b, ¬r a b → key b ≤ key a) (rows : List α) :
    (rows.insertionSort r).Pairwise fun a b => key a ≤ key b := by
  have hinsert : ∀ (row : α) (sorted : List α), (sorted.Pairwise fun a b => key a ≤ key b) →
      (sorted.orderedInsert r row).Pairwise fun a b => key a ≤ key b := by
    intro row sorted hsorted
    induction sorted with
    | nil => exact List.pairwise_singleton _ _
    | cons first sorted ih =>
      obtain ⟨hfirst, hrest⟩ := List.pairwise_cons.mp hsorted
      rw [List.orderedInsert]
      split
      · next hr =>
        refine List.pairwise_cons.mpr ⟨fun b hb => ?_, hsorted⟩
        rcases List.mem_cons.mp hb with rfl | hb
        · exact hle _ _ hr
        · exact (hle _ _ hr).trans (hfirst b hb)
      · next hr =>
        refine List.pairwise_cons.mpr ⟨fun b hb => ?_, ih hrest⟩
        rcases (List.mem_orderedInsert r).mp hb with rfl | hb
        · exact hge _ _ hr
        · exact hfirst b hb
  induction rows with
  | nil => exact List.Pairwise.nil
  | cons row rows ih => exact hinsert row _ ih

/-- Rows with distinct keys come in strictly increasing order. -/
theorem ordered_pairwise {rows : List α} (hn : (rows.map key).Nodup) :
    (ordered key rows).Pairwise fun a b => key a < key b := by
  have hle : (ordered key rows).Pairwise fun a b => key a ≤ key b :=
    List.pairwise_insertionSort (fun a b => key a ≤ key b) rows
  have hne : (ordered key rows).Pairwise fun a b => key a ≠ key b := by
    have hmap : ((ordered key rows).map key).Nodup :=
      ((ordered_perm rows).map key).nodup_iff.mpr hn
    exact List.pairwise_map.mp hmap
  exact (hle.and hne).imp fun h => lt_of_le_of_ne h.1 h.2

theorem filter_beyond_none (rows : List α) :
    rows.filter (fun row => Beyond key none row) = rows := by
  rw [List.filter_eq_self]
  intro r _
  exact decide_eq_true fun c hc => by cases hc

/-- A first page is empty only when there are no rows. -/
theorem page_eq_nil_iff {limit : ℕ} (hlimit : 0 < limit) {rows : List α} :
    page key limit none rows = [] ↔ rows = [] := by
  unfold page rest
  rw [filter_beyond_none, List.take_eq_nil_iff]
  constructor
  · rintro (h | h)
    · omega
    · exact (h ▸ ordered_perm rows).nil_eq.symm
  · rintro rfl
    exact Or.inr rfl

/-- A page is cut the same way out of the rows that were fetched, one more than it holds. -/
theorem take_of_fetched {α : Type u} (limit : ℕ) (rows : List α) :
    (rows.take (limit + 1)).take limit = rows.take limit ∧
      (limit < (rows.take (limit + 1)).length ↔ limit < rows.length) := by
  rw [List.take_take, Nat.min_eq_left (Nat.le_succ _), List.length_take]
  exact ⟨rfl, by omega⟩

/-! ## The last row of a page -/

theorem getLast?_take_iff {rows : List α} (h : rows.Pairwise fun a b => key a < key b) (n : ℕ)
    (row : α) :
    (rows.take n).getLast? = some row ↔ row ∈ rows ∧
      (rows.filter fun r => key r < key row).length < n ∧
      ((∀ r ∈ rows, ¬key row < key r) ∨ (rows.filter fun r => key r < key row).length + 1 = n) := by
  induction rows generalizing n with
  | nil => simp
  | cons first rows ih =>
    obtain ⟨hfirst, hrows⟩ := List.pairwise_cons.mp h
    cases n with
    | zero => simp
    | succ n =>
      rw [List.take_succ_cons]
      by_cases hrow : row = first
      · -- the first row is last exactly when nothing follows or the page is full
        subst hrow
        have hsmaller : ((row :: rows).filter fun r => key r < key row).length = 0 := by
          rw [List.length_eq_zero_iff, List.filter_eq_nil_iff]
          intro r hr
          rcases List.mem_cons.mp hr with rfl | hr
          · simp
          · simp [le_of_lt (hfirst r hr)]
        rw [hsmaller]
        have hnotin : row ∉ rows := fun hmem => lt_irrefl _ (hfirst row hmem)
        constructor
        · intro hlast
          refine ⟨List.mem_cons_self, Nat.succ_pos n, ?_⟩
          cases hn : rows.take n with
          | nil =>
            rcases List.take_eq_nil_iff.mp hn with rfl | rfl
            · exact Or.inr rfl
            · left
              intro r hr
              rw [List.mem_singleton.mp hr]
              exact lt_irrefl _
          | cons r rs =>
            rw [hn, List.getLast?_cons_cons] at hlast
            have hmem : row ∈ rows.take n := hn ▸ List.mem_of_getLast? hlast
            exact absurd (List.mem_of_mem_take hmem) hnotin
        · rintro ⟨-, -, hnone | hn⟩
          · have hnil : rows = [] := by
              rw [List.eq_nil_iff_forall_not_mem]
              intro r hr
              exact hnone r (List.mem_cons_of_mem _ hr) (hfirst r hr)
            simp [hnil]
          · obtain rfl : n = 0 := by omega
            simp
      · -- any other row is the last one of the page that follows
        have hcount : ∀ (_ : row ∈ rows), ((first :: rows).filter fun r =>
            key r < key row).length = (rows.filter fun r => key r < key row).length + 1 := by
          intro hmem
          rw [List.filter_cons_of_pos (by simpa using hfirst row hmem)]
          rfl
        have hlast : (first :: rows.take n).getLast? = some row ↔
            (rows.take n).getLast? = some row := by
          cases hn : rows.take n with
          | nil =>
            simp only [List.getLast?_singleton, Option.some.injEq, List.getLast?_nil, reduceCtorEq,
              iff_false]
            exact fun heq => hrow heq.symm
          | cons r rs => rw [List.getLast?_cons_cons]
        rw [hlast, ih hrows n]
        constructor
        · rintro ⟨hmem, hlt, hend⟩
          rw [hcount hmem]
          refine ⟨List.mem_cons_of_mem _ hmem, by omega, ?_⟩
          rcases hend with hnone | hn
          · left
            intro r hr
            rcases List.mem_cons.mp hr with rfl | hr
            · exact not_lt_of_gt (hfirst row hmem)
            · exact hnone r hr
          · right
            omega
        · rintro ⟨hmem, hlt, hend⟩
          have hmem : row ∈ rows := (List.mem_cons.mp hmem).resolve_left hrow
          rw [hcount hmem] at hlt hend
          refine ⟨hmem, by omega, ?_⟩
          rcases hend with hnone | hn
          · exact Or.inl fun r hr => hnone r (List.mem_cons_of_mem _ hr)
          · right
            omega

/-- The last row of the first page: fewer rows than the limit come before it, and it is the
    last row of all or the page ends with it. -/
theorem getLast?_page_iff {rows : List α} (hn : (rows.map key).Nodup) (limit : ℕ) (row : α) :
    (page key limit none rows).getLast? = some row ↔ row ∈ rows ∧
      (rows.filter fun r => key r < key row).length < limit ∧
      ((∀ r ∈ rows, ¬key row < key r) ∨
        (rows.filter fun r => key r < key row).length + 1 = limit) := by
  have hcount : ((ordered key rows).filter fun r => key r < key row).length =
      (rows.filter fun r => key r < key row).length :=
    ((ordered_perm rows).filter _).length_eq
  unfold page rest
  rw [filter_beyond_none, getLast?_take_iff (ordered_pairwise hn), hcount, mem_ordered]
  simp only [mem_ordered]

/-! ## Walks -/

theorem mem_rest {cursor : Option κ} {rows : List α} {row : α} :
    row ∈ rest key cursor rows ↔ row ∈ rows ∧ Beyond key cursor row := by
  unfold rest
  rw [mem_ordered, List.mem_filter, decide_eq_true_eq]

theorem rest_pairwise {cursor : Option κ} {rows : List α} (hn : (rows.map key).Nodup) :
    (rest key cursor rows).Pairwise fun a b => key a < key b := by
  apply ordered_pairwise
  exact hn.sublist (List.filter_sublist.map key)

/-- Without a next cursor the page is all that is left. -/
theorem page_of_nextCursor_none {limit : ℕ} (hlimit : 0 < limit) {cursor : Option κ}
    {rows : List α} (h : nextCursor key limit cursor rows = none) :
    page key limit cursor rows = rest key cursor rows := by
  unfold nextCursor at h
  split at h
  · next hlt =>
    rw [Option.map_eq_none_iff, List.getLast?_eq_none_iff, page, List.take_eq_nil_iff] at h
    rcases h with h | h
    · omega
    · rw [h] at hlt
      exact absurd hlt (Nat.not_lt_zero _)
  · next hle => exact List.take_of_length_le (by omega)

/-- A next cursor splits what is left into the page and the rows beyond the cursor. -/
theorem nextCursor_splits {limit : ℕ} {cursor : Option κ} {rows : List α}
    (hn : (rows.map key).Nodup) {next : κ} (h : nextCursor key limit cursor rows = some next) :
    (∀ row ∈ page key limit cursor rows, key row ≤ next) ∧
      (∀ c ∈ cursor, c < next) ∧
      ∀ row ∈ rest key cursor rows, row ∈ page key limit cursor rows ∨ next < key row := by
  unfold nextCursor at h
  split at h
  · rw [Option.map_eq_some_iff] at h
    obtain ⟨last, hlast, rfl⟩ := h
    have hpairs : (rest key cursor rows).Pairwise fun a b => key a < key b := rest_pairwise hn
    have hpage : (page key limit cursor rows).Pairwise fun a b => key a < key b :=
      hpairs.sublist (List.take_sublist _ _)
    have hmem : last ∈ page key limit cursor rows := List.mem_of_getLast? hlast
    refine ⟨fun row hrow => ?_, fun c hc => ?_, fun row hrow => ?_⟩
    · obtain ⟨init, hinit⟩ := List.getLast?_eq_some_iff.mp hlast
      rw [hinit] at hpage hrow
      rcases List.mem_append.mp hrow with hrow | hrow
      · exact ((List.pairwise_append.mp hpage).2.2 row hrow last List.mem_cons_self).le
      · rw [List.mem_singleton.mp hrow]
    · exact (mem_rest.mp (List.mem_of_mem_take hmem)).2 c hc
    · rw [← List.take_append_drop limit (rest key cursor rows)] at hrow hpairs
      rcases List.mem_append.mp hrow with hrow | hrow
      · exact Or.inl hrow
      · exact Or.inr ((List.pairwise_append.mp hpairs).2.2 last hmem row hrow)
  · cases h

variable (key) in
/-- The rows returned by a walk from the cursor over a table that changes between the reads.
    The rows beyond the next cursor stay, others may come and go. -/
inductive Walk (limit : ℕ) : Option κ → List α → List α → Prop
  | last {cursor : Option κ} {rows : List α} (hn : (rows.map key).Nodup)
      (hnext : nextCursor key limit cursor rows = none) :
      Walk limit cursor rows (page key limit cursor rows)
  | more {cursor : Option κ} {rows rows' returned : List α} {next : κ}
      (hn : (rows.map key).Nodup) (hnext : nextCursor key limit cursor rows = some next)
      (hkeep : ∀ row ∈ rows, next < key row → row ∈ rows')
      (hwalk : Walk limit (some next) rows' returned) :
      Walk limit cursor rows (page key limit cursor rows ++ returned)

/-- Every row beyond the cursor is returned. -/
theorem Walk.complete {limit : ℕ} (hlimit : 0 < limit) {cursor : Option κ}
    {rows returned : List α} (h : Walk key limit cursor rows returned) {row : α} (hrow : row ∈ rows)
    (hbeyond : Beyond key cursor row) : row ∈ returned := by
  induction h with
  | last hn hnext =>
    rw [page_of_nextCursor_none hlimit hnext]
    exact mem_rest.mpr ⟨hrow, hbeyond⟩
  | @more cursor rows rows' returned next hn hnext hkeep hwalk ih =>
    obtain ⟨-, -, hsplit⟩ := nextCursor_splits hn hnext
    rcases hsplit row (mem_rest.mpr ⟨hrow, hbeyond⟩) with hpage | hlater
    · exact List.mem_append_left _ hpage
    · refine List.mem_append_right _ (ih (hkeep row hrow hlater) ?_)
      intro c hc
      rw [← Option.some.inj hc]
      exact hlater

/-- The returned rows come in strictly increasing order, all beyond the cursor. -/
theorem Walk.increasing {limit : ℕ} {cursor : Option κ} {rows returned : List α}
    (h : Walk key limit cursor rows returned) :
    (returned.Pairwise fun a b => key a < key b) ∧ ∀ row ∈ returned, Beyond key cursor row := by
  have hpage : ∀ {cursor : Option κ} {rows : List α}, (rows.map key).Nodup →
      ((page key limit cursor rows).Pairwise fun a b => key a < key b) ∧
        ∀ row ∈ page key limit cursor rows, Beyond key cursor row := by
    intro cursor rows hn
    refine ⟨(rest_pairwise hn).sublist (List.take_sublist _ _), fun row hrow => ?_⟩
    exact (mem_rest.mp (List.mem_of_mem_take hrow)).2
  induction h with
  | last hn hnext => exact hpage hn
  | @more cursor rows rows' returned next hn hnext hkeep hwalk ih =>
    obtain ⟨hpairs, hbeyond⟩ := @hpage cursor rows hn
    obtain ⟨hle, hcursor, -⟩ := nextCursor_splits hn hnext
    refine ⟨List.pairwise_append.mpr ⟨hpairs, ih.1, fun a ha b hb => ?_⟩, fun row hrow => ?_⟩
    · exact (hle a ha).trans_lt (ih.2 b hb next rfl)
    · rcases List.mem_append.mp hrow with hrow | hrow
      · exact hbeyond row hrow
      · intro c hc
        exact (hcursor c hc).trans (ih.2 row hrow next rfl)

/-! ## Cursors that may be refused -/

variable (key) in
/-- The rows returned by a walk over a table at rest, if every cursor on the way is accepted. -/
inductive AcceptedWalk (accepted : κ → Prop) (limit : ℕ) (rows : List α) :
    Option κ → List α → Prop
  | last {cursor : Option κ} (hnext : nextCursor key limit cursor rows = none) :
      AcceptedWalk accepted limit rows cursor (page key limit cursor rows)
  | more {cursor : Option κ} {next : κ} {returned : List α}
      (hnext : nextCursor key limit cursor rows = some next) (haccepted : accepted next)
      (hwalk : AcceptedWalk accepted limit rows (some next) returned) :
      AcceptedWalk accepted limit rows cursor (page key limit cursor rows ++ returned)

variable (key) in
/-- The last key of every page that is not the last one is accepted. -/
def BreaksAccepted (accepted : κ → Prop) (limit : ℕ) (done todo : List α) : Prop :=
  ∀ before last later, todo = before ++ last :: later → later ≠ [] →
    limit ∣ done.length + before.length + 1 → accepted (key last)

/-- A list longer than the limit splits behind the last row of its first page. -/
theorem take_split {rows : List α} {limit : ℕ} (h : limit < rows.length) {last : α}
    (hlast : (rows.take limit).getLast? = some last) :
    ∃ before later, rows = before ++ last :: later ∧ later ≠ [] ∧ before.length + 1 = limit ∧
      rows.take limit = before ++ [last] := by
  obtain ⟨before, hbefore⟩ := List.getLast?_eq_some_iff.mp hlast
  have hlength := congrArg List.length hbefore
  rw [List.length_take, List.length_append, List.length_singleton] at hlength
  refine ⟨before, rows.drop limit, ?_, ?_, by omega, hbefore⟩
  · calc rows = rows.take limit ++ rows.drop limit := (List.take_append_drop _ _).symm
      _ = before ++ last :: rows.drop limit := by
        rw [hbefore, List.append_assoc, List.singleton_append]
  · rw [Ne, List.drop_eq_nil_iff]
    omega

theorem nodup_of_increasing {rows : List α} (h : rows.Pairwise fun a b => key a < key b) :
    rows.Nodup := by
  refine h.imp ?_
  intro a b hab heq
  rw [heq] at hab
  exact lt_irrefl _ hab

/-- Two strictly increasing lists of the same rows are equal. -/
theorem eq_of_increasing {xs ys : List α} (h : ∀ row, row ∈ xs ↔ row ∈ ys)
    (hxs : xs.Pairwise fun a b => key a < key b) (hys : ys.Pairwise fun a b => key a < key b) :
    xs = ys := by
  have hperm : xs.Perm ys :=
    (List.perm_ext_iff_of_nodup (nodup_of_increasing hxs) (nodup_of_increasing hys)).mpr h
  refine List.Perm.eq_of_pairwise ?_ hxs hys hperm
  intro a b _ _ hab hba
  exact absurd (hab.trans hba) (lt_irrefl _)

/-- A next cursor ends the page and leaves the rows behind it. -/
theorem nextCursor_eq_some {limit : ℕ} {cursor : Option κ} {rows : List α}
    (hn : (rows.map key).Nodup) {next : κ} (h : nextCursor key limit cursor rows = some next) :
    ∃ before last later, rest key cursor rows = before ++ last :: later ∧ later ≠ [] ∧
      before.length + 1 = limit ∧ key last = next ∧
      page key limit cursor rows = before ++ [last] ∧ rest key (some next) rows = later := by
  unfold nextCursor at h
  split at h
  · next hlt =>
    rw [Option.map_eq_some_iff] at h
    obtain ⟨last, hlast, rfl⟩ := h
    obtain ⟨before, later, hrest, hlater, hlength, hpage⟩ := take_split hlt hlast
    refine ⟨before, last, later, hrest, hlater, hlength, rfl, hpage, ?_⟩
    have hpairs : (rest key cursor rows).Pairwise fun a b => key a < key b := rest_pairwise hn
    rw [hrest, List.pairwise_append, List.pairwise_cons] at hpairs
    obtain ⟨-, ⟨hbehind, hincreasing⟩, hbefore⟩ := hpairs
    have hin : ∀ row, row ∈ before ++ last :: later ↔ row ∈ rows ∧ Beyond key cursor row := by
      intro row
      rw [← hrest]
      exact mem_rest
    have hlast' := (hin last).mp (by simp)
    refine eq_of_increasing (fun row => ?_) (rest_pairwise hn) hincreasing
    rw [mem_rest]
    constructor
    · rintro ⟨hrow, hbeyond⟩
      have hgt : key last < key row := hbeyond _ rfl
      have hmem := (hin row).mpr ⟨hrow, fun c hc => (hlast'.2 c hc).trans hgt⟩
      rcases List.mem_append.mp hmem with hmem | hmem
      · exact absurd (hgt.trans (hbefore row hmem last List.mem_cons_self)) (lt_irrefl _)
      · rcases List.mem_cons.mp hmem with rfl | hmem
        · exact absurd hgt (lt_irrefl _)
        · exact hmem
    · intro hrow
      refine ⟨((hin row).mp (by simp [hrow])).1, fun c hc => ?_⟩
      rw [← Option.some.inj hc]
      exact hbehind row hrow
  · cases h

omit [LinearOrder κ] in
/-- A page break behind `done` is the first one or lies behind it. -/
theorem break_cases {limit : ℕ} {done before later before' later' : List α} {last last' : α}
    (hdone : limit ∣ done.length) (hlength : before.length + 1 = limit)
    (hsplit : before ++ last :: later = before' ++ last' :: later')
    (hdvd : limit ∣ done.length + before'.length + 1) :
    (before' = before ∧ last' = last ∧ later' = later) ∨
      ∃ more, before' = before ++ last :: more ∧ later = more ++ last' :: later' ∧
        limit ∣ (done ++ before ++ [last]).length + more.length + 1 := by
  rw [Nat.add_assoc] at hdvd
  have hdvd' := (Nat.dvd_add_right hdone).mp hdvd
  rcases List.append_eq_append_iff.mp hsplit with ⟨rest, hbefore, htail⟩ | ⟨rest, hbefore, htail⟩
  · cases rest with
    | nil =>
      rw [List.append_nil] at hbefore
      obtain ⟨rfl, rfl⟩ := List.cons.inj htail
      exact Or.inl ⟨hbefore, rfl, rfl⟩
    | cons row more =>
      obtain ⟨rfl, rfl⟩ := List.cons.inj htail
      refine Or.inr ⟨more, hbefore, rfl, ?_⟩
      rw [hbefore, List.length_append, List.length_cons] at hdvd
      rw [List.length_append, List.length_append, List.length_singleton]
      have hsum : done.length + before.length + 1 + more.length + 1 =
          done.length + (before.length + (more.length + 1) + 1) := by omega
      rw [hsum]
      exact hdvd
  · cases rest with
    | nil =>
      rw [List.append_nil] at hbefore
      obtain ⟨rfl, rfl⟩ := List.cons.inj htail
      exact Or.inl ⟨hbefore.symm, rfl, rfl⟩
    | cons row more =>
      rw [hbefore, List.length_append, List.length_cons] at hlength
      have hle := Nat.le_of_dvd (Nat.succ_pos _) hdvd'
      omega

/-- A walk returns what is left, in order, and its cursors were accepted. -/
theorem AcceptedWalk.spec {accepted : κ → Prop} {limit : ℕ} (hlimit : 0 < limit) {rows : List α}
    (hn : (rows.map key).Nodup) {cursor : Option κ} {returned : List α}
    (h : AcceptedWalk key accepted limit rows cursor returned) {done : List α}
    (hdone : limit ∣ done.length) :
    returned = rest key cursor rows ∧
      BreaksAccepted key accepted limit done (rest key cursor rows) := by
  induction h generalizing done with
  | @last cursor hnext =>
    have hpage := page_of_nextCursor_none hlimit hnext
    refine ⟨hpage, ?_⟩
    intro before last later hrest hlater hdvd
    have hshort : (rest key cursor rows).length ≤ limit := by
      rw [← hpage, page]
      exact List.length_take_le _ _
    have hpos := List.length_pos_of_ne_nil hlater
    rw [hrest, List.length_append, List.length_cons] at hshort
    rw [Nat.add_assoc] at hdvd
    have hle := Nat.le_of_dvd (Nat.succ_pos _) ((Nat.dvd_add_right hdone).mp hdvd)
    omega
  | more hnext haccepted _ ih =>
    obtain ⟨before, last, later, hrest, hlater, hlength, rfl, hpage, hbehind⟩ :=
      nextCursor_eq_some hn hnext
    have hdone' : limit ∣ (done ++ before ++ [last]).length := by
      rw [List.length_append, List.length_append, List.length_singleton, Nat.add_assoc, hlength]
      exact Nat.dvd_add hdone (Nat.dvd_refl _)
    obtain ⟨hreturned, hbreaks⟩ := ih hdone'
    rw [hbehind] at hreturned hbreaks
    refine ⟨by rw [hreturned, hpage, hrest, List.append_assoc, List.singleton_append], ?_⟩
    intro before' last' later' hsplit hlater' hdvd
    rw [hrest] at hsplit
    rcases break_cases hdone hlength hsplit hdvd with ⟨-, rfl, -⟩ | ⟨more, -, hmore, hdvd'⟩
    · exact haccepted
    · exact hbreaks more last' later' hmore hlater' hdvd'

/-- Accepted cursors lead to the end. -/
theorem exists_acceptedWalk {accepted : κ → Prop} {limit : ℕ} (hlimit : 0 < limit) {rows : List α}
    (hn : (rows.map key).Nodup) (done : List α) (cursor : Option κ) (hdone : limit ∣ done.length)
    (hbreaks : BreaksAccepted key accepted limit done (rest key cursor rows)) :
    ∃ returned, AcceptedWalk key accepted limit rows cursor returned := by
  induction hsize : (rest key cursor rows).length using Nat.strong_induction_on
    generalizing done cursor with
  | _ n ih =>
    cases hnext : nextCursor key limit cursor rows with
    | none => exact ⟨_, .last hnext⟩
    | some next =>
      obtain ⟨before, last, later, hrest, hlater, hlength, rfl, hpage, hbehind⟩ :=
        nextCursor_eq_some hn hnext
      have hdone' : limit ∣ (done ++ before ++ [last]).length := by
        rw [List.length_append, List.length_append, List.length_singleton, Nat.add_assoc, hlength]
        exact Nat.dvd_add hdone (Nat.dvd_refl _)
      have haccepted : accepted (key last) := by
        refine hbreaks before last later hrest hlater ?_
        rw [Nat.add_assoc, hlength]
        exact Nat.dvd_add hdone (Nat.dvd_refl _)
      have hshorter : (rest key (some (key last)) rows).length < n := by
        rw [hbehind, ← hsize, hrest, List.length_append, List.length_cons]
        omega
      have hbreaks' : BreaksAccepted key accepted limit (done ++ before ++ [last])
          (rest key (some (key last)) rows) := by
        rw [hbehind]
        intro before' last' later' hsplit hlater' hdvd
        refine hbreaks (before ++ last :: before') last' later' ?_ hlater' ?_
        · rw [hrest, hsplit, List.append_assoc, List.cons_append]
        · rw [List.length_append, List.length_append, List.length_singleton] at hdvd
          rw [List.length_append, List.length_cons]
          have hsum : done.length + (before.length + (before'.length + 1)) + 1 =
              done.length + before.length + 1 + before'.length + 1 := by omega
          rw [hsum, Nat.add_assoc done.length]
          exact hdvd
      obtain ⟨returned, hwalk⟩ := ih _ hshorter _ (some (key last)) hdone' hbreaks' rfl
      exact ⟨_, .more hnext haccepted hwalk⟩

/-- A walk over distinct keys ends exactly when every cursor on its way is accepted, and then
    it returns all rows in order. -/
theorem acceptedWalk_iff {accepted : κ → Prop} {limit : ℕ} (hlimit : 0 < limit) {rows : List α}
    (hn : (rows.map key).Nodup) {returned : List α} :
    AcceptedWalk key accepted limit rows none returned ↔
      returned = ordered key rows ∧ BreaksAccepted key accepted limit [] (ordered key rows) := by
  have hall : rest key none rows = ordered key rows := by rw [rest, filter_beyond_none]
  have hdone : limit ∣ ([] : List α).length := Nat.dvd_zero limit
  constructor
  · intro h
    rw [← hall]
    exact h.spec hlimit hn hdone
  · rintro ⟨rfl, hbreaks⟩
    rw [← hall] at hbreaks
    obtain ⟨returned, hwalk⟩ := exists_acceptedWalk hlimit hn [] none hdone hbreaks
    have hreturned := (hwalk.spec hlimit hn hdone).1
    rw [← hall, ← hreturned]
    exact hwalk

end AccountingPlatform.Lib
