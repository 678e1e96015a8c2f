/-
  The control rows of a calendar: one row a book and period, and a calendar status that is the
  aggregate of the active books' rows.

  `ControlsKept` is what every change of the control rows keeps. A period has either no row yet
  and is open, or a row for every active book.
-/
import AccountingPlatform.Postgres.Commands

namespace AccountingPlatform.Postgres

open AccountingPlatform.Lib AccountingPlatform.Core

variable (dep : Deployment)

/-! ## Keys -/

/-- The row of one book and period. -/
def BookPeriodControl.IsFor (control : BookPeriodControl) (bookId fiscalPeriodId : ℕ) : Prop :=
  control.accountingBookId = bookId ∧ control.fiscalPeriodId = fiscalPeriodId

instance (control : BookPeriodControl) (bookId fiscalPeriodId : ℕ) :
    Decidable (control.IsFor bookId fiscalPeriodId) :=
  inferInstanceAs (Decidable (_ ∧ _))

/-- At most one row a book and period. -/
def ControlsUnique (controls : List BookPeriodControl) : Prop :=
  ∀ c ∈ controls, ∀ c' ∈ controls, c'.IsFor c.accountingBookId c.fiscalPeriodId → c' = c

theorem find_control {controls : List BookPeriodControl} (hu : ControlsUnique controls)
    {c : BookPeriodControl} (hc : c ∈ controls) {bookId fiscalPeriodId : ℕ}
    (hfor : c.IsFor bookId fiscalPeriodId) :
    (controls.find? fun c => c.accountingBookId = bookId ∧ c.fiscalPeriodId = fiscalPeriodId) =
      some c := by
  obtain ⟨rfl, rfl⟩ := hfor
  cases hf : controls.find? fun c' =>
      c'.accountingBookId = c.accountingBookId ∧ c'.fiscalPeriodId = c.fiscalPeriodId with
  | none =>
    have := List.find?_eq_none.mp hf c hc
    simp at this
  | some c' =>
    have hkey : c'.IsFor c.accountingBookId c.fiscalPeriodId := by
      simpa [BookPeriodControl.IsFor] using List.find?_some hf
    rw [hu c hc c' (List.mem_of_find?_eq_some hf) hkey]

theorem find_control_mem {controls : List BookPeriodControl} {c : BookPeriodControl}
    {bookId fiscalPeriodId : ℕ}
    (h : (controls.find? fun c => c.accountingBookId = bookId ∧ c.fiscalPeriodId = fiscalPeriodId) =
      some c) : c ∈ controls ∧ c.IsFor bookId fiscalPeriodId :=
  ⟨List.mem_of_find?_eq_some h, by simpa [BookPeriodControl.IsFor] using List.find?_some h⟩

/-! ## Aggregate status -/

/-- Rows of a period that belong to active books. -/
def activeRows (controls : List BookPeriodControl) (fiscalPeriodId : ℕ) : List BookPeriodControl :=
  controls.filter fun control =>
    control.fiscalPeriodId = fiscalPeriodId ∧
      ∃ book ∈ dep.catalog.books, book.accountingBookId = control.accountingBookId ∧ book.isCurrent

theorem activeControls_eq (t : Tables) (fiscalPeriodId : ℕ) :
    activeControls dep t fiscalPeriodId = activeRows dep t.bookPeriodControls fiscalPeriodId := rfl

theorem mem_activeRows {controls : List BookPeriodControl} {fiscalPeriodId : ℕ}
    {c : BookPeriodControl} :
    c ∈ activeRows dep controls fiscalPeriodId ↔ c ∈ controls ∧ c.fiscalPeriodId = fiscalPeriodId ∧
      ∃ book ∈ dep.catalog.books, book.accountingBookId = c.accountingBookId ∧
        book.isCurrent = true := by
  simp [activeRows]

/-- A hard-closed calendar row: every active row is hard-closed. -/
theorem aggregateStatus_hardClosed {controls : List BookPeriodControl} :
    aggregateStatus controls = .hardClosed ↔
      controls ≠ [] ∧ ∀ c ∈ controls, c.periodStatus = .hardClosed := by
  unfold aggregateStatus
  split
  · next h => simp [h]
  · next hne =>
    split
    · next hall => simp_all
    · next hnot => split <;> simp_all

theorem aggregateStatus_of_opened {controls : List BookPeriodControl}
    (h : ∀ c ∈ controls, c.periodStatus = .opened) : aggregateStatus controls = .opened := by
  cases controls with
  | nil => rfl
  | cons c cs => simp [aggregateStatus, h c List.mem_cons_self]

theorem aggregateStatus_map {controls : List BookPeriodControl}
    {f : BookPeriodControl → BookPeriodControl} (hf : ∀ c, (f c).periodStatus = c.periodStatus) :
    aggregateStatus (controls.map f) = aggregateStatus controls := by
  simp [aggregateStatus, hf]

/-- Rows in one state aggregate to it. -/
theorem aggregateStatus_of_all {controls : List BookPeriodControl} {status : PeriodStatus}
    (hne : controls ≠ []) (h : ∀ c ∈ controls, c.periodStatus = status) :
    aggregateStatus controls = status := by
  cases controls with
  | nil => exact absurd rfl hne
  | cons c cs =>
    have hhead := h c List.mem_cons_self
    have hall : ∀ d ∈ cs, d.periodStatus = status := fun d hd => h d (List.mem_cons_of_mem c hd)
    cases status <;> simp_all [aggregateStatus]

/-! ## Changing one row -/

/-- An update that keeps the key of a row. -/
structure KeepsKey (f : BookPeriodControl → BookPeriodControl) : Prop where
  book : ∀ c, (f c).accountingBookId = c.accountingBookId
  period : ∀ c, (f c).fiscalPeriodId = c.fiscalPeriodId

/-- The map behind `updateControl`. -/
def updateRow (bookId fiscalPeriodId : ℕ) (f : BookPeriodControl → BookPeriodControl)
    (control : BookPeriodControl) : BookPeriodControl :=
  if control.accountingBookId = bookId ∧ control.fiscalPeriodId = fiscalPeriodId then f control
  else control

theorem updateControl_eq_map (bookId fiscalPeriodId : ℕ) (f : BookPeriodControl → BookPeriodControl)
    (controls : List BookPeriodControl) :
    updateControl bookId fiscalPeriodId f controls =
      controls.map (updateRow bookId fiscalPeriodId f) := rfl

theorem updateRow_of_isFor {bookId fiscalPeriodId : ℕ} {f : BookPeriodControl → BookPeriodControl}
    {c : BookPeriodControl} (h : c.IsFor bookId fiscalPeriodId) :
    updateRow bookId fiscalPeriodId f c = f c := if_pos h

theorem updateRow_of_not {bookId fiscalPeriodId : ℕ} {f : BookPeriodControl → BookPeriodControl}
    {c : BookPeriodControl} (h : ¬c.IsFor bookId fiscalPeriodId) :
    updateRow bookId fiscalPeriodId f c = c := if_neg h

theorem KeepsKey.updateRow {f : BookPeriodControl → BookPeriodControl} (hf : KeepsKey f)
    (bookId fiscalPeriodId : ℕ) : KeepsKey (updateRow bookId fiscalPeriodId f) where
  book c := by unfold Postgres.updateRow; split <;> simp [hf.book]
  period c := by unfold Postgres.updateRow; split <;> simp [hf.period]

theorem controlsUnique_map {controls : List BookPeriodControl} (hu : ControlsUnique controls)
    {f : BookPeriodControl → BookPeriodControl} (hf : KeepsKey f) :
    ControlsUnique (controls.map f) := by
  intro c hc c' hc' hkey
  obtain ⟨d, hd, rfl⟩ := List.mem_map.mp hc
  obtain ⟨d', hd', rfl⟩ := List.mem_map.mp hc'
  simp only [BookPeriodControl.IsFor, hf.book, hf.period] at hkey
  rw [hu d hd d' hd' hkey]

theorem activeRows_map {f : BookPeriodControl → BookPeriodControl} (hf : KeepsKey f)
    (controls : List BookPeriodControl) (fiscalPeriodId : ℕ) :
    activeRows dep (controls.map f) fiscalPeriodId = (activeRows dep controls fiscalPeriodId).map f := by
  simp only [activeRows, List.filter_map, Function.comp_def, hf.book, hf.period]

theorem activeRows_updateRow_ne {controls : List BookPeriodControl} {bookId fiscalPeriodId other : ℕ}
    {f : BookPeriodControl → BookPeriodControl} (hf : KeepsKey f) (hne : other ≠ fiscalPeriodId) :
    activeRows dep (controls.map (updateRow bookId fiscalPeriodId f)) other =
      activeRows dep controls other := by
  rw [activeRows_map dep (hf.updateRow bookId fiscalPeriodId)]
  refine (List.map_congr_left fun c hc => ?_).trans (List.map_id _)
  have := ((mem_activeRows dep).mp hc).2.1
  exact updateRow_of_not fun hfor => hne (this.symm.trans hfor.2)

/-! ## The invariant -/

structure ControlsKept (periods : List FiscalPeriod) (controls : List BookPeriodControl) : Prop where
  unique : ControlsUnique controls
  owned : ∀ c ∈ controls, ∃ p ∈ periods, p.fiscalPeriodId = c.fiscalPeriodId
  active : ∀ c ∈ controls, ∃ book ∈ dep.catalog.books,
    book.accountingBookId = c.accountingBookId ∧ book.isCurrent = true
  aggregated : ∀ p ∈ periods,
    ((∀ c ∈ controls, c.fiscalPeriodId ≠ p.fiscalPeriodId) ∧ p.periodStatus = .opened) ∨
    ((∀ book ∈ dep.catalog.books, book.isCurrent = true →
        ∃ c ∈ controls, c.IsFor book.accountingBookId p.fiscalPeriodId) ∧
      p.periodStatus = aggregateStatus (activeRows dep controls p.fiscalPeriodId))

variable {dep}

theorem controlsKept_nil : ControlsKept dep [] [] := by
  constructor <;> simp [ControlsUnique]

/-- A new period has no rows yet. -/
theorem ControlsKept.openPeriod {periods : List FiscalPeriod} {controls : List BookPeriodControl}
    (h : ControlsKept dep periods controls) {period : FiscalPeriod}
    (hnew : ∀ p ∈ periods, p.fiscalPeriodId ≠ period.fiscalPeriodId)
    (hopen : period.periodStatus = .opened) : ControlsKept dep (periods ++ [period]) controls where
  unique := h.unique
  owned c hc := by
    obtain ⟨p, hp, hid⟩ := h.owned c hc
    exact ⟨p, List.mem_append_left _ hp, hid⟩
  active := h.active
  aggregated p hp := by
    rcases List.mem_append.mp hp with hp | hp
    · exact h.aggregated p hp
    · rw [List.mem_singleton] at hp
      subst hp
      refine Or.inl ⟨fun c hc hid => ?_, hopen⟩
      obtain ⟨q, hq, hqid⟩ := h.owned c hc
      exact hnew q hq (hqid.trans hid)

/-- Rows that `_lock_book_period` adds are open, and there are none once a row exists. -/
theorem materializedControls_opened {t : Tables}
    (h : ControlsKept dep t.fiscalPeriods t.bookPeriodControls) {period : FiscalPeriod}
    (hp : period ∈ t.fiscalPeriods) {c : BookPeriodControl}
    (hc : c ∈ materializedControls dep t period) :
    c.periodStatus = .opened ∧ (∀ d ∈ t.bookPeriodControls, d.fiscalPeriodId ≠ period.fiscalPeriodId) := by
  obtain ⟨book, hbook, rfl⟩ := List.mem_map.mp hc
  simp only [List.mem_filter, decide_eq_true_eq] at hbook
  obtain ⟨⟨hmem, hcurrent⟩, hnone⟩ := hbook
  rcases h.aggregated period hp with ⟨hno, hopen⟩ | ⟨hall, -⟩
  · exact ⟨hopen, hno⟩
  · obtain ⟨d, hd, hfor⟩ := hall book hmem hcurrent
    exact absurd ⟨d, hd, hfor⟩ hnone

theorem mem_materializedControls {t : Tables} {period : FiscalPeriod} {c : BookPeriodControl} :
    c ∈ materializedControls dep t period ↔
      ∃ book ∈ dep.catalog.books, book.isCurrent = true ∧
        (∀ d ∈ t.bookPeriodControls, ¬d.IsFor book.accountingBookId period.fiscalPeriodId) ∧
        c = ⟨book.accountingBookId, period.fiscalPeriodId, period.periodStatus,
          period.periodClosedAt, none⟩ := by
  simp only [materializedControls, List.mem_map, List.mem_filter, decide_eq_true_eq, not_exists,
    BookPeriodControl.IsFor]
  constructor
  · rintro ⟨book, ⟨⟨hbook, hcurrent⟩, hnone⟩, rfl⟩
    exact ⟨book, hbook, hcurrent, fun d hd h => hnone d ⟨hd, h⟩, rfl⟩
  · rintro ⟨book, hbook, hcurrent, hnone, rfl⟩
    exact ⟨book, ⟨⟨hbook, hcurrent⟩, fun d h => hnone d h.1 h.2⟩, rfl⟩

theorem book_of_id {book book' : AccountingBook} (h : book ∈ dep.catalog.books)
    (h' : book' ∈ dep.catalog.books) (hid : book.accountingBookId = book'.accountingBookId) :
    book = book' :=
  List.inj_on_of_nodup_map dep.catalog.book_key h h' hid

theorem period_of_id {periods : List FiscalPeriod}
    (hn : (periods.map FiscalPeriod.fiscalPeriodId).Nodup) {p q : FiscalPeriod} (hp : p ∈ periods)
    (hq : q ∈ periods) (hid : p.fiscalPeriodId = q.fiscalPeriodId) : p = q :=
  List.inj_on_of_nodup_map hn hp hq hid

/-- After `_lock_book_period` every active book has a row of the period. -/
theorem ControlsKept.materialize {t : Tables}
    (h : ControlsKept dep t.fiscalPeriods t.bookPeriodControls)
    (hn : (t.fiscalPeriods.map FiscalPeriod.fiscalPeriodId).Nodup) {period : FiscalPeriod}
    (hp : period ∈ t.fiscalPeriods) :
    ControlsKept dep t.fiscalPeriods (t.bookPeriodControls ++ materializedControls dep t period) where
  unique := by
    intro c hc c' hc' hkey
    rcases List.mem_append.mp hc with hc | hc <;> rcases List.mem_append.mp hc' with hc' | hc'
    · exact h.unique c hc c' hc' hkey
    · obtain ⟨book, -, -, hnone, rfl⟩ := mem_materializedControls.mp hc'
      exact absurd ⟨hkey.1.symm, hkey.2.symm⟩ (hnone c hc)
    · obtain ⟨book, -, -, hnone, rfl⟩ := mem_materializedControls.mp hc
      exact absurd hkey (hnone c' hc')
    · obtain ⟨book, hbook, -, -, rfl⟩ := mem_materializedControls.mp hc
      obtain ⟨book', hbook', -, -, rfl⟩ := mem_materializedControls.mp hc'
      rw [book_of_id hbook' hbook hkey.1]
  owned := by
    intro c hc
    rcases List.mem_append.mp hc with hc | hc
    · exact h.owned c hc
    · obtain ⟨book, -, -, -, rfl⟩ := mem_materializedControls.mp hc
      exact ⟨period, hp, rfl⟩
  active := by
    intro c hc
    rcases List.mem_append.mp hc with hc | hc
    · exact h.active c hc
    · obtain ⟨book, hbook, hcurrent, -, rfl⟩ := mem_materializedControls.mp hc
      exact ⟨book, hbook, rfl, hcurrent⟩
  aggregated := by
    intro p hmem
    by_cases hid : p.fiscalPeriodId = period.fiscalPeriodId
    · obtain rfl : p = period := period_of_id hn hmem hp hid
      right
      constructor
      · intro book hbook hcurrent
        by_cases hex : ∃ c ∈ t.bookPeriodControls, c.IsFor book.accountingBookId p.fiscalPeriodId
        · obtain ⟨c, hc, hfor⟩ := hex
          exact ⟨c, List.mem_append_left _ hc, hfor⟩
        · exact ⟨_, List.mem_append_right _ (mem_materializedControls.mpr
            ⟨book, hbook, hcurrent, fun d hd hfor => hex ⟨d, hd, hfor⟩, rfl⟩), rfl, rfl⟩
      · rcases h.aggregated p hp with ⟨hno, hopen⟩ | ⟨hall, hagg⟩
        · rw [hopen, aggregateStatus_of_opened]
          intro c hc
          obtain ⟨hc, hcid, -⟩ := (mem_activeRows dep).mp hc
          rcases List.mem_append.mp hc with hc | hc
          · exact absurd hcid (hno c hc)
          · exact (materializedControls_opened h hp hc).1
        · -- every active book has its row already, so nothing is added
          have hnil : materializedControls dep t p = [] := by
            rw [List.eq_nil_iff_forall_not_mem]
            intro c hc
            obtain ⟨book, hbook, hcurrent, hnone, -⟩ := mem_materializedControls.mp hc
            obtain ⟨d, hd, hfor⟩ := hall book hbook hcurrent
            exact hnone d hd hfor
          rw [hnil, List.append_nil]
          exact hagg
    · have hnew : ∀ c ∈ materializedControls dep t period, c.fiscalPeriodId ≠ p.fiscalPeriodId := by
        intro c hc
        obtain ⟨book, -, -, -, rfl⟩ := mem_materializedControls.mp hc
        exact fun he => hid he.symm
      have hrows : activeRows dep (t.bookPeriodControls ++ materializedControls dep t period)
          p.fiscalPeriodId = activeRows dep t.bookPeriodControls p.fiscalPeriodId := by
        rw [activeRows, List.filter_append]
        refine (congrArg _ (List.filter_eq_nil_iff.mpr fun c hc => ?_)).trans (List.append_nil _)
        simp [hnew c hc]
      rw [hrows]
      rcases h.aggregated p hmem with ⟨hno, hopen⟩ | ⟨hall, hagg⟩
      · refine Or.inl ⟨fun c hc => ?_, hopen⟩
        rcases List.mem_append.mp hc with hc | hc
        · exact hno c hc
        · exact hnew c hc
      · refine Or.inr ⟨fun book hbook hcurrent => ?_, hagg⟩
        obtain ⟨c, hc, hfor⟩ := hall book hbook hcurrent
        exact ⟨c, List.mem_append_left _ hc, hfor⟩

/-- The calendar rows after one period's status was refreshed. -/
def refreshStatus (periods : List FiscalPeriod) (fiscalPeriodId : ℕ) (status : PeriodStatus)
    (closedAt : Option Timestamp) : List FiscalPeriod :=
  periods.map fun period =>
    if period.fiscalPeriodId = fiscalPeriodId then
      { period with periodStatus := status, periodClosedAt := closedAt }
    else period

theorem mem_refreshStatus {periods : List FiscalPeriod} {fiscalPeriodId : ℕ} {status : PeriodStatus}
    {closedAt : Option Timestamp} {p : FiscalPeriod}
    (hp : p ∈ refreshStatus periods fiscalPeriodId status closedAt) :
    ∃ q ∈ periods, p = if q.fiscalPeriodId = fiscalPeriodId then
      { q with periodStatus := status, periodClosedAt := closedAt } else q := by
  obtain ⟨q, hq, rfl⟩ := List.mem_map.mp hp
  exact ⟨q, hq, rfl⟩

/-- Closing one book's row and refreshing the calendar row keeps the aggregate. -/
theorem ControlsKept.update {periods : List FiscalPeriod} {controls : List BookPeriodControl}
    (h : ControlsKept dep periods controls) {bookId fiscalPeriodId : ℕ}
    (hrow : ∃ c ∈ controls, c.IsFor bookId fiscalPeriodId)
    {f : BookPeriodControl → BookPeriodControl} (hf : KeepsKey f) (closedAt : Option Timestamp) :
    ControlsKept dep
      (refreshStatus periods fiscalPeriodId
        (aggregateStatus (activeRows dep (updateControl bookId fiscalPeriodId f controls)
          fiscalPeriodId)) closedAt)
      (updateControl bookId fiscalPeriodId f controls) where
  unique := controlsUnique_map h.unique (hf.updateRow bookId fiscalPeriodId)
  owned := by
    intro c hc
    obtain ⟨d, hd, rfl⟩ := List.mem_map.mp hc
    obtain ⟨p, hp, hid⟩ := h.owned d hd
    refine ⟨_, List.mem_map.mpr ⟨p, hp, rfl⟩, ?_⟩
    have := (hf.updateRow bookId fiscalPeriodId).period d
    rw [← updateRow, this, ← hid]
    split <;> rfl
  active := by
    intro c hc
    obtain ⟨d, hd, rfl⟩ := List.mem_map.mp hc
    obtain ⟨book, hbook, hid, hcurrent⟩ := h.active d hd
    exact ⟨book, hbook, hid.trans ((hf.updateRow bookId fiscalPeriodId).book d).symm, hcurrent⟩
  aggregated := by
    intro p hp
    obtain ⟨q, hq, rfl⟩ := mem_refreshStatus hp
    have hkeys := hf.updateRow bookId fiscalPeriodId
    have hrows : ∀ book, (∃ c ∈ controls, c.IsFor book q.fiscalPeriodId) →
        ∃ c ∈ updateControl bookId fiscalPeriodId f controls, c.IsFor book q.fiscalPeriodId := by
      rintro book ⟨c, hc, hfor⟩
      exact ⟨_, List.mem_map.mpr ⟨c, hc, rfl⟩, (hkeys.book c).trans hfor.1,
        (hkeys.period c).trans hfor.2⟩
    by_cases hid : q.fiscalPeriodId = fiscalPeriodId
    · rw [if_pos hid]
      obtain ⟨c, hc, hfor⟩ := hrow
      rcases h.aggregated q hq with ⟨hno, -⟩ | ⟨hall, -⟩
      · exact absurd (hfor.2.trans hid.symm) (hno c hc)
      · exact Or.inr ⟨fun book hbook hcurrent => hrows _ (hall book hbook hcurrent),
          by simp only [hid]⟩
    · rw [if_neg hid]
      rcases h.aggregated q hq with ⟨hno, hopen⟩ | ⟨hall, hagg⟩
      · refine Or.inl ⟨fun c hc => ?_, hopen⟩
        obtain ⟨d, hd, rfl⟩ := List.mem_map.mp hc
        rw [← updateRow, hkeys.period d]
        exact hno d hd
      · refine Or.inr ⟨fun book hbook hcurrent => hrows _ (hall book hbook hcurrent), ?_⟩
        rw [updateControl_eq_map, activeRows_updateRow_ne dep hf hid]
        exact hagg

/-- A change that leaves the status of every row alone. -/
theorem ControlsKept.annotate {periods : List FiscalPeriod} {controls : List BookPeriodControl}
    (h : ControlsKept dep periods controls) {f : BookPeriodControl → BookPeriodControl}
    (hf : KeepsKey f) (hstatus : ∀ c, (f c).periodStatus = c.periodStatus) :
    ControlsKept dep periods (controls.map f) where
  unique := controlsUnique_map h.unique hf
  owned := by
    intro c hc
    obtain ⟨d, hd, rfl⟩ := List.mem_map.mp hc
    rw [hf.period d]
    exact h.owned d hd
  active := by
    intro c hc
    obtain ⟨d, hd, rfl⟩ := List.mem_map.mp hc
    rw [hf.book d]
    exact h.active d hd
  aggregated := by
    intro p hp
    rw [activeRows_map dep hf, aggregateStatus_map hstatus]
    rcases h.aggregated p hp with ⟨hno, hopen⟩ | ⟨hall, hagg⟩
    · refine Or.inl ⟨fun c hc => ?_, hopen⟩
      obtain ⟨d, hd, rfl⟩ := List.mem_map.mp hc
      rw [hf.period d]
      exact hno d hd
    · refine Or.inr ⟨fun book hbook hcurrent => ?_, hagg⟩
      obtain ⟨d, hd, hfor⟩ := hall book hbook hcurrent
      exact ⟨_, List.mem_map.mpr ⟨d, hd, rfl⟩, (hf.book d).trans hfor.1, (hf.period d).trans hfor.2⟩

end AccountingPlatform.Postgres
