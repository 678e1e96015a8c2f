/-
  The state machine of a period and book, over runs in which books are created and retired.

  A state is the control row of the book, or the calendar row where there is none. Every
  command leaves the states alone, opens a period, adds the missing control rows of one period
  or closes one row and refreshes its calendar row; `StateStep` lists these. The catalog may
  change between two commands, so nothing here rests on a fixed one.
-/
import AccountingPlatform.Postgres.Effects

namespace AccountingPlatform.Postgres

open AccountingPlatform.Lib AccountingPlatform.Core

variable {dep : Deployment}

/-! ## States -/

def PeriodStatus.rank : PeriodStatus → ℕ
  | .opened => 0
  | .softClosed => 1
  | .hardClosed => 2

theorem PeriodStatus.rank_injective : Function.Injective PeriodStatus.rank := by
  intro a b h
  cases a <;> cases b <;> first | rfl | cases h

/-- `open` before `soft_closed` before `hard_closed`. -/
instance : PartialOrder PeriodStatus := PartialOrder.lift PeriodStatus.rank PeriodStatus.rank_injective

theorem PeriodStatus.le_def {a b : PeriodStatus} : a ≤ b ↔ a.rank ≤ b.rank := Iff.rfl

theorem PeriodStatus.opened_le (s : PeriodStatus) : .opened ≤ s := Nat.zero_le _

theorem PeriodStatus.hardClosed_le {s : PeriodStatus} : .hardClosed ≤ s ↔ s = .hardClosed := by
  cases s <;> simp [PeriodStatus.le_def, PeriodStatus.rank]

theorem PeriodStatus.softClosed_le {s : PeriodStatus} : .softClosed ≤ s ↔ s ≠ .opened := by
  cases s <;> simp [PeriodStatus.le_def, PeriodStatus.rank]

def Tables.controlRow? (t : Tables) (bookId fiscalPeriodId : ℕ) : Option BookPeriodControl :=
  t.bookPeriodControls.find? fun control =>
    control.accountingBookId = bookId ∧ control.fiscalPeriodId = fiscalPeriodId

/-- The state of a book and period that exists. -/
def periodState (t : Tables) (bookId fiscalPeriodId : ℕ) : Option PeriodStatus :=
  (t.period? fiscalPeriodId).map (t.bookPeriodStatus bookId)

/-- The recorded soft-close evidence of a book and period. -/
def recordedEvidence (t : Tables) (bookId fiscalPeriodId : ℕ) : Option SoftCloseEvidence :=
  (t.controlRow? bookId fiscalPeriodId).bind BookPeriodControl.softClose

theorem bookPeriodStatus_of_row {t : Tables} {bookId : ℕ} {period : FiscalPeriod}
    {control : BookPeriodControl} (h : t.controlRow? bookId period.fiscalPeriodId = some control) :
    t.bookPeriodStatus bookId period = control.periodStatus := by
  unfold Tables.controlRow? at h
  simp only [Tables.bookPeriodStatus, h]

theorem bookPeriodStatus_of_none {t : Tables} {bookId : ℕ} {period : FiscalPeriod}
    (h : t.controlRow? bookId period.fiscalPeriodId = none) :
    t.bookPeriodStatus bookId period = period.periodStatus := by
  unfold Tables.controlRow? at h
  simp only [Tables.bookPeriodStatus, h]

/-! ## Aggregates -/

/-- The calendar status is the lowest state of the active rows. -/
theorem le_aggregateStatus_iff {rows : List BookPeriodControl} (hne : rows ≠ [])
    {status : PeriodStatus} :
    status ≤ aggregateStatus rows ↔ ∀ c ∈ rows, status ≤ c.periodStatus := by
  cases status with
  | opened => exact iff_of_true (PeriodStatus.opened_le _) fun c _ => PeriodStatus.opened_le _
  | softClosed =>
    simp only [PeriodStatus.softClosed_le]
    unfold aggregateStatus
    rw [if_neg hne]
    split
    · next hall => simp_all
    · split <;> simp_all
  | hardClosed =>
    simp only [PeriodStatus.hardClosed_le, aggregateStatus_hardClosed]
    exact and_iff_right hne

theorem aggregateStatus_le {rows : List BookPeriodControl} {c : BookPeriodControl} (hc : c ∈ rows) :
    aggregateStatus rows ≤ c.periodStatus :=
  (le_aggregateStatus_iff (List.ne_nil_of_mem hc)).mp le_rfl c hc

/-- Rows that copy the calendar status do not change it. -/
theorem aggregateStatus_append {rows added : List BookPeriodControl}
    (h : ∀ c ∈ added, c.periodStatus = aggregateStatus rows) :
    aggregateStatus (rows ++ added) = aggregateStatus rows := by
  by_cases hrows : rows = []
  · subst hrows
    exact aggregateStatus_of_opened h
  · have hne : rows ++ added ≠ [] := fun he => hrows (List.append_eq_nil_iff.mp he).1
    apply le_antisymm
    · rw [le_aggregateStatus_iff hrows]
      exact fun c hc => aggregateStatus_le (List.mem_append_left _ hc)
    · rw [le_aggregateStatus_iff hne]
      intro c hc
      rcases List.mem_append.mp hc with hc | hc
      · exact aggregateStatus_le hc
      · exact (h c hc).ge

/-! ## What a command does to the states -/

/-- An update that closes a control row. -/
structure Closes (control : BookPeriodControl) (status : PeriodStatus)
    (f : BookPeriodControl → BookPeriodControl) : Prop where
  key : KeepsKey f
  status_eq : ∀ c, (f c).periodStatus = status
  dated : ∀ c, (f c).periodClosedAt ≠ none
  forward : (control.periodStatus = .opened ∧ status = .softClosed) ∨
    (control.periodStatus ≠ .hardClosed ∧ status = .hardClosed)
  evidence : ∀ e, control.softClose = some e → (f control).softClose = some e

variable (dep) in
/-- The tables after the control row of one active book was closed. -/
structure RowClosed (t : Tables) (book : AccountingBook) (period : FiscalPeriod)
    (control : BookPeriodControl) (status : PeriodStatus) (t' : Tables) : Prop where
  book_mem : book ∈ dep.catalog.books
  book_current : book.isCurrent = true
  locked : (materialized dep t period).controlRow? book.accountingBookId period.fiscalPeriodId =
    some control
  controls : ∃ f, Closes control status f ∧ t'.bookPeriodControls =
    updateControl book.accountingBookId period.fiscalPeriodId f
      (materialized dep t period).bookPeriodControls
  calendar : ∃ closedAt, t'.fiscalPeriods = refreshStatus t.fiscalPeriods period.fiscalPeriodId
    (aggregateStatus (activeRows dep t'.bookPeriodControls period.fiscalPeriodId)) closedAt
  snapshots : (status = .softClosed ∧ t'.snapshots = t.snapshots) ∨
    (status = .hardClosed ∧ ∃ s : TrialBalanceSnapshot, s.accountingBookId = book.accountingBookId ∧
      s.fiscalPeriodId = period.fiscalPeriodId ∧ t'.snapshots = t.snapshots ++ [s])
  nextId : t.nextId ≤ t'.nextId

variable (dep) in
inductive StateStep (t t' : Tables) : Prop
  | same (hperiods : t'.fiscalPeriods = t.fiscalPeriods)
      (hcontrols : t'.bookPeriodControls = t.bookPeriodControls)
      (hsnapshots : t'.snapshots = t.snapshots) (hnext : t.nextId ≤ t'.nextId)
  | opened (period : FiscalPeriod) (hid : period.fiscalPeriodId = t.nextId)
      (hopen : period.periodStatus = .opened)
      (hcode : ∀ p ∈ t.fiscalPeriods, p.periodCode ≠ period.periodCode)
      (hperiods : t'.fiscalPeriods = t.fiscalPeriods ++ [period])
      (hcontrols : t'.bookPeriodControls = t.bookPeriodControls)
      (hsnapshots : t'.snapshots = t.snapshots) (hnext : t.nextId < t'.nextId)
  | locked (period : FiscalPeriod) (hperiod : period ∈ t.fiscalPeriods)
      (hperiods : t'.fiscalPeriods = t.fiscalPeriods)
      (hcontrols : t'.bookPeriodControls = (materialized dep t period).bookPeriodControls)
      (hsnapshots : t'.snapshots = t.snapshots) (hnext : t.nextId ≤ t'.nextId)
  | closed (book : AccountingBook) (period : FiscalPeriod) (control : BookPeriodControl)
      (status : PeriodStatus) (hperiod : period ∈ t.fiscalPeriods)
      (h : RowClosed dep t book period control status t')

theorem RecordedJournal.same {t t₁ t' : Tables} {record : NewProposalRecord}
    {new : ℕ → NewJournal} {journal : GeneralJournal}
    (h : RecordedJournal dep t record new journal t₁)
    (hperiods : t'.fiscalPeriods = t₁.fiscalPeriods)
    (hcontrols : t'.bookPeriodControls = t₁.bookPeriodControls)
    (hsnapshots : t'.snapshots = t₁.snapshots) (hnext : t'.nextId = t₁.nextId) :
    StateStep dep t t' := by
  have htables := h.inserted.tables
  refine .same (hperiods.trans ?_) (hcontrols.trans ?_) (hsnapshots.trans ?_) ?_
  · rw [htables]
  · rw [htables]
  · rw [htables]
  · rw [hnext, htables]
    show t.nextId ≤ t.nextId + 1 + 1
    omega

theorem writePosting_step {t t' : Tables} {record : NewProposalRecord} {new : ℕ → NewJournal}
    {receipt : PostingReceipt} (h : writePosting dep t record new receipt = .ok t') :
    StateStep dep t t' := by
  obtain ⟨journal, t₁, hrecorded, rfl⟩ := writePosting_ok dep h
  exact hrecorded.same rfl rfl rfl rfl

theorem persistProposal_step {t t' : Tables} {proposal : JournalProposal}
    {suppliedPolicy : Option AccountingPolicy} {receipt : PostingReceipt}
    (h : persistProposal dep t proposal suppliedPolicy = .ok (receipt, t')) :
    StateStep dep t t' := by
  rcases persistProposal_ok dep h with ⟨-, -, -, -, rfl⟩ | ⟨-, hfresh⟩
  · exact .same rfl rfl rfl le_rfl
  · obtain ⟨_, _, _, _, _, -, -, hwrite⟩ := persistFreshProposal_ok dep hfresh
    exact writePosting_step hwrite

/-- Two changes of one row, one after the other. -/
theorem updateControl_updateControl {f g : BookPeriodControl → BookPeriodControl} (hf : KeepsKey f)
    (bookId fiscalPeriodId : ℕ) (controls : List BookPeriodControl) :
    updateControl bookId fiscalPeriodId g (updateControl bookId fiscalPeriodId f controls) =
      updateControl bookId fiscalPeriodId (fun c => g (f c)) controls := by
  rw [updateControl, updateControl, updateControl, List.map_map]
  apply List.map_congr_left
  intro c _
  rw [Function.comp_apply]
  by_cases h : c.accountingBookId = bookId ∧ c.fiscalPeriodId = fiscalPeriodId
  · rw [if_pos h, if_pos h, if_pos (by rw [hf.book, hf.period]; exact h)]
  · rw [if_neg h, if_neg h, if_neg h]

def closeRow (status : PeriodStatus) (closedAt : Timestamp) (control : BookPeriodControl) :
    BookPeriodControl :=
  { control with periodStatus := status, periodClosedAt := some closedAt }

def recordEvidence (evidence : SoftCloseEvidence) (control : BookPeriodControl) :
    BookPeriodControl :=
  { control with softClose := some evidence }

theorem keepsKey_closeRow (status : PeriodStatus) (closedAt : Timestamp) :
    KeepsKey (closeRow status closedAt) := ⟨fun _ => rfl, fun _ => rfl⟩

theorem keepsKey_recordEvidence (evidence : SoftCloseEvidence) :
    KeepsKey (recordEvidence evidence) := ⟨fun _ => rfl, fun _ => rfl⟩

/-- A soft close records evidence where there is none, or what is there already. -/
theorem persistSoftClose_evidence {t t' : Tables} {request : CloseRequest}
    {entity : LegalEntityRecord} {book : AccountingBook} {period : FiscalPeriod}
    {control : BookPeriodControl} {receipt : PeriodCloseReceipt}
    (h : persistSoftClose dep t request entity book period control = .ok (receipt, t')) :
    ∃ evidence closedAt, (control.softClose = none ∨ control.softClose = some evidence) ∧
      t'.bookPeriodControls = updateControl book.accountingBookId period.fiscalPeriodId
        (recordEvidence evidence) (updateControl book.accountingBookId period.fiscalPeriodId
          (closeRow .softClosed t.clock) t.bookPeriodControls) ∧
      t'.fiscalPeriods = refreshStatus t.fiscalPeriods period.fiscalPeriodId
        (aggregateStatus (activeRows dep (updateControl book.accountingBookId period.fiscalPeriodId
          (closeRow .softClosed t.clock) t.bookPeriodControls) period.fiscalPeriodId)) closedAt ∧
      t'.snapshots = t.snapshots ∧ t'.nextId = t.nextId := by
  simp only [persistSoftClose, bind_eq_ok, require_eq_ok, pure_eq_ok, Prod.mk.injEq] at h
  obtain ⟨-, -, -, hevidence, -, -, -, rfl⟩ := h
  exact ⟨_, _, hevidence, rfl, rfl, rfl, rfl⟩

theorem persistSoftClose_closes {t t' : Tables} {request : CloseRequest}
    {entity : LegalEntityRecord} {book : AccountingBook} {period : FiscalPeriod}
    {control : BookPeriodControl} {receipt : PeriodCloseReceipt} (hbook : book ∈ dep.catalog.books)
    (hcurrent : book.isCurrent = true)
    (hrow : (materialized dep t period).controlRow? book.accountingBookId period.fiscalPeriodId =
      some control)
    (hopen : control.periodStatus = .opened)
    (h : persistSoftClose dep (materialized dep t period) request entity book period control =
      .ok (receipt, t')) : RowClosed dep t book period control .softClosed t' := by
  obtain ⟨evidence, closedAt, hevidence, hcontrols, hperiods, hsnapshots, hnext⟩ :=
    persistSoftClose_evidence h
  have hstatus : ∀ c, (updateRow book.accountingBookId period.fiscalPeriodId
      (recordEvidence evidence) c).periodStatus = c.periodStatus := by
    intro c
    unfold updateRow
    split <;> rfl
  refine ⟨hbook, hcurrent, hrow, ⟨fun c => recordEvidence evidence (closeRow .softClosed t.clock c),
    ⟨⟨fun _ => rfl, fun _ => rfl⟩, fun _ => rfl, nofun, Or.inl ⟨hopen, rfl⟩, fun e he => ?_⟩, ?_⟩, ?_,
    Or.inl ⟨rfl, hsnapshots⟩, hnext.ge⟩
  · rcases hevidence with hnone | hsome
    · rw [hnone] at he
      cases he
    · exact hsome.symm.trans he
  · rw [hcontrols]
    exact updateControl_updateControl (keepsKey_closeRow _ _) _ _ _
  · -- the calendar row was refreshed before the evidence was written, which changes no status
    refine ⟨closedAt, ?_⟩
    rw [hperiods, hcontrols, updateControl_eq_map _ _ (recordEvidence evidence),
      activeRows_map dep ((keepsKey_recordEvidence evidence).updateRow _ _),
      aggregateStatus_map hstatus]
    rfl

theorem postClosingJournal_same {t t' : Tables} {request : CloseRequest}
    {entity : LegalEntityRecord} {book : AccountingBook} {period : FiscalPeriod}
    {posted : Option GeneralJournal}
    (h : postClosingJournal dep t request entity book period = .ok (posted, t')) :
    t'.fiscalPeriods = t.fiscalPeriods ∧ t'.bookPeriodControls = t.bookPeriodControls ∧
      t'.snapshots = t.snapshots ∧ t.nextId ≤ t'.nextId := by
  rcases postClosingJournal_ok dep h with ⟨-, -, rfl⟩ | ⟨_, _, -, -, hrecorded⟩
  · exact ⟨rfl, rfl, rfl, le_rfl⟩
  · rw [hrecorded.inserted.tables]
    refine ⟨rfl, rfl, rfl, ?_⟩
    show t.nextId ≤ t.nextId + 1 + 1
    omega

/-- A hard close snapshots the book and closes the row. -/
theorem persistPeriodClose_closes {t t' : Tables} {request : CloseRequest}
    {entity : LegalEntityRecord} {book : AccountingBook} {period : FiscalPeriod}
    {control : BookPeriodControl} {receipt : PeriodCloseReceipt} (hbook : book ∈ dep.catalog.books)
    (hcurrent : book.isCurrent = true)
    (hrow : (materialized dep t period).controlRow? book.accountingBookId period.fiscalPeriodId =
      some control)
    (hnot : control.periodStatus ≠ .hardClosed)
    (h : persistPeriodClose dep (materialized dep t period) request entity book period =
      .ok (receipt, t')) : RowClosed dep t book period control .hardClosed t' := by
  obtain ⟨posted, t₁, hposted, -, snapshotId, payloadHash, rfl⟩ := persistPeriodClose_ok dep h
  obtain ⟨hperiods, hcontrols, hsnapshots, hnext⟩ := postClosingJournal_same hposted
  refine ⟨hbook, hcurrent, hrow, ⟨closeRow .hardClosed t₁.clock, ⟨keepsKey_closeRow _ _,
    fun _ => rfl, nofun, Or.inr ⟨hnot, rfl⟩, fun _ he => he⟩, ?_⟩,
    ⟨_, congrArg (refreshStatus · _ _ _) hperiods⟩,
    Or.inr ⟨rfl, newSnapshot dep t₁ request entity book period, rfl, rfl, ?_⟩, ?_⟩
  · exact congrArg (updateControl _ _ _) hcontrols
  · exact congrArg (· ++ [newSnapshot dep t₁ request entity book period]) hsnapshots
  · exact hnext.trans (Nat.le_succ _)

/-- A close answers from what is recorded or closes the row it locked. -/
theorem closeFiscalPeriod_step {t t' : Tables} {request : CloseRequest}
    {receipt : PeriodCloseReceipt} (h : closeFiscalPeriod dep t request = .ok (receipt, t')) :
    ∃ period, periodByCode dep t request.periodCode = some period ∧
      ((receipt.replayed = true ∧ t' = materialized dep t period) ∨
      ∃ book control status, RowClosed dep t book period control status t') := by
  simp only [closeFiscalPeriod, bind_eq_ok] at h
  obtain ⟨requested, -, ⟨entity, book⟩, hscope, _, -, ⟨period, control, t₁⟩, hlock, h⟩ := h
  obtain ⟨-, -, hbook, -, -, hcurrent⟩ := dep.loadScope_ok hscope
  obtain ⟨hperiod, rfl, hrow⟩ := lockBookPeriod_ok dep hlock
  refine ⟨period, hperiod, ?_⟩
  unfold closeLockedPeriod at h
  by_cases hhard : control.periodStatus = .hardClosed
  · rw [if_pos hhard] at h
    split at h
    · cases h
    · simp only [replayCloseReceipt, bind_eq_ok, pure_eq_ok, Prod.mk.injEq] at h
      obtain ⟨_, ⟨-, -, -, -, rfl⟩, rfl, rfl⟩ := h
      exact Or.inl ⟨rfl, rfl⟩
  · rw [if_neg hhard] at h
    split at h
    · simp only [replaySoftCloseReceipt, bind_eq_ok, pure_eq_ok, Prod.mk.injEq] at h
      obtain ⟨_, ⟨-, -, -, -, rfl⟩, rfl, rfl⟩ := h
      exact Or.inl ⟨rfl, rfl⟩
    · next hdiffer =>
      right
      split at h
      · next hsoft =>
        subst hsoft
        have hopen : control.periodStatus = .opened := by
          cases hs : control.periodStatus with
          | opened => rfl
          | softClosed => exact absurd hs hdiffer
          | hardClosed => exact absurd hs hhard
        exact ⟨book, control, .softClosed, persistSoftClose_closes hbook hcurrent hrow hopen h⟩
      · simp only [bind_eq_ok] at h
        obtain ⟨_, -, _, -, h⟩ := h
        exact ⟨book, control, .hardClosed, persistPeriodClose_closes hbook hcurrent hrow hhard h⟩

theorem openFiscalPeriod_step {t t' : Tables} {request : PeriodOpenRequest}
    {document : PeriodOpenDocument} (h : openFiscalPeriod dep t request = .ok (document, t')) :
    StateStep dep t t' := by
  rcases openFiscalPeriod_ok dep h with rfl | ⟨command, rfl | ⟨period, hid, hopen, hcode, rfl⟩⟩
  · exact .same rfl rfl rfl le_rfl
  · exact .same rfl rfl rfl le_rfl
  · refine .opened period hid hopen (fun p hp heq => ?_) rfl rfl rfl (Nat.lt_succ_self _)
    rw [periodByCode, dep.fetchone_eq_none, List.filter_eq_nil_iff] at hcode
    exact hcode p hp (by simpa using heq)

theorem postAdjustingJournal_step {t t' : Tables} {request : AdjustingRequest}
    (h : postAdjustingJournal dep t request = .ok t') : StateStep dep t t' := by
  rcases postAdjustingJournal_ok dep h with ⟨_, -, rfl⟩ | ⟨-, -, _, _, _, _, -, hwrite⟩
  · exact .same rfl rfl rfl le_rfl
  · exact writePosting_step hwrite

theorem reverse_step {t t' : Tables} {request : PostingLedger.ReversalRequest}
    {policy : AccountingPolicy} {receipt : PostingReceipt}
    (h : reverse dep t request policy = .ok (receipt, t')) : StateStep dep t t' := by
  rcases reverse_ok dep h with ⟨_, -, -, rfl⟩ | ⟨_, _, _, _, _, -, -, hrecorded, -, -, rfl⟩
  · exact .same rfl rfl rfl le_rfl
  · exact hrecorded.same rfl rfl rfl rfl

theorem StateStep.close {t t' : Tables} {request : CloseRequest} {receipt : PeriodCloseReceipt}
    (h : closeFiscalPeriod dep t request = .ok (receipt, t')) : StateStep dep t t' := by
  obtain ⟨period, hperiod, ⟨-, rfl⟩ | ⟨book, control, status, hclosed⟩⟩ := closeFiscalPeriod_step h
  · exact .locked period (periodByCode_mem dep hperiod).1 rfl rfl rfl le_rfl
  · exact .closed book period control status (periodByCode_mem dep hperiod).1 hclosed

theorem attempt_step {t t' : Tables} {command : Command} (h : attempt dep t command = .ok t') :
    StateStep dep t t' := by
  cases command with
  | openFiscalPeriod request =>
    obtain ⟨⟨_, _⟩, hok, rfl⟩ := map_eq_ok.mp h
    exact openFiscalPeriod_step hok
  | post proposal policy =>
    obtain ⟨⟨_, _⟩, hok, rfl⟩ := map_eq_ok.mp h
    exact persistProposal_step hok
  | postProposal proposal =>
    obtain ⟨⟨_, _⟩, hok, rfl⟩ := map_eq_ok.mp h
    exact persistProposal_step hok
  | postAdjustingJournal request => exact postAdjustingJournal_step h
  | reverse request policy =>
    obtain ⟨⟨_, _⟩, hok, rfl⟩ := map_eq_ok.mp h
    exact reverse_step hok
  | closeFiscalPeriod request =>
    obtain ⟨⟨_, _⟩, hok, rfl⟩ := map_eq_ok.mp h
    exact StateStep.close hok

theorem stateStep_execute (t : Tables) (command : Command) :
    StateStep dep t (execute dep t command) := by
  cases h : attempt dep t command with
  | error e =>
    rw [execute_of_error dep h]
    exact .same rfl rfl rfl le_rfl
  | ok t' =>
    rw [execute_of_ok dep h]
    cases attempt_step h with
    | same hperiods hcontrols hsnapshots hnext => exact .same hperiods hcontrols hsnapshots hnext
    | opened period hid hopen hcode hperiods hcontrols hsnapshots hnext =>
      exact .opened period hid hopen hcode hperiods hcontrols hsnapshots hnext
    | locked period hperiod hperiods hcontrols hsnapshots hnext =>
      exact .locked period hperiod hperiods hcontrols hsnapshots hnext
    | closed book period control status hperiod h =>
      exact .closed book period control status hperiod { h with }

/-! ## Control rows -/

theorem controlRow?_of_controls {t t' : Tables} (h : t'.bookPeriodControls = t.bookPeriodControls)
    (bookId fiscalPeriodId : ℕ) :
    t'.controlRow? bookId fiscalPeriodId = t.controlRow? bookId fiscalPeriodId := by
  rw [Tables.controlRow?, Tables.controlRow?, h]

theorem controlRow?_isFor {t : Tables} {bookId fiscalPeriodId : ℕ} {control : BookPeriodControl}
    (h : t.controlRow? bookId fiscalPeriodId = some control) :
    control ∈ t.bookPeriodControls ∧ control.IsFor bookId fiscalPeriodId :=
  find_control_mem h

theorem controlRow?_isSome {t : Tables} {control : BookPeriodControl}
    (h : control ∈ t.bookPeriodControls) :
    ∃ row, t.controlRow? control.accountingBookId control.fiscalPeriodId = some row := by
  apply Option.isSome_iff_exists.mp
  rw [Tables.controlRow?, List.find?_isSome]
  exact ⟨control, h, by simp⟩

/-- A stored row survives the materialization of missing ones. -/
theorem controlRow?_materialized_of_row {t : Tables} {period : FiscalPeriod}
    {bookId fiscalPeriodId : ℕ} {control : BookPeriodControl}
    (h : t.controlRow? bookId fiscalPeriodId = some control) :
    (materialized dep t period).controlRow? bookId fiscalPeriodId = some control := by
  unfold Tables.controlRow? at h
  rw [Tables.controlRow?, materialized, List.find?_append, h]
  rfl

/-- A row that was not stored carries the calendar status and no evidence. -/
theorem controlRow?_materialized_of_none {t : Tables} {period : FiscalPeriod}
    {bookId fiscalPeriodId : ℕ} {control : BookPeriodControl}
    (h : (materialized dep t period).controlRow? bookId fiscalPeriodId = some control)
    (hnone : t.controlRow? bookId fiscalPeriodId = none) :
    fiscalPeriodId = period.fiscalPeriodId ∧ control.periodStatus = period.periodStatus ∧
      control.softClose = none := by
  unfold Tables.controlRow? at hnone
  rw [Tables.controlRow?, materialized, List.find?_append, hnone, Option.none_or] at h
  obtain ⟨hmem, hfor⟩ := find_control_mem h
  obtain ⟨book, -, -, -, rfl⟩ := mem_materializedControls.mp hmem
  exact ⟨hfor.2.symm, rfl, rfl⟩

/-- The row of one key after a row was changed. -/
theorem find_updateControl {controls : List BookPeriodControl}
    {f : BookPeriodControl → BookPeriodControl} (hf : KeepsKey f)
    (bookId fiscalPeriodId bookId' fiscalPeriodId' : ℕ) :
    ((updateControl bookId fiscalPeriodId f controls).find? fun control =>
      control.accountingBookId = bookId' ∧ control.fiscalPeriodId = fiscalPeriodId') =
    (controls.find? fun control =>
      control.accountingBookId = bookId' ∧ control.fiscalPeriodId = fiscalPeriodId').map
        (updateRow bookId fiscalPeriodId f) := by
  have hkeys := hf.updateRow bookId fiscalPeriodId
  rw [updateControl_eq_map, List.find?_map]
  simp only [Function.comp_def, hkeys.book, hkeys.period]

/-- The rows after a close: the closed one changed, the others did not. -/
theorem RowClosed.controlRow? {t t' : Tables} {book : AccountingBook} {period : FiscalPeriod}
    {control : BookPeriodControl} {status : PeriodStatus}
    (h : RowClosed dep t book period control status t') (bookId fiscalPeriodId : ℕ) :
    ∃ f, Closes control status f ∧ t'.controlRow? bookId fiscalPeriodId =
      ((materialized dep t period).controlRow? bookId fiscalPeriodId).map
        (updateRow book.accountingBookId period.fiscalPeriodId f) := by
  obtain ⟨f, hf, hcontrols⟩ := h.controls
  refine ⟨f, hf, ?_⟩
  rw [Tables.controlRow?, hcontrols]
  exact find_updateControl hf.key _ _ _ _

/-- A row that is not open stays as it is until it is hard-closed. -/
def ClosedRowsKept (t t' : Tables) : Prop :=
  ∀ bookId fiscalPeriodId c, t.controlRow? bookId fiscalPeriodId = some c →
    c.periodStatus ≠ .opened → t'.controlRow? bookId fiscalPeriodId = some c ∨
      ∃ c', t'.controlRow? bookId fiscalPeriodId = some c' ∧ c'.periodStatus = .hardClosed

theorem ClosedRowsKept.refl (t : Tables) : ClosedRowsKept t t := fun _ _ _ h _ => Or.inl h

theorem ClosedRowsKept.trans {t t' t'' : Tables} (h : ClosedRowsKept t t')
    (h' : ClosedRowsKept t' t'') : ClosedRowsKept t t'' := by
  intro bookId fiscalPeriodId c hc hnot
  rcases h bookId fiscalPeriodId c hc hnot with hc | ⟨c', hc', hhard⟩
  · exact h' bookId fiscalPeriodId c hc hnot
  · right
    rcases h' bookId fiscalPeriodId c' hc' (by rw [hhard]; decide) with hc'' | hc''
    · exact ⟨c', hc'', hhard⟩
    · exact hc''

theorem StateStep.closedRows {t t' : Tables} (h : StateStep dep t t') : ClosedRowsKept t t' := by
  intro bookId fiscalPeriodId c hc hnot
  cases h with
  | same _ hcontrols _ _ => exact Or.inl ((controlRow?_of_controls hcontrols _ _).trans hc)
  | opened _ _ _ _ _ hcontrols _ _ => exact Or.inl ((controlRow?_of_controls hcontrols _ _).trans hc)
  | locked period _ _ hcontrols _ _ =>
    have hm : (materialized dep t period).controlRow? bookId fiscalPeriodId = some c :=
      controlRow?_materialized_of_row hc
    exact Or.inl ((controlRow?_of_controls hcontrols _ _).trans hm)
  | closed book period control status _ hclosed =>
    have hm : (materialized dep t period).controlRow? bookId fiscalPeriodId = some c :=
      controlRow?_materialized_of_row hc
    obtain ⟨f, hf, hrows⟩ := hclosed.controlRow? bookId fiscalPeriodId
    rw [hm] at hrows
    by_cases hfor : c.IsFor book.accountingBookId period.fiscalPeriodId
    · have hkey := (controlRow?_isFor hc).2
      obtain rfl : c = control := by
        have := hclosed.locked
        rw [← hfor.1, ← hfor.2, hkey.1, hkey.2, hm] at this
        exact Option.some.inj this
      rcases hf.forward with ⟨hopen, -⟩ | ⟨-, hhard⟩
      · exact absurd hopen hnot
      · exact Or.inr ⟨_, hrows, by rw [updateRow_of_isFor hfor, hf.status_eq, hhard]⟩
    · rw [Option.map_some, updateRow_of_not hfor] at hrows
      exact Or.inl hrows

/-- What holds of rows without evidence and of every closed row holds of all rows. -/
theorem StateStep.rows {t t' : Tables} (hstep : StateStep dep t t') {P : BookPeriodControl → Prop}
    (h : ∀ c ∈ t.bookPeriodControls, P c) (hnew : ∀ c, c.softClose = none → P c)
    (hclosed : ∀ control status f, Closes control status f → ∀ c, P (f c)) :
    ∀ c ∈ t'.bookPeriodControls, P c := by
  have hmaterialized : ∀ period, ∀ c ∈ (materialized dep t period).bookPeriodControls, P c := by
    intro period c hc
    rcases List.mem_append.mp hc with hc | hc
    · exact h c hc
    · obtain ⟨_, -, -, -, rfl⟩ := mem_materializedControls.mp hc
      exact hnew _ rfl
  cases hstep with
  | same _ hcontrols _ _ =>
    rw [hcontrols]
    exact h
  | opened _ _ _ _ _ hcontrols _ _ =>
    rw [hcontrols]
    exact h
  | locked period _ _ hcontrols _ _ =>
    rw [hcontrols]
    exact hmaterialized period
  | closed book period control status _ hclose =>
    obtain ⟨f, hf, hcontrols⟩ := hclose.controls
    rw [hcontrols, updateControl_eq_map]
    intro c hc
    obtain ⟨d, hd, rfl⟩ := List.mem_map.mp hc
    by_cases hfor : d.IsFor book.accountingBookId period.fiscalPeriodId
    · rw [updateRow_of_isFor hfor]
      exact hclosed control status f hf d
    · rw [updateRow_of_not hfor]
      exact hmaterialized period d hd

/-- Evidence is recorded together with the time of the close. -/
def EvidenceDated (t : Tables) : Prop :=
  ∀ c ∈ t.bookPeriodControls, c.softClose ≠ none → c.periodClosedAt ≠ none

theorem EvidenceDated.step {t t' : Tables} (h : EvidenceDated t) (hstep : StateStep dep t t') :
    EvidenceDated t' := by
  apply hstep.rows h
  · exact fun c hnone hevidence => absurd hnone hevidence
  · exact fun control status f hf c _ => hf.dated c

/-! ## The invariant -/

def TrialBalanceSnapshot.key (snapshot : TrialBalanceSnapshot) : ℕ × ℕ :=
  (snapshot.accountingBookId, snapshot.fiscalPeriodId)

variable (dep) in
/-- The calendar is never ahead of an active book, and what is snapshotted is locked. -/
structure StatesKept (t : Tables) : Prop where
  ids : (t.fiscalPeriods.map FiscalPeriod.fiscalPeriodId).Nodup
  codes : (t.fiscalPeriods.map FiscalPeriod.periodCode).Nodup
  ids_lt : ∀ p ∈ t.fiscalPeriods, p.fiscalPeriodId < t.nextId
  owned : ∀ c ∈ t.bookPeriodControls, ∃ p ∈ t.fiscalPeriods, p.fiscalPeriodId = c.fiscalPeriodId
  calendar : ∀ p ∈ t.fiscalPeriods, ∀ c ∈ activeRows dep t.bookPeriodControls p.fiscalPeriodId,
    p.periodStatus ≤ c.periodStatus
  locked : ∀ s ∈ t.snapshots, ∃ c, t.controlRow? s.accountingBookId s.fiscalPeriodId = some c ∧
    c.periodStatus = .hardClosed
  single : (t.snapshots.map TrialBalanceSnapshot.key).Nodup

theorem statesKept_empty : StatesKept dep Tables.empty where
  ids := List.nodup_nil
  codes := List.nodup_nil
  ids_lt := nofun
  owned := nofun
  calendar := nofun
  locked := nofun
  single := List.nodup_nil

theorem StatesKept.period? {t : Tables} (h : StatesKept dep t) {p : FiscalPeriod}
    (hp : p ∈ t.fiscalPeriods) : t.period? p.fiscalPeriodId = some p :=
  find?_of_nodup_map h.ids hp

theorem StatesKept.congr {t t' : Tables} (h : StatesKept dep t)
    (hperiods : t'.fiscalPeriods = t.fiscalPeriods)
    (hcontrols : t'.bookPeriodControls = t.bookPeriodControls)
    (hsnapshots : t'.snapshots = t.snapshots) (hnext : t.nextId ≤ t'.nextId) :
    StatesKept dep t' where
  ids := hperiods ▸ h.ids
  codes := hperiods ▸ h.codes
  ids_lt p hp := (h.ids_lt p (hperiods ▸ hp)).trans_le hnext
  owned := by rw [hperiods, hcontrols]; exact h.owned
  calendar := by rw [hperiods, hcontrols]; exact h.calendar
  locked := by
    rw [hsnapshots]
    intro s hs
    rw [controlRow?_of_controls hcontrols]
    exact h.locked s hs
  single := hsnapshots ▸ h.single

/-- A period that is opened has no rows yet. -/
theorem StatesKept.opened {t t' : Tables} (h : StatesKept dep t) {period : FiscalPeriod}
    (hid : period.fiscalPeriodId = t.nextId)
    (hcode : ∀ p ∈ t.fiscalPeriods, p.periodCode ≠ period.periodCode)
    (hperiods : t'.fiscalPeriods = t.fiscalPeriods ++ [period])
    (hcontrols : t'.bookPeriodControls = t.bookPeriodControls)
    (hsnapshots : t'.snapshots = t.snapshots) (hnext : t.nextId < t'.nextId) :
    StatesKept dep t' where
  ids := by
    rw [hperiods, List.map_append]
    refine List.nodup_append.mpr ⟨h.ids, List.nodup_singleton _, ?_⟩
    intro a ha b hb hab
    obtain ⟨p, hp, rfl⟩ := List.mem_map.mp ha
    rw [List.map_singleton, List.mem_singleton] at hb
    have := h.ids_lt p hp
    omega
  codes := by
    rw [hperiods, List.map_append]
    refine List.nodup_append.mpr ⟨h.codes, List.nodup_singleton _, ?_⟩
    intro a ha b hb hab
    obtain ⟨p, hp, rfl⟩ := List.mem_map.mp ha
    rw [List.map_singleton, List.mem_singleton] at hb
    exact hcode p hp (hab.trans hb)
  ids_lt p hp := by
    rw [hperiods] at hp
    rcases List.mem_append.mp hp with hp | hp
    · exact (h.ids_lt p hp).trans hnext
    · rw [List.mem_singleton.mp hp, hid]
      exact hnext
  owned := by
    rw [hperiods, hcontrols]
    intro c hc
    obtain ⟨p, hp, hpid⟩ := h.owned c hc
    exact ⟨p, List.mem_append_left _ hp, hpid⟩
  calendar := by
    rw [hperiods, hcontrols]
    intro p hp c hc
    rcases List.mem_append.mp hp with hp | hp
    · exact h.calendar p hp c hc
    · rw [List.mem_singleton.mp hp] at hc
      obtain ⟨hmem, hcid, -⟩ := (mem_activeRows dep).mp hc
      obtain ⟨q, hq, hqid⟩ := h.owned c hmem
      have := h.ids_lt q hq
      omega
  locked := by
    rw [hsnapshots]
    intro s hs
    rw [controlRow?_of_controls hcontrols]
    exact h.locked s hs
  single := hsnapshots ▸ h.single

/-- Rows that are materialized stand at the calendar status. -/
theorem StatesKept.materialized {t : Tables} (h : StatesKept dep t) {period : FiscalPeriod}
    (hperiod : period ∈ t.fiscalPeriods) : StatesKept dep (Postgres.materialized dep t period) where
  ids := h.ids
  codes := h.codes
  ids_lt := h.ids_lt
  owned c hc := by
    rcases List.mem_append.mp hc with hc | hc
    · exact h.owned c hc
    · obtain ⟨_, -, -, -, rfl⟩ := mem_materializedControls.mp hc
      exact ⟨period, hperiod, rfl⟩
  calendar p hp c hc := by
    obtain ⟨hmem, hcid, hactive⟩ := (mem_activeRows dep).mp hc
    rcases List.mem_append.mp hmem with hmem | hmem
    · exact h.calendar p hp c ((mem_activeRows dep).mpr ⟨hmem, hcid, hactive⟩)
    · obtain ⟨_, -, -, -, rfl⟩ := mem_materializedControls.mp hmem
      rw [period_of_id h.ids hp hperiod hcid.symm]
  locked s hs := by
    obtain ⟨c, hc, hhard⟩ := h.locked s hs
    exact ⟨c, controlRow?_materialized_of_row hc, hhard⟩
  single := h.single

section Closed

variable {t t' : Tables} {book : AccountingBook} {period : FiscalPeriod}
  {control : BookPeriodControl} {status : PeriodStatus}

theorem Closes.le {f : BookPeriodControl → BookPeriodControl} (h : Closes control status f) :
    control.periodStatus ≤ status := by
  rcases h.forward with ⟨hopen, -⟩ | ⟨-, rfl⟩
  · rw [hopen]
    exact PeriodStatus.opened_le _
  · cases control.periodStatus <;> simp [PeriodStatus.le_def, PeriodStatus.rank]

theorem RowClosed.control_active (h : RowClosed dep t book period control status t') :
    control ∈ activeRows dep (Postgres.materialized dep t period).bookPeriodControls
      period.fiscalPeriodId := by
  obtain ⟨hmem, hfor⟩ := controlRow?_isFor h.locked
  exact (mem_activeRows dep).mpr ⟨hmem, hfor.2, book, h.book_mem, hfor.1.symm, h.book_current⟩

/-- The refreshed calendar status is no earlier than it was. -/
theorem RowClosed.calendar_le (h : RowClosed dep t book period control status t')
    (hk : StatesKept dep t) (hperiod : period ∈ t.fiscalPeriods) :
    period.periodStatus ≤
      aggregateStatus (activeRows dep t'.bookPeriodControls period.fiscalPeriodId) := by
  have hm := hk.materialized hperiod
  obtain ⟨f, hf, hcontrols⟩ := h.controls
  have hkeys := hf.key.updateRow book.accountingBookId period.fiscalPeriodId
  have hle : ∀ d ∈ activeRows dep (Postgres.materialized dep t period).bookPeriodControls
      period.fiscalPeriodId, period.periodStatus ≤ d.periodStatus := hm.calendar period hperiod
  rw [hcontrols, updateControl_eq_map, activeRows_map dep hkeys, le_aggregateStatus_iff]
  · intro c hc
    obtain ⟨d, hd, rfl⟩ := List.mem_map.mp hc
    by_cases hfor : d.IsFor book.accountingBookId period.fiscalPeriodId
    · rw [updateRow_of_isFor hfor, hf.status_eq]
      exact (hle control h.control_active).trans hf.le
    · rw [updateRow_of_not hfor]
      exact hle d hd
  · rw [Ne, List.map_eq_nil_iff]
    exact List.ne_nil_of_mem h.control_active

theorem refreshStatus_ids (periods : List FiscalPeriod) (fiscalPeriodId : ℕ)
    (status : PeriodStatus) (closedAt : Option Timestamp) :
    (refreshStatus periods fiscalPeriodId status closedAt).map FiscalPeriod.fiscalPeriodId =
      periods.map FiscalPeriod.fiscalPeriodId := by
  rw [refreshStatus, List.map_map]
  apply List.map_congr_left
  intro p _
  rw [Function.comp_apply]
  split <;> rfl

theorem refreshStatus_codes (periods : List FiscalPeriod) (fiscalPeriodId : ℕ)
    (status : PeriodStatus) (closedAt : Option Timestamp) :
    (refreshStatus periods fiscalPeriodId status closedAt).map FiscalPeriod.periodCode =
      periods.map FiscalPeriod.periodCode := by
  rw [refreshStatus, List.map_map]
  apply List.map_congr_left
  intro p _
  rw [Function.comp_apply]
  split <;> rfl

theorem StatesKept.closed (hk : StatesKept dep t) (hperiod : period ∈ t.fiscalPeriods)
    (h : RowClosed dep t book period control status t') : StatesKept dep t' := by
  have hm := hk.materialized hperiod
  obtain ⟨f, hf, hcontrols⟩ := h.controls
  obtain ⟨closedAt, hcalendar⟩ := h.calendar
  have hkeys := hf.key.updateRow book.accountingBookId period.fiscalPeriodId
  have hids : t'.fiscalPeriods.map FiscalPeriod.fiscalPeriodId =
      t.fiscalPeriods.map FiscalPeriod.fiscalPeriodId := by
    rw [hcalendar, refreshStatus_ids]
  have hrow : ∀ c bookId fiscalPeriodId,
      (Postgres.materialized dep t period).controlRow? bookId fiscalPeriodId = some c →
      t'.controlRow? bookId fiscalPeriodId =
        some (updateRow book.accountingBookId period.fiscalPeriodId f c) := by
    intro c bookId fiscalPeriodId hc
    rw [Tables.controlRow?, hcontrols, find_updateControl hf.key]
    exact congrArg _ hc
  have hlocked : ∀ s ∈ t.snapshots, ¬(s.accountingBookId = book.accountingBookId ∧
      s.fiscalPeriodId = period.fiscalPeriodId) ∧
      ∃ c, t'.controlRow? s.accountingBookId s.fiscalPeriodId = some c ∧
        c.periodStatus = .hardClosed := by
    intro s hs
    obtain ⟨c, hc, hhard⟩ := hm.locked s hs
    -- the closed row was not hard-closed, so it is not the row of a snapshot
    have hne : ¬(s.accountingBookId = book.accountingBookId ∧
        s.fiscalPeriodId = period.fiscalPeriodId) := by
      intro hkey
      rw [hkey.1, hkey.2, h.locked] at hc
      cases hc
      rcases hf.forward with ⟨hopen, -⟩ | ⟨hnot, -⟩
      · rw [hopen] at hhard
        cases hhard
      · exact hnot hhard
    have hfor := (controlRow?_isFor hc).2
    refine ⟨hne, c, ?_, hhard⟩
    rw [hrow c _ _ hc, updateRow_of_not]
    exact fun hclosed => hne ⟨hfor.1.symm.trans hclosed.1, hfor.2.symm.trans hclosed.2⟩
  constructor
  · rw [hids]
    exact hk.ids
  · rw [hcalendar, refreshStatus_codes]
    exact hk.codes
  · intro p hp
    rw [hcalendar] at hp
    obtain ⟨q, hq, rfl⟩ := mem_refreshStatus hp
    have hlt := (hk.ids_lt q hq).trans_le h.nextId
    split <;> exact hlt
  · intro c hc
    rw [hcontrols, updateControl_eq_map] at hc
    obtain ⟨d, hd, rfl⟩ := List.mem_map.mp hc
    obtain ⟨p, hp, hpid⟩ := hm.owned d hd
    have hmem : d.fiscalPeriodId ∈ t'.fiscalPeriods.map FiscalPeriod.fiscalPeriodId := by
      rw [hids]
      exact List.mem_map.mpr ⟨p, hp, hpid⟩
    rw [hkeys.period]
    simpa using hmem
  · intro p hp c hc
    rw [hcalendar] at hp
    obtain ⟨q, hq, rfl⟩ := mem_refreshStatus hp
    by_cases hid : q.fiscalPeriodId = period.fiscalPeriodId
    · rw [if_pos hid] at hc ⊢
      rw [hid] at hc
      exact aggregateStatus_le hc
    · rw [if_neg hid] at hc ⊢
      rw [hcontrols, updateControl_eq_map, activeRows_updateRow_ne dep hf.key hid] at hc
      exact hm.calendar q hq c hc
  · rcases h.snapshots with ⟨-, hsnapshots⟩ | ⟨hstatus, s, hsb, hsp, hsnapshots⟩
    · rw [hsnapshots]
      exact fun s hs => (hlocked s hs).2
    · rw [hsnapshots]
      intro s' hs'
      rcases List.mem_append.mp hs' with hs' | hs'
      · exact (hlocked s' hs').2
      · rw [List.mem_singleton.mp hs', hsb, hsp]
        exact ⟨_, hrow control _ _ h.locked, by
          rw [updateRow_of_isFor (controlRow?_isFor h.locked).2, hf.status_eq, hstatus]⟩
  · rcases h.snapshots with ⟨-, hsnapshots⟩ | ⟨-, s, hsb, hsp, hsnapshots⟩
    · rw [hsnapshots]
      exact hk.single
    · rw [hsnapshots, List.map_append]
      refine List.nodup_append.mpr ⟨hk.single, List.nodup_singleton _, ?_⟩
      intro a ha b hb hab
      obtain ⟨s', hs', rfl⟩ := List.mem_map.mp ha
      rw [List.map_singleton, List.mem_singleton] at hb
      rw [hb, TrialBalanceSnapshot.key, TrialBalanceSnapshot.key, Prod.mk.injEq, hsb, hsp] at hab
      exact (hlocked s' hs').1 hab

end Closed

theorem StatesKept.step {t t' : Tables} (h : StatesKept dep t) (hstep : StateStep dep t t') :
    StatesKept dep t' := by
  cases hstep with
  | same hperiods hcontrols hsnapshots hnext => exact h.congr hperiods hcontrols hsnapshots hnext
  | opened period hid _ hcode hperiods hcontrols hsnapshots hnext =>
    exact h.opened hid hcode hperiods hcontrols hsnapshots hnext
  | locked period hperiod hperiods hcontrols hsnapshots hnext =>
    exact (h.materialized hperiod).congr hperiods hcontrols hsnapshots hnext
  | closed book period control status hperiod hclosed => exact h.closed hperiod hclosed

/-! ## Forward only -/

/-- Every state is where it was or later, and recorded evidence is still there. -/
structure Forward (t t' : Tables) : Prop where
  state : ∀ {bookId fiscalPeriodId status}, periodState t bookId fiscalPeriodId = some status →
    ∃ status', periodState t' bookId fiscalPeriodId = some status' ∧ status ≤ status'
  evidence : ∀ {bookId fiscalPeriodId e}, recordedEvidence t bookId fiscalPeriodId = some e →
    recordedEvidence t' bookId fiscalPeriodId = some e

theorem Forward.refl (t : Tables) : Forward t t := ⟨fun h => ⟨_, h, le_rfl⟩, fun h => h⟩

theorem Forward.trans {t t' t'' : Tables} (h : Forward t t') (h' : Forward t' t'') :
    Forward t t'' where
  state hs := by
    obtain ⟨s', hs', hle⟩ := h.state hs
    obtain ⟨s'', hs'', hle'⟩ := h'.state hs'
    exact ⟨s'', hs'', hle.trans hle'⟩
  evidence he := h'.evidence (h.evidence he)

theorem periodState_eq_some {t : Tables} {bookId fiscalPeriodId : ℕ} {status : PeriodStatus} :
    periodState t bookId fiscalPeriodId = some status ↔
      ∃ p, t.period? fiscalPeriodId = some p ∧ t.bookPeriodStatus bookId p = status :=
  Option.map_eq_some_iff

theorem forward_of_same {t t' : Tables} (hperiods : t'.fiscalPeriods = t.fiscalPeriods)
    (hcontrols : t'.bookPeriodControls = t.bookPeriodControls) : Forward t t' where
  state {bookId fiscalPeriodId status} hs := by
    refine ⟨status, ?_, le_rfl⟩
    rw [periodState, Tables.period?] at hs ⊢
    rw [hperiods, ← hs]
    refine congrArg (Option.map · _) (funext fun p => ?_)
    simp only [Tables.bookPeriodStatus, hcontrols]
  evidence he := by
    rw [recordedEvidence, controlRow?_of_controls hcontrols]
    exact he

theorem forward_of_opened {t t' : Tables} {period : FiscalPeriod}
    (hperiods : t'.fiscalPeriods = t.fiscalPeriods ++ [period])
    (hcontrols : t'.bookPeriodControls = t.bookPeriodControls) : Forward t t' where
  state {bookId fiscalPeriodId status} hs := by
    obtain ⟨p, hp, hstatus⟩ := periodState_eq_some.mp hs
    refine ⟨status, periodState_eq_some.mpr ⟨p, ?_, ?_⟩, le_rfl⟩
    · unfold Tables.period? at hp ⊢
      rw [hperiods, List.find?_append, hp]
      rfl
    · rw [← hstatus]
      simp only [Tables.bookPeriodStatus, hcontrols]
  evidence he := by
    rw [recordedEvidence, controlRow?_of_controls hcontrols]
    exact he

/-- Materializing rows changes no state. -/
theorem bookPeriodStatus_materialized {t : Tables} (h : StatesKept dep t) {period p : FiscalPeriod}
    (hperiod : period ∈ t.fiscalPeriods) (hp : p ∈ t.fiscalPeriods) (bookId : ℕ) :
    (materialized dep t period).bookPeriodStatus bookId p = t.bookPeriodStatus bookId p := by
  cases hrow : t.controlRow? bookId p.fiscalPeriodId with
  | some c =>
    rw [bookPeriodStatus_of_row hrow,
      bookPeriodStatus_of_row (controlRow?_materialized_of_row hrow)]
  | none =>
    rw [bookPeriodStatus_of_none hrow]
    cases hrow' : (materialized dep t period).controlRow? bookId p.fiscalPeriodId with
    | none => exact bookPeriodStatus_of_none hrow'
    | some c =>
      obtain ⟨hid, hstatus, -⟩ := controlRow?_materialized_of_none hrow' hrow
      rw [bookPeriodStatus_of_row hrow', hstatus, period_of_id h.ids hp hperiod hid]

theorem StatesKept.forward_materialized {t : Tables} (h : StatesKept dep t) {period : FiscalPeriod}
    (hperiod : period ∈ t.fiscalPeriods) : Forward t (Postgres.materialized dep t period) where
  state {bookId fiscalPeriodId status} hs := by
    obtain ⟨p, hp, hstatus⟩ := periodState_eq_some.mp hs
    refine ⟨status, periodState_eq_some.mpr ⟨p, hp, ?_⟩, le_rfl⟩
    rw [bookPeriodStatus_materialized h hperiod (period?_mem hp).1]
    exact hstatus
  evidence {bookId fiscalPeriodId e} he := by
    rw [recordedEvidence, Option.bind_eq_some_iff] at he ⊢
    obtain ⟨c, hc, he⟩ := he
    exact ⟨c, controlRow?_materialized_of_row hc, he⟩

theorem period?_refreshStatus {t t' : Tables} {fiscalPeriodId : ℕ} {status : PeriodStatus}
    {closedAt : Option Timestamp}
    (h : t'.fiscalPeriods = refreshStatus t.fiscalPeriods fiscalPeriodId status closedAt)
    {id : ℕ} {p : FiscalPeriod} (hp : t.period? id = some p) :
    t'.period? id = some (if p.fiscalPeriodId = fiscalPeriodId then
      { p with periodStatus := status, periodClosedAt := closedAt } else p) := by
  unfold Tables.period? at hp ⊢
  have hkey : (fun q : FiscalPeriod => decide ((if q.fiscalPeriodId = fiscalPeriodId then
      { q with periodStatus := status, periodClosedAt := closedAt } else q).fiscalPeriodId = id)) =
      fun q => decide (q.fiscalPeriodId = id) := by
    funext q
    split <;> rfl
  rw [h, refreshStatus, List.find?_map, Function.comp_def, hkey, hp]
  rfl

/-- A close moves the state of its book, and of books that follow the calendar. -/
theorem StatesKept.forward_closed {t t' : Tables} {book : AccountingBook} {period : FiscalPeriod}
    {control : BookPeriodControl} {status : PeriodStatus} (hk : StatesKept dep t)
    (hperiod : period ∈ t.fiscalPeriods) (h : RowClosed dep t book period control status t') :
    Forward t t' := by
  refine (hk.forward_materialized hperiod).trans ⟨?_, ?_⟩
  · intro bookId fiscalPeriodId s hs
    obtain ⟨p, hp, hstatus⟩ := periodState_eq_some.mp hs
    obtain ⟨closedAt, hcalendar⟩ := h.calendar
    have hp' := period?_refreshStatus hcalendar hp
    refine ⟨_, periodState_eq_some.mpr ⟨_, hp', rfl⟩, ?_⟩
    obtain ⟨hpmem, hpid⟩ := period?_mem hp
    have hid : ∀ q : FiscalPeriod, (if q.fiscalPeriodId = period.fiscalPeriodId then
        { q with
          periodStatus := aggregateStatus (activeRows dep t'.bookPeriodControls period.fiscalPeriodId)
          periodClosedAt := closedAt } else q).fiscalPeriodId = q.fiscalPeriodId := by
      intro q
      split <;> rfl
    obtain ⟨f, hf, hrows⟩ := h.controlRow? bookId p.fiscalPeriodId
    cases hrow : (Postgres.materialized dep t period).controlRow? bookId p.fiscalPeriodId with
    | some c =>
      rw [hrow] at hrows
      rw [bookPeriodStatus_of_row hrow] at hstatus
      rw [bookPeriodStatus_of_row (by rw [hid]; exact hrows), ← hstatus]
      by_cases hfor : c.IsFor book.accountingBookId period.fiscalPeriodId
      · have hrow' := (controlRow?_isFor hrow).2
        obtain rfl : c = control := by
          have := h.locked
          rw [← hfor.1, ← hfor.2, hrow'.1, hrow'.2, hrow] at this
          exact Option.some.inj this
        rw [updateRow_of_isFor hfor, hf.status_eq]
        exact hf.le
      · rw [updateRow_of_not hfor]
    | none =>
      rw [hrow] at hrows
      rw [bookPeriodStatus_of_none hrow] at hstatus
      rw [bookPeriodStatus_of_none (by rw [hid]; exact hrows), ← hstatus]
      split
      · next hsame =>
        rw [period_of_id hk.ids hpmem hperiod hsame]
        exact h.calendar_le hk hperiod
      · exact le_rfl
  · intro bookId fiscalPeriodId e he
    obtain ⟨f, hf, hrows⟩ := h.controlRow? bookId fiscalPeriodId
    rw [recordedEvidence, Option.bind_eq_some_iff] at he ⊢
    obtain ⟨c, hc, he⟩ := he
    rw [hrows, hc]
    refine ⟨_, rfl, ?_⟩
    by_cases hfor : c.IsFor book.accountingBookId period.fiscalPeriodId
    · have hrow' := (controlRow?_isFor hc).2
      obtain rfl : c = control := by
        have := h.locked
        rw [← hfor.1, ← hfor.2, hrow'.1, hrow'.2, hc] at this
        exact Option.some.inj this
      rw [updateRow_of_isFor hfor]
      exact hf.evidence e he
    · rw [updateRow_of_not hfor]
      exact he

theorem StatesKept.forward {t t' : Tables} (h : StatesKept dep t) (hstep : StateStep dep t t') :
    Forward t t' := by
  cases hstep with
  | same hperiods hcontrols _ _ => exact forward_of_same hperiods hcontrols
  | opened period _ _ _ hperiods hcontrols _ _ => exact forward_of_opened hperiods hcontrols
  | locked period hperiod hperiods hcontrols _ _ =>
    exact (h.forward_materialized hperiod).trans (forward_of_same hperiods hcontrols)
  | closed book period control status hperiod hclosed => exact h.forward_closed hperiod hclosed

end AccountingPlatform.Postgres
