/-
  Runs of commands between which books are created and retired.

  The state machine of the periods over such runs: states move forward only, journals stop at a
  hard close and all but a few at a soft close, a hard close leaves one snapshot. The calendar
  row is refreshed when a control row is closed, not when a close is replayed.
-/
import AccountingPlatform.Postgres.BookReads
import AccountingPlatform.Postgres.PeriodStates

namespace AccountingPlatform.Postgres

open AccountingPlatform.Lib AccountingPlatform.Core

variable {dep : Deployment}

/-! ## The calendar -/

variable (dep) in
/-- Every calendar row shows the aggregate of the active rows there are. -/
def Aggregated (t : Tables) : Prop :=
  ∀ p ∈ t.fiscalPeriods,
    p.periodStatus = aggregateStatus (activeRows dep t.bookPeriodControls p.fiscalPeriodId)

theorem activeRows_append (controls added : List BookPeriodControl) (fiscalPeriodId : ℕ) :
    activeRows dep (controls ++ added) fiscalPeriodId =
      activeRows dep controls fiscalPeriodId ++ activeRows dep added fiscalPeriodId :=
  List.filter_append _ _

theorem Aggregated.materialized {t : Tables} (h : Aggregated dep t) (hk : StatesKept dep t)
    {period : FiscalPeriod} (hperiod : period ∈ t.fiscalPeriods) :
    Aggregated dep (Postgres.materialized dep t period) := by
  intro p hp
  have hadded : ∀ c ∈ activeRows dep (materializedControls dep t period) p.fiscalPeriodId,
      c.periodStatus = aggregateStatus (activeRows dep t.bookPeriodControls p.fiscalPeriodId) := by
    intro c hc
    obtain ⟨hmem, hcid, -⟩ := (mem_activeRows dep).mp hc
    obtain ⟨_, -, -, -, rfl⟩ := mem_materializedControls.mp hmem
    rw [← h p hp, period_of_id hk.ids hp hperiod hcid.symm]
  show _ = aggregateStatus (activeRows dep (t.bookPeriodControls ++
    materializedControls dep t period) p.fiscalPeriodId)
  rw [activeRows_append, aggregateStatus_append hadded]
  exact h p hp

/-- A refreshed row shows the aggregate, whatever the other rows show. -/
theorem RowClosed.aggregated {t t' : Tables} {book : AccountingBook} {period : FiscalPeriod}
    {control : BookPeriodControl} {status : PeriodStatus}
    (h : RowClosed dep t book period control status t') {p : FiscalPeriod}
    (hp : p ∈ t'.fiscalPeriods) (hid : p.fiscalPeriodId = period.fiscalPeriodId) :
    p.periodStatus = aggregateStatus (activeRows dep t'.bookPeriodControls p.fiscalPeriodId) := by
  obtain ⟨closedAt, hcalendar⟩ := h.calendar
  rw [hcalendar] at hp
  obtain ⟨q, -, rfl⟩ := mem_refreshStatus hp
  split at hid
  · next hq =>
    rw [if_pos hq]
    simp only [hq]
  · next hq => exact absurd hid hq

theorem Aggregated.step {t t' : Tables} (h : Aggregated dep t) (hk : StatesKept dep t)
    (hstep : StateStep dep t t') : Aggregated dep t' := by
  cases hstep with
  | same hperiods hcontrols _ _ =>
    unfold Aggregated
    rw [hperiods, hcontrols]
    exact h
  | opened period hid hopen _ hperiods hcontrols _ _ =>
    unfold Aggregated
    rw [hperiods, hcontrols]
    intro p hp
    rcases List.mem_append.mp hp with hp | hp
    · exact h p hp
    · have hnone : activeRows dep t.bookPeriodControls p.fiscalPeriodId = [] := by
        rw [List.eq_nil_iff_forall_not_mem]
        intro c hc
        obtain ⟨hmem, hcid, -⟩ := (mem_activeRows dep).mp hc
        obtain ⟨q, hq, hqid⟩ := hk.owned c hmem
        have := hk.ids_lt q hq
        rw [List.mem_singleton.mp hp] at hcid
        omega
      rw [hnone, List.mem_singleton.mp hp, hopen]
      rfl
  | locked period hperiod hperiods hcontrols _ _ =>
    unfold Aggregated
    rw [hperiods, hcontrols]
    exact h.materialized hk hperiod
  | closed book period control status hperiod hclosed =>
    intro p hp
    by_cases hid : p.fiscalPeriodId = period.fiscalPeriodId
    · exact hclosed.aggregated hp hid
    · obtain ⟨f, hf, hcontrols⟩ := hclosed.controls
      obtain ⟨closedAt, hcalendar⟩ := hclosed.calendar
      rw [hcalendar] at hp
      obtain ⟨q, hq, rfl⟩ := mem_refreshStatus hp
      split at hid
      · next hqid => exact absurd hqid hid
      · next hqid =>
        rw [if_neg hqid, hcontrols, updateControl_eq_map,
          activeRows_updateRow_ne dep hf.key hqid]
        exact h.materialized hk hperiod q hq

variable (dep) in
/-- The calendar row against the control rows of the active books. -/
structure CalendarAggregates (t : Tables) (p : FiscalPeriod) : Prop where
  rows : ∀ book ∈ dep.catalog.books, book.isCurrent = true →
    ∃ c ∈ activeControls dep t p.fiscalPeriodId, c.accountingBookId = book.accountingBookId
  hardClosed : p.periodStatus = .hardClosed ↔
    ∀ c ∈ activeControls dep t p.fiscalPeriodId, c.periodStatus = .hardClosed
  softClosed : p.periodStatus = .softClosed ↔
    (∀ c ∈ activeControls dep t p.fiscalPeriodId, c.periodStatus ≠ .opened) ∧
      ¬∀ c ∈ activeControls dep t p.fiscalPeriodId, c.periodStatus = .hardClosed
  opened : p.periodStatus = .opened ↔
    ∃ c ∈ activeControls dep t p.fiscalPeriodId, c.periodStatus = .opened

theorem calendarAggregates_of {t : Tables} {p : FiscalPeriod}
    (hrows : ∀ book ∈ dep.catalog.books, book.isCurrent = true →
      ∃ c ∈ t.bookPeriodControls, c.IsFor book.accountingBookId p.fiscalPeriodId)
    (hne : activeControls dep t p.fiscalPeriodId ≠ [])
    (hstatus : p.periodStatus = aggregateStatus (activeControls dep t p.fiscalPeriodId)) :
    CalendarAggregates dep t p := by
  have hhard : p.periodStatus = .hardClosed ↔
      ∀ c ∈ activeControls dep t p.fiscalPeriodId, c.periodStatus = .hardClosed := by
    rw [← PeriodStatus.hardClosed_le, hstatus, le_aggregateStatus_iff hne]
    simp only [PeriodStatus.hardClosed_le]
  have hsoft : p.periodStatus ≠ .opened ↔
      ∀ c ∈ activeControls dep t p.fiscalPeriodId, c.periodStatus ≠ .opened := by
    rw [← PeriodStatus.softClosed_le, hstatus, le_aggregateStatus_iff hne]
    simp only [PeriodStatus.softClosed_le]
  constructor
  · intro book hbook hcurrent
    obtain ⟨c, hc, hfor⟩ := hrows book hbook hcurrent
    exact ⟨c, (mem_activeRows dep).mpr ⟨hc, hfor.2, book, hbook, hfor.1.symm, hcurrent⟩, hfor.1⟩
  · exact hhard
  · rw [← hhard, ← hsoft]
    cases p.periodStatus <;> simp
  · rw [← not_iff_not, ← Ne, hsoft]
    simp only [Ne, not_exists, not_and]

/-- After `_lock_book_period` every active book has its row. -/
theorem materialized_rows (t : Tables) (period : FiscalPeriod) {book : AccountingBook}
    (hbook : book ∈ dep.catalog.books) (hcurrent : book.isCurrent = true) :
    ∃ c ∈ (materialized dep t period).bookPeriodControls,
      c.IsFor book.accountingBookId period.fiscalPeriodId := by
  by_cases hex : ∃ c ∈ t.bookPeriodControls, c.IsFor book.accountingBookId period.fiscalPeriodId
  · obtain ⟨c, hc, hfor⟩ := hex
    exact ⟨c, List.mem_append_left _ hc, hfor⟩
  · exact ⟨_, List.mem_append_right _ (mem_materializedControls.mpr
      ⟨book, hbook, hcurrent, fun d hd hfor => hex ⟨d, hd, hfor⟩, rfl⟩), rfl, rfl⟩

/-- A close that closed a row leaves the calendar row at the aggregate. -/
theorem RowClosed.calendarAggregates {t t' : Tables} {book : AccountingBook} {period p : FiscalPeriod}
    {control : BookPeriodControl} {status : PeriodStatus}
    (h : RowClosed dep t book period control status t') (hp : p ∈ t'.fiscalPeriods)
    (hid : p.fiscalPeriodId = period.fiscalPeriodId) : CalendarAggregates dep t' p := by
  obtain ⟨f, hf, hcontrols⟩ := h.controls
  have hkeys := hf.key.updateRow book.accountingBookId period.fiscalPeriodId
  refine calendarAggregates_of (fun b hb hcurrent => ?_) ?_ (h.aggregated hp hid)
  · obtain ⟨c, hc, hfor⟩ := materialized_rows t period hb hcurrent
    rw [hcontrols, updateControl_eq_map, hid]
    exact ⟨_, List.mem_map.mpr ⟨c, hc, rfl⟩, (hkeys.book c).trans hfor.1,
      (hkeys.period c).trans hfor.2⟩
  · rw [activeControls_eq, hcontrols, updateControl_eq_map, activeRows_map dep hkeys, hid, Ne,
      List.map_eq_nil_iff]
    exact List.ne_nil_of_mem h.control_active

/-! ## Journals -/

/-- The journals a soft-closed period still admits: closing, adjusting, reversal. -/
def AdmittedAfterSoftClose (t' : Tables) (journal : GeneralJournal) : Command → Prop
  | .postAdjustingJournal _ => True
  | .reverse _ _ => ∃ lineage ∈ t'.reversals, lineage.reversalJournalId = journal.generalJournalId
  | .closeFiscalPeriod request => journal.journalReference = closingReference request
  | _ => False

/-- A journal went into a state that admits it. -/
def Guarded (t t' : Tables) (command : Command) (journal : GeneralJournal) : Prop :=
  ∃ status, periodState t journal.accountingBookId journal.fiscalPeriodId = some status ∧
    status ≠ .hardClosed ∧ (status = .softClosed → AdmittedAfterSoftClose t' journal command)

/-- The journals a command adds, all of them guarded. -/
def JournalsGuarded (t t' : Tables) (command : Command) : Prop :=
  ∃ added, t'.journals = t.journals ++ added ∧ ∀ journal ∈ added, Guarded t t' command journal

theorem journalsGuarded_of_same {t t' : Tables} {command : Command}
    (h : t'.journals = t.journals) : JournalsGuarded t t' command :=
  ⟨[], by rw [h, List.append_nil], nofun⟩

theorem RecordedJournal.periodState {t t' : Tables} {record : NewProposalRecord}
    {new : ℕ → NewJournal} {journal : GeneralJournal}
    (h : RecordedJournal dep t record new journal t') :
    ∃ status, periodState t journal.accountingBookId journal.fiscalPeriodId = some status ∧
      status ≠ .hardClosed ∧ ((new t.nextId).writeRole = .ordinary → status = .opened) := by
  obtain ⟨period, hperiod, hnot, hordinary⟩ := guardPeriodInsert_ok h.inserted.guarded
  refine ⟨_, periodState_eq_some.mpr ⟨period, ?_, rfl⟩, ?_, ?_⟩
  · rw [h.inserted.row]
    exact hperiod
  · rw [h.inserted.row]
    exact hnot
  · rw [h.inserted.row]
    exact hordinary

theorem RecordedJournal.guarded {t t₁ t' : Tables} {record : NewProposalRecord}
    {new : ℕ → NewJournal} {journal : GeneralJournal} {command : Command}
    (h : RecordedJournal dep t record new journal t₁) (hjournals : t'.journals = t₁.journals)
    (hadmitted : (new t.nextId).writeRole = .ordinary ∨
      AdmittedAfterSoftClose t' journal command) : JournalsGuarded t t' command := by
  refine ⟨[journal], by rw [hjournals, h.inserted.tables], fun j hj => ?_⟩
  rw [List.mem_singleton.mp hj]
  obtain ⟨status, hstatus, hnot, hordinary⟩ := h.periodState
  refine ⟨status, hstatus, hnot, fun hsoft => ?_⟩
  rcases hadmitted with hrole | hadmitted
  · rw [hordinary hrole] at hsoft
    cases hsoft
  · exact hadmitted

theorem writePosting_guarded {t t' : Tables} {record : NewProposalRecord} {new : ℕ → NewJournal}
    {receipt : PostingReceipt} {command : Command}
    (h : writePosting dep t record new receipt = .ok t')
    (hadmitted : (new t.nextId).writeRole = .ordinary ∨
      ∀ journal, AdmittedAfterSoftClose t' journal command) : JournalsGuarded t t' command := by
  obtain ⟨journal, t₁, hrecorded, rfl⟩ := writePosting_ok dep h
  exact hrecorded.guarded rfl (hadmitted.imp id fun h => h journal)

theorem persistProposal_guarded {t t' : Tables} {proposal : JournalProposal}
    {suppliedPolicy : Option AccountingPolicy} {receipt : PostingReceipt} {command : Command}
    (h : persistProposal dep t proposal suppliedPolicy = .ok (receipt, t')) :
    JournalsGuarded t t' command := by
  rcases persistProposal_ok dep h with ⟨-, -, -, -, rfl⟩ | ⟨-, hfresh⟩
  · exact journalsGuarded_of_same rfl
  · obtain ⟨_, _, _, _, _, -, -, hwrite⟩ := persistFreshProposal_ok dep hfresh
    exact writePosting_guarded hwrite (Or.inl rfl)

theorem reverse_guarded {t t' : Tables} {request : PostingLedger.ReversalRequest}
    {policy : AccountingPolicy} {receipt : PostingReceipt}
    (h : reverse dep t request policy = .ok (receipt, t')) :
    JournalsGuarded t t' (.reverse request policy) := by
  rcases reverse_ok dep h with ⟨_, -, -, rfl⟩ | ⟨_, _, _, journal, _, -, -, hrecorded, -, -, rfl⟩
  · exact journalsGuarded_of_same rfl
  · exact hrecorded.guarded rfl
      (Or.inr ⟨_, List.mem_append_right _ (List.mem_singleton.mpr rfl), rfl⟩)

theorem StatesKept.periodState_materialized {t : Tables} (h : StatesKept dep t)
    {period : FiscalPeriod} (hperiod : period ∈ t.fiscalPeriods) (bookId fiscalPeriodId : ℕ) :
    periodState (Postgres.materialized dep t period) bookId fiscalPeriodId =
      periodState t bookId fiscalPeriodId := by
  unfold periodState
  show (t.period? fiscalPeriodId).map _ = (t.period? fiscalPeriodId).map _
  cases hp : t.period? fiscalPeriodId with
  | none => rfl
  | some p =>
    exact congrArg some (bookPeriodStatus_materialized h hperiod (period?_mem hp).1 bookId)

theorem closeFiscalPeriod_guarded {t t' : Tables} (hk : StatesKept dep t) {request : CloseRequest}
    {receipt : PeriodCloseReceipt} (h : closeFiscalPeriod dep t request = .ok (receipt, t')) :
    JournalsGuarded t t' (.closeFiscalPeriod request) := by
  obtain ⟨entity, book, period, control, t₁, hlocked, houtcome⟩ := closeFiscalPeriod_ok dep h
  obtain ⟨hperiod, rfl, -⟩ := lockBookPeriod_ok dep hlocked.lock
  have hmem := (periodByCode_mem dep hperiod).1
  rcases houtcome with ⟨-, rfl⟩ | ⟨-, -, hsoft⟩ | ⟨-, -, -, hhard⟩
  · exact journalsGuarded_of_same rfl
  · obtain ⟨_, _, rfl⟩ := persistSoftClose_ok dep hsoft
    exact journalsGuarded_of_same rfl
  · obtain ⟨posted, t₂, hposted, -, snapshotId, payloadHash, rfl⟩ := persistPeriodClose_ok dep hhard
    rcases postClosingJournal_ok dep hposted with ⟨-, -, rfl⟩ | ⟨policy, journal, -, -, hrecorded⟩
    · exact journalsGuarded_of_same rfl
    · have hguarded : JournalsGuarded (materialized dep t period) (insertPeriodCloseEvent dep
          (setBookPeriodClosed dep (withSnapshot dep t₂ request entity book period)
            book.accountingBookId period.fiscalPeriodId .hardClosed) request snapshotId payloadHash)
          (.closeFiscalPeriod request) :=
        hrecorded.guarded rfl (Or.inr (by rw [hrecorded.inserted.row]; rfl))
      obtain ⟨added, hadded, hguarded⟩ := hguarded
      refine ⟨added, hadded, fun j hj => ?_⟩
      obtain ⟨status, hstatus, hrest⟩ := hguarded j hj
      exact ⟨status, (hk.periodState_materialized hmem _ _).symm.trans hstatus, hrest⟩

theorem execute_guarded {t : Tables} (hk : StatesKept dep t) (command : Command) :
    JournalsGuarded t (execute dep t command) command := by
  cases h : attempt dep t command with
  | error e =>
    rw [execute_of_error dep h]
    exact journalsGuarded_of_same rfl
  | ok t' =>
    rw [execute_of_ok dep h]
    show JournalsGuarded t t' command
    cases command with
    | openFiscalPeriod request =>
      obtain ⟨⟨_, _⟩, hok, rfl⟩ := map_eq_ok.mp h
      rcases openFiscalPeriod_ok dep hok with hsame | ⟨_, hsame | ⟨_, -, -, -, hsame⟩⟩
      all_goals exact journalsGuarded_of_same (by rw [hsame])
    | post proposal policy =>
      obtain ⟨⟨_, _⟩, hok, rfl⟩ := map_eq_ok.mp h
      exact persistProposal_guarded hok
    | postProposal proposal =>
      obtain ⟨⟨_, _⟩, hok, rfl⟩ := map_eq_ok.mp h
      exact persistProposal_guarded hok
    | postAdjustingJournal request =>
      rcases postAdjustingJournal_ok dep h with ⟨_, -, rfl⟩ | ⟨-, -, _, _, _, _, -, hwrite⟩
      · exact journalsGuarded_of_same rfl
      · exact writePosting_guarded hwrite (Or.inr fun _ => trivial)
    | reverse request policy =>
      obtain ⟨⟨_, _⟩, hok, rfl⟩ := map_eq_ok.mp h
      exact reverse_guarded hok
    | closeFiscalPeriod request =>
      obtain ⟨⟨_, _⟩, hok, rfl⟩ := map_eq_ok.mp h
      exact closeFiscalPeriod_guarded hk hok

/-! ## Snapshots -/

theorem StateStep.snapshots {t t' : Tables} (h : StateStep dep t t') :
    t.snapshots <+: t'.snapshots := by
  cases h with
  | same _ _ hsnapshots _ => exact hsnapshots ▸ List.prefix_refl _
  | opened _ _ _ _ _ _ hsnapshots _ => exact hsnapshots ▸ List.prefix_refl _
  | locked _ _ _ _ hsnapshots _ => exact hsnapshots ▸ List.prefix_refl _
  | closed _ _ _ _ _ hclosed =>
    rcases hclosed.snapshots with ⟨-, hsnapshots⟩ | ⟨-, _, -, -, hsnapshots⟩
    · exact hsnapshots ▸ List.prefix_refl _
    · exact hsnapshots ▸ List.prefix_append _ _

/-- A row that is hard-closed by this step has one snapshot in the later tables. -/
def HardCloseSnapshotted (t t' later : Tables) : Prop :=
  ∀ bookId fiscalPeriodId control, t'.controlRow? bookId fiscalPeriodId = some control →
    control.periodStatus = .hardClosed →
    periodState t bookId fiscalPeriodId ≠ some .hardClosed →
      (later.snapshots.map TrialBalanceSnapshot.key).count (bookId, fiscalPeriodId) = 1

theorem StatesKept.periodState_of_row {t : Tables} (h : StatesKept dep t)
    {bookId fiscalPeriodId : ℕ} {control : BookPeriodControl}
    (hrow : t.controlRow? bookId fiscalPeriodId = some control) :
    periodState t bookId fiscalPeriodId = some control.periodStatus := by
  obtain ⟨hmem, hfor⟩ := controlRow?_isFor hrow
  obtain ⟨p, hp, hpid⟩ := h.owned control hmem
  have hid := hpid.trans hfor.2
  subst hid
  exact periodState_eq_some.mpr ⟨p, h.period? hp, bookPeriodStatus_of_row hrow⟩

/-- Only the row a hard close closed turns hard-closed, and its snapshot was just taken. -/
theorem StatesKept.hardClose_key {t t' : Tables} (h : StatesKept dep t)
    (hstep : StateStep dep t t') {bookId fiscalPeriodId : ℕ} {control : BookPeriodControl}
    (hrow : t'.controlRow? bookId fiscalPeriodId = some control)
    (hhard : control.periodStatus = .hardClosed)
    (hbefore : periodState t bookId fiscalPeriodId ≠ some .hardClosed) :
    (bookId, fiscalPeriodId) ∈ t'.snapshots.map TrialBalanceSnapshot.key := by
  have hsame : t'.bookPeriodControls = t.bookPeriodControls → False := by
    intro hcontrols
    rw [controlRow?_of_controls hcontrols] at hrow
    exact hbefore (hhard ▸ h.periodState_of_row hrow)
  have hlocked : ∀ period ∈ t.fiscalPeriods, ∀ c,
      (Postgres.materialized dep t period).controlRow? bookId fiscalPeriodId = some c →
        c.periodStatus ≠ .hardClosed := by
    intro period hperiod c hc hhard
    have hstate := (h.materialized hperiod).periodState_of_row hc
    rw [h.periodState_materialized hperiod, hhard] at hstate
    exact hbefore hstate
  cases hstep with
  | same _ hcontrols _ _ => exact (hsame hcontrols).elim
  | opened _ _ _ _ _ hcontrols _ _ => exact (hsame hcontrols).elim
  | locked period hperiod _ hcontrols _ _ =>
    have hrow' : (Postgres.materialized dep t period).controlRow? bookId fiscalPeriodId =
        some control := (controlRow?_of_controls hcontrols _ _).symm.trans hrow
    exact absurd hhard (hlocked period hperiod control hrow')
  | closed book period locked status hperiod hclosed =>
    obtain ⟨f, hf, hrows⟩ := hclosed.controlRow? bookId fiscalPeriodId
    rw [hrow, eq_comm, Option.map_eq_some_iff] at hrows
    obtain ⟨c, hc, rfl⟩ := hrows
    by_cases hfor : c.IsFor book.accountingBookId period.fiscalPeriodId
    · rw [updateRow_of_isFor hfor, hf.status_eq] at hhard
      have hkey := (controlRow?_isFor hc).2
      rcases hclosed.snapshots with ⟨hsoft, -⟩ | ⟨-, s, hsb, hsp, hsnapshots⟩
      · rw [hsoft] at hhard
        cases hhard
      · refine List.mem_map.mpr ⟨s, ?_, ?_⟩
        · rw [hsnapshots]
          exact List.mem_append_right _ (List.mem_singleton.mpr rfl)
        · rw [TrialBalanceSnapshot.key, hsb, hsp, ← hfor.1, ← hfor.2, hkey.1, hkey.2]
    · rw [updateRow_of_not hfor] at hhard
      exact absurd hhard (hlocked period hperiod c hc)

/-! ## Runs -/

/-- The tables and the deployment commands currently run on. -/
structure Ledger where
  deployment : Deployment
  tables : Tables

inductive Event
  | command (command : Command)
  | catalogChanged (deployment : Deployment)

def Ledger.next (ledger : Ledger) : Event → Ledger
  | .command command => { ledger with tables := execute ledger.deployment ledger.tables command }
  | .catalogChanged deployment => { ledger with deployment := deployment }

/-- Books may be created, and retired for good: one that is active now was active before or has
    no control row. -/
def Ledger.Admits (ledger : Ledger) : Event → Prop
  | .command _ => True
  | .catalogChanged deployment =>
    ∀ book ∈ deployment.catalog.books, book.isCurrent = true →
      (∃ former ∈ ledger.deployment.catalog.books,
        former.accountingBookId = book.accountingBookId ∧ former.isCurrent = true) ∨
      ∀ c ∈ ledger.tables.bookPeriodControls, c.accountingBookId ≠ book.accountingBookId

/-- No active book is retired. -/
def Ledger.RetiresNone (ledger : Ledger) : Event → Prop
  | .command _ => True
  | .catalogChanged deployment =>
    ∀ former ∈ ledger.deployment.catalog.books, former.isCurrent = true →
      ∃ book ∈ deployment.catalog.books,
        book.accountingBookId = former.accountingBookId ∧ book.isCurrent = true

def Ledger.provisioned (deployment : Deployment) : Ledger := ⟨deployment, Tables.empty⟩

/-- The ledger after a run from empty tables. -/
def ledgerOf (start : Deployment) (events : List Event) : Ledger :=
  run Ledger.next (Ledger.provisioned start) events

def Ledger.Kept (ledger : Ledger) : Prop := StatesKept ledger.deployment ledger.tables

/-- Rows of books that are active now were rows of active books before. -/
theorem mem_activeRows_of_admits {ledger : Ledger} {deployment : Deployment}
    (hadmits : ledger.Admits (.catalogChanged deployment)) {fiscalPeriodId : ℕ}
    {c : BookPeriodControl}
    (hc : c ∈ activeRows deployment ledger.tables.bookPeriodControls fiscalPeriodId) :
    c ∈ activeRows ledger.deployment ledger.tables.bookPeriodControls fiscalPeriodId := by
  obtain ⟨hmem, hid, book, hbook, hbid, hcurrent⟩ := (mem_activeRows deployment).mp hc
  rcases hadmits book hbook hcurrent with ⟨former, hformer, hfid, hfcurrent⟩ | hnew
  · exact (mem_activeRows _).mpr ⟨hmem, hid, former, hformer, hfid.trans hbid, hfcurrent⟩
  · exact absurd hbid.symm (hnew c hmem)

theorem Ledger.Kept.next {ledger : Ledger} {event : Event} (hadmits : ledger.Admits event)
    (h : ledger.Kept) : (ledger.next event).Kept := by
  cases event with
  | command command => exact StatesKept.step h (stateStep_execute ledger.tables command)
  | catalogChanged deployment =>
    exact { h with
      calendar := fun p hp c hc => h.calendar p hp c (mem_activeRows_of_admits hadmits hc) }

theorem Ledger.Kept.forward {ledger : Ledger} (h : ledger.Kept) (event : Event) :
    Forward ledger.tables (ledger.next event).tables ∧
      ledger.tables.snapshots <+: (ledger.next event).tables.snapshots := by
  cases event with
  | command command =>
    have hstep : StateStep ledger.deployment ledger.tables
        (execute ledger.deployment ledger.tables command) := stateStep_execute _ command
    exact ⟨StatesKept.forward h hstep, hstep.snapshots⟩
  | catalogChanged deployment => exact ⟨Forward.refl _, List.prefix_refl _⟩

/-- From one point of a run to a later one. -/
theorem forward_of_admittedRun {ledger : Ledger} {events : List Event}
    (hrun : AdmittedRun Ledger.next Ledger.Admits ledger events) (h : ledger.Kept) :
    Forward ledger.tables (run Ledger.next ledger events).tables ∧
      ledger.tables.snapshots <+: (run Ledger.next ledger events).tables.snapshots := by
  induction hrun with
  | nil ledger => exact ⟨Forward.refl _, List.prefix_refl _⟩
  | cons hadmits _ ih =>
    obtain ⟨hforward, hsnapshots⟩ := h.forward _
    obtain ⟨hforward', hsnapshots'⟩ := ih (h.next hadmits)
    exact ⟨hforward.trans hforward', hsnapshots.trans hsnapshots'⟩

/-- When no book is retired either, the active rows are the same ones. -/
theorem activeRows_of_admits {ledger : Ledger} {deployment : Deployment}
    (hadmits : ledger.Admits (.catalogChanged deployment))
    (hretires : ledger.RetiresNone (.catalogChanged deployment)) (fiscalPeriodId : ℕ) :
    activeRows deployment ledger.tables.bookPeriodControls fiscalPeriodId =
      activeRows ledger.deployment ledger.tables.bookPeriodControls fiscalPeriodId := by
  apply List.filter_congr
  intro c hc
  apply decide_eq_decide.mpr
  constructor
  · rintro ⟨hid, hactive⟩
    have := mem_activeRows_of_admits hadmits ((mem_activeRows deployment).mpr ⟨hc, hid, hactive⟩)
    exact ((mem_activeRows _).mp this).2
  · rintro ⟨hid, former, hformer, hfid, hcurrent⟩
    obtain ⟨book, hbook, hbid, hbcurrent⟩ := hretires former hformer hcurrent
    exact ⟨hid, book, hbook, hbid.trans hfid, hbcurrent⟩

theorem Ledger.Kept.aggregated {ledger : Ledger} {events : List Event} (h : ledger.Kept)
    (hrun : AdmittedRun Ledger.next Ledger.Admits ledger events)
    (hretires : AdmittedRun Ledger.next Ledger.RetiresNone ledger events)
    (hagg : Aggregated ledger.deployment ledger.tables) :
    Aggregated (run Ledger.next ledger events).deployment (run Ledger.next ledger events).tables := by
  induction hrun with
  | nil ledger => exact hagg
  | @cons ledger event events hadmits _ ih =>
    cases hretires with
    | cons hnone hrest =>
      refine ih (h.next hadmits) hrest ?_
      cases event with
      | command command => exact hagg.step h (stateStep_execute ledger.tables command)
      | catalogChanged deployment =>
        intro p hp
        show _ = aggregateStatus (activeRows deployment ledger.tables.bookPeriodControls _)
        rw [activeRows_of_admits hadmits hnone]
        exact hagg p hp

/-- An answered close that counts leaves the calendar row at the aggregate. -/
def ClosesAggregate (ledger : Ledger) (request : CloseRequest)
    (Counts : PeriodCloseReceipt → Prop) : Prop :=
  ∀ receipt t', closeFiscalPeriod ledger.deployment ledger.tables request = .ok (receipt, t') →
    Counts receipt → ∀ p ∈ t'.fiscalPeriods, p.periodCode = request.periodCode →
      CalendarAggregates ledger.deployment t' p

theorem Ledger.Kept.closesAggregate {ledger : Ledger} (h : ledger.Kept) (request : CloseRequest)
    {Settled : Prop} (hsettled : Settled → Aggregated ledger.deployment ledger.tables) :
    ClosesAggregate ledger request fun receipt => receipt.replayed = false ∨ Settled := by
  intro receipt t' hok hcounts p hp hcode
  obtain ⟨period, hperiod, houtcome⟩ := closeFiscalPeriod_step hok
  obtain ⟨hmem, hpcode⟩ := periodByCode_mem _ hperiod
  have hkept' : StatesKept ledger.deployment t' := StatesKept.step h (StateStep.close hok)
  rcases houtcome with ⟨hreplayed, rfl⟩ | ⟨book, control, status, hclosed⟩
  · have hsettled' : Settled := by
      rcases hcounts with hfresh | hsettled'
      · rw [hreplayed] at hfresh
        cases hfresh
      · exact hsettled'
    obtain rfl : p = period :=
      List.inj_on_of_nodup_map h.codes hp hmem (hcode.trans hpcode.symm)
    have hrows : ∀ book ∈ ledger.deployment.catalog.books, book.isCurrent = true →
        ∃ c ∈ (materialized ledger.deployment ledger.tables p).bookPeriodControls,
          c.IsFor book.accountingBookId p.fiscalPeriodId :=
      fun book hbook hcurrent => materialized_rows _ _ hbook hcurrent
    obtain ⟨entity, book, _, control, _, hlocked, -⟩ := closeFiscalPeriod_ok _ hok
    obtain ⟨-, -, hbook, -, -, hcurrent⟩ := Deployment.loadScope_ok _ hlocked.scope
    obtain ⟨c, hc, hfor⟩ := hrows book hbook hcurrent
    refine calendarAggregates_of hrows (List.ne_nil_of_mem (a := c) ?_)
      ((hsettled hsettled').materialized h hmem p hp)
    exact (mem_activeRows _).mpr ⟨hc, hfor.2, book, hbook, hfor.1.symm, hcurrent⟩
  · obtain ⟨closedAt, hcalendar⟩ := hclosed.calendar
    refine hclosed.calendarAggregates hp ?_
    rw [hcalendar] at hp
    obtain ⟨q, hq, rfl⟩ := mem_refreshStatus hp
    have hqcode : q.periodCode = request.periodCode := by
      split at hcode <;> exact hcode
    obtain rfl : q = period :=
      List.inj_on_of_nodup_map h.codes hq hmem (hqcode.trans hpcode.symm)
    rw [if_pos rfl]

/-- The state machine of the periods, over every run from empty tables. -/
theorem periodStates_of_run {start : Deployment} {events : List Event}
    (hrun : AdmittedRun Ledger.next Ledger.Admits (Ledger.provisioned start) events) :
    (∀ before, before <+: events →
      Forward (ledgerOf start before).tables (ledgerOf start events).tables) ∧
    ∀ before command, before ++ [.command command] <+: events →
      JournalsGuarded (ledgerOf start before).tables
        (ledgerOf start (before ++ [.command command])).tables command ∧
      HardCloseSnapshotted (ledgerOf start before).tables
        (ledgerOf start (before ++ [.command command])).tables (ledgerOf start events).tables ∧
      ∀ request, command = .closeFiscalPeriod request →
        ClosesAggregate (ledgerOf start before) request fun receipt => receipt.replayed = false ∨
          AdmittedRun Ledger.next Ledger.RetiresNone (Ledger.provisioned start) before := by
  have hempty : (Ledger.provisioned start).Kept := statesKept_empty
  have hinitial : ∀ before, before <+: events →
      AdmittedRun Ledger.next Ledger.Admits (Ledger.provisioned start) before ∧
      (ledgerOf start before).Kept ∧
      Forward (ledgerOf start before).tables (ledgerOf start events).tables ∧
      (ledgerOf start before).tables.snapshots <+: (ledgerOf start events).tables.snapshots := by
    rintro before ⟨later, rfl⟩
    obtain ⟨hbefore, hlater⟩ := admittedRun_append_iff.mp hrun
    have hkept : (ledgerOf start before).Kept :=
      admittedRun_invariant (fun _ _ hadmits h => h.next hadmits) hbefore hempty
    refine ⟨hbefore, hkept, ?_⟩
    unfold ledgerOf
    rw [run_append]
    exact forward_of_admittedRun hlater hkept
  refine ⟨fun before hbefore => (hinitial before hbefore).2.2.1, fun before command hcommand => ?_⟩
  obtain ⟨hbefore, hkept, -, -⟩ := hinitial before ((List.prefix_append _ _).trans hcommand)
  obtain ⟨-, -, -, hsnapshots⟩ := hinitial _ hcommand
  have hstep : (ledgerOf start (before ++ [.command command])).tables =
      execute (ledgerOf start before).deployment (ledgerOf start before).tables command :=
    congrArg Ledger.tables (run_concat Ledger.next (Ledger.provisioned start) before _)
  rw [hstep] at hsnapshots ⊢
  refine ⟨execute_guarded hkept command, ?_, ?_⟩
  · intro bookId fiscalPeriodId control hrow hhard hnot
    apply List.count_eq_one_of_mem (hinitial events (List.prefix_refl _)).2.1.single
    have hmem := StatesKept.hardClose_key hkept (stateStep_execute _ command) hrow hhard hnot
    exact (hsnapshots.map _).subset hmem
  · rintro request -
    refine hkept.closesAggregate request fun hretires => ?_
    exact hempty.aggregated hbefore hretires nofun

/-! ## A retired book -/

/-- The second book of `twinCatalog`, retired. -/
def retiredCatalog : Catalog where
  tenantReference := "urn:cwl:tenant:t1"
  legalEntities := [sampleEntity]
  books := [sampleBook, { managementBook with isCurrent := false }]
  chartAccounts := sampleAccounts 1 ++ sampleAccounts 2
  roleMappings := sampleMappings 1 ++ sampleMappings 2
  calendars := [⟨1, "main"⟩]
  legalEntity_key := sampleCatalog.legalEntity_key
  book_key := twinCatalog.book_key
  chartAccount_key := twinCatalog.chartAccount_key
  book_entity := by decide

/-- January, hard-closed for the first book while the second is open; then the second book is
    retired. -/
def siblingRetired : List Event := [
  .command (samplePeriod "2024-01" "open-1" 738886 738916),
  .command (sampleClose "urn:cwl:book:b1" "2024-01" "hard_closed"),
  .catalogChanged (sampleDeployment retiredCatalog)]

theorem siblingRetired_admitted :
    AdmittedRun Ledger.next Ledger.Admits (Ledger.provisioned (sampleDeployment twinCatalog))
      siblingRetired := by
  refine .cons trivial (.cons trivial (.cons ?_ (.nil _)))
  intro book hbook hcurrent
  refine Or.inl ⟨sampleBook, List.mem_cons_self, ?_, rfl⟩
  rcases List.mem_cons.mp hbook with rfl | hbook
  · rfl
  · rw [List.mem_singleton.mp hbook] at hcurrent
    cases hcurrent

theorem siblingRetired_states :
    Forward (ledgerOf (sampleDeployment twinCatalog) (siblingRetired.take 1)).tables
      (ledgerOf (sampleDeployment twinCatalog) siblingRetired).tables ∧
    HardCloseSnapshotted (ledgerOf (sampleDeployment twinCatalog) (siblingRetired.take 1)).tables
      (ledgerOf (sampleDeployment twinCatalog) (siblingRetired.take 2)).tables
      (ledgerOf (sampleDeployment twinCatalog) siblingRetired).tables :=
  ⟨(periodStates_of_run siblingRetired_admitted).1 _ (List.take_prefix 1 _),
    ((periodStates_of_run siblingRetired_admitted).2 (siblingRetired.take 1)
      (sampleClose "urn:cwl:book:b1" "2024-01" "hard_closed")
      (List.take_prefix 2 siblingRetired)).2.1⟩

/-- The replayed close leaves January open though the only active book has hard-closed it. -/
theorem replayedClose_keeps_calendar :
    AdmittedRun Ledger.next Ledger.Admits (Ledger.provisioned (sampleDeployment twinCatalog))
      siblingRetired ∧
    ¬ClosesAggregate (ledgerOf (sampleDeployment twinCatalog) siblingRetired)
      ⟨"urn:cwl:legal_entity:e1", "urn:cwl:book:b1", "2024-01", "KRW", "hard_closed", ""⟩
      fun _ => True := by
  refine ⟨siblingRetired_admitted, fun h => ?_⟩
  have hclose : (closeFiscalPeriod (sampleDeployment retiredCatalog)
      (ledgerOf (sampleDeployment twinCatalog) siblingRetired).tables
      ⟨"urn:cwl:legal_entity:e1", "urn:cwl:book:b1", "2024-01", "KRW", "hard_closed", ""⟩).map
        (fun answer => answer.2.fiscalPeriods.map fun p => (p.periodCode, p.periodStatus,
          (activeControls (sampleDeployment retiredCatalog) answer.2 p.fiscalPeriodId).map
            BookPeriodControl.periodStatus)) =
      .ok [("2024-01", .opened, [.hardClosed])] := by
    decide +kernel
  obtain ⟨⟨receipt, t'⟩, hok, hrows⟩ := map_eq_ok.mp hclose
  have hmem := List.mem_singleton_self (a := ("2024-01", PeriodStatus.opened, [PeriodStatus.hardClosed]))
  rw [← hrows] at hmem
  obtain ⟨p, hp, hshown⟩ := List.mem_map.mp hmem
  simp only [Prod.mk.injEq] at hshown
  obtain ⟨hcode, hopen, hactive⟩ := hshown
  have hhard := (h receipt t' hok trivial p hp hcode).hardClosed.mpr (fun c hc => by
    have hstatus : c.periodStatus ∈ (activeControls (sampleDeployment retiredCatalog) t'
        p.fiscalPeriodId).map BookPeriodControl.periodStatus := List.mem_map_of_mem hc
    rw [hactive] at hstatus
    exact List.mem_singleton.mp hstatus)
  rw [hopen] at hhard
  cases hhard

end AccountingPlatform.Postgres
