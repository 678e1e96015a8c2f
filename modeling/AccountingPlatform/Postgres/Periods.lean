/-
  Fiscal periods: resolution by date, opening, and the close state of one book.
-/
import AccountingPlatform.Core.CalendarDate
import AccountingPlatform.Postgres.Tables

namespace AccountingPlatform.Postgres

open AccountingPlatform.Lib AccountingPlatform.Core

variable (dep : Deployment)

/-! ## Resolution -/

def periodsCovering (t : Tables) (date : Date) : List FiscalPeriod :=
  t.fiscalPeriods.filter fun period => period.periodStartDate ≤ date ∧ date ≤ period.periodEndDate

def noPeriodCovers (date : Date) : LedgerError :=
  .validation ("No fiscal period covers accounting date " ++ isoformat date ++ ". " ++
    "Create an open fiscal period on the tenant calendar, then retry posting.")

def lockedMarker (status : PeriodStatus) : String :=
  if status = .hardClosed then " (period_closed)" else ""

/-- `_require_open_book_period_bounds`; the row is read again after the lock. -/
def requireOpenBookPeriodBounds (t : Tables) (bookId : ℕ) (accountingDate : Date) :
    Result FiscalPeriod := do
  let candidate ← fetch (dep.fetchone (periodsCovering t accountingDate)) (noPeriodCovers accountingDate)
  let period ← fetch (t.period? candidate.fiscalPeriodId) (noPeriodCovers accountingDate)
  let status := t.bookPeriodStatus bookId period
  require (status = .opened)
    (.validation ("Fiscal period " ++ period.periodCode ++ " is " ++ status.code ++
      lockedMarker status ++ ". " ++
      "Open that period or post into an open period for this accounting book; " ++
      "no journal was written."))
  pure period

/-- `_require_adjusting_period_bounds`: by the calendar status, whatever the book. -/
def requireAdjustingPeriodBounds (t : Tables) (accountingDate : Date) : Result FiscalPeriod := do
  let candidate ← fetch (dep.fetchone (periodsCovering t accountingDate)) (noPeriodCovers accountingDate)
  let period ← fetch (t.period? candidate.fiscalPeriodId) (noPeriodCovers accountingDate)
  require (period.periodStatus ≠ .hardClosed)
    (.validation ("Fiscal period " ++ period.periodCode ++ " is " ++ period.periodStatus.code ++
      lockedMarker period.periodStatus ++ ". Reverse into an open or soft-closed period; " ++
      "no journal was written."))
  pure period

/-- The period row of a code. -/
def periodByCode (t : Tables) (periodCode : String) : Option FiscalPeriod :=
  dep.fetchone (t.fiscalPeriods.filter fun period => period.periodCode = periodCode)

/-- `_require_fiscal_period`. -/
def requireFiscalPeriod (t : Tables) (periodCode nextAction : String) : Result FiscalPeriod :=
  fetch (periodByCode dep t periodCode)
    (.validation ("Fiscal period " ++ periodCode ++ " is not recorded for this tenant. " ++
      "Create the fiscal_period row, then retry " ++ nextAction ++ "."))

/-! ## Opening -/

structure PeriodOpenRequest where
  legalEntityReference : String
  periodCode : String
  periodStartDate : Option Date
  periodEndDate : Option Date
  idempotencyKey : String
  sourcePayloadHash : String

/-- `_period_open_document`. -/
structure PeriodOpenDocument where
  tenantReference : String
  legalEntityReference : String
  periodCode : String
  periodStartDate : Date
  periodEndDate : Date
  replayed : Bool
  deriving DecidableEq

/-- The period a fresh command opens: the stored row of the code, or a new one. -/
def openPeriodRow (t : Tables) (request : PeriodOpenRequest) : Result (FiscalPeriod × Tables) :=
  match periodByCode dep t request.periodCode with
  | some existing => do
    require (existing.periodStatus = .opened)
      (.validation ("Fiscal period " ++ request.periodCode ++ " is " ++
        existing.periodStatus.code ++ ". " ++
        "Closed periods cannot be reopened. Open a later period, then retry the period open."))
    require ((request.periodStartDate.all fun start => start = existing.periodStartDate) = true ∧
        (request.periodEndDate.all fun finish => finish = existing.periodEndDate) = true)
      (.validation ("period-open dates do not match the already-open fiscal period. " ++
        "Supply its existing dates or omit both dates, then retry."))
    pure (existing, t)
  | none =>
    match request.periodStartDate, request.periodEndDate with
    | some start, some finish =>
      if hdates : start ≤ finish then do
        let calendar ← dep.requireTenantCalendar
        let period : FiscalPeriod :=
          ⟨t.nextId, calendar.fiscalCalendarId, request.periodCode, start, finish, .opened, none, hdates⟩
        pure (period, { t with
          fiscalPeriods := t.fiscalPeriods ++ [period]
          nextId := t.nextId + 1 })
      else
        .error (.validation ("period_end_date must be on or after period_start_date. " ++
          "Supply a valid date range, then retry the period open."))
    | _, _ =>
      .error (.validation ("period_start_date and period_end_date are required. " ++
        "Supply those fiscal_period dates, then retry the period open."))

/-- The CHECK on the requested dates of an open command. -/
def requestedDatesValid (start finish : Option Date) : Prop :=
  match start, finish with
  | none, none => True
  | some start, some finish => start ≤ finish
  | _, _ => False

instance decRequestedDatesValid : ∀ start finish, Decidable (requestedDatesValid start finish)
  | none, none => isTrue trivial
  | some start, some finish => inferInstanceAs (Decidable (start ≤ finish))
  | none, some _ => isFalse id
  | some _, none => isFalse id

/-- The evidence row of a command. -/
def PeriodOpenRequest.commandRow (request : PeriodOpenRequest) (legalEntityId fiscalPeriodId : ℕ) :
    PeriodOpenCommand where
  legalEntityId := legalEntityId
  fiscalPeriodId := fiscalPeriodId
  periodOpenIdempotencyKey := strip request.idempotencyKey
  sourcePayloadHash := request.sourcePayloadHash
  requestedPeriodStartDate := request.periodStartDate
  requestedPeriodEndDate := request.periodEndDate

def periodOpenKeyConflict : LedgerError :=
  .idempotencyConflict "period-open idempotency key was already used with a different payload"

/-- `open_fiscal_period`. -/
def openFiscalPeriod (t : Tables) (request : PeriodOpenRequest) :
    Result (PeriodOpenDocument × Tables) := do
  require (request.legalEntityReference ≠ "" ∧ request.periodCode ≠ "")
    (.validation ("legal_entity_reference and fiscal_period_reference are required. " ++
      "Supply those period-open fields, then retry the period open."))
  let commandKey := strip request.idempotencyKey
  require (commandKey ≠ "" ∧ commandKey = request.idempotencyKey)
    (.validation ("period-open idempotency_key must be a canonical non-empty string. " ++
      "Supply the original command key, then retry the period open."))
  require (matchesHash request.sourcePayloadHash = true)
    (.validation ("period-open source_payload_hash must be a canonical sha256 digest. " ++
      "Supply the immutable command hash, then retry the period open."))
  let entity ← dep.loadLegalEntity request.legalEntityReference "the period open"
  let document (period : FiscalPeriod) (replayed : Bool) : PeriodOpenDocument :=
    ⟨dep.catalog.tenantReference, request.legalEntityReference, request.periodCode,
      period.periodStartDate, period.periodEndDate, replayed⟩
  match t.periodOpenCommands.find? fun command => command.periodOpenIdempotencyKey = commandKey with
  | some prior => do
    let period ← fetch (t.period? prior.fiscalPeriodId) .missingRow
    require (prior.legalEntityId = entity.legalEntityId ∧ period.periodCode = request.periodCode ∧
        prior.requestedPeriodStartDate = request.periodStartDate ∧
        prior.requestedPeriodEndDate = request.periodEndDate ∧
        prior.sourcePayloadHash = request.sourcePayloadHash) periodOpenKeyConflict
    pure (document period true, t)
  | none => do
    let opened ← openPeriodRow dep t request
    require (requestedDatesValid request.periodStartDate request.periodEndDate) checkViolation
    let command := request.commandRow entity.legalEntityId opened.1.fiscalPeriodId
    pure (document opened.1 (periodByCode dep t request.periodCode).isSome,
      { opened.2 with periodOpenCommands := opened.2.periodOpenCommands ++ [command] })

/-! ## Close state of a book -/

/-- Control rows for the active books that have none yet, with the calendar's state. -/
def materializedControls (t : Tables) (period : FiscalPeriod) : List BookPeriodControl :=
  ((dep.catalog.books.filter AccountingBook.isCurrent).filter fun book =>
      ¬∃ control ∈ t.bookPeriodControls, control.accountingBookId = book.accountingBookId ∧
        control.fiscalPeriodId = period.fiscalPeriodId).map fun book =>
    ⟨book.accountingBookId, period.fiscalPeriodId, period.periodStatus, period.periodClosedAt, none⟩

/-- `_lock_book_period`. -/
def lockBookPeriod (t : Tables) (bookId : ℕ) (periodCode : String) :
    Result (FiscalPeriod × BookPeriodControl × Tables) := do
  let period ← requireFiscalPeriod dep t periodCode "the close"
  let t := { t with bookPeriodControls := t.bookPeriodControls ++ materializedControls dep t period }
  let control ← fetch (t.bookPeriodControls.find? fun control =>
      control.accountingBookId = bookId ∧ control.fiscalPeriodId = period.fiscalPeriodId)
    (.validation ("Fiscal period " ++ periodCode ++ " has no control row for this accounting book. " ++
      "Repair the fiscal-period control data for this book, then retry the close."))
  pure (period, control, t)

/-- Change the control row of one book and period. -/
def updateControl (bookId fiscalPeriodId : ℕ) (f : BookPeriodControl → BookPeriodControl)
    (controls : List BookPeriodControl) : List BookPeriodControl :=
  controls.map fun control =>
    if control.accountingBookId = bookId ∧ control.fiscalPeriodId = fiscalPeriodId then f control
    else control

/-- Control rows of a period that belong to active books. -/
def activeControls (t : Tables) (fiscalPeriodId : ℕ) : List BookPeriodControl :=
  t.bookPeriodControls.filter fun control =>
    control.fiscalPeriodId = fiscalPeriodId ∧
      ∃ book ∈ dep.catalog.books, book.accountingBookId = control.accountingBookId ∧ book.isCurrent

/-- The calendar status that the active books aggregate to. -/
def aggregateStatus (controls : List BookPeriodControl) : PeriodStatus :=
  if controls = [] then .opened
  else if controls.all fun control => control.periodStatus = .hardClosed then .hardClosed
  else if controls.all fun control => control.periodStatus ≠ .opened then .softClosed
  else .opened

/-- `max(period_closed_at)`. -/
def latestClosedAt (controls : List BookPeriodControl) : Option Timestamp :=
  (controls.filterMap BookPeriodControl.periodClosedAt).max?

/-- `_set_book_period_closed`: close one book, then refresh the calendar row. -/
def setBookPeriodClosed (t : Tables) (bookId fiscalPeriodId : ℕ) (status : PeriodStatus) : Tables :=
  let close (control : BookPeriodControl) : BookPeriodControl :=
    { control with periodStatus := status, periodClosedAt := some t.clock }
  let t := { t with
    bookPeriodControls := updateControl bookId fiscalPeriodId close t.bookPeriodControls }
  let controls := activeControls dep t fiscalPeriodId
  let aggregate := aggregateStatus controls
  let aggregateClosedAt := if aggregate = .opened then none else latestClosedAt controls
  { t with fiscalPeriods := t.fiscalPeriods.map fun period =>
      if period.fiscalPeriodId = fiscalPeriodId then
        { period with periodStatus := aggregate, periodClosedAt := aggregateClosedAt }
      else period }

/-! ## What these can do -/

theorem periodsCovering_mem {t : Tables} {date : Date} {period : FiscalPeriod}
    (h : period ∈ periodsCovering t date) :
    period ∈ t.fiscalPeriods ∧ period.periodStartDate ≤ date ∧ date ≤ period.periodEndDate := by
  simpa [periodsCovering] using h

theorem periodByCode_mem {t : Tables} {code : String} {period : FiscalPeriod}
    (h : periodByCode dep t code = some period) :
    period ∈ t.fiscalPeriods ∧ period.periodCode = code := by
  simpa using dep.fetchone_mem h

theorem period?_mem {t : Tables} {id : ℕ} {period : FiscalPeriod} (h : t.period? id = some period) :
    period ∈ t.fiscalPeriods ∧ period.fiscalPeriodId = id :=
  ⟨List.mem_of_find?_eq_some h, by simpa using List.find?_some h⟩

/-- Opening adds at most a period and records the command. -/
theorem openFiscalPeriod_ok {t t' : Tables} {request : PeriodOpenRequest}
    {document : PeriodOpenDocument} (h : openFiscalPeriod dep t request = .ok (document, t')) :
    t' = t ∨ ∃ command : PeriodOpenCommand,
      (t' = { t with periodOpenCommands := t.periodOpenCommands ++ [command] } ∨
      ∃ period : FiscalPeriod, period.fiscalPeriodId = t.nextId ∧ period.periodStatus = .opened ∧
        periodByCode dep t period.periodCode = none ∧
        t' = { t with
          fiscalPeriods := t.fiscalPeriods ++ [period]
          nextId := t.nextId + 1
          periodOpenCommands := t.periodOpenCommands ++ [command] }) := by
  simp only [openFiscalPeriod, bind_eq_ok] at h
  obtain ⟨-, -, -, -, -, -, entity, -, h⟩ := h
  split at h
  · simp only [bind_eq_ok, pure_eq_ok, Prod.mk.injEq] at h
    obtain ⟨-, -, -, -, -, rfl⟩ := h
    exact Or.inl rfl
  · simp only [bind_eq_ok, pure_eq_ok, Prod.mk.injEq] at h
    obtain ⟨opened, hopened, -, -, -, rfl⟩ := h
    refine Or.inr ⟨request.commandRow entity.legalEntityId opened.1.fiscalPeriodId, ?_⟩
    unfold openPeriodRow at hopened
    split at hopened
    · simp only [bind_eq_ok, pure_eq_ok] at hopened
      obtain ⟨-, -, -, -, rfl⟩ := hopened
      exact Or.inl rfl
    · next hnone =>
      split at hopened
      · split at hopened
        · simp only [bind_eq_ok, pure_eq_ok] at hopened
          obtain ⟨calendar, -, rfl⟩ := hopened
          exact Or.inr ⟨_, rfl, rfl, hnone, rfl⟩
        · cases hopened
      · cases hopened

theorem lockBookPeriod_ok {t t' : Tables} {bookId : ℕ} {code : String} {period : FiscalPeriod}
    {control : BookPeriodControl}
    (h : lockBookPeriod dep t bookId code = .ok (period, control, t')) :
    periodByCode dep t code = some period ∧
    t' = { t with bookPeriodControls := t.bookPeriodControls ++ materializedControls dep t period } ∧
    (t'.bookPeriodControls.find? fun control =>
      control.accountingBookId = bookId ∧ control.fiscalPeriodId = period.fiscalPeriodId) =
      some control := by
  simp only [lockBookPeriod, requireFiscalPeriod, bind_eq_ok, fetch_eq_ok, pure_eq_ok,
    Prod.mk.injEq] at h
  obtain ⟨period', hperiod, control', hcontrol, rfl, rfl, rfl⟩ := h
  exact ⟨hperiod, rfl, hcontrol⟩

theorem requireOpenBookPeriodBounds_ok {t : Tables} {bookId : ℕ} {date : Date}
    {period : FiscalPeriod} (h : requireOpenBookPeriodBounds dep t bookId date = .ok period) :
    t.period? period.fiscalPeriodId = some period ∧ t.bookPeriodStatus bookId period = .opened ∧
      ∃ candidate ∈ t.fiscalPeriods, candidate.fiscalPeriodId = period.fiscalPeriodId ∧
        candidate.periodStartDate ≤ date ∧ date ≤ candidate.periodEndDate := by
  simp only [requireOpenBookPeriodBounds, bind_eq_ok, fetch_eq_ok, require_eq_ok, pure_eq_ok] at h
  obtain ⟨candidate, hcandidate, period', hperiod, -, hopen, rfl⟩ := h
  obtain ⟨hmem, hle, hge⟩ := periodsCovering_mem (dep.fetchone_mem hcandidate)
  have hid := (period?_mem hperiod).2
  rw [← hid] at hperiod
  exact ⟨hperiod, hopen, candidate, hmem, hid.symm, hle, hge⟩

theorem requireAdjustingPeriodBounds_ok {t : Tables} {date : Date} {period : FiscalPeriod}
    (h : requireAdjustingPeriodBounds dep t date = .ok period) :
    t.period? period.fiscalPeriodId = some period ∧ period.periodStatus ≠ .hardClosed ∧
      ∃ candidate ∈ t.fiscalPeriods, candidate.fiscalPeriodId = period.fiscalPeriodId ∧
        candidate.periodStartDate ≤ date ∧ date ≤ candidate.periodEndDate := by
  simp only [requireAdjustingPeriodBounds, bind_eq_ok, fetch_eq_ok, require_eq_ok, pure_eq_ok] at h
  obtain ⟨candidate, hcandidate, period', hperiod, -, hopen, rfl⟩ := h
  obtain ⟨hmem, hle, hge⟩ := periodsCovering_mem (dep.fetchone_mem hcandidate)
  have hid := (period?_mem hperiod).2
  rw [← hid] at hperiod
  exact ⟨hperiod, hopen, candidate, hmem, hid.symm, hle, hge⟩

end AccountingPlatform.Postgres
