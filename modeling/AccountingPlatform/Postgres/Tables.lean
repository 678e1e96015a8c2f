/-
  The transactional tables of one tenant and the inserts the commands make.

  An insert checks what the column types, constraints and triggers of the migrations check and
  returns the tables with the new row. Lines and source references are part of their journal
  row: once the receipt exists the database admits no further ones.
-/
import AccountingPlatform.Postgres.Catalog

namespace AccountingPlatform.Postgres

open AccountingPlatform.Lib AccountingPlatform.Core

/-! ## Rows -/

inductive PeriodStatus
  | opened | softClosed | hardClosed
  deriving DecidableEq, Repr

/-- `period_status_code`. -/
def PeriodStatus.code : PeriodStatus → String
  | .opened => "open"
  | .softClosed => "soft_closed"
  | .hardClosed => "hard_closed"

structure FiscalPeriod where
  fiscalPeriodId : ℕ
  fiscalCalendarId : ℕ
  periodCode : String
  periodStartDate : Date
  periodEndDate : Date
  periodStatus : PeriodStatus
  periodClosedAt : Option Timestamp
  dates_ordered : periodStartDate ≤ periodEndDate
  deriving DecidableEq

structure SoftCloseEvidence where
  idempotencyKey : String
  sourcePayloadHash : String
  sourceJournalCount : ℕ
  deriving DecidableEq

structure BookPeriodControl where
  accountingBookId : ℕ
  fiscalPeriodId : ℕ
  periodStatus : PeriodStatus
  periodClosedAt : Option Timestamp
  softClose : Option SoftCloseEvidence
  deriving DecidableEq

/-- `external_proposal_id`: the UUID of a proposal, or one the database generated. -/
inductive ExternalProposalId
  | supplied (canonical : String)
  | generated (n : ℕ)
  deriving DecidableEq

structure ProposalRecord where
  proposalRecordId : ℕ
  externalProposalId : ExternalProposalId
  idempotencyKey : String
  sourcePayloadHash : String
  deriving DecidableEq

structure JournalEntryLine where
  lineNumber : ℕ
  chartAccountId : ℕ
  accountRoleCode : String
  debitAmount : ℕ
  creditAmount : ℕ
  deriving DecidableEq

structure GeneralJournal where
  generalJournalId : ℕ
  legalEntityId : ℕ
  accountingBookId : ℕ
  fiscalPeriodId : ℕ
  journalReference : String
  transactionCurrencyCode : String
  functionalCurrencyCode : String
  transactionDate : Date
  accountingDate : Date
  sourceProposalRecordId : ℕ
  accountingPolicyVersion : String
  postingRuleVersion : String
  postedAt : Timestamp
  lines : List JournalEntryLine
  sourceReferences : List String
  deriving DecidableEq

structure JournalReversal where
  originalJournalId : ℕ
  reversalJournalId : ℕ
  reversalReasonCode : String
  deriving DecidableEq

structure PostingReceiptRow where
  proposalRecordId : ℕ
  generalJournalId : ℕ
  receiptStatusCode : String
  receiptPayloadHash : String
  deriving DecidableEq

structure OutboxEvent where
  eventTypeCode : String
  aggregateReference : String
  payloadReference : String
  payloadHash : String
  deriving DecidableEq

structure TrialBalanceLine where
  chartAccountId : ℕ
  debitTotalAmount : ℕ
  creditTotalAmount : ℕ
  netBalanceAmount : ℤ
  deriving DecidableEq

structure TrialBalanceSnapshot where
  trialBalanceSnapshotId : ℕ
  legalEntityId : ℕ
  accountingBookId : ℕ
  fiscalPeriodId : ℕ
  snapshotCurrencyCode : String
  snapshotGeneratedAt : Timestamp
  sourceJournalCount : ℕ
  sourcePayloadHash : String
  closeIdempotencyKey : String
  lines : List TrialBalanceLine
  deriving DecidableEq

structure PeriodOpenCommand where
  legalEntityId : ℕ
  fiscalPeriodId : ℕ
  periodOpenIdempotencyKey : String
  sourcePayloadHash : String
  requestedPeriodStartDate : Option Date
  requestedPeriodEndDate : Option Date
  deriving DecidableEq

/-- The tables. `nextId` numbers generated keys, `clock` is `clock_timestamp()`, one tick a
    command. -/
structure Tables where
  fiscalPeriods : List FiscalPeriod
  bookPeriodControls : List BookPeriodControl
  proposalRecords : List ProposalRecord
  journals : List GeneralJournal
  reversals : List JournalReversal
  postingReceipts : List PostingReceiptRow
  outboxEvents : List OutboxEvent
  snapshots : List TrialBalanceSnapshot
  periodOpenCommands : List PeriodOpenCommand
  nextId : ℕ
  clock : Timestamp

/-- A ledger before its first command. -/
def Tables.empty : Tables := ⟨[], [], [], [], [], [], [], [], [], 1, 1⟩

/-! ## Column types -/

def uniqueViolation : LedgerError := .database .uniqueViolation
def checkViolation : LedgerError := .database .checkViolation
def outOfRange : LedgerError := .database .numericValueOutOfRange

/-- `integer`. -/
def fitsInt4 (n : ℤ) : Prop := -2 ^ 31 ≤ n ∧ n < 2 ^ 31

instance decFitsInt4 (n : ℤ) : Decidable (fitsInt4 n) :=
  inferInstanceAs (Decidable (_ ∧ _))

/-- `numeric(38, 6)`, in millionths. -/
def fitsNumeric (n : ℕ) : Prop := n < 10 ^ 38

instance decFitsNumeric (n : ℕ) : Decidable (fitsNumeric n) :=
  inferInstanceAs (Decidable (_ < _))

/-! ## Lookups -/

/-- `COALESCE(control.period_status_code, fiscal_period.period_status_code)`. -/
def Tables.bookPeriodStatus (t : Tables) (bookId : ℕ) (period : FiscalPeriod) : PeriodStatus :=
  match t.bookPeriodControls.find? fun control =>
      control.accountingBookId = bookId ∧ control.fiscalPeriodId = period.fiscalPeriodId with
  | some control => control.periodStatus
  | none => period.periodStatus

def Tables.period? (t : Tables) (fiscalPeriodId : ℕ) : Option FiscalPeriod :=
  t.fiscalPeriods.find? fun period => period.fiscalPeriodId = fiscalPeriodId

def Tables.proposalRecordByKey (t : Tables) (idempotencyKey : String) : Option ProposalRecord :=
  t.proposalRecords.find? fun record => record.idempotencyKey = idempotencyKey

def Tables.proposalRecord? (t : Tables) (proposalRecordId : ℕ) : Option ProposalRecord :=
  t.proposalRecords.find? fun record => record.proposalRecordId = proposalRecordId

def Tables.journalByReference (t : Tables) (journalReference : String) : Option GeneralJournal :=
  t.journals.find? fun journal => journal.journalReference = journalReference

def Tables.journal? (t : Tables) (generalJournalId : ℕ) : Option GeneralJournal :=
  t.journals.find? fun journal => journal.generalJournalId = generalJournalId

/-- The journal a proposal record led to. -/
def Tables.journalOfProposal (t : Tables) (proposalRecordId : ℕ) : Option GeneralJournal :=
  t.journals.find? fun journal => journal.sourceProposalRecordId = proposalRecordId

/-! ## Proposal records -/

structure NewProposalRecord where
  externalProposalId : ExternalProposalId
  proposalContractVersion : ℤ
  idempotencyKey : String
  sourcePayloadHash : String

/-- INSERT INTO journal_proposal_record. -/
def insertProposalRecord (t : Tables) (row : NewProposalRecord) : Result (ℕ × Tables) := do
  require (fitsInt4 row.proposalContractVersion) outOfRange
  require (0 < row.proposalContractVersion) checkViolation
  require (matchesHash row.sourcePayloadHash = true) checkViolation
  require (∀ r ∈ t.proposalRecords, r.externalProposalId ≠ row.externalProposalId) uniqueViolation
  require (∀ r ∈ t.proposalRecords, r.idempotencyKey ≠ row.idempotencyKey) uniqueViolation
  pure (t.nextId, { t with
    proposalRecords := t.proposalRecords ++
      [⟨t.nextId, row.externalProposalId, row.idempotencyKey, row.sourcePayloadHash⟩]
    nextId := t.nextId + 1 })

/-! ## Journals -/

/-- `_journal_write_role`: the classification set before a journal is inserted. -/
inductive JournalWriteRole
  | ordinary | adjusting | reversal | periodClosing
  deriving DecidableEq

/-- `guard_period_insert`. -/
def guardPeriodInsert (dep : Deployment) (t : Tables) (bookId fiscalPeriodId : ℕ)
    (role : JournalWriteRole) : Result Unit := do
  let period ← fetch (t.period? fiscalPeriodId) checkViolation
  match t.bookPeriodStatus bookId period with
  | .opened => pure ()
  | .softClosed => require (role ≠ .ordinary ∧ dep.isClosingWriter = true) checkViolation
  | .hardClosed => .error checkViolation

structure NewJournal where
  legalEntityId : ℕ
  accountingBookId : ℕ
  fiscalPeriodId : ℕ
  journalReference : String
  writeRole : JournalWriteRole
  transactionCurrency : String
  functionalCurrency : String
  transactionDate : Date
  accountingDate : Date
  accountingPolicyVersion : String
  postingRuleVersion : String
  proposalRecordId : ℕ
  lines : List PostedJournalLine
  sourceEventReferences : List String
  sourcePayloadHash : String

/-- The account of a line and the row inserted for it. -/
def insertJournalLine (dep : Deployment) (bookId : ℕ) (line : PostedJournalLine) :
    Result JournalEntryLine := do
  let account ← fetch (dep.chartAccountForCode bookId line.chartAccountCode)
    (.validation ("Chart account " ++ line.chartAccountCode ++ " is not recorded on this book. " ++
      "Create the chart_account row, then retry posting."))
  require (fitsInt4 line.lineNumber) outOfRange
  require (fitsNumeric line.debitAmount ∧ fitsNumeric line.creditAmount) outOfRange
  require (0 < line.lineNumber) checkViolation
  require ((0 < line.debitAmount ∧ line.creditAmount = 0) ∨
    (line.debitAmount = 0 ∧ 0 < line.creditAmount)) checkViolation
  pure ⟨line.lineNumber, account.chartAccountId, line.accountRoleCode, line.debitAmount,
    line.creditAmount⟩

/-- `assert_journal_balance`, deferred to the commit. -/
def assertJournalBalance (lines : List JournalEntryLine) : Result Unit := do
  require (fitsNumeric (total JournalEntryLine.debitAmount lines) ∧
    fitsNumeric (total JournalEntryLine.creditAmount lines)) outOfRange
  require (lines ≠ [] ∧
    total JournalEntryLine.debitAmount lines = total JournalEntryLine.creditAmount lines)
    checkViolation

/-- The stored row of a journal. -/
def NewJournal.row (new : NewJournal) (t : Tables) (lines : List JournalEntryLine) :
    GeneralJournal where
  generalJournalId := t.nextId
  legalEntityId := new.legalEntityId
  accountingBookId := new.accountingBookId
  fiscalPeriodId := new.fiscalPeriodId
  journalReference := new.journalReference
  transactionCurrencyCode := new.transactionCurrency
  functionalCurrencyCode := new.functionalCurrency
  transactionDate := new.transactionDate
  accountingDate := new.accountingDate
  sourceProposalRecordId := new.proposalRecordId
  accountingPolicyVersion := new.accountingPolicyVersion
  postingRuleVersion := new.postingRuleVersion
  postedAt := t.clock
  lines := lines
  sourceReferences := new.sourceEventReferences

/-- `_insert_journal`, with the balance check of the commit. -/
def insertJournal (dep : Deployment) (t : Tables) (new : NewJournal) :
    Result (GeneralJournal × Tables) := do
  guardPeriodInsert dep t new.accountingBookId new.fiscalPeriodId new.writeRole
  require (matchesCurrency new.transactionCurrency = true ∧
    matchesCurrency new.functionalCurrency = true) checkViolation
  require (∀ journal ∈ t.journals, journal.journalReference ≠ new.journalReference) uniqueViolation
  let lines ← tryMap (insertJournalLine dep new.accountingBookId) new.lines
  require (lines.map JournalEntryLine.lineNumber).Nodup uniqueViolation
  require (new.sourceEventReferences ≠ [] → matchesHash new.sourcePayloadHash = true) checkViolation
  require new.sourceEventReferences.Nodup uniqueViolation
  assertJournalBalance lines
  let journal := new.row t lines
  pure (journal, { t with journals := t.journals ++ [journal], nextId := t.nextId + 1 })

/-! ## Receipts and events -/

/-- `_canonical_receipt_hash`. -/
def canonicalReceiptHash (dep : Deployment) (receipt : PostingReceipt) : String :=
  dep.digest (.receipt receipt.journalReference receipt.lineCount receipt.postingStatusCode
    receipt.receiptReference receipt.reversalOfJournalReference receipt.sourcePayloadHash
    receipt.sourceProposalId)

/-- `_insert_receipt`. -/
def insertReceipt (dep : Deployment) (t : Tables) (proposalRecordId generalJournalId : ℕ)
    (receipt : PostingReceipt) : Tables :=
  { t with postingReceipts := t.postingReceipts ++
      [⟨proposalRecordId, generalJournalId, receipt.postingStatusCode,
        canonicalReceiptHash dep receipt⟩] }

/-- `_insert_outbox`. -/
def insertOutbox (dep : Deployment) (t : Tables)
    (eventTypeCode aggregateReference payloadReference : String) (receipt : PostingReceipt) : Tables :=
  { t with outboxEvents := t.outboxEvents ++
      [⟨eventTypeCode, aggregateReference, payloadReference, canonicalReceiptHash dep receipt⟩] }

/-! ## What an insert adds -/

theorem insertProposalRecord_ok {t t' : Tables} {row : NewProposalRecord} {recordId : ℕ}
    (h : insertProposalRecord t row = .ok (recordId, t')) :
    recordId = t.nextId ∧ t' = { t with
      proposalRecords := t.proposalRecords ++
        [⟨t.nextId, row.externalProposalId, row.idempotencyKey, row.sourcePayloadHash⟩]
      nextId := t.nextId + 1 } ∧
    (∀ r ∈ t.proposalRecords, r.externalProposalId ≠ row.externalProposalId) ∧
    (∀ r ∈ t.proposalRecords, r.idempotencyKey ≠ row.idempotencyKey) := by
  simp only [insertProposalRecord, bind_eq_ok, require_eq_ok, pure_eq_ok, Prod.mk.injEq] at h
  obtain ⟨-, -, -, -, -, -, -, hext, -, hkey, rfl, rfl⟩ := h
  exact ⟨rfl, rfl, hext, hkey⟩

/-- The account behind an inserted line, and what the line keeps. -/
theorem insertJournalLine_ok {dep : Deployment} {bookId : ℕ} {line : PostedJournalLine}
    {row : JournalEntryLine} (h : insertJournalLine dep bookId line = .ok row) :
    ∃ account, dep.chartAccountForCode bookId line.chartAccountCode = some account ∧
      row = ⟨line.lineNumber, account.chartAccountId, line.accountRoleCode, line.debitAmount,
        line.creditAmount⟩ ∧
      ((0 < line.debitAmount ∧ line.creditAmount = 0) ∨
        (line.debitAmount = 0 ∧ 0 < line.creditAmount)) := by
  simp only [insertJournalLine, bind_eq_ok, fetch_eq_ok, require_eq_ok, pure_eq_ok] at h
  obtain ⟨account, haccount, -, -, -, -, -, -, -, hside, hrow⟩ := h
  exact ⟨account, haccount, hrow.symm, hside⟩

/-- A journal that was inserted: the guards it passed and the row it became. -/
structure Inserted (dep : Deployment) (t : Tables) (new : NewJournal) (journal : GeneralJournal)
    (t' : Tables) : Prop where
  guarded : guardPeriodInsert dep t new.accountingBookId new.fiscalPeriodId new.writeRole = .ok ()
  currency : matchesCurrency new.transactionCurrency = true
  fresh : ∀ j ∈ t.journals, j.journalReference ≠ new.journalReference
  lines : tryMap (insertJournalLine dep new.accountingBookId) new.lines = .ok journal.lines
  lineNumbers : (journal.lines.map JournalEntryLine.lineNumber).Nodup
  totals : fitsNumeric (total JournalEntryLine.debitAmount journal.lines) ∧
    fitsNumeric (total JournalEntryLine.creditAmount journal.lines)
  given : journal.lines ≠ []
  balanced : total JournalEntryLine.debitAmount journal.lines =
    total JournalEntryLine.creditAmount journal.lines
  row : journal = new.row t journal.lines
  tables : t' = { t with journals := t.journals ++ [journal], nextId := t.nextId + 1 }

theorem insertJournal_ok {dep : Deployment} {t t' : Tables} {new : NewJournal}
    {journal : GeneralJournal} (h : insertJournal dep t new = .ok (journal, t')) :
    Inserted dep t new journal t' := by
  simp only [insertJournal, assertJournalBalance, bind_eq_ok, require_eq_ok, pure_eq_ok,
    Prod.mk.injEq] at h
  obtain ⟨_, hguard, -, ⟨hcurrency, -⟩, -, hfresh, lines, hlines, -, hnums, -, -, -, -, -,
    ⟨-, htotals, hgiven, hbal⟩, rfl, rfl⟩ := h
  exact ⟨hguard, hcurrency, hfresh, hlines, hnums, htotals, hgiven, hbal, rfl, rfl⟩

/-- The period a journal is inserted into exists and is not hard-closed for its book. -/
theorem guardPeriodInsert_ok {dep : Deployment} {t : Tables} {bookId fiscalPeriodId : ℕ}
    {role : JournalWriteRole} (h : guardPeriodInsert dep t bookId fiscalPeriodId role = .ok ()) :
    ∃ period, t.period? fiscalPeriodId = some period ∧
      t.bookPeriodStatus bookId period ≠ .hardClosed ∧
      (role = .ordinary → t.bookPeriodStatus bookId period = .opened) := by
  simp only [guardPeriodInsert, bind_eq_ok, fetch_eq_ok] at h
  obtain ⟨period, hperiod, h⟩ := h
  refine ⟨period, hperiod, ?_⟩
  cases hs : t.bookPeriodStatus bookId period with
  | opened => exact ⟨by simp, fun _ => rfl⟩
  | softClosed =>
    rw [hs] at h
    simp only [require_eq_ok] at h
    exact ⟨by simp, fun hr => absurd hr h.1⟩
  | hardClosed => rw [hs] at h; cases h

end AccountingPlatform.Postgres
