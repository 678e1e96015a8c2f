/-
  The commands of the HTTP surface, and their replay.

  Each accepts a payload, runs one command of the ledger and answers from the rows. A payload
  is taken once its fields are read; one that is refused before was not accepted. What an
  answer identifies is the answer without its mark of a replay.

  A posting, an adjusting journal, a period open and a close look up the earlier command first.
  A reversal resolves its policy first, and the policy asks for a period that is not
  hard-closed: its replay is refused where the calendar row of its date is hard-closed by then.
-/
import AccountingPlatform.Postgres.PeriodStates
import AccountingPlatform.Postgres.CloseSnapshots
import AccountingPlatform.Postgres.CommandKeys
import AccountingPlatform.Postgres.ReversalAdmission

namespace AccountingPlatform.Accept

open AccountingPlatform.Lib AccountingPlatform.Core AccountingPlatform.Postgres

open PostingLedger (ReversalRequest)

variable (dep : Deployment)

/-! ## Published receipts -/

/-- `_load_published_receipt`. The receipt row stands for `receipt_id`, `recorded_at` and
    `posted_at`, which are columns of it. -/
structure PublishedReceipt where
  receipt : PostingReceiptRow
  idempotencyKey : String
  sourceProposalId : String
  sourcePayloadHash : String
  tenantReference : String
  legalEntityReference : String
  accountingBookReference : String
  fiscalPeriodReference : String
  journalReference : String
  accountingPolicyVersion : String
  postingRuleVersion : String
  postingStatusCode : String
  lineCount : ℕ
  transactionCurrency : String
  functionalCurrency : String
  deriving DecidableEq

def receiptMissing : LedgerError :=
  .validation ("posting receipt is missing for this idempotency key. " ++
    "Accept the proposal, then retry the receipt read.")

/-- The joined rows of a receipt, found by the key of its proposal record. -/
def publishedRow (t : Tables) (idempotencyKey : String) : Option PublishedReceipt := do
  let record ← t.proposalRecordByKey idempotencyKey
  let receipt ← t.postingReceipts.find? fun receipt =>
    receipt.proposalRecordId = record.proposalRecordId
  let journal ← t.journal? receipt.generalJournalId
  let bookName ← bookName? dep journal.accountingBookId
  let legalEntityCode ← legalEntityCode? dep journal.legalEntityId
  let period ← t.period? journal.fiscalPeriodId
  pure {
    receipt := receipt
    idempotencyKey := record.idempotencyKey
    sourceProposalId := record.externalProposalId.text dep
    sourcePayloadHash := record.sourcePayloadHash
    tenantReference := dep.catalog.tenantReference
    legalEntityReference := legalEntityCode
    accountingBookReference := bookName
    fiscalPeriodReference := "urn:cwl:accounting:fiscal_period:" ++ period.periodCode
    journalReference := journal.journalReference
    accountingPolicyVersion := journal.accountingPolicyVersion
    postingRuleVersion := journal.postingRuleVersion
    postingStatusCode := receipt.receiptStatusCode
    lineCount := journal.lines.length
    transactionCurrency := journal.transactionCurrencyCode
    functionalCurrency := journal.functionalCurrencyCode }

/-- `load_published_receipt_by_key`. -/
def loadPublishedReceiptByKey (t : Tables) (idempotencyKey : String) : Result PublishedReceipt :=
  fetch (publishedRow dep t idempotencyKey) receiptMissing

/-- `lookup_published_receipt`. -/
def lookupPublishedReceipt (t : Tables) (idempotencyKey : String) : Result PublishedReceipt := do
  require (idempotencyKey ≠ "")
    (.validation ("idempotency key is required. " ++
      "Supply the Billing idempotency key, then retry the receipt read."))
  loadPublishedReceiptByKey dep t idempotencyKey

/-! ## Reversal policy -/

/-- The policy fields of a journal for a period. -/
def reversalPolicyFields (journal : GeneralJournal) (legalEntityReference : String)
    (book : AccountingBook) (period : FiscalPeriod) : AccountingPolicyFields where
  tenantReference := dep.catalog.tenantReference
  legalEntityReference := legalEntityReference
  accountingBookReference := book.bookName
  intendedBookRoleCode := book.bookRoleCode
  transactionCurrency := journal.transactionCurrencyCode
  functionalCurrency := journal.functionalCurrencyCode
  openPeriodStart := period.periodStartDate
  openPeriodEnd := period.periodEndDate
  chartAccountMapping := (loadLines dep journal).foldl
    (fun mapping line => mapping.set line.accountRoleCode line.chartAccountCode) Dict.empty
  accountingPolicyVersion := journal.accountingPolicyVersion
  postingRuleVersion := journal.postingRuleVersion

/-- The journal a reversal policy is read off, joined with its legal entity and book. -/
def reversalRow (t : Tables) (journalReference : String) :
    Option (GeneralJournal × String × AccountingBook) := do
  let journal ← t.journalByReference journalReference
  let legalEntityReference ← legalEntityCode? dep journal.legalEntityId
  let book ← book? dep journal.accountingBookId
  pure (journal, legalEntityReference, book)

/-- `load_reversal_policy`. -/
def loadReversalPolicy (t : Tables) (journalReference : String) (reversalDate : Date) :
    Result AccountingPolicy := do
  let row ← fetch (reversalRow dep t journalReference)
    (.validation "journal does not exist. Supply a posted journal reference, then retry reversal.")
  let period ← requireAdjustingPeriodBounds dep t reversalDate
  AccountingPolicy.build (reversalPolicyFields dep row.1 row.2.1 row.2.2 period)

/-! ## Commands -/

structure ReversalPayload where
  journalReference : String
  idempotencyKey : String
  reversalIdempotencyKey : String
  reversalReasonCode : String
  reversalDate : Date

inductive AcceptCommand
  | journalProposal (proposal : JournalProposal)
  | adjustingJournal (request : AdjustingRequest)
  | journalReversal (payload : ReversalPayload)
  | periodOpen (request : PeriodOpenRequest)
  | periodClose (request : CloseRequest)

inductive AcceptAnswer
  | receipt (document : PublishedReceipt)
  | opened (document : PeriodOpenDocument)
  | closed (document : PeriodCloseReceipt)

/-- Whatever the answer identifies: all of it but the mark of a replay. -/
def AcceptAnswer.identity : AcceptAnswer → AcceptAnswer
  | .receipt document => .receipt document
  | .opened document => .opened { document with replayed := true }
  | .closed document => .closed { document with replayed := true }

/-- `accept_journal_proposal`, after `ingest_journal_proposal`. -/
def acceptJournalProposal (t : Tables) (proposal : JournalProposal) :
    Result (AcceptAnswer × Tables) := do
  require (proposal.tenantReference = dep.catalog.tenantReference)
    (.validation ("proposal tenant_reference does not match the bound tenant. " ++
      "Call accept_journal_proposal with that tenant_reference, then retry."))
  let posted ← postProposal dep t proposal
  let document ← loadPublishedReceiptByKey dep posted.2 proposal.idempotencyKey
  pure (.receipt document, posted.2)

/-- `accept_adjusting_journal`, after its lines are parsed and its hash is computed. -/
def acceptAdjustingJournal (t : Tables) (request : AdjustingRequest) :
    Result (AcceptAnswer × Tables) := do
  require (request.legalEntityReference ≠ "" ∧ request.accountingBookReference ≠ "" ∧
      request.periodCode ≠ "")
    (.validation ("legal_entity_reference, accounting_book_reference, and " ++
      "fiscal_period_reference are required. " ++
      "Supply those adjusting-journal fields, then retry the journal post."))
  require (request.idempotencyKey ≠ "")
    (.validation ("idempotency_key is required. " ++
      "Supply the adjusting-journal idempotency key, then retry the journal post."))
  let posted ← postAdjustingJournal dep t request
  let document ← loadPublishedReceiptByKey dep posted request.idempotencyKey
  pure (.receipt document, posted)

/-- The journal a reversal payload names. -/
def resolveReversedJournal (t : Tables) (payload : ReversalPayload) : Result String :=
  if payload.idempotencyKey = "" then pure payload.journalReference
  else do
    let original ← lookupPublishedReceipt dep t payload.idempotencyKey
    require (payload.journalReference = "" ∨ payload.journalReference = original.journalReference)
      (.validation ("journal_reference and idempotency_key do not match the same posted journal. " ++
        "Supply one identity, then retry the reverse."))
    pure original.journalReference

/-- `reversal_command_key`. -/
def ReversalPayload.commandKey (payload : ReversalPayload) (journalReference : String) : String :=
  let key := strip payload.reversalIdempotencyKey
  if key = "" then "reversal:" ++ journalReference else key

def ReversalPayload.request (payload : ReversalPayload) (journalReference : String) :
    ReversalRequest :=
  ⟨journalReference, payload.reversalDate, payload.reversalReasonCode,
    some (payload.commandKey journalReference)⟩

/-- `accept_journal_reversal`. -/
def acceptJournalReversal (t : Tables) (payload : ReversalPayload) :
    Result (AcceptAnswer × Tables) := do
  require (payload.journalReference ≠ "" ∨ payload.idempotencyKey ≠ "")
    (.validation ("journal_reference or idempotency_key is required. " ++
      "Supply the posted journal or the Billing idempotency key, then retry the reverse."))
  require (payload.reversalReasonCode ≠ "")
    (.validation ("reversal_reason_code is required. " ++
      "Supply a reversal reason code, then retry the reverse."))
  let journalReference ← resolveReversedJournal dep t payload
  let policy ← loadReversalPolicy dep t journalReference payload.reversalDate
  let reversed ← reverse dep t (payload.request journalReference) policy
  let document ← loadPublishedReceiptByKey dep reversed.2 (payload.commandKey journalReference)
  pure (.receipt document, reversed.2)

/-- `accept_period_open`; the key and the hash are checked by the ledger again. -/
def acceptPeriodOpen (t : Tables) (request : PeriodOpenRequest) :
    Result (AcceptAnswer × Tables) := do
  let opened ← openFiscalPeriod dep t request
  pure (.opened opened.1, opened.2)

/-- `accept_period_close`. -/
def acceptPeriodClose (t : Tables) (request : CloseRequest) : Result (AcceptAnswer × Tables) := do
  require (request.legalEntityReference ≠ "" ∧ request.accountingBookReference ≠ "" ∧
      request.periodCode ≠ "")
    (.validation ("legal_entity_reference, book_reference, and fiscal_period_reference are required. " ++
      "Supply those close command fields, then retry the close."))
  require (request.snapshotCurrencyCode ≠ "")
    (.validation ("snapshot_currency_code is required. " ++
      "Supply the book reporting currency, then retry the close."))
  require (request.idempotencyKey ≠ "")
    (.validation ("idempotency_key is required. " ++
      "Supply the period-close idempotency key, then retry the close."))
  let closed ← closeFiscalPeriod dep t request
  pure (.closed closed.1, closed.2)

def accept (t : Tables) : AcceptCommand → Result (AcceptAnswer × Tables)
  | .journalProposal proposal => acceptJournalProposal dep t proposal
  | .adjustingJournal request => acceptAdjustingJournal dep t request
  | .journalReversal payload => acceptJournalReversal dep t payload
  | .periodOpen request => acceptPeriodOpen dep t request
  | .periodClose request => acceptPeriodClose dep t request

variable {dep}

/-! ## What is retained -/

/-- Rows that commands look up when they replay; none is lost or changed. -/
structure Retains (t t' : Tables) : Prop extends Extends t t' where
  receipts : t.postingReceipts <+: t'.postingReceipts
  openCommands : t.periodOpenCommands <+: t'.periodOpenCommands

theorem Retains.refl (t : Tables) : Retains t t :=
  { Extends.refl t with
    receipts := List.prefix_refl _
    openCommands := List.prefix_refl _ }

theorem Retains.trans {t t' t'' : Tables} (h : Retains t t') (h' : Retains t' t'') :
    Retains t t'' :=
  { h.toExtends.trans h'.toExtends with
    receipts := h.receipts.trans h'.receipts
    openCommands := h.openCommands.trans h'.openCommands }

theorem writePosting_openCommands {t t' : Tables} {record : NewProposalRecord}
    {new : ℕ → NewJournal} {receipt : PostingReceipt}
    (h : writePosting dep t record new receipt = .ok t') :
    t'.periodOpenCommands = t.periodOpenCommands := by
  obtain ⟨journal, t₁, hrecorded, rfl⟩ := writePosting_ok dep h
  show t₁.periodOpenCommands = t.periodOpenCommands
  rw [hrecorded.inserted.tables]

theorem persistProposal_openCommands {t t' : Tables} {proposal : JournalProposal}
    {suppliedPolicy : Option AccountingPolicy} {receipt : PostingReceipt}
    (h : persistProposal dep t proposal suppliedPolicy = .ok (receipt, t')) :
    t'.periodOpenCommands = t.periodOpenCommands := by
  rcases persistProposal_ok dep h with ⟨_, -, -, -, rfl⟩ | ⟨-, hfresh⟩
  · rfl
  · obtain ⟨_, _, _, _, _, -, -, hwrite⟩ := persistFreshProposal_ok dep hfresh
    exact writePosting_openCommands hwrite

theorem closeFiscalPeriod_openCommands {t t' : Tables} {request : CloseRequest}
    {receipt : PeriodCloseReceipt} (h : closeFiscalPeriod dep t request = .ok (receipt, t')) :
    t'.periodOpenCommands = t.periodOpenCommands := by
  obtain ⟨entity, book, period, control, t₁, hlocked, houtcome⟩ := closeFiscalPeriod_ok dep h
  obtain ⟨-, rfl, -⟩ := lockBookPeriod_ok dep hlocked.lock
  rcases houtcome with ⟨-, rfl⟩ | ⟨-, -, hsoft⟩ | ⟨-, -, -, hhard⟩
  · rfl
  · obtain ⟨_, _, rfl⟩ := persistSoftClose_ok dep hsoft
    rfl
  · obtain ⟨posted, t₂, hposted, -, _, _, rfl⟩ := persistPeriodClose_ok dep hhard
    rcases postClosingJournal_ok dep hposted with ⟨-, -, rfl⟩ | ⟨_, _, -, -, hrecorded⟩
    · rfl
    · show t₂.periodOpenCommands = t.periodOpenCommands
      rw [hrecorded.inserted.tables]

/-- Only a period open adds to the recorded open commands. -/
theorem attempt_openCommands {t t' : Tables} {command : Postgres.Command}
    (h : attempt dep t command = .ok t') : t.periodOpenCommands <+: t'.periodOpenCommands := by
  cases command with
  | openFiscalPeriod request =>
    obtain ⟨⟨_, _⟩, hok, rfl⟩ := map_eq_ok.mp h
    rcases openFiscalPeriod_ok dep hok with hsame | ⟨_, hsame | ⟨_, -, -, -, hsame⟩⟩
    · exact hsame ▸ List.prefix_refl _
    · exact hsame ▸ List.prefix_append _ _
    · exact hsame ▸ List.prefix_append _ _
  | post proposal policy =>
    obtain ⟨⟨_, _⟩, hok, rfl⟩ := map_eq_ok.mp h
    exact persistProposal_openCommands hok ▸ List.prefix_refl _
  | postProposal proposal =>
    obtain ⟨⟨_, _⟩, hok, rfl⟩ := map_eq_ok.mp h
    exact persistProposal_openCommands hok ▸ List.prefix_refl _
  | postAdjustingJournal request =>
    rcases postAdjustingJournal_ok dep h with ⟨_, -, rfl⟩ | ⟨-, -, _, _, _, _, -, hwrite⟩
    · exact List.prefix_refl _
    · exact writePosting_openCommands hwrite ▸ List.prefix_refl _
  | reverse request policy =>
    obtain ⟨⟨_, _⟩, hok, rfl⟩ := map_eq_ok.mp h
    rcases reverse_ok dep hok with ⟨_, -, -, rfl⟩ | ⟨_, _, _, _, t₁, -, -, hrecorded, -, -, rfl⟩
    · exact List.prefix_refl _
    · show t.periodOpenCommands <+: t₁.periodOpenCommands
      exact ⟨[], (List.append_nil _).trans
        (congrArg Tables.periodOpenCommands hrecorded.inserted.tables).symm⟩
  | closeFiscalPeriod request =>
    obtain ⟨⟨_, _⟩, hok, rfl⟩ := map_eq_ok.mp h
    exact closeFiscalPeriod_openCommands hok ▸ List.prefix_refl _

theorem retains_execute {t : Tables} (h : WellFormed dep t) (command : Postgres.Command) :
    Retains t (execute dep t command) := by
  refine { extends_execute h command with receipts := ?_, openCommands := ?_ }
  · rcases execute_booked h command with hu | ⟨record, journal, lineage, hb⟩
    · exact hu.receipts ▸ List.prefix_refl _
    · exact hb.receipts ▸ List.prefix_append _ _
  · cases ha : attempt dep t command with
    | error e =>
      exact ⟨[], (List.append_nil _).trans (congrArg Tables.periodOpenCommands (execute_of_error dep ha)).symm⟩
    | ok t' =>
      rw [execute_of_ok dep ha]
      show t.periodOpenCommands <+: t'.periodOpenCommands
      exact attempt_openCommands ha

theorem retains_run {t : Tables} (h : WellFormed dep t) (commands : List Postgres.Command) :
    Retains t (run (execute dep) t commands) := by
  induction commands generalizing t with
  | nil => exact Retains.refl t
  | cons command commands ih =>
    exact (retains_execute h command).trans (ih (wellFormed_execute h command))

/-! ## Receipts stay published -/

/-- A period keeps its code and dates under its key. -/
theorem Retains.period? {t t' : Tables} (h : Retains t t') (hwf : WellFormed dep t') {id : ℕ}
    {p : FiscalPeriod} (hp : t.period? id = some p) :
    ∃ q, t'.period? id = some q ∧ q.periodCode = p.periodCode ∧
      q.periodStartDate = p.periodStartDate ∧ q.periodEndDate = p.periodEndDate := by
  obtain ⟨hmem, hid⟩ := period?_mem hp
  obtain ⟨q, hq, hqid, hcode, hstart, hend⟩ := h.periods p hmem
  rw [hid] at hqid
  subst hqid
  exact ⟨q, find?_of_nodup_map hwf.period_keys hq, hcode, hstart, hend⟩

theorem Retains.publishedRow {t t' : Tables} (h : Retains t t') (hwf : WellFormed dep t')
    {key : String} {document : PublishedReceipt} (hrow : publishedRow dep t key = some document) :
    publishedRow dep t' key = some document := by
  simp only [Accept.publishedRow, Option.bind_eq_bind, Option.bind_eq_some_iff,
    Option.pure_def, Option.some.injEq] at hrow
  obtain ⟨record, hrecord, receipt, hreceipt, journal, hjournal, name, hname, code, hcode, period,
    hperiod, rfl⟩ := hrow
  obtain ⟨period', hperiod', hpcode, -, -⟩ := h.period? hwf hperiod
  have hrecord' : t'.proposalRecordByKey key = some record :=
    h.proposalRecords.find?_eq_some hrecord
  have hreceipt' := h.receipts.find?_eq_some hreceipt
  have hjournal' : t'.journal? receipt.generalJournalId = some journal :=
    h.journals.find?_eq_some hjournal
  simp only [Accept.publishedRow, hrecord', hreceipt', hjournal', hname, hcode, hperiod', hpcode,
    Option.bind_eq_bind, Option.bind_some, Option.pure_def]

theorem Retains.loadPublishedReceiptByKey {t t' : Tables} (h : Retains t t')
    (hwf : WellFormed dep t') {key : String} {document : PublishedReceipt}
    (hload : loadPublishedReceiptByKey dep t key = .ok document) :
    Accept.loadPublishedReceiptByKey dep t' key = .ok document := by
  unfold Accept.loadPublishedReceiptByKey at hload ⊢
  rw [fetch_eq_ok] at hload ⊢
  exact h.publishedRow hwf hload

end AccountingPlatform.Accept
