/-
  Posting commands as transactions that run side by side.

  A statement is one step: a lock, a SELECT over what is committed and the rows of its own
  transaction, or an INSERT, whose rows the others do not see before the commit. Alone, a
  transaction computes what the command computes. The catalog does not change meanwhile.
-/
import AccountingPlatform.Lib.Transactions
import AccountingPlatform.Postgres.Postings

namespace AccountingPlatform.Postgres

open AccountingPlatform.Lib AccountingPlatform.Core
open Program

open PostingLedger (ReversalRequest)

variable (dep : Deployment)

/-! ## Rows of a transaction -/

structure Rows where
  records : List ProposalRecord
  journals : List GeneralJournal
  reversals : List JournalReversal
  receipts : List PostingReceiptRow
  events : List OutboxEvent

def Rows.none : Rows := ⟨[], [], [], [], []⟩

def Rows.append (rows more : Rows) : Rows where
  records := rows.records ++ more.records
  journals := rows.journals ++ more.journals
  reversals := rows.reversals ++ more.reversals
  receipts := rows.receipts ++ more.receipts
  events := rows.events ++ more.events

def Tables.withRows (t : Tables) (rows : Rows) : Tables :=
  { t with
    proposalRecords := t.proposalRecords ++ rows.records
    journals := t.journals ++ rows.journals
    reversals := t.reversals ++ rows.reversals
    postingReceipts := t.postingReceipts ++ rows.receipts
    outboxEvents := t.outboxEvents ++ rows.events }

/-- Generated keys are not given back. -/
def Tables.drawing (t : Tables) (rows : Rows) : Tables :=
  { t with nextId := t.nextId + (rows.records.length + rows.journals.length) }

def Tables.ticked (t : Tables) : Tables := { t with clock := t.clock + 1 }

/-- The unique keys of `journal_proposal_record`, `general_journal` and `journal_reversal`. -/
inductive UniqueKey
  | externalProposalId | idempotencyKey | proposalRecordId | journalReference | generalJournalId
  | originalJournalId | reversalJournalId

def UniqueKey.Value : UniqueKey → Type
  | externalProposalId => ExternalProposalId
  | idempotencyKey => String
  | proposalRecordId => ℕ
  | journalReference => String
  | generalJournalId => ℕ
  | originalJournalId => ℕ
  | reversalJournalId => ℕ

/-- The values of a key in rows of the three tables. -/
def UniqueKey.values (records : List ProposalRecord) (journals : List GeneralJournal)
    (reversals : List JournalReversal) : (key : UniqueKey) → List key.Value
  | externalProposalId => records.map ProposalRecord.externalProposalId
  | idempotencyKey => records.map ProposalRecord.idempotencyKey
  | proposalRecordId => records.map ProposalRecord.proposalRecordId
  | journalReference => journals.map GeneralJournal.journalReference
  | generalJournalId => journals.map GeneralJournal.generalJournalId
  | originalJournalId => reversals.map JournalReversal.originalJournalId
  | reversalJournalId => reversals.map JournalReversal.reversalJournalId

theorem UniqueKey.values_append (key : UniqueKey) (records records' : List ProposalRecord)
    (journals journals' : List GeneralJournal) (reversals reversals' : List JournalReversal) :
    values (records ++ records') (journals ++ journals') (reversals ++ reversals') key =
      values records journals reversals key ++ values records' journals' reversals' key := by
  cases key with
  | externalProposalId => exact List.map_append
  | idempotencyKey => exact List.map_append
  | proposalRecordId => exact List.map_append
  | journalReference => exact List.map_append
  | generalJournalId => exact List.map_append
  | originalJournalId => exact List.map_append
  | reversalJournalId => exact List.map_append

theorem withRows_none (t : Tables) : t.withRows Rows.none = t := by
  simp [Tables.withRows, Rows.none]

theorem withRows_append (t : Tables) (rows more : Rows) :
    t.withRows (rows.append more) = (t.withRows rows).withRows more := by
  simp [Tables.withRows, Rows.append]

/-- The journal tables as a store of rows. -/
def ledgerStore : Store Tables Rows where
  none := Rows.none
  append := Rows.append
  view := Tables.withRows
  draw := Tables.drawing
  tick := Tables.ticked
  Key := UniqueKey
  Value := UniqueKey.Value
  committed key t := key.values t.proposalRecords t.journals t.reversals
  pending key rows := key.values rows.records rows.journals rows.reversals
  view_none := withRows_none
  view_append := withRows_append
  draw_view := fun _ _ _ => rfl
  pending_none key := by cases key <;> rfl
  pending_append key _ _ := key.values_append _ _ _ _ _ _
  committed_view key _ _ := key.values_append _ _ _ _ _ _
  committed_draw := fun _ _ _ => rfl
  committed_tick := fun _ _ => rfl

/-! ## Inserts -/

/-- The rows an insert has appended. -/
def Tables.rowsSince (t t' : Tables) : Rows where
  records := t'.proposalRecords.drop t.proposalRecords.length
  journals := t'.journals.drop t.journals.length
  reversals := t'.reversals.drop t.reversals.length
  receipts := t'.postingReceipts.drop t.postingReceipts.length
  events := t'.outboxEvents.drop t.outboxEvents.length

abbrev Tx := Program Tables Rows LedgerError

/-- One INSERT statement, from the tables with its rows. -/
def inserting {β : Type} (insert : Tables → Result (β × Tables)) (t : Tables) : Result (β × Rows) :=
  (insert t).map fun r => (r.1, t.rowsSince r.2)

/-- The insert appends its rows and draws one key for each record and journal. -/
def Appends {β : Type} (insert : Tables → Result (β × Tables)) : Prop :=
  ∀ t b t', insert t = .ok (b, t') → t' = (t.withRows (t.rowsSince t')).drawing (t.rowsSince t')

theorem alone_inserting {β : Type} {insert : Tables → Result (β × Tables)} (h : Appends insert)
    (t : Tables) :
    (add (inserting insert) : Tx β).alone ledgerStore t = insert t := by
  rw [alone_add, inserting]
  cases hinsert : insert t with
  | error e => rfl
  | ok r =>
    obtain ⟨b, t'⟩ := r
    have heq := h t b t' hinsert
    show (Except.ok (b, (t.withRows (t.rowsSince t')).drawing (t.rowsSince t')) : Result (β × Tables)) = _
    rw [← heq]

theorem appends_insertProposalRecord (row : Tables → NewProposalRecord) :
    Appends fun t => insertProposalRecord t (row t) := by
  intro t b t' h
  obtain ⟨-, rfl, -⟩ := insertProposalRecord_ok h
  simp [Tables.withRows, Tables.drawing, Tables.rowsSince]

theorem appends_insertJournal (new : NewJournal) : Appends fun t => insertJournal dep t new := by
  intro t journal t' h
  rw [(insertJournal_ok h).tables]
  simp [Tables.withRows, Tables.drawing, Tables.rowsSince]

/-- `_insert_receipt` as a statement. -/
def insertingReceipt (recordId journalId : ℕ) (receipt : PostingReceipt) (t : Tables) :
    Result (Unit × Tables) :=
  .ok ((), insertReceipt dep t recordId journalId receipt)

/-- `_insert_outbox` as a statement. -/
def insertingOutbox (eventTypeCode aggregateReference : String) (receipt : PostingReceipt)
    (t : Tables) : Result (Unit × Tables) :=
  .ok ((), insertOutbox dep t eventTypeCode aggregateReference receipt.receiptReference receipt)

/-- INSERT INTO journal_reversal as a statement. -/
def insertingReversal (original reversal : GeneralJournal) (reasonCode : String) (t : Tables) :
    Result (Unit × Tables) :=
  (insertReversal t original reversal reasonCode).map fun t' => ((), t')

theorem appends_insertingReceipt (recordId journalId : ℕ) (receipt : PostingReceipt) :
    Appends (insertingReceipt dep recordId journalId receipt) := by
  intro t b t' h
  obtain ⟨-, rfl⟩ := Prod.mk.inj (Except.ok.inj h)
  simp [insertReceipt, Tables.withRows, Tables.drawing, Tables.rowsSince]

theorem appends_insertingOutbox (eventTypeCode aggregateReference : String)
    (receipt : PostingReceipt) :
    Appends (insertingOutbox dep eventTypeCode aggregateReference receipt) := by
  intro t b t' h
  obtain ⟨-, rfl⟩ := Prod.mk.inj (Except.ok.inj h)
  simp [insertOutbox, Tables.withRows, Tables.drawing, Tables.rowsSince]

theorem appends_insertingReversal (original reversal : GeneralJournal) (reasonCode : String) :
    Appends (insertingReversal original reversal reasonCode) := by
  intro t b t' h
  obtain ⟨t'', hinsert, heq⟩ := map_eq_ok.mp h
  obtain ⟨-, rfl⟩ := Prod.mk.inj heq
  obtain ⟨-, -, rfl⟩ := insertReversal_ok hinsert
  simp [Tables.withRows, Tables.drawing, Tables.rowsSince]

/-! ## Postings -/

/-- `_require_open_book_period_bounds`: the row is read, locked and read again. -/
def requireOpenBookPeriodTx (bookId : ℕ) (accountingDate : Date) : Tx FiscalPeriod := do
  let candidate ← ask fun t =>
    fetch (dep.fetchone (periodsCovering t accountingDate)) (noPeriodCovers accountingDate)
  acquire ("period:" ++ dep.uuidText bookId ++ ":" ++ candidate.periodCode)
  ask fun t => do
    let period ← fetch (t.period? candidate.fiscalPeriodId) (noPeriodCovers accountingDate)
    let status := t.bookPeriodStatus bookId period
    require (status = .opened)
      (.validation ("Fiscal period " ++ period.periodCode ++ " is " ++ status.code ++
        lockedMarker status ++ ". " ++
        "Open that period or post into an open period for this accounting book; " ++
        "no journal was written."))
    pure period

theorem alone_requireOpenBookPeriodTx (bookId : ℕ) (accountingDate : Date) (t : Tables) :
    (requireOpenBookPeriodTx dep bookId accountingDate).alone ledgerStore t =
      requireOpenBookPeriodBounds dep t bookId accountingDate >>= fun period => .ok (period, t) := by
  simp only [requireOpenBookPeriodTx, requireOpenBookPeriodBounds, alone_andThen, alone_ask,
    alone_acquire, bind_assoc, ok_bind]

/-- `_resolve_accounting_policy`. -/
def resolveAccountingPolicyTx (proposal : JournalProposal) : Tx AccountingPolicy := do
  check (require (proposal.tenantReference = dep.catalog.tenantReference)
    (.validation ("proposal tenant scope does not match this deployment. " ++
      "Send the proposal to that tenant's accounting endpoint, then retry posting.")))
  let entity ← check (dep.loadLegalEntity proposal.legalEntityReference "posting")
  let book ← check (dep.requireBookForRole entity.legalEntityId proposal.intendedBookRoleCode)
  let period ← requireOpenBookPeriodTx dep book.accountingBookId proposal.accountingDate
  let mapped ← check (loadRoleMapping dep book.accountingBookId proposal)
  check (AccountingPolicy.build {
    tenantReference := proposal.tenantReference
    legalEntityReference := proposal.legalEntityReference
    accountingBookReference := book.bookName
    intendedBookRoleCode := proposal.intendedBookRoleCode
    transactionCurrency := proposal.transactionCurrency
    functionalCurrency := entity.functionalCurrencyCode
    openPeriodStart := period.periodStartDate
    openPeriodEnd := period.periodEndDate
    chartAccountMapping := mapped.1
    accountingPolicyVersion := mapped.2.1
    postingRuleVersion := mapped.2.2 })

theorem alone_resolveAccountingPolicyTx (proposal : JournalProposal) (t : Tables) :
    (resolveAccountingPolicyTx dep proposal).alone ledgerStore t =
      resolveAccountingPolicy dep t proposal >>= fun policy => .ok (policy, t) := by
  simp only [resolveAccountingPolicyTx, resolveAccountingPolicy, alone_andThen, alone_check,
    alone_requireOpenBookPeriodTx, bind_assoc, ok_bind]

/-- The inserts of a posting. -/
def writePostingTx (record : NewProposalRecord) (new : ℕ → NewJournal) (receipt : PostingReceipt) :
    Tx Unit := do
  let recordId ← add (inserting fun t => insertProposalRecord t record)
  let journal ← add (inserting fun t => insertJournal dep t (new recordId))
  add (inserting (insertingReceipt dep recordId journal.generalJournalId receipt))
  add (inserting (insertingOutbox dep "posting_receipt" receipt.journalReference receipt))

theorem alone_writePostingTx (record : NewProposalRecord) (new : ℕ → NewJournal)
    (receipt : PostingReceipt) (t : Tables) :
    (writePostingTx dep record new receipt).alone ledgerStore t =
      writePosting dep t record new receipt >>= fun t' => .ok ((), t') := by
  have hrecord := alone_inserting (appends_insertProposalRecord fun _ => record)
  have hjournal := fun new => alone_inserting (appends_insertJournal dep new)
  have hreceipt := fun recordId journalId =>
    alone_inserting (appends_insertingReceipt dep recordId journalId receipt)
  have houtbox := alone_inserting
    (appends_insertingOutbox dep "posting_receipt" receipt.journalReference receipt)
  simp only [writePostingTx, writePosting, insertRecordedJournal, alone_andThen, hrecord, hjournal,
    hreceipt, houtbox, insertingReceipt, insertingOutbox, bind_assoc, ok_bind, pure_bind]

def postingPolicyTx (proposal : JournalProposal) : Option AccountingPolicy → Tx AccountingPolicy
  | some policy => pure policy
  | none => resolveAccountingPolicyTx dep proposal

theorem alone_postingPolicyTx (proposal : JournalProposal) (suppliedPolicy : Option AccountingPolicy)
    (t : Tables) :
    (postingPolicyTx dep proposal suppliedPolicy).alone ledgerStore t =
      postingPolicy dep t proposal suppliedPolicy >>= fun policy => .ok (policy, t) := by
  cases suppliedPolicy with
  | some policy => rfl
  | none => exact alone_resolveAccountingPolicyTx dep proposal t

/-- `_persist_proposal` for a key that has no record yet. -/
def persistFreshProposalTx (proposal : JournalProposal) (suppliedPolicy : Option AccountingPolicy) :
    Tx PostingReceipt := do
  check (require (∀ line ∈ proposal.lines, line.accountRoleCode ≠ "retained_earnings")
    (.validation ("retained_earnings is reserved for AIS period-close. " ++
      "Post revenue and expense through Billing, then hard-close; no journal was written.")))
  let policy ← postingPolicyTx dep proposal suppliedPolicy
  check (validatePolicyScope proposal policy)
  let resolvedLines ← check (tryMap (resolveLine policy) proposal.lines)
  let entity ← check (dep.loadLegalEntity proposal.legalEntityReference "posting")
  let book ← check (dep.requireBook entity.legalEntityId policy.intendedBookRoleCode
    policy.accountingBookReference)
  let period ← requireOpenBookPeriodTx dep book.accountingBookId proposal.accountingDate
  let receipt := PostingLedger.postingReceipt proposal policy resolvedLines
  writePostingTx dep (postingRecord proposal)
    (postingJournal proposal policy entity book period resolvedLines) receipt
  pure receipt

/-- `_persist_proposal`. -/
def persistProposalTx (proposal : JournalProposal) (suppliedPolicy : Option AccountingPolicy) :
    Tx PostingReceipt := do
  acquire ("proposal:" ++ proposal.idempotencyKey)
  let prior ← ask fun t => .ok (t.proposalRecordByKey proposal.idempotencyKey)
  match prior with
  | some prior => do
    check (require (prior.sourcePayloadHash = proposal.sourcePayloadHash) idempotencyKeyConflict)
    ask fun t => receiptForIdempotencyKey dep t proposal
  | none => persistFreshProposalTx dep proposal suppliedPolicy

theorem alone_persistFreshProposalTx (proposal : JournalProposal)
    (suppliedPolicy : Option AccountingPolicy) (t : Tables) :
    (persistFreshProposalTx dep proposal suppliedPolicy).alone ledgerStore t =
      persistFreshProposal dep t proposal suppliedPolicy := by
  simp only [persistFreshProposalTx, persistFreshProposal, alone_andThen, alone_check,
    alone_postingPolicyTx, alone_requireOpenBookPeriodTx, alone_writePostingTx, alone_pure,
    bind_assoc, ok_bind]
  rfl

/-- Alone the transaction computes what the command computes. -/
theorem alone_persistProposalTx (proposal : JournalProposal)
    (suppliedPolicy : Option AccountingPolicy) (t : Tables) :
    (persistProposalTx dep proposal suppliedPolicy).alone ledgerStore t =
      persistProposal dep t proposal suppliedPolicy := by
  simp only [persistProposalTx, persistProposal, alone_andThen, alone_acquire, alone_ask, ok_bind]
  cases t.proposalRecordByKey proposal.idempotencyKey with
  | some prior =>
    simp only [alone_andThen, alone_check, alone_ask, bind_assoc, ok_bind]
    rfl
  | none => exact alone_persistFreshProposalTx dep proposal suppliedPolicy t

/-- `post_adjusting_journal` for a key that has no record yet. -/
def persistFreshAdjustingTx (request : AdjustingRequest) : Tx Unit := do
  let scope ← check (dep.loadScope request.legalEntityReference request.accountingBookReference
    "the journal post")
  check (require (request.transactionCurrency = scope.2.reportingCurrencyCode)
    (.validation ("currency " ++ request.transactionCurrency ++
      " does not match book reporting currency " ++ scope.2.reportingCurrencyCode ++
      ". Supply the book reporting currency, then retry the journal post.")))
  let period ← ask fun t => adjustingPeriod dep t request scope.2
  let versions ← check (fetch (adjustingVersions dep scope.2.accountingBookId)
    (.validation ("No account_role_mapping is effective for this book. " ++
      "Create the account_role_mapping rows, then retry the journal post.")))
  let policy ← check (AccountingPolicy.build {
    tenantReference := dep.catalog.tenantReference
    legalEntityReference := request.legalEntityReference
    accountingBookReference := request.accountingBookReference
    intendedBookRoleCode := scope.2.bookRoleCode
    transactionCurrency := request.transactionCurrency
    functionalCurrency := scope.1.functionalCurrencyCode
    openPeriodStart := period.periodStartDate
    openPeriodEnd := period.periodEndDate
    chartAccountMapping := Dict.empty
    accountingPolicyVersion := versions.accountingPolicyVersion
    postingRuleVersion := versions.postingRuleVersion })
  writePostingTx dep (adjustingRecord request)
    (adjustingJournal request policy scope.1 scope.2 period) (adjustingReceipt dep request policy)

/-- `post_adjusting_journal`. -/
def postAdjustingJournalTx (request : AdjustingRequest) : Tx Unit := do
  let _ ← check (requireProposalId request.proposalId)
  acquire ("adjusting:" ++ request.idempotencyKey)
  let prior ← ask fun t => .ok (t.proposalRecordByKey request.idempotencyKey)
  match prior with
  | some prior =>
    check (require (prior.sourcePayloadHash = request.sourcePayloadHash) idempotencyKeyConflict)
  | none => persistFreshAdjustingTx dep request

theorem alone_postAdjustingJournalTx (request : AdjustingRequest) (t : Tables) :
    (postAdjustingJournalTx dep request).alone ledgerStore t =
      postAdjustingJournal dep t request >>= fun t' => .ok ((), t') := by
  simp only [postAdjustingJournalTx, postAdjustingJournal, alone_andThen, alone_check, alone_acquire,
    alone_ask, bind_assoc, ok_bind]
  refine congrArg _ (funext fun _ => ?_)
  cases t.proposalRecordByKey request.idempotencyKey with
  | some prior =>
    simp only [alone_check, bind_assoc]
    rfl
  | none =>
    simp only [persistFreshAdjustingTx, persistFreshAdjusting, alone_andThen, alone_check, alone_ask,
      alone_writePostingTx, bind_assoc, ok_bind]

/-! ## Reversals -/

/-- `_require_adjusting_period_bounds`, read, locked and read again. -/
def requireAdjustingPeriodTx (accountingDate : Date) : Tx FiscalPeriod := do
  let candidate ← ask fun t =>
    fetch (dep.fetchone (periodsCovering t accountingDate)) (noPeriodCovers accountingDate)
  acquire ("period:" ++ candidate.periodCode)
  ask fun t => do
    let period ← fetch (t.period? candidate.fiscalPeriodId) (noPeriodCovers accountingDate)
    require (period.periodStatus ≠ .hardClosed)
      (.validation ("Fiscal period " ++ period.periodCode ++ " is " ++ period.periodStatus.code ++
        lockedMarker period.periodStatus ++ ". Reverse into an open or soft-closed period; " ++
        "no journal was written."))
    pure period

/-- What is checked of an original that was read. -/
def reversalScope (request : ReversalRequest) (policy : AccountingPolicy)
    (original : GeneralJournal) : Result Unit := do
  require (original.accountingDate ≤ request.reversalDate)
    (.validation "reversal date cannot precede original journal accounting date. Supply a reversal_date on or after the original accounting date, then retry reversal.")
  require (policy.permits request.reversalDate = true)
    (.validation "reversal date belongs to a closed fiscal period. Reverse into an open or soft-closed period, then retry reversal.")
  let legalEntityCode ← fetch (legalEntityCode? dep original.legalEntityId) .missingRow
  let bookName ← fetch (bookName? dep original.accountingBookId) .missingRow
  require (dep.catalog.tenantReference = policy.tenantReference ∧
      legalEntityCode = policy.legalEntityReference ∧ bookName = policy.accountingBookReference)
    (.validation "reversal policy scope does not match original journal. Supply the reversal policy for the original journal's legal entity and book, then retry reversal.")

/-- The original of a fresh reversal, and whether it is a reversal itself. -/
def reversibleJournalTx (request : ReversalRequest) (policy : AccountingPolicy) :
    Tx GeneralJournal := do
  let original ← ask fun t => fetch (t.journalByReference request.journalReference)
    (.validation "journal does not exist. Supply a posted journal reference, then retry reversal.")
  ask fun t => require (lineageOf? t original.generalJournalId = none)
    (.validation "a reversal journal cannot itself be reversed. Reverse the original journal, or post a replacement.")
  check (reversalScope dep request policy original)
  pure original

/-- The rows of `_load_lines`. -/
def linesOf (t : Tables) (generalJournalId : ℕ) : List JournalEntryLine :=
  (t.journal? generalJournalId).elim [] GeneralJournal.lines

/-- The inserts of a reversal. -/
def writeReversalTx (request : ReversalRequest) (original : GeneralJournal) (new : ℕ → NewJournal)
    (receipt : PostingReceipt) : Tx Unit := do
  let recordId ← add (inserting fun t => insertProposalRecord t (reversalRecord dep t request))
  let journal ← add (inserting fun t => insertJournal dep t (new recordId))
  add (inserting (insertingReversal original journal request.reversalReasonCode))
  add (inserting (insertingReceipt dep recordId journal.generalJournalId receipt))
  add (inserting (insertingOutbox dep "journal_reversal" (request.journalReference ++ ":reversal")
    receipt))

/-- `reverse` for a journal that has no lineage yet. -/
def persistFreshReversalTx (request : ReversalRequest) (policy : AccountingPolicy) :
    Tx PostingReceipt := do
  ask fun t => require (t.proposalRecordByKey request.commandKey = none)
    (.idempotencyConflict "reversal idempotency key was already used by another accounting command. Supply a new reversal command identity, then retry.")
  let original ← reversibleJournalTx dep request policy
  let period ← requireAdjustingPeriodTx dep request.reversalDate
  let lines ← ask fun t => .ok (linesOf t original.generalJournalId)
  ask fun t => require (t.journalByReference (request.journalReference ++ ":reversal") = none)
    postedJournalImmutable
  let originalRecord ← ask fun t => fetch (t.proposalRecord? original.sourceProposalRecordId) .missingRow
  let new := newReversalJournal dep request policy { original with lines := lines } period
  let receipt := reversalReceipt dep request policy (originalRecord.externalProposalId.text dep)
    (new 0).lines.length
  writeReversalTx dep request original new receipt
  pure receipt

/-- `PostgresPostingLedger.reverse`. -/
def reverseTx (request : ReversalRequest) (policy : AccountingPolicy) : Tx PostingReceipt := do
  check (requireCode request.reversalReasonCode "reversal reason code")
  check (require (request.commandKey ≠ "")
    (.validation ("reversal idempotency key must not be empty. " ++
      "Supply the reversal command identity, then retry reversal.")))
  acquire ("reversal:" ++ request.journalReference ++ ":" ++ request.commandKey)
  let existing ← ask fun t => .ok (existingReversal t request.journalReference)
  match existing with
  | some existing => ask fun t => replayReversal dep t request existing
  | none => persistFreshReversalTx dep request policy

theorem alone_requireAdjustingPeriodTx (accountingDate : Date) (t : Tables) :
    (requireAdjustingPeriodTx dep accountingDate).alone ledgerStore t =
      requireAdjustingPeriodBounds dep t accountingDate >>= fun period => .ok (period, t) := by
  simp only [requireAdjustingPeriodTx, requireAdjustingPeriodBounds, alone_andThen, alone_ask,
    alone_acquire, bind_assoc, ok_bind]

theorem alone_reversibleJournalTx (request : ReversalRequest) (policy : AccountingPolicy)
    (t : Tables) :
    (reversibleJournalTx dep request policy).alone ledgerStore t =
      reversibleJournal dep t request policy >>= fun original => .ok (original, t) := by
  simp only [reversibleJournalTx, reversibleJournal, reversalScope, alone_andThen, alone_ask,
    alone_check, alone_pure, bind_assoc, ok_bind]
  rfl

/-- The lines read for a journal are its own. -/
theorem linesOf_eq {t : Tables} (hkeys : (t.journals.map GeneralJournal.generalJournalId).Nodup)
    {journal : GeneralJournal} (h : journal ∈ t.journals) :
    linesOf t journal.generalJournalId = journal.lines := by
  rw [linesOf, Tables.journal?, find?_of_nodup_map hkeys h]
  rfl

theorem alone_writeReversalTx (request : ReversalRequest) (original : GeneralJournal)
    (new : ℕ → NewJournal) (receipt : PostingReceipt) (t : Tables) :
    (writeReversalTx dep request original new receipt).alone ledgerStore t =
      insertRecordedJournal dep t (reversalRecord dep t request) new >>= fun written =>
        insertReversal written.2.2 original written.2.1 request.reversalReasonCode >>= fun t =>
          .ok ((), insertOutbox dep (insertReceipt dep t written.1 written.2.1.generalJournalId receipt)
            "journal_reversal" (request.journalReference ++ ":reversal") receipt.receiptReference
            receipt) := by
  have hrecord := alone_inserting (appends_insertProposalRecord fun t => reversalRecord dep t request)
  have hjournal := fun new => alone_inserting (appends_insertJournal dep new)
  have hreversal := fun journal => alone_inserting
    (appends_insertingReversal original journal request.reversalReasonCode)
  have hreceipt := fun recordId journalId =>
    alone_inserting (appends_insertingReceipt dep recordId journalId receipt)
  have houtbox := alone_inserting
    (appends_insertingOutbox dep "journal_reversal" (request.journalReference ++ ":reversal") receipt)
  have hmap : ∀ (x : Result Tables) (f : Unit × Tables → Result (Unit × Tables)),
      x.map (fun t' => ((), t')) >>= f = x >>= fun t' => f ((), t') := by
    intro x f
    cases x with
    | error e => rfl
    | ok t' => rfl
  simp only [writeReversalTx, insertRecordedJournal, alone_andThen, hrecord, hjournal, hreversal,
    hreceipt, houtbox, insertingReversal, insertingReceipt, insertingOutbox, hmap, bind_assoc,
    ok_bind, pure_bind]

theorem alone_persistFreshReversalTx (request : ReversalRequest) (policy : AccountingPolicy)
    {t : Tables} (hkeys : (t.journals.map GeneralJournal.generalJournalId).Nodup) :
    (persistFreshReversalTx dep request policy).alone ledgerStore t =
      persistFreshReversal dep t request policy := by
  simp only [persistFreshReversalTx, persistFreshReversal, alone_andThen, alone_ask,
    alone_reversibleJournalTx, alone_requireAdjustingPeriodTx, bind_assoc, ok_bind]
  refine congrArg _ (funext fun _ => ?_)
  cases horiginal : reversibleJournal dep t request policy with
  | error e => rfl
  | ok original =>
    have hmem : original ∈ t.journals :=
      List.mem_of_find?_eq_some (reversibleJournal_ok dep horiginal).1
    simp only [ok_bind, linesOf_eq hkeys hmem, alone_writeReversalTx, alone_pure, bind_assoc]
    rfl

/-- Alone the transaction computes what the command computes. -/
theorem alone_reverseTx (request : ReversalRequest) (policy : AccountingPolicy) {t : Tables}
    (hkeys : (t.journals.map GeneralJournal.generalJournalId).Nodup) :
    (reverseTx dep request policy).alone ledgerStore t = reverse dep t request policy := by
  simp only [reverseTx, reverse, alone_andThen, alone_check, alone_acquire, alone_ask, bind_assoc,
    ok_bind]
  refine congrArg _ (funext fun _ => congrArg _ (funext fun _ => ?_))
  cases existingReversal t request.journalReference with
  | some existing => rfl
  | none => exact alone_persistFreshReversalTx dep request policy hkeys

end AccountingPlatform.Postgres
