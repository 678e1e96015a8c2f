/-
  Closing a fiscal period of one book: soft close, hard close with its closing journal and
  trial-balance snapshot, and the replay of either.

  A hard close first assembles the period-close package and uses one document of it, the trial
  balance. Of the other worksheets the close reads only whether they can be loaded, so they
  stand here for the checks that refuse them.
-/
import AccountingPlatform.Postgres.Statements

namespace AccountingPlatform.Postgres

open AccountingPlatform.Lib AccountingPlatform.Core

variable (dep : Deployment)

/-! ## Package -/

/-- The account check of `_load_account_aging`. -/
def requireAgedAccount (book : AccountingBook) (catalogRoleCode readName : String) : Result Unit := do
  let accounts := dep.catalog.chartAccounts.filter fun account =>
    account.accountingBookId = book.accountingBookId ∧ account.isCurrent
  let rows := dep.rowOrder (accounts.flatMap fun account =>
    match dep.currentMappings account.chartAccountId with
    | [] => [(account.chartAccountCode, none)]
    | mappings => mappings.map fun m => (account.chartAccountCode, some m.accountRoleCode))
  let catalogAccountCode :=
    ((rows.find? fun row => row.2 = some catalogRoleCode).map Prod.fst).getD ""
  require (∃ account ∈ accounts, account.chartAccountCode = catalogAccountCode)
    (.validation ("Chart account " ++ catalogAccountCode ++ " is not recorded for this book. " ++
      "Create the chart_account row, then retry the " ++ readName ++ " read."))

/-- The account check of a register over one catalog account. -/
def requireCatalogAccount (book : AccountingBook) (code readName : String) : Result Unit :=
  require ((chartAccountClasses dep book).get? code).isSome
    (.validation ("Chart account " ++ code ++ " is not recorded for this book. " ++
      "Create the chart_account row, then retry the " ++ readName ++ " read."))

/-- `_assemble_period_close_package`, down to its trial balance. -/
def assemblePeriodClosePackage (t : Tables)
    (legalEntityReference accountingBookReference periodCode : String) :
    Result TrialBalanceDocument := do
  let _ ← dep.loadLegalEntity legalEntityReference "the period read"
  let period ← fetch (periodByCode dep t periodCode)
    (.validation ("Fiscal period " ++ periodCode ++ " is not recorded for this tenant. " ++
      "Create the fiscal_period row, then retry the period read."))
  let trialBalance ← loadPeriodTrialBalance dep t legalEntityReference accountingBookReference
    periodCode ""
  let _ ← tryMap (fun statementTypeCode => loadFinancialStatement dep t legalEntityReference
      accountingBookReference periodCode statementTypeCode "" "")
    ["income_statement", "balance_sheet", "changes_in_equity", "cash_flow"]
  let (entity, book) ← dep.loadScope legalEntityReference accountingBookReference
    "the receivable-aging read"
  requireAgedAccount dep book "accounts_receivable" "receivable-aging"
  requireAgedAccount dep book "tax_payable" "payable-aging"
  requireCatalogAccount dep book "210200" "unapplied-cash-rollforward"
  let _ ← openingAccountSides dep t entity.legalEntityId book.accountingBookId "210200"
    period.periodStartDate
  requireCatalogAccount dep book "210100" "vat-period-register"
  pure trialBalance

/-- `_require_closeable_package`. -/
def requireCloseablePackage (trialBalance : TrialBalanceDocument) : Result Unit :=
  require (decimalSum (trialBalance.lines.map fun line => (line.debitAmount : ℤ)) =
      decimalSum (trialBalance.lines.map fun line => (line.creditAmount : ℤ)))
    (.validation ("trial balance does not balance. " ++
      "Correct the posted journals so debit totals equal credit totals, then retry the close."))

/-! ## Closing journal -/

def isClearedRole (accountRoleCode : String) : Bool :=
  accountRoleCode == "usage_revenue" || accountRoleCode == "write_off_expense"

/-- Current mappings of an account to a role that hard close clears. -/
def clearedMappings (chartAccountId : ℕ) : List AccountRoleMapping :=
  (dep.currentMappings chartAccountId).filter fun m => isClearedRole m.accountRoleCode

/-- Lines through the period end, one row for each cleared mapping of their account. -/
def closingRows (t : Tables) (legalEntityId bookId : ℕ) (periodEndDate : Date) :
    List (LedgerLine × String) :=
  (linesThrough dep t legalEntityId bookId periodEndDate).flatMap fun row =>
    (clearedMappings dep row.account.chartAccountId).map fun m => (row, m.accountRoleCode)

/-- GROUP BY code and role, ORDER BY code. -/
def closingIncome (t : Tables) (legalEntityId bookId : ℕ) (periodEndDate : Date) :
    List (String × String × ℕ × ℕ) :=
  let rows := closingRows dep t legalEntityId bookId periodEndDate
  (groupKeys (fun a b : String × String => dep.collation a.1 b.1)
    (fun row : LedgerLine × String => (row.1.code, row.2)) (dep.rowOrder rows)).map fun key =>
      let group := rows.filter fun row => (row.1.code, row.2) = key
      (key.1, key.2, total (fun row => row.1.debit) group, total (fun row => row.1.credit) group)

/-- The loop: clearing lines and the amount for retained earnings. The net amount is rounded,
    so negating it is exact. -/
def clearingLines : List (String × String × ℕ × ℕ) → List PostedJournalLine → ℤ →
    List PostedJournalLine × ℤ
  | [], lines, retainedEarningsAmount => (lines, retainedEarningsAmount)
  | (code, role, debitTotal, creditTotal) :: rest, lines, retainedEarningsAmount =>
    let netAmount := contextRound ((creditTotal : ℤ) - debitTotal)
    if netAmount = 0 then clearingLines rest lines retainedEarningsAmount
    else clearingLines rest
      (lines ++ [⟨lines.length + 1, code, role, netAmount.toNat, (-netAmount).toNat⟩])
      (contextRound (retainedEarningsAmount + netAmount))

/-- The line on retained earnings, left out when the amount is zero. -/
def retainedEarningsLine (lineNumber : ℕ) (amount : ℤ) : List PostedJournalLine :=
  if amount = 0 then []
  else [⟨lineNumber, "310100", "retained_earnings", (-amount).toNat, amount.toNat⟩]

/-- Lines of the closing journal; none when nothing is to be cleared. -/
def closingLines (t : Tables) (legalEntityId bookId : ℕ) (periodEndDate : Date) :
    List PostedJournalLine :=
  let cleared := clearingLines (closingIncome dep t legalEntityId bookId periodEndDate) [] 0
  if cleared.1 = [] then []
  else cleared.1 ++ retainedEarningsLine (cleared.1.length + 1) cleared.2

/-- `_require_retained_earnings_mapping`. -/
def requireRetainedEarningsMapping (bookId : ℕ) : Result AccountRoleMapping :=
  fetch (dep.fetchone (dep.catalog.roleMappings.filter fun m =>
      m.accountingBookId = bookId ∧ m.accountRoleCode = "retained_earnings" ∧ m.isCurrent ∧
        ((dep.chartAccount? m.chartAccountId).any fun account =>
          account.chartAccountCode = "310100" ∧ account.isCurrent)))
    (.validation ("account_role_mapping is missing for retained_earnings → 310100. " ++
      "Create the retained_earnings mapping and chart_account 310100, then retry the close."))

structure CloseRequest where
  legalEntityReference : String
  accountingBookReference : String
  periodCode : String
  snapshotCurrencyCode : String
  periodStatusCode : String
  idempotencyKey : String

/-- `close_idempotency_key`: the given key, or one built from the book and period. -/
def closeIdempotencyKey (request : CloseRequest) : String :=
  let key := strip request.idempotencyKey
  if key = "" then dep.catalog.tenantReference ++ ":period_close:" ++
    request.accountingBookReference ++ ":" ++ request.periodCode
  else key

def closingReference (request : CloseRequest) : String :=
  "urn:cwl:accounting:general_journal:period_closing:" ++ request.periodCode ++ ":" ++
    request.accountingBookReference

def closingRecord (t : Tables) (request : CloseRequest) (lines : List PostedJournalLine) :
    NewProposalRecord where
  externalProposalId := .generated t.nextId
  proposalContractVersion := 1
  idempotencyKey := dep.catalog.tenantReference ++ ":period_closing:" ++ request.periodCode ++ ":" ++
    request.accountingBookReference
  sourcePayloadHash := dep.digest (.closing request.accountingBookReference
    request.legalEntityReference lines request.periodCode dep.catalog.tenantReference)

def newClosingJournal (request : CloseRequest) (entity : LegalEntityRecord) (book : AccountingBook)
    (period : FiscalPeriod) (policy : AccountingPolicy) (lines : List PostedJournalLine)
    (proposalRecordId : ℕ) : NewJournal where
  legalEntityId := entity.legalEntityId
  accountingBookId := book.accountingBookId
  fiscalPeriodId := period.fiscalPeriodId
  journalReference := closingReference request
  writeRole := .periodClosing
  transactionCurrency := request.snapshotCurrencyCode
  functionalCurrency := policy.functionalCurrency
  transactionDate := period.periodEndDate
  accountingDate := period.periodEndDate
  accountingPolicyVersion := policy.accountingPolicyVersion
  postingRuleVersion := policy.postingRuleVersion
  proposalRecordId := proposalRecordId
  lines := lines
  sourceEventReferences := []
  sourcePayloadHash := dep.digest (.closing request.accountingBookReference
    request.legalEntityReference lines request.periodCode dep.catalog.tenantReference)

/-- `_post_closing_journal`: no journal when nothing is to be cleared. -/
def postClosingJournal (t : Tables) (request : CloseRequest) (entity : LegalEntityRecord)
    (book : AccountingBook) (period : FiscalPeriod) : Result (Option GeneralJournal × Tables) := do
  let lines := closingLines dep t entity.legalEntityId book.accountingBookId period.periodEndDate
  if lines = [] then pure (none, t)
  else
    let versions ← requireRetainedEarningsMapping dep book.accountingBookId
    let record ← insertProposalRecord t (closingRecord dep t request lines)
    let policy ← AccountingPolicy.build {
      tenantReference := dep.catalog.tenantReference
      legalEntityReference := request.legalEntityReference
      accountingBookReference := request.accountingBookReference
      intendedBookRoleCode := book.bookRoleCode
      transactionCurrency := request.snapshotCurrencyCode
      functionalCurrency := request.snapshotCurrencyCode
      openPeriodStart := period.periodEndDate
      openPeriodEnd := period.periodEndDate
      chartAccountMapping := Dict.empty.set "retained_earnings" "310100"
      accountingPolicyVersion := versions.accountingPolicyVersion
      postingRuleVersion := versions.postingRuleVersion }
    let journal ← insertJournal dep record.2
      (newClosingJournal dep request entity book period policy lines record.1)
    pure (some journal.1, journal.2)

/-! ## Snapshot -/

/-- `_live_close_source`: aggregate, journal count and payload hash. -/
def liveCloseSource (t : Tables) (request : CloseRequest) (entity : LegalEntityRecord)
    (book : AccountingBook) (period : FiscalPeriod) : List BalanceRow × ℕ × String :=
  let rows := aggregateTrialBalance dep t entity.legalEntityId book.accountingBookId
    period.periodEndDate
  let count := countSourceJournals t entity.legalEntityId book.accountingBookId period.periodEndDate
  (rows, count, dep.digest (.snapshot request.accountingBookReference request.legalEntityReference
    (rows.map fun row => (row.chartAccountCode, row.creditTotal, row.debitTotal,
      contextRound ((row.debitTotal : ℤ) - row.creditTotal)))
    request.periodCode request.snapshotCurrencyCode count dep.catalog.tenantReference))

def snapshotLine (row : BalanceRow) : TrialBalanceLine :=
  ⟨row.chartAccountId, row.debitTotal, row.creditTotal,
    contextRound ((row.debitTotal : ℤ) - row.creditTotal)⟩

/-- The snapshot row of a close. -/
def newSnapshot (t : Tables) (request : CloseRequest) (entity : LegalEntityRecord)
    (book : AccountingBook) (period : FiscalPeriod) : TrialBalanceSnapshot where
  trialBalanceSnapshotId := t.nextId
  legalEntityId := entity.legalEntityId
  accountingBookId := book.accountingBookId
  fiscalPeriodId := period.fiscalPeriodId
  snapshotCurrencyCode := request.snapshotCurrencyCode
  snapshotGeneratedAt := t.clock
  sourceJournalCount := (liveCloseSource dep t request entity book period).2.1
  sourcePayloadHash := (liveCloseSource dep t request entity book period).2.2
  closeIdempotencyKey := closeIdempotencyKey dep request
  lines := (liveCloseSource dep t request entity book period).1.map snapshotLine

/-- INSERT INTO trial_balance_snapshot and trial_balance_line. -/
def insertSnapshot (t : Tables) (snapshot : TrialBalanceSnapshot) : Result Tables := do
  require (∀ s ∈ t.snapshots, s.closeIdempotencyKey ≠ snapshot.closeIdempotencyKey) uniqueViolation
  require (∀ s ∈ t.snapshots, ¬(s.legalEntityId = snapshot.legalEntityId ∧
    s.accountingBookId = snapshot.accountingBookId ∧
    s.fiscalPeriodId = snapshot.fiscalPeriodId)) uniqueViolation
  require (∀ line ∈ snapshot.lines, fitsNumeric line.debitTotalAmount ∧
    fitsNumeric line.creditTotalAmount ∧ fitsNumeric line.netBalanceAmount.natAbs) outOfRange
  pure { t with snapshots := t.snapshots ++ [snapshot], nextId := t.nextId + 1 }

/-! ## Receipts and events -/

structure PeriodCloseReceipt where
  tenantReference : String
  legalEntityReference : String
  accountingBookReference : String
  periodCode : String
  periodStatus : PeriodStatus
  /-- Empty for a soft close. -/
  snapshotRecordId : Option ℕ
  snapshotGeneratedAt : Timestamp
  sourceJournalCount : ℕ
  sourcePayloadHash : String
  replayed : Bool
  deriving DecidableEq

def closeReceipt (request : CloseRequest) (status : PeriodStatus) (snapshotRecordId : Option ℕ)
    (generatedAt : Timestamp) (sourceJournalCount : ℕ) (sourcePayloadHash : String)
    (replayed : Bool) : PeriodCloseReceipt :=
  ⟨dep.catalog.tenantReference, request.legalEntityReference, request.accountingBookReference,
    request.periodCode, status, snapshotRecordId, generatedAt, sourceJournalCount, sourcePayloadHash,
    replayed⟩

/-- `_insert_period_close_event`. -/
def insertPeriodCloseEvent (t : Tables) (request : CloseRequest) (snapshotId : Option ℕ)
    (payloadHash : String) : Tables :=
  { t with outboxEvents := t.outboxEvents ++ [{
      eventTypeCode := "period_close"
      aggregateReference := request.accountingBookReference ++ ":fiscal_period:" ++ request.periodCode
      payloadReference := match snapshotId with
        | some id => "urn:cwl:accounting:trial_balance_snapshot:" ++ dep.uuidText id
        | none => fiscalPeriodReference request.periodCode
      payloadHash := payloadHash }] }

/-! ## Hard close -/

/-- `_persist_period_close`. -/
def persistPeriodClose (t : Tables) (request : CloseRequest) (entity : LegalEntityRecord)
    (book : AccountingBook) (period : FiscalPeriod) : Result (PeriodCloseReceipt × Tables) := do
  let posted ← postClosingJournal dep t request entity book period
  let snapshot := newSnapshot dep posted.2 request entity book period
  let t ← insertSnapshot posted.2 snapshot
  let t := setBookPeriodClosed dep t book.accountingBookId period.fiscalPeriodId .hardClosed
  let t := insertPeriodCloseEvent dep t request (some snapshot.trialBalanceSnapshotId)
    snapshot.sourcePayloadHash
  pure (closeReceipt dep request .hardClosed (some snapshot.trialBalanceSnapshotId)
    snapshot.snapshotGeneratedAt snapshot.sourceJournalCount snapshot.sourcePayloadHash false, t)

/-- `_replay_close_receipt`. -/
def replayCloseReceipt (t : Tables) (request : CloseRequest) (entity : LegalEntityRecord)
    (book : AccountingBook) (period : FiscalPeriod) : Result PeriodCloseReceipt := do
  let snapshot ← fetch
    (latestCloseSnapshot t entity.legalEntityId book.accountingBookId period.fiscalPeriodId)
    (.validation ("Fiscal period " ++ request.periodCode ++
      " is hard_closed without a trial-balance snapshot. " ++
      "Restore the trial_balance_snapshot for this book from the journal population, " ++
      "then retry the close."))
  require (snapshot.closeIdempotencyKey = closeIdempotencyKey dep request)
    (.validation ("Fiscal period " ++ request.periodCode ++ " is hard_closed (period_closed). " ++
      "Replay the original period-close idempotency key; " ++
      "a second close of a locked period is rejected."))
  pure (closeReceipt dep request .hardClosed (some snapshot.trialBalanceSnapshotId)
    snapshot.snapshotGeneratedAt snapshot.sourceJournalCount snapshot.sourcePayloadHash true)

/-! ## Soft close -/

/-- `_persist_soft_close`. -/
def persistSoftClose (t : Tables) (request : CloseRequest) (entity : LegalEntityRecord)
    (book : AccountingBook) (period : FiscalPeriod) (control : BookPeriodControl) :
    Result (PeriodCloseReceipt × Tables) := do
  let source := liveCloseSource dep t request entity book period
  let evidence : SoftCloseEvidence := ⟨closeIdempotencyKey dep request, source.2.2, source.2.1⟩
  require (fitsInt4 source.2.1) outOfRange
  require (control.softClose = none ∨ control.softClose = some evidence) checkViolation
  require (∀ c ∈ t.bookPeriodControls, ¬(c.accountingBookId = book.accountingBookId ∧
      c.fiscalPeriodId = period.fiscalPeriodId) →
    ∀ e, c.softClose = some e → e.idempotencyKey ≠ evidence.idempotencyKey) uniqueViolation
  let t := setBookPeriodClosed dep t book.accountingBookId period.fiscalPeriodId .softClosed
  let t := { t with
    bookPeriodControls := updateControl book.accountingBookId period.fiscalPeriodId
      (fun c => { c with softClose := some evidence }) t.bookPeriodControls }
  pure (closeReceipt dep request .softClosed none t.clock source.2.1 source.2.2 false,
    insertPeriodCloseEvent dep t request none source.2.2)

/-- `_replay_soft_close_receipt`. -/
def replaySoftCloseReceipt (t : Tables) (request : CloseRequest) (control : BookPeriodControl) :
    Result PeriodCloseReceipt := do
  let evidence ← fetch control.softClose
    (.validation ("Fiscal period " ++ request.periodCode ++
      " is soft_closed without durable close-command evidence. " ++
      "Restore the original evidence through an audited migration, then retry; " ++
      "do not reconstruct it from later ledger state."))
  require (evidence.idempotencyKey = closeIdempotencyKey dep request)
    (.idempotencyConflict "period-close idempotency key was already used by the soft-close command. Replay the original close idempotency key, then retry the close.")
  pure (closeReceipt dep request .softClosed none (control.periodClosedAt.getD t.clock)
    evidence.sourceJournalCount evidence.sourcePayloadHash true)

/-! ## The command -/

/-- The checks of `close_fiscal_period` before its transaction. -/
def requireCloseRequest (request : CloseRequest) : Result PeriodStatus := do
  requireReference request.legalEntityReference "legal entity reference"
  requireReference request.accountingBookReference "accounting book reference"
  require (strip request.periodCode ≠ "")
    (.validation "period_code is required. Supply the fiscal period code, then retry the close.")
  require (matchesCurrency request.snapshotCurrencyCode = true)
    (.validation ("snapshot_currency_code must be a three-letter ISO currency. " ++
      "Supply the book reporting currency, then retry the close."))
  if request.periodStatusCode = "soft_closed" then pure .softClosed
  else if request.periodStatusCode = "hard_closed" then pure .hardClosed
  else .error (.validation ("period_status_code must be soft_closed or hard_closed. " ++
    "Supply one of those codes, then retry the close."))

/-- What a locked control row leads to. -/
def closeLockedPeriod (t : Tables) (request : CloseRequest) (entity : LegalEntityRecord)
    (book : AccountingBook) (period : FiscalPeriod) (control : BookPeriodControl)
    (requested : PeriodStatus) : Result (PeriodCloseReceipt × Tables) :=
  if control.periodStatus = .hardClosed then
    if requested = .softClosed then
      .error (.validation ("Fiscal period " ++ request.periodCode ++ " is hard_closed. " ++
        "Hard-closed periods cannot be soft-closed. " ++
        "Open a later period or leave this period hard_closed; no close row was written."))
    else do
      let receipt ← replayCloseReceipt dep t request entity book period
      pure (receipt, t)
  else if control.periodStatus = requested then do
    let receipt ← replaySoftCloseReceipt dep t request control
    pure (receipt, t)
  else if requested = .softClosed then persistSoftClose dep t request entity book period control
  else do
    let trialBalance ← assemblePeriodClosePackage dep t request.legalEntityReference
      request.accountingBookReference request.periodCode
    requireCloseablePackage trialBalance
    persistPeriodClose dep t request entity book period

/-- `close_fiscal_period`. -/
def closeFiscalPeriod (t : Tables) (request : CloseRequest) :
    Result (PeriodCloseReceipt × Tables) := do
  let requested ← requireCloseRequest request
  let (entity, book) ← dep.loadScope request.legalEntityReference request.accountingBookReference
    "the close"
  require (request.snapshotCurrencyCode = book.reportingCurrencyCode)
    (.validation ("snapshot currency " ++ request.snapshotCurrencyCode ++
      " does not match book reporting currency " ++ book.reportingCurrencyCode ++
      ". Supply the book reporting currency, then retry the close."))
  let (period, control, t) ← lockBookPeriod dep t book.accountingBookId request.periodCode
  closeLockedPeriod dep t request entity book period control requested

/-! ## What a close can do -/

/-- Either nothing was to be cleared, or one balanced journal was written. -/
theorem postClosingJournal_ok {t t' : Tables} {request : CloseRequest} {entity : LegalEntityRecord}
    {book : AccountingBook} {period : FiscalPeriod} {posted : Option GeneralJournal}
    (h : postClosingJournal dep t request entity book period = .ok (posted, t')) :
    (closingLines dep t entity.legalEntityId book.accountingBookId period.periodEndDate = [] ∧
      posted = none ∧ t' = t) ∨
    ∃ policy journal, posted = some journal ∧
      closingLines dep t entity.legalEntityId book.accountingBookId period.periodEndDate ≠ [] ∧
      RecordedJournal dep t
        (closingRecord dep t request
          (closingLines dep t entity.legalEntityId book.accountingBookId period.periodEndDate))
        (newClosingJournal dep request entity book period policy
          (closingLines dep t entity.legalEntityId book.accountingBookId period.periodEndDate))
        journal t' := by
  unfold postClosingJournal at h
  dsimp only at h
  split at h
  · next hlines =>
    simp only [pure_eq_ok, Prod.mk.injEq] at h
    obtain ⟨rfl, rfl⟩ := h
    exact Or.inl ⟨hlines, rfl, rfl⟩
  · next hlines =>
    simp only [bind_eq_ok, pure_eq_ok, Prod.mk.injEq] at h
    obtain ⟨versions, -, ⟨recordId, t₁⟩, hrecord, policy, -, ⟨journal, t₂⟩, hjournal, rfl, rfl⟩ := h
    obtain ⟨rfl, rfl, hext, hkey⟩ := insertProposalRecord_ok hrecord
    exact Or.inr ⟨policy, journal, rfl, hlines, insertJournal_ok hjournal, hext, hkey⟩

/-- The tables with the snapshot of a close, before the control row is set. -/
def withSnapshot (t : Tables) (request : CloseRequest) (entity : LegalEntityRecord)
    (book : AccountingBook) (period : FiscalPeriod) : Tables :=
  { t with
    snapshots := t.snapshots ++ [newSnapshot dep t request entity book period]
    nextId := t.nextId + 1 }

/-- A hard close posts, snapshots, locks the row and announces the snapshot. -/
theorem persistPeriodClose_eq {t t' : Tables} {request : CloseRequest} {entity : LegalEntityRecord}
    {book : AccountingBook} {period : FiscalPeriod} {receipt : PeriodCloseReceipt}
    (h : persistPeriodClose dep t request entity book period = .ok (receipt, t')) :
    ∃ posted t₁, postClosingJournal dep t request entity book period = .ok (posted, t₁) ∧
      (∀ s ∈ t₁.snapshots, ¬(s.legalEntityId = entity.legalEntityId ∧
        s.accountingBookId = book.accountingBookId ∧ s.fiscalPeriodId = period.fiscalPeriodId)) ∧
      t' = insertPeriodCloseEvent dep
        (setBookPeriodClosed dep (withSnapshot dep t₁ request entity book period)
          book.accountingBookId period.fiscalPeriodId .hardClosed) request (some t₁.nextId)
        (newSnapshot dep t₁ request entity book period).sourcePayloadHash := by
  simp only [persistPeriodClose, insertSnapshot, bind_eq_ok, require_eq_ok, pure_eq_ok,
    Prod.mk.injEq] at h
  obtain ⟨⟨posted, t₁⟩, hposted, t₂, ⟨-, -, -, hunique, -, -, rfl⟩, -, rfl⟩ := h
  exact ⟨posted, t₁, hposted, hunique, rfl⟩

theorem persistPeriodClose_ok {t t' : Tables} {request : CloseRequest} {entity : LegalEntityRecord}
    {book : AccountingBook} {period : FiscalPeriod} {receipt : PeriodCloseReceipt}
    (h : persistPeriodClose dep t request entity book period = .ok (receipt, t')) :
    ∃ posted t₁, postClosingJournal dep t request entity book period = .ok (posted, t₁) ∧
      (∀ s ∈ t₁.snapshots, ¬(s.legalEntityId = entity.legalEntityId ∧
        s.accountingBookId = book.accountingBookId ∧ s.fiscalPeriodId = period.fiscalPeriodId)) ∧
      ∃ snapshotId payloadHash, t' = insertPeriodCloseEvent dep
        (setBookPeriodClosed dep (withSnapshot dep t₁ request entity book period)
          book.accountingBookId period.fiscalPeriodId .hardClosed) request snapshotId payloadHash := by
  obtain ⟨posted, t₁, hposted, hunique, rfl⟩ := persistPeriodClose_eq dep h
  exact ⟨posted, t₁, hposted, hunique, _, _, rfl⟩

/-- A soft close locks the row, records evidence on it and announces the evidence's hash. -/
theorem persistSoftClose_eq {t t' : Tables} {request : CloseRequest} {entity : LegalEntityRecord}
    {book : AccountingBook} {period : FiscalPeriod} {control : BookPeriodControl}
    {receipt : PeriodCloseReceipt}
    (h : persistSoftClose dep t request entity book period control = .ok (receipt, t')) :
    ∃ evidence, (control.softClose = none ∨ control.softClose = some evidence) ∧
      t' = insertPeriodCloseEvent dep
        { setBookPeriodClosed dep t book.accountingBookId period.fiscalPeriodId .softClosed with
          bookPeriodControls := updateControl book.accountingBookId period.fiscalPeriodId
            (fun c => { c with softClose := some evidence })
            (setBookPeriodClosed dep t book.accountingBookId period.fiscalPeriodId
              .softClosed).bookPeriodControls } request none evidence.sourcePayloadHash := by
  simp only [persistSoftClose, bind_eq_ok, require_eq_ok, pure_eq_ok, Prod.mk.injEq] at h
  obtain ⟨-, -, -, hevidence, -, -, -, rfl⟩ := h
  exact ⟨_, hevidence, rfl⟩

theorem persistSoftClose_ok {t t' : Tables} {request : CloseRequest} {entity : LegalEntityRecord}
    {book : AccountingBook} {period : FiscalPeriod} {control : BookPeriodControl}
    {receipt : PeriodCloseReceipt}
    (h : persistSoftClose dep t request entity book period control = .ok (receipt, t')) :
    ∃ evidence payloadHash, t' = insertPeriodCloseEvent dep
      { setBookPeriodClosed dep t book.accountingBookId period.fiscalPeriodId .softClosed with
        bookPeriodControls := updateControl book.accountingBookId period.fiscalPeriodId
          (fun c => { c with softClose := some evidence })
          (setBookPeriodClosed dep t book.accountingBookId period.fiscalPeriodId
            .softClosed).bookPeriodControls } request none payloadHash := by
  obtain ⟨evidence, -, rfl⟩ := persistSoftClose_eq dep h
  exact ⟨evidence, _, rfl⟩

/-- Scope and locked control row of a close that was answered. -/
structure LockedScope (t : Tables) (request : CloseRequest) (entity : LegalEntityRecord)
    (book : AccountingBook) (period : FiscalPeriod) (control : BookPeriodControl)
    (t' : Tables) : Prop where
  scope : dep.loadScope request.legalEntityReference request.accountingBookReference "the close" =
    .ok (entity, book)
  code_given : strip request.periodCode ≠ ""
  lock : lockBookPeriod dep t book.accountingBookId request.periodCode = .ok (period, control, t')

/-- A close replays a row that is not open, soft-closes an open one, or hard-closes one that is
    not locked. -/
theorem closeFiscalPeriod_cases {t t' : Tables} {request : CloseRequest}
    {receipt : PeriodCloseReceipt} (h : closeFiscalPeriod dep t request = .ok (receipt, t')) :
    ∃ entity book period control t₁, LockedScope dep t request entity book period control t₁ ∧
      ((control.periodStatus ≠ .opened ∧
        (control.periodStatus = .hardClosed ∨ request.periodStatusCode ≠ "hard_closed") ∧ t' = t₁) ∨
      (control.periodStatus = .opened ∧ request.periodStatusCode ≠ "hard_closed" ∧
        persistSoftClose dep t₁ request entity book period control = .ok (receipt, t')) ∨
      (control.periodStatus ≠ .hardClosed ∧ request.periodStatusCode = "hard_closed" ∧
        (∃ trialBalance, assemblePeriodClosePackage dep t₁ request.legalEntityReference
          request.accountingBookReference request.periodCode = .ok trialBalance ∧
          requireCloseablePackage trialBalance = .ok ()) ∧
        persistPeriodClose dep t₁ request entity book period = .ok (receipt, t'))) := by
  simp only [closeFiscalPeriod, bind_eq_ok] at h
  obtain ⟨requested, hrequested, ⟨entity, book⟩, hscope, _, -, ⟨period, control, t₁⟩, hlock, h⟩ := h
  simp only [requireCloseRequest, bind_eq_ok, require_eq_ok] at hrequested
  obtain ⟨-, -, -, -, -, hgiven, -, -, hrequested⟩ := hrequested
  have hcode : (requested = .softClosed ∧ request.periodStatusCode ≠ "hard_closed") ∨
      (requested = .hardClosed ∧ request.periodStatusCode = "hard_closed") := by
    split at hrequested
    · next hsoft =>
      simp only [pure_eq_ok] at hrequested
      exact Or.inl ⟨hrequested.symm, by rw [hsoft]; decide⟩
    · split at hrequested
      · next hhard =>
        simp only [pure_eq_ok] at hrequested
        exact Or.inr ⟨hrequested.symm, hhard⟩
      · cases hrequested
  refine ⟨entity, book, period, control, t₁, ⟨hscope, hgiven, hlock⟩, ?_⟩
  unfold closeLockedPeriod at h
  by_cases hhard : control.periodStatus = .hardClosed
  · have hnot : control.periodStatus ≠ .opened := by rw [hhard]; decide
    rw [if_pos hhard] at h
    split at h
    · cases h
    · simp only [bind_eq_ok, pure_eq_ok, Prod.mk.injEq] at h
      obtain ⟨-, -, -, rfl⟩ := h
      exact Or.inl ⟨hnot, Or.inl hhard, rfl⟩
  · rw [if_neg hhard] at h
    split at h
    · next hsame =>
      simp only [bind_eq_ok, pure_eq_ok, Prod.mk.injEq] at h
      obtain ⟨-, -, -, rfl⟩ := h
      rcases hcode with ⟨rfl, hcode⟩ | ⟨rfl, -⟩
      · exact Or.inl ⟨by rw [hsame]; decide, Or.inr hcode, rfl⟩
      · exact absurd hsame hhard
    · next hdiffer =>
      rcases hcode with ⟨rfl, hcode⟩ | ⟨rfl, hcode⟩
      · rw [if_pos rfl] at h
        refine Or.inr (Or.inl ⟨?_, hcode, h⟩)
        cases hs : control.periodStatus with
        | opened => rfl
        | softClosed => exact absurd hs hdiffer
        | hardClosed => exact absurd hs hhard
      · rw [if_neg (by decide)] at h
        simp only [bind_eq_ok] at h
        obtain ⟨trialBalance, hpackage, _, hcloseable, h⟩ := h
        exact Or.inr (Or.inr ⟨hhard, hcode, ⟨trialBalance, hpackage, hcloseable⟩, h⟩)

theorem closeFiscalPeriod_ok {t t' : Tables} {request : CloseRequest} {receipt : PeriodCloseReceipt}
    (h : closeFiscalPeriod dep t request = .ok (receipt, t')) :
    ∃ entity book period control t₁, LockedScope dep t request entity book period control t₁ ∧
      (((control.periodStatus = .hardClosed ∨ request.periodStatusCode ≠ "hard_closed") ∧ t' = t₁) ∨
      (control.periodStatus = .opened ∧ request.periodStatusCode ≠ "hard_closed" ∧
        persistSoftClose dep t₁ request entity book period control = .ok (receipt, t')) ∨
      (control.periodStatus ≠ .hardClosed ∧ request.periodStatusCode = "hard_closed" ∧
        (∃ trialBalance, assemblePeriodClosePackage dep t₁ request.legalEntityReference
          request.accountingBookReference request.periodCode = .ok trialBalance ∧
          requireCloseablePackage trialBalance = .ok ()) ∧
        persistPeriodClose dep t₁ request entity book period = .ok (receipt, t'))) := by
  obtain ⟨entity, book, period, control, t₁, hlocked, hcases⟩ := closeFiscalPeriod_cases dep h
  refine ⟨entity, book, period, control, t₁, hlocked, ?_⟩
  rcases hcases with ⟨-, hreplay, rfl⟩ | hwritten
  · exact Or.inl ⟨hreplay, rfl⟩
  · exact Or.inr hwritten

end AccountingPlatform.Postgres
