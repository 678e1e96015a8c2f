/-
  Posting: proposals, resolved against the catalog or under a given policy, and adjusting
  journals.

  A command is a function from the tables to its answer and the tables it commits; a raise
  rolls the transaction back.
-/
import AccountingPlatform.Postgres.Periods

namespace AccountingPlatform.Postgres

open AccountingPlatform.Lib AccountingPlatform.Core

variable (dep : Deployment)

/-! ## Policy resolution -/

/-- The loop over the mapping rows: one row a role. -/
def seenRoles : List (AccountRoleMapping × ChartAccount) →
    Dict String (String × String × String) → Result (Dict String (String × String × String))
  | [], seen => .ok seen
  | (m, account) :: rows, seen => do
    require (seen.get? m.accountRoleCode = none)
      (.validation ("More than one effective account_role_mapping applies for role " ++
        m.accountRoleCode ++ ". Close the superseded mapping, then retry posting."))
    seenRoles rows (seen.set m.accountRoleCode
      (account.chartAccountCode, m.accountingPolicyVersion, m.postingRuleVersion))

/-- Mapping rows of the given roles that are effective on the accounting date. -/
def effectiveMappings (bookId : ℕ) (roleCodes : List String) (asOf : Timestamp) :
    List (AccountRoleMapping × ChartAccount) :=
  dep.rowOrder ((dep.catalog.roleMappings.filter fun m =>
      m.accountingBookId = bookId ∧ m.accountRoleCode ∈ roleCodes ∧ m.effectiveAt asOf).filterMap
    fun m => (dep.chartAccount? m.chartAccountId).map fun account => (m, account))

/-- `_load_role_mapping`. -/
def loadRoleMapping (bookId : ℕ) (proposal : JournalProposal) :
    Result (Dict String String × String × String) := do
  let roleCodes := (proposal.lines.map JournalLineProposal.accountRoleCode).eraseDups
  let rows := effectiveMappings dep bookId roleCodes (midnight proposal.accountingDate)
  require (rows ≠ [])
    (.validation ("No account_role_mapping is effective for this book and accounting date. " ++
      "Create the account_role_mapping rows, then retry posting."))
  let seen ← seenRoles rows Dict.empty
  match roleCodes.find? fun roleCode => (seen.get? roleCode).isNone with
  | some roleCode =>
    .error (.validation ("Account role " ++ roleCode ++ " is not mapped on this book. " ++
      "Create the account_role_mapping row, then retry posting."))
  | none =>
    match (seen.values.map Prod.snd).dedup with
    | [(policyVersion, ruleVersion)] =>
      .ok (seen.entries.foldl (fun mapping entry => mapping.set entry.1 entry.2.1) Dict.empty,
        policyVersion, ruleVersion)
    | _ =>
      .error (.validation ("Account role mappings use more than one policy version. " ++
        "Approve a single effective mapping set, then retry posting."))

/-- `_resolve_accounting_policy`. -/
def resolveAccountingPolicy (t : Tables) (proposal : JournalProposal) : Result AccountingPolicy := do
  require (proposal.tenantReference = dep.catalog.tenantReference)
    (.validation ("proposal tenant scope does not match this deployment. " ++
      "Send the proposal to that tenant's accounting endpoint, then retry posting."))
  let entity ← dep.loadLegalEntity proposal.legalEntityReference "posting"
  let book ← dep.requireBookForRole entity.legalEntityId proposal.intendedBookRoleCode
  let period ← requireOpenBookPeriodBounds dep t book.accountingBookId proposal.accountingDate
  let (mapping, policyVersion, ruleVersion) ← loadRoleMapping dep book.accountingBookId proposal
  AccountingPolicy.build {
    tenantReference := proposal.tenantReference
    legalEntityReference := proposal.legalEntityReference
    accountingBookReference := book.bookName
    intendedBookRoleCode := proposal.intendedBookRoleCode
    transactionCurrency := proposal.transactionCurrency
    functionalCurrency := entity.functionalCurrencyCode
    openPeriodStart := period.periodStartDate
    openPeriodEnd := period.periodEndDate
    chartAccountMapping := mapping
    accountingPolicyVersion := policyVersion
    postingRuleVersion := ruleVersion }

/-! ## Writing a posting -/

/-- A proposal record and the journal that refers to it. -/
def insertRecordedJournal (t : Tables) (record : NewProposalRecord) (new : ℕ → NewJournal) :
    Result (ℕ × GeneralJournal × Tables) := do
  let inserted ← insertProposalRecord t record
  let journal ← insertJournal dep inserted.2 (new inserted.1)
  pure (inserted.1, journal.1, journal.2)

/-- The same with the receipt row and the outbox event of a posting. -/
def writePosting (t : Tables) (record : NewProposalRecord) (new : ℕ → NewJournal)
    (receipt : PostingReceipt) : Result Tables := do
  let written ← insertRecordedJournal dep t record new
  let t := insertReceipt dep written.2.2 written.1 written.2.1.generalJournalId receipt
  pure (insertOutbox dep t "posting_receipt" receipt.journalReference receipt.receiptReference receipt)

/-! ## Proposals -/

/-- Text of a UUID as PostgreSQL and `str(UUID)` print it. -/
def canonicalUuid (text : String) : String := String.ofList (text.toList.map Char.toLower)

def ExternalProposalId.text (id : ExternalProposalId) : String :=
  match id with
  | .supplied canonical => canonical
  | .generated n => dep.uuidText n

def idempotencyKeyConflict : LedgerError :=
  .idempotencyConflict "idempotency key was already used with a different payload"

def book? (bookId : ℕ) : Option AccountingBook :=
  dep.catalog.books.find? fun book => book.accountingBookId = bookId

/-- `_receipt_for_idempotency_key`: identifiers of the incoming proposal, book, versions and
    line count of the stored journal. -/
def receiptForIdempotencyKey (t : Tables) (proposal : JournalProposal) : Result PostingReceipt := do
  let record ← fetch (t.proposalRecordByKey proposal.idempotencyKey) .missingRow
  let journal ← fetch (t.journalOfProposal record.proposalRecordId) .missingRow
  let book ← fetch (book? dep journal.accountingBookId) .missingRow
  pure {
    receiptReference := "urn:cwl:accounting:posting_receipt:" ++ proposal.proposalId
    journalReference := "urn:cwl:accounting:general_journal:" ++ proposal.proposalId
    postingStatusCode := "posted"
    sourceProposalId := proposal.proposalId
    sourcePayloadHash := proposal.sourcePayloadHash
    tenantReference := proposal.tenantReference
    legalEntityReference := proposal.legalEntityReference
    accountingBookReference := book.bookName
    accountingPolicyVersion := journal.accountingPolicyVersion
    postingRuleVersion := journal.postingRuleVersion
    lineCount := journal.lines.length
    reversalOfJournalReference := none }

/-- The policy given by the caller, or the catalog's. -/
def postingPolicy (t : Tables) (proposal : JournalProposal) :
    Option AccountingPolicy → Result AccountingPolicy
  | some policy => .ok policy
  | none => resolveAccountingPolicy dep t proposal

def postingRecord (proposal : JournalProposal) : NewProposalRecord where
  externalProposalId := .supplied (canonicalUuid proposal.proposalId)
  proposalContractVersion := proposal.proposalContractVersion
  idempotencyKey := proposal.idempotencyKey
  sourcePayloadHash := proposal.sourcePayloadHash

def postingJournal (proposal : JournalProposal) (policy : AccountingPolicy)
    (entity : LegalEntityRecord) (book : AccountingBook) (period : FiscalPeriod)
    (lines : List PostedJournalLine) (proposalRecordId : ℕ) : NewJournal where
  legalEntityId := entity.legalEntityId
  accountingBookId := book.accountingBookId
  fiscalPeriodId := period.fiscalPeriodId
  journalReference := PostingLedger.generalJournalReference proposal.proposalId
  writeRole := .ordinary
  transactionCurrency := proposal.transactionCurrency
  functionalCurrency := policy.functionalCurrency
  transactionDate := proposal.transactionDate
  accountingDate := proposal.accountingDate
  accountingPolicyVersion := policy.accountingPolicyVersion
  postingRuleVersion := policy.postingRuleVersion
  proposalRecordId := proposalRecordId
  lines := lines
  sourceEventReferences := proposal.sourceEventReferences
  sourcePayloadHash := proposal.sourcePayloadHash

/-- `_persist_proposal` for a key that has no record yet. -/
def persistFreshProposal (t : Tables) (proposal : JournalProposal)
    (suppliedPolicy : Option AccountingPolicy) : Result (PostingReceipt × Tables) := do
  require (∀ line ∈ proposal.lines, line.accountRoleCode ≠ "retained_earnings")
    (.validation ("retained_earnings is reserved for AIS period-close. " ++
      "Post revenue and expense through Billing, then hard-close; no journal was written."))
  let policy ← postingPolicy dep t proposal suppliedPolicy
  validatePolicyScope proposal policy
  let resolvedLines ← tryMap (resolveLine policy) proposal.lines
  let entity ← dep.loadLegalEntity proposal.legalEntityReference "posting"
  let book ← dep.requireBook entity.legalEntityId policy.intendedBookRoleCode
    policy.accountingBookReference
  let period ← requireOpenBookPeriodBounds dep t book.accountingBookId proposal.accountingDate
  let receipt := PostingLedger.postingReceipt proposal policy resolvedLines
  let t ← writePosting dep t (postingRecord proposal)
    (postingJournal proposal policy entity book period resolvedLines) receipt
  pure (receipt, t)

/-- `_persist_proposal`. -/
def persistProposal (t : Tables) (proposal : JournalProposal)
    (suppliedPolicy : Option AccountingPolicy) : Result (PostingReceipt × Tables) :=
  match t.proposalRecordByKey proposal.idempotencyKey with
  | some prior => do
    require (prior.sourcePayloadHash = proposal.sourcePayloadHash) idempotencyKeyConflict
    let receipt ← receiptForIdempotencyKey dep t proposal
    pure (receipt, t)
  | none => persistFreshProposal dep t proposal suppliedPolicy

/-- `PostgresPostingLedger.post`. -/
def post (t : Tables) (proposal : JournalProposal) (policy : AccountingPolicy) :
    Result (PostingReceipt × Tables) :=
  persistProposal dep t proposal (some policy)

/-- `PostgresPostingLedger.post_proposal`. -/
def postProposal (t : Tables) (proposal : JournalProposal) : Result (PostingReceipt × Tables) :=
  persistProposal dep t proposal none

/-! ## Adjusting journals -/

structure AdjustingRequest where
  legalEntityReference : String
  accountingBookReference : String
  periodCode : String
  journalDate : Date
  idempotencyKey : String
  sourcePayloadHash : String
  proposalId : String
  transactionCurrency : String
  lines : List PostedJournalLine

/-- The versions an adjusting journal carries: those of the first current mapping by role. -/
def adjustingVersions (bookId : ℕ) : Option AccountRoleMapping :=
  ((dep.rowOrder (dep.catalog.roleMappings.filter fun m =>
      m.accountingBookId = bookId ∧ m.isCurrent)).insertionSort fun a b =>
    dep.collation a.accountRoleCode b.accountRoleCode).head?

def adjustingRecord (request : AdjustingRequest) : NewProposalRecord where
  externalProposalId := .supplied (canonicalUuid request.proposalId)
  proposalContractVersion := 1
  idempotencyKey := request.idempotencyKey
  sourcePayloadHash := request.sourcePayloadHash

def adjustingJournal (request : AdjustingRequest) (policy : AccountingPolicy)
    (entity : LegalEntityRecord) (book : AccountingBook) (period : FiscalPeriod)
    (proposalRecordId : ℕ) : NewJournal where
  legalEntityId := entity.legalEntityId
  accountingBookId := book.accountingBookId
  fiscalPeriodId := period.fiscalPeriodId
  journalReference := PostingLedger.generalJournalReference request.proposalId
  writeRole := .adjusting
  transactionCurrency := request.transactionCurrency
  functionalCurrency := policy.functionalCurrency
  transactionDate := request.journalDate
  accountingDate := request.journalDate
  accountingPolicyVersion := policy.accountingPolicyVersion
  postingRuleVersion := policy.postingRuleVersion
  proposalRecordId := proposalRecordId
  lines := request.lines
  sourceEventReferences := ["urn:cwl:accounting:adjusting_journal:" ++ request.proposalId]
  sourcePayloadHash := request.sourcePayloadHash

def adjustingReceipt (request : AdjustingRequest) (policy : AccountingPolicy) : PostingReceipt where
  receiptReference := "urn:cwl:accounting:posting_receipt:" ++ request.proposalId
  journalReference := PostingLedger.generalJournalReference request.proposalId
  postingStatusCode := "posted"
  sourceProposalId := request.proposalId
  sourcePayloadHash := request.sourcePayloadHash
  tenantReference := dep.catalog.tenantReference
  legalEntityReference := request.legalEntityReference
  accountingBookReference := request.accountingBookReference
  accountingPolicyVersion := policy.accountingPolicyVersion
  postingRuleVersion := policy.postingRuleVersion
  lineCount := request.lines.length
  reversalOfJournalReference := none

/-- The period an adjusting journal names, which its book must not have hard-closed. -/
def adjustingPeriod (t : Tables) (request : AdjustingRequest) (book : AccountingBook) :
    Result FiscalPeriod := do
  let period ← requireFiscalPeriod dep t request.periodCode "the journal post"
  require (period.periodStartDate ≤ request.journalDate ∧ request.journalDate ≤ period.periodEndDate)
    (.validation ("journal_date must fall inside the supplied fiscal period. " ++
      "Supply a journal_date in that period, then retry the journal post."))
  require (t.bookPeriodStatus book.accountingBookId period ≠ .hardClosed)
    (.validation ("Fiscal period " ++ request.periodCode ++ " is hard_closed. " ++
      "Post the adjusting journal into an open or soft-closed period, " ++
      "then retry; no journal was written."))
  pure period

/-- `post_adjusting_journal` for a key that has no record yet. -/
def persistFreshAdjusting (t : Tables) (request : AdjustingRequest) : Result Tables := do
  let (entity, book) ← dep.loadScope request.legalEntityReference request.accountingBookReference
    "the journal post"
  require (request.transactionCurrency = book.reportingCurrencyCode)
    (.validation ("currency " ++ request.transactionCurrency ++
      " does not match book reporting currency " ++ book.reportingCurrencyCode ++
      ". Supply the book reporting currency, then retry the journal post."))
  let period ← adjustingPeriod dep t request book
  let versions ← fetch (adjustingVersions dep book.accountingBookId)
    (.validation ("No account_role_mapping is effective for this book. " ++
      "Create the account_role_mapping rows, then retry the journal post."))
  let policy ← AccountingPolicy.build {
    tenantReference := dep.catalog.tenantReference
    legalEntityReference := request.legalEntityReference
    accountingBookReference := request.accountingBookReference
    intendedBookRoleCode := book.bookRoleCode
    transactionCurrency := request.transactionCurrency
    functionalCurrency := entity.functionalCurrencyCode
    openPeriodStart := period.periodStartDate
    openPeriodEnd := period.periodEndDate
    chartAccountMapping := Dict.empty
    accountingPolicyVersion := versions.accountingPolicyVersion
    postingRuleVersion := versions.postingRuleVersion }
  writePosting dep t (adjustingRecord request) (adjustingJournal request policy entity book period)
    (adjustingReceipt dep request policy)

/-- `post_adjusting_journal`, which returns nothing. -/
def postAdjustingJournal (t : Tables) (request : AdjustingRequest) : Result Tables := do
  let _ ← requireProposalId request.proposalId
  match t.proposalRecordByKey request.idempotencyKey with
  | some prior => do
    require (prior.sourcePayloadHash = request.sourcePayloadHash) idempotencyKeyConflict
    pure t
  | none => persistFreshAdjusting dep t request

/-! ## What a posting can do -/

/-- Record and journal of a posting, appended together. -/
structure RecordedJournal (t : Tables) (record : NewProposalRecord) (new : ℕ → NewJournal)
    (journal : GeneralJournal) (t' : Tables) : Prop where
  inserted : Inserted dep
    { t with
      proposalRecords := t.proposalRecords ++
        [⟨t.nextId, record.externalProposalId, record.idempotencyKey, record.sourcePayloadHash⟩]
      nextId := t.nextId + 1 } (new t.nextId) journal t'
  external_fresh : ∀ r ∈ t.proposalRecords, r.externalProposalId ≠ record.externalProposalId
  key_fresh : ∀ r ∈ t.proposalRecords, r.idempotencyKey ≠ record.idempotencyKey

theorem insertRecordedJournal_ok {t t' : Tables} {record : NewProposalRecord}
    {new : ℕ → NewJournal} {recordId : ℕ} {journal : GeneralJournal}
    (h : insertRecordedJournal dep t record new = .ok (recordId, journal, t')) :
    recordId = t.nextId ∧ RecordedJournal dep t record new journal t' := by
  simp only [insertRecordedJournal, bind_eq_ok, pure_eq_ok, Prod.mk.injEq] at h
  obtain ⟨⟨recordId', t₁⟩, hrecord, ⟨journal', t₂⟩, hjournal, rfl, rfl, rfl⟩ := h
  obtain ⟨rfl, rfl, hext, hkey⟩ := insertProposalRecord_ok hrecord
  exact ⟨rfl, insertJournal_ok hjournal, hext, hkey⟩

theorem writePosting_ok {t t' : Tables} {record : NewProposalRecord} {new : ℕ → NewJournal}
    {receipt : PostingReceipt} (h : writePosting dep t record new receipt = .ok t') :
    ∃ journal t₁, RecordedJournal dep t record new journal t₁ ∧
      t' = insertOutbox dep (insertReceipt dep t₁ t.nextId journal.generalJournalId receipt)
        "posting_receipt" receipt.journalReference receipt.receiptReference receipt := by
  simp only [writePosting, bind_eq_ok, pure_eq_ok] at h
  obtain ⟨⟨recordId, journal, t₁⟩, hwritten, rfl⟩ := h
  obtain ⟨rfl, hrecorded⟩ := insertRecordedJournal_ok dep hwritten
  exact ⟨journal, t₁, hrecorded, rfl⟩

/-- What a fresh proposal was resolved to before it was written. -/
structure FreshPosting (t : Tables) (proposal : JournalProposal)
    (suppliedPolicy : Option AccountingPolicy) (policy : AccountingPolicy)
    (entity : LegalEntityRecord) (book : AccountingBook) (period : FiscalPeriod)
    (lines : List PostedJournalLine) : Prop where
  not_reserved : ∀ line ∈ proposal.lines, line.accountRoleCode ≠ "retained_earnings"
  policy_eq : postingPolicy dep t proposal suppliedPolicy = .ok policy
  scope : validatePolicyScope proposal policy = .ok ()
  resolved : tryMap (resolveLine policy) proposal.lines = .ok lines
  entity_eq : dep.loadLegalEntity proposal.legalEntityReference "posting" = .ok entity
  book_eq : dep.requireBook entity.legalEntityId policy.intendedBookRoleCode
    policy.accountingBookReference = .ok book
  period_eq : requireOpenBookPeriodBounds dep t book.accountingBookId proposal.accountingDate =
    .ok period

theorem persistFreshProposal_ok {t t' : Tables} {proposal : JournalProposal}
    {suppliedPolicy : Option AccountingPolicy} {receipt : PostingReceipt}
    (h : persistFreshProposal dep t proposal suppliedPolicy = .ok (receipt, t')) :
    ∃ policy entity book period lines,
      FreshPosting dep t proposal suppliedPolicy policy entity book period lines ∧
      receipt = PostingLedger.postingReceipt proposal policy lines ∧
      writePosting dep t (postingRecord proposal)
        (postingJournal proposal policy entity book period lines) receipt = .ok t' := by
  simp only [persistFreshProposal, bind_eq_ok, require_eq_ok, pure_eq_ok, Prod.mk.injEq] at h
  obtain ⟨-, hreserved, policy, hpolicy, _, hscope, lines, hlines, entity, hentity, book, hbook,
    period, hperiod, t₁, hwrite, rfl, rfl⟩ := h
  exact ⟨policy, entity, book, period, lines,
    ⟨hreserved, hpolicy, hscope, hlines, hentity, hbook, hperiod⟩, rfl, hwrite⟩

/-- A replay leaves the tables alone; a fresh proposal is written. -/
theorem persistProposal_ok {t t' : Tables} {proposal : JournalProposal}
    {suppliedPolicy : Option AccountingPolicy} {receipt : PostingReceipt}
    (h : persistProposal dep t proposal suppliedPolicy = .ok (receipt, t')) :
    (∃ prior, t.proposalRecordByKey proposal.idempotencyKey = some prior ∧
      prior.sourcePayloadHash = proposal.sourcePayloadHash ∧
      receiptForIdempotencyKey dep t proposal = .ok receipt ∧ t' = t) ∨
    (t.proposalRecordByKey proposal.idempotencyKey = none ∧
      persistFreshProposal dep t proposal suppliedPolicy = .ok (receipt, t')) := by
  unfold persistProposal at h
  split at h
  · next prior hprior =>
    simp only [bind_eq_ok, require_eq_ok, pure_eq_ok, Prod.mk.injEq] at h
    obtain ⟨-, hhash, receipt', hreceipt, rfl, rfl⟩ := h
    exact Or.inl ⟨prior, hprior, hhash, hreceipt, rfl⟩
  · next hnone => exact Or.inr ⟨hnone, h⟩

/-- What a fresh adjusting journal was resolved to before it was written. -/
structure FreshAdjusting (t : Tables) (request : AdjustingRequest) (policy : AccountingPolicy)
    (entity : LegalEntityRecord) (book : AccountingBook) (period : FiscalPeriod) : Prop where
  scope : dep.loadScope request.legalEntityReference request.accountingBookReference
    "the journal post" = .ok (entity, book)
  period_eq : adjustingPeriod dep t request book = .ok period

theorem postAdjustingJournal_ok {t t' : Tables} {request : AdjustingRequest}
    (h : postAdjustingJournal dep t request = .ok t') :
    (∃ prior, t.proposalRecordByKey request.idempotencyKey = some prior ∧ t' = t) ∨
    (t.proposalRecordByKey request.idempotencyKey = none ∧
      matchesProposalId request.proposalId = true ∧
      ∃ policy entity book period, FreshAdjusting dep t request policy entity book period ∧
        writePosting dep t (adjustingRecord request)
          (adjustingJournal request policy entity book period)
          (adjustingReceipt dep request policy) = .ok t') := by
  simp only [postAdjustingJournal, requireProposalId, bind_eq_ok, require_eq_ok, pure_eq_ok] at h
  obtain ⟨id, ⟨-, hid, rfl⟩, h⟩ := h
  split at h
  · next prior hprior =>
    simp only [bind_eq_ok, pure_eq_ok] at h
    obtain ⟨-, -, rfl⟩ := h
    exact Or.inl ⟨prior, hprior, rfl⟩
  · next hnone =>
    simp only [persistFreshAdjusting, bind_eq_ok, require_eq_ok] at h
    obtain ⟨⟨entity, book⟩, hscope, -, -, period, hperiod, -, -, policy, -, hwrite⟩ := h
    exact Or.inr ⟨hnone, hid, policy, entity, book, period, ⟨hscope, hperiod⟩, hwrite⟩

theorem adjustingPeriod_ok {t : Tables} {request : AdjustingRequest} {book : AccountingBook}
    {period : FiscalPeriod} (h : adjustingPeriod dep t request book = .ok period) :
    periodByCode dep t request.periodCode = some period ∧
      period.periodStartDate ≤ request.journalDate ∧ request.journalDate ≤ period.periodEndDate ∧
      t.bookPeriodStatus book.accountingBookId period ≠ .hardClosed := by
  simp only [adjustingPeriod, requireFiscalPeriod, bind_eq_ok, fetch_eq_ok, require_eq_ok,
    pure_eq_ok] at h
  obtain ⟨period', hperiod, -, ⟨hle, hge⟩, -, hopen, rfl⟩ := h
  exact ⟨hperiod, hle, hge, hopen⟩

end AccountingPlatform.Postgres
