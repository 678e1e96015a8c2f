/-
  Reversal: the exact opposite of one original journal, with its lineage.
-/
import AccountingPlatform.Postgres.Posting

namespace AccountingPlatform.Postgres

open AccountingPlatform.Lib AccountingPlatform.Core

open PostingLedger (ReversalRequest)

variable (dep : Deployment)

/-! ## Reads of a reversal -/

def reversalOf? (t : Tables) (originalJournalId : ℕ) : Option JournalReversal :=
  t.reversals.find? fun reversal => reversal.originalJournalId = originalJournalId

def lineageOf? (t : Tables) (reversalJournalId : ℕ) : Option JournalReversal :=
  t.reversals.find? fun reversal => reversal.reversalJournalId = reversalJournalId

/-- `_load_lines`: in line-number order, with the code of the account. -/
def loadLines (journal : GeneralJournal) : List PostedJournalLine :=
  (journal.lines.insertionSort fun a b => a.lineNumber ≤ b.lineNumber).filterMap fun line =>
    (dep.chartAccount? line.chartAccountId).map fun account =>
      ⟨line.lineNumber, account.chartAccountCode, line.accountRoleCode, line.debitAmount,
        line.creditAmount⟩

def legalEntityCode? (legalEntityId : ℕ) : Option String :=
  (dep.catalog.legalEntities.find? fun entity => entity.legalEntityId = legalEntityId).map
    LegalEntityRecord.legalEntityCode

def bookName? (bookId : ℕ) : Option String := (book? dep bookId).map AccountingBook.bookName

/-- `_reversal_command_hash` for this ledger's tenant. -/
def reversalCommandHash (request : ReversalRequest) : String :=
  dep.digest (.reversalCommand {
    tenantReference := dep.catalog.tenantReference
    reversalIdempotencyKey := request.commandKey
    originalJournalReference := request.journalReference
    reversalDate := request.reversalDate
    reversalReasonCode := request.reversalReasonCode })

/-- The lineage of a reversed journal, joined with both journals and the reversal's record. -/
structure ExistingReversal where
  lineage : JournalReversal
  original : GeneralJournal
  reversal : GeneralJournal
  record : ProposalRecord

def existingReversal (t : Tables) (journalReference : String) : Option ExistingReversal := do
  let original ← t.journalByReference journalReference
  let lineage ← reversalOf? t original.generalJournalId
  let reversal ← t.journal? lineage.reversalJournalId
  let record ← t.proposalRecord? reversal.sourceProposalRecordId
  pure ⟨lineage, original, reversal, record⟩

/-- `text.removeprefix(...)`. -/
def removePrefix (text affix : String) : String :=
  if affix.toList.isPrefixOf text.toList then String.ofList (text.toList.drop affix.length) else text

/-- `text.removesuffix(...)`. -/
def removeSuffix (text affix : String) : String :=
  if affix.toList.isSuffixOf text.toList then
    String.ofList (text.toList.take (text.length - affix.length))
  else text

/-- `_receipt_for_journal`. -/
def receiptForJournal (t : Tables) (journalReference : String) : Result PostingReceipt := do
  let journal ← fetch (t.journalByReference journalReference) .missingRow
  let record ← fetch (t.proposalRecord? journal.sourceProposalRecordId) .missingRow
  let bookName ← fetch (bookName? dep journal.accountingBookId) .missingRow
  let legalEntityCode ← fetch (legalEntityCode? dep journal.legalEntityId) .missingRow
  let originalReference := do
    let lineage ← lineageOf? t journal.generalJournalId
    let original ← t.journal? lineage.originalJournalId
    pure original.journalReference
  pure {
    receiptReference := journalReference ++ ":receipt"
    journalReference := journal.journalReference
    postingStatusCode := "posted"
    sourceProposalId :=
      removeSuffix (removePrefix journalReference "urn:cwl:accounting:general_journal:") ":reversal"
    sourcePayloadHash := record.sourcePayloadHash
    tenantReference := dep.catalog.tenantReference
    legalEntityReference := legalEntityCode
    accountingBookReference := bookName
    accountingPolicyVersion := journal.accountingPolicyVersion
    postingRuleVersion := journal.postingRuleVersion
    lineCount := journal.lines.length
    reversalOfJournalReference := originalReference }

/-! ## The command -/

def reversalEvidenceConflict : LedgerError :=
  .idempotencyConflict ("reversal idempotency key was already used with different command evidence. " ++
    "Use a new reversal command identity, then retry.")

/-- A journal that is already reversed: replay of the same command, or an error. -/
def replayReversal (t : Tables) (request : ReversalRequest) (existing : ExistingReversal) :
    Result PostingReceipt := do
  require (existing.record.idempotencyKey = request.commandKey) journalAlreadyReversed
  require (existing.record.sourcePayloadHash = reversalCommandHash dep request ∧
      existing.original.journalReference = request.journalReference ∧
      existing.lineage.reversalReasonCode = request.reversalReasonCode ∧
      existing.reversal.accountingDate = request.reversalDate) reversalEvidenceConflict
  receiptForJournal dep t existing.reversal.journalReference

/-- The original of a fresh reversal. -/
def reversibleJournal (t : Tables) (request : ReversalRequest) (policy : AccountingPolicy) :
    Result GeneralJournal := do
  let original ← fetch (t.journalByReference request.journalReference)
    (.validation "journal does not exist. Supply a posted journal reference, then retry reversal.")
  require (lineageOf? t original.generalJournalId = none)
    (.validation "a reversal journal cannot itself be reversed. Reverse the original journal, or post a replacement.")
  require (original.accountingDate ≤ request.reversalDate)
    (.validation "reversal date cannot precede original journal accounting date. Supply a reversal_date on or after the original accounting date, then retry reversal.")
  require (policy.permits request.reversalDate = true)
    (.validation "reversal date belongs to a closed fiscal period. Reverse into an open or soft-closed period, then retry reversal.")
  let legalEntityCode ← fetch (legalEntityCode? dep original.legalEntityId) .missingRow
  let bookName ← fetch (bookName? dep original.accountingBookId) .missingRow
  require (dep.catalog.tenantReference = policy.tenantReference ∧
      legalEntityCode = policy.legalEntityReference ∧ bookName = policy.accountingBookReference)
    (.validation "reversal policy scope does not match original journal. Supply the reversal policy for the original journal's legal entity and book, then retry reversal.")
  pure original

def reversalRecord (t : Tables) (request : ReversalRequest) : NewProposalRecord where
  externalProposalId := .generated t.nextId
  proposalContractVersion := 1
  idempotencyKey := request.commandKey
  sourcePayloadHash := reversalCommandHash dep request

def newReversalJournal (request : ReversalRequest) (policy : AccountingPolicy)
    (original : GeneralJournal) (period : FiscalPeriod) (proposalRecordId : ℕ) : NewJournal where
  legalEntityId := original.legalEntityId
  accountingBookId := original.accountingBookId
  fiscalPeriodId := period.fiscalPeriodId
  journalReference := request.journalReference ++ ":reversal"
  writeRole := .reversal
  transactionCurrency := original.transactionCurrencyCode
  functionalCurrency := policy.functionalCurrency
  transactionDate := original.transactionDate
  accountingDate := request.reversalDate
  accountingPolicyVersion := policy.accountingPolicyVersion
  postingRuleVersion := policy.postingRuleVersion
  proposalRecordId := proposalRecordId
  lines := (loadLines dep original).map PostedJournalLine.opposite
  sourceEventReferences := []
  sourcePayloadHash := reversalCommandHash dep request

def reversalReceipt (request : ReversalRequest) (policy : AccountingPolicy)
    (sourceProposalId : String) (lineCount : ℕ) : PostingReceipt where
  receiptReference := request.journalReference ++ ":reversal" ++ ":receipt"
  journalReference := request.journalReference ++ ":reversal"
  postingStatusCode := "posted"
  sourceProposalId := sourceProposalId
  sourcePayloadHash := reversalCommandHash dep request
  tenantReference := policy.tenantReference
  legalEntityReference := policy.legalEntityReference
  accountingBookReference := policy.accountingBookReference
  accountingPolicyVersion := policy.accountingPolicyVersion
  postingRuleVersion := policy.postingRuleVersion
  lineCount := lineCount
  reversalOfJournalReference := some request.journalReference

/-- INSERT INTO journal_reversal, with `guard_reversal_temporal_order` and
    `guard_reversal_lineage_insert`. -/
def insertReversal (t : Tables) (original reversal : GeneralJournal) (reasonCode : String) :
    Result Tables := do
  require (original.accountingDate ≤ reversal.accountingDate) checkViolation
  require (∃ receipt ∈ t.postingReceipts, receipt.generalJournalId = original.generalJournalId)
    checkViolation
  require (∀ receipt ∈ t.postingReceipts, receipt.generalJournalId ≠ reversal.generalJournalId)
    checkViolation
  require (∀ r ∈ t.reversals, r.originalJournalId ≠ original.generalJournalId ∧
    r.reversalJournalId ≠ reversal.generalJournalId) uniqueViolation
  require (original.generalJournalId ≠ reversal.generalJournalId) checkViolation
  pure { t with reversals := t.reversals ++
    [⟨original.generalJournalId, reversal.generalJournalId, reasonCode⟩] }

/-- `reverse` for a journal that has no lineage yet. -/
def persistFreshReversal (t : Tables) (request : ReversalRequest) (policy : AccountingPolicy) :
    Result (PostingReceipt × Tables) := do
  require (t.proposalRecordByKey request.commandKey = none)
    (.idempotencyConflict "reversal idempotency key was already used by another accounting command. Supply a new reversal command identity, then retry.")
  let original ← reversibleJournal dep t request policy
  let period ← requireAdjustingPeriodBounds dep t request.reversalDate
  require (t.journalByReference (request.journalReference ++ ":reversal") = none)
    postedJournalImmutable
  let originalRecord ← fetch (t.proposalRecord? original.sourceProposalRecordId) .missingRow
  let new := newReversalJournal dep request policy original period
  let receipt := reversalReceipt dep request policy (originalRecord.externalProposalId.text dep)
    (new 0).lines.length
  let written ← insertRecordedJournal dep t (reversalRecord dep t request) new
  let t ← insertReversal written.2.2 original written.2.1 request.reversalReasonCode
  let t := insertReceipt dep t written.1 written.2.1.generalJournalId receipt
  pure (receipt, insertOutbox dep t "journal_reversal" (request.journalReference ++ ":reversal")
    receipt.receiptReference receipt)

/-- `PostgresPostingLedger.reverse`. -/
def reverse (t : Tables) (request : ReversalRequest) (policy : AccountingPolicy) :
    Result (PostingReceipt × Tables) := do
  requireCode request.reversalReasonCode "reversal reason code"
  require (request.commandKey ≠ "")
    (.validation ("reversal idempotency key must not be empty. " ++
      "Supply the reversal command identity, then retry reversal."))
  match existingReversal t request.journalReference with
  | some existing => do
    let receipt ← replayReversal dep t request existing
    pure (receipt, t)
  | none => persistFreshReversal dep t request policy

/-! ## What a reversal can do -/

/-- What a fresh reversal was resolved to before it was written. -/
structure FreshReversal (t : Tables) (request : ReversalRequest) (policy : AccountingPolicy)
    (original : GeneralJournal) (period : FiscalPeriod) (originalRecord : ProposalRecord) : Prop where
  unreversed : existingReversal t request.journalReference = none
  key_fresh : t.proposalRecordByKey request.commandKey = none
  original_eq : reversibleJournal dep t request policy = .ok original
  period_eq : requireAdjustingPeriodBounds dep t request.reversalDate = .ok period
  unoccupied : t.journalByReference (request.journalReference ++ ":reversal") = none
  record_eq : t.proposalRecord? original.sourceProposalRecordId = some originalRecord

theorem insertReversal_ok {t t' : Tables} {original reversal : GeneralJournal} {reasonCode : String}
    (h : insertReversal t original reversal reasonCode = .ok t') :
    (∃ receipt ∈ t.postingReceipts, receipt.generalJournalId = original.generalJournalId) ∧
    (∀ r ∈ t.reversals, r.originalJournalId ≠ original.generalJournalId ∧
      r.reversalJournalId ≠ reversal.generalJournalId) ∧
    t' = { t with reversals := t.reversals ++
      [⟨original.generalJournalId, reversal.generalJournalId, reasonCode⟩] } := by
  simp only [insertReversal, bind_eq_ok, require_eq_ok, pure_eq_ok] at h
  obtain ⟨-, -, -, hreceipt, -, -, -, hunique, -, -, rfl⟩ := h
  exact ⟨hreceipt, hunique, rfl⟩

theorem reverse_ok {t t' : Tables} {request : ReversalRequest} {policy : AccountingPolicy}
    {receipt : PostingReceipt} (h : reverse dep t request policy = .ok (receipt, t')) :
    (∃ existing, existingReversal t request.journalReference = some existing ∧
      replayReversal dep t request existing = .ok receipt ∧ t' = t) ∨
    ∃ original period originalRecord journal t₁,
      FreshReversal dep t request policy original period originalRecord ∧
      receipt = reversalReceipt dep request policy (originalRecord.externalProposalId.text dep)
        (loadLines dep original).length ∧
      RecordedJournal dep t (reversalRecord dep t request)
        (newReversalJournal dep request policy original period) journal t₁ ∧
      (∃ r ∈ t₁.postingReceipts, r.generalJournalId = original.generalJournalId) ∧
      (∀ r ∈ t₁.reversals, r.originalJournalId ≠ original.generalJournalId ∧
        r.reversalJournalId ≠ journal.generalJournalId) ∧
      t' = insertOutbox dep (insertReceipt dep
        { t₁ with reversals := t₁.reversals ++ [⟨original.generalJournalId,
          journal.generalJournalId, request.reversalReasonCode⟩] }
        t.nextId journal.generalJournalId receipt) "journal_reversal"
        (request.journalReference ++ ":reversal") receipt.receiptReference receipt := by
  simp only [reverse, bind_eq_ok, require_eq_ok] at h
  obtain ⟨_, -, -, -, h⟩ := h
  split at h
  · next existing hexisting =>
    simp only [bind_eq_ok, pure_eq_ok, Prod.mk.injEq] at h
    obtain ⟨receipt', hreceipt, rfl, rfl⟩ := h
    exact Or.inl ⟨existing, hexisting, hreceipt, rfl⟩
  · next hnone =>
    simp only [persistFreshReversal, bind_eq_ok, require_eq_ok, fetch_eq_ok, pure_eq_ok,
      Prod.mk.injEq] at h
    obtain ⟨-, hkey, original, horiginal, period, hperiod, -, hfree, record, hrecord,
      ⟨recordId, journal, t₁⟩, hwritten, t₂, hreversal, rfl, rfl⟩ := h
    obtain ⟨rfl, hrecorded⟩ := insertRecordedJournal_ok dep hwritten
    obtain ⟨hfinal, hunique, rfl⟩ := insertReversal_ok hreversal
    exact Or.inr ⟨original, period, record, journal, t₁,
      ⟨hnone, hkey, horiginal, hperiod, hfree, hrecord⟩, by simp [newReversalJournal], hrecorded,
      hfinal, hunique, rfl⟩

theorem reversibleJournal_ok {t : Tables} {request : ReversalRequest} {policy : AccountingPolicy}
    {original : GeneralJournal} (h : reversibleJournal dep t request policy = .ok original) :
    t.journalByReference request.journalReference = some original ∧
      lineageOf? t original.generalJournalId = none ∧
      original.accountingDate ≤ request.reversalDate ∧
      dep.catalog.tenantReference = policy.tenantReference ∧
      legalEntityCode? dep original.legalEntityId = some policy.legalEntityReference ∧
      bookName? dep original.accountingBookId = some policy.accountingBookReference := by
  simp only [reversibleJournal, bind_eq_ok, require_eq_ok, fetch_eq_ok, pure_eq_ok] at h
  obtain ⟨original', horiginal, -, hline, -, hdate, -, -, code, hcode, name, hname, -,
    ⟨htenant, rfl, rfl⟩, rfl⟩ := h
  exact ⟨horiginal, hline, hdate, htenant, hcode, hname⟩

end AccountingPlatform.Postgres
