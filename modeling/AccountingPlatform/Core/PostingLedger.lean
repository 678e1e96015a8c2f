/-
  The in-memory reference ledger: posting, reversal and trial balance over four dictionaries.

  A command returns its outcome together with the ledger it leaves behind, also when it
  raises, so that what a failed call leaves behind is a question about the model. SHA-256 over
  the canonical JSON of a reversal command is the parameter `digest`.
-/
import AccountingPlatform.Core.Proposal
import AccountingPlatform.Lib.Runs
import AccountingPlatform.Lib.Totals

namespace AccountingPlatform.Core

open AccountingPlatform.Lib

/-! ## Reversal commands -/

/-- What `_reversal_command_hash` serializes. -/
structure ReversalCommandPayload where
  tenantReference : String
  reversalIdempotencyKey : String
  originalJournalReference : String
  reversalDate : Date
  reversalReasonCode : String
  deriving DecidableEq

/-- The characters `str.strip()` removes. -/
def isSpace (c : Char) : Bool :=
  let n := c.toNat
  (9 ≤ n && n ≤ 13) || (28 ≤ n && n ≤ 32) || n == 0x85 || n == 0xa0 || n == 0x1680 ||
    (0x2000 ≤ n && n ≤ 0x200a) || n == 0x2028 || n == 0x2029 || n == 0x202f || n == 0x205f ||
    n == 0x3000

/-- `text.strip()`. -/
def strip (text : String) : String :=
  String.ofList (((text.toList.dropWhile isSpace).reverse.dropWhile isSpace).reverse)

/-- `reversal_idempotency_key` of a command, or the key derived from the journal. -/
def reversalCommandKey (journalReference : String) (reversalIdempotencyKey : Option String) : String :=
  match reversalIdempotencyKey with
  | none => "reversal:" ++ journalReference
  | some key => strip key

def postedJournalImmutable : LedgerError :=
  .validation "posted journal is immutable. Reverse the existing journal, then post a replacement."

def reversalKeyConflict : LedgerError :=
  .idempotencyConflict "reversal idempotency key was already used with a different payload"

def journalAlreadyReversed : LedgerError :=
  .validation "journal is already reversed. Use the existing reversal receipt, then retry."

/-! ## Tables -/

structure PostingLedger where
  journals : Dict (String × String) PostedJournal
  receiptsByIdempotency : Dict (String × String) (String × PostingReceipt)
  reversalReceipts : Dict (String × String) PostingReceipt
  reversalCommandEvidence : Dict (String × String) (String × String × String)

namespace PostingLedger

def empty : PostingLedger := ⟨Dict.empty, Dict.empty, Dict.empty, Dict.empty⟩

/-- `_cached_idempotency_receipt`. -/
def cachedIdempotencyReceipt (ledger : PostingLedger)
    (tenantReference idempotencyKey sourcePayloadHash : String) : Result (Option PostingReceipt) :=
  match ledger.receiptsByIdempotency.get? (tenantReference, idempotencyKey) with
  | none => .ok none
  | some (priorHash, priorReceipt) =>
    if priorReceipt.tenantReference ≠ tenantReference then .ok none
    else if priorHash ≠ sourcePayloadHash then
      .error (.idempotencyConflict "idempotency key was already used with a different payload")
    else .ok (some priorReceipt)

/-- `_cached_reversal_receipt`. -/
def cachedReversalReceipt (ledger : PostingLedger)
    (tenantReference journalReference reversalIdempotencyKey commandHash : String) :
    Result (Option PostingReceipt) :=
  match ledger.reversalReceipts.get? (tenantReference, journalReference) with
  | none => .ok none
  | some priorReceipt =>
    if priorReceipt.tenantReference ≠ tenantReference then .ok none
    else
      match ledger.reversalCommandEvidence.get? (tenantReference, journalReference) with
      | none => .ok none
      | some (priorKey, priorOriginalReference, priorHash) =>
        if priorKey ≠ reversalIdempotencyKey ∨ priorOriginalReference ≠ journalReference then .ok none
        else if priorHash ≠ commandHash then .error reversalKeyConflict
        else .ok (some priorReceipt)

/-- `_receipt_for_posted_journal`. -/
def receiptForPostedJournal (journal : PostedJournal) : PostingReceipt where
  receiptReference := journal.journalReference ++ ":receipt"
  journalReference := journal.journalReference
  postingStatusCode := "posted"
  sourceProposalId := journal.sourceProposalId
  sourcePayloadHash := journal.sourcePayloadHash
  tenantReference := journal.tenantReference
  legalEntityReference := journal.legalEntityReference
  accountingBookReference := journal.accountingBookReference
  accountingPolicyVersion := journal.accountingPolicyVersion
  postingRuleVersion := journal.postingRuleVersion
  lineCount := journal.lines.length
  reversalOfJournalReference := journal.reversalOfJournalReference

/-! ## Posting -/

def generalJournalReference (proposalId : String) : String :=
  "urn:cwl:accounting:general_journal:" ++ proposalId

/-- The journal `post` appends. -/
def postedJournal (proposal : JournalProposal) (policy : AccountingPolicy)
    (lines : List PostedJournalLine) : PostedJournal where
  journalReference := generalJournalReference proposal.proposalId
  tenantReference := proposal.tenantReference
  legalEntityReference := proposal.legalEntityReference
  accountingBookReference := policy.accountingBookReference
  accountingDate := proposal.accountingDate
  transactionCurrency := proposal.transactionCurrency
  functionalCurrency := policy.functionalCurrency
  sourceProposalId := proposal.proposalId
  sourcePayloadHash := proposal.sourcePayloadHash
  accountingPolicyVersion := policy.accountingPolicyVersion
  postingRuleVersion := policy.postingRuleVersion
  lines := lines
  reversalOfJournalReference := none
  reversalReasonCode := none
  reversalIdempotencyKey := none

/-- The receipt `post` returns. -/
def postingReceipt (proposal : JournalProposal) (policy : AccountingPolicy)
    (lines : List PostedJournalLine) : PostingReceipt where
  receiptReference := "urn:cwl:accounting:posting_receipt:" ++ proposal.proposalId
  journalReference := generalJournalReference proposal.proposalId
  postingStatusCode := "posted"
  sourceProposalId := proposal.proposalId
  sourcePayloadHash := proposal.sourcePayloadHash
  tenantReference := proposal.tenantReference
  legalEntityReference := proposal.legalEntityReference
  accountingBookReference := policy.accountingBookReference
  accountingPolicyVersion := policy.accountingPolicyVersion
  postingRuleVersion := policy.postingRuleVersion
  lineCount := lines.length
  reversalOfJournalReference := none

/-- Scope checks and role resolution. -/
def resolveProposal (proposal : JournalProposal) (policy : AccountingPolicy) :
    Result (List PostedJournalLine) := do
  validatePolicyScope proposal policy
  tryMap (resolveLine policy) proposal.lines

/-- `PostingLedger.post`. -/
def post (ledger : PostingLedger) (proposal : JournalProposal) (policy : AccountingPolicy) :
    Result PostingReceipt × PostingLedger :=
  match ledger.cachedIdempotencyReceipt proposal.tenantReference proposal.idempotencyKey
      proposal.sourcePayloadHash with
  | .error e => (.error e, ledger)
  | .ok (some cachedReceipt) => (.ok cachedReceipt, ledger)
  | .ok none =>
    match resolveProposal proposal policy with
    | .error e => (.error e, ledger)
    | .ok resolvedLines =>
      let journalKey := (proposal.tenantReference, generalJournalReference proposal.proposalId)
      match ledger.journals.get? journalKey with
      | some _ => (.error postedJournalImmutable, ledger)
      | none =>
        let receipt := postingReceipt proposal policy resolvedLines
        (.ok receipt, { ledger with
          journals := ledger.journals.set journalKey (postedJournal proposal policy resolvedLines)
          receiptsByIdempotency := ledger.receiptsByIdempotency.set
            (proposal.tenantReference, proposal.idempotencyKey)
            (proposal.sourcePayloadHash, receipt) })

/-! ## Reversal -/

structure ReversalRequest where
  journalReference : String
  reversalDate : Date
  reversalReasonCode : String
  reversalIdempotencyKey : Option String

variable (digest : ReversalCommandPayload → String)

def ReversalRequest.commandKey (request : ReversalRequest) : String :=
  reversalCommandKey request.journalReference request.reversalIdempotencyKey

/-- `_reversal_command_hash` of a command. -/
def ReversalRequest.commandHash (request : ReversalRequest) (policy : AccountingPolicy) : String :=
  digest {
    tenantReference := policy.tenantReference
    reversalIdempotencyKey := request.commandKey
    originalJournalReference := request.journalReference
    reversalDate := request.reversalDate
    reversalReasonCode := request.reversalReasonCode }

/-- The checks before anything is looked up. -/
def requireReversalCommand (request : ReversalRequest) : Result Unit := do
  requireCode request.reversalReasonCode "reversal reason code"
  require (request.commandKey ≠ "")
    (.validation "reversal idempotency key must not be empty. Supply the reversal command identity, then retry reversal.")

/-- The original to reverse, in the policy's scope. -/
def reversibleOriginal (ledger : PostingLedger) (request : ReversalRequest)
    (policy : AccountingPolicy) : Result PostedJournal := do
  let original ← fetch (ledger.journals.get? (policy.tenantReference, request.journalReference))
    (.validation "journal does not exist. Supply a posted journal reference, then retry reversal.")
  require (original.reversalOfJournalReference = none)
    (.validation "a reversal journal cannot itself be reversed. Reverse the original journal, or post a replacement.")
  require (original.legalEntityReference = policy.legalEntityReference ∧
      original.accountingBookReference = policy.accountingBookReference)
    (.validation "reversal policy scope does not match original journal. Supply the reversal policy for the original journal's legal entity and book, then retry reversal.")
  pure original

/-- What must hold of a journal that already sits at the reversal's reference. -/
def requireSameReversal (occupant : PostedJournal) (journalReference commandKey commandHash : String) :
    Result Unit := do
  require (occupant.reversalOfJournalReference = some journalReference) postedJournalImmutable
  require (occupant.reversalIdempotencyKey = some commandKey) journalAlreadyReversed
  require (occupant.sourcePayloadHash = commandHash) reversalKeyConflict

def requireReversalDate (original : PostedJournal) (request : ReversalRequest)
    (policy : AccountingPolicy) : Result Unit := do
  require (original.accountingDate ≤ request.reversalDate)
    (.validation "reversal date must not precede the original journal accounting date. Supply a reversal_date on or after the original accounting date, then retry reversal.")
  require (policy.permits request.reversalDate = true)
    (.validation "reversal_date is outside the permitted accounting policy date range. Supply a reversal_date within the policy range, then retry reversal.")

/-- The journal `reverse` appends. -/
def reversalJournal (original : PostedJournal) (request : ReversalRequest)
    (policy : AccountingPolicy) : PostedJournal where
  journalReference := request.journalReference ++ ":reversal"
  tenantReference := original.tenantReference
  legalEntityReference := original.legalEntityReference
  accountingBookReference := original.accountingBookReference
  accountingDate := request.reversalDate
  transactionCurrency := original.transactionCurrency
  functionalCurrency := original.functionalCurrency
  sourceProposalId := original.sourceProposalId
  sourcePayloadHash := request.commandHash digest policy
  accountingPolicyVersion := policy.accountingPolicyVersion
  postingRuleVersion := policy.postingRuleVersion
  lines := original.lines.map PostedJournalLine.opposite
  reversalOfJournalReference := some request.journalReference
  reversalReasonCode := some request.reversalReasonCode
  reversalIdempotencyKey := some request.commandKey

/-- Record a reversal receipt with the evidence of its command. -/
def recordReversal (ledger : PostingLedger) (reversalKey : String × String) (receipt : PostingReceipt)
    (evidence : String × String × String) : PostingLedger :=
  { ledger with
    reversalReceipts := ledger.reversalReceipts.set reversalKey receipt
    reversalCommandEvidence := ledger.reversalCommandEvidence.set reversalKey evidence }

/-- `PostingLedger.reverse`. -/
def reverse (ledger : PostingLedger) (request : ReversalRequest) (policy : AccountingPolicy) :
    Result PostingReceipt × PostingLedger :=
  let commandHash := request.commandHash digest policy
  let reversalKey := (policy.tenantReference, request.journalReference)
  let evidence := (request.commandKey, request.journalReference, commandHash)
  match requireReversalCommand request with
  | .error e => (.error e, ledger)
  | .ok () =>
    match ledger.cachedReversalReceipt policy.tenantReference request.journalReference
        request.commandKey commandHash with
    | .error e => (.error e, ledger)
    | .ok (some priorReceipt) => (.ok priorReceipt, ledger)
    | .ok none =>
      match ledger.reversibleOriginal request policy with
      | .error e => (.error e, ledger)
      | .ok original =>
        let occupantKey := (original.tenantReference, request.journalReference ++ ":reversal")
        match ledger.journals.get? occupantKey with
        | some occupant =>
          match requireSameReversal occupant request.journalReference request.commandKey commandHash with
          | .error e => (.error e, ledger)
          | .ok () =>
            let receipt := receiptForPostedJournal occupant
            (.ok receipt, ledger.recordReversal reversalKey receipt evidence)
        | none =>
          match requireReversalDate original request policy with
          | .error e => (.error e, ledger)
          | .ok () =>
            -- field for field the receipt `_receipt_for_posted_journal` rebuilds
            let reversal := reversalJournal digest original request policy
            let receipt := receiptForPostedJournal reversal
            let appended := { ledger with journals := ledger.journals.set occupantKey reversal }
            (.ok receipt, appended.recordReversal reversalKey receipt evidence)

/-! ## Commands -/

inductive Command
  | post (proposal : JournalProposal) (policy : AccountingPolicy)
  | reverse (request : ReversalRequest) (policy : AccountingPolicy)

def execute (ledger : PostingLedger) : Command → Result PostingReceipt × PostingLedger
  | .post proposal policy => ledger.post proposal policy
  | .reverse request policy => ledger.reverse digest request policy

/-- The ledger after a sequence of calls, whatever each of them answered. -/
def runCommands (ledger : PostingLedger) (commands : List Command) : PostingLedger :=
  run (fun ledger command => (ledger.execute digest command).2) ledger commands

/-! ## Trial balance -/

structure AccountBalance where
  chartAccountCode : String
  debitTotal : ℤ
  creditTotal : ℤ
  deriving DecidableEq, Repr

/-- The lines of one tenant, entity and book through a date, in posting order. -/
def linesThrough (ledger : PostingLedger)
    (tenantReference legalEntityReference accountingBookReference : String) (throughDate : Date) :
    List PostedJournalLine :=
  (ledger.journals.values.filter fun journal =>
    journal.tenantReference = tenantReference ∧
      journal.legalEntityReference = legalEntityReference ∧
      journal.accountingBookReference = accountingBookReference ∧
      journal.accountingDate ≤ throughDate).flatMap PostedJournal.lines

/-- The inner loop: both running totals of the line's account. -/
def accumulate : List PostedJournalLine → Dict String (ℤ × ℤ) → Result (Dict String (ℤ × ℤ))
  | [], totals => .ok totals
  | line :: lines, totals => do
    let (debitTotal, creditTotal) := (totals.get? line.chartAccountCode).getD (0, 0)
    let debitTotal ← contextAdd debitTotal line.debitAmount
    let creditTotal ← contextAdd creditTotal line.creditAmount
    accumulate lines (totals.set line.chartAccountCode (debitTotal, creditTotal))

/-- `PostingLedger.trial_balance`: the items in code order. -/
def trialBalance (ledger : PostingLedger)
    (tenantReference legalEntityReference accountingBookReference : String) (throughDate : Date) :
    Result (List AccountBalance) := do
  let totals ← accumulate
    (ledger.linesThrough tenantReference legalEntityReference accountingBookReference throughDate)
    Dict.empty
  pure ((totals.entries.insertionSort fun a b => a.1 ≤ b.1).map fun item =>
    ⟨item.1, item.2.1, item.2.2⟩)

end PostingLedger

end AccountingPlatform.Core
