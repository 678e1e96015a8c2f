/-
  Journal proposals, posting policies and posted journals.

  A proposal line and a proposal are built by their constructors only. A `JournalProposal`
  carries the fact that `postInit` accepted it, so what the constructor checks never has to
  be checked again.
-/
import AccountingPlatform.Core.Validation
import AccountingPlatform.Lib.Dict

namespace AccountingPlatform.Core

open AccountingPlatform.Lib

/-- A day, as `date.toordinal()`. -/
abbrev Date := ℕ

/-! ## Proposal lines -/

/-- One proposed line, amounts in millionths. -/
structure JournalLineProposal where
  lineNumber : ℕ
  accountRoleCode : String
  debitAmount : ℕ
  creditAmount : ℕ
  lineNumber_pos : 1 ≤ lineNumber
  role_matches : matchesCode accountRoleCode = true
  one_side : ¬((0 < debitAmount) ↔ (0 < creditAmount))

/-- `JournalLineProposal(...)`: normalize both amounts, exactly one of them positive. -/
def JournalLineProposal.build (lineNumber : ℤ) (accountRoleCode debitAmount creditAmount : String) :
    Result JournalLineProposal :=
  if hn : lineNumber < 1 then
    .error (.validation "line_number must be positive. Supply a line_number starting at 1, then retry ingest.")
  else do
    if hr : matchesCode accountRoleCode = true then
      let debit ← parseAmount debitAmount
      let credit ← parseAmount creditAmount
      if hs : (0 < debit) ↔ (0 < credit) then
        .error (.validation "journal line must contain exactly one positive debit or credit amount. Supply exactly one positive debit_amount or credit_amount per line, then retry ingest.")
      else
        pure ⟨lineNumber.toNat, accountRoleCode, debit, credit, by omega, hr, hs⟩
    else
      .error (.validation "account role code must be lower snake_case. Supply a valid account role code, then retry.")

/-! ## Proposals -/

structure JournalProposalFields where
  proposalId : String
  proposalContractVersion : ℤ
  idempotencyKey : String
  tenantReference : String
  legalEntityReference : String
  intendedBookRoleCode : String
  transactionCurrency : String
  transactionDate : Date
  accountingDate : Date
  sourcePayloadHash : String
  sourceEventReferences : List String
  lines : List JournalLineProposal

def debitAmounts (lines : List JournalLineProposal) : List ℤ :=
  lines.map fun line => (line.debitAmount : ℤ)

def creditAmounts (lines : List JournalLineProposal) : List ℤ :=
  lines.map fun line => (line.creditAmount : ℤ)

def proposalImbalance : LedgerError :=
  .validation "journal proposal must balance. Correct the line amounts so debit totals equal credit totals, then retry ingest."

/-- The last check of `__post_init__`: the two rounded running sums agree. -/
def requireBalanced (lines : List JournalLineProposal) : Result Unit := do
  let debitTotal ← contextSum 0 (debitAmounts lines)
  let creditTotal ← contextSum 0 (creditAmounts lines)
  require (debitTotal = creditTotal) proposalImbalance

/-- The checks of `__post_init__` before the balance check. -/
def requireProposalShape (f : JournalProposalFields) : Result Unit := do
  require (f.proposalId ≠ "" ∧ 1 ≤ f.proposalContractVersion)
    (.validation "proposal identity and contract version are required. Supply proposal_id and proposal_contract_version, then retry ingest.")
  let _ ← requireProposalId f.proposalId
  require (f.idempotencyKey ≠ "")
    (.validation "idempotency_key is required. Supply the source-system idempotency_key, then retry ingest.")
  requireReference f.tenantReference "tenant reference"
  requireReference f.legalEntityReference "legal entity reference"
  requireCode f.intendedBookRoleCode "intended book role code"
  requireCurrency f.transactionCurrency
  require (matchesHash f.sourcePayloadHash = true)
    (.validation "source_payload_hash must be canonical sha256. Supply sha256: plus 64 hex characters, then retry ingest.")
  require (f.sourceEventReferences ≠ [])
    (.validation "at least one source event reference is required. Supply at least one source_event_reference, then retry ingest.")
  let _ ← tryMap (fun reference => requireReference reference "source event reference")
    f.sourceEventReferences
  require (2 ≤ f.lines.length)
    (.validation "journal proposal requires at least two lines. Supply at least two journal lines, then retry ingest.")
  require (f.lines.map JournalLineProposal.lineNumber).Nodup
    (.validation "journal line numbers must be unique. Supply unique line numbers, then retry ingest.")

/-- `JournalProposal.__post_init__`. -/
def JournalProposalFields.postInit (f : JournalProposalFields) : Result Unit := do
  requireProposalShape f
  requireBalanced f.lines

/-- A proposal its constructor accepted. -/
structure JournalProposal extends JournalProposalFields where
  accepted : toJournalProposalFields.postInit = .ok ()

/-- `JournalProposal(...)`. -/
def JournalProposal.build (f : JournalProposalFields) : Result JournalProposal :=
  match h : f.postInit with
  | .ok () => .ok ⟨f, h⟩
  | .error e => .error e

theorem JournalProposal.shape (p : JournalProposal) :
    requireProposalShape p.toJournalProposalFields = .ok () := by
  have h := p.accepted
  simp only [JournalProposalFields.postInit, bind_eq_ok] at h
  obtain ⟨_, h, -⟩ := h
  exact h

theorem JournalProposal.proposalId_matches (p : JournalProposal) :
    matchesProposalId p.proposalId = true := by
  have h := p.shape
  simp only [requireProposalShape, requireProposalId, bind_eq_ok, require_eq_ok] at h
  obtain ⟨-, -, -, ⟨-, h, -⟩, -⟩ := h
  exact h

theorem JournalProposal.two_lines (p : JournalProposal) : 2 ≤ p.lines.length := by
  have h := p.shape
  simp only [requireProposalShape, bind_eq_ok, require_eq_ok] at h
  obtain ⟨-, -, -, -, -, -, -, -, -, -, -, -, -, -, -, -, -, -, -, -, -, h, -⟩ := h
  exact h

theorem JournalProposal.lineNumbers_nodup (p : JournalProposal) :
    (p.lines.map JournalLineProposal.lineNumber).Nodup := by
  have h := p.shape
  simp only [requireProposalShape, bind_eq_ok, require_eq_ok] at h
  obtain ⟨-, -, -, -, -, -, -, -, -, -, -, -, -, -, -, -, -, -, -, -, -, -, h⟩ := h
  exact h

/-- The balance a constructor vouches for is that of the rounded sums. -/
theorem JournalProposal.rounded_balance (p : JournalProposal) :
    decSum contextPrecision (debitAmounts p.lines) =
      decSum contextPrecision (creditAmounts p.lines) := by
  have h := p.accepted
  simp only [JournalProposalFields.postInit, requireBalanced, bind_eq_ok, require_eq_ok] at h
  obtain ⟨-, -, debitTotal, hd, creditTotal, hc, heq⟩ := h
  calc decSum contextPrecision (debitAmounts p.lines) = debitTotal := (contextSum_eq hd).symm
    _ = creditTotal := heq
    _ = decSum contextPrecision (creditAmounts p.lines) := contextSum_eq hc

/-! ## Policies -/

structure AccountingPolicyFields where
  tenantReference : String
  legalEntityReference : String
  accountingBookReference : String
  intendedBookRoleCode : String
  transactionCurrency : String
  functionalCurrency : String
  openPeriodStart : Date
  openPeriodEnd : Date
  chartAccountMapping : Dict String String
  accountingPolicyVersion : String
  postingRuleVersion : String

/-- `account_code and account_code.isascii() and account_code.isalnum()`. -/
def isAccountCode (code : String) : Bool :=
  !code.toList.isEmpty && code.toList.all fun c => isLower c || isUpper c || isDigit c

/-- `AccountingPolicy.__post_init__`. -/
def AccountingPolicyFields.postInit (f : AccountingPolicyFields) : Result Unit := do
  requireReference f.tenantReference "tenant reference"
  requireReference f.legalEntityReference "legal entity reference"
  requireReference f.accountingBookReference "accounting book reference"
  requireCode f.intendedBookRoleCode "intended book role code"
  requireCurrency f.transactionCurrency
  requireCurrency f.functionalCurrency
  require (f.openPeriodStart ≤ f.openPeriodEnd)
    (.validation "open fiscal period start must not exceed end. Correct open_period_start/open_period_end in the policy manifest, then retry policy load.")
  require (f.accountingPolicyVersion ≠ "" ∧ f.postingRuleVersion ≠ "")
    (.validation "accounting policy and posting rule versions are required. Supply accounting_policy_version and posting_rule_version, then retry policy load.")
  let _ ← tryMap (fun entry : String × String => do
      requireCode entry.1 "account role code"
      require (isAccountCode entry.2 = true)
        (.validation "chart account code must be non-empty ASCII alphanumeric. Supply a non-empty alphanumeric chart_account_code, then retry policy load."))
    f.chartAccountMapping.entries

/-- A policy its constructor accepted. -/
structure AccountingPolicy extends AccountingPolicyFields where
  accepted : toAccountingPolicyFields.postInit = .ok ()

/-- `AccountingPolicy(...)`. -/
def AccountingPolicy.build (f : AccountingPolicyFields) : Result AccountingPolicy :=
  match h : f.postInit with
  | .ok () => .ok ⟨f, h⟩
  | .error e => .error e

theorem AccountingPolicy.build_fields {f : AccountingPolicyFields} {policy : AccountingPolicy}
    (h : AccountingPolicy.build f = .ok policy) : policy.toAccountingPolicyFields = f := by
  unfold AccountingPolicy.build at h
  split at h
  · cases h; rfl
  · cases h

def AccountingPolicy.permits (policy : AccountingPolicy) (accountingDate : Date) : Bool :=
  policy.openPeriodStart ≤ accountingDate && accountingDate ≤ policy.openPeriodEnd

/-! ## Posted journals and receipts -/

structure PostedJournalLine where
  lineNumber : ℕ
  chartAccountCode : String
  accountRoleCode : String
  debitAmount : ℕ
  creditAmount : ℕ
  deriving DecidableEq, Repr

/-- The same line on the opposite side. -/
def PostedJournalLine.opposite (line : PostedJournalLine) : PostedJournalLine :=
  { line with debitAmount := line.creditAmount, creditAmount := line.debitAmount }

structure PostedJournal where
  journalReference : String
  tenantReference : String
  legalEntityReference : String
  accountingBookReference : String
  accountingDate : Date
  transactionCurrency : String
  functionalCurrency : String
  sourceProposalId : String
  sourcePayloadHash : String
  accountingPolicyVersion : String
  postingRuleVersion : String
  lines : List PostedJournalLine
  reversalOfJournalReference : Option String
  reversalReasonCode : Option String
  reversalIdempotencyKey : Option String
  deriving DecidableEq, Repr

structure PostingReceipt where
  receiptReference : String
  journalReference : String
  postingStatusCode : String
  sourceProposalId : String
  sourcePayloadHash : String
  tenantReference : String
  legalEntityReference : String
  accountingBookReference : String
  accountingPolicyVersion : String
  postingRuleVersion : String
  lineCount : ℕ
  reversalOfJournalReference : Option String
  deriving DecidableEq, Repr

/-- Exact, debit and credit totals of posted lines. -/
def debitTotal (lines : List PostedJournalLine) : ℕ := (lines.map (·.debitAmount)).sum
def creditTotal (lines : List PostedJournalLine) : ℕ := (lines.map (·.creditAmount)).sum

@[simp] theorem opposite_opposite (line : PostedJournalLine) : line.opposite.opposite = line := rfl

theorem debitTotal_opposite (lines : List PostedJournalLine) :
    debitTotal (lines.map PostedJournalLine.opposite) = creditTotal lines := by
  simp [debitTotal, creditTotal, PostedJournalLine.opposite, Function.comp_def]

theorem creditTotal_opposite (lines : List PostedJournalLine) :
    creditTotal (lines.map PostedJournalLine.opposite) = debitTotal lines := by
  simp [debitTotal, creditTotal, PostedJournalLine.opposite, Function.comp_def]

/-! ## Scope and line resolution, shared by both ledgers -/

/-- `PostingLedger._resolve_line`. -/
def resolveLine (policy : AccountingPolicy) (line : JournalLineProposal) :
    Result PostedJournalLine := do
  let chartAccountCode ← fetch (policy.chartAccountMapping.get? line.accountRoleCode)
    (.validation ("account role " ++ line.accountRoleCode ++
      " is not mapped on this book. Map that role in the policy manifest, then retry posting."))
  pure ⟨line.lineNumber, chartAccountCode, line.accountRoleCode, line.debitAmount, line.creditAmount⟩

/-- `PostingLedger._validate_policy_scope`. -/
def validatePolicyScope (proposal : JournalProposal) (policy : AccountingPolicy) : Result Unit := do
  require (proposal.tenantReference = policy.tenantReference)
    (.validation "proposal tenant scope does not match policy. Send the proposal under the matching tenant scope, then retry posting.")
  require (proposal.legalEntityReference = policy.legalEntityReference)
    (.validation "proposal legal entity scope does not match policy. Send the proposal under the matching legal-entity scope, then retry posting.")
  require (proposal.intendedBookRoleCode = policy.intendedBookRoleCode)
    (.validation "proposal book role does not match policy. Send the proposal under the matching book role, then retry posting.")
  require (policy.permits proposal.accountingDate = true)
    (.validation "accounting date belongs to a closed fiscal period. Post into an open period for this book, then retry posting.")
  require (proposal.transactionCurrency = policy.transactionCurrency)
    (.validation "proposal transaction currency does not match policy. Supply the policy transaction currency, then retry posting.")
  require (policy.transactionCurrency = policy.functionalCurrency)
    (.validation "foreign exchange accounting is outside the initial posting milestone. Post in the book's functional currency, then retry posting.")

theorem resolveLine_ok {policy : AccountingPolicy} {line : JournalLineProposal}
    {posted : PostedJournalLine} (h : resolveLine policy line = .ok posted) :
    ∃ code, policy.chartAccountMapping.get? line.accountRoleCode = some code ∧
      posted = ⟨line.lineNumber, code, line.accountRoleCode, line.debitAmount, line.creditAmount⟩ := by
  simp only [resolveLine, bind_eq_ok, fetch_eq_ok, pure_eq_ok] at h
  obtain ⟨code, hcode, hposted⟩ := h
  exact ⟨code, hcode, hposted.symm⟩

/-- Resolution keeps the amounts of every line, in order. -/
theorem resolved_amounts {policy : AccountingPolicy} {lines : List JournalLineProposal}
    {posted : List PostedJournalLine} (h : tryMap (resolveLine policy) lines = .ok posted) :
    posted.map (fun line => (line.debitAmount : ℤ)) = debitAmounts lines ∧
      posted.map (fun line => (line.creditAmount : ℤ)) = creditAmounts lines := by
  have hf := tryMap_ok h
  clear h
  induction hf with
  | nil => exact ⟨rfl, rfl⟩
  | cons hline _ ih =>
    obtain ⟨code, -, rfl⟩ := resolveLine_ok hline
    exact ⟨congrArg _ ih.1, congrArg _ ih.2⟩

/-! ## Lines of an invoice -/

theorem firstLine_pos : 1 ≤ 1 := Nat.le_refl 1

theorem secondLine_pos : 1 ≤ 2 := Nat.le_succ 1

theorem receivableRole_matches : matchesCode "accounts_receivable" = true := by decide

theorem usageRole_matches : matchesCode "usage_revenue" = true := by decide

/-- One millionth per unit of `amount`, owed by a customer and earned by usage. -/
def invoiceLines (amount : ℕ) (h : 0 < amount) : List JournalLineProposal := [
  ⟨1, "accounts_receivable", amount, 0, firstLine_pos, receivableRole_matches, by simp [h]⟩,
  ⟨2, "usage_revenue", 0, amount, secondLine_pos, usageRole_matches, by simp [h]⟩]

theorem oneUnit_pos : 0 < 1000000 := by decide

end AccountingPlatform.Core
