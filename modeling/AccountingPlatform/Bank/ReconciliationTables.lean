/-
  The tables of bank reconciliation and the writes their constraints admit.

  A write is one INSERT or one status UPDATE. It is refused by a CHECK, a unique index, a
  foreign key or the trigger on the scope of a run, and then changes nothing. Amounts are
  millionths, after rounding to the scale of their column.
-/
import AccountingPlatform.Core.Validation
import AccountingPlatform.Lib.Totals
import AccountingPlatform.Lib.Runs
import AccountingPlatform.Lib.Keys
import Mathlib.Logic.Function.Basic

namespace AccountingPlatform.Bank

open AccountingPlatform.Lib AccountingPlatform.Core

/-! ## Rows -/

/-- Run of a tenant. -/
structure RunKey where
  tenantAccountId : ℕ
  reconciliationRunId : ℕ
  deriving DecidableEq

/-- Columns of `reconciliation_run` that the trigger guards. -/
structure RunScope where
  tenantAccountId : ℕ
  legalEntityId : ℕ
  accountingBookId : ℕ
  bankAccountAssignmentId : ℕ
  currencyCode : String
  bankCutoffAt : ℤ
  bookCutoffAt : ℤ
  matchingPolicyVersion : String
  knowledgeCutoffAt : ℤ
  deriving DecidableEq

inductive RunStatus
  | evaluating
  | reviewRequired
  | reconciled
  | notReconciled
  | superseded
  deriving DecidableEq

structure ReconciliationRun where
  reconciliationRunId : ℕ
  scope : RunScope
  runStatusCode : RunStatus
  deriving DecidableEq

def ReconciliationRun.key (row : ReconciliationRun) : RunKey :=
  ⟨row.scope.tenantAccountId, row.reconciliationRunId⟩

structure ReconciliationCandidate extends RunKey where
  reconciliationCandidateId : ℕ
  statementEntryReference : String
  journalReference : String
  statementAmount : ℕ
  journalAmount : ℕ
  ruleCode : String
  deriving DecidableEq

/-- Columns of the UNIQUE constraint. -/
def ReconciliationCandidate.pair (row : ReconciliationCandidate) : RunKey × String × String :=
  (row.toRunKey, row.statementEntryReference, row.journalReference)

inductive MatchStatus
  | proposed
  | approved
  | rejected
  | superseded
  deriving DecidableEq

structure ReconciliationMatch extends RunKey where
  reconciliationMatchId : ℕ
  reconciliationCandidateId : ℕ
  matchStatusCode : MatchStatus
  deriving DecidableEq

/-- Columns of the UNIQUE constraint. -/
def ReconciliationMatch.evaluation (row : ReconciliationMatch) : RunKey × ℕ :=
  (row.toRunKey, row.reconciliationCandidateId)

/-- Predicate of the index `reconciliation_match_approved_single`. -/
def ReconciliationMatch.IsApproved (row : ReconciliationMatch) : Prop :=
  row.matchStatusCode = .approved

instance (row : ReconciliationMatch) : Decidable row.IsApproved :=
  inferInstanceAs (Decidable (_ = _))

def ReconciliationMatch.withStatus (row : ReconciliationMatch) (status : MatchStatus) :
    ReconciliationMatch :=
  { row with matchStatusCode := status }

/-- Row of `statement_match_allocation` or of `journal_match_allocation`. -/
structure MatchAllocation extends RunKey where
  reconciliationAllocationId : ℕ
  reconciliationMatchId : ℕ
  /-- `statement_entry_reference` or `journal_reference`. -/
  sourceReference : String
  allocatedAmount : ℕ
  deriving DecidableEq

/-- The two allocation tables. -/
inductive AllocationSide
  | statement
  | journal
  deriving DecidableEq

/-! ## Tables -/

/-- What a run refers to: keys of entities, books and bank account assignments. -/
structure BankScopes where
  legalEntities : List (ℕ × ℕ)
  accountingBooks : List (ℕ × ℕ × ℕ)
  assignments : List (ℕ × ℕ × ℕ × ℕ)

structure ReconciliationTables where
  runs : List ReconciliationRun
  candidates : List ReconciliationCandidate
  matched : List ReconciliationMatch
  allocations : AllocationSide → List MatchAllocation

def ReconciliationTables.empty : ReconciliationTables where
  runs := []
  candidates := []
  matched := []
  allocations := fun _ => []

/-! ## Constraints -/

inductive Violation
  | check
  | numericRange
  | unique
  | foreignKey
  | scopeImmutable
  deriving DecidableEq

/-- `btrim(value) <> ''`. -/
def IsNamed (value : String) : Prop := ∃ c ∈ value.toList, c ≠ ' '

instance (value : String) : Decidable (IsNamed value) :=
  List.decidableBEx (fun c => c ≠ ' ') value.toList

/-- Type and CHECK of an amount column, `numeric(30, 6)` and positive. -/
def requireAmount (amount : ℕ) : Except Violation Unit := do
  require (amount < 10 ^ 30) .numericRange
  require (0 < amount) .check

/-- Foreign key to `reconciliation_run`. -/
def requireRun (t : ReconciliationTables) (key : RunKey) : Except Violation Unit :=
  require (∃ run ∈ t.runs, run.key = key) .foreignKey

/-- The CHECKs of `reconciliation_run` and its foreign keys. -/
def requireScope (scopes : BankScopes) (scope : RunScope) : Except Violation Unit := do
  require (matchesCurrency scope.currencyCode) .check
  require (IsNamed scope.matchingPolicyVersion) .check
  require (scope.bankCutoffAt ≤ scope.knowledgeCutoffAt) .check
  require (scope.bookCutoffAt ≤ scope.knowledgeCutoffAt) .check
  require ((scope.tenantAccountId, scope.legalEntityId) ∈ scopes.legalEntities) .foreignKey
  require ((scope.tenantAccountId, scope.legalEntityId, scope.accountingBookId) ∈
    scopes.accountingBooks) .foreignKey
  require ((scope.tenantAccountId, scope.legalEntityId, scope.accountingBookId,
    scope.bankAccountAssignmentId) ∈ scopes.assignments) .foreignKey

/-- `reject_reconciliation_run_scope_mutation`. -/
def rejectReconciliationRunScopeMutation (old : ReconciliationRun) (scope : RunScope) :
    Except Violation Unit :=
  require (scope = old.scope) .scopeImmutable

/-! ## Writes -/

def insertRun (scopes : BankScopes) (t : ReconciliationTables) (row : ReconciliationRun) :
    Except Violation ReconciliationTables := do
  require (∀ other ∈ t.runs, other.reconciliationRunId ≠ row.reconciliationRunId) .unique
  requireScope scopes row.scope
  pure { t with runs := t.runs ++ [row] }

/-- UPDATE of the status, and of the scope columns, of one run. -/
def updateRun (t : ReconciliationTables) (reconciliationRunId : ℕ) (scope : RunScope)
    (status : RunStatus) : Except Violation ReconciliationTables :=
  match t.runs.find? fun row => row.reconciliationRunId = reconciliationRunId with
  | none => pure t
  | some old => do
    rejectReconciliationRunScopeMutation old scope
    pure { t with
      runs := t.runs.map fun row =>
        if row.reconciliationRunId = reconciliationRunId then { row with runStatusCode := status }
        else row }

def insertCandidate (t : ReconciliationTables) (row : ReconciliationCandidate) :
    Except Violation ReconciliationTables := do
  requireAmount row.statementAmount
  requireAmount row.journalAmount
  require (IsNamed row.statementEntryReference) .check
  require (IsNamed row.journalReference) .check
  require (IsNamed row.ruleCode) .check
  require (∀ other ∈ t.candidates,
    other.reconciliationCandidateId ≠ row.reconciliationCandidateId) .unique
  require (∀ other ∈ t.candidates, other.pair ≠ row.pair) .unique
  requireRun t row.toRunKey
  pure { t with candidates := t.candidates ++ [row] }

/-- `reconciliation_match_approved_single`: no other approved match has the key. -/
def requireApprovedSingle (others : List ReconciliationMatch) (row : ReconciliationMatch) :
    Except Violation Unit :=
  require (row.IsApproved → ∀ other ∈ others, other.IsApproved → other.toRunKey ≠ row.toRunKey)
    .unique

def insertMatch (t : ReconciliationTables) (row : ReconciliationMatch) :
    Except Violation ReconciliationTables := do
  require (∀ other ∈ t.matched, other.reconciliationMatchId ≠ row.reconciliationMatchId) .unique
  require (∀ other ∈ t.matched, other.evaluation ≠ row.evaluation) .unique
  requireApprovedSingle t.matched row
  requireRun t row.toRunKey
  require (∃ candidate ∈ t.candidates,
    candidate.reconciliationCandidateId = row.reconciliationCandidateId) .foreignKey
  pure { t with matched := t.matched ++ [row] }

/-- UPDATE of the status of one match. -/
def updateMatch (t : ReconciliationTables) (reconciliationMatchId : ℕ) (status : MatchStatus) :
    Except Violation ReconciliationTables :=
  match t.matched.find? fun row => row.reconciliationMatchId = reconciliationMatchId with
  | none => pure t
  | some old => do
    requireApprovedSingle
      (t.matched.filter fun row => row.reconciliationMatchId ≠ reconciliationMatchId)
      (old.withStatus status)
    pure { t with
      matched := t.matched.map fun row =>
        if row.reconciliationMatchId = reconciliationMatchId then row.withStatus status else row }

def insertAllocation (t : ReconciliationTables) (side : AllocationSide) (row : MatchAllocation) :
    Except Violation ReconciliationTables := do
  requireAmount row.allocatedAmount
  require (IsNamed row.sourceReference) .check
  require (∀ other ∈ t.allocations side,
    other.reconciliationAllocationId ≠ row.reconciliationAllocationId) .unique
  requireRun t row.toRunKey
  require (∃ candidate ∈ t.matched,
    candidate.reconciliationMatchId = row.reconciliationMatchId) .foreignKey
  pure { t with
    allocations := Function.update t.allocations side (t.allocations side ++ [row]) }

inductive ReconciliationWrite
  | insertRun (row : ReconciliationRun)
  | updateRun (reconciliationRunId : ℕ) (scope : RunScope) (status : RunStatus)
  | insertCandidate (row : ReconciliationCandidate)
  | insertMatch (row : ReconciliationMatch)
  | updateMatch (reconciliationMatchId : ℕ) (status : MatchStatus)
  | insertAllocation (side : AllocationSide) (row : MatchAllocation)

def applyWrite (scopes : BankScopes) (t : ReconciliationTables) :
    ReconciliationWrite → Except Violation ReconciliationTables
  | .insertRun row => insertRun scopes t row
  | .updateRun reconciliationRunId scope status => updateRun t reconciliationRunId scope status
  | .insertCandidate row => insertCandidate t row
  | .insertMatch row => insertMatch t row
  | .updateMatch reconciliationMatchId status => updateMatch t reconciliationMatchId status
  | .insertAllocation side row => insertAllocation t side row

/-- A refused write changes nothing. -/
def write (scopes : BankScopes) (t : ReconciliationTables) (w : ReconciliationWrite) :
    ReconciliationTables :=
  match applyWrite scopes t w with
  | .ok t' => t'
  | .error _ => t

end AccountingPlatform.Bank
