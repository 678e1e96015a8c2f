/-
  Bank accounts and their assignments to a book.

  A payload arrives with its fields read as texts and its timestamps parsed by the standard
  library; `none` stands for a text that is no timestamp. A text with a NUL character passes
  every check of the command and is refused by the driver. The payload whose SHA-256 is the
  identity of a command is `AssignmentEvidence`.
-/
import AccountingPlatform.Postgres.Reversal
import AccountingPlatform.Lib.Windows
import AccountingPlatform.Lib.Runs

namespace AccountingPlatform.Bank

open AccountingPlatform.Lib AccountingPlatform.Core AccountingPlatform.Postgres

/-! ## Texts and timestamps -/

/-- The driver passes a text parameter on. -/
def requireStorable (text : String) : Result Unit :=
  require ('\x00' ∉ text.toList) (.database .dataError)

/-- A date and time with its offset from UTC, if it has one. -/
structure IsoTimestamp where
  wallClock : Timestamp
  utcOffset : Option ℤ

/-- Years 1 to 9999. -/
def IsRepresentable (instant : ℤ) : Prop :=
  (midnight 1 : ℤ) ≤ instant ∧ instant < midnight 3652060

instance decIsRepresentable (instant : ℤ) : Decidable (IsRepresentable instant) :=
  inferInstanceAs (Decidable (_ ∧ _))

def IsoTimestamp.instant (parsed : IsoTimestamp) : ℤ := parsed.wallClock - parsed.utcOffset.getD 0

/-- `parsed.astimezone(timezone.utc)`, a naive one taken as UTC. -/
def IsoTimestamp.astimezone (parsed : IsoTimestamp) : Result Timestamp := do
  require (IsRepresentable parsed.instant) .dateOverflow
  pure parsed.instant.toNat

/-- `_parse_timestamp`. -/
def parseTimestamp (value : Option IsoTimestamp) (label : String) : Result Timestamp := do
  let parsed ← fetch value (.validation (label ++ " must be an ISO-8601 date or timestamp. " ++
    "Supply a UTC timestamp, then retry."))
  parsed.astimezone

/-! ## Tables -/

structure BankAccountRecord where
  bankAccountRecordId : ℕ
  bankAccountReference : String
  accountCurrencyCode : String
  accountIdentifierHash : String
  deriving DecidableEq

structure BankAccountAssignment where
  bankAccountAssignmentId : ℕ
  bankAccountRecordId : ℕ
  legalEntityId : ℕ
  accountingBookId : ℕ
  chartAccountId : ℕ
  /-- `valid_from` and `valid_to`. -/
  window : Window Timestamp
  assignmentIdempotencyKey : String
  assignmentCommandHash : String
  deriving DecidableEq

/-- `valid_to IS NULL`. -/
def BankAccountAssignment.IsOpen (row : BankAccountAssignment) : Prop := row.window.finish = none

instance decIsOpen (row : BankAccountAssignment) : Decidable row.IsOpen :=
  inferInstanceAs (Decidable (_ = _))

/-- Account and book an assignment binds. -/
def BankAccountAssignment.scope (row : BankAccountAssignment) : ℕ × ℕ :=
  (row.bankAccountRecordId, row.accountingBookId)

/-- The registered accounts with their keys. -/
structure BankAccounts where
  accounts : List BankAccountRecord
  account_key : (accounts.map BankAccountRecord.bankAccountRecordId).Nodup
  account_reference : (accounts.map BankAccountRecord.bankAccountReference).Nodup

structure BankTables extends BankAccounts where
  assignments : List BankAccountAssignment
  nextId : ℕ

/-- The tables before the first assignment. -/
def BankAccounts.unassigned (accounts : BankAccounts) : BankTables where
  toBankAccounts := accounts
  assignments := []
  nextId := 1

/-- `_load_bank_account`. -/
def BankAccounts.loadBankAccount (t : BankAccounts) (bankAccountReference : String) :
    Result BankAccountRecord :=
  fetch (t.accounts.find? fun account => account.bankAccountReference = bankAccountReference)
    (.validation ("bank account is not recorded for this tenant. " ++
      "Register the bank account, then retry."))

/-- Join on the primary key of `bank_account_record`. -/
def BankAccounts.account? (t : BankAccounts) (bankAccountRecordId : ℕ) : Option BankAccountRecord :=
  t.accounts.find? fun account => account.bankAccountRecordId = bankAccountRecordId

def BankTables.assignmentByKey (t : BankTables) (key : String) : Option BankAccountAssignment :=
  t.assignments.find? fun row => row.assignmentIdempotencyKey = key

/-! ## Commands -/

structure AssignmentCommand where
  tenantReference : String
  bankAccountReference : String
  legalEntityReference : String
  accountingBookReference : String
  chartAccountCode : String
  assignmentIdempotencyKey : String
  validFrom : Option IsoTimestamp
  /-- `none` for an absent or empty end. -/
  validTo : Option (Option IsoTimestamp)

/-- What `_assignment_command_hash` serializes. -/
structure AssignmentEvidence where
  bankAccountReference : String
  legalEntityReference : String
  accountingBookReference : String
  chartAccountCode : String
  /-- `valid_from` and `valid_to`. -/
  window : Window Timestamp
  deriving DecidableEq

/-- SHA-256 of the canonical evidence, prefixed with `sha256:`. -/
structure AssignmentDigest where
  hash : AssignmentEvidence → String
  hash_matches : ∀ evidence, matchesHash (hash evidence) = true

structure AssignmentDocument where
  tenantReference : String
  bankAccountReference : String
  legalEntityReference : String
  accountingBookReference : String
  chartAccountCode : String
  bankAccountAssignmentId : ℕ
  replayed : Bool
  deriving DecidableEq

variable (dep : Deployment)

/-- `_require_command`. -/
def requireCommand (tenantReference : String) : Result Unit :=
  require (tenantReference = dep.catalog.tenantReference)
    (.validation ("command tenant_reference does not match the bound tenant. " ++
      "Call the command with that tenant_reference, then retry."))

/-- The checks of the texts. -/
def AssignmentCommand.requireFields (command : AssignmentCommand) : Result Unit := do
  requireCommand dep command.tenantReference
  requireReference command.bankAccountReference "bank account reference"
  requireReference command.legalEntityReference "legal entity reference"
  requireReference command.accountingBookReference "accounting book reference"
  require (command.chartAccountCode ≠ "")
    (.validation ("chart_account_code is required. " ++
      "Supply the cash chart account on the same book, then retry the assignment."))
  require (strip command.assignmentIdempotencyKey ≠ "")
    (.validation ("assignment_idempotency_key is required. " ++
      "Supply the tenant-scoped assignment key, then retry the assignment."))

/-- `valid_to`, if there is one. -/
def parseEnd : Option (Option IsoTimestamp) → Result (Option Timestamp)
  | none => pure none
  | some raw => (parseTimestamp raw "assignment valid_to").map some

/-- `valid_from` and `valid_to`. -/
def AssignmentCommand.readWindow (command : AssignmentCommand) : Result (Window Timestamp) := do
  let validFrom ← parseTimestamp command.validFrom "assignment valid_from"
  let validTo ← parseEnd command.validTo
  pure ⟨validFrom, validTo⟩

/-- What is read before the session opens. -/
def AssignmentCommand.readEvidence (command : AssignmentCommand) : Result AssignmentEvidence := do
  command.requireFields dep
  let window ← command.readWindow
  pure {
    bankAccountReference := command.bankAccountReference
    legalEntityReference := command.legalEntityReference
    accountingBookReference := command.accountingBookReference
    chartAccountCode := command.chartAccountCode
    window := window }

/-! ## Assignment -/

/-- The rows `_load_assignment_document` joins. -/
def loadAssignmentDocument (t : BankTables) (row : BankAccountAssignment) (replayed : Bool) :
    Result AssignmentDocument :=
  fetch (do
      let account ← t.account? row.bankAccountRecordId
      let legalEntityCode ← legalEntityCode? dep row.legalEntityId
      let bookName ← bookName? dep row.accountingBookId
      let chartAccount ← dep.chartAccount? row.chartAccountId
      pure {
        tenantReference := dep.catalog.tenantReference
        bankAccountReference := account.bankAccountReference
        legalEntityReference := legalEntityCode
        accountingBookReference := bookName
        chartAccountCode := chartAccount.chartAccountCode
        bankAccountAssignmentId := row.bankAccountAssignmentId
        replayed := replayed })
    (.validation ("bank-account assignment could not be reloaded after replay. " ++
      "Repeat the original command, then retry."))

/-- The rows an assignment refers to. -/
structure AssignmentTarget where
  account : BankAccountRecord
  entity : LegalEntityRecord
  book : AccountingBook
  chartAccount : ChartAccount

def loadAssignmentTarget (t : BankTables) (evidence : AssignmentEvidence) :
    Result AssignmentTarget := do
  let account ← t.loadBankAccount evidence.bankAccountReference
  let entity ← dep.loadLegalEntity evidence.legalEntityReference "the bank-account assignment"
  let book ← dep.requireBookForClose entity.legalEntityId evidence.accountingBookReference
    "the assignment"
  requireStorable evidence.chartAccountCode
  let chartAccount ← fetch (dep.chartAccountForCode book.accountingBookId evidence.chartAccountCode)
    (.validation ("chart account is not recorded on the selected accounting book. " ++
      "Select a chart account from that book, then retry the assignment."))
  pure ⟨account, entity, book, chartAccount⟩

/-- The row of an assignment. -/
def AssignmentTarget.row (target : AssignmentTarget) (evidence : AssignmentEvidence)
    (key commandHash : String) (id : ℕ) : BankAccountAssignment where
  bankAccountAssignmentId := id
  bankAccountRecordId := target.account.bankAccountRecordId
  legalEntityId := target.entity.legalEntityId
  accountingBookId := target.book.accountingBookId
  chartAccountId := target.chartAccount.chartAccountId
  window := evidence.window
  assignmentIdempotencyKey := key
  assignmentCommandHash := commandHash

/-- `btrim(text) <> ''`. -/
def IsFilled (text : String) : Prop := ∃ c ∈ text.toList, c ≠ ' '

instance decIsFilled (text : String) : Decidable (IsFilled text) :=
  List.decidableBEx (fun c => c ≠ ' ') text.toList

/-- `INSERT INTO bank_account_assignment`: the checks of the row, then the unique indexes. The
    foreign keys hold, since every key was looked up. The `except` clauses translate the
    violation of a unique index and leave a check violation as it is. -/
def insertAssignment (t : BankTables) (row : BankAccountAssignment) :
    Result (BankAccountAssignment × BankTables) := do
  require (row.window.Proper ∧ IsFilled row.assignmentIdempotencyKey ∧
    row.assignmentCommandHash.toList.take 7 = "sha256:".toList) checkViolation
  require ((∀ r ∈ t.assignments, r.assignmentIdempotencyKey ≠ row.assignmentIdempotencyKey) ∧
      (row.IsOpen → ∀ r ∈ t.assignments, r.scope = row.scope → ¬r.IsOpen))
    (.validation ("bank account already has an active assignment on that accounting book. " ++
      "Close the existing binding with an explicit valid_to, then retry the assignment."))
  pure (row, { t with assignments := t.assignments ++ [row], nextId := t.nextId + 1 })

variable (digest : AssignmentDigest)

/-- `accept_bank_account_assignment`. -/
def acceptBankAccountAssignment (t : BankTables) (command : AssignmentCommand) :
    Result (AssignmentDocument × BankTables) := do
  let evidence ← command.readEvidence dep
  let commandHash := digest.hash evidence
  requireStorable command.assignmentIdempotencyKey
  match t.assignmentByKey command.assignmentIdempotencyKey with
  | some prior =>
    require (prior.assignmentCommandHash = commandHash)
      (.idempotencyConflict ("assignment idempotency key was already used with a different " ++
        "bank-account assignment"))
    let document ← loadAssignmentDocument dep t prior true
    pure (document, t)
  | none =>
    let target ← loadAssignmentTarget dep t evidence
    let inserted ← insertAssignment t
      (target.row evidence command.assignmentIdempotencyKey commandHash t.nextId)
    pure ({
      tenantReference := dep.catalog.tenantReference
      bankAccountReference := command.bankAccountReference
      legalEntityReference := command.legalEntityReference
      accountingBookReference := command.accountingBookReference
      chartAccountCode := command.chartAccountCode
      bankAccountAssignmentId := inserted.1.bankAccountAssignmentId
      replayed := false }, inserted.2)

/-- Commit or roll back. -/
def assign (t : BankTables) (command : AssignmentCommand) : BankTables :=
  match acceptBankAccountAssignment dep digest t command with
  | .ok (_, t') => t'
  | .error _ => t

/-- The tables after a sequence of assignment commands. -/
def assignedAfter (accounts : BankAccounts) (commands : List AssignmentCommand) : BankTables :=
  run (assign dep digest) accounts.unassigned commands

end AccountingPlatform.Bank
