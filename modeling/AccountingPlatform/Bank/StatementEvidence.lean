/-
  Ingestion of bank statements.

  A call is answered from the row of its key, else from the row of its artifact, else from the
  row of its statement identity; only a call that finds none of them records its key. The XML
  adapter, SHA-256 over bytes and the host's artifact store are a parameter.
-/
import AccountingPlatform.Bank.Assignments

namespace AccountingPlatform.Bank

open AccountingPlatform.Lib AccountingPlatform.Core AccountingPlatform.Postgres

/-! ## Statements -/

structure NormalizedStatementEntry where
  entrySequenceNumber : ℕ
  entryAmount : ℕ
  entryCurrencyCode : String
  /-- `CRDT`, otherwise `DBIT`. -/
  isCredit : Bool
  /-- Amounts of its transaction details. -/
  detailAmounts : List ℕ

structure NormalizedBankStatement where
  messageDefinitionIdentifier : String
  statementIdentityReference : String
  electronicSequenceNumber : Option String
  legalSequenceNumber : Option String
  periodStartAt : Option Timestamp
  periodEndAt : Option Timestamp
  openingBalanceHash : Option String
  closingBalanceHash : Option String
  accountCurrencyCode : String
  accountIdentifierHash : String
  normalizedPayloadHash : String
  entries : List NormalizedStatementEntry

/-- What ingestion takes from outside: `_sha256_digest` of the bytes of a text,
    `parse_bank_statement_payload` of the pinned revision and `put_artifact` of the store. -/
structure StatementAdapter where
  sha256 : String → String
  parse : String → Result NormalizedBankStatement
  putArtifact : String → String → Result String
  /-- A payload that does not parse is no conflict of keys. -/
  parse_noConflict : ∀ payload, Raises (fun e => ¬e.isConflict) (parse payload)
  /-- Neither is a store that fails. -/
  putArtifact_noConflict : ∀ hash payload, Raises (fun e => ¬e.isConflict) (putArtifact hash payload)

/-! ## Tables -/

structure BankStatementArtifact where
  bankStatementArtifactId : ℕ
  sourceArtifactHash : String
  artifactStoreReference : String
  artifactByteLength : ℕ

structure BankStatementRecord where
  bankStatementRecordId : ℕ
  bankAccountRecordId : ℕ
  bankStatementArtifactId : ℕ
  messageDefinitionIdentifier : String
  statementIdentityReference : String
  electronicSequenceNumber : Option String
  legalSequenceNumber : Option String
  periodStartAt : Option Timestamp
  periodEndAt : Option Timestamp
  openingBalanceHash : Option String
  closingBalanceHash : Option String
  sourceArtifactHash : String
  normalizedPayloadHash : String
  ingestionIdempotencyKey : String

structure BankStatementEntry where
  bankStatementRecordId : ℕ
  entry : NormalizedStatementEntry

structure StatementTables extends BankAccounts where
  artifacts : List BankStatementArtifact
  statements : List BankStatementRecord
  entries : List BankStatementEntry
  nextId : ℕ

def BankAccounts.noStatements (accounts : BankAccounts) : StatementTables where
  toBankAccounts := accounts
  artifacts := []
  statements := []
  entries := []
  nextId := 1

namespace StatementTables

variable (t : StatementTables)

def statementByKey (key : String) : Option BankStatementRecord :=
  t.statements.find? fun row => row.ingestionIdempotencyKey = key

def statementByArtifact (hash : String) : Option BankStatementRecord :=
  t.statements.find? fun row => row.sourceArtifactHash = hash

def statementByIdentity (bankAccountRecordId : ℕ) (identity : String) :
    Option BankStatementRecord :=
  t.statements.find? fun row =>
    row.bankAccountRecordId = bankAccountRecordId ∧ row.statementIdentityReference = identity

def artifact? (bankStatementArtifactId : ℕ) : Option BankStatementArtifact :=
  t.artifacts.find? fun artifact => artifact.bankStatementArtifactId = bankStatementArtifactId

def entriesOf (bankStatementRecordId : ℕ) : List NormalizedStatementEntry :=
  (t.entries.filter fun row => row.bankStatementRecordId = bankStatementRecordId).map
    BankStatementEntry.entry

end StatementTables

/-! ## Answers -/

structure StatementDocument where
  tenantReference : String
  bankAccountReference : String
  record : BankStatementRecord
  artifactStoreReference : String
  entryCount : ℕ
  creditTotalAmount : ℕ
  debitTotalAmount : ℕ
  replayed : Bool

variable (dep : Deployment)

/-- `_load_statement_document` of a row; the joins can miss. -/
def loadStatementDocument (t : StatementTables) (row : BankStatementRecord) (replayed : Bool) :
    Result StatementDocument :=
  fetch (do
      let artifact ← t.artifact? row.bankStatementArtifactId
      let account ← t.account? row.bankAccountRecordId
      let entries := t.entriesOf row.bankStatementRecordId
      pure {
        tenantReference := dep.catalog.tenantReference
        bankAccountReference := account.bankAccountReference
        record := row
        artifactStoreReference := artifact.artifactStoreReference
        entryCount := entries.length
        creditTotalAmount := total NormalizedStatementEntry.entryAmount (entries.filter (·.isCredit))
        debitTotalAmount := total NormalizedStatementEntry.entryAmount (entries.filter (!·.isCredit))
        replayed := replayed })
    (.validation ("bank statement is not recorded for this tenant. " ++
      "Supply a persisted bank_statement_record_id, then retry the statement read."))

/-! ## Commands -/

structure StatementCommand where
  tenantReference : String
  bankAccountReference : String
  ingestionIdempotencyKey : String
  messageDefinitionIdentifier : String
  /-- The XML text; `none` where the field is no text. -/
  statementPayload : Option String
  sourceArtifactHash : Option String

variable (adapter : StatementAdapter)

/-- The checks before the payload is parsed. -/
def StatementCommand.readPayload (command : StatementCommand) : Result String := do
  requireCommand dep command.tenantReference
  requireReference command.bankAccountReference "bank account reference"
  require (command.ingestionIdempotencyKey ≠ "")
    (.validation ("ingestion_idempotency_key is required. " ++
      "Supply the statement ingest key, then retry ingest."))
  let payload ← fetch (command.statementPayload.filter (· ≠ ""))
    (.validation ("statement_payload must be the original XML text. " ++
      "Supply the camt.053.001.14 document, then retry ingest."))
  require (∀ supplied ∈ command.sourceArtifactHash, supplied ≠ "" → matchesHash supplied = true)
    (.validation ("source_artifact_hash must be sha256: plus 64 lowercase hex characters. " ++
      "Supply that digest, then retry ingest."))
  require (∀ supplied ∈ command.sourceArtifactHash, supplied ≠ "" → supplied = adapter.sha256 payload)
    (.validation ("source_artifact_hash does not match the supplied statement bytes. " ++
      "Send the original artifact and its SHA-256, then retry ingest."))
  pure payload

/-- `parse_bank_statement_payload`. -/
def parseStatement (payload messageDefinitionIdentifier : String) :
    Result NormalizedBankStatement := do
  require (messageDefinitionIdentifier = "camt.053.001.14")
    (.validation ("message-definition identifier is not the pinned camt.053.001.14 adapter. " ++
      "Send BankToCustomerStatementV14, then retry ingest."))
  adapter.parse payload

/-- `_require_entry_currencies`. -/
def requireEntryCurrencies (statement : NormalizedBankStatement) : Result Unit := do
  let _ ← tryMap (fun entry : NormalizedStatementEntry =>
    require (entry.entryCurrencyCode = statement.accountCurrencyCode)
      (.validation ("statement entry " ++ toString entry.entrySequenceNumber ++ " uses currency " ++
        entry.entryCurrencyCode ++ ", but this registry accepts only " ++
        statement.accountCurrencyCode ++ " evidence. Register a matching-currency " ++
        "account or correct the statement, then retry ingest."))) statement.entries
  pure ()

/-- A payload with its statement and the account it is for. -/
structure PreparedStatement where
  payload : String
  statement : NormalizedBankStatement
  account : BankAccountRecord

/-- Everything before the lookups. -/
def prepareStatement (accounts : BankAccounts) (command : StatementCommand) :
    Result PreparedStatement := do
  let payload ← command.readPayload dep adapter
  let statement ← parseStatement adapter payload command.messageDefinitionIdentifier
  requireStorable command.ingestionIdempotencyKey
  let account ← accounts.loadBankAccount command.bankAccountReference
  require (account.accountCurrencyCode = statement.accountCurrencyCode)
    (.validation ("statement account currency does not match the registered bank account. " ++
      "Register the matching currency, then retry ingest."))
  require (account.accountIdentifierHash = statement.accountIdentifierHash)
    (.validation ("statement account identifier does not match the registered bank account. " ++
      "Register the matching account identifier, then retry ingest."))
  requireEntryCurrencies statement
  pure ⟨payload, statement, account⟩

/-! ## Ingestion -/

/-- The row of a statement. -/
def PreparedStatement.row (prepared : PreparedStatement) (hash key : String)
    (id artifactId : ℕ) : BankStatementRecord where
  bankStatementRecordId := id
  bankAccountRecordId := prepared.account.bankAccountRecordId
  bankStatementArtifactId := artifactId
  messageDefinitionIdentifier := prepared.statement.messageDefinitionIdentifier
  statementIdentityReference := prepared.statement.statementIdentityReference
  electronicSequenceNumber := prepared.statement.electronicSequenceNumber
  legalSequenceNumber := prepared.statement.legalSequenceNumber
  periodStartAt := prepared.statement.periodStartAt
  periodEndAt := prepared.statement.periodEndAt
  openingBalanceHash := prepared.statement.openingBalanceHash
  closingBalanceHash := prepared.statement.closingBalanceHash
  sourceArtifactHash := hash
  normalizedPayloadHash := prepared.statement.normalizedPayloadHash
  ingestionIdempotencyKey := key

/-- Amounts of an entry and its details fit the column. -/
def NormalizedStatementEntry.Fits (entry : NormalizedStatementEntry) : Prop :=
  fitsNumeric entry.entryAmount ∧ ∀ amount ∈ entry.detailAmounts, fitsNumeric amount

instance decFitsEntry (entry : NormalizedStatementEntry) : Decidable entry.Fits :=
  inferInstanceAs (Decidable (_ ∧ ∀ amount ∈ entry.detailAmounts, fitsNumeric amount))

/-- Artifact, statement and entries in one transaction. -/
def insertStatement (t : StatementTables) (prepared : PreparedStatement) (key : String) :
    Result (BankStatementRecord × StatementTables) := do
  let hash := adapter.sha256 prepared.payload
  let locator ← adapter.putArtifact hash prepared.payload
  require (IsFilled locator) checkViolation
  require (∀ artifact ∈ t.artifacts, artifact.sourceArtifactHash ≠ hash) uniqueViolation
  let row := prepared.row hash key (t.nextId + 1) t.nextId
  require (IsFilled key) checkViolation
  require (∀ r ∈ t.statements, r.ingestionIdempotencyKey ≠ key ∧ r.sourceArtifactHash ≠ hash ∧
    ¬(r.bankAccountRecordId = row.bankAccountRecordId ∧
      r.statementIdentityReference = row.statementIdentityReference)) uniqueViolation
  require (∀ entry ∈ prepared.statement.entries, entry.Fits) outOfRange
  pure (row, { t with
    artifacts := t.artifacts ++ [⟨t.nextId, hash, locator, prepared.payload.utf8ByteSize⟩]
    statements := t.statements ++ [row]
    entries := t.entries ++ prepared.statement.entries.map fun entry => ⟨t.nextId + 1, entry⟩
    nextId := t.nextId + 2 })

/-- The row a prepared call is answered from, if there is one. -/
def findStatement (t : StatementTables) (prepared : PreparedStatement) (key : String) :
    Result (Option BankStatementRecord) :=
  let hash := adapter.sha256 prepared.payload
  let normalized := prepared.statement.normalizedPayloadHash
  match t.statementByKey key with
  | some prior => do
    require (prior.sourceArtifactHash = hash ∧ prior.normalizedPayloadHash = normalized)
      (.idempotencyConflict
        "ingestion idempotency key was already used with a different statement artifact")
    pure (some prior)
  | none =>
    match t.statementByArtifact hash with
    | some prior => pure (some prior)
    | none =>
      match t.statementByIdentity prepared.account.bankAccountRecordId
          prepared.statement.statementIdentityReference with
      | some prior => do
        require (prior.normalizedPayloadHash = normalized)
          (.validation ("statement identity already exists with different entry evidence. " ++
            "Use an explicit correction contract, then retry ingest."))
        pure (some prior)
      | none => pure none

/-- `accept_bank_statement_evidence`. -/
def acceptBankStatementEvidence (t : StatementTables) (command : StatementCommand) :
    Result (StatementDocument × StatementTables) := do
  let prepared ← prepareStatement dep adapter t.toBankAccounts command
  let prior ← findStatement adapter t prepared command.ingestionIdempotencyKey
  match prior with
  | some prior =>
    let document ← loadStatementDocument dep t prior true
    pure (document, t)
  | none =>
    let inserted ← insertStatement adapter t prepared command.ingestionIdempotencyKey
    let document ← loadStatementDocument dep inserted.2 inserted.1 false
    pure (document, inserted.2)

/-- Commit or roll back. -/
def ingest (t : StatementTables) (command : StatementCommand) : StatementTables :=
  match acceptBankStatementEvidence dep adapter t command with
  | .ok (_, t') => t'
  | .error _ => t

/-- The tables after a sequence of ingestion calls. -/
def ingestedAfter (accounts : BankAccounts) (commands : List StatementCommand) : StatementTables :=
  run (ingest dep adapter) accounts.noStatements commands

end AccountingPlatform.Bank
