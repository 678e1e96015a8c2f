/-
  Intake of a statement with all columns of its rows, and its entries read back.

  SHA-256 and expat are parameters, the artifact store is the in-process one. Generated keys
  are numbers; those of the detail rows, which nothing reads, are left out.
-/
import AccountingPlatform.Bank.StatementEvidence
import AccountingPlatform.Bank.StatementParsing
import AccountingPlatform.Lib.Pages

namespace AccountingPlatform.Bank.Camt

open AccountingPlatform.Lib AccountingPlatform.Lib.Xml AccountingPlatform.Core
  AccountingPlatform.Postgres

open Json (Tree)

/-! ## Tables -/

structure EntryRow where
  bankStatementEntryId : ℕ
  bankStatementRecordId : ℕ
  sourceEntryIdentity : Option String
  entrySequenceNumber : ℕ
  sourceLocatorPath : String
  bookingOccurredAt : Option Timestamp
  valueOccurredAt : Option Timestamp
  entryAmount : ℕ
  entryCurrencyCode : String
  creditDebitCode : CreditDebitCode
  reversalIndicator : Bool
  bankTransactionDomainCode : Option String
  bankTransactionFamilyCode : Option String
  bankTransactionSubfamilyCode : Option String
  endToEndReference : Option String
  accountServicerReference : Option String
  mandateReference : Option String
  chequeReference : Option String
  remittanceEvidenceText : Option String
  counterpartyEvidenceHash : Option String
  sourceEntryHash : String

structure DetailRow where
  bankStatementEntryId : ℕ
  detailSequenceNumber : ℕ
  sourceLocatorPath : String
  detailAmount : ℕ
  detailCurrencyCode : String
  creditDebitCode : CreditDebitCode
  endToEndReference : Option String
  accountServicerReference : Option String
  remittanceEvidenceText : Option String
  sourceDetailHash : String

structure IntakeTables extends BankAccounts where
  artifacts : List BankStatementArtifact
  statements : List BankStatementRecord
  entries : List EntryRow
  details : List DetailRow
  nextId : ℕ

def noEvidence (accounts : BankAccounts) : IntakeTables where
  toBankAccounts := accounts
  artifacts := []
  statements := []
  entries := []
  details := []
  nextId := 1

/-- The entries of a statement. -/
def IntakeTables.entriesOf (t : IntakeTables) (statementId : ℕ) : List EntryRow :=
  t.entries.filter fun row => row.bankStatementRecordId = statementId

/-- The details of an entry, in their order. -/
def IntakeTables.detailsOf (t : IntakeTables) (entryId : ℕ) : List DetailRow :=
  ordered DetailRow.detailSequenceNumber
    (t.details.filter fun row => row.bankStatementEntryId = entryId)

/-! ## Domains and checks of the columns -/

/-- `~ '^sha256:[0-9a-f]{64}$'` of a column that may be null. -/
def MatchesHashOrNull (hash : Option String) : Prop := ∀ text ∈ hash, matchesHash text = true

instance decMatchesHashOrNull (hash : Option String) : Decidable (MatchesHashOrNull hash) :=
  inferInstanceAs (Decidable (∀ text ∈ hash, matchesHash text = true))

/-- `integer` and `numeric(38, 6)`. -/
def EntryRow.Fits (row : EntryRow) : Prop :=
  fitsInt4 row.entrySequenceNumber ∧ fitsNumeric row.entryAmount

/-- The CHECKs; that of the direction is its type. -/
def EntryRow.Passes (row : EntryRow) : Prop :=
  0 < row.entrySequenceNumber ∧ IsFilled row.sourceLocatorPath ∧ 0 < row.entryAmount ∧
    matchesCurrency row.entryCurrencyCode = true ∧ MatchesHashOrNull row.counterpartyEvidenceHash ∧
    matchesHash row.sourceEntryHash = true

def DetailRow.Fits (row : DetailRow) : Prop :=
  fitsInt4 row.detailSequenceNumber ∧ fitsNumeric row.detailAmount

def DetailRow.Passes (row : DetailRow) : Prop :=
  0 < row.detailSequenceNumber ∧ IsFilled row.sourceLocatorPath ∧ 0 < row.detailAmount ∧
    matchesCurrency row.detailCurrencyCode = true ∧ matchesHash row.sourceDetailHash = true

def passesArtifact (artifact : BankStatementArtifact) : Prop :=
  matchesHash artifact.sourceArtifactHash = true ∧ IsFilled artifact.artifactStoreReference ∧
    0 < artifact.artifactByteLength

def passesRecord (row : BankStatementRecord) : Prop :=
  row.messageDefinitionIdentifier = camt053MessageDefinition ∧
    IsFilled row.statementIdentityReference ∧ MatchesHashOrNull row.openingBalanceHash ∧
    MatchesHashOrNull row.closingBalanceHash ∧ matchesHash row.sourceArtifactHash = true ∧
    matchesHash row.normalizedPayloadHash = true ∧ IsFilled row.ingestionIdempotencyKey

instance decEntryFits (row : EntryRow) : Decidable row.Fits := inferInstanceAs (Decidable (_ ∧ _))

instance decEntryPasses (row : EntryRow) : Decidable row.Passes :=
  inferInstanceAs (Decidable (_ ∧ _))

instance decDetailFits (row : DetailRow) : Decidable row.Fits := inferInstanceAs (Decidable (_ ∧ _))

instance decDetailPasses (row : DetailRow) : Decidable row.Passes :=
  inferInstanceAs (Decidable (_ ∧ _))

instance decPassesArtifact (artifact : BankStatementArtifact) : Decidable (passesArtifact artifact) :=
  inferInstanceAs (Decidable (_ ∧ _))

instance decPassesRecord (row : BankStatementRecord) : Decidable (passesRecord row) :=
  inferInstanceAs (Decidable (_ ∧ _))

/-! ## Commands -/

/-- A text of a command. -/
inductive CommandText
  | unicode (text : String)
  /-- With a lone surrogate, and so without a UTF-8 form. -/
  | surrogate
  deriving DecidableEq

/-- `encode("utf-8")`. -/
def CommandText.encode : CommandText → Result ByteArray
  | .unicode text => .ok text.toUTF8
  | .surrogate => .error .encodeError

/-- What the driver passes on. -/
def CommandText.store : CommandText → Result String
  | .unicode text => do
    requireStorable text
    pure text
  | .surrogate => .error .encodeError

/-- The fields that are only compared with texts or patterns hold no surrogate that matters. -/
structure StatementCommand where
  tenantReference : String
  bankAccountReference : String
  ingestionIdempotencyKey : CommandText
  messageDefinitionIdentifier : String
  /-- `none` where the field is no text. -/
  statementPayload : Option CommandText
  sourceArtifactHash : Option String

variable (dep : Deployment) (sha256 : ByteArray → String) (expat : ByteArray → ExpatStream 0)

/-- The text of the statement, behind the checks of the other fields. -/
def StatementCommand.readText (command : StatementCommand) : Result CommandText := do
  requireCommand dep command.tenantReference
  requireReference command.bankAccountReference "bank account reference"
  require (command.ingestionIdempotencyKey ≠ .unicode "")
    (.validation ("ingestion_idempotency_key is required. " ++
      "Supply the statement ingest key, then retry ingest."))
  fetch (command.statementPayload.filter fun text => text ≠ .unicode "")
    (.validation ("statement_payload must be the original XML text. " ++
      "Supply the camt.053.001.14 document, then retry ingest."))

/-- The bytes of the statement, whose digest is the supplied one if there is one. -/
def StatementCommand.readPayload (command : StatementCommand) : Result ByteArray := do
  let text ← command.readText dep
  let payload ← text.encode
  require (∀ supplied ∈ command.sourceArtifactHash, supplied ≠ "" → matchesHash supplied = true)
    (.validation ("source_artifact_hash must be sha256: plus 64 lowercase hex characters. " ++
      "Supply that digest, then retry ingest."))
  require (∀ supplied ∈ command.sourceArtifactHash, supplied ≠ "" → supplied = sha256 payload)
    (.validation ("source_artifact_hash does not match the supplied statement bytes. " ++
      "Send the original artifact and its SHA-256, then retry ingest."))
  pure payload

/-- The parsed statement of a command. -/
def StatementCommand.parse (command : StatementCommand) (payload : ByteArray) :
    Result NormalizedBankStatement :=
  parseBankStatementPayload sha256 (expat payload) payload command.messageDefinitionIdentifier

/-- `_require_entry_currencies`. -/
def requireEntryCurrencies (statement : NormalizedBankStatement) : Result Unit := do
  let _ ← tryMap (fun entry : NormalizedStatementEntry =>
    require (entry.entryCurrencyCode = statement.accountCurrencyCode)
      (.validation ("statement entry " ++ toString entry.entrySequenceNumber ++ " uses currency " ++
        entry.entryCurrencyCode ++ ", but this registry accepts only " ++
        statement.accountCurrencyCode ++ " evidence. Register a matching-currency " ++
        "account or correct the statement, then retry ingest."))) statement.entries
  pure ()

/-- The registered account that a statement is for. -/
def matchAccount (accounts : BankAccounts) (bankAccountReference : String)
    (statement : NormalizedBankStatement) : Result BankAccountRecord := do
  let account ← accounts.loadBankAccount bankAccountReference
  require (account.accountCurrencyCode = statement.accountCurrencyCode)
    (.validation ("statement account currency does not match the registered bank account. " ++
      "Register the matching currency, then retry ingest."))
  require (account.accountIdentifierHash = statement.accountIdentifierHash)
    (.validation ("statement account identifier does not match the registered bank account. " ++
      "Register the matching account identifier, then retry ingest."))
  requireEntryCurrencies statement
  pure account

/-- The row a command is answered from, if there is one. -/
def findStatement (t : IntakeTables) (statement : NormalizedBankStatement)
    (account : BankAccountRecord) (key : String) : Result (Option BankStatementRecord) :=
  match t.statements.find? fun row => row.ingestionIdempotencyKey = key with
  | some prior => do
    require (prior.sourceArtifactHash = statement.sourceArtifactHash ∧
        prior.normalizedPayloadHash = statement.normalizedPayloadHash)
      (.idempotencyConflict
        "ingestion idempotency key was already used with a different statement artifact")
    pure (some prior)
  | none =>
    match t.statements.find? fun row => row.sourceArtifactHash = statement.sourceArtifactHash with
    | some prior => pure (some prior)
    | none =>
      match t.statements.find? fun row => row.bankAccountRecordId = account.bankAccountRecordId ∧
          row.statementIdentityReference = statement.statementIdentityReference with
      | some prior => do
        require (prior.normalizedPayloadHash = statement.normalizedPayloadHash)
          (.validation ("statement identity already exists with different entry evidence. " ++
            "Use an explicit correction contract, then retry ingest."))
        pure (some prior)
      | none => pure none

/-! ## Rows -/

def detailRow (entryId : ℕ) (detail : NormalizedEntryDetail) : DetailRow where
  bankStatementEntryId := entryId
  detailSequenceNumber := detail.detailSequenceNumber
  sourceLocatorPath := detail.sourceLocatorPath
  detailAmount := detail.detailAmount
  detailCurrencyCode := detail.detailCurrencyCode
  creditDebitCode := detail.creditDebitCode
  endToEndReference := detail.endToEndReference
  accountServicerReference := detail.accountServicerReference
  remittanceEvidenceText := detail.remittanceEvidenceText
  sourceDetailHash := detail.sourceDetailHash

def entryRow (statementId entryId : ℕ) (entry : NormalizedStatementEntry) : EntryRow where
  bankStatementEntryId := entryId
  bankStatementRecordId := statementId
  sourceEntryIdentity := entry.sourceEntryIdentity
  entrySequenceNumber := entry.entrySequenceNumber
  sourceLocatorPath := entry.sourceLocatorPath
  bookingOccurredAt := entry.bookingOccurredAt
  valueOccurredAt := entry.valueOccurredAt
  entryAmount := entry.entryAmount
  entryCurrencyCode := entry.entryCurrencyCode
  creditDebitCode := entry.creditDebitCode
  reversalIndicator := entry.reversalIndicator
  bankTransactionDomainCode := entry.bankTransactionDomainCode
  bankTransactionFamilyCode := entry.bankTransactionFamilyCode
  bankTransactionSubfamilyCode := entry.bankTransactionSubfamilyCode
  endToEndReference := entry.endToEndReference
  accountServicerReference := entry.accountServicerReference
  mandateReference := entry.mandateReference
  chequeReference := entry.chequeReference
  remittanceEvidenceText := entry.remittanceEvidenceText
  counterpartyEvidenceHash := entry.counterpartyEvidenceHash
  sourceEntryHash := entry.sourceEntryHash

def recordRow (statement : NormalizedBankStatement) (account : BankAccountRecord) (key : String)
    (statementId artifactId : ℕ) : BankStatementRecord where
  bankStatementRecordId := statementId
  bankAccountRecordId := account.bankAccountRecordId
  bankStatementArtifactId := artifactId
  messageDefinitionIdentifier := statement.messageDefinitionIdentifier
  statementIdentityReference := statement.statementIdentityReference
  electronicSequenceNumber := statement.electronicSequenceNumber
  legalSequenceNumber := statement.legalSequenceNumber
  periodStartAt := statement.periodStartAt
  periodEndAt := statement.periodEndAt
  openingBalanceHash := statement.openingBalanceHash
  closingBalanceHash := statement.closingBalanceHash
  sourceArtifactHash := statement.sourceArtifactHash
  normalizedPayloadHash := statement.normalizedPayloadHash
  ingestionIdempotencyKey := key

/-- `INSERT INTO bank_statement_entry_detail`. -/
def insertDetail (entryId : ℕ) (detail : NormalizedEntryDetail) : Result DetailRow := do
  let row := detailRow entryId detail
  require row.Fits outOfRange
  require row.Passes checkViolation
  pure row

/-- `INSERT INTO bank_statement_entry` with its details. The key of the entry is new, so that
    the unique index of the details concerns these alone. -/
def insertEntry (statementId : ℕ) (numbered : NormalizedStatementEntry × ℕ) :
    Result (EntryRow × List DetailRow) := do
  let row := entryRow statementId numbered.2 numbered.1
  require row.Fits outOfRange
  require row.Passes checkViolation
  let details ← tryMap (insertDetail numbered.2) numbered.1.entryDetails
  require (details.map DetailRow.detailSequenceNumber).Nodup uniqueViolation
  pure (row, details)

/-- `MemoryArtifactStore.put_artifact` of a new store. -/
def putArtifact (sourceArtifactHash : String) : String := "memory:" ++ sourceArtifactHash

/-- Artifact, statement, entries and details. -/
def insertStatement (t : IntakeTables) (statement : NormalizedBankStatement)
    (account : BankAccountRecord) (payload : ByteArray) (key : String) :
    Result (BankStatementRecord × IntakeTables) := do
  let artifact : BankStatementArtifact := ⟨t.nextId, statement.sourceArtifactHash,
    putArtifact statement.sourceArtifactHash, payload.size⟩
  require (fitsInt4 payload.size) outOfRange
  require (passesArtifact artifact) checkViolation
  require (∀ other ∈ t.artifacts, other.sourceArtifactHash ≠ artifact.sourceArtifactHash) uniqueViolation
  let row := recordRow statement account key (t.nextId + 1) t.nextId
  require (passesRecord row) checkViolation
  require (∀ other ∈ t.statements, other.ingestionIdempotencyKey ≠ key ∧
    other.sourceArtifactHash ≠ row.sourceArtifactHash ∧
    ¬(other.bankAccountRecordId = row.bankAccountRecordId ∧
      other.statementIdentityReference = row.statementIdentityReference)) uniqueViolation
  let inserted ← tryMap (insertEntry (t.nextId + 1)) (statement.entries.zipIdx (t.nextId + 2))
  require ((inserted.map Prod.fst).map EntryRow.entrySequenceNumber).Nodup uniqueViolation
  pure (row, { t with
    artifacts := t.artifacts ++ [artifact]
    statements := t.statements ++ [row]
    entries := t.entries ++ inserted.map Prod.fst
    details := t.details ++ inserted.flatMap Prod.snd
    nextId := t.nextId + 2 + statement.entries.length })

/-! ## Answers -/

structure IntakeDocument where
  tenantReference : String
  bankAccountReference : String
  bankStatementRecordId : ℕ
  statementIdentityReference : String
  messageDefinitionIdentifier : String
  sourceArtifactHash : String
  normalizedPayloadHash : String
  electronicSequenceNumber : Option String
  legalSequenceNumber : Option String
  periodStartAt : Option (List Char)
  periodEndAt : Option (List Char)
  openingBalanceHash : Option String
  closingBalanceHash : Option String
  artifactStoreReference : String
  entryCount : ℕ
  creditTotalAmount : List Char
  debitTotalAmount : List Char
  replayed : Bool

/-- `SUM` of the entries of a direction. -/
def directionTotal (entries : List EntryRow) (code : CreditDebitCode) : ℕ :=
  total EntryRow.entryAmount (entries.filter fun row => row.creditDebitCode = code)

/-- `_load_statement_document`. -/
def loadStatementDocument (t : IntakeTables) (statementId : ℕ) (replayed : Bool) :
    Result IntakeDocument :=
  fetch (do
      let row ← t.statements.find? fun row => row.bankStatementRecordId = statementId
      let artifact ← t.artifacts.find? fun artifact =>
        artifact.bankStatementArtifactId = row.bankStatementArtifactId
      let account ← t.account? row.bankAccountRecordId
      let entries := t.entriesOf statementId
      pure {
        tenantReference := dep.catalog.tenantReference
        bankAccountReference := account.bankAccountReference
        bankStatementRecordId := row.bankStatementRecordId
        statementIdentityReference := row.statementIdentityReference
        messageDefinitionIdentifier := row.messageDefinitionIdentifier
        sourceArtifactHash := row.sourceArtifactHash
        normalizedPayloadHash := row.normalizedPayloadHash
        electronicSequenceNumber := row.electronicSequenceNumber
        legalSequenceNumber := row.legalSequenceNumber
        periodStartAt := row.periodStartAt.map formatTimestamp
        periodEndAt := row.periodEndAt.map formatTimestamp
        openingBalanceHash := row.openingBalanceHash
        closingBalanceHash := row.closingBalanceHash
        artifactStoreReference := artifact.artifactStoreReference
        entryCount := entries.length
        creditTotalAmount := decimalText (directionTotal entries .crdt)
        debitTotalAmount := decimalText (directionTotal entries .dbit)
        replayed := replayed })
    (.validation ("bank statement is not recorded for this tenant. " ++
      "Supply a persisted bank_statement_record_id, then retry the statement read."))

/-- `accept_bank_statement_evidence`. -/
def acceptBankStatementEvidence (t : IntakeTables) (command : StatementCommand) :
    Result (IntakeDocument × IntakeTables) := do
  let payload ← command.readPayload dep sha256
  let statement ← command.parse sha256 expat payload
  -- the key is first sent with the advisory lock
  let key ← command.ingestionIdempotencyKey.store
  let account ← matchAccount t.toBankAccounts command.bankAccountReference statement
  let prior ← findStatement t statement account key
  match prior with
  | some prior =>
    let document ← loadStatementDocument dep t prior.bankStatementRecordId true
    pure (document, t)
  | none =>
    let inserted ← insertStatement t statement account payload key
    let document ← loadStatementDocument dep inserted.2 inserted.1.bankStatementRecordId false
    pure (document, inserted.2)

/-- Commit or roll back. -/
def intake (t : IntakeTables) (command : StatementCommand) : IntakeTables :=
  match acceptBankStatementEvidence dep sha256 expat t command with
  | .ok (_, t') => t'
  | .error _ => t

/-- The tables after a sequence of commands. -/
def intakeAfter (accounts : BankAccounts) (commands : List StatementCommand) : IntakeTables :=
  run (intake dep sha256 expat) (noEvidence accounts) commands

/-! ## Entries read back -/

structure DetailDocument where
  detailSequenceNumber : ℕ
  sourceLocatorPath : String
  detailAmount : List Char
  detailCurrencyCode : String
  creditDebitCode : String
  endToEndReference : Option String
  remittanceEvidenceText : Option String
  sourceDetailHash : String

structure EntryDocument where
  bankStatementEntryId : ℕ
  sourceEntryIdentity : Option String
  entrySequenceNumber : ℕ
  sourceLocatorPath : String
  bookingOccurredAt : Option (List Char)
  valueOccurredAt : Option (List Char)
  entryAmount : List Char
  entryCurrencyCode : String
  creditDebitCode : String
  reversalIndicator : Bool
  bankTransactionDomainCode : Option String
  bankTransactionFamilyCode : Option String
  bankTransactionSubfamilyCode : Option String
  endToEndReference : Option String
  accountServicerReference : Option String
  mandateReference : Option String
  chequeReference : Option String
  remittanceEvidenceText : Option String
  counterpartyEvidenceHash : Option String
  sourceEntryHash : String
  entryDetails : List DetailDocument

def detailDocument (row : DetailRow) : DetailDocument where
  detailSequenceNumber := row.detailSequenceNumber
  sourceLocatorPath := row.sourceLocatorPath
  detailAmount := decimalText row.detailAmount
  detailCurrencyCode := row.detailCurrencyCode
  creditDebitCode := creditDebitText row.creditDebitCode
  endToEndReference := row.endToEndReference
  remittanceEvidenceText := row.remittanceEvidenceText
  sourceDetailHash := row.sourceDetailHash

/-- `_entry_document`. -/
def entryDocument (t : IntakeTables) (row : EntryRow) : EntryDocument where
  bankStatementEntryId := row.bankStatementEntryId
  sourceEntryIdentity := row.sourceEntryIdentity
  entrySequenceNumber := row.entrySequenceNumber
  sourceLocatorPath := row.sourceLocatorPath
  bookingOccurredAt := row.bookingOccurredAt.map formatTimestamp
  valueOccurredAt := row.valueOccurredAt.map formatTimestamp
  entryAmount := decimalText row.entryAmount
  entryCurrencyCode := row.entryCurrencyCode
  creditDebitCode := creditDebitText row.creditDebitCode
  reversalIndicator := row.reversalIndicator
  bankTransactionDomainCode := row.bankTransactionDomainCode
  bankTransactionFamilyCode := row.bankTransactionFamilyCode
  bankTransactionSubfamilyCode := row.bankTransactionSubfamilyCode
  endToEndReference := row.endToEndReference
  accountServicerReference := row.accountServicerReference
  mandateReference := row.mandateReference
  chequeReference := row.chequeReference
  remittanceEvidenceText := row.remittanceEvidenceText
  counterpartyEvidenceHash := row.counterpartyEvidenceHash
  sourceEntryHash := row.sourceEntryHash
  entryDetails := (t.detailsOf row.bankStatementEntryId).map detailDocument

/-- Rows beyond a sequence number, `LIMIT limit + 1`. -/
def entryRowsAfter (t : IntakeTables) (statementId limit afterSequence : ℕ) : List EntryRow :=
  (ordered EntryRow.entrySequenceNumber
    ((t.entriesOf statementId).filter fun row => afterSequence < row.entrySequenceNumber)).take (limit + 1)

/-- `lookup_bank_statement_entries`: a page and the cursor of the next one. No cursor is the
    sequence number zero. -/
def lookupBankStatementEntries (t : IntakeTables) (statementId limit afterSequence : ℕ) :
    Result (List EntryDocument × Option ℕ) := do
  require (1 ≤ limit ∧ limit ≤ 100)
    (.validation ("page_limit must be an integer from 1 to 100. " ++
      "Supply a valid page_limit, then retry the list."))
  let _ ← fetch (t.statements.find? fun row => row.bankStatementRecordId = statementId)
    (.validation ("bank statement is not recorded for this tenant. " ++
      "Supply a persisted bank_statement_record_id, then retry the entry list."))
  let rows := entryRowsAfter t statementId limit afterSequence
  let page := rows.take limit
  pure (page.map (entryDocument t),
    if rows.length ≤ limit then none else page.getLast?.map EntryRow.entrySequenceNumber)

/-- What the pages return that are reached from a cursor. -/
inductive EntryPages (t : IntakeTables) (statementId limit : ℕ) : ℕ → List EntryDocument → Prop
  | last {afterSequence : ℕ} {documents : List EntryDocument}
      (hpage : lookupBankStatementEntries t statementId limit afterSequence = .ok (documents, none)) :
      EntryPages t statementId limit afterSequence documents
  | more {afterSequence next : ℕ} {documents rest : List EntryDocument}
      (hpage : lookupBankStatementEntries t statementId limit afterSequence =
        .ok (documents, some next))
      (hrest : EntryPages t statementId limit next rest) :
      EntryPages t statementId limit afterSequence (documents ++ rest)

end AccountingPlatform.Bank.Camt
