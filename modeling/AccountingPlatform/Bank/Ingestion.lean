/-
  What an ingestion key names.

  A key that is answered from the row of its artifact or of its statement identity is not
  recorded, so a later call can reuse it for another artifact; and an artifact is looked up
  without its bank account. Everything else is kept by the row of the key and by the unique
  indexes of the statement table.
-/
import AccountingPlatform.Bank.StatementEvidence
import AccountingPlatform.Bank.Bindings

namespace AccountingPlatform.Bank

open AccountingPlatform.Lib AccountingPlatform.Core AccountingPlatform.Postgres

variable {dep : Deployment} {adapter : StatementAdapter}

/-! ## Outcomes of a call -/

/-- The lookups miss a key, an artifact and an identity. -/
structure Unknown (adapter : StatementAdapter) (t : StatementTables)
    (prepared : PreparedStatement) (key : String) : Prop where
  byKey : t.statementByKey key = none
  byArtifact : t.statementByArtifact (adapter.sha256 prepared.payload) = none
  byIdentity : t.statementByIdentity prepared.account.bankAccountRecordId
    prepared.statement.statementIdentityReference = none

/-- How a prepared call finds the row it is answered from. -/
inductive Found (adapter : StatementAdapter) (t : StatementTables)
    (prepared : PreparedStatement) (key : String) (row : BankStatementRecord) : Prop
  | byKey (hkey : t.statementByKey key = some row)
      (hhash : row.sourceArtifactHash = adapter.sha256 prepared.payload)
      (hnormalized : row.normalizedPayloadHash = prepared.statement.normalizedPayloadHash)
  | byArtifact (hkey : t.statementByKey key = none)
      (hartifact : t.statementByArtifact (adapter.sha256 prepared.payload) = some row)
  | byIdentity (hkey : t.statementByKey key = none)
      (hartifact : t.statementByArtifact (adapter.sha256 prepared.payload) = none)
      (hidentity : t.statementByIdentity prepared.account.bankAccountRecordId
        prepared.statement.statementIdentityReference = some row)
      (hnormalized : row.normalizedPayloadHash = prepared.statement.normalizedPayloadHash)

theorem findStatement_some_iff {t : StatementTables} {prepared : PreparedStatement} {key : String}
    {row : BankStatementRecord} :
    findStatement adapter t prepared key = .ok (some row) ↔ Found adapter t prepared key row := by
  unfold findStatement
  dsimp only
  constructor
  · intro h
    split at h
    · next prior hprior =>
      simp only [bind_eq_ok, require_eq_ok, pure_eq_ok, Option.some.injEq] at h
      obtain ⟨_, ⟨hhash, hnormalized⟩, rfl⟩ := h
      exact .byKey hprior hhash hnormalized
    · next hkey =>
      split at h
      · next prior hprior =>
        simp only [pure_eq_ok, Option.some.injEq] at h
        exact .byArtifact hkey (h ▸ hprior)
      · next hartifact =>
        split at h
        · next prior hprior =>
          simp only [bind_eq_ok, require_eq_ok, pure_eq_ok, Option.some.injEq] at h
          obtain ⟨_, hnormalized, rfl⟩ := h
          exact .byIdentity hkey hartifact hprior hnormalized
        · cases h
  · intro h
    cases h with
    | byKey hkey hhash hnormalized =>
      rw [hkey]
      dsimp only
      rw [require_of ⟨hhash, hnormalized⟩]
      rfl
    | byArtifact hkey hartifact =>
      rw [hkey, hartifact]
      rfl
    | byIdentity hkey hartifact hidentity hnormalized =>
      rw [hkey, hartifact, hidentity]
      dsimp only
      rw [require_of hnormalized]
      rfl

theorem findStatement_none_iff {t : StatementTables} {prepared : PreparedStatement} {key : String} :
    findStatement adapter t prepared key = .ok none ↔ Unknown adapter t prepared key := by
  unfold findStatement
  dsimp only
  constructor
  · intro h
    split at h
    · simp only [bind_eq_ok, pure_eq_ok, reduceCtorEq, and_false, exists_const] at h
    · next hkey =>
      split at h
      · cases h
      · next hartifact =>
        split at h
        · simp only [bind_eq_ok, pure_eq_ok, reduceCtorEq, and_false, exists_const] at h
        · next hidentity => exact ⟨hkey, hartifact, hidentity⟩
  · rintro ⟨hkey, hartifact, hidentity⟩
    rw [hkey, hartifact, hidentity]
    rfl

/-- The row of a statement that was inserted. -/
structure InsertedStatement (adapter : StatementAdapter) (t : StatementTables)
    (prepared : PreparedStatement) (key : String) (row : BankStatementRecord)
    (t' : StatementTables) : Prop where
  row_eq : row = prepared.row (adapter.sha256 prepared.payload) key (t.nextId + 1) t.nextId
  filled : IsFilled key
  fresh : ∀ r ∈ t.statements, r.ingestionIdempotencyKey ≠ key ∧
    r.sourceArtifactHash ≠ adapter.sha256 prepared.payload ∧
    ¬(r.bankAccountRecordId = prepared.account.bankAccountRecordId ∧
      r.statementIdentityReference = prepared.statement.statementIdentityReference)
  accounts : t'.toBankAccounts = t.toBankAccounts
  statements : t'.statements = t.statements ++ [row]
  artifacts : ∃ artifact : BankStatementArtifact, artifact.bankStatementArtifactId = t.nextId ∧
    artifact.sourceArtifactHash = adapter.sha256 prepared.payload ∧
    t'.artifacts = t.artifacts ++ [artifact]
  nextId : t'.nextId = t.nextId + 2

theorem insertStatement_ok {t t' : StatementTables} {prepared : PreparedStatement} {key : String}
    {row : BankStatementRecord} (h : insertStatement adapter t prepared key = .ok (row, t')) :
    InsertedStatement adapter t prepared key row t' := by
  simp only [insertStatement, bind_eq_ok, require_eq_ok, pure_eq_ok, Prod.mk.injEq] at h
  obtain ⟨locator, -, _, -, _, -, _, hfilled, _, hfresh, _, -, rfl, rfl⟩ := h
  exact ⟨rfl, hfilled, hfresh, rfl, rfl, ⟨_, rfl, rfl, rfl⟩, rfl⟩

/-- A call that is answered: from a row it found, or from the row it inserted. -/
theorem acceptStatement_cases {t t' : StatementTables} {command : StatementCommand}
    {document : StatementDocument}
    (h : acceptBankStatementEvidence dep adapter t command = .ok (document, t')) :
    ∃ prepared row, prepareStatement dep adapter t.toBankAccounts command = .ok prepared ∧
      ((Found adapter t prepared command.ingestionIdempotencyKey row ∧ t' = t ∧
          loadStatementDocument dep t row true = .ok document) ∨
        (Unknown adapter t prepared command.ingestionIdempotencyKey ∧
          InsertedStatement adapter t prepared command.ingestionIdempotencyKey row t' ∧
          loadStatementDocument dep t' row false = .ok document)) := by
  simp only [acceptBankStatementEvidence, bind_eq_ok] at h
  obtain ⟨prepared, hprepared, prior, hprior, h⟩ := h
  cases prior with
  | some row =>
    simp only [bind_eq_ok, pure_eq_ok, Prod.mk.injEq] at h
    obtain ⟨document', hload, rfl, rfl⟩ := h
    exact ⟨prepared, row, hprepared, Or.inl ⟨findStatement_some_iff.mp hprior, rfl, hload⟩⟩
  | none =>
    simp only [bind_eq_ok, pure_eq_ok, Prod.mk.injEq] at h
    obtain ⟨⟨row, t''⟩, hinsert, document', hload, rfl, rfl⟩ := h
    exact ⟨prepared, row, hprepared, Or.inr ⟨findStatement_none_iff.mp hprior,
      insertStatement_ok hinsert, hload⟩⟩

theorem ingest_of_ok {t t' : StatementTables} {command : StatementCommand}
    {document : StatementDocument}
    (h : acceptBankStatementEvidence dep adapter t command = .ok (document, t')) :
    ingest dep adapter t command = t' := by
  simp only [ingest, h]

theorem ingest_of_error {t : StatementTables} {command : StatementCommand} {e : LedgerError}
    (h : acceptBankStatementEvidence dep adapter t command = .error e) :
    ingest dep adapter t command = t := by
  simp only [ingest, h]

/-- A call leaves the tables alone or inserts one statement. -/
theorem ingest_cases (t : StatementTables) (command : StatementCommand) :
    ingest dep adapter t command = t ∨ ∃ prepared row document,
      prepareStatement dep adapter t.toBankAccounts command = .ok prepared ∧
      Unknown adapter t prepared command.ingestionIdempotencyKey ∧
      InsertedStatement adapter t prepared command.ingestionIdempotencyKey row
        (ingest dep adapter t command) ∧
      acceptBankStatementEvidence dep adapter t command =
        .ok (document, ingest dep adapter t command) ∧ document.record = row := by
  cases h : acceptBankStatementEvidence dep adapter t command with
  | error e => exact Or.inl (ingest_of_error h)
  | ok answer =>
    obtain ⟨document, t'⟩ := answer
    rw [ingest_of_ok h]
    obtain ⟨prepared, row, hprepared, ⟨-, rfl, -⟩ | ⟨hunknown, hinserted, hload⟩⟩ :=
      acceptStatement_cases h
    · exact Or.inl rfl
    · refine Or.inr ⟨prepared, row, document, hprepared, hunknown, hinserted, rfl, ?_⟩
      simp only [loadStatementDocument, fetch_eq_ok, Option.bind_eq_bind, Option.bind_eq_some_iff,
        Option.pure_def, Option.some.injEq] at hload
      obtain ⟨_, -, _, -, rfl⟩ := hload
      rfl

/-! ## Invariant -/

/-- Account and identity of a statement. -/
def BankStatementRecord.identity (row : BankStatementRecord) : ℕ × String :=
  (row.bankAccountRecordId, row.statementIdentityReference)

/-- Keys of the statements, and the rows each of them refers to. -/
structure StatementsKept (accounts : BankAccounts) (t : StatementTables) : Prop where
  accounts_eq : t.toBankAccounts = accounts
  ids : ∀ row ∈ t.statements, row.bankStatementRecordId < t.nextId
  id_keys : (t.statements.map BankStatementRecord.bankStatementRecordId).Nodup
  keys : (t.statements.map BankStatementRecord.ingestionIdempotencyKey).Nodup
  hashes : (t.statements.map BankStatementRecord.sourceArtifactHash).Nodup
  identities : (t.statements.map BankStatementRecord.identity).Nodup
  account : ∀ row ∈ t.statements, ∃ account ∈ accounts.accounts,
    account.bankAccountRecordId = row.bankAccountRecordId
  artifact : ∀ row ∈ t.statements, (t.artifact? row.bankStatementArtifactId).isSome = true
  artifacts : ∀ artifact ∈ t.artifacts, ∃ row ∈ t.statements,
    row.sourceArtifactHash = artifact.sourceArtifactHash

theorem statementsKept_none (accounts : BankAccounts) :
    StatementsKept accounts accounts.noStatements where
  accounts_eq := rfl
  ids := nofun
  id_keys := List.nodup_nil
  keys := List.nodup_nil
  hashes := List.nodup_nil
  identities := List.nodup_nil
  account := nofun
  artifact := nofun
  artifacts := nofun

theorem prepareStatement_account {accounts : BankAccounts} {command : StatementCommand}
    {prepared : PreparedStatement}
    (h : prepareStatement dep adapter accounts command = .ok prepared) :
    prepared.account ∈ accounts.accounts ∧
      prepared.account.bankAccountReference = command.bankAccountReference := by
  simp only [prepareStatement, BankAccounts.loadBankAccount, bind_eq_ok, fetch_eq_ok,
    pure_eq_ok] at h
  obtain ⟨_, -, _, -, _, -, account, haccount, _, -, _, -, _, -, rfl⟩ := h
  exact ⟨List.mem_of_find?_eq_some haccount, by simpa using List.find?_some haccount⟩

theorem StatementsKept.inserted {accounts : BankAccounts} {t t' : StatementTables}
    (h : StatementsKept accounts t) {command : StatementCommand} {prepared : PreparedStatement}
    (hprepared : prepareStatement dep adapter t.toBankAccounts command = .ok prepared)
    {row : BankStatementRecord}
    (hinserted : InsertedStatement adapter t prepared command.ingestionIdempotencyKey row t') :
    StatementsKept accounts t' := by
  obtain ⟨artifact, hid, hhash, hartifacts⟩ := hinserted.artifacts
  have hmem : ∀ {r}, r ∈ t'.statements → r ∈ t.statements ∨ r = row := by
    intro r hr
    rw [hinserted.statements] at hr
    exact (List.mem_append.mp hr).imp id List.mem_singleton.mp
  have hrow := hinserted.row_eq
  constructor
  · exact hinserted.accounts.trans h.accounts_eq
  · intro r hr
    rw [hinserted.nextId]
    rcases hmem hr with hr | rfl
    · exact (h.ids r hr).trans (by omega)
    · rw [hrow]
      show t.nextId + 1 < t.nextId + 2
      omega
  · rw [hinserted.statements]
    apply nodup_map_concat h.id_keys
    intro r hr
    rw [hrow]
    exact ((h.ids r hr).trans (Nat.lt_succ_self _)).ne
  · rw [hinserted.statements]
    apply nodup_map_concat h.keys
    intro r hr
    rw [hrow]
    exact (hinserted.fresh r hr).1
  · rw [hinserted.statements]
    apply nodup_map_concat h.hashes
    intro r hr
    rw [hrow]
    exact (hinserted.fresh r hr).2.1
  · rw [hinserted.statements]
    apply nodup_map_concat h.identities
    intro r hr heq
    rw [hrow] at heq
    obtain ⟨haccount, hidentity⟩ := Prod.mk.inj heq
    exact (hinserted.fresh r hr).2.2 ⟨haccount, hidentity⟩
  · intro r hr
    rcases hmem hr with hr | rfl
    · exact h.account r hr
    · rw [hrow]
      exact ⟨prepared.account, h.accounts_eq ▸ (prepareStatement_account hprepared).1, rfl⟩
  · intro r hr
    unfold StatementTables.artifact?
    rw [hartifacts, List.find?_append, Option.isSome_or]
    rcases hmem hr with hr | rfl
    · rw [show (t.artifacts.find? _).isSome = true from h.artifact r hr]
      rfl
    · have hown : artifact.bankStatementArtifactId = r.bankStatementArtifactId := by
        rw [hrow]
        exact hid
      rw [List.find?_singleton, if_pos (decide_eq_true hown)]
      exact Bool.or_true _
  · intro a ha
    rw [hartifacts] at ha
    rw [hinserted.statements]
    rcases List.mem_append.mp ha with ha | ha
    · obtain ⟨r, hr, heq⟩ := h.artifacts a ha
      exact ⟨r, List.mem_append_left _ hr, heq⟩
    · refine ⟨row, List.mem_append_right _ (List.mem_singleton.mpr rfl), ?_⟩
      rw [List.mem_singleton.mp ha, hhash, hrow]
      rfl

theorem statementsKept_ingest {accounts : BankAccounts} {t : StatementTables}
    (h : StatementsKept accounts t) (command : StatementCommand) :
    StatementsKept accounts (ingest dep adapter t command) := by
  rcases @ingest_cases dep adapter t command with hsame | ⟨_, _, _, hprepared, -, hinserted, -, -⟩
  · rw [hsame]
    exact h
  · exact h.inserted hprepared hinserted

theorem statementsKept_after (accounts : BankAccounts) (commands : List StatementCommand) :
    StatementsKept accounts (ingestedAfter dep adapter accounts commands) :=
  run_monotone (P := StatementsKept accounts) (fun _ c h => statementsKept_ingest h c)
    (statementsKept_none accounts)

theorem ingestedAfter_concat (accounts : BankAccounts) (commands : List StatementCommand)
    (command : StatementCommand) :
    ingestedAfter dep adapter accounts (commands ++ [command]) =
      ingest dep adapter (ingestedAfter dep adapter accounts commands) command :=
  run_concat _ _ _ _

theorem statements_prefix_ingest (t : StatementTables) (command : StatementCommand) :
    t.statements <+: (ingest dep adapter t command).statements := by
  rcases @ingest_cases dep adapter t command with hsame | ⟨_, _, _, -, -, hinserted, -, -⟩
  · exact ⟨[], (List.append_nil _).trans (congrArg StatementTables.statements hsame).symm⟩
  · rw [hinserted.statements]
    exact List.prefix_append _ _

/-! ## Rows and documents -/

theorem loadStatementDocument_ok {t : StatementTables} {row : BankStatementRecord} {replayed : Bool}
    {document : StatementDocument}
    (h : loadStatementDocument dep t row replayed = .ok document) :
    document.record = row ∧ ∃ account, t.account? row.bankAccountRecordId = some account ∧
      document.bankAccountReference = account.bankAccountReference := by
  simp only [loadStatementDocument, fetch_eq_ok, Option.bind_eq_bind, Option.bind_eq_some_iff,
    Option.pure_def, Option.some.injEq] at h
  obtain ⟨_, -, account, haccount, rfl⟩ := h
  exact ⟨rfl, account, haccount, rfl⟩

/-- A stored statement can be loaded. -/
theorem StatementsKept.load {accounts : BankAccounts} {t : StatementTables}
    (h : StatementsKept accounts t) {row : BankStatementRecord} (hrow : row ∈ t.statements)
    (replayed : Bool) : ∃ document, loadStatementDocument dep t row replayed = .ok document := by
  obtain ⟨artifact, hartifact⟩ := Option.isSome_iff_exists.mp (h.artifact row hrow)
  obtain ⟨account, hmem, hid⟩ := h.account row hrow
  have haccount : t.account? row.bankAccountRecordId = some account := by
    rw [← hid, h.accounts_eq]
    exact find?_of_nodup_map accounts.account_key hmem
  simp only [loadStatementDocument, hartifact, haccount, Option.bind_eq_bind, Option.bind_some,
    Option.pure_def]
  exact ⟨_, rfl⟩

/-- Accounts with one reference are one account. -/
theorem account_of_reference {accounts : BankAccounts} {a b : BankAccountRecord}
    (ha : a ∈ accounts.accounts) (hb : b ∈ accounts.accounts)
    (h : a.bankAccountReference = b.bankAccountReference) : a = b :=
  List.inj_on_of_nodup_map accounts.account_reference ha hb h

/-- A document names the account of its row. -/
theorem StatementsKept.document_names {accounts : BankAccounts} {t : StatementTables}
    (h : StatementsKept accounts t) {row : BankStatementRecord} {replayed : Bool}
    {document : StatementDocument} (hload : loadStatementDocument dep t row replayed = .ok document)
    {account : BankAccountRecord} (haccount : account ∈ accounts.accounts) :
    document.bankAccountReference = account.bankAccountReference ↔
      row.bankAccountRecordId = account.bankAccountRecordId := by
  obtain ⟨-, named, hnamed, hreference⟩ := loadStatementDocument_ok hload
  have hmem : named ∈ accounts.accounts := by
    rw [← h.accounts_eq]
    exact List.mem_of_find?_eq_some hnamed
  have hid : named.bankAccountRecordId = row.bankAccountRecordId := by
    simpa [BankAccounts.account?] using List.find?_some hnamed
  rw [hreference, ← hid]
  constructor
  · intro heq
    rw [account_of_reference hmem haccount heq]
  · intro heq
    rw [List.inj_on_of_nodup_map accounts.account_key hmem haccount heq]

/-! ## The contract -/

/-- The XML text of a call. -/
def StatementCommand.artifact (command : StatementCommand) : Option String :=
  command.statementPayload.filter (· ≠ "")

variable (dep adapter) in
/-- An earlier call of the run and its answer. -/
def Ingested (accounts : BankAccounts) (before : List StatementCommand) (first : StatementCommand)
    (document : StatementDocument) : Prop :=
  ∃ earlier later t', before = earlier ++ first :: later ∧
    acceptBankStatementEvidence dep adapter (ingestedAfter dep adapter accounts earlier) first =
      .ok (document, t')

variable (dep adapter) in
/-- What the contract promises of one call. -/
structure IngestionKept (accounts : BankAccounts) (before : List StatementCommand)
    (command : StatementCommand) : Prop where
  same : ∀ first document document' t', Ingested dep adapter accounts before first document →
    command.ingestionIdempotencyKey = first.ingestionIdempotencyKey →
    acceptBankStatementEvidence dep adapter (ingestedAfter dep adapter accounts before) command =
      .ok (document', t') →
    command.artifact = first.artifact ∧
      document'.record.bankStatementRecordId = document.record.bankStatementRecordId
  conflict : ∀ first document payload, Ingested dep adapter accounts before first document →
    command.ingestionIdempotencyKey = first.ingestionIdempotencyKey →
    command.artifact = some payload → first.artifact ≠ some payload → ∃ message,
    acceptBankStatementEvidence dep adapter (ingestedAfter dep adapter accounts before) command =
      .error (.idempotencyConflict message)
  account : ∀ document t',
    acceptBankStatementEvidence dep adapter (ingestedAfter dep adapter accounts before) command =
      .ok (document, t') → document.bankAccountReference = command.bankAccountReference
  unique : ((ingestedAfter dep adapter accounts (before ++ [command])).statements.map
      BankStatementRecord.sourceArtifactHash).Nodup ∧
    ((ingestedAfter dep adapter accounts (before ++ [command])).statements.map
      BankStatementRecord.identity).Nodup
  refused : ∀ e,
    acceptBankStatementEvidence dep adapter (ingestedAfter dep adapter accounts before) command =
      .error e →
    ingestedAfter dep adapter accounts (before ++ [command]) =
      ingestedAfter dep adapter accounts before

variable (adapter) in
/-- A new row of the statement can be stored. -/
def Storable (prepared : PreparedStatement) (key : String) : Prop :=
  (∃ locator, adapter.putArtifact (adapter.sha256 prepared.payload) prepared.payload = .ok locator ∧
    IsFilled locator) ∧ IsFilled key ∧ ∀ entry ∈ prepared.statement.entries, entry.Fits

variable (dep adapter) in
/-- A call with an unrecorded key and artifact that raises: its identity is recorded with other
    entries, or its row cannot be stored. -/
def RefusedAnyway (t : StatementTables) (command : StatementCommand) : Prop :=
  ∀ prepared, prepareStatement dep adapter t.toBankAccounts command = .ok prepared →
    t.statementByArtifact (adapter.sha256 prepared.payload) = none ∧
    ((∃ row, t.statementByIdentity prepared.account.bankAccountRecordId
        prepared.statement.statementIdentityReference = some row ∧
        row.normalizedPayloadHash ≠ prepared.statement.normalizedPayloadHash) ∨
      (t.statementByIdentity prepared.account.bankAccountRecordId
        prepared.statement.statementIdentityReference = none ∧
        ¬Storable adapter prepared command.ingestionIdempotencyKey))

variable (dep adapter) in
/-- What the contract asks of one call: a key that was answered before is recorded, and another
    artifact under it passes the checks before the lookups; or the call repeats the artifact for
    the same account. And a recorded artifact is sent for the account it is recorded for. -/
structure IngestionAdmitted (accounts : BankAccounts) (before : List StatementCommand)
    (command : StatementCommand) : Prop where
  recorded : ∀ first document payload, Ingested dep adapter accounts before first document →
    command.ingestionIdempotencyKey = first.ingestionIdempotencyKey →
    command.artifact = some payload → first.artifact ≠ some payload →
    ((ingestedAfter dep adapter accounts before).statementByKey
      command.ingestionIdempotencyKey).isSome = true ∧
    Succeeds (prepareStatement dep adapter accounts command)
  repeated : ∀ first document, Ingested dep adapter accounts before first document →
    command.ingestionIdempotencyKey = first.ingestionIdempotencyKey →
    command.artifact = first.artifact →
    (ingestedAfter dep adapter accounts before).statementByKey command.ingestionIdempotencyKey =
      none →
    command.bankAccountReference = first.bankAccountReference ∨
      RefusedAnyway dep adapter (ingestedAfter dep adapter accounts before) command
  account : ∀ prepared row, prepareStatement dep adapter accounts command = .ok prepared →
    (∀ r, (ingestedAfter dep adapter accounts before).statementByKey
      command.ingestionIdempotencyKey = some r → r.sourceArtifactHash =
        adapter.sha256 prepared.payload) →
    (ingestedAfter dep adapter accounts before).statementByArtifact
      (adapter.sha256 prepared.payload) = some row →
    row.bankAccountRecordId = prepared.account.bankAccountRecordId

variable (adapter) in
/-- No two artifacts of the run have one hash. -/
def ArtifactsDistinct (commands : List StatementCommand) : Prop :=
  ∀ c ∈ commands, ∀ d ∈ commands, ∀ payload payload', c.artifact = some payload →
    d.artifact = some payload' → adapter.sha256 payload = adapter.sha256 payload' →
    payload = payload'

/-! ## Prepared calls -/

/-- What a prepared call was read from. -/
theorem prepareStatement_ok {accounts : BankAccounts} {command : StatementCommand}
    {prepared : PreparedStatement}
    (h : prepareStatement dep adapter accounts command = .ok prepared) :
    command.artifact = some prepared.payload ∧
      adapter.parse prepared.payload = .ok prepared.statement := by
  simp only [prepareStatement, StatementCommand.readPayload, parseStatement, bind_eq_ok,
    fetch_eq_ok, pure_eq_ok] at h
  obtain ⟨payload, ⟨-, -, -, -, -, -, payload', hpayload, -, -, -, -, rfl⟩, statement,
    ⟨-, -, hparse⟩, -, -, -, -, -, -, -, -, -, -, rfl⟩ := h
  exact ⟨hpayload, hparse⟩

/-- One artifact, one statement. -/
theorem prepared_statement_eq {accounts : BankAccounts} {command command' : StatementCommand}
    {prepared prepared' : PreparedStatement}
    (h : prepareStatement dep adapter accounts command = .ok prepared)
    (h' : prepareStatement dep adapter accounts command' = .ok prepared')
    (hpayload : prepared.payload = prepared'.payload) : prepared.statement = prepared'.statement := by
  have hparse := (prepareStatement_ok h).2
  rw [hpayload, (prepareStatement_ok h').2] at hparse
  exact (Except.ok.inj hparse).symm

theorem prepareStatement_noConflict (accounts : BankAccounts) (command : StatementCommand) :
    Raises (fun e => ¬e.isConflict) (prepareStatement dep adapter accounts command) := by
  unfold prepareStatement StatementCommand.readPayload requireCommand requireReference parseStatement
    requireStorable BankAccounts.loadBankAccount requireEntryCurrencies
  refine raises_bind ?_ fun payload _ => raises_bind ?_ fun statement _ =>
    raises_bind (raises_require id) fun _ _ => raises_bind (raises_fetch id) fun account _ =>
    raises_bind (raises_require id) fun _ _ => raises_bind (raises_require id) fun _ _ =>
    raises_bind ?_ fun _ _ => raises_pure _
  · exact raises_bind (raises_require id) fun _ _ => raises_bind (raises_require id) fun _ _ =>
      raises_bind (raises_require id) fun _ _ => raises_bind (raises_fetch id) fun _ _ =>
      raises_bind (raises_require id) fun _ _ => raises_bind (raises_require id) fun _ _ =>
      raises_pure _
  · exact raises_bind (raises_require id) fun _ _ => adapter.parse_noConflict payload
  · exact raises_bind (raises_tryMap (fun _ => raises_require id) _) fun _ _ => raises_pure _

/-- Only the row of a key makes a conflict. -/
theorem conflict_recorded {t : StatementTables} {command : StatementCommand} {message : String}
    (h : acceptBankStatementEvidence dep adapter t command = .error (.idempotencyConflict message)) :
    Succeeds (prepareStatement dep adapter t.toBankAccounts command) ∧
      (t.statementByKey command.ingestionIdempotencyKey).isSome = true := by
  have hconflict : ¬¬(LedgerError.idempotencyConflict message).isConflict := not_not_intro trivial
  unfold acceptBankStatementEvidence at h
  obtain ⟨prepared, hprepared, h⟩ :=
    (prepareStatement_noConflict t.toBankAccounts command).bind_error hconflict h
  refine ⟨⟨prepared, hprepared⟩, ?_⟩
  cases hkey : t.statementByKey command.ingestionIdempotencyKey with
  | some row => rfl
  | none =>
    exfalso
    have hfind : Raises (fun e => ¬e.isConflict)
        (findStatement adapter t prepared command.ingestionIdempotencyKey) := by
      unfold findStatement
      rw [hkey]
      dsimp only
      split
      · exact raises_pure _
      · split
        · exact raises_bind (raises_require id) fun _ _ => raises_pure _
        · exact raises_pure _
    obtain ⟨prior, -, h⟩ := hfind.bind_error hconflict h
    have hload : ∀ t row replayed, Raises (fun e => ¬e.isConflict)
        (loadStatementDocument dep t row replayed) := fun _ _ _ => raises_fetch id
    cases prior with
    | some row => exact (raises_bind (hload _ _ _) fun _ _ => raises_pure _) _ h trivial
    | none =>
      have hinsert : Raises (fun e => ¬e.isConflict)
          (insertStatement adapter t prepared command.ingestionIdempotencyKey) := by
        unfold insertStatement
        exact raises_bind (adapter.putArtifact_noConflict _ _) fun _ _ =>
          raises_bind (raises_require id) fun _ _ => raises_bind (raises_require id) fun _ _ =>
          raises_bind (raises_require id) fun _ _ => raises_bind (raises_require id) fun _ _ =>
          raises_bind (raises_require id) fun _ _ => raises_pure _
      exact (raises_bind hinsert fun _ _ => raises_bind (hload _ _ _) fun _ _ => raises_pure _) _ h
        trivial

/-- A call that finds a stored row is answered from it. -/
theorem StatementsKept.answer_found {accounts : BankAccounts} {t : StatementTables}
    (h : StatementsKept accounts t) {command : StatementCommand} {prepared : PreparedStatement}
    (hprepared : prepareStatement dep adapter accounts command = .ok prepared)
    {row : BankStatementRecord} (hrow : row ∈ t.statements)
    (hfound : Found adapter t prepared command.ingestionIdempotencyKey row) :
    ∃ document, acceptBankStatementEvidence dep adapter t command = .ok (document, t) ∧
      loadStatementDocument dep t row true = .ok document := by
  obtain ⟨document, hload⟩ := @StatementsKept.load dep _ _ h _ hrow true
  refine ⟨document, ?_, hload⟩
  unfold acceptBankStatementEvidence
  rw [h.accounts_eq, hprepared, ok_bind, findStatement_some_iff.mpr hfound, ok_bind]
  dsimp only
  rw [hload]
  rfl

/-- A call that finds nothing and can be stored is answered from a new row. -/
theorem StatementsKept.answer_unknown {accounts : BankAccounts} {t : StatementTables}
    (h : StatementsKept accounts t) {command : StatementCommand} {prepared : PreparedStatement}
    (hprepared : prepareStatement dep adapter accounts command = .ok prepared)
    (hunknown : Unknown adapter t prepared command.ingestionIdempotencyKey)
    (hstorable : Storable adapter prepared command.ingestionIdempotencyKey) :
    ∃ document t', acceptBankStatementEvidence dep adapter t command = .ok (document, t') ∧
      document.record.bankStatementRecordId = t.nextId + 1 := by
  obtain ⟨⟨locator, hlocator, hfilled⟩, hkey, hfits⟩ := hstorable
  let row := prepared.row (adapter.sha256 prepared.payload) command.ingestionIdempotencyKey
    (t.nextId + 1) t.nextId
  have hartifacts : ∀ artifact ∈ t.artifacts,
      artifact.sourceArtifactHash ≠ adapter.sha256 prepared.payload := by
    intro artifact ha heq
    obtain ⟨r, hr, hhash⟩ := h.artifacts artifact ha
    exact List.find?_eq_none.mp hunknown.byArtifact r hr (decide_eq_true (hhash.trans heq))
  have hfresh : ∀ r ∈ t.statements, r.ingestionIdempotencyKey ≠ command.ingestionIdempotencyKey ∧
      r.sourceArtifactHash ≠ adapter.sha256 prepared.payload ∧
      ¬(r.bankAccountRecordId = row.bankAccountRecordId ∧
        r.statementIdentityReference = row.statementIdentityReference) := by
    intro r hr
    exact ⟨fun heq => List.find?_eq_none.mp hunknown.byKey r hr (decide_eq_true heq),
      fun heq => List.find?_eq_none.mp hunknown.byArtifact r hr (decide_eq_true heq),
      fun heq => List.find?_eq_none.mp hunknown.byIdentity r hr (decide_eq_true heq)⟩
  have hinsert : ∃ t', insertStatement adapter t prepared command.ingestionIdempotencyKey =
      .ok (row, t') := by
    unfold insertStatement
    dsimp only
    rw [hlocator, ok_bind, require_of hfilled, ok_bind, require_of hartifacts, ok_bind,
      require_of hkey, ok_bind, require_of hfresh, ok_bind, require_of hfits]
    exact ⟨_, rfl⟩
  obtain ⟨t', hinsert⟩ := hinsert
  have hinserted := insertStatement_ok hinsert
  have hprepared' : prepareStatement dep adapter t.toBankAccounts command = .ok prepared := by
    rw [h.accounts_eq]
    exact hprepared
  have hmem : row ∈ t'.statements := by
    rw [hinserted.statements]
    exact List.mem_append_right _ (List.mem_singleton.mpr rfl)
  obtain ⟨document, hload⟩ := @StatementsKept.load dep _ _ (h.inserted hprepared' hinserted) _ hmem false
  refine ⟨document, t', ?_, ?_⟩
  · unfold acceptBankStatementEvidence
    rw [hprepared', ok_bind, findStatement_none_iff.mpr hunknown, ok_bind]
    dsimp only
    rw [hinsert, ok_bind, hload]
    rfl
  · rw [(loadStatementDocument_ok hload).1]
    rfl

theorem storable_of_inserted {t t' : StatementTables} {prepared : PreparedStatement} {key : String}
    {row : BankStatementRecord} (h : insertStatement adapter t prepared key = .ok (row, t')) :
    Storable adapter prepared key := by
  simp only [insertStatement, bind_eq_ok, require_eq_ok, pure_eq_ok, Prod.mk.injEq] at h
  obtain ⟨locator, hlocator, _, hfilled, _, -, _, hkey, _, -, _, hfits, -, -⟩ := h
  exact ⟨⟨locator, hlocator, hfilled⟩, hkey, hfits⟩

/-! ## Rows and the calls behind them -/

variable (dep adapter) in
/-- A row holds what a call of the run was prepared with. -/
def Sourced (accounts : BankAccounts) (before : List StatementCommand) (row : BankStatementRecord) :
    Prop :=
  ∃ command ∈ before, ∃ prepared, prepareStatement dep adapter accounts command = .ok prepared ∧
    row.sourceArtifactHash = adapter.sha256 prepared.payload ∧
    row.statementIdentityReference = prepared.statement.statementIdentityReference ∧
    row.normalizedPayloadHash = prepared.statement.normalizedPayloadHash

theorem sourced_after (accounts : BankAccounts) (before : List StatementCommand) :
    ∀ row ∈ (ingestedAfter dep adapter accounts before).statements,
      Sourced dep adapter accounts before row := by
  induction before using List.reverseRecOn with
  | nil => exact nofun
  | append_singleton before command ih =>
    have hold : ∀ row ∈ (ingestedAfter dep adapter accounts before).statements,
        Sourced dep adapter accounts (before ++ [command]) row := by
      intro row hrow
      obtain ⟨c, hc, hsource⟩ := ih row hrow
      exact ⟨c, List.mem_append_left _ hc, hsource⟩
    intro row hrow
    rw [ingestedAfter_concat] at hrow
    rcases @ingest_cases dep adapter (ingestedAfter dep adapter accounts before) command with
      hsame | ⟨prepared, row', _, hprepared, -, hinserted, -, -⟩
    · exact hold row (hsame ▸ hrow)
    · rw [hinserted.statements] at hrow
      rcases List.mem_append.mp hrow with hrow | hrow
      · exact hold row hrow
      · rw [(statementsKept_after accounts before).accounts_eq] at hprepared
        refine ⟨command, List.mem_append_right _ (List.mem_singleton.mpr rfl), prepared, hprepared,
          ?_⟩
        rw [List.mem_singleton.mp hrow, hinserted.row_eq]
        exact ⟨rfl, rfl, rfl⟩

/-- A row with the hash of a payload holds the statement of the payload. -/
theorem Sourced.statement {accounts : BankAccounts} {before : List StatementCommand}
    {row : BankStatementRecord} (h : Sourced dep adapter accounts before row)
    {command : StatementCommand} (hdistinct : ArtifactsDistinct adapter (before ++ [command]))
    {prepared : PreparedStatement}
    (hprepared : prepareStatement dep adapter accounts command = .ok prepared)
    (hhash : row.sourceArtifactHash = adapter.sha256 prepared.payload) :
    row.statementIdentityReference = prepared.statement.statementIdentityReference ∧
      row.normalizedPayloadHash = prepared.statement.normalizedPayloadHash := by
  obtain ⟨source, hsource, sourcePrepared, hsourcePrepared, hsourceHash, hidentity, hnormalized⟩ := h
  have hpayload : sourcePrepared.payload = prepared.payload := by
    refine hdistinct source (by simp [hsource]) command (by simp) _ _
      (prepareStatement_ok hsourcePrepared).1 (prepareStatement_ok hprepared).1 ?_
    rw [← hsourceHash, hhash]
  have hstatement := prepared_statement_eq hsourcePrepared hprepared hpayload
  exact ⟨hstatement ▸ hidentity, hstatement ▸ hnormalized⟩

/-! ## Answers and the rows behind them -/

theorem ingested_concat {accounts : BankAccounts} {before : List StatementCommand}
    {command first : StatementCommand} {document : StatementDocument}
    (h : Ingested dep adapter accounts (before ++ [command]) first document) :
    Ingested dep adapter accounts before first document ∨ (first = command ∧ ∃ t',
      acceptBankStatementEvidence dep adapter (ingestedAfter dep adapter accounts before) command =
        .ok (document, t')) := by
  obtain ⟨earlier, later, t', heq, hok⟩ := h
  rcases List.eq_nil_or_concat' later with rfl | ⟨later, last, rfl⟩
  · obtain ⟨rfl, hlast⟩ := List.append_inj' heq rfl
    cases hlast
    exact Or.inr ⟨rfl, t', hok⟩
  · rw [← List.cons_append, ← List.append_assoc] at heq
    obtain ⟨rfl, -⟩ := List.append_inj' heq rfl
    exact Or.inl ⟨earlier, later, t', rfl, hok⟩

variable (dep adapter) in
/-- The row an earlier answer came from. -/
structure AnswerRow (accounts : BankAccounts) (t : StatementTables) (first : StatementCommand)
    (document : StatementDocument) (prepared : PreparedStatement) : Prop where
  prepared_eq : prepareStatement dep adapter accounts first = .ok prepared
  stored : document.record ∈ t.statements
  named : document.bankAccountReference = first.bankAccountReference
  named_row : document.record.bankAccountRecordId = prepared.account.bankAccountRecordId
  matched : document.record.sourceArtifactHash = adapter.sha256 prepared.payload ∨
    (document.record.statementIdentityReference = prepared.statement.statementIdentityReference ∧
      document.record.normalizedPayloadHash = prepared.statement.normalizedPayloadHash)
  keyed : ∀ row, t.statementByKey first.ingestionIdempotencyKey = some row →
    document.record = row ∧ row.sourceArtifactHash = adapter.sha256 prepared.payload

theorem statementByKey_mem {t : StatementTables} {key : String} {row : BankStatementRecord}
    (h : t.statementByKey key = some row) :
    row ∈ t.statements ∧ row.ingestionIdempotencyKey = key :=
  ⟨List.mem_of_find?_eq_some h, by simpa using List.find?_some h⟩

theorem statementByArtifact_mem {t : StatementTables} {hash : String} {row : BankStatementRecord}
    (h : t.statementByArtifact hash = some row) :
    row ∈ t.statements ∧ row.sourceArtifactHash = hash :=
  ⟨List.mem_of_find?_eq_some h, by simpa using List.find?_some h⟩

theorem statementByIdentity_mem {t : StatementTables} {id : ℕ} {identity : String}
    {row : BankStatementRecord} (h : t.statementByIdentity id identity = some row) :
    row ∈ t.statements ∧ row.bankAccountRecordId = id ∧
      row.statementIdentityReference = identity :=
  ⟨List.mem_of_find?_eq_some h, by simpa using List.find?_some h⟩

/-- What a new answer says of its row. -/
theorem answerRow_of_ok {accounts : BankAccounts} {t t' : StatementTables}
    (h : StatementsKept accounts t) {command : StatementCommand} {document : StatementDocument}
    (hok : acceptBankStatementEvidence dep adapter t command = .ok (document, t'))
    (hnamed : document.bankAccountReference = command.bankAccountReference) :
    ∃ prepared, AnswerRow dep adapter accounts t' command document prepared := by
  obtain ⟨prepared, row, hprepared, hcase⟩ := acceptStatement_cases hok
  have hkept' : StatementsKept accounts t' := by
    have hafter := @statementsKept_ingest dep adapter _ _ h command
    rw [ingest_of_ok hok] at hafter
    exact hafter
  rw [h.accounts_eq] at hprepared
  obtain ⟨haccount, hreference⟩ := prepareStatement_account hprepared
  rcases hcase with ⟨hfound, rfl, hload⟩ | ⟨hunknown, hinserted, hload⟩
  · obtain ⟨rfl, -⟩ := loadStatementDocument_ok hload
    refine ⟨prepared, hprepared, ?_, hnamed,
      (h.document_names hload haccount).mp (hnamed.trans hreference.symm), ?_, ?_⟩
    · cases hfound with
      | byKey hkey _ _ => exact (statementByKey_mem hkey).1
      | byArtifact _ hartifact => exact (statementByArtifact_mem hartifact).1
      | byIdentity _ _ hidentity _ => exact (statementByIdentity_mem hidentity).1
    · cases hfound with
      | byKey _ hhash _ => exact Or.inl hhash
      | byArtifact _ hartifact => exact Or.inl (statementByArtifact_mem hartifact).2
      | byIdentity _ _ hidentity hnormalized =>
        exact Or.inr ⟨(statementByIdentity_mem hidentity).2.2, hnormalized⟩
    · intro r hr
      cases hfound with
      | byKey hkey hhash _ =>
        obtain rfl := Option.some.inj (hkey.symm.trans hr)
        exact ⟨rfl, hhash⟩
      | byArtifact hkey _ => cases hkey.symm.trans hr
      | byIdentity hkey _ _ _ => cases hkey.symm.trans hr
  · obtain ⟨rfl, -⟩ := loadStatementDocument_ok hload
    have hrow := hinserted.row_eq
    have hmem : document.record ∈ t'.statements := by
      rw [hinserted.statements]
      exact List.mem_append_right _ (List.mem_singleton.mpr rfl)
    have hhash : document.record.sourceArtifactHash = adapter.sha256 prepared.payload := by
      rw [hrow]
      rfl
    refine ⟨prepared, hprepared, hmem, hnamed, by rw [hrow]; rfl, Or.inl hhash, ?_⟩
    intro r hr
    obtain ⟨hr, hkey⟩ := statementByKey_mem hr
    have hown : document.record.ingestionIdempotencyKey = command.ingestionIdempotencyKey := by
      rw [hrow]
      rfl
    have heq : document.record = r :=
      List.inj_on_of_nodup_map hkept'.keys hmem hr (hown.trans hkey.symm)
    exact ⟨heq, heq ▸ hhash⟩

/-- After calls that kept the contract, every earlier answer is tied to its row. -/
theorem answerRow_after {accounts : BankAccounts} {before : List StatementCommand}
    (hsteps : EveryStep (IngestionKept dep adapter accounts) before) {first : StatementCommand}
    {document : StatementDocument} (h : Ingested dep adapter accounts before first document) :
    ∃ prepared, AnswerRow dep adapter accounts (ingestedAfter dep adapter accounts before) first
      document prepared := by
  induction before using List.reverseRecOn with
  | nil =>
    obtain ⟨earlier, later, _, heq, -⟩ := h
    simp at heq
  | append_singleton before command ih =>
    obtain ⟨hbefore, hkept⟩ := everyStep_concat_iff.mp hsteps
    rw [ingestedAfter_concat]
    rcases ingested_concat h with hold | ⟨rfl, t', hok⟩
    · obtain ⟨prepared, hrow⟩ := ih hbefore hold
      have hinitial := @statements_prefix_ingest dep adapter
        (ingestedAfter dep adapter accounts before) command
      refine ⟨prepared, hrow.prepared_eq, hinitial.subset hrow.stored, hrow.named, hrow.named_row,
        hrow.matched, fun row hfind => ?_⟩
      cases hfirst : (ingestedAfter dep adapter accounts before).statementByKey
          first.ingestionIdempotencyKey with
      | some r =>
        have hsame := hinitial.find?_eq_some hfirst
        obtain rfl := Option.some.inj (hsame.symm.trans hfind)
        exact hrow.keyed r hfirst
      | none =>
        -- a new row of the key would have answered with a new record
        exfalso
        obtain ⟨hmem, hkey⟩ := statementByKey_mem hfind
        rcases @ingest_cases dep adapter (ingestedAfter dep adapter accounts before) command with
          hsame | ⟨prepared', row', document', -, -, hinserted, hok, hrecord⟩
        · rw [hsame, hfirst] at hfind
          cases hfind
        · rw [hinserted.statements] at hmem
          rcases List.mem_append.mp hmem with hmem | hmem
          · exact List.find?_eq_none.mp hfirst row hmem (decide_eq_true hkey)
          · rw [List.mem_singleton.mp hmem] at hkey
            have hown : row'.ingestionIdempotencyKey = command.ingestionIdempotencyKey := by
              rw [hinserted.row_eq]
              rfl
            have hid := (hkept.same first document document' _ hold (hown.symm.trans hkey) hok).2
            have hlt := (statementsKept_after accounts before).ids document.record hrow.stored
            rw [← hid, hrecord, hinserted.row_eq] at hlt
            exact absurd (Nat.lt_succ_self _) (Nat.lt_asymm hlt)
    · obtain ⟨prepared, hrow⟩ := answerRow_of_ok (statementsKept_after accounts before) hok
        (hkept.account document t' hok)
      rw [ingest_of_ok hok]
      exact ⟨prepared, hrow⟩

/-! ## The contract of a step -/

section
variable {accounts : BankAccounts} {before : List StatementCommand} {command : StatementCommand}

theorem statementByArtifact_of_mem {t : StatementTables} (h : StatementsKept accounts t)
    {row : BankStatementRecord} (hrow : row ∈ t.statements) :
    t.statementByArtifact row.sourceArtifactHash = some row :=
  find?_of_nodup_map h.hashes hrow

theorem StatementsKept.identity_unique {t : StatementTables} (h : StatementsKept accounts t)
    {r r' : BankStatementRecord} (hr : r ∈ t.statements) (hr' : r' ∈ t.statements)
    (haccount : r.bankAccountRecordId = r'.bankAccountRecordId)
    (hidentity : r.statementIdentityReference = r'.statementIdentityReference) : r = r' :=
  List.inj_on_of_nodup_map h.identities hr hr' (Prod.ext haccount hidentity)

/-- A conflict means that the key is recorded. -/
theorem IngestionKept.recorded (h : IngestionKept dep adapter accounts before command)
    {first : StatementCommand} {document : StatementDocument} {payload : String}
    (hfirst : Ingested dep adapter accounts before first document)
    (hkey : command.ingestionIdempotencyKey = first.ingestionIdempotencyKey)
    (hartifact : command.artifact = some payload) (hne : first.artifact ≠ some payload) :
    ((ingestedAfter dep adapter accounts before).statementByKey
      command.ingestionIdempotencyKey).isSome = true ∧
    Succeeds (prepareStatement dep adapter accounts command) := by
  obtain ⟨message, hconflict⟩ := h.conflict first document payload hfirst hkey hartifact hne
  obtain ⟨hprepared, hrecorded⟩ := conflict_recorded hconflict
  rw [(statementsKept_after accounts before).accounts_eq] at hprepared
  exact ⟨hrecorded, hprepared⟩

/-- A call that repeats an answered artifact under an unrecorded key is answered from the same
    row, so it is for the same account, or it is refused. -/
theorem IngestionKept.repeated (h : IngestionKept dep adapter accounts before command)
    {first : StatementCommand} {document : StatementDocument}
    (hfirst : Ingested dep adapter accounts before first document)
    (hkey : command.ingestionIdempotencyKey = first.ingestionIdempotencyKey)
    {prepared₀ : PreparedStatement} (hrow : AnswerRow dep adapter accounts
      (ingestedAfter dep adapter accounts before) first document prepared₀)
    (hnone : (ingestedAfter dep adapter accounts before).statementByKey
      command.ingestionIdempotencyKey = none)
    (hother : command.bankAccountReference ≠ first.bankAccountReference) :
    RefusedAnyway dep adapter (ingestedAfter dep adapter accounts before) command := by
  have hkept := @statementsKept_after dep adapter accounts before
  intro prepared hprepared
  rw [hkept.accounts_eq] at hprepared
  -- an answer would name another account than the first
  have hno : ∀ row ∈ (ingestedAfter dep adapter accounts before).statements,
      ¬Found adapter (ingestedAfter dep adapter accounts before) prepared
        command.ingestionIdempotencyKey row := by
    intro row hmem hfound
    obtain ⟨document', hok, hload⟩ := hkept.answer_found hprepared hmem hfound
    have hid := (h.same first document document' _ hfirst hkey hok).2
    have hnamed := h.account document' _ hok
    obtain ⟨hrecord, -⟩ := loadStatementDocument_ok hload
    have hsame : row = document.record := by
      rw [hrecord] at hid
      exact List.inj_on_of_nodup_map hkept.id_keys hmem hrow.stored hid
    obtain ⟨haccount, hreference⟩ := prepareStatement_account hrow.prepared_eq
    have hfirstNamed := (hkept.document_names hload haccount).mpr
      ((congrArg BankStatementRecord.bankAccountRecordId hsame).trans hrow.named_row)
    exact hother (hnamed.symm.trans (hfirstNamed.trans hreference))
  have hartifact : (ingestedAfter dep adapter accounts before).statementByArtifact
      (adapter.sha256 prepared.payload) = none := by
    cases hfind : (ingestedAfter dep adapter accounts before).statementByArtifact
        (adapter.sha256 prepared.payload) with
    | none => rfl
    | some row => exact absurd (.byArtifact hnone hfind) (hno row (statementByArtifact_mem hfind).1)
  refine ⟨hartifact, ?_⟩
  cases hfind : (ingestedAfter dep adapter accounts before).statementByIdentity
      prepared.account.bankAccountRecordId prepared.statement.statementIdentityReference with
  | some row =>
    left
    refine ⟨row, rfl, fun hnormalized => ?_⟩
    exact hno row (statementByIdentity_mem hfind).1 (.byIdentity hnone hartifact hfind hnormalized)
  | none =>
    right
    refine ⟨rfl, fun hstorable => ?_⟩
    obtain ⟨document', t', hok, hid⟩ :=
      hkept.answer_unknown hprepared ⟨hnone, hartifact, hfind⟩ hstorable
    have hsame := (h.same first document document' _ hfirst hkey hok).2
    have hlt := hkept.ids document.record hrow.stored
    rw [← hsame, hid] at hlt
    omega

/-- A recorded artifact answers for its own account only. -/
theorem IngestionKept.account_recorded (h : IngestionKept dep adapter accounts before command)
    (hdistinct : ArtifactsDistinct adapter (before ++ [command])) {prepared : PreparedStatement}
    {row : BankStatementRecord}
    (hprepared : prepareStatement dep adapter accounts command = .ok prepared)
    (hkeyed : ∀ r, (ingestedAfter dep adapter accounts before).statementByKey
      command.ingestionIdempotencyKey = some r →
        r.sourceArtifactHash = adapter.sha256 prepared.payload)
    (hartifact : (ingestedAfter dep adapter accounts before).statementByArtifact
      (adapter.sha256 prepared.payload) = some row) :
    row.bankAccountRecordId = prepared.account.bankAccountRecordId := by
  have hkept := @statementsKept_after dep adapter accounts before
  obtain ⟨hmem, hhash⟩ := statementByArtifact_mem hartifact
  have hfound : Found adapter (ingestedAfter dep adapter accounts before) prepared
      command.ingestionIdempotencyKey row := by
    cases hfind : (ingestedAfter dep adapter accounts before).statementByKey
        command.ingestionIdempotencyKey with
    | none => exact .byArtifact hfind hartifact
    | some r =>
      have hr := hkeyed r hfind
      have hown : r = row :=
        List.inj_on_of_nodup_map hkept.hashes (statementByKey_mem hfind).1 hmem (hr.trans hhash.symm)
      subst hown
      exact .byKey hfind hr ((sourced_after accounts before r hmem).statement hdistinct hprepared hr).2
  obtain ⟨document, hok, hload⟩ := hkept.answer_found hprepared hmem hfound
  obtain ⟨haccount, hreference⟩ := prepareStatement_account hprepared
  exact (hkept.document_names hload haccount).mp
    ((h.account document _ hok).trans hreference.symm)

/-- An admitted call that repeats an answered artifact is answered from the same row. -/
theorem IngestionAdmitted.same_row (h : IngestionAdmitted dep adapter accounts before command)
    (hdistinct : ArtifactsDistinct adapter (before ++ [command]))
    {first : StatementCommand} {document : StatementDocument}
    (hfirst : Ingested dep adapter accounts before first document)
    (hkey : command.ingestionIdempotencyKey = first.ingestionIdempotencyKey)
    {prepared₀ prepared : PreparedStatement} (hrow : AnswerRow dep adapter accounts
      (ingestedAfter dep adapter accounts before) first document prepared₀)
    (hprepared : prepareStatement dep adapter accounts command = .ok prepared)
    (hartifact : command.artifact = first.artifact) :
    (∀ row, Found adapter (ingestedAfter dep adapter accounts before) prepared
      command.ingestionIdempotencyKey row → row = document.record) ∧
    (Unknown adapter (ingestedAfter dep adapter accounts before) prepared
      command.ingestionIdempotencyKey →
        ¬Storable adapter prepared command.ingestionIdempotencyKey) := by
  have hkept := @statementsKept_after dep adapter accounts before
  have hpayload : prepared.payload = prepared₀.payload := by
    have := hartifact
    rw [(prepareStatement_ok hprepared).1, (prepareStatement_ok hrow.prepared_eq).1] at this
    exact Option.some.inj this
  have hstatement := prepared_statement_eq hprepared hrow.prepared_eq hpayload
  -- without a row of the key, the row of the first answer is found by artifact or identity
  have hunkeyed : (ingestedAfter dep adapter accounts before).statementByKey
      command.ingestionIdempotencyKey = none →
      RefusedAnyway dep adapter (ingestedAfter dep adapter accounts before) command ∨
        document.record.bankAccountRecordId = prepared.account.bankAccountRecordId := by
    intro hnone
    rcases h.repeated first document hfirst hkey hartifact hnone with hsame | hrefused
    · right
      obtain ⟨haccount, hreference⟩ := prepareStatement_account hprepared
      obtain ⟨haccount₀, hreference₀⟩ := prepareStatement_account hrow.prepared_eq
      rw [hrow.named_row, account_of_reference haccount₀ haccount
        (hreference₀.trans (hsame.symm.trans hreference.symm))]
    · exact Or.inl hrefused
  have hprepared' : prepareStatement dep adapter
      (ingestedAfter dep adapter accounts before).toBankAccounts command = .ok prepared := by
    rw [hkept.accounts_eq]
    exact hprepared
  constructor
  · intro row hfound
    cases hfound with
    | byKey hfind _ _ =>
      rw [hkey] at hfind
      exact (hrow.keyed row hfind).1.symm
    | byArtifact hnone hfind =>
      obtain ⟨hmem, hhash⟩ := statementByArtifact_mem hfind
      rcases hrow.matched with hmatched | ⟨hidentity, -⟩
      · rw [← hpayload] at hmatched
        exact List.inj_on_of_nodup_map hkept.hashes hmem hrow.stored (hhash.trans hmatched.symm)
      · rcases hunkeyed hnone with hrefused | haccount
        · exact absurd ((hrefused prepared hprepared').1.symm.trans hfind) nofun
        · have hnamed := h.account prepared row hprepared
            (fun r hr => absurd (hnone.symm.trans hr).symm (Option.some_ne_none r)) hfind
          have hown := ((sourced_after accounts before row hmem).statement hdistinct hprepared hhash).1
          exact hkept.identity_unique hmem hrow.stored (hnamed.trans haccount.symm)
            (hown.trans (hstatement ▸ hidentity.symm))
    | byIdentity hnone hfindArtifact hfind hnormalized =>
      obtain ⟨hmem, hnamed, hidentity⟩ := statementByIdentity_mem hfind
      rcases hrow.matched with hmatched | ⟨hidentity₀, -⟩
      · rw [← hpayload] at hmatched
        have hstored := statementByArtifact_of_mem hkept hrow.stored
        rw [hmatched, hfindArtifact] at hstored
        cases hstored
      · rcases hunkeyed hnone with hrefused | haccount
        · rcases (hrefused prepared hprepared').2 with ⟨r, hr, hdiffers⟩ | ⟨hr, -⟩
          · obtain rfl := Option.some.inj (hfind.symm.trans hr)
            exact absurd hnormalized hdiffers
          · cases hfind.symm.trans hr
        · exact hkept.identity_unique hmem hrow.stored (hnamed.trans haccount.symm)
            (hidentity.trans (hstatement ▸ hidentity₀.symm))
  · intro hunknown hstorable
    rcases hunkeyed hunknown.byKey with hrefused | haccount
    · rcases (hrefused prepared hprepared').2 with ⟨r, hr, -⟩ | ⟨-, hnot⟩
      · cases hunknown.byIdentity.symm.trans hr
      · exact hnot hstorable
    · rcases hrow.matched with hmatched | ⟨hidentity₀, -⟩
      · rw [← hpayload] at hmatched
        have hstored := statementByArtifact_of_mem hkept hrow.stored
        rw [hmatched, hunknown.byArtifact] at hstored
        cases hstored
      · exact List.find?_eq_none.mp hunknown.byIdentity document.record hrow.stored
          (decide_eq_true ⟨haccount, hstatement ▸ hidentity₀⟩)

/-- An admitted call with another artifact meets the row of its key. -/
theorem IngestionAdmitted.conflicts (h : IngestionAdmitted dep adapter accounts before command)
    (hdistinct : ArtifactsDistinct adapter (before ++ [command]))
    {first : StatementCommand} {document : StatementDocument}
    (hfirst : Ingested dep adapter accounts before first document)
    (hkey : command.ingestionIdempotencyKey = first.ingestionIdempotencyKey)
    {prepared₀ : PreparedStatement} (hrow : AnswerRow dep adapter accounts
      (ingestedAfter dep adapter accounts before) first document prepared₀)
    {payload : String} (hartifact : command.artifact = some payload)
    (hne : first.artifact ≠ some payload) : ∃ message,
    acceptBankStatementEvidence dep adapter (ingestedAfter dep adapter accounts before) command =
      .error (.idempotencyConflict message) := by
  have hkept := @statementsKept_after dep adapter accounts before
  obtain ⟨hrecorded, prepared, hprepared⟩ := h.recorded first document payload hfirst hkey hartifact hne
  obtain ⟨row, hfind⟩ := Option.isSome_iff_exists.mp hrecorded
  have hhash : row.sourceArtifactHash ≠ adapter.sha256 prepared.payload := by
    rw [(hrow.keyed row (hkey ▸ hfind)).2]
    intro heq
    obtain ⟨earlier, later, _, rfl, -⟩ := hfirst
    have hfirstArtifact := (prepareStatement_ok hrow.prepared_eq).1
    have hpayload := hdistinct first (by simp) command (by simp) _ _ hfirstArtifact
      (prepareStatement_ok hprepared).1 heq
    rw [hpayload, ← (prepareStatement_ok hprepared).1, hartifact] at hfirstArtifact
    exact hne hfirstArtifact
  unfold acceptBankStatementEvidence
  rw [hkept.accounts_eq, hprepared, ok_bind]
  unfold findStatement
  dsimp only
  rw [hfind]
  dsimp only
  rw [require, if_neg fun hboth => hhash hboth.1]
  exact ⟨_, rfl⟩

/-- What a call does after calls that kept the contract. -/
theorem ingestionKept_iff (hsteps : EveryStep (IngestionKept dep adapter accounts) before)
    (hdistinct : ArtifactsDistinct adapter (before ++ [command])) :
    IngestionKept dep adapter accounts before command ↔
      IngestionAdmitted dep adapter accounts before command := by
  have hkept := @statementsKept_after dep adapter accounts before
  constructor
  · intro h
    refine ⟨?_, ?_, ?_⟩
    · intro first document payload hfirst hkey hartifact hne
      exact h.recorded hfirst hkey hartifact hne
    · intro first document hfirst hkey _ hnone
      obtain ⟨prepared₀, hrow⟩ := answerRow_after hsteps hfirst
      by_cases hsame : command.bankAccountReference = first.bankAccountReference
      · exact Or.inl hsame
      · exact Or.inr (h.repeated hfirst hkey hrow hnone hsame)
    · intro prepared row hprepared hkeyed hartifact
      exact h.account_recorded hdistinct hprepared hkeyed hartifact
  · intro h
    have hafter := @statementsKept_after dep adapter accounts (before ++ [command])
    have hconflict : ∀ first document payload, Ingested dep adapter accounts before first document →
        command.ingestionIdempotencyKey = first.ingestionIdempotencyKey →
        command.artifact = some payload → first.artifact ≠ some payload → ∃ message,
        acceptBankStatementEvidence dep adapter (ingestedAfter dep adapter accounts before) command =
          .error (.idempotencyConflict message) := by
      intro first document payload hfirst hkey hartifact hne
      obtain ⟨prepared₀, hrow⟩ := answerRow_after hsteps hfirst
      exact h.conflicts hdistinct hfirst hkey hrow hartifact hne
    refine ⟨?_, hconflict, ?_, ⟨hafter.hashes, hafter.identities⟩, ?_⟩
    · intro first document document' t' hfirst hkey hok
      obtain ⟨prepared₀, hrow⟩ := answerRow_after hsteps hfirst
      obtain ⟨prepared, row, hprepared, hcase⟩ := acceptStatement_cases hok
      rw [hkept.accounts_eq] at hprepared
      have hartifact : command.artifact = first.artifact := by
        by_contra hne
        obtain ⟨message, herror⟩ := hconflict first document prepared.payload hfirst hkey
          (prepareStatement_ok hprepared).1
          fun heq => hne ((prepareStatement_ok hprepared).1.trans heq.symm)
        rw [herror] at hok
        cases hok
      obtain ⟨hfound, hunknown⟩ := h.same_row hdistinct hfirst hkey hrow hprepared hartifact
      refine ⟨hartifact, ?_⟩
      rcases hcase with ⟨hrowFound, -, hload⟩ | ⟨hno, -, -⟩
      · rw [(loadStatementDocument_ok hload).1, hfound row hrowFound]
      · simp only [acceptBankStatementEvidence, hkept.accounts_eq, hprepared, ok_bind,
          findStatement_none_iff.mpr hno, bind_eq_ok] at hok
        obtain ⟨inserted, hinsert, -⟩ := hok
        exact absurd (storable_of_inserted hinsert) (hunknown hno)
    · intro document t' hok
      obtain ⟨prepared, row, hprepared, hcase⟩ := acceptStatement_cases hok
      rw [hkept.accounts_eq] at hprepared
      obtain ⟨haccount, hreference⟩ := prepareStatement_account hprepared
      rw [← hreference]
      rcases hcase with ⟨hfound, rfl, hload⟩ | ⟨hno, hinserted, hload⟩
      · rw [hkept.document_names hload haccount]
        cases hfound with
        | byKey hfind hhash _ =>
          refine h.account prepared row hprepared ?_ ?_
          · intro r hr
            obtain rfl := Option.some.inj (hfind.symm.trans hr)
            exact hhash
          · rw [← hhash]
            exact statementByArtifact_of_mem hkept (statementByKey_mem hfind).1
        | byArtifact hnone hfind =>
          exact h.account prepared row hprepared (fun r hr => absurd (hnone.symm.trans hr).symm (Option.some_ne_none r)) hfind
        | byIdentity _ _ hfind _ => exact (statementByIdentity_mem hfind).2.1
      · have hkept' : StatementsKept accounts t' := by
          have hingest := @statementsKept_ingest dep adapter _ _ hkept command
          rw [ingest_of_ok hok] at hingest
          exact hingest
        rw [hkept'.document_names hload haccount, hinserted.row_eq]
        rfl
    · intro e he
      rw [ingestedAfter_concat, ingest_of_error he]

end

/-- The ingestion contract is kept through a run exactly when every call of it is admitted. -/
theorem ingestion_kept_iff {accounts : BankAccounts} {commands : List StatementCommand}
    (hdistinct : ArtifactsDistinct adapter commands) :
    EveryStep (IngestionKept dep adapter accounts) commands ↔
      EveryStep (IngestionAdmitted dep adapter accounts) commands := by
  apply everyStep_iff_of_initial
  intro before command hinitial hsteps
  refine ingestionKept_iff hsteps ?_
  exact fun c hc d hd => hdistinct c (hinitial.subset hc) d (hinitial.subset hd)

/-! ## A key that was never recorded -/

/-- Takes a payload for the statement of that identity, with one credit of one unit. -/
def sampleAdapter : StatementAdapter where
  sha256 payload := sampleDigest (.closing payload "" [] "" "")
  parse payload := .ok {
    messageDefinitionIdentifier := "camt.053.001.14"
    statementIdentityReference := payload
    electronicSequenceNumber := none
    legalSequenceNumber := none
    periodStartAt := none
    periodEndAt := none
    openingBalanceHash := none
    closingBalanceHash := none
    accountCurrencyCode := "KRW"
    accountIdentifierHash := "sha256:"
    normalizedPayloadHash := payload
    entries := [⟨1, 1000000, "KRW", true, []⟩] }
  putArtifact hash _ := .ok ("memory:" ++ hash)
  parse_noConflict _ := raises_ok _
  putArtifact_noConflict _ _ := raises_ok _

def sampleStatement (key payload : String) : StatementCommand where
  tenantReference := "urn:cwl:tenant:t1"
  bankAccountReference := "urn:cwl:bank_account:a1"
  ingestionIdempotencyKey := key
  messageDefinitionIdentifier := "camt.053.001.14"
  statementPayload := some payload
  sourceArtifactHash := none

theorem ingested_of_isOk {accounts : BankAccounts} {before earlier later : List StatementCommand}
    {first : StatementCommand} (hbefore : before = earlier ++ first :: later)
    (h : (acceptBankStatementEvidence dep adapter (ingestedAfter dep adapter accounts earlier)
      first).isOk = true) : ∃ document, Ingested dep adapter accounts before first document := by
  cases hok : acceptBankStatementEvidence dep adapter (ingestedAfter dep adapter accounts earlier)
      first with
  | error e =>
    rw [hok] at h
    cases h
  | ok answer => exact ⟨answer.1, earlier, later, answer.2, hbefore, hok⟩

/-- A statement sent twice under one key keeps the contract. -/
theorem repeatedStatement_kept :
    let dep := sampleDeployment sampleCatalog
    let calls := [sampleStatement "ingest-1" "<a/>", sampleStatement "ingest-1" "<a/>"]
    (ingestedAfter dep sampleAdapter sampleBankAccounts calls).statements.length = 1 ∧
      EveryStep (IngestionKept dep sampleAdapter sampleBankAccounts) calls := by
  intro dep calls
  have hdistinct : ArtifactsDistinct sampleAdapter calls := by
    intro c hc d hd payload payload' hpayload hpayload' _
    have hone : ∀ x ∈ calls, x.artifact = some "<a/>" := by decide +kernel
    rw [hone c hc] at hpayload
    rw [hone d hd] at hpayload'
    exact Option.some.inj (hpayload.symm.trans hpayload')
  -- there is one account, so every row is for it
  have haccount : ∀ before (command : StatementCommand) prepared (row : BankStatementRecord),
      prepareStatement dep sampleAdapter sampleBankAccounts command = .ok prepared →
      row ∈ (ingestedAfter dep sampleAdapter sampleBankAccounts before).statements →
      row.bankAccountRecordId = prepared.account.bankAccountRecordId := by
    intro before command prepared row hprepared hrow
    obtain ⟨account, hmem, hid⟩ :=
      (@statementsKept_after dep sampleAdapter sampleBankAccounts before).account row hrow
    have hsame := (prepareStatement_account hprepared).1
    rw [← hid, List.mem_singleton.mp hmem, List.mem_singleton.mp hsame]
  refine ⟨by decide +kernel, (ingestion_kept_iff hdistinct).mpr ?_⟩
  have hfirst : IngestionAdmitted dep sampleAdapter sampleBankAccounts []
      (sampleStatement "ingest-1" "<a/>") := by
    have hnone : ∀ first document, ¬Ingested dep sampleAdapter sampleBankAccounts [] first document := by
      rintro first document ⟨earlier, later, _, heq, -⟩
      simp at heq
    refine ⟨fun first document _ h => absurd h (hnone _ _), fun first document h =>
      absurd h (hnone _ _), ?_⟩
    intro prepared row hprepared _ hrow
    exact haccount _ _ prepared row hprepared (statementByArtifact_mem hrow).1
  have hsecond : IngestionAdmitted dep sampleAdapter sampleBankAccounts
      [sampleStatement "ingest-1" "<a/>"] (sampleStatement "ingest-1" "<a/>") := by
    have hrecorded : ((ingestedAfter dep sampleAdapter sampleBankAccounts
        [sampleStatement "ingest-1" "<a/>"]).statementByKey "ingest-1").isSome = true := by
      decide +kernel
    refine ⟨?_, ?_, ?_⟩
    · rintro first document payload ⟨earlier, later, _, heq, -⟩ - hpayload hne
      have hmem : first ∈ [sampleStatement "ingest-1" "<a/>"] := by
        rw [heq]
        simp
      rw [List.mem_singleton.mp hmem] at hne
      exact absurd hpayload hne
    · intro first document _ _ _ hnone
      rw [show (sampleStatement "ingest-1" "<a/>").ingestionIdempotencyKey = "ingest-1" from rfl]
        at hnone
      rw [hnone] at hrecorded
      cases hrecorded
    · intro prepared row hprepared _ hrow
      exact haccount _ _ prepared row hprepared (statementByArtifact_mem hrow).1
  rw [show calls = [sampleStatement "ingest-1" "<a/>"] ++ [sampleStatement "ingest-1" "<a/>"]
    from rfl, everyStep_concat_iff]
  refine ⟨?_, hsecond⟩
  rw [← List.nil_append [_], everyStep_concat_iff]
  exact ⟨fun before c hc => absurd (List.prefix_nil.mp hc) (by simp), hfirst⟩

/-- A key answered from the row of its artifact is accepted again for another artifact. -/
theorem unrecordedKey_reused :
    ¬EveryStep (IngestionKept (sampleDeployment sampleCatalog) sampleAdapter sampleBankAccounts)
      [sampleStatement "ingest-1" "<a/>", sampleStatement "ingest-2" "<a/>",
        sampleStatement "ingest-2" "<b/>"] := by
  intro hsteps
  have hanswered : (acceptBankStatementEvidence (sampleDeployment sampleCatalog) sampleAdapter
      (ingestedAfter (sampleDeployment sampleCatalog) sampleAdapter sampleBankAccounts
        [sampleStatement "ingest-1" "<a/>"]) (sampleStatement "ingest-2" "<a/>")).isOk = true ∧
      (acceptBankStatementEvidence (sampleDeployment sampleCatalog) sampleAdapter
      (ingestedAfter (sampleDeployment sampleCatalog) sampleAdapter sampleBankAccounts
        [sampleStatement "ingest-1" "<a/>", sampleStatement "ingest-2" "<a/>"])
        (sampleStatement "ingest-2" "<b/>")).isOk = true := by
    decide +kernel
  have hbefore : [sampleStatement "ingest-1" "<a/>", sampleStatement "ingest-2" "<a/>"] =
      [sampleStatement "ingest-1" "<a/>"] ++ sampleStatement "ingest-2" "<a/>" :: [] := rfl
  obtain ⟨document, hfirst⟩ := ingested_of_isOk hbefore hanswered.1
  have hkept := hsteps [sampleStatement "ingest-1" "<a/>", sampleStatement "ingest-2" "<a/>"]
    (sampleStatement "ingest-2" "<b/>") (List.prefix_refl _)
  obtain ⟨message, hconflict⟩ := hkept.conflict _ document "<b/>" hfirst rfl (by decide +kernel)
    (by decide +kernel)
  have hok := hanswered.2
  rw [hconflict] at hok
  cases hok

end AccountingPlatform.Bank
