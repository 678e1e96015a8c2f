/-
  The catalog of one tenant and the deployment the ledger runs on.

  The rows of other tenants are invisible to a session, so the tables here are those of the
  tenant the ledger was provisioned for. What PostgreSQL and SHA-256 leave open is a field of
  `Deployment`: the order in which an unordered query delivers its rows, the collation of
  `ORDER BY`, the digest of a canonical payload and the text of a generated UUID.
-/
import AccountingPlatform.Core.PostingLedger
import AccountingPlatform.Lib.Keys

namespace AccountingPlatform.Postgres

open AccountingPlatform.Lib AccountingPlatform.Core

/-! ## Catalog rows -/

structure LegalEntityRecord where
  legalEntityId : ℕ
  legalEntityCode : String
  functionalCurrencyCode : String
  /-- `valid_to IS NULL`. -/
  isCurrent : Bool
  deriving DecidableEq

structure AccountingBook where
  accountingBookId : ℕ
  legalEntityId : ℕ
  bookRoleCode : String
  bookName : String
  reportingCurrencyCode : String
  isCurrent : Bool
  deriving DecidableEq

inductive AccountClass
  | asset | liability | equity | revenue | expense
  deriving DecidableEq, Repr

structure ChartAccount where
  chartAccountId : ℕ
  accountingBookId : ℕ
  chartAccountCode : String
  accountClassCode : AccountClass
  isCurrent : Bool
  deriving DecidableEq

/-- Microseconds; a day starts at `midnight`. -/
abbrev Timestamp := ℕ

def midnight (date : Date) : Timestamp := date * 86400000000

structure AccountRoleMapping where
  accountingBookId : ℕ
  accountRoleCode : String
  chartAccountId : ℕ
  accountingPolicyVersion : String
  postingRuleVersion : String
  validFrom : Timestamp
  validTo : Option Timestamp
  deriving DecidableEq

def AccountRoleMapping.isCurrent (m : AccountRoleMapping) : Bool := m.validTo.isNone

/-- `valid_from <= as_of AND (valid_to IS NULL OR valid_to > as_of)`. -/
def AccountRoleMapping.effectiveAt (m : AccountRoleMapping) (asOf : Timestamp) : Bool :=
  m.validFrom ≤ asOf && m.validTo.all fun validTo => asOf < validTo

structure FiscalCalendar where
  fiscalCalendarId : ℕ
  calendarCode : String

/-- Catalog tables with their primary keys and the foreign keys the reads rely on. -/
structure Catalog where
  tenantReference : String
  legalEntities : List LegalEntityRecord
  books : List AccountingBook
  chartAccounts : List ChartAccount
  roleMappings : List AccountRoleMapping
  calendars : List FiscalCalendar
  legalEntity_key : (legalEntities.map LegalEntityRecord.legalEntityId).Nodup
  book_key : (books.map AccountingBook.accountingBookId).Nodup
  chartAccount_key : (chartAccounts.map ChartAccount.chartAccountId).Nodup
  book_entity : ∀ book ∈ books, ∃ entity ∈ legalEntities, entity.legalEntityId = book.legalEntityId

/-! ## Digests -/

/-- Accounts and amounts a close hashes, one row of the aggregate. -/
structure BalanceRow where
  chartAccountId : ℕ
  chartAccountCode : String
  debitTotal : ℕ
  creditTotal : ℕ
  deriving DecidableEq, Repr

/-- The payloads whose canonical JSON is hashed. -/
inductive DigestPayload
  /-- `_reversal_command_hash`. -/
  | reversalCommand (payload : ReversalCommandPayload)
  /-- `_canonical_receipt_hash`. -/
  | receipt (journalReference : String) (lineCount : ℕ) (postingStatusCode receiptReference : String)
      (reversalOfJournalReference : Option String) (sourcePayloadHash sourceProposalId : String)
  /-- `_canonical_snapshot_hash`: code, credit, debit and net of every line. -/
  | snapshot (accountingBookReference legalEntityReference : String)
      (lines : List (String × ℕ × ℕ × ℤ)) (periodCode snapshotCurrencyCode : String)
      (sourceJournalCount : ℕ) (tenantReference : String)
  /-- `_canonical_closing_hash`. -/
  | closing (accountingBookReference legalEntityReference : String)
      (lines : List PostedJournalLine) (periodCode tenantReference : String)

/-! ## Deployment -/

structure Deployment where
  catalog : Catalog
  /-- The order in which a query without `ORDER BY` delivers its rows. -/
  rowOrder : {α : Type} → List α → List α
  rowOrder_perm : ∀ {α : Type} (rows : List α), (rowOrder rows).Perm rows
  /-- The collation of the database. -/
  collation : String → String → Bool
  /-- SHA-256 of the canonical JSON, prefixed with `sha256:`. -/
  digest : DigestPayload → String
  digest_matches : ∀ payload, matchesHash (digest payload) = true
  /-- Text of a UUID the database generated. -/
  uuidText : ℕ → String
  /-- `pg_has_role(session_user, 'accounting_closing_writer', 'MEMBER')`. -/
  isClosingWriter : Bool

namespace Deployment

variable (dep : Deployment)

/-- `fetchone()` of an unordered query. -/
def fetchone {α : Type} (rows : List α) : Option α := (dep.rowOrder rows).head?

theorem fetchone_mem {α : Type} {rows : List α} {row : α} (h : dep.fetchone rows = some row) :
    row ∈ rows :=
  (dep.rowOrder_perm rows).mem_iff.mp (List.mem_of_mem_head? h)

theorem fetchone_eq_none {α : Type} {rows : List α} : dep.fetchone rows = none ↔ rows = [] := by
  rw [fetchone, List.head?_eq_none_iff]
  exact ⟨fun h => (h ▸ dep.rowOrder_perm rows).symm.eq_nil, fun h => by
    have := dep.rowOrder_perm rows
    rw [h] at this ⊢
    exact this.eq_nil⟩

/-- A query that can match one row finds that row. -/
theorem fetchone_unique {α : Type} {rows : List α} {row : α} (h : row ∈ rows)
    (hu : ∀ row' ∈ rows, row' = row) : dep.fetchone rows = some row := by
  cases hf : dep.fetchone rows with
  | none =>
    rw [fetchone_eq_none] at hf
    rw [hf] at h
    cases h
  | some row' => rw [hu row' (dep.fetchone_mem hf)]

/-! ## Catalog lookups -/

/-- `_load_legal_entity`. -/
def loadLegalEntity (legalEntityReference nextAction : String) : Result LegalEntityRecord :=
  fetch (dep.fetchone (dep.catalog.legalEntities.filter fun entity =>
      entity.legalEntityCode = legalEntityReference ∧ entity.isCurrent))
    (.validation ("Legal entity " ++ legalEntityReference ++ " is not recorded for this tenant. " ++
      "Create the legal_entity_record row, then retry " ++ nextAction ++ "."))

def booksForRole (legalEntityId : ℕ) (bookRoleCode : String) : List AccountingBook :=
  dep.catalog.books.filter fun book =>
    book.legalEntityId = legalEntityId ∧ book.bookRoleCode = bookRoleCode ∧ book.isCurrent

/-- `_require_book`. -/
def requireBook (legalEntityId : ℕ) (bookRoleCode accountingBookReference : String) :
    Result AccountingBook :=
  fetch (dep.fetchone (dep.booksForRole legalEntityId bookRoleCode))
    (.validation ("Accounting book " ++ accountingBookReference ++
      " is not recorded for this legal entity. " ++
      "Create the accounting_book row, then retry posting."))

/-- `_require_book_for_role`. -/
def requireBookForRole (legalEntityId : ℕ) (bookRoleCode : String) : Result AccountingBook :=
  fetch (dep.fetchone (dep.booksForRole legalEntityId bookRoleCode))
    (.validation ("Accounting book for role " ++ bookRoleCode ++
      " is not recorded for this legal entity. " ++
      "Create the accounting_book row, then retry posting."))

/-- `_require_book_for_close`. -/
def requireBookForClose (legalEntityId : ℕ) (accountingBookReference nextAction : String) :
    Result AccountingBook :=
  fetch (dep.fetchone (dep.catalog.books.filter fun book =>
      book.legalEntityId = legalEntityId ∧ book.bookName = accountingBookReference ∧ book.isCurrent))
    (.validation ("Accounting book " ++ accountingBookReference ++
      " is not recorded for this legal entity. " ++
      "Create the accounting_book row, then retry " ++ nextAction ++ "."))

/-- Entity and book of a report or close, as every read resolves them. -/
def loadScope (legalEntityReference accountingBookReference nextAction : String) :
    Result (LegalEntityRecord × AccountingBook) := do
  let entity ← dep.loadLegalEntity legalEntityReference nextAction
  let book ← dep.requireBookForClose entity.legalEntityId accountingBookReference nextAction
  pure (entity, book)

/-- The account an inserted line refers to. -/
def chartAccountForCode (bookId : ℕ) (code : String) : Option ChartAccount :=
  dep.fetchone (dep.catalog.chartAccounts.filter fun account =>
    account.accountingBookId = bookId ∧ account.chartAccountCode = code ∧ account.isCurrent)

/-- Join on the primary key of `chart_account`. -/
def chartAccount? (chartAccountId : ℕ) : Option ChartAccount :=
  dep.catalog.chartAccounts.find? fun account => account.chartAccountId = chartAccountId

/-- Active mappings of one chart account, joined without regard to the book. -/
def currentMappings (chartAccountId : ℕ) : List AccountRoleMapping :=
  dep.catalog.roleMappings.filter fun m => m.chartAccountId = chartAccountId ∧ m.isCurrent

/-- `_require_tenant_calendar`: the first calendar by code. -/
def requireTenantCalendar : Result FiscalCalendar :=
  fetch ((dep.catalog.calendars.insertionSort fun a b =>
      dep.collation a.calendarCode b.calendarCode).head?)
    (.validation ("No fiscal_calendar is recorded for this tenant. " ++
      "Create the fiscal_calendar row, then retry the period open."))

theorem loadScope_ok {legalEntityReference accountingBookReference nextAction : String}
    {entity : LegalEntityRecord} {book : AccountingBook}
    (h : dep.loadScope legalEntityReference accountingBookReference nextAction = .ok (entity, book)) :
    dep.loadLegalEntity legalEntityReference nextAction = .ok entity ∧
    dep.requireBookForClose entity.legalEntityId accountingBookReference nextAction = .ok book ∧
    book ∈ dep.catalog.books ∧ book.legalEntityId = entity.legalEntityId ∧
      book.bookName = accountingBookReference ∧ book.isCurrent = true := by
  simp only [loadScope, bind_eq_ok, pure_eq_ok, Prod.mk.injEq] at h
  obtain ⟨entity', hentity, book', hbook, rfl, rfl⟩ := h
  refine ⟨hentity, hbook, ?_⟩
  simp only [requireBookForClose, fetch_eq_ok] at hbook
  have hmem := dep.fetchone_mem hbook
  simp only [List.mem_filter, decide_eq_true_eq] at hmem
  exact ⟨hmem.1, hmem.2⟩

theorem chartAccountForCode_mem {bookId : ℕ} {code : String} {account : ChartAccount}
    (h : dep.chartAccountForCode bookId code = some account) :
    account ∈ dep.catalog.chartAccounts ∧ account.accountingBookId = bookId ∧
      account.chartAccountCode = code ∧ account.isCurrent = true := by
  have hmem := dep.fetchone_mem h
  simp only [List.mem_filter, decide_eq_true_eq] at hmem
  exact ⟨hmem.1, hmem.2⟩

/-- A chart account is found by its own key. -/
theorem chartAccount?_of_mem {account : ChartAccount} (h : account ∈ dep.catalog.chartAccounts) :
    dep.chartAccount? account.chartAccountId = some account :=
  find?_of_nodup_map dep.catalog.chartAccount_key h

end Deployment

end AccountingPlatform.Postgres
