/-
  The list of hard-close receipts and the period-close package.

  The package reads its worksheets for one book. Its receipt is the last one on the first page
  of the receipts of the entity and the period, whatever their book: it is the book's own
  exactly when that page ends with it.

  Of the agings, the cash rollforward and the VAT register a package carries what they were
  read for and the lines their figures are computed from.
-/
import AccountingPlatform.Postgres.BookReads
import AccountingPlatform.Lib.Pages
import Mathlib.Data.Prod.Lex

namespace AccountingPlatform.Postgres

open AccountingPlatform.Lib AccountingPlatform.Core

variable (dep : Deployment)

/-! ## Receipts of hard closes -/

/-- A row of the list before it is printed. -/
structure PeriodCloseRow where
  snapshot : TrialBalanceSnapshot
  period : FiscalPeriod
  control : BookPeriodControl
  bookName : String
  legalEntityCode : String

/-- The joins of one snapshot. -/
def periodCloseRow (t : Tables) (snapshot : TrialBalanceSnapshot) : Option PeriodCloseRow := do
  let period ← t.period? snapshot.fiscalPeriodId
  let bookName ← bookName? dep snapshot.accountingBookId
  let control ← t.bookPeriodControls.find? fun control =>
    control.accountingBookId = snapshot.accountingBookId ∧
      control.fiscalPeriodId = snapshot.fiscalPeriodId
  let legalEntityCode ← legalEntityCode? dep snapshot.legalEntityId
  pure ⟨snapshot, period, control, bookName, legalEntityCode⟩

structure PeriodCloseEntry where
  tenantReference : String
  legalEntityReference : String
  accountingBookReference : String
  periodCode : String
  periodStatus : PeriodStatus
  snapshotRecordId : ℕ
  snapshotGeneratedAt : Timestamp
  sourceJournalCount : ℕ
  sourcePayloadHash : String
  deriving DecidableEq

def PeriodCloseRow.entry (row : PeriodCloseRow) : PeriodCloseEntry where
  tenantReference := dep.catalog.tenantReference
  legalEntityReference := row.legalEntityCode
  accountingBookReference := row.bookName
  periodCode := row.period.periodCode
  periodStatus := row.control.periodStatus
  snapshotRecordId := row.snapshot.trialBalanceSnapshotId
  snapshotGeneratedAt := row.snapshot.snapshotGeneratedAt
  sourceJournalCount := row.snapshot.sourceJournalCount
  sourcePayloadHash := row.snapshot.sourcePayloadHash

/-- `(snapshot_generated_at, trial_balance_snapshot_id)`. -/
def TrialBalanceSnapshot.closeKey (snapshot : TrialBalanceSnapshot) : Timestamp ×ₗ ℕ :=
  toLex (snapshot.snapshotGeneratedAt, snapshot.trialBalanceSnapshotId)

def PeriodCloseRow.key (row : PeriodCloseRow) : Timestamp ×ₗ ℕ := row.snapshot.closeKey

structure PeriodCloseList where
  tenantReference : String
  legalEntityReference : String
  periodCloses : List PeriodCloseEntry
  nextCursor : Option (Timestamp ×ₗ ℕ)
  fiscalPeriodReference : Option String
  periodStatusCode : Option String

/-- Snapshots of an entity, of one period if it is given. -/
def closesOf (t : Tables) (legalEntityId : ℕ) (fiscalPeriodId : Option ℕ) :
    List TrialBalanceSnapshot :=
  t.snapshots.filter fun snapshot => snapshot.legalEntityId = legalEntityId ∧
    ∀ id ∈ fiscalPeriodId, snapshot.fiscalPeriodId = id

/-- The period filter of the list. -/
def requestedPeriod (t : Tables) (periodCode : String) : Result (Option ℕ) :=
  if periodCode = "" then pure none
  else do
    let period ← requireFiscalPeriod dep t periodCode "the period-close list"
    pure (some period.fiscalPeriodId)

/-- `load_period_closes`. -/
def loadPeriodCloses (t : Tables) (legalEntityReference periodCode periodStatusCode : String)
    (pageLimit : ℕ) (cursorAfter : Option (Timestamp ×ₗ ℕ)) : Result PeriodCloseList := do
  let entity ← dep.loadLegalEntity legalEntityReference "the period-close list"
  let fiscalPeriodId ← requestedPeriod dep t periodCode
  let rows := ((closesOf t entity.legalEntityId fiscalPeriodId).filterMap
    (periodCloseRow dep t)).filter fun row =>
      periodStatusCode = "" ∨ row.control.periodStatus.code = periodStatusCode
  pure {
    tenantReference := dep.catalog.tenantReference
    legalEntityReference := legalEntityReference
    periodCloses := (page PeriodCloseRow.key pageLimit cursorAfter rows).map
      (PeriodCloseRow.entry dep)
    nextCursor := nextCursor PeriodCloseRow.key pageLimit cursorAfter rows
    fiscalPeriodReference := if periodCode = "" then none else some (fiscalPeriodReference periodCode)
    periodStatusCode := if periodStatusCode = "" then none else some periodStatusCode }

/-! ## Components of the package -/

/-- `load_fiscal_period`. -/
structure FiscalPeriodDocument where
  tenantReference : String
  legalEntityReference : String
  fiscalPeriodReference : String
  periodCode : String
  periodStatus : PeriodStatus
  periodStartDate : Date
  periodEndDate : Date
  deriving DecidableEq

def loadFiscalPeriod (t : Tables) (legalEntityReference periodCode : String) :
    Result FiscalPeriodDocument := do
  require (legalEntityReference ≠ "" ∧ periodCode ≠ "")
    (.validation ("legal_entity_reference and fiscal_period_reference are required. " ++
      "Supply those period fields, then retry the period read."))
  let _ ← dep.loadLegalEntity legalEntityReference "the period read"
  let period ← fetch (periodByCode dep t periodCode)
    (.validation ("Fiscal period " ++ periodCode ++ " is not recorded for this tenant. " ++
      "Create the fiscal_period row, then retry the period read."))
  pure ⟨dep.catalog.tenantReference, legalEntityReference, fiscalPeriodReference periodCode,
    periodCode, period.periodStatus, period.periodStartDate, period.periodEndDate⟩

/-- The references a document of a book and period carries. -/
structure ScopeHeader where
  tenantReference : String
  legalEntityReference : String
  accountingBookReference : String
  fiscalPeriodReference : String
  deriving DecidableEq

def TrialBalanceDocument.header (document : TrialBalanceDocument) : ScopeHeader :=
  ⟨document.tenantReference, document.legalEntityReference, document.accountingBookReference,
    document.fiscalPeriodReference⟩

def FinancialStatement.header (statement : FinancialStatement) : ScopeHeader :=
  ⟨statement.tenantReference, statement.legalEntityReference, statement.accountingBookReference,
    statement.fiscalPeriodReference⟩

structure Worksheet where
  header : ScopeHeader
  asOfDate : Date
  chartAccountCode : String
  /-- The lines the figures are computed from. -/
  lines : List LedgerLine

/-- Lines of a book that are not of closing journals. -/
def worksheetLines (t : Tables) (legalEntityId bookId : ℕ) (p : LedgerLine → Prop)
    [DecidablePred p] : List LedgerLine :=
  (bookLines dep t legalEntityId bookId).filter fun row =>
    ¬isClosingReference row.journal.journalReference ∧ p row

/-- `catalog_account_code` of an aging. -/
def catalogAccountCode (book : AccountingBook) (catalogRoleCode : String) : String :=
  ((dep.rowOrder ((dep.catalog.chartAccounts.filter fun account =>
      account.accountingBookId = book.accountingBookId ∧ account.isCurrent).flatMap fun account =>
    match dep.currentMappings account.chartAccountId with
    | [] => [(account.chartAccountCode, none)]
    | mappings => mappings.map fun m => (account.chartAccountCode, some m.accountRoleCode))).find?
      fun row => row.2 = some catalogRoleCode).map Prod.fst |>.getD ""

/-- `_load_account_aging` of the catalog account. -/
def loadAccountAging (t : Tables) (header : ScopeHeader) (periodCode catalogRoleCode readName : String) :
    Result Worksheet := do
  let (entity, book) ← dep.loadScope header.legalEntityReference header.accountingBookReference
    ("the " ++ readName ++ " read")
  let period ← requireFiscalPeriod dep t periodCode ("the " ++ readName ++ " read")
  requireAgedAccount dep book catalogRoleCode readName
  let code := catalogAccountCode dep book catalogRoleCode
  pure ⟨header, period.periodEndDate, code,
    worksheetLines dep t entity.legalEntityId book.accountingBookId fun row =>
      row.code = code ∧ row.journal.accountingDate ≤ period.periodEndDate⟩

/-- `load_unapplied_cash_rollforward`. -/
def loadUnappliedCashRollforward (t : Tables) (header : ScopeHeader) (periodCode : String) :
    Result Worksheet := do
  let (entity, book) ← dep.loadScope header.legalEntityReference header.accountingBookReference
    "the account-balance read"
  requireCatalogAccount dep book "210200" "unapplied-cash-rollforward"
  let period ← requireFiscalPeriod dep t periodCode "the unapplied-cash-rollforward read"
  let _ ← openingAccountSides dep t entity.legalEntityId book.accountingBookId "210200"
    period.periodStartDate
  pure ⟨header, period.periodEndDate, "210200",
    worksheetLines dep t entity.legalEntityId book.accountingBookId fun row =>
      period.periodStartDate ≤ row.journal.accountingDate ∧
        row.journal.accountingDate ≤ period.periodEndDate⟩

/-- `load_vat_period_register`. -/
def loadVatPeriodRegister (t : Tables) (header : ScopeHeader) (periodCode : String) :
    Result Worksheet := do
  let (entity, book) ← dep.loadScope header.legalEntityReference header.accountingBookReference
    "the account-balance read"
  requireCatalogAccount dep book "210100" "vat-period-register"
  let period ← requireFiscalPeriod dep t periodCode "the vat-period-register read"
  pure ⟨header, period.periodEndDate, "210100",
    worksheetLines dep t entity.legalEntityId book.accountingBookId fun row =>
      row.journal.accountingDate ≤ period.periodEndDate⟩

/-! ## The package -/

structure PeriodClosePackage where
  header : ScopeHeader
  fiscalPeriod : FiscalPeriodDocument
  trialBalance : TrialBalanceDocument
  incomeStatement : FinancialStatementDocument
  balanceSheet : FinancialStatementDocument
  changesInEquity : FinancialStatementDocument
  cashFlow : FinancialStatementDocument
  receivableAging : Worksheet
  payableAging : Worksheet
  unappliedCashRollforward : Worksheet
  vatPeriodRegister : Worksheet
  periodClose : Option PeriodCloseEntry

/-- `load_period_close_package`. -/
def loadPeriodClosePackage (t : Tables) (legalEntityReference bookReference periodCode
    comparisonPeriodCode statementScopeCode : String) : Result PeriodClosePackage := do
  let statement (statementTypeCode : String) := loadFinancialStatement dep t legalEntityReference
    bookReference periodCode statementTypeCode comparisonPeriodCode statementScopeCode
  let header : ScopeHeader := ⟨dep.catalog.tenantReference, legalEntityReference, bookReference,
    fiscalPeriodReference periodCode⟩
  let fiscalPeriod ← loadFiscalPeriod dep t legalEntityReference periodCode
  let trialBalance ← loadPeriodTrialBalance dep t legalEntityReference bookReference periodCode ""
  let incomeStatement ← statement "income_statement"
  let balanceSheet ← statement "balance_sheet"
  let changesInEquity ← statement "changes_in_equity"
  let cashFlow ← statement "cash_flow"
  let receivableAging ← loadAccountAging dep t header periodCode "accounts_receivable"
    "receivable-aging"
  let payableAging ← loadAccountAging dep t header periodCode "tax_payable" "payable-aging"
  let unappliedCashRollforward ← loadUnappliedCashRollforward dep t header periodCode
  let vatPeriodRegister ← loadVatPeriodRegister dep t header periodCode
  let closes ← loadPeriodCloses dep t legalEntityReference periodCode "" 50 none
  pure {
    header := trialBalance.header
    fiscalPeriod := fiscalPeriod
    trialBalance := trialBalance
    incomeStatement := incomeStatement
    balanceSheet := balanceSheet
    changesInEquity := changesInEquity
    cashFlow := cashFlow
    receivableAging := receivableAging
    payableAging := payableAging
    unappliedCashRollforward := unappliedCashRollforward
    vatPeriodRegister := vatPeriodRegister
    periodClose := closes.periodCloses.getLast? }

variable {dep}

/-! ## Snapshots come one after another -/

/-- Snapshots in the order they were generated. -/
def SnapshotsOrdered (t : Tables) : Prop :=
  t.snapshots.Pairwise fun s s' => s.snapshotGeneratedAt < s'.snapshotGeneratedAt

theorem snapshotsOrdered_effect {t t' : Tables} {command : Command} (h : WellFormed dep t)
    (hordered : SnapshotsOrdered t) (he : Effect dep t command t') : SnapshotsOrdered t' := by
  cases he with
  | idle commands _ => exact hordered
  | opened period commands hid hopen hcode => exact hordered
  | @posted _ _ _ t₁ hwritten _ _ =>
    show t₁.snapshots.Pairwise _
    rw [hwritten.snapshots]
    exact hordered
  | locked period hperiod _ _ => exact hordered
  | softClosed hclosable hopen _ evidence outbox => exact hordered
  | @hardClosed request entity book period control posted t₂ hclosable _ _ _ hposted hunique outbox =>
    obtain ⟨-, -, hsnapshots, hclock, -, -⟩ := hposted.keeps
    show (t₂.snapshots ++ [newSnapshot dep t₂ request entity book period]).Pairwise _
    rw [hsnapshots, List.pairwise_append]
    refine ⟨hordered, List.pairwise_singleton _ _, ?_⟩
    intro s hs s' hs'
    rw [List.mem_singleton.mp hs']
    show s.snapshotGeneratedAt < t₂.clock
    rw [hclock]
    exact h.snapshots.before s hs

theorem snapshotsOrdered_ledgerAfter (commands : List Command) :
    SnapshotsOrdered (ledgerAfter dep commands) := by
  have hstep : ∀ t command, WellFormed dep t ∧ SnapshotsOrdered t →
      WellFormed dep (execute dep t command) ∧ SnapshotsOrdered (execute dep t command) := by
    rintro t command ⟨h, hordered⟩
    refine ⟨wellFormed_execute h command, ?_⟩
    rcases execute_effect h command with ⟨-, heq⟩ | ⟨-, he⟩
    · rw [heq]
      exact hordered
    · exact snapshotsOrdered_effect h hordered he
  exact (run_monotone (P := fun t => WellFormed dep t ∧ SnapshotsOrdered t) hstep
    ⟨wellFormed_empty, List.Pairwise.nil⟩).2

/-- Snapshots have distinct places in the list of receipts. -/
theorem SnapshotsOrdered.closeKeys {t : Tables} (h : SnapshotsOrdered t) (legalEntityId : ℕ)
    (fiscalPeriodId : Option ℕ) :
    ((closesOf t legalEntityId fiscalPeriodId).map TrialBalanceSnapshot.closeKey).Nodup := by
  have hpairs : (closesOf t legalEntityId fiscalPeriodId).Pairwise
      fun s s' => s.snapshotGeneratedAt < s'.snapshotGeneratedAt := h.filter _
  apply List.pairwise_map.mpr
  refine hpairs.imp fun {s s'} hlt heq => ?_
  have hsame : s.snapshotGeneratedAt = s'.snapshotGeneratedAt :=
    congrArg (fun key => (ofLex key).1) heq
  exact absurd hsame (Nat.ne_of_lt hlt)

/-! ## Joined rows -/

/-- Every snapshot of a reachable state has its period, its book with its entity, and a
    hard-closed control row. -/
theorem WellFormed.periodCloseRow {t : Tables} (h : WellFormed dep t) {s : TrialBalanceSnapshot}
    (hs : s ∈ t.snapshots) :
    ∃ row, periodCloseRow dep t s = some row ∧ row.snapshot = s ∧
      t.period? s.fiscalPeriodId = some row.period ∧ row.control.periodStatus = .hardClosed ∧
      bookName? dep s.accountingBookId = some row.bookName ∧
      legalEntityCode? dep s.legalEntityId = some row.legalEntityCode := by
  obtain ⟨c, hc, hfor, hhard⟩ := h.snapshots.locked s hs
  obtain ⟨p, hp, hpid⟩ := h.controls.owned c hc
  obtain ⟨book, hbook, hbid, hble⟩ := h.snapshots.scope s hs
  obtain ⟨entity, hentity, heid⟩ := dep.catalog.book_entity book hbook
  have hperiod : t.period? s.fiscalPeriodId = some p := by
    rw [← hfor.2, ← hpid]
    exact h.period?_of_mem hp
  have hname : bookName? dep s.accountingBookId = some book.bookName := by
    rw [← hbid, bookName?, book?, find?_of_nodup_map dep.catalog.book_key hbook]
    rfl
  have hcode : legalEntityCode? dep s.legalEntityId = some entity.legalEntityCode := by
    rw [← hble, ← heid, legalEntityCode?, find?_of_nodup_map dep.catalog.legalEntity_key hentity]
    rfl
  have hcontrol := find_control h.controls.unique hc hfor
  refine ⟨⟨s, p, c, book.bookName, entity.legalEntityCode⟩, ?_, rfl, hperiod, hhard, hname, hcode⟩
  simp only [Postgres.periodCloseRow, hperiod, hname, hcode, hcontrol]
  rfl

/-- The unfiltered list has one row for each snapshot, all of them hard-closed. -/
theorem WellFormed.closeRows {t : Tables} (h : WellFormed dep t) {snapshots : List TrialBalanceSnapshot}
    (hsub : ∀ s ∈ snapshots, s ∈ t.snapshots) :
    ((snapshots.filterMap (Postgres.periodCloseRow dep t)).map PeriodCloseRow.snapshot) =
      snapshots := by
  induction snapshots with
  | nil => rfl
  | cons s snapshots ih =>
    obtain ⟨row, hrow, hsnapshot, -⟩ := h.periodCloseRow (hsub s List.mem_cons_self)
    rw [List.filterMap_cons_some hrow, List.map_cons, hsnapshot,
      ih fun s' hs' => hsub s' (List.mem_cons_of_mem s hs')]

/-! ## The receipt of a package -/

/-- The snapshot is the last one on the first page of its entity's receipts of the period. -/
def EndsFirstPage (t : Tables) (legalEntityId fiscalPeriodId : ℕ) (s : TrialBalanceSnapshot) :
    Prop :=
  let closes := closesOf t legalEntityId (some fiscalPeriodId)
  s ∈ closes ∧ (closes.filter fun other => other.closeKey < s.closeKey).length < 50 ∧
    ((∀ other ∈ closes, ¬s.closeKey < other.closeKey) ∨
      (closes.filter fun other => other.closeKey < s.closeKey).length + 1 = 50)

instance (t : Tables) (legalEntityId fiscalPeriodId : ℕ) (s : TrialBalanceSnapshot) :
    Decidable (EndsFirstPage t legalEntityId fiscalPeriodId s) :=
  inferInstanceAs (Decidable (_ ∧ _ ∧ (_ ∨ _)))

theorem mem_closesOf {t : Tables} {legalEntityId fiscalPeriodId : ℕ} {s : TrialBalanceSnapshot} :
    s ∈ closesOf t legalEntityId (some fiscalPeriodId) ↔ s ∈ t.snapshots ∧
      s.legalEntityId = legalEntityId ∧ s.fiscalPeriodId = fiscalPeriodId := by
  simp [closesOf]

/-- The list a package takes its receipt from. -/
theorem loadPeriodCloses_ok {t : Tables} {legalEntityReference periodCode : String}
    {closes : PeriodCloseList} (hgiven : periodCode ≠ "")
    (h : loadPeriodCloses dep t legalEntityReference periodCode "" 50 none = .ok closes) :
    ∃ entity period, dep.loadLegalEntity legalEntityReference "the period-close list" = .ok entity ∧
      periodByCode dep t periodCode = some period ∧
      closes.periodCloses = (page PeriodCloseRow.key 50 none
        ((closesOf t entity.legalEntityId (some period.fiscalPeriodId)).filterMap
          (periodCloseRow dep t))).map (PeriodCloseRow.entry dep) := by
  simp only [loadPeriodCloses, requestedPeriod, if_neg hgiven, requireFiscalPeriod, bind_eq_ok,
    fetch_eq_ok, pure_eq_ok] at h
  obtain ⟨entity, hentity, _, ⟨period, hperiod, rfl⟩, rfl⟩ := h
  refine ⟨entity, period, hentity, hperiod, ?_⟩
  simp only [true_or, decide_true, List.filter_true]

/-- The last receipt of the first page is that of the snapshot that ends it. -/
theorem WellFormed.lastClose {t : Tables} (h : WellFormed dep t) (hordered : SnapshotsOrdered t)
    {legalEntityId fiscalPeriodId : ℕ} {row : PeriodCloseRow} :
    (page PeriodCloseRow.key 50 none ((closesOf t legalEntityId (some fiscalPeriodId)).filterMap
      (Postgres.periodCloseRow dep t))).getLast? = some row ↔
      Postgres.periodCloseRow dep t row.snapshot = some row ∧
        EndsFirstPage t legalEntityId fiscalPeriodId row.snapshot := by
  have hsub : ∀ s ∈ closesOf t legalEntityId (some fiscalPeriodId), s ∈ t.snapshots := fun s hs =>
    (mem_closesOf.mp hs).1
  have hmap := h.closeRows hsub
  generalize hrows : (closesOf t legalEntityId (some fiscalPeriodId)).filterMap
    (Postgres.periodCloseRow dep t) = rows at hmap ⊢
  have hkeys : (rows.map PeriodCloseRow.key).Nodup := by
    have hclose := hordered.closeKeys legalEntityId (some fiscalPeriodId)
    rw [← hmap, List.map_map] at hclose
    exact hclose
  have hcount : (rows.filter fun r => PeriodCloseRow.key r < row.key).length =
      ((closesOf t legalEntityId (some fiscalPeriodId)).filter fun other =>
        other.closeKey < row.snapshot.closeKey).length := by
    rw [← hmap, List.filter_map, List.length_map]
    rfl
  have hlater : (∀ r ∈ rows, ¬row.key < PeriodCloseRow.key r) ↔
      ∀ other ∈ closesOf t legalEntityId (some fiscalPeriodId),
        ¬row.snapshot.closeKey < other.closeKey := by
    rw [← hmap, List.forall_mem_map]
    rfl
  have hmem : row ∈ rows ↔ Postgres.periodCloseRow dep t row.snapshot = some row ∧
      row.snapshot ∈ closesOf t legalEntityId (some fiscalPeriodId) := by
    rw [← hrows, List.mem_filterMap]
    constructor
    · rintro ⟨s, hs, hrow⟩
      obtain ⟨row', hrow', hsnapshot, -⟩ := h.periodCloseRow (hsub s hs)
      rw [hrow] at hrow'
      cases hrow'
      rw [hsnapshot]
      exact ⟨hrow, hs⟩
    · rintro ⟨hrow, hs⟩
      exact ⟨row.snapshot, hs, hrow⟩
  rw [getLast?_page_iff hkeys, hcount, hlater, hmem, and_assoc]
  rfl

/-! ## One scope -/

def PeriodClosePackage.worksheets (package : PeriodClosePackage) : List Worksheet :=
  [package.receivableAging, package.payableAging, package.unappliedCashRollforward,
    package.vatPeriodRegister]

def PeriodClosePackage.statements (package : PeriodClosePackage) : List FinancialStatementDocument :=
  [package.incomeStatement, package.balanceSheet, package.changesInEquity, package.cashFlow]

/-- References of all documents that carry a book. -/
def PeriodClosePackage.headers (package : PeriodClosePackage) : List ScopeHeader :=
  package.header :: package.trialBalance.header ::
    package.statements.map (fun document => document.statement.header) ++
      package.worksheets.map Worksheet.header

/-- The hard-close receipt of a snapshot. -/
def closeReceiptEntry (header : ScopeHeader) (periodCode : String) (s : TrialBalanceSnapshot) :
    PeriodCloseEntry :=
  ⟨header.tenantReference, header.legalEntityReference, header.accountingBookReference, periodCode,
    .hardClosed, s.trialBalanceSnapshotId, s.snapshotGeneratedAt, s.sourceJournalCount,
    s.sourcePayloadHash⟩

/-- Every component describes the one entity, book and period. -/
structure PeriodClosePackage.Coherent (t : Tables) (header : ScopeHeader)
    (entity : LegalEntityRecord) (book : AccountingBook) (period : FiscalPeriod)
    (package : PeriodClosePackage) : Prop where
  headers : ∀ h ∈ package.headers, h = header
  fiscalPeriod : package.fiscalPeriod = ⟨header.tenantReference, header.legalEntityReference,
    header.fiscalPeriodReference, period.periodCode, period.periodStatus, period.periodStartDate,
    period.periodEndDate⟩
  worksheets : ∀ worksheet ∈ package.worksheets, ∀ row ∈ worksheet.lines,
    row.journal.legalEntityId = entity.legalEntityId ∧
      row.journal.accountingBookId = book.accountingBookId
  trialBalance : ∀ id ∈ package.trialBalance.snapshotRecordId, ∃ s,
    latestCloseSnapshot t entity.legalEntityId book.accountingBookId period.fiscalPeriodId = some s ∧
      s.trialBalanceSnapshotId = id
  /-- `None` exactly when the book has no snapshot of the period. -/
  periodClose : package.periodClose =
    (latestCloseSnapshot t entity.legalEntityId book.accountingBookId period.fiscalPeriodId).map
      (closeReceiptEntry header period.periodCode)
  snapshot : ∀ id ∈ package.trialBalance.snapshotRecordId, ∃ entry ∈ package.periodClose,
    entry.snapshotRecordId = id

/-- The entity has no receipts of the period, or the first page of them ends with the book's. -/
def ReceiptShown (t : Tables) (legalEntityId bookId fiscalPeriodId : ℕ) : Prop :=
  closesOf t legalEntityId (some fiscalPeriodId) = [] ∨
    ∃ s ∈ t.snapshots, s.accountingBookId = bookId ∧ EndsFirstPage t legalEntityId fiscalPeriodId s

instance (t : Tables) (legalEntityId bookId fiscalPeriodId : ℕ) :
    Decidable (ReceiptShown t legalEntityId bookId fiscalPeriodId) :=
  inferInstanceAs (Decidable (_ ∨ ∃ s ∈ t.snapshots, _ ∧ _))

variable (dep) in
/-- What a package that was loaded is made of. -/
structure PackageRead (t : Tables) (header : ScopeHeader) (entity : LegalEntityRecord)
    (book : AccountingBook) (period : FiscalPeriod) (package : PeriodClosePackage) : Prop where
  entity_eq : dep.loadLegalEntity header.legalEntityReference "the period-close list" = .ok entity
  book_mem : book ∈ dep.catalog.books
  book_entity : book.legalEntityId = entity.legalEntityId
  book_name : book.bookName = header.accountingBookReference
  period_eq : periodByCode dep t period.periodCode = some period
  headers : ∀ h ∈ package.headers, h = header
  fiscalPeriod : package.fiscalPeriod = ⟨header.tenantReference, header.legalEntityReference,
    header.fiscalPeriodReference, period.periodCode, period.periodStatus, period.periodStartDate,
    period.periodEndDate⟩
  worksheets : ∀ worksheet ∈ package.worksheets, ∀ row ∈ worksheet.lines,
    row.journal.legalEntityId = entity.legalEntityId ∧
      row.journal.accountingBookId = book.accountingBookId
  trialBalance : package.trialBalance.snapshotRecordId = none ∨ ∃ s,
    latestCloseSnapshot t entity.legalEntityId book.accountingBookId period.fiscalPeriodId = some s ∧
      package.trialBalance.snapshotRecordId = some s.trialBalanceSnapshotId
  periodClose : package.periodClose = ((page PeriodCloseRow.key 50 none
    ((closesOf t entity.legalEntityId (some period.fiscalPeriodId)).filterMap
      (periodCloseRow dep t))).getLast?).map (PeriodCloseRow.entry dep)

theorem loadFiscalPeriod_ok {t : Tables} {legalEntityReference periodCode : String}
    {document : FiscalPeriodDocument}
    (h : loadFiscalPeriod dep t legalEntityReference periodCode = .ok document) :
    periodCode ≠ "" ∧ ∃ period, periodByCode dep t periodCode = some period ∧
      document = ⟨dep.catalog.tenantReference, legalEntityReference,
        fiscalPeriodReference periodCode, periodCode, period.periodStatus, period.periodStartDate,
        period.periodEndDate⟩ := by
  simp only [loadFiscalPeriod, bind_eq_ok, require_eq_ok, fetch_eq_ok, pure_eq_ok] at h
  obtain ⟨_, ⟨-, hcode⟩, -, -, period, hperiod, rfl⟩ := h
  exact ⟨hcode, period, hperiod, rfl⟩

/-- Header and snapshot of a trial balance without a basis. -/
theorem loadPeriodTrialBalance_snapshot {t : Tables}
    {legalEntityReference accountingBookReference periodCode : String} {period : FiscalPeriod}
    {document : TrialBalanceDocument} (hperiod : periodByCode dep t periodCode = some period)
    (h : loadPeriodTrialBalance dep t legalEntityReference accountingBookReference periodCode "" =
      .ok document) :
    document.header = ⟨dep.catalog.tenantReference, legalEntityReference, accountingBookReference,
      fiscalPeriodReference periodCode⟩ ∧
    ∃ entity book, dep.loadScope legalEntityReference accountingBookReference
        "the trial-balance read" = .ok (entity, book) ∧
      (document.snapshotRecordId = none ∨ ∃ s, latestCloseSnapshot t entity.legalEntityId
        book.accountingBookId period.fiscalPeriodId = some s ∧
          document.snapshotRecordId = some s.trialBalanceSnapshotId) := by
  simp only [loadPeriodTrialBalance, requireFiscalPeriod, hperiod, bind_eq_ok, fetch_eq_ok,
    pure_eq_ok] at h
  obtain ⟨-, -, -, -, -, -, -, -, ⟨entity, book⟩, hscope, period', hperiod', ⟨rows, source, id⟩,
    hlines, rfl⟩ := h
  cases hperiod'
  refine ⟨rfl, entity, book, hscope, ?_⟩
  show id = none ∨ ∃ s : TrialBalanceSnapshot, _ ∧ id = some s.trialBalanceSnapshotId
  unfold trialBalanceLines at hlines
  rw [if_neg (by decide), if_neg (by decide), if_neg (by decide)] at hlines
  split at hlines
  · simp only [bind_eq_ok, fetch_eq_ok, pure_eq_ok, Prod.mk.injEq] at hlines
    obtain ⟨s, hs, -, -, hid⟩ := hlines
    exact Or.inr ⟨s, hs, hid.symm⟩
  · simp only [pure_eq_ok, Prod.mk.injEq] at hlines
    exact Or.inl hlines.2.2.symm

theorem loadFinancialStatement_header {t : Tables}
    {legalEntityReference accountingBookReference periodCode statementTypeCode
      comparisonPeriodCode statementScopeCode : String} {document : FinancialStatementDocument}
    (h : loadFinancialStatement dep t legalEntityReference accountingBookReference periodCode
      statementTypeCode comparisonPeriodCode statementScopeCode = .ok document) :
    document.statement.header = ⟨dep.catalog.tenantReference, legalEntityReference,
      accountingBookReference, fiscalPeriodReference periodCode⟩ := by
  have hstatement : ∃ statement, loadStatement dep t legalEntityReference accountingBookReference
      periodCode statementTypeCode statementScopeCode = .ok statement ∧
        document.statement = statement := by
    simp only [loadFinancialStatement, bind_eq_ok] at h
    obtain ⟨statement, hstatement, h⟩ := h
    split at h
    · exact ⟨statement, hstatement, by rw [← pure_eq_ok.mp h]⟩
    · simp only [bind_eq_ok, pure_eq_ok] at h
      obtain ⟨_, _, rfl⟩ := h
      exact ⟨statement, hstatement, rfl⟩
  obtain ⟨statement, hload, rfl⟩ := hstatement
  simp only [loadStatement, bind_eq_ok, pure_eq_ok] at hload
  obtain ⟨-, -, _, -, trialBalance, htrial, _, -, _, -, _, -, hstatement⟩ := hload
  have hreference : trialBalance.fiscalPeriodReference = fiscalPeriodReference periodCode := by
    simp only [loadPeriodTrialBalance, bind_eq_ok, pure_eq_ok] at htrial
    obtain ⟨-, -, -, -, -, -, -, -, _, -, _, -, _, -, rfl⟩ := htrial
    rfl
  rw [← hstatement]
  show (⟨_, _, _, trialBalance.fiscalPeriodReference⟩ : ScopeHeader) = _
  rw [hreference]

/-- The lines of a worksheet are lines of its book. -/
theorem worksheetLines_scope {t : Tables} {legalEntityId bookId : ℕ} {p : LedgerLine → Prop}
    [DecidablePred p] {row : LedgerLine} (h : row ∈ worksheetLines dep t legalEntityId bookId p) :
    row.journal.legalEntityId = legalEntityId ∧ row.journal.accountingBookId = bookId := by
  obtain ⟨hmem, -⟩ := List.mem_filter.mp h
  exact (mem_bookLines hmem).2

/-- A worksheet that was loaded for a scope: its header and the book of its lines. -/
theorem loadWorksheet_ok {t : Tables} {header : ScopeHeader} {periodCode : String}
    {entity : LegalEntityRecord} {book : AccountingBook}
    (hscope : dep.loadScope header.legalEntityReference header.accountingBookReference
      "the trial-balance read" = .ok (entity, book)) {worksheet : Worksheet}
    (h : (∃ role readName, loadAccountAging dep t header periodCode role readName = .ok worksheet) ∨
      loadUnappliedCashRollforward dep t header periodCode = .ok worksheet ∨
      loadVatPeriodRegister dep t header periodCode = .ok worksheet) :
    worksheet.header = header ∧ ∀ row ∈ worksheet.lines,
      row.journal.legalEntityId = entity.legalEntityId ∧
        row.journal.accountingBookId = book.accountingBookId := by
  rcases h with ⟨role, readName, h⟩ | h | h
  · simp only [loadAccountAging, bind_eq_ok, pure_eq_ok] at h
    obtain ⟨scope, hscope', -, -, -, -, rfl⟩ := h
    rw [loadScope_congr hscope] at hscope'
    cases hscope'
    exact ⟨rfl, fun row hrow => worksheetLines_scope hrow⟩
  · simp only [loadUnappliedCashRollforward, bind_eq_ok, pure_eq_ok] at h
    obtain ⟨scope, hscope', -, -, -, -, -, -, rfl⟩ := h
    rw [loadScope_congr hscope] at hscope'
    cases hscope'
    exact ⟨rfl, fun row hrow => worksheetLines_scope hrow⟩
  · simp only [loadVatPeriodRegister, bind_eq_ok, pure_eq_ok] at h
    obtain ⟨scope, hscope', -, -, -, -, rfl⟩ := h
    rw [loadScope_congr hscope] at hscope'
    cases hscope'
    exact ⟨rfl, fun row hrow => worksheetLines_scope hrow⟩

theorem loadPeriodClosePackage_ok {t : Tables} {legalEntityReference bookReference periodCode
    comparisonPeriodCode statementScopeCode : String} {package : PeriodClosePackage}
    (h : loadPeriodClosePackage dep t legalEntityReference bookReference periodCode
      comparisonPeriodCode statementScopeCode = .ok package) :
    ∃ entity book period, dep.loadScope legalEntityReference bookReference
        "the trial-balance read" = .ok (entity, book) ∧
      periodByCode dep t periodCode = some period ∧
      PackageRead dep t ⟨dep.catalog.tenantReference, legalEntityReference, bookReference,
        fiscalPeriodReference periodCode⟩ entity book period package := by
  simp only [loadPeriodClosePackage, bind_eq_ok, pure_eq_ok] at h
  obtain ⟨fiscalPeriod, hfiscal, trialBalance, htrial, income, hincome, sheet, hsheet, equity,
    hequity, cash, hcash, receivable, hreceivable, payable, hpayable, unapplied, hunapplied, vat,
    hvat, closes, hcloses, rfl⟩ := h
  obtain ⟨hgiven, period, hperiod, rfl⟩ := loadFiscalPeriod_ok hfiscal
  obtain ⟨hheader, entity, book, hscope, hsnapshot⟩ := loadPeriodTrialBalance_snapshot hperiod htrial
  obtain ⟨hentity, -, hbook, hbookEntity, hname, -⟩ := dep.loadScope_ok hscope
  obtain ⟨entity', period', hentity', hperiod', hlist⟩ := loadPeriodCloses_ok hgiven hcloses
  have hsame : entity' = entity := by
    simp only [Deployment.loadLegalEntity, fetch_eq_ok] at hentity hentity'
    exact Option.some.inj (hentity'.symm.trans hentity)
  obtain rfl : period' = period := Option.some.inj (hperiod'.symm.trans hperiod)
  subst hsame
  have hcode : period'.periodCode = periodCode := (periodByCode_mem dep hperiod).2
  have hr := loadWorksheet_ok hscope (Or.inl ⟨_, _, hreceivable⟩)
  have hp := loadWorksheet_ok hscope (Or.inl ⟨_, _, hpayable⟩)
  have hu := loadWorksheet_ok hscope (Or.inr (Or.inl hunapplied))
  have hv := loadWorksheet_ok hscope (Or.inr (Or.inr hvat))
  refine ⟨entity', book, period', hscope, hperiod, hentity', hbook, hbookEntity, hname, ?_, ?_, ?_,
    ?_, hsnapshot, ?_⟩
  · rw [hcode]
    exact hperiod
  · simp only [PeriodClosePackage.headers, PeriodClosePackage.statements,
      PeriodClosePackage.worksheets, hheader, loadFinancialStatement_header hincome,
      loadFinancialStatement_header hsheet, loadFinancialStatement_header hequity,
      loadFinancialStatement_header hcash, hr.1, hp.1, hu.1, hv.1, List.map_cons, List.map_nil]
    simp
  · rw [hcode]
  · simp only [PeriodClosePackage.worksheets, List.forall_mem_cons]
    exact ⟨hr.2, hp.2, hu.2, hv.2, by simp⟩
  · show closes.periodCloses.getLast? = _
    rw [hlist, List.getLast?_map]

/-- The receipt of the book's own snapshot, as the list prints it. -/
theorem PackageRead.entry_eq {t : Tables} (h : WellFormed dep t) {header : ScopeHeader}
    (htenant : header.tenantReference = dep.catalog.tenantReference) {entity : LegalEntityRecord}
    {book : AccountingBook} {period : FiscalPeriod} {package : PeriodClosePackage}
    (hread : PackageRead dep t header entity book period package) {row : PeriodCloseRow}
    (hrow : periodCloseRow dep t row.snapshot = some row) (hs : row.snapshot ∈ t.snapshots)
    (hbook : row.snapshot.accountingBookId = book.accountingBookId)
    (hentity : row.snapshot.legalEntityId = entity.legalEntityId)
    (hperiod : row.snapshot.fiscalPeriodId = period.fiscalPeriodId) :
    row.entry dep = closeReceiptEntry header period.periodCode row.snapshot := by
  obtain ⟨row', hrow', -, hrowPeriod, hhard, hname, hcode⟩ := h.periodCloseRow hs
  rw [hrow] at hrow'
  cases hrow'
  have hentityMem := dep.fetchone_mem (fetch_eq_ok.mp hread.entity_eq)
  simp only [List.mem_filter, decide_eq_true_eq] at hentityMem
  rw [hperiod, h.period?_of_mem (periodByCode_mem dep hread.period_eq).1] at hrowPeriod
  rw [hbook, bookName?, book?, find?_of_nodup_map dep.catalog.book_key hread.book_mem] at hname
  rw [hentity, legalEntityCode?, find?_of_nodup_map dep.catalog.legalEntity_key hentityMem.1] at hcode
  simp only [PeriodCloseRow.entry, closeReceiptEntry, htenant, hhard, ← Option.some.inj hrowPeriod,
    ← Option.some.inj hname, ← Option.some.inj hcode, hread.book_name, hentityMem.2.1]

/-- Two snapshots generated at the same time are one. -/
theorem SnapshotsOrdered.eq_of_generatedAt {t : Tables} (h : SnapshotsOrdered t)
    {s s' : TrialBalanceSnapshot} (hs : s ∈ t.snapshots) (hs' : s' ∈ t.snapshots)
    (heq : s.snapshotGeneratedAt = s'.snapshotGeneratedAt) : s = s' := by
  have hkeys : (t.snapshots.map TrialBalanceSnapshot.snapshotGeneratedAt).Nodup :=
    List.pairwise_map.mpr (h.imp fun hlt => Nat.ne_of_lt hlt)
  exact List.inj_on_of_nodup_map hkeys hs hs' heq

/-- The package is coherent exactly when the first page of the entity's receipts of the period
    ends with the book's own, or there are none. -/
theorem PackageRead.coherent_iff {t : Tables} (h : WellFormed dep t) (hordered : SnapshotsOrdered t)
    {header : ScopeHeader} (htenant : header.tenantReference = dep.catalog.tenantReference)
    {entity : LegalEntityRecord} {book : AccountingBook} {period : FiscalPeriod}
    {package : PeriodClosePackage} (hread : PackageRead dep t header entity book period package) :
    package.Coherent t header entity book period ↔
      ReceiptShown t entity.legalEntityId book.accountingBookId period.fiscalPeriodId := by
  have hclose := hread.periodClose
  constructor
  · intro hcoherent
    by_cases hnone : closesOf t entity.legalEntityId (some period.fiscalPeriodId) = []
    · exact Or.inl hnone
    · right
      cases hlast : (page PeriodCloseRow.key 50 none ((closesOf t entity.legalEntityId
          (some period.fiscalPeriodId)).filterMap (periodCloseRow dep t))).getLast? with
      | none =>
        rw [List.getLast?_eq_none_iff, page_eq_nil_iff (by decide)] at hlast
        have hsub : ∀ s ∈ closesOf t entity.legalEntityId (some period.fiscalPeriodId),
            s ∈ t.snapshots := fun s hs => (mem_closesOf.mp hs).1
        have hempty := h.closeRows hsub
        rw [hlast] at hempty
        exact absurd hempty.symm hnone
      | some row =>
        obtain ⟨hrow, hends⟩ := (h.lastClose hordered).mp hlast
        obtain ⟨hs, -, -⟩ := mem_closesOf.mp hends.1
        refine ⟨row.snapshot, hs, ?_, hends⟩
        -- the receipt is that of the book's snapshot, so it was generated with it
        rw [hlast, hcoherent.periodClose] at hclose
        cases hlatest : latestCloseSnapshot t entity.legalEntityId book.accountingBookId
            period.fiscalPeriodId with
        | none =>
          rw [hlatest] at hclose
          cases hclose
        | some s =>
          rw [hlatest] at hclose
          obtain ⟨hmem, -, hbook, -⟩ := mem_of_latestCloseSnapshot hlatest
          have hgenerated : s.snapshotGeneratedAt = row.snapshot.snapshotGeneratedAt :=
            congrArg PeriodCloseEntry.snapshotGeneratedAt (Option.some.inj hclose)
          rw [← hordered.eq_of_generatedAt hmem hs hgenerated]
          exact hbook
  · intro hshown
    have hperiodClose : package.periodClose = (latestCloseSnapshot t entity.legalEntityId
        book.accountingBookId period.fiscalPeriodId).map
          (closeReceiptEntry header period.periodCode) := by
      rcases hshown with hnone | ⟨s, hs, hbook, hends⟩
      · have hlatest : latestCloseSnapshot t entity.legalEntityId book.accountingBookId
            period.fiscalPeriodId = none := by
          by_contra hsome
          obtain ⟨s, hlatest⟩ := Option.ne_none_iff_exists'.mp hsome
          obtain ⟨hmem, hle, -, hid⟩ := mem_of_latestCloseSnapshot hlatest
          have hin := mem_closesOf.mpr ⟨hmem, hle, hid⟩
          rw [hnone] at hin
          cases hin
        rw [hclose, hnone, hlatest]
        rfl
      · obtain ⟨row, hrow, rfl, -⟩ := h.periodCloseRow hs
        obtain ⟨-, hle, hid⟩ := mem_closesOf.mp hends.1
        have hlatest := latestCloseSnapshot_eq h hs
        rw [hle, hbook, hid] at hlatest
        rw [hclose, (h.lastClose hordered).mpr ⟨hrow, hends⟩, hlatest, Option.map_some,
          Option.map_some, hread.entry_eq h htenant hrow hs hbook hle hid]
    constructor
    · exact hread.headers
    · exact hread.fiscalPeriod
    · exact hread.worksheets
    · intro id hid
      rcases hread.trialBalance with hnone | ⟨s, hlatest, hsnapshot⟩
      · rw [hnone] at hid
        cases hid
      · rw [hsnapshot] at hid
        cases hid
        exact ⟨s, hlatest, rfl⟩
    · exact hperiodClose
    · intro id hid
      rcases hread.trialBalance with hnone | ⟨s, hlatest, hsnapshot⟩
      · rw [hnone] at hid
        cases hid
      · rw [hsnapshot] at hid
        cases hid
        rw [hperiodClose, hlatest]
        exact ⟨_, rfl, rfl⟩

/-- For every reachable state and every package that can be loaded. -/
theorem closePackage_coherent_iff (dep : Deployment) (commands : List Command)
    (legalEntityReference bookReference periodCode comparisonPeriodCode statementScopeCode : String)
    (package : PeriodClosePackage)
    (h : loadPeriodClosePackage dep (ledgerAfter dep commands) legalEntityReference bookReference
      periodCode comparisonPeriodCode statementScopeCode = .ok package) :
    ∃ entity book period, dep.loadScope legalEntityReference bookReference
        "the trial-balance read" = .ok (entity, book) ∧
      periodByCode dep (ledgerAfter dep commands) periodCode = some period ∧
      (package.Coherent (ledgerAfter dep commands) ⟨dep.catalog.tenantReference,
          legalEntityReference, bookReference, fiscalPeriodReference periodCode⟩ entity book period ↔
        ReceiptShown (ledgerAfter dep commands) entity.legalEntityId book.accountingBookId
          period.fiscalPeriodId) := by
  obtain ⟨entity, book, period, hscope, hperiod, hread⟩ := loadPeriodClosePackage_ok h
  exact ⟨entity, book, period, hscope, hperiod,
    hread.coherent_iff (wellFormed_ledgerAfter commands) (snapshotsOrdered_ledgerAfter commands) rfl⟩

/-- A single book finds its own receipt. -/
theorem singleBook_package_coherent :
    let dep := sampleDeployment sampleCatalog
    let t := ledgerAfter dep closeJanuaryCommands
    ∃ package period, loadPeriodClosePackage dep t "urn:cwl:legal_entity:e1" "urn:cwl:book:b1"
        "2024-01" "" "" = .ok package ∧ periodByCode dep t "2024-01" = some period ∧
      package.Coherent t ⟨"urn:cwl:tenant:t1", "urn:cwl:legal_entity:e1", "urn:cwl:book:b1",
        fiscalPeriodReference "2024-01"⟩ sampleEntity sampleBook period := by
  intro dep t
  have hrun : Succeeds (loadPeriodClosePackage dep t "urn:cwl:legal_entity:e1" "urn:cwl:book:b1"
        "2024-01" "" "") ∧
      dep.loadScope "urn:cwl:legal_entity:e1" "urn:cwl:book:b1" "the trial-balance read" =
        .ok (sampleEntity, sampleBook) ∧
      ∀ period ∈ periodByCode dep t "2024-01", ReceiptShown t 1 1 period.fiscalPeriodId := by
    decide +kernel
  obtain ⟨⟨package, hload⟩, hscope, hshown⟩ := hrun
  obtain ⟨entity, book, period, hscope', hperiod, hiff⟩ := closePackage_coherent_iff dep
    closeJanuaryCommands "urn:cwl:legal_entity:e1" "urn:cwl:book:b1" "2024-01" "" "" package hload
  rw [hscope] at hscope'
  cases hscope'
  exact ⟨package, period, hload, hperiod, hiff.mpr (hshown period hperiod)⟩

/-- January is opened and both books close it, the first one first. -/
def closeTwinsCommands : List Command := [
  samplePeriod "2024-01" "open-1" 738886 738916,
  sampleClose "urn:cwl:book:b1" "2024-01" "hard_closed",
  sampleClose "urn:cwl:book:b2" "2024-01" "hard_closed"]

/-- The package of the first book carries the receipt of the second. -/
theorem siblingReceipt_in_package :
    let dep := sampleDeployment twinCatalog
    let t := ledgerAfter dep closeTwinsCommands
    ∃ package period, loadPeriodClosePackage dep t "urn:cwl:legal_entity:e1" "urn:cwl:book:b1"
        "2024-01" "" "" = .ok package ∧ periodByCode dep t "2024-01" = some period ∧
      dep.loadScope "urn:cwl:legal_entity:e1" "urn:cwl:book:b1" "the trial-balance read" =
        .ok (sampleEntity, sampleBook) ∧
      package.periodClose.map PeriodCloseEntry.accountingBookReference = some "urn:cwl:book:b2" ∧
      ¬package.Coherent t ⟨"urn:cwl:tenant:t1", "urn:cwl:legal_entity:e1", "urn:cwl:book:b1",
        fiscalPeriodReference "2024-01"⟩ sampleEntity sampleBook period := by
  intro dep t
  have hrun : (loadPeriodClosePackage dep t "urn:cwl:legal_entity:e1" "urn:cwl:book:b1" "2024-01"
        "" "").map (fun package => package.periodClose.map PeriodCloseEntry.accountingBookReference) =
          .ok (some "urn:cwl:book:b2") ∧
      (periodByCode dep t "2024-01").isSome = true ∧
      dep.loadScope "urn:cwl:legal_entity:e1" "urn:cwl:book:b1" "the trial-balance read" =
        .ok (sampleEntity, sampleBook) := by
    decide +kernel
  obtain ⟨hload, hperiod, hscope⟩ := hrun
  obtain ⟨package, hload, hbook⟩ := map_eq_ok.mp hload
  obtain ⟨period, hperiod⟩ := Option.isSome_iff_exists.mp hperiod
  refine ⟨package, period, hload, hperiod, hscope, hbook, fun hcoherent => ?_⟩
  rw [hcoherent.periodClose, Option.map_map] at hbook
  obtain ⟨s, -, hname⟩ := Option.map_eq_some_iff.mp hbook
  have hsame : "urn:cwl:book:b1" = "urn:cwl:book:b2" := hname
  exact absurd hsame (by decide +kernel)

end AccountingPlatform.Postgres
