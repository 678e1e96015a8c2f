/-
  Trial balances, account balances and the account rollforward.

  Sums of a query are exact; sums in the application are `Decimal` additions. The tables hold
  at most 38 digits an amount, so the overflow trap of the context is out of reach here and
  only the rounding is modelled.
-/
import AccountingPlatform.Postgres.Reversal

namespace AccountingPlatform.Postgres

open AccountingPlatform.Lib AccountingPlatform.Core

variable (dep : Deployment)

/-! ## The population of a report -/

/-- Journals of one entity and book. -/
def bookJournals (t : Tables) (legalEntityId bookId : ℕ) : List GeneralJournal :=
  t.journals.filter fun journal =>
    journal.legalEntityId = legalEntityId ∧ journal.accountingBookId = bookId

/-- A line joined with its journal and its account. -/
structure LedgerLine where
  journal : GeneralJournal
  line : JournalEntryLine
  account : ChartAccount
  deriving DecidableEq

def LedgerLine.debit (row : LedgerLine) : ℕ := row.line.debitAmount
def LedgerLine.credit (row : LedgerLine) : ℕ := row.line.creditAmount
def LedgerLine.code (row : LedgerLine) : String := row.account.chartAccountCode

/-- The join of `journal_entry_line`, `general_journal` and `chart_account`. -/
def ledgerLines (journals : List GeneralJournal) : List LedgerLine :=
  journals.flatMap fun journal => journal.lines.filterMap fun line =>
    (dep.chartAccount? line.chartAccountId).map fun account => ⟨journal, line, account⟩

/-- Lines of a book dated on or before a day. -/
def linesThrough (t : Tables) (legalEntityId bookId : ℕ) (throughDate : Date) : List LedgerLine :=
  ledgerLines dep ((bookJournals t legalEntityId bookId).filter fun journal =>
    journal.accountingDate ≤ throughDate)

/-- Lines of a book that belong to the given periods. -/
def linesOfPeriods (t : Tables) (legalEntityId bookId : ℕ) (periodIds : List ℕ) : List LedgerLine :=
  ledgerLines dep ((bookJournals t legalEntityId bookId).filter fun journal =>
    journal.fiscalPeriodId ∈ periodIds)

/-- `LIKE 'urn:cwl:accounting:general_journal:period_closing:%'`: an underscore of the pattern
    matches any character. -/
def matchesLikePrefix : List Char → List Char → Bool
  | [], _ => true
  | _ :: _, [] => false
  | p :: ps, c :: cs => (p == '_' || p == c) && matchesLikePrefix ps cs

def closingJournalPattern : String := "urn:cwl:accounting:general_journal:period_closing:"

def isClosingReference (journalReference : String) : Bool :=
  matchesLikePrefix closingJournalPattern.toList journalReference.toList

/-! ## Aggregates -/

/-- GROUP BY account, ORDER BY code. -/
def balanceRows (rows : List LedgerLine) : List BalanceRow :=
  (groupKeys (fun a b : ℕ × String => dep.collation a.2 b.2)
    (fun row : LedgerLine => (row.account.chartAccountId, row.code)) (dep.rowOrder rows)).map
    fun key =>
      let group := rows.filter fun row => (row.account.chartAccountId, row.code) = key
      ⟨key.1, key.2, total LedgerLine.debit group, total LedgerLine.credit group⟩

/-- `_aggregate_trial_balance`. -/
def aggregateTrialBalance (t : Tables) (legalEntityId bookId : ℕ) (throughDate : Date) :
    List BalanceRow :=
  balanceRows dep (linesThrough dep t legalEntityId bookId throughDate)

/-- `_aggregate_worksheet_trial_balance`. -/
def aggregateWorksheetTrialBalance (t : Tables) (legalEntityId bookId : ℕ) (throughDate : Date)
    (excludeAdjusting : Bool) : List BalanceRow :=
  balanceRows dep ((linesThrough dep t legalEntityId bookId throughDate).filter fun row =>
    ¬isClosingReference row.journal.journalReference ∧
      (excludeAdjusting = false ∨ row.line.accountRoleCode ≠ "adjusting"))

/-- `_count_source_journals`. -/
def countSourceJournals (t : Tables) (legalEntityId bookId : ℕ) (throughDate : Date) : ℕ :=
  ((bookJournals t legalEntityId bookId).filter fun journal =>
    journal.accountingDate ≤ throughDate).length

/-- `_latest_close_snapshot`. -/
def latestCloseSnapshot (t : Tables) (legalEntityId bookId fiscalPeriodId : ℕ) :
    Option TrialBalanceSnapshot :=
  ((t.snapshots.filter fun snapshot =>
      snapshot.legalEntityId = legalEntityId ∧ snapshot.accountingBookId = bookId ∧
        snapshot.fiscalPeriodId = fiscalPeriodId).insertionSort fun a b =>
    b.snapshotGeneratedAt ≤ a.snapshotGeneratedAt).head?

/-- Snapshot lines with the code of their account, in code order. -/
def snapshotBalanceLines (snapshot : TrialBalanceSnapshot) : List (String × ℕ × ℕ) :=
  (dep.rowOrder (snapshot.lines.filterMap fun line =>
      (dep.chartAccount? line.chartAccountId).map fun account =>
        (account.chartAccountCode, line.debitTotalAmount, line.creditTotalAmount))).insertionSort
    fun a b => dep.collation a.1 b.1

/-! ## Trial balance -/

structure TrialBalanceEntry where
  chartAccountCode : String
  debitAmount : ℕ
  creditAmount : ℕ
  netBalanceAmount : ℤ
  deriving DecidableEq

structure TrialBalanceDocument where
  tenantReference : String
  legalEntityReference : String
  accountingBookReference : String
  fiscalPeriodReference : String
  periodCode : String
  periodStatus : PeriodStatus
  balanceSourceCode : String
  lines : List TrialBalanceEntry
  snapshotRecordId : Option ℕ
  balanceBasisCode : String
  deriving DecidableEq

def trialBalanceEntry (row : String × ℕ × ℕ) : TrialBalanceEntry :=
  ⟨row.1, row.2.1, row.2.2, contextRound ((row.2.1 : ℤ) - row.2.2)⟩

def liveRow (row : BalanceRow) : String × ℕ × ℕ :=
  (row.chartAccountCode, row.debitTotal, row.creditTotal)

def fiscalPeriodReference (periodCode : String) : String :=
  "urn:cwl:accounting:fiscal_period:" ++ periodCode

/-- Lines, source and snapshot of a trial balance on the requested basis. -/
def trialBalanceLines (t : Tables) (entity : LegalEntityRecord) (book : AccountingBook)
    (period : FiscalPeriod) (balanceBasisCode : String) :
    Result (List (String × ℕ × ℕ) × String × Option ℕ) :=
  let snapshot := latestCloseSnapshot t entity.legalEntityId book.accountingBookId period.fiscalPeriodId
  if balanceBasisCode = "post_close" then do
    let snapshot ← fetch snapshot
      (.validation ("balance_basis_code=post_close requires a stored trial_balance_snapshot. " ++
        "Hard-close the period, then retry the trial-balance read."))
    pure (snapshotBalanceLines dep snapshot, "snapshot", some snapshot.trialBalanceSnapshotId)
  else if balanceBasisCode = "unadjusted" then
    pure ((aggregateWorksheetTrialBalance dep t entity.legalEntityId book.accountingBookId
      period.periodEndDate true).map liveRow, "live", none)
  else if balanceBasisCode = "adjusted" then
    pure ((aggregateWorksheetTrialBalance dep t entity.legalEntityId book.accountingBookId
      period.periodEndDate false).map liveRow, "live", none)
  else if period.periodStatus = .hardClosed then do
    let snapshot ← fetch snapshot
      (.validation ("Fiscal period " ++ period.periodCode ++ " is hard_closed without a " ++
        "trial-balance snapshot. Restore the trial_balance_snapshot for this " ++
        "book from the journal population, then retry the trial-balance read."))
    pure (snapshotBalanceLines dep snapshot, "snapshot", some snapshot.trialBalanceSnapshotId)
  else
    pure ((aggregateTrialBalance dep t entity.legalEntityId book.accountingBookId
      period.periodEndDate).map liveRow, "live", none)

/-- `load_period_trial_balance`. -/
def loadPeriodTrialBalance (t : Tables)
    (legalEntityReference accountingBookReference periodCode balanceBasisCode : String) :
    Result TrialBalanceDocument := do
  requireReference legalEntityReference "legal entity reference"
  requireReference accountingBookReference "accounting book reference"
  require (strip periodCode ≠ "")
    (.validation "period_code is required. Supply the fiscal period code, then retry the trial-balance read.")
  require (balanceBasisCode ∈ ["", "unadjusted", "adjusted", "post_close"])
    (.validation ("balance_basis_code must be unadjusted, adjusted, or post_close. " ++
      "Supply a known trial-balance basis, then retry the trial-balance read."))
  let (entity, book) ← dep.loadScope legalEntityReference accountingBookReference
    "the trial-balance read"
  let period ← requireFiscalPeriod dep t periodCode "the trial-balance read"
  let (rows, source, snapshotRecordId) ← trialBalanceLines dep t entity book period balanceBasisCode
  pure {
    tenantReference := dep.catalog.tenantReference
    legalEntityReference := legalEntityReference
    accountingBookReference := accountingBookReference
    fiscalPeriodReference := fiscalPeriodReference periodCode
    periodCode := periodCode
    periodStatus := period.periodStatus
    balanceSourceCode := source
    lines := rows.map trialBalanceEntry
    snapshotRecordId := snapshotRecordId
    balanceBasisCode := balanceBasisCode }

/-! ## Account balances -/

/-- `_load_chart_account_classes`. -/
def chartAccountClasses (book : AccountingBook) : Dict String AccountClass :=
  (dep.rowOrder (dep.catalog.chartAccounts.filter fun account =>
      account.accountingBookId = book.accountingBookId ∧ account.isCurrent)).foldl
    (fun classes account => classes.set account.chartAccountCode account.accountClassCode) Dict.empty

structure AccountBalanceEntry where
  chartAccountCode : String
  accountClassCode : AccountClass
  debitAmount : ℕ
  creditAmount : ℕ
  deriving DecidableEq

structure AccountBalancesDocument where
  tenantReference : String
  legalEntityReference : String
  accountingBookReference : String
  fiscalPeriodReference : String
  accountBalances : List AccountBalanceEntry
  nextCursor : Option String
  deriving DecidableEq

/-- The lines of the requested account, a line of zeros when it has none; all lines when no
    account is requested. -/
def requestedLines (requestedCode : String) (lines : List (String × ℕ × ℕ)) : List (String × ℕ × ℕ) :=
  if requestedCode = "" then lines
  else
    match lines.filter fun line => line.1 = requestedCode with
    | [] => [(requestedCode, 0, 0)]
    | selected => selected

def accountBalanceEntry (classes : Dict String AccountClass) (line : String × ℕ × ℕ) :
    Result AccountBalanceEntry := do
  let accountClass ← fetch (classes.get? line.1) .missingKey
  pure ⟨line.1, accountClass, line.2.1, line.2.2⟩

/-- `load_account_balances`. -/
def loadAccountBalances (t : Tables)
    (legalEntityReference accountingBookReference periodCode chartAccountCode : String)
    (pageLimit : ℕ) (cursor : String) : Result AccountBalancesDocument := do
  let trialBalance ← loadPeriodTrialBalance dep t legalEntityReference accountingBookReference
    periodCode ""
  let (_, book) ← dep.loadScope legalEntityReference accountingBookReference
    "the account-balance read"
  let classes := chartAccountClasses dep book
  let requestedCode := strip chartAccountCode
  require (requestedCode = "" ∨ (classes.get? requestedCode).isSome)
    (.validation ("Chart account " ++ requestedCode ++ " is not recorded for this book. " ++
      "Create the chart_account row, then retry the account-balance read."))
  let lines := requestedLines requestedCode
    (trialBalance.lines.map fun line => (line.chartAccountCode, line.debitAmount, line.creditAmount))
  let lines := if cursor = "" then lines else lines.filter fun line => cursor < line.1
  let page := lines.take pageLimit
  let accountBalances ← tryMap (accountBalanceEntry classes) page
  pure {
    tenantReference := dep.catalog.tenantReference
    legalEntityReference := legalEntityReference
    accountingBookReference := accountingBookReference
    fiscalPeriodReference := trialBalance.fiscalPeriodReference
    accountBalances := accountBalances
    nextCursor := if pageLimit < lines.length then page.getLast?.map Prod.fst else none }

/-! ## Account rollforward -/

/-- `_statement_period_ids`: the period, or the periods of its fiscal year up to its start. -/
def statementPeriodIds (t : Tables) (periodCode statementScopeCode : String) : Result (List ℕ) := do
  let period ← fetch (periodByCode dep t periodCode) .missingRow
  if statementScopeCode = "" ∨ statementScopeCode = "period" then pure [period.fiscalPeriodId]
  else
    let fiscalYear := fiscalYearIdentity period.periodCode period.periodStartDate
    pure ((t.fiscalPeriods.filter fun peer =>
      peer.fiscalCalendarId = period.fiscalCalendarId ∧
        peer.periodStartDate ≤ period.periodStartDate ∧
        fiscalYearIdentity peer.periodCode peer.periodStartDate = fiscalYear).map
      FiscalPeriod.fiscalPeriodId)

/-- `SELECT MIN(period_start_date)` over the periods of a scope. -/
def scopeStart (t : Tables) (periodIds : List ℕ) : Result Date :=
  fetch ((t.fiscalPeriods.filter fun period => period.fiscalPeriodId ∈ periodIds).map
    FiscalPeriod.periodStartDate).min? .missingRow

/-- `scope_start - timedelta(days=1)`. -/
def dayBefore (date : Date) : Result Date := do
  require (1 < date) .dateOverflow
  pure (date - 1)

/-- Snapshots of the book whose period ended before a day and is hard-closed on the calendar. -/
def priorSnapshots (t : Tables) (legalEntityId bookId : ℕ) (day : Date) :
    List (FiscalPeriod × TrialBalanceSnapshot) :=
  (t.fiscalPeriods.filter fun period =>
      period.periodEndDate < day ∧ period.periodStatus = .hardClosed).flatMap fun period =>
    (t.snapshots.filter fun snapshot =>
      snapshot.fiscalPeriodId = period.fiscalPeriodId ∧ snapshot.legalEntityId = legalEntityId ∧
        snapshot.accountingBookId = bookId).map fun snapshot => (period, snapshot)

/-- The latest of them, by end date and then by code. -/
def priorSnapshot (t : Tables) (legalEntityId bookId : ℕ) (day : Date) :
    Option (FiscalPeriod × TrialBalanceSnapshot) :=
  ((dep.rowOrder (priorSnapshots t legalEntityId bookId day)).insertionSort fun a b =>
    b.1.periodEndDate < a.1.periodEndDate ∨
      (b.1.periodEndDate = a.1.periodEndDate ∧
        dep.collation b.1.periodCode a.1.periodCode = true)).head?

/-- Debit and credit totals of one account. -/
def accountSides (code : String) (rows : List LedgerLine) : ℕ × ℕ :=
  let selected := rows.filter fun row => row.code = code
  (total LedgerLine.debit selected, total LedgerLine.credit selected)

/-- `_opening_account_sides`. -/
def openingAccountSides (t : Tables) (legalEntityId bookId : ℕ) (code : String) (start : Date) :
    Result (ℕ × ℕ) :=
  match priorSnapshot dep t legalEntityId bookId start with
  | some prior =>
    match dep.fetchone (prior.2.lines.filter fun line =>
        (dep.chartAccount? line.chartAccountId).map ChartAccount.chartAccountCode = some code) with
    | none => .ok (0, 0)
    | some line => .ok (line.debitTotalAmount, line.creditTotalAmount)
  | none => do
    let through ← dayBefore start
    pure (accountSides code (linesThrough dep t legalEntityId bookId through))

/-- `_period_account_sides`. -/
def periodAccountSides (t : Tables) (legalEntityId bookId : ℕ) (code : String)
    (periodIds : List ℕ) : ℕ × ℕ :=
  accountSides code (linesOfPeriods dep t legalEntityId bookId periodIds)

structure AccountRollforwardDocument where
  tenantReference : String
  legalEntityReference : String
  accountingBookReference : String
  fiscalPeriodReference : String
  chartAccountCode : String
  accountClassCode : AccountClass
  openingDebitAmount : ℤ
  openingCreditAmount : ℤ
  periodDebitAmount : ℤ
  periodCreditAmount : ℤ
  closingDebitAmount : ℤ
  closingCreditAmount : ℤ
  statementScopeCode : Option String
  deriving DecidableEq

/-- `load_account_rollforward`. -/
def loadAccountRollforward (t : Tables)
    (legalEntityReference accountingBookReference periodCode chartAccountCode
      statementScopeCode : String) : Result AccountRollforwardDocument := do
  require (statementScopeCode ∈ ["", "period", "year_to_date"])
    (.validation ("statement_scope_code must be period or year_to_date. " ++
      "Supply a known statement scope, then retry the account-rollforward read."))
  require (chartAccountCode ≠ "")
    (.validation ("chart_account_code is required. " ++
      "Supply that account-rollforward field, then retry the account-rollforward read."))
  let (_, classesBook) ← dep.loadScope legalEntityReference accountingBookReference
    "the account-balance read"
  let accountClass ← fetch ((chartAccountClasses dep classesBook).get? chartAccountCode)
    (.validation ("Chart account " ++ chartAccountCode ++ " is not recorded for this book. " ++
      "Create the chart_account row, then retry the account-rollforward read."))
  let (entity, book) ← dep.loadScope legalEntityReference accountingBookReference
    "the account-rollforward read"
  let _ ← requireFiscalPeriod dep t periodCode "the account-rollforward read"
  let periodIds ← statementPeriodIds dep t periodCode statementScopeCode
  let start ← scopeStart t periodIds
  let opening ← openingAccountSides dep t entity.legalEntityId book.accountingBookId
    chartAccountCode start
  let period := periodAccountSides dep t entity.legalEntityId book.accountingBookId chartAccountCode
    periodIds
  pure {
    tenantReference := dep.catalog.tenantReference
    legalEntityReference := legalEntityReference
    accountingBookReference := accountingBookReference
    fiscalPeriodReference := fiscalPeriodReference periodCode
    chartAccountCode := chartAccountCode
    accountClassCode := accountClass
    openingDebitAmount := opening.1
    openingCreditAmount := opening.2
    periodDebitAmount := period.1
    periodCreditAmount := period.2
    closingDebitAmount := contextRound (opening.1 + period.1)
    closingCreditAmount := contextRound (opening.2 + period.2)
    statementScopeCode := if statementScopeCode = "year_to_date" then some "year_to_date" else none }

end AccountingPlatform.Postgres
