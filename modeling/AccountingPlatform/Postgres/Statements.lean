/-
  The four financial statements.
-/
import AccountingPlatform.Postgres.Reports

namespace AccountingPlatform.Postgres

open AccountingPlatform.Lib AccountingPlatform.Core

variable (dep : Deployment)

/-- `account_class_code`. -/
def AccountClass.code : AccountClass → String
  | .asset => "asset"
  | .liability => "liability"
  | .equity => "equity"
  | .revenue => "revenue"
  | .expense => "expense"

structure StatementLine where
  chartAccountCode : String
  accountRoleCode : String
  accountClassCode : String
  debitAmount : ℤ
  creditAmount : ℤ
  deriving DecidableEq

/-- `credit_amount - debit_amount` of a line. -/
def StatementLine.net (line : StatementLine) : ℤ := contextRound (line.creditAmount - line.debitAmount)

/-- `sum(..., Decimal("0"))`. -/
def decimalSum (amounts : List ℤ) : ℤ := decSum contextPrecision amounts

def roleMappingMissing (accountCode : String) : LedgerError :=
  .validation ("account_role_mapping is missing for chart account " ++ accountCode ++ ". " ++
    "Create the account_role_mapping row, then retry the financial-statement read.")

/-! ## Operational income -/

/-- Revenue and expense lines of the periods without closing journals, one row for each current
    mapping of the account, or one without role. -/
def incomeRows (t : Tables) (legalEntityId bookId : ℕ) (periodIds : List ℕ) :
    List (LedgerLine × Option String) :=
  ((linesOfPeriods dep t legalEntityId bookId periodIds).filter fun row =>
      (row.account.accountClassCode = .revenue ∨ row.account.accountClassCode = .expense) ∧
        ¬isClosingReference row.journal.journalReference).flatMap fun row =>
    match dep.currentMappings row.account.chartAccountId with
    | [] => [(row, none)]
    | mappings => mappings.map fun m => (row, some m.accountRoleCode)

def incomeKey (row : LedgerLine × Option String) : String × Option String × AccountClass :=
  (row.1.code, row.2, row.1.account.accountClassCode)

/-- One grouped row: an account without a role is refused. -/
def incomeLine (rows : List (LedgerLine × Option String))
    (key : String × Option String × AccountClass) : Result StatementLine := do
  let role ← fetch key.2.1 (roleMappingMissing key.1)
  let group := rows.filter fun row => incomeKey row = key
  pure ⟨key.1, role, key.2.2.code, total (fun row => row.1.debit) group,
    total (fun row => row.1.credit) group⟩

/-- `_load_operational_income_lines`. -/
def loadOperationalIncomeLines (t : Tables)
    (legalEntityReference accountingBookReference periodCode statementScopeCode : String) :
    Result (List StatementLine) := do
  let (entity, book) ← dep.loadScope legalEntityReference accountingBookReference
    "the financial-statement read"
  let periodIds ← statementPeriodIds dep t periodCode statementScopeCode
  let rows := incomeRows dep t entity.legalEntityId book.accountingBookId periodIds
  tryMap (incomeLine rows)
    (groupKeys (fun a b : String × Option String × AccountClass => dep.collation a.1 b.1) incomeKey
      (dep.rowOrder rows))

def netIncome (lines : List StatementLine) : ℤ := decimalSum (lines.map StatementLine.net)

/-! ## Changes in equity -/

/-- `_equity_movement_line`. -/
def equityMovementLine (accountRoleCode : String) (amount : ℤ) (accountClassCode : String) :
    StatementLine where
  chartAccountCode := ""
  accountRoleCode := accountRoleCode
  accountClassCode := accountClassCode
  debitAmount := if 0 ≤ amount then 0 else contextRound (-amount)
  creditAmount := if 0 ≤ amount then amount else 0

def lineNet (row : LedgerLine) : ℤ := (row.credit : ℤ) - row.debit

/-- `_opening_equity_amount`. -/
def openingEquityAmount (t : Tables) (legalEntityId bookId : ℕ) (start : Date) : Result ℤ :=
  match priorSnapshot dep t legalEntityId bookId start with
  | some prior =>
    .ok (total (fun line : TrialBalanceLine => (line.creditTotalAmount : ℤ) - line.debitTotalAmount)
      (prior.2.lines.filter fun line =>
        (dep.chartAccount? line.chartAccountId).map ChartAccount.accountClassCode = some .equity))
  | none => do
    let through ← dayBefore start
    pure (total lineNet ((linesThrough dep t legalEntityId bookId through).filter fun row =>
      row.account.accountClassCode = .equity))

/-- `_other_equity_movement_amount`. -/
def otherEquityMovementAmount (t : Tables) (legalEntityId bookId : ℕ) (periodIds : List ℕ) : ℤ :=
  total lineNet ((linesOfPeriods dep t legalEntityId bookId periodIds).filter fun row =>
    row.account.accountClassCode = .equity ∧ ¬isClosingReference row.journal.journalReference)

/-- `_load_changes_in_equity_lines`. -/
def loadChangesInEquityLines (t : Tables)
    (legalEntityReference accountingBookReference periodCode statementScopeCode : String) :
    Result (List StatementLine) := do
  let incomeLines ← loadOperationalIncomeLines dep t legalEntityReference accountingBookReference
    periodCode statementScopeCode
  let periodNetIncome := netIncome incomeLines
  let (entity, book) ← dep.loadScope legalEntityReference accountingBookReference
    "the financial-statement read"
  let periodIds ← statementPeriodIds dep t periodCode statementScopeCode
  let start ← scopeStart t periodIds
  let openingEquity ← openingEquityAmount dep t entity.legalEntityId book.accountingBookId start
  let otherEquityMovements :=
    otherEquityMovementAmount dep t entity.legalEntityId book.accountingBookId periodIds
  let closingEquity :=
    contextRound (contextRound (openingEquity + periodNetIncome) + otherEquityMovements)
  pure [
    equityMovementLine "opening_equity" openingEquity "equity",
    equityMovementLine "period_net_income" periodNetIncome "equity",
    equityMovementLine "other_equity_movements" otherEquityMovements "equity",
    equityMovementLine "closing_equity" closingEquity "equity"]

/-! ## Cash flow -/

/-- Current `cash_receipt` mappings of the book to one account. -/
def cashMappings (bookId chartAccountId : ℕ) : List AccountRoleMapping :=
  dep.catalog.roleMappings.filter fun m =>
    m.chartAccountId = chartAccountId ∧ m.accountingBookId = bookId ∧
      m.accountRoleCode = "cash_receipt" ∧ m.isCurrent

/-- `_opening_cash_amount`: a join with the mapping rows. -/
def openingCashAmount (t : Tables) (legalEntityId bookId : ℕ) (start : Date) : Result ℤ :=
  match priorSnapshot dep t legalEntityId bookId start with
  | some prior =>
    .ok (total (fun line : TrialBalanceLine =>
        total (fun _ => (line.debitTotalAmount : ℤ) - line.creditTotalAmount)
          (cashMappings dep bookId line.chartAccountId)) prior.2.lines)
  | none => do
    let through ← dayBefore start
    pure (total (fun row : LedgerLine =>
        total (fun _ => -lineNet row) (cashMappings dep bookId row.account.chartAccountId))
      (linesThrough dep t legalEntityId bookId through))

/-- `_operating_working_capital_amount`. -/
def operatingWorkingCapitalAmount (t : Tables) (legalEntityId bookId : ℕ) (periodIds : List ℕ) : ℤ :=
  total lineNet ((linesOfPeriods dep t legalEntityId bookId periodIds).filter fun row =>
    (row.account.accountClassCode = .asset ∨ row.account.accountClassCode = .liability) ∧
      cashMappings dep bookId row.account.chartAccountId = [] ∧
      ¬isClosingReference row.journal.journalReference)

/-- `_load_cash_flow_lines`. -/
def loadCashFlowLines (t : Tables)
    (legalEntityReference accountingBookReference periodCode statementScopeCode : String) :
    Result (List StatementLine) := do
  let incomeLines ← loadOperationalIncomeLines dep t legalEntityReference accountingBookReference
    periodCode statementScopeCode
  let periodNetIncome := netIncome incomeLines
  let (entity, book) ← dep.loadScope legalEntityReference accountingBookReference
    "the financial-statement read"
  let periodIds ← statementPeriodIds dep t periodCode statementScopeCode
  let start ← scopeStart t periodIds
  let openingCash ← openingCashAmount dep t entity.legalEntityId book.accountingBookId start
  let operatingWorkingCapital :=
    operatingWorkingCapitalAmount dep t entity.legalEntityId book.accountingBookId periodIds
  let cashFromFinancing :=
    otherEquityMovementAmount dep t entity.legalEntityId book.accountingBookId periodIds
  let cashFromInvesting : ℤ := 0
  let cashFromOperations := contextRound (periodNetIncome + operatingWorkingCapital)
  let netCashChange :=
    contextRound (contextRound (cashFromOperations + cashFromInvesting) + cashFromFinancing)
  let closingCash := contextRound (openingCash + netCashChange)
  pure [
    equityMovementLine "period_net_income" periodNetIncome "",
    equityMovementLine "operating_working_capital" operatingWorkingCapital "",
    equityMovementLine "cash_from_operations" cashFromOperations "",
    equityMovementLine "cash_from_investing" cashFromInvesting "",
    equityMovementLine "cash_from_financing" cashFromFinancing "",
    equityMovementLine "net_cash_change" netCashChange "",
    equityMovementLine "opening_cash" openingCash "",
    equityMovementLine "closing_cash" closingCash ""]

/-! ## Balance sheet -/

/-- `_load_statement_account_facts`: role and class by account code. -/
def statementAccountFacts (book : AccountingBook) : Dict String (String × AccountClass) :=
  (dep.rowOrder ((dep.catalog.chartAccounts.filter fun account =>
      account.accountingBookId = book.accountingBookId ∧ account.isCurrent).flatMap fun account =>
    (dep.currentMappings account.chartAccountId).map fun m => (account, m))).foldl
    (fun facts row => facts.set row.1.chartAccountCode
      (row.2.accountRoleCode, row.1.accountClassCode)) Dict.empty

def isSheetClass (accountClass : AccountClass) : Bool :=
  accountClass = .asset || accountClass = .liability || accountClass = .equity

/-- The loop over the trial-balance lines. -/
def balanceSheetLines (facts : Dict String (String × AccountClass)) :
    List TrialBalanceEntry → Result (List StatementLine)
  | [] => .ok []
  | entry :: rest => do
    let fact ← fetch (facts.get? entry.chartAccountCode) (roleMappingMissing entry.chartAccountCode)
    let lines ← balanceSheetLines facts rest
    if isSheetClass fact.2 then
      pure (⟨entry.chartAccountCode, fact.1, fact.2.code, entry.debitAmount, entry.creditAmount⟩
        :: lines)
    else pure lines

/-! ## Statements -/

inductive StatementType
  | incomeStatement | balanceSheet | changesInEquity | cashFlow
  deriving DecidableEq, Repr

def statementType (statementTypeCode : String) : Option StatementType :=
  if statementTypeCode = "income_statement" then some .incomeStatement
  else if statementTypeCode = "balance_sheet" then some .balanceSheet
  else if statementTypeCode = "changes_in_equity" then some .changesInEquity
  else if statementTypeCode = "cash_flow" then some .cashFlow
  else none

structure FinancialStatement where
  tenantReference : String
  legalEntityReference : String
  accountingBookReference : String
  fiscalPeriodReference : String
  statementTypeCode : String
  statementLines : List StatementLine
  totalDebitAmount : ℤ
  totalCreditAmount : ℤ
  netIncomeAmount : ℤ
  statementScopeCode : Option String
  deriving DecidableEq

structure FinancialStatementDocument where
  statement : FinancialStatement
  /-- The `comparison_*` fields. -/
  comparison : Option FinancialStatement
  deriving DecidableEq

/-- Lines of a statement. -/
def statementSourceLines (t : Tables)
    (legalEntityReference accountingBookReference periodCode statementScopeCode : String)
    (trialBalance : TrialBalanceDocument) (facts : Dict String (String × AccountClass)) :
    StatementType → Result (List StatementLine)
  | .changesInEquity => loadChangesInEquityLines dep t legalEntityReference accountingBookReference
      periodCode statementScopeCode
  | .cashFlow => loadCashFlowLines dep t legalEntityReference accountingBookReference periodCode
      statementScopeCode
  | .incomeStatement => loadOperationalIncomeLines dep t legalEntityReference
      accountingBookReference periodCode statementScopeCode
  | .balanceSheet => balanceSheetLines facts trialBalance.lines

/-- `net_income_amount` of a statement. -/
def statementNetIncome (t : Tables)
    (legalEntityReference accountingBookReference periodCode : String)
    (trialBalance : TrialBalanceDocument) (lines : List StatementLine) : StatementType → Result ℤ
  | .incomeStatement => .ok (netIncome lines)
  | .changesInEquity => periodNetIncomeOf
  | .cashFlow => periodNetIncomeOf
  | .balanceSheet =>
    if trialBalance.periodStatus = .hardClosed then .ok 0
    else do
      let incomeLines ← loadOperationalIncomeLines dep t legalEntityReference
        accountingBookReference periodCode "period"
      pure (netIncome incomeLines)
where
  periodNetIncomeOf : Result ℤ := do
    let line ← fetch (lines.find? fun line => line.accountRoleCode = "period_net_income") .missingRow
    pure line.net

/-- `load_financial_statement` without its comparison. -/
def loadStatement (t : Tables)
    (legalEntityReference accountingBookReference periodCode statementTypeCode
      statementScopeCode : String) : Result FinancialStatement := do
  require (statementScopeCode ∈ ["", "period", "year_to_date"])
    (.validation ("statement_scope_code must be period or year_to_date. " ++
      "Supply a known statement scope, then retry the financial-statement read."))
  let kind ← fetch (statementType statementTypeCode)
    (.validation ("statement_type_code must be income_statement, balance_sheet, changes_in_equity, " ++
      "or cash_flow. Supply a known statement type, then retry the financial-statement read."))
  let trialBalance ← loadPeriodTrialBalance dep t legalEntityReference accountingBookReference
    periodCode ""
  let (_, factsBook) ← dep.loadScope legalEntityReference accountingBookReference
    "the financial-statement read"
  let lines ← statementSourceLines dep t legalEntityReference accountingBookReference periodCode
    statementScopeCode trialBalance (statementAccountFacts dep factsBook) kind
  let netIncomeAmount ← statementNetIncome dep t legalEntityReference accountingBookReference
    periodCode trialBalance lines kind
  pure {
    tenantReference := dep.catalog.tenantReference
    legalEntityReference := legalEntityReference
    accountingBookReference := accountingBookReference
    fiscalPeriodReference := trialBalance.fiscalPeriodReference
    statementTypeCode := statementTypeCode
    statementLines := lines
    totalDebitAmount := decimalSum (lines.map StatementLine.debitAmount)
    totalCreditAmount := decimalSum (lines.map StatementLine.creditAmount)
    netIncomeAmount := netIncomeAmount
    statementScopeCode := if statementScopeCode = "year_to_date" then some "year_to_date" else none }

/-- `load_financial_statement`. -/
def loadFinancialStatement (t : Tables)
    (legalEntityReference accountingBookReference periodCode statementTypeCode
      comparisonPeriodCode statementScopeCode : String) : Result FinancialStatementDocument := do
  let statement ← loadStatement dep t legalEntityReference accountingBookReference periodCode
    statementTypeCode statementScopeCode
  if strip comparisonPeriodCode = "" then pure ⟨statement, none⟩
  else
    let compared ← loadStatement dep t legalEntityReference accountingBookReference
      (strip comparisonPeriodCode) statementTypeCode statementScopeCode
    pure ⟨statement, some compared⟩

/-! ## What a balance sheet is made of -/

theorem statementType_balanceSheet : statementType "balance_sheet" = some .balanceSheet := by
  decide +kernel

/-- A balance sheet: the trial balance it sorts, its lines and its net income. -/
structure BalanceSheetParts (t : Tables)
    (legalEntityReference accountingBookReference periodCode : String) (book : AccountingBook)
    (statement : FinancialStatement) (trialBalance : TrialBalanceDocument)
    (lines : List StatementLine) : Prop where
  trialBalance_eq : loadPeriodTrialBalance dep t legalEntityReference accountingBookReference
    periodCode "" = .ok trialBalance
  lines_eq : balanceSheetLines (statementAccountFacts dep book) trialBalance.lines = .ok lines
  netIncome_eq : statementNetIncome dep t legalEntityReference accountingBookReference periodCode
    trialBalance lines .balanceSheet = .ok statement.netIncomeAmount
  totalDebit : statement.totalDebitAmount = decimalSum (lines.map StatementLine.debitAmount)
  totalCredit : statement.totalCreditAmount = decimalSum (lines.map StatementLine.creditAmount)

theorem loadBalanceSheet_ok {t : Tables}
    {legalEntityReference accountingBookReference periodCode comparisonPeriodCode
      statementScopeCode : String} {document : FinancialStatementDocument}
    (h : loadFinancialStatement dep t legalEntityReference accountingBookReference periodCode
      "balance_sheet" comparisonPeriodCode statementScopeCode = .ok document) :
    ∃ entity book trialBalance lines,
      dep.loadScope legalEntityReference accountingBookReference "the financial-statement read" =
        .ok (entity, book) ∧
      BalanceSheetParts dep t legalEntityReference accountingBookReference periodCode book
        document.statement trialBalance lines := by
  simp only [loadFinancialStatement, bind_eq_ok] at h
  obtain ⟨statement, hload, h⟩ := h
  have hdocument : document.statement = statement := by
    split at h
    · rw [pure_eq_ok] at h
      rw [← h]
    · simp only [bind_eq_ok, pure_eq_ok] at h
      obtain ⟨_, -, rfl⟩ := h
      rfl
  rw [hdocument]
  simp only [loadStatement, bind_eq_ok, fetch_eq_ok, pure_eq_ok] at hload
  obtain ⟨-, -, kind, hkind, trialBalance, htrial, ⟨entity, book⟩, hscope, lines, hlines, amount,
    hamount, rfl⟩ := hload
  rw [statementType_balanceSheet] at hkind
  cases hkind
  exact ⟨entity, book, trialBalance, lines, hscope, htrial, hlines, hamount, rfl, rfl⟩

/-- The trial balance shows the calendar's status of the period. -/
theorem loadPeriodTrialBalance_status {t : Tables}
    {legalEntityReference accountingBookReference periodCode balanceBasisCode : String}
    {trialBalance : TrialBalanceDocument} {period : FiscalPeriod}
    (h : loadPeriodTrialBalance dep t legalEntityReference accountingBookReference periodCode
      balanceBasisCode = .ok trialBalance)
    (hperiod : periodByCode dep t periodCode = some period) :
    trialBalance.periodStatus = period.periodStatus := by
  simp only [loadPeriodTrialBalance, requireFiscalPeriod, hperiod, bind_eq_ok, fetch_eq_ok,
    pure_eq_ok] at h
  obtain ⟨-, -, -, -, -, -, -, -, -, -, q, hq, -, -, rfl⟩ := h
  cases hq
  rfl

end AccountingPlatform.Postgres
