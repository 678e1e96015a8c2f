/-
  Whether an income statement counts each line once.

  The lines are joined with the current mappings of their accounts and then grouped by role, so
  a line enters the sums once for every such mapping. A second current mapping of an account,
  for another role or under another version of the policy, counts its lines again.
-/
import AccountingPlatform.Postgres.BalanceSheet

namespace AccountingPlatform.Postgres

open AccountingPlatform.Lib AccountingPlatform.Core

variable (dep : Deployment)

/-! ## The read -/

structure IncomeStatementRequest where
  legalEntityReference : String
  accountingBookReference : String
  periodCode : String
  comparisonPeriodCode : String
  statementScopeCode : String

/-- The statement of the requested period, or the one it is compared with. -/
def Shown (request : IncomeStatementRequest) (document : FinancialStatementDocument)
    (periodCode : String) (statement : FinancialStatement) : Prop :=
  (periodCode = request.periodCode ∧ document.statement = statement) ∨
    (periodCode = strip request.comparisonPeriodCode ∧ document.comparison = some statement)

instance (request : IncomeStatementRequest) (document : FinancialStatementDocument)
    (periodCode : String) (statement : FinancialStatement) :
    Decidable (Shown request document periodCode statement) :=
  inferInstanceAs (Decidable (_ ∨ _))

/-- An income statement that was read, with the rows its request resolved to. -/
structure IncomeStatementRead (t : Tables) (request : IncomeStatementRequest)
    (document : FinancialStatementDocument) (periodCode : String) (statement : FinancialStatement)
    (entity : LegalEntityRecord) (book : AccountingBook) (periodIds : List ℕ) : Prop where
  loaded : loadFinancialStatement dep t request.legalEntityReference
    request.accountingBookReference request.periodCode "income_statement"
    request.comparisonPeriodCode request.statementScopeCode = .ok document
  shown : Shown request document periodCode statement
  scope : dep.loadScope request.legalEntityReference request.accountingBookReference
    "the financial-statement read" = .ok (entity, book)
  periods : statementPeriodIds dep t periodCode request.statementScopeCode = .ok periodIds

instance (t : Tables) (request : IncomeStatementRequest) (document : FinancialStatementDocument)
    (periodCode : String) (statement : FinancialStatement) (entity : LegalEntityRecord)
    (book : AccountingBook) (periodIds : List ℕ) :
    Decidable (IncomeStatementRead dep t request document periodCode statement entity book
      periodIds) :=
  decidable_of_iff
    (loadFinancialStatement dep t request.legalEntityReference request.accountingBookReference
        request.periodCode "income_statement" request.comparisonPeriodCode
        request.statementScopeCode = .ok document ∧
      Shown request document periodCode statement ∧
      dep.loadScope request.legalEntityReference request.accountingBookReference
        "the financial-statement read" = .ok (entity, book) ∧
      statementPeriodIds dep t periodCode request.statementScopeCode = .ok periodIds)
    ⟨fun h => ⟨h.1, h.2.1, h.2.2.1, h.2.2.2⟩, fun h => ⟨h.loaded, h.shown, h.scope, h.periods⟩⟩

/-- Revenue and expense lines of the journals of the periods, closing journals left out. -/
def operationalLines (t : Tables) (entity : LegalEntityRecord) (book : AccountingBook)
    (periodIds : List ℕ) : List LedgerLine :=
  (linesOfPeriods dep t entity.legalEntityId book.accountingBookId periodIds).filter fun row =>
    (row.account.accountClassCode = .revenue ∨ row.account.accountClassCode = .expense) ∧
      ¬isClosingReference row.journal.journalReference

/-- Net income is the credit less the debit of these lines, each once, and the two totals of the
    statement differ by it. -/
def CountsOnce (statement : FinancialStatement) (rows : List LedgerLine) : Prop :=
  statement.netIncomeAmount = total lineNet rows ∧
    statement.totalCreditAmount - statement.totalDebitAmount = statement.netIncomeAmount

instance (statement : FinancialStatement) (rows : List LedgerLine) :
    Decidable (CountsOnce statement rows) :=
  inferInstanceAs (Decidable (_ ∧ _))

/-! ## What is counted again -/

/-- Current mappings of the line's account after the first. -/
def furtherMappings (row : LedgerLine) : ℕ :=
  (dep.currentMappings row.account.chartAccountId).length - 1

/-- Credit less debit of the lines, once for every further mapping. -/
def repeatedIncome (rows : List LedgerLine) : ℤ :=
  total (fun row => furtherMappings dep row * lineNet row) rows

/-! ## Rounding -/

/-- Debit and credit of every group, in the order the query returns them. -/
def incomeGroups (rows : List (LedgerLine × Option String)) : List (ℤ × ℤ) :=
  (groupKeys (fun a b : String × Option String × AccountClass => dep.collation a.1 b.1) incomeKey
    (dep.rowOrder rows)).map fun key =>
      let group := rows.filter fun row => incomeKey row = key
      (total (fun row => row.1.debit) group, total (fun row => row.1.credit) group)

/-- What rounding to 28 digits adds to the net income of the groups. -/
def netRounding (groups : List (ℤ × ℤ)) : ℤ :=
  decimalSum (groups.map fun group => contextRound (group.2 - group.1)) -
    total (fun group => group.2 - group.1) groups

/-- What it adds to the difference of the two totals. -/
def totalsRounding (groups : List (ℤ × ℤ)) : ℤ :=
  sumGain (groups.map Prod.snd) - sumGain (groups.map Prod.fst)

variable {dep}

/-! ## The join -/

theorem total_const {α : Type} {M : Type*} [AddCommMonoid M] (m : M) (xs : List α) :
    total (fun _ => m) xs = xs.length • m := by
  rw [total, List.map_const', List.sum_replicate]

/-- A line stands in the join once, and once more for every further mapping. -/
theorem incomeRows_total (t : Tables) (entity : LegalEntityRecord) (book : AccountingBook)
    (periodIds : List ℕ) {M : Type*} [AddCommMonoid M] (f : LedgerLine → M) :
    total (fun row => f row.1)
        (incomeRows dep t entity.legalEntityId book.accountingBookId periodIds) =
      total f (operationalLines dep t entity book periodIds) +
        total (fun row => furtherMappings dep row • f row)
          (operationalLines dep t entity book periodIds) := by
  rw [incomeRows, total_flatMap, ← total_add]
  refine total_congr fun row _ => ?_
  unfold furtherMappings
  cases dep.currentMappings row.account.chartAccountId with
  | nil => simp only [total_cons, total_nil, List.length_nil, Nat.zero_sub, zero_nsmul]
  | cons m ms =>
    have hrow : total (fun row => f row.1) ((m :: ms).map fun m => (row, some m.accountRoleCode)) =
        total (fun _ => f row) (m :: ms) := total_map _ _ _
    rw [List.length_cons, Nat.add_sub_cancel]
    apply hrow.trans
    rw [total_const, List.length_cons, succ_nsmul']

theorem incomeRows_net (t : Tables) (entity : LegalEntityRecord) (book : AccountingBook)
    (periodIds : List ℕ) :
    total (fun row => lineNet row.1)
        (incomeRows dep t entity.legalEntityId book.accountingBookId periodIds) =
      total lineNet (operationalLines dep t entity book periodIds) +
        repeatedIncome dep (operationalLines dep t entity book periodIds) := by
  rw [incomeRows_total, repeatedIncome]
  simp only [nsmul_eq_mul]

/-! ## The statement -/

theorem statementType_incomeStatement : statementType "income_statement" = some .incomeStatement := by
  decide +kernel

/-- Both statements of a document are read the same way. -/
theorem loadFinancialStatement_shown {t : Tables} {request : IncomeStatementRequest}
    {document : FinancialStatementDocument} {periodCode statementTypeCode : String}
    {statement : FinancialStatement}
    (h : loadFinancialStatement dep t request.legalEntityReference request.accountingBookReference
      request.periodCode statementTypeCode request.comparisonPeriodCode
      request.statementScopeCode = .ok document)
    (hshown : Shown request document periodCode statement) :
    loadStatement dep t request.legalEntityReference request.accountingBookReference periodCode
      statementTypeCode request.statementScopeCode = .ok statement := by
  simp only [loadFinancialStatement, bind_eq_ok] at h
  obtain ⟨requested, hrequested, h⟩ := h
  split at h
  · rw [pure_eq_ok] at h
    subst h
    rcases hshown with ⟨rfl, rfl⟩ | ⟨-, hnone⟩
    · exact hrequested
    · cases hnone
  · simp only [bind_eq_ok, pure_eq_ok] at h
    obtain ⟨compared, hcompared, rfl⟩ := h
    rcases hshown with ⟨rfl, rfl⟩ | ⟨rfl, hsome⟩
    · exact hrequested
    · cases hsome
      exact hcompared

/-- An income statement: its lines are the groups of the join. -/
theorem loadIncomeStatement_ok {t : Tables}
    {legalEntityReference accountingBookReference periodCode statementScopeCode : String}
    {statement : FinancialStatement}
    (h : loadStatement dep t legalEntityReference accountingBookReference periodCode
      "income_statement" statementScopeCode = .ok statement) :
    ∃ lines, loadOperationalIncomeLines dep t legalEntityReference accountingBookReference
        periodCode statementScopeCode = .ok lines ∧
      statement.netIncomeAmount = netIncome lines ∧
      statement.totalDebitAmount = decimalSum (lines.map StatementLine.debitAmount) ∧
      statement.totalCreditAmount = decimalSum (lines.map StatementLine.creditAmount) := by
  simp only [loadStatement, bind_eq_ok, fetch_eq_ok, pure_eq_ok] at h
  obtain ⟨-, -, kind, hkind, trialBalance, -, ⟨entity, book⟩, -, lines, hlines, amount, hamount,
    rfl⟩ := h
  rw [statementType_incomeStatement] at hkind
  cases hkind
  exact ⟨lines, hlines, (Except.ok.inj hamount).symm, rfl, rfl⟩

theorem incomeLines_groups {t : Tables}
    {legalEntityReference accountingBookReference periodCode statementScopeCode : String}
    {entity : LegalEntityRecord} {book : AccountingBook} {periodIds : List ℕ}
    (hscope : dep.loadScope legalEntityReference accountingBookReference
      "the financial-statement read" = .ok (entity, book))
    (hids : statementPeriodIds dep t periodCode statementScopeCode = .ok periodIds)
    {lines : List StatementLine}
    (h : loadOperationalIncomeLines dep t legalEntityReference accountingBookReference periodCode
      statementScopeCode = .ok lines) :
    lines.map (fun line => (line.debitAmount, line.creditAmount)) =
      incomeGroups dep (incomeRows dep t entity.legalEntityId book.accountingBookId periodIds) := by
  simp only [loadOperationalIncomeLines, hscope, hids, ok_bind] at h
  refine map_tryMap (fun key line hline => ?_) h
  simp only [incomeLine, bind_eq_ok, pure_eq_ok] at hline
  obtain ⟨role, -, rfl⟩ := hline
  rfl

/-- Without rounding the groups add up to the joined rows. -/
theorem incomeGroups_total (rows : List (LedgerLine × Option String)) {M : Type*} [AddCommMonoid M]
    (f : ℤ × ℤ → M) (g : LedgerLine × Option String → M)
    (hfg : ∀ group : List (LedgerLine × Option String),
      f (total (fun row => row.1.debit) group, total (fun row => row.1.credit) group) =
        total g group) :
    total f (incomeGroups dep rows) = total g rows := by
  rw [incomeGroups, total_map]
  simp only [hfg]
  exact total_groups incomeKey g (groupKeys_nodup _ _ _) fun row hrow =>
    mem_groupKeys.mpr ⟨row, (dep.rowOrder_perm rows).mem_iff.mpr hrow, rfl⟩

theorem incomeGroups_net (rows : List (LedgerLine × Option String)) :
    total (fun group : ℤ × ℤ => group.2 - group.1) (incomeGroups dep rows) =
      total (fun row => lineNet row.1) rows :=
  incomeGroups_total rows _ _ fun _ => (total_sub _ _ _).symm

theorem incomeGroups_sides (rows : List (LedgerLine × Option String)) :
    total Prod.fst (incomeGroups dep rows) = total (fun row => (row.1.debit : ℤ)) rows ∧
      total Prod.snd (incomeGroups dep rows) = total (fun row => (row.1.credit : ℤ)) rows :=
  ⟨incomeGroups_total rows _ _ fun _ => rfl, incomeGroups_total rows _ _ fun _ => rfl⟩

/-- The amounts of the statement: those of the groups and what rounding adds. -/
theorem incomeStatement_amounts {t : Tables} {request : IncomeStatementRequest}
    {document : FinancialStatementDocument} {periodCode : String} {statement : FinancialStatement}
    {entity : LegalEntityRecord} {book : AccountingBook} {periodIds : List ℕ}
    (hread : IncomeStatementRead dep t request document periodCode statement entity book periodIds)
    {rows : List (LedgerLine × Option String)}
    (hrows : rows = incomeRows dep t entity.legalEntityId book.accountingBookId periodIds) :
    statement.netIncomeAmount =
        total (fun row => lineNet row.1) rows + netRounding (incomeGroups dep rows) ∧
      statement.totalDebitAmount = total (fun row => (row.1.debit : ℤ)) rows +
        sumGain ((incomeGroups dep rows).map Prod.fst) ∧
      statement.totalCreditAmount = total (fun row => (row.1.credit : ℤ)) rows +
        sumGain ((incomeGroups dep rows).map Prod.snd) := by
  obtain ⟨lines, hlines, hnet, hdebit, hcredit⟩ :=
    loadIncomeStatement_ok (loadFinancialStatement_shown hread.loaded hread.shown)
  have hgroups : lines.map (fun line => (line.debitAmount, line.creditAmount)) =
      incomeGroups dep rows := hrows ▸ incomeLines_groups hread.scope hread.periods hlines
  refine ⟨?_, ?_, ?_⟩
  · have hsum : netIncome lines = decimalSum ((incomeGroups dep rows).map fun group =>
        contextRound (group.2 - group.1)) := by
      rw [← hgroups, List.map_map]
      rfl
    rw [hnet, hsum, netRounding, incomeGroups_net]
    ring
  · have hsum : lines.map StatementLine.debitAmount = (incomeGroups dep rows).map Prod.fst := by
      rw [← hgroups, List.map_map]
      rfl
    rw [hdebit, hsum, decimalSum_eq, ← (incomeGroups_sides rows).1, total]
  · have hsum : lines.map StatementLine.creditAmount = (incomeGroups dep rows).map Prod.snd := by
      rw [← hgroups, List.map_map]
      rfl
    rw [hcredit, hsum, decimalSum_eq, ← (incomeGroups_sides rows).2, total]

theorem incomeGroups_nonneg (rows : List (LedgerLine × Option String)) :
    ∀ group ∈ incomeGroups dep rows, 0 ≤ group.1 ∧ 0 ≤ group.2 := by
  intro group hgroup
  obtain ⟨key, -, rfl⟩ := List.mem_map.mp hgroup
  dsimp only
  rw [← natCast_total, ← natCast_total]
  exact ⟨Int.natCast_nonneg _, Int.natCast_nonneg _⟩

/-- Rows whose sides add up to at most 28 digits are added exactly. -/
theorem incomeGroups_exact {rows : List (LedgerLine × Option String)}
    (hfits : total (fun row => row.1.debit + row.1.credit) rows < 10 ^ contextPrecision) :
    netRounding (incomeGroups dep rows) = 0 ∧
      sumGain ((incomeGroups dep rows).map Prod.fst) = 0 ∧
      sumGain ((incomeGroups dep rows).map Prod.snd) = 0 := by
  have hnonneg := @incomeGroups_nonneg dep rows
  have hsides := @incomeGroups_sides dep rows
  have hsum : total (fun row => row.1.debit + row.1.credit) rows =
      total (fun row => row.1.debit) rows + total (fun row => row.1.credit) rows := total_add _ _ _
  have hdebit : total Prod.fst (incomeGroups dep rows) < (10 : ℤ) ^ contextPrecision := by
    rw [hsides.1, ← natCast_total]
    exact_mod_cast (Nat.le_of_add_right_le hsum.ge).trans_lt hfits
  have hcredit : total Prod.snd (incomeGroups dep rows) < (10 : ℤ) ^ contextPrecision := by
    rw [hsides.2, ← natCast_total]
    exact_mod_cast (Nat.le_of_add_left_le hsum.ge).trans_lt hfits
  refine ⟨?_, sumGain_of_lt (fun amount hamount => ?_) hdebit,
    sumGain_of_lt (fun amount hamount => ?_) hcredit⟩
  · -- the groups as lines of a statement
    let lines := (incomeGroups dep rows).map fun group =>
      (⟨"", "", "", group.1, group.2⟩ : StatementLine)
    have hlines : ∀ line ∈ lines, 0 ≤ line.debitAmount ∧ 0 ≤ line.creditAmount := by
      intro line hline
      obtain ⟨group, hgroup, rfl⟩ := List.mem_map.mp hline
      exact hnonneg group hgroup
    have hlt : total (fun line : StatementLine => line.debitAmount + line.creditAmount) lines <
        10 ^ contextPrecision := by
      have hboth : total (fun group : ℤ × ℤ => group.1 + group.2) (incomeGroups dep rows) =
          (total (fun row => row.1.debit + row.1.credit) rows : ℕ) := by
        rw [natCast_total]
        refine incomeGroups_total rows _ _ fun group => ?_
        simp only [Nat.cast_add, total_add]
      rw [total_map]
      exact hboth.trans_lt (by exact_mod_cast hfits)
    have hnet := netIncome_of_lt hlines hlt
    rw [netIncome, List.map_map, total_map] at hnet
    rw [netRounding]
    exact sub_eq_zero.mpr hnet
  · obtain ⟨group, hgroup, rfl⟩ := List.mem_map.mp hamount
    exact (hnonneg group hgroup).1
  · obtain ⟨group, hgroup, rfl⟩ := List.mem_map.mp hamount
    exact (hnonneg group hgroup).2

/-! ## When every line is counted once -/

/-- The two totals are those of the lines, each once, exactly when no account of a line that
    carries an amount has a further current mapping. -/
theorem incomeStatement_totals_iff (t : Tables) (request : IncomeStatementRequest)
    (document : FinancialStatementDocument) (periodCode : String) (statement : FinancialStatement)
    (entity : LegalEntityRecord) (book : AccountingBook) (periodIds : List ℕ)
    (hread : IncomeStatementRead dep t request document periodCode statement entity book periodIds)
    (hfits : total (fun row => row.1.debit + row.1.credit) (incomeRows dep t entity.legalEntityId
      book.accountingBookId periodIds) < 10 ^ contextPrecision) :
    let lines := operationalLines dep t entity book periodIds
    (statement.totalDebitAmount = (total LedgerLine.debit lines : ℕ) ∧
      statement.totalCreditAmount = (total LedgerLine.credit lines : ℕ)) ↔
    ∀ row ∈ lines, 0 < row.debit + row.credit → furtherMappings dep row = 0 := by
  intro lines
  obtain ⟨-, hdebit, hcredit⟩ := incomeStatement_amounts hread rfl
  obtain ⟨-, hdebitZero, hcreditZero⟩ := @incomeGroups_exact dep _ hfits
  have hjoin := fun side : LedgerLine → ℕ => @incomeRows_total dep t entity book periodIds ℕ _ side
  rw [hdebit, hcredit, hdebitZero, hcreditZero, add_zero, add_zero, ← natCast_total,
    ← natCast_total, Nat.cast_inj, Nat.cast_inj, hjoin LedgerLine.debit, hjoin LedgerLine.credit,
    add_eq_left, add_eq_left, total_eq_zero_iff, total_eq_zero_iff]
  simp only [nsmul_eq_mul, Nat.cast_id, Nat.mul_eq_zero]
  constructor
  · intro h row hrow hamount
    have hd := h.1 row hrow
    have hc := h.2 row hrow
    omega
  · intro h
    refine ⟨fun row hrow => ?_, fun row hrow => ?_⟩
    · have := h row hrow
      omega
    · have := h row hrow
      omega

def januaryIncome : IncomeStatementRequest :=
  ⟨"urn:cwl:legal_entity:e1", "urn:cwl:book:b1", "2024-01", "", ""⟩

/-- The income statement of January when the revenue of the invoice is reported as `amount`. -/
def januaryStatement (amount : ℤ) : FinancialStatementDocument where
  statement := {
    tenantReference := "urn:cwl:tenant:t1"
    legalEntityReference := "urn:cwl:legal_entity:e1"
    accountingBookReference := "urn:cwl:book:b1"
    fiscalPeriodReference := fiscalPeriodReference "2024-01"
    statementTypeCode := "income_statement"
    statementLines := [⟨"410100", "usage_revenue", "revenue", 0, amount⟩]
    totalDebitAmount := 0
    totalCreditAmount := amount
    netIncomeAmount := amount
    statementScopeCode := none }
  comparison := none

/-- The statement under the sample catalog, evaluated. -/
theorem januaryStatement_read :
    let dep := sampleDeployment sampleCatalog
    let t := ledgerAfter dep openJanuaryCommands
    IncomeStatementRead dep t januaryIncome (januaryStatement 1000000) "2024-01"
      (januaryStatement 1000000).statement sampleEntity sampleBook [1] ∧
    total (fun row => row.1.debit + row.1.credit) (incomeRows dep t 1 1 [1]) <
      10 ^ contextPrecision ∧
    repeatedIncome dep (operationalLines dep t sampleEntity sampleBook [1]) = 0 := by
  decide +kernel

/-- The sample catalog where the revenue role is mapped under two versions of the policy. -/
def versionedCatalog : Catalog where
  tenantReference := "urn:cwl:tenant:t1"
  legalEntities := [sampleEntity]
  books := [sampleBook]
  chartAccounts := sampleAccounts 1
  roleMappings := sampleMappings 1 ++ [⟨1, "usage_revenue", 15, "v2", "v2", 0, none⟩]
  calendars := [⟨1, "main"⟩]
  legalEntity_key := sampleCatalog.legalEntity_key
  book_key := sampleCatalog.book_key
  chartAccount_key := sampleCatalog.chartAccount_key
  book_entity := sampleCatalog.book_entity

end AccountingPlatform.Postgres
