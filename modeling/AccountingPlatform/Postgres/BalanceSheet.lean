/-
  When a balance sheet ties: assets = liabilities + equity + net income.

  The lines come from the trial balance, cumulative from the first journal; the net income is
  that of the period alone, or zero once the calendar shows the period hard-closed. As the
  reported journals balance, the sheet is off by the income that is still on the books and not
  in that net income.
-/
import AccountingPlatform.Postgres.Balances

namespace AccountingPlatform.Postgres

open AccountingPlatform.Lib AccountingPlatform.Core

variable (dep : Deployment)

/-! ## The read -/

structure BalanceSheetRequest where
  legalEntityReference : String
  accountingBookReference : String
  periodCode : String
  comparisonPeriodCode : String
  statementScopeCode : String

/-- A balance sheet that was read, with the rows its request resolved to. -/
structure BalanceSheetRead (t : Tables) (request : BalanceSheetRequest) (entity : LegalEntityRecord)
    (book : AccountingBook) (period : FiscalPeriod) (document : FinancialStatementDocument) :
    Prop where
  loaded : loadFinancialStatement dep t request.legalEntityReference
    request.accountingBookReference request.periodCode "balance_sheet"
    request.comparisonPeriodCode request.statementScopeCode = .ok document
  scope : dep.loadScope request.legalEntityReference request.accountingBookReference
    "the financial-statement read" = .ok (entity, book)
  period_eq : periodByCode dep t request.periodCode = some period

instance (t : Tables) (request : BalanceSheetRequest) (entity : LegalEntityRecord)
    (book : AccountingBook) (period : FiscalPeriod) (document : FinancialStatementDocument) :
    Decidable (BalanceSheetRead dep t request entity book period document) :=
  decidable_of_iff
    (loadFinancialStatement dep t request.legalEntityReference request.accountingBookReference
        request.periodCode "balance_sheet" request.comparisonPeriodCode
        request.statementScopeCode = .ok document ∧
      dep.loadScope request.legalEntityReference request.accountingBookReference
        "the financial-statement read" = .ok (entity, book) ∧
      periodByCode dep t request.periodCode = some period)
    ⟨fun h => ⟨h.1, h.2.1, h.2.2⟩, fun h => ⟨h.loaded, h.scope, h.period_eq⟩⟩

/-- Assets = liabilities + equity + net income of the same document. -/
def SheetTies (statement : FinancialStatement) : Prop :=
  statement.totalDebitAmount - statement.totalCreditAmount = statement.netIncomeAmount

instance (statement : FinancialStatement) : Decidable (SheetTies statement) :=
  inferInstanceAs (Decidable (_ = _))

/-! ## Income on the books -/

/-- The statement sorts the line's account onto the balance sheet. -/
def isSheetLine (book : AccountingBook) (row : LedgerLine) : Bool :=
  ((statementAccountFacts dep book).get? row.code).any fun fact => isSheetClass fact.2

/-- Credit less debit of the reported lines on accounts that are not on the sheet: income of all
    periods that no closing journal has cleared. -/
def incomeOnBooks (t : Tables) (entity : LegalEntityRecord) (book : AccountingBook)
    (period : FiscalPeriod) : ℤ :=
  total lineNet ((reportedLines dep t entity.legalEntityId book.accountingBookId period).filter
    fun row => !isSheetLine dep book row)

/-- Credit less debit of the period's own revenue and expense lines, closing journals left out,
    each line once for every current mapping of its account. -/
def periodIncome (t : Tables) (entity : LegalEntityRecord) (book : AccountingBook)
    (period : FiscalPeriod) : ℤ :=
  total (fun row => lineNet row.1) (incomeRows dep t entity.legalEntityId book.accountingBookId
    [period.fiscalPeriodId])

/-- Income that the sheet's net income leaves out. -/
def carriedIncome (t : Tables) (entity : LegalEntityRecord) (book : AccountingBook)
    (period : FiscalPeriod) : ℤ :=
  incomeOnBooks dep t entity book period -
    if period.periodStatus = .hardClosed then 0 else periodIncome dep t entity book period

/-! ## Rounding -/

/-- What rounding to 28 digits adds to a sum of amounts. -/
def sumGain (amounts : List ℤ) : ℤ := roundingGain contextPrecision 0 amounts

/-- What rounding adds to the two totals of the sheet. -/
def totalsGain (t : Tables) (request : BalanceSheetRequest) (book : AccountingBook) : ℤ :=
  match loadPeriodTrialBalance dep t request.legalEntityReference request.accountingBookReference
      request.periodCode "" with
  | .error _ => 0
  | .ok trialBalance =>
    match balanceSheetLines (statementAccountFacts dep book) trialBalance.lines with
    | .error _ => 0
    | .ok lines => sumGain (lines.map StatementLine.debitAmount) -
        sumGain (lines.map StatementLine.creditAmount)

/-- What rounding adds to the net income of the period. -/
def incomeGain (t : Tables) (request : BalanceSheetRequest) (period : FiscalPeriod) : ℤ :=
  if period.periodStatus = .hardClosed then 0
  else
    match loadOperationalIncomeLines dep t request.legalEntityReference
        request.accountingBookReference request.periodCode "period" with
    | .error _ => 0
    | .ok lines => netIncome lines -
        total (fun line : StatementLine => line.creditAmount - line.debitAmount) lines

/-- The totals that the statement adds up have at most 28 digits. -/
def FitsContext (t : Tables) (entity : LegalEntityRecord) (book : AccountingBook)
    (period : FiscalPeriod) : Prop :=
  total LedgerLine.debit (reportedLines dep t entity.legalEntityId book.accountingBookId period) <
      10 ^ contextPrecision ∧
    total (fun row => row.1.debit + row.1.credit) (incomeRows dep t entity.legalEntityId
      book.accountingBookId [period.fiscalPeriodId]) < 10 ^ contextPrecision

instance (t : Tables) (entity : LegalEntityRecord) (book : AccountingBook) (period : FiscalPeriod) :
    Decidable (FitsContext dep t entity book period) :=
  inferInstanceAs (Decidable (_ ∧ _))

variable {dep}

theorem decimalSum_eq (amounts : List ℤ) :
    decimalSum amounts = amounts.sum + sumGain amounts := by
  have h := decSumFrom_eq_add_gain contextPrecision 0 amounts
  rw [zero_add] at h
  exact h

/-- Amounts that add up to at most 28 digits are added exactly. -/
theorem sumGain_of_lt {amounts : List ℤ} (h : ∀ amount ∈ amounts, 0 ≤ amount)
    (hlt : amounts.sum < 10 ^ contextPrecision) : sumGain amounts = 0 := by
  refine roundingGain_of_exact (exactFrom_of_abs_lt (by decide) ?_)
  rw [abs_zero, zero_add, List.map_congr_left fun amount hamount => abs_of_nonneg (h amount hamount),
    List.map_id']
  exact hlt

/-! ## The lines of the sheet -/

theorem balanceSheetLines_nonneg {facts : Dict String (String × AccountClass)}
    {entries : List TrialBalanceEntry} {lines : List StatementLine}
    (h : balanceSheetLines facts entries = .ok lines) :
    ∀ line ∈ lines, 0 ≤ line.debitAmount ∧ 0 ≤ line.creditAmount := by
  induction entries generalizing lines with
  | nil => cases h; exact fun _ hline => nomatch hline
  | cons entry rest ih =>
    simp only [balanceSheetLines, bind_eq_ok, fetch_eq_ok] at h
    obtain ⟨fact, -, lines', hlines', h⟩ := h
    have hrest := ih hlines'
    split at h
    · rw [pure_eq_ok] at h
      rw [← h]
      intro line hline
      rcases List.mem_cons.mp hline with rfl | hline
      · exact ⟨Int.natCast_nonneg _, Int.natCast_nonneg _⟩
      · exact hrest line hline
    · rw [pure_eq_ok] at h
      rw [← h]
      exact hrest

/-- The loop keeps the entries of asset, liability and equity accounts. -/
theorem balanceSheetLines_total {facts : Dict String (String × AccountClass)}
    (f : StatementLine → ℤ) (g : TrialBalanceEntry → ℤ)
    (hfg : ∀ entry role accountClass,
      f ⟨entry.chartAccountCode, role, accountClass, entry.debitAmount, entry.creditAmount⟩ = g entry)
    {entries : List TrialBalanceEntry} {lines : List StatementLine}
    (h : balanceSheetLines facts entries = .ok lines) :
    total f lines = total g (entries.filter fun entry =>
      (facts.get? entry.chartAccountCode).any fun fact => isSheetClass fact.2) := by
  induction entries generalizing lines with
  | nil => cases h; rfl
  | cons entry rest ih =>
    simp only [balanceSheetLines, bind_eq_ok, fetch_eq_ok] at h
    obtain ⟨fact, hfact, lines', hlines', h⟩ := h
    have hrest := ih hlines'
    split at h
    · next hsheet =>
      rw [pure_eq_ok] at h
      rw [List.filter_cons_of_pos (by simp [hfact, hsheet]), total_cons, ← hrest, ← h, total_cons,
        hfg]
    · next hnot =>
      rw [pure_eq_ok] at h
      rw [List.filter_cons_of_neg (by simp [hfact, hnot]), ← hrest, h]

/-- A side of the sheet adds up that side of the reported lines on sheet accounts. -/
theorem sheet_total {rows : List LedgerLine} {entries : List TrialBalanceEntry}
    (hentries : entries.Perm ((balanceRows dep rows).map balanceEntry)) {book : AccountingBook}
    {lines : List StatementLine}
    (h : balanceSheetLines (statementAccountFacts dep book) entries = .ok lines)
    (f : StatementLine → ℤ) (side : LedgerLine → ℕ) (sideOf : BalanceRow → ℕ)
    (hf : ∀ (row : BalanceRow) role accountClass,
      f ⟨row.chartAccountCode, role, accountClass, row.debitTotal, row.creditTotal⟩ = sideOf row)
    (g : TrialBalanceEntry → ℤ)
    (hfg : ∀ entry role accountClass,
      f ⟨entry.chartAccountCode, role, accountClass, entry.debitAmount, entry.creditAmount⟩ = g entry)
    (hside : ∀ key : ℕ × String, ∀ group : List LedgerLine,
      sideOf ⟨key.1, key.2, total LedgerLine.debit group, total LedgerLine.credit group⟩ =
        total side group) :
    total f lines = (total side (rows.filter (isSheetLine dep book)) : ℕ) := by
  rw [balanceSheetLines_total f g hfg h, total_perm (hentries.filter _), List.filter_map, total_map]
  have hrows := balanceRows_total dep side sideOf rows (fun key =>
    ((statementAccountFacts dep book).get? key.2).any fun fact => isSheetClass fact.2) hside
  have hg : ∀ row : BalanceRow, g (balanceEntry row) = (sideOf row : ℤ) := fun row => by
    rw [← hf row "" "", ← hfg (balanceEntry row) "" ""]
    rfl
  simp only [hg, ← natCast_total]
  exact congrArg Nat.cast hrows

/-! ## The net income -/

theorem statementPeriodIds_period {t : Tables} {periodCode : String} {period : FiscalPeriod}
    (hperiod : periodByCode dep t periodCode = some period) :
    statementPeriodIds dep t periodCode "period" = .ok [period.fiscalPeriodId] := by
  simp only [statementPeriodIds, hperiod, fetch, ok_bind]
  exact if_pos (Or.inr trivial)

/-- The income statement's lines add up the joined rows. -/
theorem incomeLines_total {t : Tables}
    {legalEntityReference accountingBookReference periodCode statementScopeCode : String}
    {entity : LegalEntityRecord} {book : AccountingBook} {periodIds : List ℕ}
    (hscope : dep.loadScope legalEntityReference accountingBookReference
      "the financial-statement read" = .ok (entity, book))
    (hids : statementPeriodIds dep t periodCode statementScopeCode = .ok periodIds)
    {lines : List StatementLine}
    (h : loadOperationalIncomeLines dep t legalEntityReference accountingBookReference periodCode
      statementScopeCode = .ok lines) {M : Type} [AddCommMonoid M] (f : StatementLine → M)
    (g : LedgerLine × Option String → M)
    (hfg : ∀ code role accountClass (group : List (LedgerLine × Option String)),
      f ⟨code, role, accountClass, total (fun row => row.1.debit) group,
        total (fun row => row.1.credit) group⟩ = total g group) :
    total f lines = total g (incomeRows dep t entity.legalEntityId book.accountingBookId
      periodIds) := by
  simp only [loadOperationalIncomeLines, hscope, hids, ok_bind] at h
  set rows := incomeRows dep t entity.legalEntityId book.accountingBookId periodIds
  rw [total_tryMap (g := fun key => total g (rows.filter fun row => incomeKey row = key)) ?_ h]
  · refine total_groups incomeKey g (groupKeys_nodup _ _ _) fun row hrow =>
      mem_groupKeys.mpr ⟨row, (dep.rowOrder_perm rows).mem_iff.mpr hrow, rfl⟩
  · intro key line hline
    simp only [incomeLine, bind_eq_ok, pure_eq_ok] at hline
    obtain ⟨role, -, rfl⟩ := hline
    exact hfg _ _ _ _

/-- Net income of the statement: the period's income and what rounding adds to it. -/
theorem netIncome_of_parts {t : Tables} {request : BalanceSheetRequest} {entity : LegalEntityRecord}
    {book : AccountingBook} {period : FiscalPeriod} {statement : FinancialStatement}
    {trialBalance : TrialBalanceDocument} {lines : List StatementLine}
    (hscope : dep.loadScope request.legalEntityReference request.accountingBookReference
      "the financial-statement read" = .ok (entity, book))
    (hperiod : periodByCode dep t request.periodCode = some period)
    (h : BalanceSheetParts dep t request.legalEntityReference request.accountingBookReference
      request.periodCode book statement trialBalance lines) :
    statement.netIncomeAmount =
      (if period.periodStatus = .hardClosed then 0 else periodIncome dep t entity book period) +
        incomeGain dep t request period := by
  have hstatus := loadPeriodTrialBalance_status dep h.trialBalance_eq hperiod
  have hincome := h.netIncome_eq
  simp only [statementNetIncome, hstatus] at hincome
  by_cases hhard : period.periodStatus = .hardClosed
  · rw [if_pos hhard] at hincome
    simp only [incomeGain, if_pos hhard, add_zero]
    exact (Except.ok.inj hincome).symm
  · simp only [if_neg hhard, bind_eq_ok, pure_eq_ok] at hincome
    obtain ⟨incomeLines, hlines, hamount⟩ := hincome
    have hnet : total (fun line : StatementLine => line.creditAmount - line.debitAmount)
        incomeLines = periodIncome dep t entity book period := by
      refine incomeLines_total hscope (statementPeriodIds_period hperiod) hlines _
        (fun row => lineNet row.1) fun _ _ _ group => ?_
      rw [← total_sub]
      rfl
    simp only [incomeGain, if_neg hhard, hlines, hnet, hamount]
    ring

/-! ## The equation -/

/-- The reported journals balance, so the income on the books is what the sheet is off by
    before net income. -/
theorem WellFormed.incomeOnBooks_eq {t : Tables} (h : WellFormed dep t) (entity : LegalEntityRecord)
    (book : AccountingBook) (period : FiscalPeriod) {rows : List LedgerLine}
    (hrows : rows = reportedLines dep t entity.legalEntityId book.accountingBookId period) :
    incomeOnBooks dep t entity book period =
      ((total LedgerLine.debit (rows.filter (isSheetLine dep book)) : ℕ) : ℤ) -
        (total LedgerLine.credit (rows.filter (isSheetLine dep book)) : ℕ) := by
  have hbalanced := h.reportedLines_balanced entity.legalEntityId book.accountingBookId period
  rw [← hrows] at hbalanced
  have hdebit := total_filter_add_not LedgerLine.debit (isSheetLine dep book) rows
  have hcredit := total_filter_add_not LedgerLine.credit (isSheetLine dep book) rows
  have hnet : incomeOnBooks dep t entity book period =
      ((total LedgerLine.credit (rows.filter fun row => !isSheetLine dep book row) : ℕ) : ℤ) -
        (total LedgerLine.debit (rows.filter fun row => !isSheetLine dep book row) : ℕ) := by
    rw [incomeOnBooks, ← hrows, total_lineNet]
  rw [hnet]
  omega

theorem incomeLines_nonneg {t : Tables}
    {legalEntityReference accountingBookReference periodCode statementScopeCode : String}
    {lines : List StatementLine}
    (h : loadOperationalIncomeLines dep t legalEntityReference accountingBookReference periodCode
      statementScopeCode = .ok lines) :
    ∀ line ∈ lines, 0 ≤ line.debitAmount ∧ 0 ≤ line.creditAmount := by
  intro line hline
  simp only [loadOperationalIncomeLines, bind_eq_ok] at h
  obtain ⟨_, _, _, _, h⟩ := h
  obtain ⟨key, -, hkey⟩ := mem_tryMap h hline
  simp only [incomeLine, bind_eq_ok, pure_eq_ok] at hkey
  obtain ⟨role, -, rfl⟩ := hkey
  have hnonneg : ∀ (f : LedgerLine × Option String → ℕ) (rows : List (LedgerLine × Option String)),
      0 ≤ total (fun row => (f row : ℤ)) rows := fun f rows => by
    rw [← natCast_total]
    exact Int.natCast_nonneg _
  exact ⟨hnonneg _ _, hnonneg _ _⟩

/-- Net income of lines whose sides have at most 28 digits is exact. -/
theorem netIncome_of_lt {lines : List StatementLine}
    (h : ∀ line ∈ lines, 0 ≤ line.debitAmount ∧ 0 ≤ line.creditAmount)
    (hlt : total (fun line : StatementLine => line.debitAmount + line.creditAmount) lines <
      10 ^ contextPrecision) :
    netIncome lines =
      total (fun line : StatementLine => line.creditAmount - line.debitAmount) lines := by
  have habs : ∀ line ∈ lines, |line.creditAmount - line.debitAmount| ≤
      line.debitAmount + line.creditAmount := by
    intro line hline
    obtain ⟨hd, hc⟩ := h line hline
    exact abs_le.mpr ⟨by linarith, by linarith⟩
  have hline : ∀ line ∈ lines, line.debitAmount + line.creditAmount < 10 ^ contextPrecision := by
    intro line hline
    refine lt_of_le_of_lt ?_ hlt
    refine List.single_le_sum ?_ _ (List.mem_map_of_mem hline)
    simp only [List.mem_map, forall_exists_index, and_imp, forall_apply_eq_imp_iff₂]
    exact fun l hl => add_nonneg (h l hl).1 (h l hl).2
  have hnets : lines.map StatementLine.net =
      lines.map fun line => line.creditAmount - line.debitAmount :=
    List.map_congr_left fun line hmem =>
      roundDec_of_abs_lt (by decide) ((habs line hmem).trans_lt (hline line hmem))
  rw [netIncome, hnets]
  refine decSum_of_abs_lt (by decide) (lt_of_le_of_lt ?_ hlt)
  rw [List.map_map]
  exact List.sum_le_sum habs

theorem incomeGain_of_fits {t : Tables} {request : BalanceSheetRequest} {entity : LegalEntityRecord}
    {book : AccountingBook} {period : FiscalPeriod}
    (hscope : dep.loadScope request.legalEntityReference request.accountingBookReference
      "the financial-statement read" = .ok (entity, book))
    (hperiod : periodByCode dep t request.periodCode = some period)
    (hfits : total (fun row => row.1.debit + row.1.credit) (incomeRows dep t entity.legalEntityId
      book.accountingBookId [period.fiscalPeriodId]) < 10 ^ contextPrecision) :
    incomeGain dep t request period = 0 := by
  unfold incomeGain
  split
  · rfl
  · split
    · rfl
    · next lines hlines =>
      have hsides : total (fun line : StatementLine => line.debitAmount + line.creditAmount) lines =
          (total (fun row => row.1.debit + row.1.credit) (incomeRows dep t entity.legalEntityId
            book.accountingBookId [period.fiscalPeriodId]) : ℕ) := by
        rw [natCast_total]
        refine incomeLines_total hscope (statementPeriodIds_period hperiod) hlines _ _
          fun _ _ _ group => ?_
        simp only [Nat.cast_add, total_add]
      have hlt : total (fun line : StatementLine => line.debitAmount + line.creditAmount) lines <
          10 ^ contextPrecision := by
        rw [hsides]
        exact_mod_cast hfits
      rw [netIncome_of_lt (incomeLines_nonneg hlines) hlt, sub_self]

variable (dep) in
/-- A balance sheet ties exactly when no income is carried beside its net income, up to what
    rounding adds to the sums; rounding adds nothing to totals of at most 28 digits. -/
theorem balanceSheet_ties_iff (commands : List Command) (request : BalanceSheetRequest)
    (entity : LegalEntityRecord) (book : AccountingBook) (period : FiscalPeriod)
    (document : FinancialStatementDocument)
    (hread : BalanceSheetRead dep (ledgerAfter dep commands) request entity book period document) :
    let t := ledgerAfter dep commands
    (SheetTies document.statement ↔ carriedIncome dep t entity book period =
      incomeGain dep t request period - totalsGain dep t request book) ∧
    (FitsContext dep t entity book period →
      incomeGain dep t request period = 0 ∧ totalsGain dep t request book = 0) := by
  intro t
  have hwf : WellFormed dep t := wellFormed_ledgerAfter commands
  obtain ⟨entity', book', trialBalance, lines, hscope, hparts⟩ := loadBalanceSheet_ok dep hread.loaded
  rw [hread.scope] at hscope
  cases hscope
  obtain ⟨entity', book', period', htb⟩ := hwf.trialBalance_read hparts.trialBalance_eq
  have hscope := loadScope_congr htb.scope "the financial-statement read"
  rw [hread.scope] at hscope
  cases hscope
  have hperiod := htb.period_eq
  rw [hread.period_eq] at hperiod
  cases hperiod
  have hdebit := sheet_total htb.lines hparts.lines_eq StatementLine.debitAmount LedgerLine.debit
    BalanceRow.debitTotal (fun _ _ _ => rfl) (fun entry => entry.debitAmount) (fun _ _ _ => rfl)
    fun _ _ => rfl
  have hcredit := sheet_total htb.lines hparts.lines_eq StatementLine.creditAmount LedgerLine.credit
    BalanceRow.creditTotal (fun _ _ _ => rfl) (fun entry => entry.creditAmount) (fun _ _ _ => rfl)
    fun _ _ => rfl
  have hbooks := hwf.incomeOnBooks_eq entity book period rfl
  have hgain : totalsGain dep t request book = sumGain (lines.map StatementLine.debitAmount) -
      sumGain (lines.map StatementLine.creditAmount) := by
    simp only [totalsGain, t, hparts.trialBalance_eq, hparts.lines_eq]
  refine ⟨?_, fun hfits => ⟨incomeGain_of_fits hread.scope hread.period_eq hfits.2, ?_⟩⟩
  · rw [SheetTies, hparts.totalDebit, hparts.totalCredit, decimalSum_eq, decimalSum_eq,
      netIncome_of_parts hread.scope hread.period_eq hparts, carriedIncome, hbooks, ← hdebit,
      ← hcredit, hgain]
    simp only [total]
    constructor <;> intro h <;> linarith
  · have hnonneg := balanceSheetLines_nonneg hparts.lines_eq
    have hbalanced := hwf.reportedLines_balanced entity.legalEntityId book.accountingBookId period
    have hlt : ∀ side : LedgerLine → ℕ, total side (reportedLines dep t entity.legalEntityId
          book.accountingBookId period) < 10 ^ contextPrecision →
        ((total side ((reportedLines dep t entity.legalEntityId book.accountingBookId
          period).filter (isSheetLine dep book)) : ℕ) : ℤ) < 10 ^ contextPrecision := by
      intro side hside
      have hsplit := total_filter_add_not side (isSheetLine dep book)
        (reportedLines dep t entity.legalEntityId book.accountingBookId period)
      exact_mod_cast (Nat.le_of_add_right_le (Nat.le_of_eq hsplit)).trans_lt hside
    have hdebitLt := hdebit.symm ▸ hlt LedgerLine.debit hfits.1
    have hcreditLt := hcredit.symm ▸ hlt LedgerLine.credit (hbalanced ▸ hfits.1)
    have hgains : sumGain (lines.map StatementLine.debitAmount) = 0 ∧
        sumGain (lines.map StatementLine.creditAmount) = 0 := by
      refine ⟨sumGain_of_lt (fun amount hamount => ?_) hdebitLt,
        sumGain_of_lt (fun amount hamount => ?_) hcreditLt⟩
      · obtain ⟨line, hline, rfl⟩ := List.mem_map.mp hamount
        exact (hnonneg line hline).1
      · obtain ⟨line, hline, rfl⟩ := List.mem_map.mp hamount
        exact (hnonneg line hline).2
    rw [hgain, hgains.1, hgains.2, sub_zero]

/-- An invoice in January, which stays open; February is opened. -/
def openJanuaryCommands : List Command := [
  samplePeriod "2024-01" "open-1" 738886 738916,
  samplePeriod "2024-02" "open-2" 738917 738945,
  sampleInvoice "urn:cwl:book:b1" "2024-01" "0f8fad5b-d9cb-469f-a165-70867728950e" "invoice-1" 738900
    1000000]

def balanceSheetOf (periodCode : String) : BalanceSheetRequest :=
  ⟨"urn:cwl:legal_entity:e1", "urn:cwl:book:b1", periodCode, "", ""⟩

/-- The receivable of the invoice and a net income. -/
def receivableSheet (periodCode : String) (netIncomeAmount : ℤ) : FinancialStatementDocument where
  statement := {
    tenantReference := "urn:cwl:tenant:t1"
    legalEntityReference := "urn:cwl:legal_entity:e1"
    accountingBookReference := "urn:cwl:book:b1"
    fiscalPeriodReference := fiscalPeriodReference periodCode
    statementTypeCode := "balance_sheet"
    statementLines := [⟨"110100", "accounts_receivable", "asset", 1000000, 0⟩]
    totalDebitAmount := 1000000
    totalCreditAmount := 0
    netIncomeAmount := netIncomeAmount
    statementScopeCode := none }
  comparison := none

/-- Both balance sheets after these commands, evaluated. -/
theorem openJanuary_sheets :
    let dep := sampleDeployment sampleCatalog
    let t := ledgerAfter dep openJanuaryCommands
    let january := openMonth 1 "2024-01" 738886 738916 (by decide)
    let february := openMonth 2 "2024-02" 738917 738945 (by decide)
    BalanceSheetRead dep t (balanceSheetOf "2024-01") sampleEntity sampleBook january
      (receivableSheet "2024-01" 1000000) ∧
    carriedIncome dep t sampleEntity sampleBook january =
      incomeGain dep t (balanceSheetOf "2024-01") january -
        totalsGain dep t (balanceSheetOf "2024-01") sampleBook ∧
    BalanceSheetRead dep t (balanceSheetOf "2024-02") sampleEntity sampleBook february
      (receivableSheet "2024-02" 0) := by
  decide +kernel

/-- January's sheet ties: its income is the period's own. -/
theorem januarySheet_ties : SheetTies (receivableSheet "2024-01" 1000000).statement :=
  (balanceSheet_ties_iff (sampleDeployment sampleCatalog) openJanuaryCommands
    (balanceSheetOf "2024-01") sampleEntity sampleBook
    (openMonth 1 "2024-01" 738886 738916 (by decide)) (receivableSheet "2024-01" 1000000)
    openJanuary_sheets.1).1.mpr openJanuary_sheets.2.1

/-- In February the receivable is still there and the income is not. -/
theorem februarySheet_not_tied :
    BalanceSheetRead (sampleDeployment sampleCatalog)
      (ledgerAfter (sampleDeployment sampleCatalog) openJanuaryCommands) (balanceSheetOf "2024-02")
      sampleEntity sampleBook (openMonth 2 "2024-02" 738917 738945 (by decide))
      (receivableSheet "2024-02" 0) ∧
    ¬SheetTies (receivableSheet "2024-02" 0).statement :=
  ⟨openJanuary_sheets.2.2, by decide⟩

end AccountingPlatform.Postgres
