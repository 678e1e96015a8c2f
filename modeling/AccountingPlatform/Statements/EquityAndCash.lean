/-
  When changes in equity and the cash flow tie to the ledger.

  Both statements add the movements of the scope to an opening: the latest hard-closed snapshot
  before the scope, or all earlier lines. The closing cash is never read from the cash accounts;
  it follows from the other lines of the journals, as far as these are balanced and each line is
  read once.
-/
import Mathlib.Algebra.Order.Ring.Abs
import AccountingPlatform.Postgres.IncomeStatement
import AccountingPlatform.Postgres.Rollforward

namespace AccountingPlatform.Postgres

open AccountingPlatform.Lib AccountingPlatform.Core

variable (dep : Deployment)

/-! ## The read -/

/-- The rows a statement's request resolves to. -/
structure StatementScope where
  entity : LegalEntityRecord
  book : AccountingBook
  period : FiscalPeriod
  periodIds : List ℕ
  start : Date

/-- A statement that was read, as the requested one or as the one compared with it. -/
structure StatementRead (t : Tables) (statementTypeCode : String) (request : IncomeStatementRequest)
    (document : FinancialStatementDocument) (periodCode : String) (statement : FinancialStatement)
    (scope : StatementScope) : Prop where
  loaded : loadFinancialStatement dep t request.legalEntityReference
    request.accountingBookReference request.periodCode statementTypeCode
    request.comparisonPeriodCode request.statementScopeCode = .ok document
  shown : Shown request document periodCode statement
  scope_eq : dep.loadScope request.legalEntityReference request.accountingBookReference
    "the financial-statement read" = .ok (scope.entity, scope.book)
  period_eq : periodByCode dep t periodCode = some scope.period
  periods : statementPeriodIds dep t periodCode request.statementScopeCode = .ok scope.periodIds
  start_eq : scopeStart t scope.periodIds = .ok scope.start

instance (t : Tables) (statementTypeCode : String) (request : IncomeStatementRequest)
    (document : FinancialStatementDocument) (periodCode : String) (statement : FinancialStatement)
    (scope : StatementScope) :
    Decidable (StatementRead dep t statementTypeCode request document periodCode statement scope) :=
  decidable_of_iff
    (loadFinancialStatement dep t request.legalEntityReference request.accountingBookReference
        request.periodCode statementTypeCode request.comparisonPeriodCode
        request.statementScopeCode = .ok document ∧
      Shown request document periodCode statement ∧
      dep.loadScope request.legalEntityReference request.accountingBookReference
        "the financial-statement read" = .ok (scope.entity, scope.book) ∧
      periodByCode dep t periodCode = some scope.period ∧
      statementPeriodIds dep t periodCode request.statementScopeCode = .ok scope.periodIds ∧
      scopeStart t scope.periodIds = .ok scope.start)
    ⟨fun h => ⟨h.1, h.2.1, h.2.2.1, h.2.2.2.1, h.2.2.2.2.1, h.2.2.2.2.2⟩,
      fun h => ⟨h.loaded, h.shown, h.scope_eq, h.period_eq, h.periods, h.start_eq⟩⟩

/-- Credit less debit of the row a statement shows under a role. -/
def shownAmount (statement : FinancialStatement) (accountRoleCode : String) : Option ℤ :=
  (statement.statementLines.find? fun line => line.accountRoleCode = accountRoleCode).map
    fun line => line.creditAmount - line.debitAmount

/-! ## Lines of the ledger -/

section lines

variable (t : Tables) (scope : StatementScope)

/-- Lines of the book through the period end. -/
def throughLines : List LedgerLine :=
  linesThrough dep t scope.entity.legalEntityId scope.book.accountingBookId scope.period.periodEndDate

/-- Lines of the scope's periods. -/
def scopeLines : List LedgerLine :=
  linesOfPeriods dep t scope.entity.legalEntityId scope.book.accountingBookId scope.periodIds

/-- The opening counts the line: the prior snapshot saw it, or without one it is dated before
    the scope. -/
def isOpened (row : LedgerLine) : Prop :=
  match priorSnapshot dep t scope.entity.legalEntityId scope.book.accountingBookId scope.start with
  | some prior => row.journal.accountingDate ≤ prior.1.periodEndDate ∧
      row.journal.postedAt ≤ prior.2.snapshotGeneratedAt
  | none => row.journal.accountingDate < scope.start

instance (row : LedgerLine) : Decidable (isOpened dep t scope row) := by
  unfold isOpened
  split <;> infer_instance

def openingLines : List LedgerLine :=
  (bookLines dep t scope.entity.legalEntityId scope.book.accountingBookId).filter
    fun row => isOpened dep t scope row

/-- Lines through the period end that are neither in the opening nor in the scope's periods. -/
def unreadLines : List LedgerLine :=
  (throughLines dep t scope).filter fun row =>
    ¬isOpened dep t scope row ∧ row.journal.fiscalPeriodId ∉ scope.periodIds

/-- The line's account is mapped to cash. -/
def isCashLine (row : LedgerLine) : Prop :=
  cashMappings dep scope.book.accountingBookId row.account.chartAccountId ≠ []

instance (row : LedgerLine) : Decidable (isCashLine dep scope row) :=
  inferInstanceAs (Decidable (_ ≠ _))

def isAssetOrLiability (row : LedgerLine) : Prop :=
  row.account.accountClassCode = .asset ∨ row.account.accountClassCode = .liability

instance (row : LedgerLine) : Decidable (isAssetOrLiability row) :=
  inferInstanceAs (Decidable (_ ∨ _))

/-- Sides of the lines that the two statements add up, those of the opening once more for every
    mapping to cash, have at most 28 digits together. -/
def SidesFit : Prop :=
  total (fun row => (1 + (cashMappings dep scope.book.accountingBookId
        row.account.chartAccountId).length) * (row.debit + row.credit)) (openingLines dep t scope) +
      total (fun row => row.1.debit + row.1.credit) (incomeRows dep t scope.entity.legalEntityId
        scope.book.accountingBookId scope.periodIds) +
      total (fun row => row.debit + row.credit) (scopeLines dep t scope) <
    10 ^ contextPrecision

instance : Decidable (SidesFit dep t scope) := inferInstanceAs (Decidable (_ < _))

end lines

/-! ## What the closing cash counts wrongly -/

section cash

variable (t : Tables) (scope : StatementScope)

/-- Debit less credit of the lines through the period end on accounts mapped to cash. -/
def ledgerCash : ℤ :=
  -total lineNet ((throughLines dep t scope).filter fun row => isCashLine dep scope row)

/-- Opening lines once more for every further mapping of their account to cash. -/
def repeatedCash : ℤ :=
  -total (fun row => (((cashMappings dep scope.book.accountingBookId
    row.account.chartAccountId).length - 1 : ℕ) : ℤ) * lineNet row) (openingLines dep t scope)

/-- Cash lines in neither the opening nor the scope. -/
def missedCash : ℤ :=
  -total lineNet ((unreadLines dep t scope).filter fun row => isCashLine dep scope row)

/-- Cash lines of the scope that the movements do not mirror: those of closing journals and
    those on revenue, expense or equity accounts. -/
def unmirroredCash : ℤ :=
  -total lineNet ((scopeLines dep t scope).filter fun row =>
    isCashLine dep scope row ∧
      (isClosingReference row.journal.journalReference ∨ ¬isAssetOrLiability row))

end cash

/-! ## What the closing equity counts -/

section equity

variable (t : Tables) (scope : StatementScope)

/-- Credit less debit of the lines through the period end on equity accounts. -/
def ledgerEquity : ℤ :=
  total lineNet ((throughLines dep t scope).filter fun row => row.account.accountClassCode = .equity)

/-- Income of the scope, each line once for every current mapping of its account. -/
def scopeIncome : ℤ :=
  total (fun row => lineNet row.1) (incomeRows dep t scope.entity.legalEntityId
    scope.book.accountingBookId scope.periodIds)

/-- What the closing journals of the scope's periods moved to equity accounts. -/
def closedToEquity : ℤ :=
  total lineNet ((scopeLines dep t scope).filter fun row =>
    row.account.accountClassCode = .equity ∧ isClosingReference row.journal.journalReference)

/-- Equity lines in neither the opening nor the scope. -/
def missedEquity : ℤ :=
  total lineNet ((unreadLines dep t scope).filter fun row => row.account.accountClassCode = .equity)

/-- Equity lines through the period end that the opening of a later statement does not count. -/
def unopenedEquity (next : StatementScope) : ℤ :=
  total lineNet ((throughLines dep t scope).filter fun row =>
    row.account.accountClassCode = .equity ∧ ¬isOpened dep t next row)

/-- Equity of a balance sheet with its net income. -/
def sheetEquity (statement : FinancialStatement) : ℤ :=
  total (fun line : StatementLine => line.creditAmount - line.debitAmount)
      (statement.statementLines.filter fun line => line.accountClassCode = "equity") +
    statement.netIncomeAmount

/-- The balance sheet sorts the line's account under equity. -/
def isSheetEquityLine (row : LedgerLine) : Bool :=
  ((statementAccountFacts dep scope.book).get? row.code).any fun fact => fact.2 = .equity

/-- Equity lines through the period end that the balance sheet leaves out: those that the
    snapshot of a hard-closed period did not see. -/
def unreportedEquity : ℤ :=
  ledgerEquity dep t scope - total lineNet ((reportedLines dep t scope.entity.legalEntityId
    scope.book.accountingBookId scope.period).filter (isSheetEquityLine dep scope))

/-- The net income of the balance sheet. -/
def sheetIncome : ℤ :=
  if scope.period.periodStatus = .hardClosed then 0
  else periodIncome dep t scope.entity scope.book scope.period

end equity

variable {dep}

/-! ## Totals of amounts -/

theorem total_mul_left {α : Type} (c : ℤ) (f : α → ℤ) (xs : List α) :
    total (fun x => c * f x) xs = c * total f xs :=
  (total_map_hom (AddMonoidHom.mulLeft c) f xs).symm

theorem total_neg {α : Type} (f : α → ℤ) (xs : List α) :
    total (fun x => -f x) xs = -total f xs :=
  (total_map_hom (-AddMonoidHom.id ℤ) f xs).symm

theorem abs_lineNet_le (row : LedgerLine) : |lineNet row| ≤ ((row.debit + row.credit : ℕ) : ℤ) := by
  unfold lineNet
  rw [abs_le]
  omega

/-- Amounts bounded line by line. -/
theorem abs_total_le_natCast {α : Type} {f : α → ℤ} {g : α → ℕ} {xs : List α}
    (h : ∀ x ∈ xs, |f x| ≤ (g x : ℤ)) : |total f xs| ≤ ((total g xs : ℕ) : ℤ) := by
  induction xs with
  | nil => simp
  | cons x xs ih =>
    have hrest := ih fun y hy => h y (List.mem_cons_of_mem x hy)
    have hfirst := h x List.mem_cons_self
    rw [total_cons, total_cons, Nat.cast_add]
    exact (abs_add_le _ _).trans (add_le_add hfirst hrest)

/-! ## Groups and their lines -/

variable (dep) in
/-- The groups of an aggregate add up to its lines, weighted by account. -/
theorem balanceRows_weighted (weight : ℕ → ℤ) (rows : List LedgerLine) :
    total (fun row : BalanceRow => weight row.chartAccountId *
        ((row.creditTotal : ℤ) - row.debitTotal)) (balanceRows dep rows) =
      total (fun row => weight row.account.chartAccountId * lineNet row) rows := by
  rw [balanceRows, total_map]
  set keyOf : LedgerLine → ℕ × String := fun row => (row.account.chartAccountId, row.code) with hkey
  have hkeys : ∀ row ∈ rows, keyOf row ∈ groupKeys (fun a b : ℕ × String => dep.collation a.2 b.2)
      keyOf (dep.rowOrder rows) := fun row hrow =>
    mem_groupKeys.mpr ⟨row, (dep.rowOrder_perm rows).mem_iff.mpr hrow, rfl⟩
  have hgroups := total_groups keyOf
    (fun row => weight row.account.chartAccountId * lineNet row) (groupKeys_nodup _ _ _) hkeys
  refine Eq.trans (total_congr fun key _ => ?_) hgroups
  have hgroup : ∀ row ∈ rows.filter (fun row => keyOf row = key),
      weight row.account.chartAccountId * lineNet row = weight key.1 * lineNet row := by
    intro row hrow
    have hrowKey : keyOf row = key := by simpa using (List.mem_filter.mp hrow).2
    rw [← hrowKey]
  rw [total_congr hgroup, total_mul_left, total_lineNet]

/-- The prior snapshot adds up to the lines of the opening. -/
theorem WellFormed.prior_total {t : Tables} (h : WellFormed dep t) {scope : StatementScope}
    {prior : FiscalPeriod × TrialBalanceSnapshot}
    (hprior : priorSnapshot dep t scope.entity.legalEntityId scope.book.accountingBookId
      scope.start = some prior) (weight : ℕ → ℤ) :
    total (fun line : TrialBalanceLine => weight line.chartAccountId *
        ((line.creditTotalAmount : ℤ) - line.debitTotalAmount)) prior.2.lines =
      total (fun row => weight row.account.chartAccountId * lineNet row)
        (openingLines dep t scope) := by
  obtain ⟨hp, -, -, hs, hid, hle, hb⟩ := mem_priorSnapshot hprior
  have hlines := h.snapshot_lines hs hp hid
  rw [hle, hb] at hlines
  have hopening : openingLines dep t scope = (bookLines dep t scope.entity.legalEntityId
      scope.book.accountingBookId).filter fun row =>
        row.journal.accountingDate ≤ prior.1.periodEndDate ∧
          row.journal.postedAt ≤ prior.2.snapshotGeneratedAt := by
    unfold openingLines
    refine List.filter_congr fun row _ => ?_
    simp only [isOpened, hprior]
  rw [hlines, total_map, hopening]
  exact balanceRows_weighted dep weight _

/-- Without a prior snapshot the opening is what is dated before the scope. -/
theorem linesThrough_dayBefore {t : Tables} {scope : StatementScope} {through : Date}
    (hprior : priorSnapshot dep t scope.entity.legalEntityId scope.book.accountingBookId
      scope.start = none) (hday : dayBefore scope.start = .ok through) :
    linesThrough dep t scope.entity.legalEntityId scope.book.accountingBookId through =
      openingLines dep t scope := by
  simp only [dayBefore, bind_eq_ok, require_eq_ok, pure_eq_ok] at hday
  obtain ⟨-, hlt, rfl⟩ := hday
  rw [linesThrough_eq, openingLines]
  refine List.filter_congr fun row _ => ?_
  have hbefore : row.journal.accountingDate ≤ scope.start - 1 ↔
      row.journal.accountingDate < scope.start :=
    (Nat.lt_iff_le_pred (Nat.zero_lt_of_lt hlt)).symm
  simp only [isOpened, hprior, hbefore]

theorem mem_openingLines {t : Tables} {scope : StatementScope} {row : LedgerLine}
    (h : row ∈ openingLines dep t scope) :
    row ∈ bookLines dep t scope.entity.legalEntityId scope.book.accountingBookId :=
  (List.mem_filter.mp h).1

/-- The opening cash: every opening line once for each mapping of its account to cash. -/
theorem WellFormed.openingCash_eq {t : Tables} (h : WellFormed dep t) {scope : StatementScope}
    {openingCash : ℤ}
    (hopening : openingCashAmount dep t scope.entity.legalEntityId scope.book.accountingBookId
      scope.start = .ok openingCash) :
    openingCash = -total (fun row => ((cashMappings dep scope.book.accountingBookId
      row.account.chartAccountId).length : ℤ) * lineNet row) (openingLines dep t scope) := by
  rw [← total_neg]
  unfold openingCashAmount at hopening
  cases hprior : priorSnapshot dep t scope.entity.legalEntityId scope.book.accountingBookId
      scope.start with
  | some prior =>
    rw [hprior] at hopening
    have htotal := h.prior_total hprior fun id =>
      -((cashMappings dep scope.book.accountingBookId id).length : ℤ)
    simp only [neg_mul] at htotal
    rw [← htotal, ← Except.ok.inj hopening]
    refine total_congr fun line _ => ?_
    rw [total_const, nsmul_eq_mul]
    ring
  | none =>
    rw [hprior] at hopening
    simp only [bind_eq_ok, pure_eq_ok] at hopening
    obtain ⟨through, hday, rfl⟩ := hopening
    rw [linesThrough_dayBefore hprior hday]
    refine total_congr fun row _ => ?_
    rw [total_const, nsmul_eq_mul]
    ring

/-- The opening equity: the opening lines on equity accounts. -/
theorem WellFormed.openingEquity_eq {t : Tables} (h : WellFormed dep t) {scope : StatementScope}
    {openingEquity : ℤ}
    (hopening : openingEquityAmount dep t scope.entity.legalEntityId scope.book.accountingBookId
      scope.start = .ok openingEquity) :
    openingEquity = total lineNet ((openingLines dep t scope).filter fun row =>
      row.account.accountClassCode = .equity) := by
  unfold openingEquityAmount at hopening
  cases hprior : priorSnapshot dep t scope.entity.legalEntityId scope.book.accountingBookId
      scope.start with
  | some prior =>
    rw [hprior] at hopening
    have htotal := h.prior_total hprior fun id =>
      if (dep.chartAccount? id).map ChartAccount.accountClassCode = some .equity then 1 else 0
    rw [← Except.ok.inj hopening, total_filter, total_filter]
    refine Eq.trans (total_congr fun line _ => ?_) (htotal.trans (total_congr fun row hrow => ?_))
    · simp only [decide_eq_true_eq, ite_mul, one_mul, zero_mul]
    · have haccount := ledgerLine_account (mem_openingLines hrow)
      simp only [haccount, Option.map_some, Option.some.injEq, decide_eq_true_eq, ite_mul, one_mul,
        zero_mul]
  | none =>
    rw [hprior] at hopening
    simp only [bind_eq_ok, pure_eq_ok] at hopening
    obtain ⟨through, hday, rfl⟩ := hopening
    rw [linesThrough_dayBefore hprior hday]

/-! ## Where the lines stand -/

theorem isOpened_lt {t : Tables} {scope : StatementScope} {row : LedgerLine}
    (h : isOpened dep t scope row) : row.journal.accountingDate < scope.start := by
  unfold isOpened at h
  split at h
  · next prior hprior => exact h.1.trans_lt (mem_priorSnapshot hprior).2.1
  · exact h

/-- A line through the period end is in the opening, in the scope or missed, and in one of them
    only. -/
theorem WellFormed.lines_split {t : Tables} (h : WellFormed dep t)
    (hdisjoint : NonOverlapping t.fiscalPeriods) {scope : StatementScope}
    {periodCode statementScopeCode : String}
    (hperiod : periodByCode dep t periodCode = some scope.period)
    (hids : statementPeriodIds dep t periodCode statementScopeCode = .ok scope.periodIds)
    (hstart : scopeStart t scope.periodIds = .ok scope.start) (f : LedgerLine → ℤ) :
    total f (throughLines dep t scope) = total f (openingLines dep t scope) +
      total f (scopeLines dep t scope) + total f (unreadLines dep t scope) := by
  obtain ⟨request, hcode, hscopeCode⟩ : ∃ request : RollforwardRequest,
      request.periodCode = periodCode ∧ request.statementScopeCode = statementScopeCode :=
    ⟨⟨"", "", periodCode, "", statementScopeCode⟩, rfl, rfl⟩
  rw [← hcode] at hperiod hids
  rw [← hscopeCode] at hids
  have hpmem := (periodByCode_mem dep hperiod).1
  have hfirst : scope.start ≤ scope.period.periodEndDate :=
    (scopeStart_le hstart hpmem (statementPeriodIds_mem h hperiod hids).1).trans
      scope.period.dates_ordered
  rw [unreadLines, throughLines, linesThrough_eq, openingLines, scopeLines, linesOfPeriods_eq]
  simp only [List.filter_filter, ← Bool.decide_and]
  refine total_split₃ f fun row hrow => ?_
  have hdates := fun hin => h.scope_dates hdisjoint hperiod hids hstart (mem_bookLines hrow).1 hin
  by_cases hin : row.journal.fiscalPeriodId ∈ scope.periodIds
  · obtain ⟨hge, hle⟩ := hdates hin
    have hnot : ¬isOpened dep t scope row := fun hopened =>
      absurd (isOpened_lt hopened) (Nat.not_lt.mpr hge)
    exact Or.inr (Or.inl ⟨hle, hnot, hin, fun hmissed => hmissed.1.2 hin⟩)
  · by_cases hopened : isOpened dep t scope row
    · have hle := ((isOpened_lt hopened).trans_le hfirst).le
      exact Or.inl ⟨hle, hopened, hin, fun hmissed => hmissed.1.1 hopened⟩
    · by_cases hle : row.journal.accountingDate ≤ scope.period.periodEndDate
      · exact Or.inr (Or.inr (Or.inl ⟨hle, hopened, hin, ⟨hopened, hin⟩, hle⟩))
      · exact Or.inr (Or.inr (Or.inr ⟨hle, hopened, hin, fun hmissed => hle hmissed.2⟩))

/-- The journals of the scope balance, under any condition on the journal. -/
theorem WellFormed.scopeLines_balanced {t : Tables} (h : WellFormed dep t) (scope : StatementScope)
    (p : GeneralJournal → Bool) :
    total lineNet ((scopeLines dep t scope).filter fun row => p row.journal) = 0 := by
  rw [scopeLines, linesOfPeriods, ← ledgerLines_filter, total_lineNet, h.ledgerLines_balanced, sub_self]
  intro j hj
  exact (List.mem_filter.mp (List.mem_filter.mp (List.mem_filter.mp hj).1).1).1

/-! ## The closing cash -/

theorem AccountClass.eq_cases (accountClass : AccountClass) :
    accountClass = .asset ∨ accountClass = .liability ∨ accountClass = .equity ∨
      accountClass = .revenue ∨ accountClass = .expense := by
  cases accountClass <;> decide

/-- Income, working capital and financing of the scope mirror its cash lines: asset and liability
    lines of the journals that do not close a period. -/
theorem WellFormed.movements_mirror {t : Tables} (h : WellFormed dep t) (scope : StatementScope) :
    total lineNet (operationalLines dep t scope.entity scope.book scope.periodIds) +
        operatingWorkingCapitalAmount dep t scope.entity.legalEntityId scope.book.accountingBookId
          scope.periodIds +
        otherEquityMovementAmount dep t scope.entity.legalEntityId scope.book.accountingBookId
          scope.periodIds +
        total lineNet ((scopeLines dep t scope).filter fun row => isCashLine dep scope row ∧
          isAssetOrLiability row ∧ ¬isClosingReference row.journal.journalReference) = 0 := by
  have hbalanced := h.scopeLines_balanced scope fun j => ¬isClosingReference j.journalReference
  rw [operationalLines, operatingWorkingCapitalAmount, otherEquityMovementAmount, ← hbalanced,
    scopeLines]
  simp only [total_filter, ← total_add]
  refine total_congr fun row _ => ?_
  by_cases hclosing : isClosingReference row.journal.journalReference = true
  · simp [hclosing]
  · by_cases hcash : cashMappings dep scope.book.accountingBookId row.account.chartAccountId = []
    · rcases row.account.accountClassCode.eq_cases with hclass | hclass | hclass | hclass | hclass <;>
        simp [isCashLine, isAssetOrLiability, hclosing, hcash, hclass]
    · rcases row.account.accountClassCode.eq_cases with hclass | hclass | hclass | hclass | hclass <;>
        simp [isCashLine, isAssetOrLiability, hclosing, hcash, hclass]

/-- The cash lines of the scope, those that the movements mirror and the others. -/
theorem scopeCash_eq (t : Tables) (scope : StatementScope) :
    total lineNet ((scopeLines dep t scope).filter fun row => isCashLine dep scope row) =
      total lineNet ((scopeLines dep t scope).filter fun row => isCashLine dep scope row ∧
        isAssetOrLiability row ∧ ¬isClosingReference row.journal.journalReference) -
      unmirroredCash dep t scope := by
  rw [unmirroredCash, sub_neg_eq_add]
  simp only [total_filter, ← total_add]
  refine total_congr fun row _ => ?_
  by_cases hcash : isCashLine dep scope row
  · by_cases hclosing : isClosingReference row.journal.journalReference = true
    · simp [hcash, hclosing]
    · by_cases hclass : isAssetOrLiability row
      · simp [hcash, hclosing, hclass]
      · simp [hcash, hclosing, hclass]
  · simp [hcash]

/-- The opening cash counts the opening's cash lines, and again those with further mappings. -/
theorem openingCash_lines (t : Tables) (scope : StatementScope) :
    -total (fun row => ((cashMappings dep scope.book.accountingBookId
        row.account.chartAccountId).length : ℤ) * lineNet row) (openingLines dep t scope) =
      repeatedCash dep t scope -
        total lineNet ((openingLines dep t scope).filter fun row => isCashLine dep scope row) := by
  rw [repeatedCash, neg_sub_left, neg_inj, total_filter, ← total_add]
  refine total_congr fun row _ => ?_
  by_cases hcash : cashMappings dep scope.book.accountingBookId row.account.chartAccountId = []
  · simp [isCashLine, hcash]
  · obtain ⟨m, ms, hmappings⟩ := List.exists_cons_of_ne_nil hcash
    simp only [isCashLine, hmappings, List.length_cons, Nat.add_sub_cancel, ne_eq, reduceCtorEq,
      not_false_eq_true, decide_true, if_true]
    push_cast
    ring

/-- Without rounding the closing cash is the ledger's, and what is counted again, less what is
    missed or not mirrored. -/
theorem WellFormed.closingCash_eq {t : Tables} (h : WellFormed dep t)
    (hdisjoint : NonOverlapping t.fiscalPeriods) {scope : StatementScope}
    {periodCode statementScopeCode : String}
    (hperiod : periodByCode dep t periodCode = some scope.period)
    (hids : statementPeriodIds dep t periodCode statementScopeCode = .ok scope.periodIds)
    (hstart : scopeStart t scope.periodIds = .ok scope.start) {openingCash : ℤ}
    (hopening : openingCashAmount dep t scope.entity.legalEntityId scope.book.accountingBookId
      scope.start = .ok openingCash) :
    openingCash + (total (fun row => lineNet row.1) (incomeRows dep t scope.entity.legalEntityId
          scope.book.accountingBookId scope.periodIds) +
        operatingWorkingCapitalAmount dep t scope.entity.legalEntityId scope.book.accountingBookId
          scope.periodIds +
        otherEquityMovementAmount dep t scope.entity.legalEntityId scope.book.accountingBookId
          scope.periodIds) =
      ledgerCash dep t scope + repeatedIncome dep (operationalLines dep t scope.entity scope.book
          scope.periodIds) + repeatedCash dep t scope -
        missedCash dep t scope - unmirroredCash dep t scope := by
  have hsplit := h.lines_split hdisjoint hperiod hids hstart fun row =>
    if isCashLine dep scope row then lineNet row else 0
  have hfilter : ∀ rows : List LedgerLine, total (fun row => if isCashLine dep scope row then
      lineNet row else 0) rows = total lineNet (rows.filter fun row => isCashLine dep scope row) :=
    fun rows => by simp only [total_filter, decide_eq_true_eq]
  simp only [hfilter] at hsplit
  rw [h.openingCash_eq hopening, openingCash_lines, incomeRows_net]
  have hmirror := h.movements_mirror scope
  have hscope := @scopeCash_eq dep t scope
  rw [ledgerCash, missedCash]
  linarith

/-! ## Exact amounts -/

theorem contextRound_of_lt {z : ℤ} (h : |z| < 10 ^ contextPrecision) : contextRound z = z :=
  roundDec_of_abs_lt (by decide) h

/-- A row of a statement shows its amount. -/
theorem equityMovementLine_net {amount : ℤ} (h : |amount| < 10 ^ contextPrecision)
    (accountRoleCode accountClassCode : String) :
    (equityMovementLine accountRoleCode amount accountClassCode).creditAmount -
      (equityMovementLine accountRoleCode amount accountClassCode).debitAmount = amount := by
  unfold equityMovementLine
  by_cases hsign : 0 ≤ amount
  · simp only [hsign, if_true, sub_zero]
  · have hround : contextRound (-amount) = -amount := contextRound_of_lt (by rwa [abs_neg])
    simp only [hsign, if_false, hround]
    ring

/-- Additions of amounts that have at most 28 digits together. -/
theorem additions_exact {opening income other financing : ℤ}
    (h : |opening| + |income| + |other| + |financing| < 10 ^ contextPrecision) :
    contextRound (income + other) = income + other ∧
      contextRound (income + other + financing) = income + other + financing ∧
      contextRound (opening + (income + other + financing)) =
        opening + (income + other + financing) ∧
      contextRound (opening + income) = opening + income ∧
      |opening| < 10 ^ contextPrecision ∧
      |income + other + financing| < 10 ^ contextPrecision ∧
      |opening + (income + other + financing)| < 10 ^ contextPrecision := by
  have hopening := abs_nonneg opening
  have hincome := abs_nonneg income
  have hother := abs_nonneg other
  have hfinancing := abs_nonneg financing
  have h₁ := abs_add_le income other
  have h₂ := abs_add_le (income + other) financing
  have h₃ := abs_add_le opening (income + other + financing)
  have h₄ := abs_add_le opening income
  exact ⟨contextRound_of_lt (by linarith), contextRound_of_lt (by linarith),
    contextRound_of_lt (by linarith), contextRound_of_lt (by linarith), by linarith, by linarith,
    by linarith⟩

theorem netIncome_exact {t : Tables}
    {legalEntityReference accountingBookReference periodCode statementScopeCode : String}
    {entity : LegalEntityRecord} {book : AccountingBook} {periodIds : List ℕ}
    (hscope : dep.loadScope legalEntityReference accountingBookReference
      "the financial-statement read" = .ok (entity, book))
    (hids : statementPeriodIds dep t periodCode statementScopeCode = .ok periodIds)
    {lines : List StatementLine}
    (h : loadOperationalIncomeLines dep t legalEntityReference accountingBookReference periodCode
      statementScopeCode = .ok lines)
    (hfits : total (fun row => row.1.debit + row.1.credit) (incomeRows dep t entity.legalEntityId
      book.accountingBookId periodIds) < 10 ^ contextPrecision) :
    netIncome lines = total (fun row => lineNet row.1) (incomeRows dep t entity.legalEntityId
      book.accountingBookId periodIds) := by
  have hsides : total (fun line : StatementLine => line.debitAmount + line.creditAmount) lines =
      (total (fun row => row.1.debit + row.1.credit) (incomeRows dep t entity.legalEntityId
        book.accountingBookId periodIds) : ℕ) := by
    rw [natCast_total]
    refine incomeLines_total hscope hids h _ _ fun _ _ _ group => ?_
    simp only [Nat.cast_add, total_add]
  have hlt : total (fun line : StatementLine => line.debitAmount + line.creditAmount) lines <
      10 ^ contextPrecision := by
    rw [hsides]
    exact_mod_cast hfits
  rw [netIncome_of_lt (incomeLines_nonneg h) hlt]
  refine incomeLines_total hscope hids h _ (fun row => lineNet row.1) fun _ _ _ group => ?_
  rw [← total_sub]
  rfl

/-- What the statements add up is bounded by the sides of its lines. -/
theorem SidesFit.amounts {t : Tables} (h : WellFormed dep t) {scope : StatementScope}
    (hfits : SidesFit dep t scope) :
    (∀ openingCash, openingCashAmount dep t scope.entity.legalEntityId scope.book.accountingBookId
        scope.start = .ok openingCash →
      |openingCash| + |total (fun row => lineNet row.1) (incomeRows dep t scope.entity.legalEntityId
          scope.book.accountingBookId scope.periodIds)| +
        |operatingWorkingCapitalAmount dep t scope.entity.legalEntityId scope.book.accountingBookId
          scope.periodIds| +
        |otherEquityMovementAmount dep t scope.entity.legalEntityId scope.book.accountingBookId
          scope.periodIds| < 10 ^ contextPrecision) ∧
    (∀ openingEquity, openingEquityAmount dep t scope.entity.legalEntityId
        scope.book.accountingBookId scope.start = .ok openingEquity →
      |openingEquity| + |total (fun row => lineNet row.1) (incomeRows dep t
          scope.entity.legalEntityId scope.book.accountingBookId scope.periodIds)| + |(0 : ℤ)| +
        |otherEquityMovementAmount dep t scope.entity.legalEntityId scope.book.accountingBookId
          scope.periodIds| < 10 ^ contextPrecision) := by
  set opened := total (fun row => (1 + (cashMappings dep scope.book.accountingBookId
    row.account.chartAccountId).length) * (row.debit + row.credit)) (openingLines dep t scope)
    with hopened
  set earned := total (fun row => row.1.debit + row.1.credit) (incomeRows dep t
    scope.entity.legalEntityId scope.book.accountingBookId scope.periodIds) with hearned
  set moved := total (fun row => row.debit + row.credit) (scopeLines dep t scope) with hmoved
  have hsum : (opened : ℤ) + earned + moved < 10 ^ contextPrecision := by
    exact_mod_cast (show opened + earned + moved < 10 ^ contextPrecision from hfits)
  have hincome : |total (fun row => lineNet row.1) (incomeRows dep t scope.entity.legalEntityId
      scope.book.accountingBookId scope.periodIds)| ≤ (earned : ℤ) :=
    abs_total_le_natCast fun row _ => abs_lineNet_le row.1
  have hmovements : |operatingWorkingCapitalAmount dep t scope.entity.legalEntityId
        scope.book.accountingBookId scope.periodIds| +
      |otherEquityMovementAmount dep t scope.entity.legalEntityId scope.book.accountingBookId
        scope.periodIds| ≤ (moved : ℤ) := by
    have hcapital := abs_total_le_natCast fun row (_ : row ∈ (linesOfPeriods dep t
      scope.entity.legalEntityId scope.book.accountingBookId scope.periodIds).filter fun row =>
        (row.account.accountClassCode = .asset ∨ row.account.accountClassCode = .liability) ∧
          cashMappings dep scope.book.accountingBookId row.account.chartAccountId = [] ∧
          ¬isClosingReference row.journal.journalReference) => abs_lineNet_le row
    have hequity := abs_total_le_natCast fun row (_ : row ∈ (linesOfPeriods dep t
      scope.entity.legalEntityId scope.book.accountingBookId scope.periodIds).filter fun row =>
        row.account.accountClassCode = .equity ∧
          ¬isClosingReference row.journal.journalReference) => abs_lineNet_le row
    refine (add_le_add hcapital hequity).trans ?_
    rw [← Nat.cast_add, hmoved, scopeLines]
    simp only [total_filter, ← total_add]
    refine Nat.cast_le.mpr (total_mono fun row _ => ?_)
    cases hclass : row.account.accountClassCode with
    | equity => simp only [reduceCtorEq, or_self, false_and, decide_false, if_false, true_and]; split <;> omega
    | asset => simp only [reduceCtorEq, false_and, decide_false, if_false, true_or, true_and]; split <;> omega
    | liability => simp only [reduceCtorEq, false_and, decide_false, if_false, or_true, true_and]; split <;> omega
    | revenue => simp only [reduceCtorEq, or_self, false_and, decide_false, if_false]; omega
    | expense => simp only [reduceCtorEq, or_self, false_and, decide_false, if_false]; omega
  refine ⟨fun openingCash hopening => ?_, fun openingEquity hopening => ?_⟩
  · have hcash : |openingCash| ≤ (opened : ℤ) := by
      rw [h.openingCash_eq hopening, abs_neg]
      refine abs_total_le_natCast fun row _ => ?_
      rw [abs_mul, Nat.abs_cast, Nat.cast_mul]
      refine mul_le_mul ?_ (abs_lineNet_le row) (abs_nonneg _) (Int.natCast_nonneg _)
      exact Nat.cast_le.mpr (Nat.le_add_left _ _)
    linarith
  · have hequity : |openingEquity| ≤ (opened : ℤ) := by
      rw [h.openingEquity_eq hopening, total_filter]
      refine abs_total_le_natCast fun row _ => ?_
      have hside : |lineNet row| ≤ (((1 + (cashMappings dep scope.book.accountingBookId
          row.account.chartAccountId).length) * (row.debit + row.credit) : ℕ) : ℤ) := by
        refine (abs_lineNet_le row).trans (Nat.cast_le.mpr ?_)
        exact Nat.le_mul_of_pos_left _ (by omega)
      split
      · exact hside
      · rw [abs_zero]
        exact Int.natCast_nonneg _
    have hcapital := abs_nonneg (operatingWorkingCapitalAmount dep t scope.entity.legalEntityId
      scope.book.accountingBookId scope.periodIds)
    rw [abs_zero]
    linarith

theorem SidesFit.income {t : Tables} {scope : StatementScope} (hfits : SidesFit dep t scope) :
    total (fun row => row.1.debit + row.1.credit) (incomeRows dep t scope.entity.legalEntityId
      scope.book.accountingBookId scope.periodIds) < 10 ^ contextPrecision :=
  lt_of_le_of_lt ((Nat.le_add_left _ _).trans (Nat.le_add_right _ _)) hfits

/-! ## The rows of the statements -/

theorem statementType_cashFlow : statementType "cash_flow" = some .cashFlow := by decide

theorem statementType_changesInEquity : statementType "changes_in_equity" = some .changesInEquity := by
  decide

@[simp] theorem equityMovementLine_role (accountRoleCode : String) (amount : ℤ)
    (accountClassCode : String) :
    (equityMovementLine accountRoleCode amount accountClassCode).accountRoleCode =
      accountRoleCode := rfl

/-- A statement's rows and net income come from the trial balance of its period and the facts of
    its book. -/
theorem StatementRead.source {t : Tables} {statementTypeCode : String}
    {request : IncomeStatementRequest} {document : FinancialStatementDocument} {periodCode : String}
    {statement : FinancialStatement} {scope : StatementScope} {kind : StatementType}
    (hread : StatementRead dep t statementTypeCode request document periodCode statement scope)
    (hkind : statementType statementTypeCode = some kind) :
    ∃ trialBalance, loadPeriodTrialBalance dep t request.legalEntityReference
        request.accountingBookReference periodCode "" = .ok trialBalance ∧
      statementSourceLines dep t request.legalEntityReference request.accountingBookReference
        periodCode request.statementScopeCode trialBalance (statementAccountFacts dep scope.book)
        kind = .ok statement.statementLines ∧
      statementNetIncome dep t request.legalEntityReference request.accountingBookReference periodCode
        trialBalance statement.statementLines kind = .ok statement.netIncomeAmount := by
  have hload := loadFinancialStatement_shown hread.loaded hread.shown
  simp only [loadStatement, bind_eq_ok, fetch_eq_ok, pure_eq_ok, hread.scope_eq,
    Except.ok.injEq] at hload
  obtain ⟨-, -, kind', hkind', trialBalance, htrial, _, rfl, lines, hlines, amount, hamount, rfl⟩ :=
    hload
  rw [hkind] at hkind'
  cases hkind'
  exact ⟨trialBalance, htrial, hlines, hamount⟩

/-- The cash rows of a cash flow whose amounts fit. -/
theorem StatementRead.cashRows {t : Tables} (h : WellFormed dep t) {request : IncomeStatementRequest}
    {document : FinancialStatementDocument} {periodCode : String} {statement : FinancialStatement}
    {scope : StatementScope}
    (hread : StatementRead dep t "cash_flow" request document periodCode statement scope)
    (hfits : SidesFit dep t scope) :
    let change := scopeIncome dep t scope + operatingWorkingCapitalAmount dep t
        scope.entity.legalEntityId scope.book.accountingBookId scope.periodIds +
      otherEquityMovementAmount dep t scope.entity.legalEntityId scope.book.accountingBookId
        scope.periodIds
    ∃ openingCash, openingCashAmount dep t scope.entity.legalEntityId scope.book.accountingBookId
        scope.start = .ok openingCash ∧
      shownAmount statement "opening_cash" = some openingCash ∧
      shownAmount statement "net_cash_change" = some change ∧
      shownAmount statement "closing_cash" = some (openingCash + change) := by
  intro change
  obtain ⟨trialBalance, -, hlines, -⟩ := hread.source statementType_cashFlow
  simp only [statementSourceLines, loadCashFlowLines, hread.scope_eq, hread.periods, hread.start_eq,
    bind_eq_ok, ok_bind, pure_eq_ok] at hlines
  obtain ⟨incomeLines, hincome, openingCash, hopening, hrows⟩ := hlines
  obtain ⟨hoperations, hchange, hclosing, -, hopeningLt, hchangeLt, hclosingLt⟩ :=
    additions_exact ((hfits.amounts h).1 openingCash hopening)
  rw [netIncome_exact hread.scope_eq hread.periods hincome hfits.income] at hrows
  simp only [hoperations, add_zero, hchange, hclosing] at hrows
  refine ⟨openingCash, hopening, ?_, ?_, ?_⟩
  · simp only [shownAmount, ← hrows, List.find?_cons, equityMovementLine_role, String.reduceEq,
      decide_false, decide_true, Option.map_some, equityMovementLine_net hopeningLt]
  · simp only [shownAmount, ← hrows, List.find?_cons, equityMovementLine_role, String.reduceEq,
      decide_false, decide_true, Option.map_some, equityMovementLine_net hchangeLt]
    rfl
  · simp only [shownAmount, ← hrows, List.find?_cons, equityMovementLine_role, String.reduceEq,
      decide_false, decide_true, Option.map_some, equityMovementLine_net hclosingLt]
    rfl

/-- Opening and closing of a statement of changes in equity whose amounts fit. -/
theorem StatementRead.equityRows {t : Tables} (h : WellFormed dep t)
    {request : IncomeStatementRequest} {document : FinancialStatementDocument} {periodCode : String}
    {statement : FinancialStatement} {scope : StatementScope}
    (hread : StatementRead dep t "changes_in_equity" request document periodCode statement scope)
    (hfits : SidesFit dep t scope) :
    ∃ openingEquity, openingEquityAmount dep t scope.entity.legalEntityId
        scope.book.accountingBookId scope.start = .ok openingEquity ∧
      shownAmount statement "opening_equity" = some openingEquity ∧
      shownAmount statement "closing_equity" = some (openingEquity + scopeIncome dep t scope +
        otherEquityMovementAmount dep t scope.entity.legalEntityId scope.book.accountingBookId
          scope.periodIds) := by
  obtain ⟨trialBalance, -, hlines, -⟩ := hread.source statementType_changesInEquity
  simp only [statementSourceLines, loadChangesInEquityLines, hread.scope_eq, hread.periods,
    hread.start_eq, bind_eq_ok, ok_bind, pure_eq_ok] at hlines
  obtain ⟨incomeLines, hincome, openingEquity, hopening, hrows⟩ := hlines
  obtain ⟨-, -, hclosing, hfirst, hopeningLt, -, hclosingLt⟩ :=
    additions_exact ((hfits.amounts h).2 openingEquity hopening)
  rw [add_zero, ← add_assoc] at hclosing hclosingLt
  rw [netIncome_exact hread.scope_eq hread.periods hincome hfits.income] at hrows
  simp only [hfirst, hclosing] at hrows
  refine ⟨openingEquity, hopening, ?_, ?_⟩
  · simp only [shownAmount, ← hrows, List.find?_cons, equityMovementLine_role, decide_true,
      Option.map_some, equityMovementLine_net hopeningLt]
  · simp only [shownAmount, ← hrows, List.find?_cons, equityMovementLine_role, String.reduceEq,
      decide_false, decide_true, Option.map_some, equityMovementLine_net hclosingLt]
    rfl

variable (dep) in
/-- The closing cash of a cash flow is the ledger's cash at the period end, with what is counted
    again and without what is missed or not mirrored; so it ties exactly when these cancel. -/
theorem cashFlow_ties_iff (commands : List Command) (request : IncomeStatementRequest)
    (document : FinancialStatementDocument) (periodCode : String) (statement : FinancialStatement)
    (scope : StatementScope)
    (hread : StatementRead dep (ledgerAfter dep commands) "cash_flow" request document periodCode
      statement scope)
    (hdisjoint : NonOverlapping (ledgerAfter dep commands).fiscalPeriods)
    (hfits : SidesFit dep (ledgerAfter dep commands) scope) :
    let t := ledgerAfter dep commands
    let again := repeatedIncome dep (operationalLines dep t scope.entity scope.book scope.periodIds) +
      repeatedCash dep t scope
    let lost := missedCash dep t scope + unmirroredCash dep t scope
    (∃ openingCash change, shownAmount statement "opening_cash" = some openingCash ∧
      shownAmount statement "net_cash_change" = some change ∧
      shownAmount statement "closing_cash" = some (openingCash + change)) ∧
    shownAmount statement "closing_cash" = some (ledgerCash dep t scope + again - lost) ∧
    (shownAmount statement "closing_cash" = some (ledgerCash dep t scope) ↔ again = lost) := by
  intro t again lost
  have hwf : WellFormed dep t := wellFormed_ledgerAfter commands
  obtain ⟨openingCash, hopening, hshown, hchange, hclosing⟩ := hread.cashRows hwf hfits
  have hamount := hwf.closingCash_eq hdisjoint hread.period_eq hread.periods hread.start_eq hopening
  have hledger : shownAmount statement "closing_cash" =
      some (ledgerCash dep t scope + again - lost) := by
    rw [hclosing, Option.some.injEq]
    unfold scopeIncome
    rw [hamount]
    ring
  refine ⟨⟨openingCash, _, hshown, hchange, hclosing⟩, hledger, ?_⟩
  rw [hledger, Option.some.injEq]
  constructor
  · intro htie
    linarith
  · intro hcancel
    linarith

/-! ## The closing equity -/

/-- Without rounding the closing equity is the ledger's equity and the scope's income, less what
    closing journals already moved to equity and what is missed. -/
theorem WellFormed.closingEquity_eq {t : Tables} (h : WellFormed dep t)
    (hdisjoint : NonOverlapping t.fiscalPeriods) {scope : StatementScope}
    {periodCode statementScopeCode : String}
    (hperiod : periodByCode dep t periodCode = some scope.period)
    (hids : statementPeriodIds dep t periodCode statementScopeCode = .ok scope.periodIds)
    (hstart : scopeStart t scope.periodIds = .ok scope.start) {openingEquity : ℤ}
    (hopening : openingEquityAmount dep t scope.entity.legalEntityId scope.book.accountingBookId
      scope.start = .ok openingEquity) :
    openingEquity + scopeIncome dep t scope + otherEquityMovementAmount dep t
        scope.entity.legalEntityId scope.book.accountingBookId scope.periodIds =
      ledgerEquity dep t scope + scopeIncome dep t scope - closedToEquity dep t scope -
        missedEquity dep t scope := by
  have hsplit := h.lines_split hdisjoint hperiod hids hstart fun row =>
    if row.account.accountClassCode = .equity then lineNet row else 0
  have hfilter : ∀ rows : List LedgerLine, total (fun row =>
      if row.account.accountClassCode = .equity then lineNet row else 0) rows =
        total lineNet (rows.filter fun row => row.account.accountClassCode = .equity) :=
    fun rows => by simp only [total_filter, decide_eq_true_eq]
  have hmoved : total lineNet ((scopeLines dep t scope).filter fun row =>
      row.account.accountClassCode = .equity) =
        otherEquityMovementAmount dep t scope.entity.legalEntityId scope.book.accountingBookId
          scope.periodIds + closedToEquity dep t scope := by
    rw [otherEquityMovementAmount, closedToEquity, scopeLines]
    simp only [total_filter, ← total_add]
    refine total_congr fun row _ => ?_
    by_cases hclosing : isClosingReference row.journal.journalReference = true
    · simp [hclosing]
    · simp [hclosing]
  simp only [hfilter] at hsplit
  rw [h.openingEquity_eq hopening, ledgerEquity, missedEquity]
  linarith

theorem AccountClass.code_eq_equity {accountClass : AccountClass} :
    accountClass.code = "equity" ↔ accountClass = .equity := by
  cases accountClass <;> decide

/-- The equity rows of a balance sheet. -/
theorem balanceSheetLines_equity {facts : Dict String (String × AccountClass)}
    {entries : List TrialBalanceEntry} {lines : List StatementLine}
    (h : balanceSheetLines facts entries = .ok lines) :
    total (fun line : StatementLine => line.creditAmount - line.debitAmount)
        (lines.filter fun line => line.accountClassCode = "equity") =
      total (fun entry : TrialBalanceEntry => (entry.creditAmount : ℤ) - entry.debitAmount)
        (entries.filter fun entry =>
          (facts.get? entry.chartAccountCode).any fun fact => fact.2 = .equity) := by
  induction entries generalizing lines with
  | nil => cases h; rfl
  | cons entry rest ih =>
    simp only [balanceSheetLines, bind_eq_ok, fetch_eq_ok] at h
    obtain ⟨fact, hfact, lines', hlines', h⟩ := h
    have hrest := ih hlines'
    by_cases hequity : fact.2 = .equity
    · have hsheet : isSheetClass fact.2 = true := by rw [hequity]; rfl
      rw [if_pos hsheet, pure_eq_ok] at h
      rw [← h, List.filter_cons_of_pos (by simp [AccountClass.code_eq_equity, hequity]),
        List.filter_cons_of_pos (by simp [hfact, hequity]), total_cons, total_cons, hrest]
    · rw [List.filter_cons_of_neg (by simp [hfact, hequity]), ← hrest]
      split at h
      · rw [pure_eq_ok] at h
        rw [← h, List.filter_cons_of_neg (by simp [AccountClass.code_eq_equity, hequity])]
      · rw [pure_eq_ok] at h
        rw [h]

theorem incomeRows_mono (t : Tables) (legalEntityId bookId : ℕ) {periodId : ℕ} {periodIds : List ℕ}
    (h : periodId ∈ periodIds) :
    total (fun row => row.1.debit + row.1.credit) (incomeRows dep t legalEntityId bookId [periodId]) ≤
      total (fun row => row.1.debit + row.1.credit) (incomeRows dep t legalEntityId bookId periodIds) := by
  rw [incomeRows, incomeRows, total_flatMap, total_flatMap, linesOfPeriods_eq, linesOfPeriods_eq]
  simp only [total_filter]
  refine total_mono fun row _ => ?_
  by_cases hin : row.journal.fiscalPeriodId = periodId
  · simp [hin, h]
  · simp [hin]

/-- Equity of a balance sheet: the reported equity lines and the net income of the period. -/
theorem StatementRead.sheetEquity_eq {t : Tables} (h : WellFormed dep t)
    {request : IncomeStatementRequest} {document : FinancialStatementDocument} {periodCode : String}
    {statement : FinancialStatement} {scope : StatementScope}
    (hread : StatementRead dep t "balance_sheet" request document periodCode statement scope)
    (hfits : SidesFit dep t scope) :
    sheetEquity statement = ledgerEquity dep t scope - unreportedEquity dep t scope +
      sheetIncome dep t scope := by
  obtain ⟨trialBalance, htrial, hlines, hincome⟩ := hread.source statementType_balanceSheet
  obtain ⟨entity, book, period, htb⟩ := h.trialBalance_read htrial
  have hscope := loadScope_congr htb.scope "the financial-statement read"
  rw [hread.scope_eq] at hscope
  cases hscope
  have hperiod := htb.period_eq
  rw [hread.period_eq] at hperiod
  cases hperiod
  have hequity : total (fun line : StatementLine => line.creditAmount - line.debitAmount)
      (statement.statementLines.filter fun line => line.accountClassCode = "equity") =
        total lineNet ((reportedLines dep t scope.entity.legalEntityId scope.book.accountingBookId
          scope.period).filter (isSheetEquityLine dep scope)) := by
    rw [balanceSheetLines_equity hlines, total_perm (htb.lines.filter _), List.filter_map, total_map]
    exact balanceRows_total dep lineNet
      (fun row : BalanceRow => (row.creditTotal : ℤ) - row.debitTotal) _
      (fun key => ((statementAccountFacts dep scope.book).get? key.2).any fun fact =>
        fact.2 = .equity) fun _ group => (total_lineNet group).symm
  have hamount : statement.netIncomeAmount = sheetIncome dep t scope := by
    simp only [statementNetIncome, htb.status] at hincome
    unfold sheetIncome
    split at hincome
    · next hhard =>
      rw [if_pos hhard]
      exact (Except.ok.inj hincome).symm
    · next hhard =>
      simp only [bind_eq_ok, pure_eq_ok] at hincome
      obtain ⟨incomeLines, hloaded, hamount⟩ := hincome
      obtain ⟨rollforward, hcode, hscopeCode⟩ : ∃ r : RollforwardRequest, r.periodCode = periodCode ∧
          r.statementScopeCode = request.statementScopeCode :=
        ⟨⟨"", "", periodCode, "", request.statementScopeCode⟩, rfl, rfl⟩
      have hmem := (statementPeriodIds_mem h (hcode ▸ hread.period_eq)
        (hcode ▸ hscopeCode ▸ hread.periods)).1
      rw [if_neg hhard, ← hamount]
      exact netIncome_exact hread.scope_eq (statementPeriodIds_period hread.period_eq) hloaded
        ((incomeRows_mono t _ _ hmem).trans_lt hfits.income)
  rw [sheetEquity, hequity, hamount, unreportedEquity]
  ring

/-- The opening of a statement that starts the day after a period end counts the equity lines
    through that end, but for the ones it does not open with. -/
theorem nextOpening_eq {t : Tables} {scope next : StatementScope} (hentity : next.entity = scope.entity)
    (hbook : next.book = scope.book) (hnext : next.start = scope.period.periodEndDate + 1) :
    total lineNet ((openingLines dep t next).filter fun row => row.account.accountClassCode = .equity) =
      ledgerEquity dep t scope - unopenedEquity dep t scope next := by
  rw [eq_sub_iff_add_eq, ledgerEquity, unopenedEquity, openingLines, throughLines, linesThrough_eq,
    hentity, hbook]
  simp only [total_filter, ← total_add]
  refine total_congr fun row _ => ?_
  by_cases hopened : isOpened dep t next row
  · have hlt := isOpened_lt hopened
    rw [hnext] at hlt
    have hle : row.journal.accountingDate ≤ scope.period.periodEndDate := Nat.le_of_lt_succ hlt
    simp [hopened, hle]
  · simp [hopened]

variable (dep) in
/-- The closing equity is the ledger's equity and the income of the scope that closing journals
    have not moved there, without what is missed. It is the equity of the balance sheet, and the
    opening of the statement that starts the next day, exactly when the parts that the two read
    differently cancel. -/
theorem changesInEquity_ties_iff (commands : List Command) (request : IncomeStatementRequest)
    (document : FinancialStatementDocument) (periodCode : String) (statement : FinancialStatement)
    (scope : StatementScope)
    (hread : StatementRead dep (ledgerAfter dep commands) "changes_in_equity" request document
      periodCode statement scope)
    (hdisjoint : NonOverlapping (ledgerAfter dep commands).fiscalPeriods)
    (hfits : SidesFit dep (ledgerAfter dep commands) scope) :
    let t := ledgerAfter dep commands
    let moved := closedToEquity dep t scope + missedEquity dep t scope
    shownAmount statement "closing_equity" =
      some (ledgerEquity dep t scope + scopeIncome dep t scope - moved) ∧
    (∀ sheetDocument sheet,
      StatementRead dep t "balance_sheet" request sheetDocument periodCode sheet scope →
      (shownAmount statement "closing_equity" = some (sheetEquity sheet) ↔
        unreportedEquity dep t scope + scopeIncome dep t scope = sheetIncome dep t scope + moved)) ∧
    ∀ nextRequest nextDocument nextCode nextStatement next,
      StatementRead dep t "changes_in_equity" nextRequest nextDocument nextCode nextStatement next →
      next.entity = scope.entity → next.book = scope.book →
      next.start = scope.period.periodEndDate + 1 → SidesFit dep t next →
      (shownAmount nextStatement "opening_equity" = shownAmount statement "closing_equity" ↔
        unopenedEquity dep t scope next + scopeIncome dep t scope = moved) := by
  intro t moved
  have hwf : WellFormed dep t := wellFormed_ledgerAfter commands
  obtain ⟨openingEquity, hopening, -, hclosing⟩ := hread.equityRows hwf hfits
  have hamount := hwf.closingEquity_eq hdisjoint hread.period_eq hread.periods hread.start_eq hopening
  have hledger : shownAmount statement "closing_equity" =
      some (ledgerEquity dep t scope + scopeIncome dep t scope - moved) := by
    rw [hclosing, hamount, sub_sub]
  refine ⟨hledger, ?_, ?_⟩
  · intro sheetDocument sheet hsheet
    rw [hledger, hsheet.sheetEquity_eq hwf hfits, Option.some.injEq]
    constructor
    · intro htie
      linarith
    · intro hcancel
      linarith
  · intro nextRequest nextDocument nextCode nextStatement next hnext hentity hbook hstart hnextFits
    obtain ⟨nextOpening, hnextOpening, hshown, -⟩ := hnext.equityRows hwf hnextFits
    rw [hledger, hshown, hwf.openingEquity_eq hnextOpening, nextOpening_eq hentity hbook hstart,
      Option.some.injEq]
    constructor
    · intro htie
      linarith
    · intro hcancel
      linarith

/-! ## A paid sale -/

/-- The sample catalog with a cash account. -/
def cashCatalog : Catalog where
  tenantReference := "urn:cwl:tenant:t1"
  legalEntities := [sampleEntity]
  books := [sampleBook]
  chartAccounts := sampleAccounts 1 ++ [⟨17, 1, "110200", .asset, true⟩]
  roleMappings := sampleMappings 1 ++ [⟨1, "cash_receipt", 17, "v1", "v1", 0, none⟩]
  calendars := [⟨1, "main"⟩]
  legalEntity_key := sampleCatalog.legalEntity_key
  book_key := sampleCatalog.book_key
  chartAccount_key := by decide
  book_entity := sampleCatalog.book_entity

/-- January stays open with a sale that is paid at once; February is opened. -/
def paidSaleCommands : List Command := [
  samplePeriod "2024-01" "open-1" 738886 738916,
  samplePeriod "2024-02" "open-2" 738917 738945,
  .postAdjustingJournal ⟨"urn:cwl:legal_entity:e1", "urn:cwl:book:b1", "2024-01", 738900, "sale-1",
    "sha256:0000000000000000000000000000000000000000000000000000000000000000",
    "0f8fad5b-d9cb-469f-a165-70867728950e", "KRW",
    [⟨1, "110200", "cash_receipt", 1000000, 0⟩, ⟨2, "410100", "usage_revenue", 0, 1000000⟩]⟩]

def statementOf (periodCode : String) : IncomeStatementRequest :=
  ⟨"urn:cwl:legal_entity:e1", "urn:cwl:book:b1", periodCode, "", ""⟩

def paidSaleDocument (periodCode statementTypeCode : String) (lines : List StatementLine)
    (totalDebitAmount totalCreditAmount netIncomeAmount : ℤ) : FinancialStatementDocument where
  statement := {
    tenantReference := "urn:cwl:tenant:t1"
    legalEntityReference := "urn:cwl:legal_entity:e1"
    accountingBookReference := "urn:cwl:book:b1"
    fiscalPeriodReference := fiscalPeriodReference periodCode
    statementTypeCode := statementTypeCode
    statementLines := lines
    totalDebitAmount := totalDebitAmount
    totalCreditAmount := totalCreditAmount
    netIncomeAmount := netIncomeAmount
    statementScopeCode := none }
  comparison := none

def januaryScope : StatementScope :=
  ⟨sampleEntity, sampleBook, openMonth 1 "2024-01" 738886 738916 (by decide), [1], 738886⟩

def februaryScope : StatementScope :=
  ⟨sampleEntity, sampleBook, februaryPeriod, [2], 738917⟩

def januaryCash : FinancialStatementDocument :=
  paidSaleDocument "2024-01" "cash_flow" [
    equityMovementLine "period_net_income" 1000000 "",
    equityMovementLine "operating_working_capital" 0 "",
    equityMovementLine "cash_from_operations" 1000000 "",
    equityMovementLine "cash_from_investing" 0 "",
    equityMovementLine "cash_from_financing" 0 "",
    equityMovementLine "net_cash_change" 1000000 "",
    equityMovementLine "opening_cash" 0 "",
    equityMovementLine "closing_cash" 1000000 ""] 0 4000000 1000000

def equityChanges (periodCode : String) (netIncomeAmount : ℤ) : FinancialStatementDocument :=
  paidSaleDocument periodCode "changes_in_equity" [
    equityMovementLine "opening_equity" 0 "equity",
    equityMovementLine "period_net_income" netIncomeAmount "equity",
    equityMovementLine "other_equity_movements" 0 "equity",
    equityMovementLine "closing_equity" netIncomeAmount "equity"] 0 (2 * netIncomeAmount)
    netIncomeAmount

def januarySheet : FinancialStatementDocument :=
  paidSaleDocument "2024-01" "balance_sheet" [
    ⟨"110200", "cash_receipt", "asset", 1000000, 0⟩] 1000000 0 1000000

/-- The statements after these commands and what they read differently, evaluated. -/
theorem paidSale_statements :
    let dep := sampleDeployment cashCatalog
    let t := ledgerAfter dep paidSaleCommands
    NonOverlapping t.fiscalPeriods ∧ SidesFit dep t januaryScope ∧ SidesFit dep t februaryScope ∧
    StatementRead dep t "cash_flow" (statementOf "2024-01") januaryCash "2024-01"
      januaryCash.statement januaryScope ∧
    (repeatedIncome dep (operationalLines dep t sampleEntity sampleBook [1]) +
        repeatedCash dep t januaryScope =
      missedCash dep t januaryScope + unmirroredCash dep t januaryScope) ∧
    StatementRead dep t "changes_in_equity" (statementOf "2024-01") (equityChanges "2024-01" 1000000)
      "2024-01" (equityChanges "2024-01" 1000000).statement januaryScope ∧
    StatementRead dep t "balance_sheet" (statementOf "2024-01") januarySheet "2024-01"
      januarySheet.statement januaryScope ∧
    (unreportedEquity dep t januaryScope + scopeIncome dep t januaryScope =
      sheetIncome dep t januaryScope +
        (closedToEquity dep t januaryScope + missedEquity dep t januaryScope)) ∧
    StatementRead dep t "changes_in_equity" (statementOf "2024-02") (equityChanges "2024-02" 0)
      "2024-02" (equityChanges "2024-02" 0).statement februaryScope ∧
    ¬(unopenedEquity dep t januaryScope februaryScope + scopeIncome dep t januaryScope =
      closedToEquity dep t januaryScope + missedEquity dep t januaryScope) := by
  decide +kernel

/-- January's closing cash is the cash of the ledger. -/
theorem januaryCash_ties :
    let dep := sampleDeployment cashCatalog
    shownAmount januaryCash.statement "closing_cash" =
      some (ledgerCash dep (ledgerAfter dep paidSaleCommands) januaryScope) := by
  obtain ⟨hdisjoint, hfits, -, hread, hcancel, -⟩ := paidSale_statements
  exact (cashFlow_ties_iff (sampleDeployment cashCatalog) paidSaleCommands (statementOf "2024-01")
    januaryCash "2024-01" januaryCash.statement januaryScope hread hdisjoint hfits).2.2.mpr hcancel

/-- January's closing equity is that of its balance sheet; as its income is not closed, February
    does not open with it. -/
theorem januaryEquity_ties :
    shownAmount (equityChanges "2024-01" 1000000).statement "closing_equity" =
      some (sheetEquity januarySheet.statement) ∧
    shownAmount (equityChanges "2024-02" 0).statement "opening_equity" ≠
      shownAmount (equityChanges "2024-01" 1000000).statement "closing_equity" := by
  obtain ⟨hdisjoint, hfits, hnextFits, -, -, hread, hsheet, hcancel, hnext, hopen⟩ :=
    paidSale_statements
  obtain ⟨-, hties, hcontinues⟩ := changesInEquity_ties_iff (sampleDeployment cashCatalog)
    paidSaleCommands (statementOf "2024-01") (equityChanges "2024-01" 1000000) "2024-01"
    (equityChanges "2024-01" 1000000).statement januaryScope hread hdisjoint hfits
  refine ⟨(hties januarySheet januarySheet.statement hsheet).mpr hcancel, fun hequal => hopen ?_⟩
  exact (hcontinues (statementOf "2024-02") (equityChanges "2024-02" 0) "2024-02"
    (equityChanges "2024-02" 0).statement februaryScope hnext rfl rfl rfl hnextFits).mp hequal

end AccountingPlatform.Postgres
