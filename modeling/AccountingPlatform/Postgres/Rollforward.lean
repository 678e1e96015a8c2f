/-
  When the account rollforward ties to the ledger.

  The opening is the latest hard-closed snapshot before the scope, or all earlier lines; the
  movement is that of the scope's periods. Lines dated through the period end that are in
  neither are left out: those of periods between the snapshot and the scope, and those posted
  into the snapshot's range after it.
-/
import AccountingPlatform.Postgres.Balances

namespace AccountingPlatform.Postgres

open AccountingPlatform.Lib AccountingPlatform.Core

variable (dep : Deployment)

/-! ## The read -/

structure RollforwardRequest where
  legalEntityReference : String
  accountingBookReference : String
  periodCode : String
  chartAccountCode : String
  statementScopeCode : String

/-- A rollforward that was read, with the rows its scope resolved to. -/
structure RollforwardRead (t : Tables) (request : RollforwardRequest) (entity : LegalEntityRecord)
    (book : AccountingBook) (period : FiscalPeriod) (document : AccountRollforwardDocument) :
    Prop where
  loaded : loadAccountRollforward dep t request.legalEntityReference request.accountingBookReference
    request.periodCode request.chartAccountCode request.statementScopeCode = .ok document
  scope : dep.loadScope request.legalEntityReference request.accountingBookReference
    "the account-rollforward read" = .ok (entity, book)
  period_eq : periodByCode dep t request.periodCode = some period

instance (t : Tables) (request : RollforwardRequest) (entity : LegalEntityRecord)
    (book : AccountingBook) (period : FiscalPeriod) (document : AccountRollforwardDocument) :
    Decidable (RollforwardRead dep t request entity book period document) :=
  decidable_of_iff
    (loadAccountRollforward dep t request.legalEntityReference request.accountingBookReference
        request.periodCode request.chartAccountCode request.statementScopeCode = .ok document ∧
      dep.loadScope request.legalEntityReference request.accountingBookReference
        "the account-rollforward read" = .ok (entity, book) ∧
      periodByCode dep t request.periodCode = some period)
    ⟨fun h => ⟨h.1, h.2.1, h.2.2⟩, fun h => ⟨h.loaded, h.scope, h.period_eq⟩⟩

/-- No day is in two periods. -/
def NonOverlapping (periods : List FiscalPeriod) : Prop :=
  ∀ p ∈ periods, ∀ q ∈ periods, p = q ∨ p.periodEndDate < q.periodStartDate ∨
    q.periodEndDate < p.periodStartDate

instance (periods : List FiscalPeriod) : Decidable (NonOverlapping periods) :=
  inferInstanceAs (Decidable (∀ p ∈ periods, ∀ q ∈ periods, _))

/-! ## What the ledger says -/

/-- Both sides of an account over all lines of the book through the period end. -/
def ledgerSides (t : Tables) (request : RollforwardRequest) (entity : LegalEntityRecord)
    (book : AccountingBook) (period : FiscalPeriod) : ℕ × ℕ :=
  accountSides request.chartAccountCode
    (linesThrough dep t entity.legalEntityId book.accountingBookId period.periodEndDate)

/-- Both sides of the entries of an account-balance document. -/
def balanceSides (entries : List AccountBalanceEntry) : ℕ × ℕ :=
  (total AccountBalanceEntry.debitAmount entries, total AccountBalanceEntry.creditAmount entries)

/-- The closing sides are those of the ledger, and so are the sides that the trial balance and
    the account balances report. -/
structure TiesToLedger (t : Tables) (request : RollforwardRequest) (entity : LegalEntityRecord)
    (book : AccountingBook) (period : FiscalPeriod) (document : AccountRollforwardDocument) :
    Prop where
  closing : document.closingDebitAmount = (ledgerSides dep t request entity book period).1 ∧
    document.closingCreditAmount = (ledgerSides dep t request entity book period).2
  trialBalance : ∀ trialBalance, loadPeriodTrialBalance dep t request.legalEntityReference
      request.accountingBookReference request.periodCode "" = .ok trialBalance →
    reportedSides request.chartAccountCode trialBalance.lines =
      ledgerSides dep t request entity book period
  accountBalances : ∀ pageLimit balances, 0 < pageLimit →
    strip request.chartAccountCode = request.chartAccountCode →
    loadAccountBalances dep t request.legalEntityReference request.accountingBookReference
      request.periodCode request.chartAccountCode pageLimit "" = .ok balances →
    balanceSides balances.accountBalances = ledgerSides dep t request entity book period

/-! ## Left-out lines -/

/-- Lines on the account through the period end, opened after `start`, that are in neither part. -/
def leftOutFrom (t : Tables) (request : RollforwardRequest) (entity : LegalEntityRecord)
    (book : AccountingBook) (period : FiscalPeriod) (periodIds : List ℕ) (start : Date) :
    List LedgerLine :=
  let lines := (linesThrough dep t entity.legalEntityId book.accountingBookId
    period.periodEndDate).filter fun row => row.code = request.chartAccountCode
  match priorSnapshot dep t entity.legalEntityId book.accountingBookId start with
  | some (prior, snapshot) => lines.filter fun row =>
      (row.journal.accountingDate ≤ prior.periodEndDate ∧
        snapshot.snapshotGeneratedAt < row.journal.postedAt) ∨
      (prior.periodEndDate < row.journal.accountingDate ∧ row.journal.fiscalPeriodId ∉ periodIds)
  | none => lines.filter fun row =>
      start ≤ row.journal.accountingDate ∧ row.journal.fiscalPeriodId ∉ periodIds

/-- The same for the periods and the start of the requested scope. -/
def leftOutLines (t : Tables) (request : RollforwardRequest) (entity : LegalEntityRecord)
    (book : AccountingBook) (period : FiscalPeriod) : List LedgerLine :=
  match statementPeriodIds dep t request.periodCode request.statementScopeCode with
  | .error _ => []
  | .ok periodIds =>
    match scopeStart t periodIds with
    | .error _ => []
    | .ok start => leftOutFrom dep t request entity book period periodIds start

def leftOutSides (t : Tables) (request : RollforwardRequest) (entity : LegalEntityRecord)
    (book : AccountingBook) (period : FiscalPeriod) : ℕ × ℕ :=
  let lines := leftOutLines dep t request entity book period
  (total LedgerLine.debit lines, total LedgerLine.credit lines)

/-- Nothing the closing should contain is lost: to 28 digits no left-out line counts. -/
def NothingLeftOut (t : Tables) (request : RollforwardRequest) (entity : LegalEntityRecord)
    (book : AccountingBook) (period : FiscalPeriod) : Prop :=
  let sides := ledgerSides dep t request entity book period
  let missed := leftOutSides dep t request entity book period
  contextRound ((sides.1 : ℤ) - missed.1) = sides.1 ∧ contextRound ((sides.2 : ℤ) - missed.2) = sides.2

instance (t : Tables) (request : RollforwardRequest) (entity : LegalEntityRecord)
    (book : AccountingBook) (period : FiscalPeriod) :
    Decidable (NothingLeftOut dep t request entity book period) :=
  inferInstanceAs (Decidable (_ ∧ _))

/-- A period the calendar marks hard-closed: its snapshot saw every line on the account. -/
def SnapshotComplete (t : Tables) (request : RollforwardRequest) (entity : LegalEntityRecord)
    (book : AccountingBook) (period : FiscalPeriod) : Prop :=
  period.periodStatus = .hardClosed →
    ∀ snapshot, latestCloseSnapshot t entity.legalEntityId book.accountingBookId
        period.fiscalPeriodId = some snapshot →
      ∀ row ∈ linesThrough dep t entity.legalEntityId book.accountingBookId period.periodEndDate,
        row.code = request.chartAccountCode → row.journal.postedAt ≤ snapshot.snapshotGeneratedAt

variable {dep}

/-! ## Scope of the movement -/

theorem statementPeriodIds_mem {t : Tables} (h : WellFormed dep t) {request : RollforwardRequest}
    {period : FiscalPeriod} (hperiod : periodByCode dep t request.periodCode = some period)
    {periodIds : List ℕ}
    (hids : statementPeriodIds dep t request.periodCode request.statementScopeCode = .ok periodIds) :
    period.fiscalPeriodId ∈ periodIds ∧
      ∀ p ∈ t.fiscalPeriods, p.fiscalPeriodId ∈ periodIds →
        p.periodStartDate ≤ period.periodStartDate := by
  have hpmem := (periodByCode_mem dep hperiod).1
  simp only [statementPeriodIds, hperiod, fetch, ok_bind] at hids
  split at hids
  · simp only [pure_eq_ok] at hids
    subst hids
    refine ⟨List.mem_singleton.mpr rfl, fun p hp hid => ?_⟩
    rw [period_of_id h.period_keys hp hpmem (List.mem_singleton.mp hid)]
  · simp only [pure_eq_ok] at hids
    subst hids
    constructor
    · exact List.mem_map.mpr ⟨period, by simp [hpmem], rfl⟩
    · intro p hp hid
      obtain ⟨peer, hpeer, hpeerid⟩ := List.mem_map.mp hid
      simp only [List.mem_filter, decide_eq_true_eq] at hpeer
      rw [← period_of_id h.period_keys hpeer.1 hp hpeerid]
      exact hpeer.2.2.1

theorem scopeStart_le {t : Tables} {periodIds : List ℕ} {start : Date}
    (h : scopeStart t periodIds = .ok start) {p : FiscalPeriod} (hp : p ∈ t.fiscalPeriods)
    (hid : p.fiscalPeriodId ∈ periodIds) : start ≤ p.periodStartDate := by
  simp only [scopeStart, fetch_eq_ok] at h
  refine (List.min?_eq_some_iff.mp h).2 _ (List.mem_map.mpr ⟨p, ?_, rfl⟩)
  simp [hp, hid]

/-- A journal of the scope's periods is dated between the start of the scope and the period end. -/
theorem WellFormed.scope_dates {t : Tables} (h : WellFormed dep t)
    (hdisjoint : NonOverlapping t.fiscalPeriods) {request : RollforwardRequest}
    {period : FiscalPeriod} (hperiod : periodByCode dep t request.periodCode = some period)
    {periodIds : List ℕ} {start : Date}
    (hids : statementPeriodIds dep t request.periodCode request.statementScopeCode = .ok periodIds)
    (hstart : scopeStart t periodIds = .ok start) {journal : GeneralJournal}
    (hj : journal ∈ t.journals) (hin : journal.fiscalPeriodId ∈ periodIds) :
    start ≤ journal.accountingDate ∧ journal.accountingDate ≤ period.periodEndDate := by
  obtain ⟨p, hp, hid, hle, hge⟩ := (h.facts journal hj).dated
  rw [← hid] at hin
  have hpmem := (periodByCode_mem dep hperiod).1
  have hbefore := (statementPeriodIds_mem h hperiod hids).2 p hp hin
  have hstart' := scopeStart_le hstart hp hin
  have hdates := period.dates_ordered
  refine ⟨hstart'.trans hle, ?_⟩
  rcases hdisjoint p hp period hpmem with rfl | hlt | hlt
  · exact hge
  · exact hge.trans (hlt.le.trans hdates)
  · exact absurd (hlt.trans_le hbefore) (Nat.not_lt.mpr hdates)

/-! ## The parts of the closing -/

theorem mem_priorSnapshot {t : Tables} {legalEntityId bookId : ℕ} {day : Date}
    {prior : FiscalPeriod × TrialBalanceSnapshot}
    (h : priorSnapshot dep t legalEntityId bookId day = some prior) :
    prior.1 ∈ t.fiscalPeriods ∧ prior.1.periodEndDate < day ∧ prior.1.periodStatus = .hardClosed ∧
      prior.2 ∈ t.snapshots ∧ prior.1.fiscalPeriodId = prior.2.fiscalPeriodId ∧
      prior.2.legalEntityId = legalEntityId ∧ prior.2.accountingBookId = bookId := by
  have hmem := List.mem_of_mem_head? h
  rw [(List.perm_insertionSort _ _).mem_iff, (dep.rowOrder_perm _).mem_iff] at hmem
  simp only [priorSnapshots, List.mem_flatMap, List.mem_filter, List.mem_map,
    decide_eq_true_eq] at hmem
  obtain ⟨p, ⟨hp, hend, hhard⟩, s, ⟨hs, hid, hle, hb⟩, rfl⟩ := hmem
  exact ⟨hp, hend, hhard, hs, hid.symm, hle, hb⟩

/-- Lines of a book on one account. -/
def accountLines (dep : Deployment) (t : Tables) (legalEntityId bookId : ℕ) (code : String) :
    List LedgerLine :=
  (bookLines dep t legalEntityId bookId).filter fun row => row.code = code

theorem accountSides_filter (t : Tables) (legalEntityId bookId : ℕ) (code : String)
    (p : LedgerLine → Bool) :
    accountSides code ((bookLines dep t legalEntityId bookId).filter p) =
      (total LedgerLine.debit ((accountLines dep t legalEntityId bookId code).filter p),
        total LedgerLine.credit ((accountLines dep t legalEntityId bookId code).filter p)) := by
  rw [accountSides, accountLines, List.filter_comm]

/-- The opening counts the lines the prior snapshot saw, or those before the scope. -/
theorem WellFormed.opening_sides {t : Tables} (h : WellFormed dep t) {legalEntityId bookId : ℕ}
    {code : String} {start : Date} {opening : ℕ × ℕ}
    (hopening : openingAccountSides dep t legalEntityId bookId code start = .ok opening) :
    opening = accountSides code ((bookLines dep t legalEntityId bookId).filter fun row =>
      match priorSnapshot dep t legalEntityId bookId start with
      | some (prior, snapshot) => row.journal.accountingDate ≤ prior.periodEndDate ∧
          row.journal.postedAt ≤ snapshot.snapshotGeneratedAt
      | none => row.journal.accountingDate < start) := by
  unfold openingAccountSides at hopening
  cases hprior : priorSnapshot dep t legalEntityId bookId start with
  | some prior =>
    obtain ⟨hp, -, -, hs, hid, hle, hb⟩ := mem_priorSnapshot hprior
    have hsides := h.snapshot_sides hs hp hid code
    rw [hle, hb] at hsides
    simp only [hprior] at hopening ⊢
    rw [← hsides]
    cases hline : dep.fetchone (prior.2.lines.filter fun line =>
        (dep.chartAccount? line.chartAccountId).map ChartAccount.chartAccountCode = some code) with
    | none =>
      rw [hline] at hopening
      cases hopening
      rfl
    | some line =>
      rw [hline] at hopening
      cases hopening
      rfl
  | none =>
    simp only [hprior, dayBefore, bind_eq_ok, require_eq_ok, pure_eq_ok] at hopening ⊢
    obtain ⟨through, ⟨-, hday, rfl⟩, rfl⟩ := hopening
    rw [linesThrough_eq]
    congr 1
    refine List.filter_congr fun row _ => ?_
    have hbefore : row.journal.accountingDate ≤ start - 1 ↔ row.journal.accountingDate < start :=
      (Nat.lt_iff_le_pred (Nat.zero_lt_of_lt hday)).symm
    simp only [hbefore]

/-- Days and moments of one line, with a snapshot of a period that ended on `q` at `g`. -/
theorem covered_with_prior {d q p s m g : ℕ} {inScope : Prop} (hin : inScope → s ≤ d ∧ d ≤ p)
    (hq : q < s) (hs : s ≤ p) :
    (d ≤ p ∧ (d ≤ q ∧ m ≤ g) ∧ ¬inScope ∧ ¬(((d ≤ q ∧ g < m) ∨ (q < d ∧ ¬inScope)) ∧ d ≤ p)) ∨
    (d ≤ p ∧ ¬(d ≤ q ∧ m ≤ g) ∧ inScope ∧ ¬(((d ≤ q ∧ g < m) ∨ (q < d ∧ ¬inScope)) ∧ d ≤ p)) ∨
    (d ≤ p ∧ ¬(d ≤ q ∧ m ≤ g) ∧ ¬inScope ∧ (((d ≤ q ∧ g < m) ∨ (q < d ∧ ¬inScope)) ∧ d ≤ p)) ∨
    (¬d ≤ p ∧ ¬(d ≤ q ∧ m ≤ g) ∧ ¬inScope ∧
      ¬(((d ≤ q ∧ g < m) ∨ (q < d ∧ ¬inScope)) ∧ d ≤ p)) := by
  by_cases h : inScope
  · have := hin h
    simp only [h, not_true_eq_false, and_false, or_false, true_and, false_and, false_or]
    omega
  · simp only [h, not_false_eq_true, and_true, true_and, and_false, false_and]
    omega

theorem covered_without_prior {d p s : ℕ} {inScope : Prop} (hin : inScope → s ≤ d ∧ d ≤ p)
    (hs : s ≤ p) :
    (d ≤ p ∧ d < s ∧ ¬inScope ∧ ¬((s ≤ d ∧ ¬inScope) ∧ d ≤ p)) ∨
    (d ≤ p ∧ ¬d < s ∧ inScope ∧ ¬((s ≤ d ∧ ¬inScope) ∧ d ≤ p)) ∨
    (d ≤ p ∧ ¬d < s ∧ ¬inScope ∧ ((s ≤ d ∧ ¬inScope) ∧ d ≤ p)) ∨
    (¬d ≤ p ∧ ¬d < s ∧ ¬inScope ∧ ¬((s ≤ d ∧ ¬inScope) ∧ d ≤ p)) := by
  by_cases h : inScope
  · have := hin h
    simp only [h, not_true_eq_false, not_false_eq_true, and_false, or_false, and_true, false_and,
      false_or]
    omega
  · simp only [h, not_false_eq_true, and_true, true_and, and_false, false_and]
    omega

/-- Every line on the account through the period end is in the opening, in the movement or left
    out, and in one of them only. -/
theorem WellFormed.closing_split {t : Tables} (h : WellFormed dep t)
    (hdisjoint : NonOverlapping t.fiscalPeriods) {request : RollforwardRequest}
    {entity : LegalEntityRecord} {book : AccountingBook} {period : FiscalPeriod}
    (hperiod : periodByCode dep t request.periodCode = some period) {periodIds : List ℕ} {start : Date}
    (hids : statementPeriodIds dep t request.periodCode request.statementScopeCode = .ok periodIds)
    (hstart : scopeStart t periodIds = .ok start) {opening : ℕ × ℕ}
    (hopening : openingAccountSides dep t entity.legalEntityId book.accountingBookId
      request.chartAccountCode start = .ok opening) (f : LedgerLine → ℕ) (g : ℕ × ℕ → ℕ)
    (hg : ∀ rows : List LedgerLine, g (total LedgerLine.debit rows, total LedgerLine.credit rows) =
      total f rows) :
    g (ledgerSides dep t request entity book period) =
      g opening + g (periodAccountSides dep t entity.legalEntityId book.accountingBookId
        request.chartAccountCode periodIds) +
      total f (leftOutFrom dep t request entity book period periodIds start) := by
  have hpmem := (periodByCode_mem dep hperiod).1
  have hfirst : start ≤ period.periodEndDate :=
    (scopeStart_le hstart hpmem (statementPeriodIds_mem h hperiod hids).1).trans period.dates_ordered
  have hin : ∀ row ∈ accountLines dep t entity.legalEntityId book.accountingBookId
      request.chartAccountCode, row.journal.fiscalPeriodId ∈ periodIds →
        start ≤ row.journal.accountingDate ∧ row.journal.accountingDate ≤ period.periodEndDate :=
    fun row hrow => h.scope_dates hdisjoint hperiod hids hstart
      (mem_bookLines (List.mem_filter.mp hrow).1).1
  rw [h.opening_sides hopening, ledgerSides, periodAccountSides, leftOutFrom, linesThrough_eq,
    linesOfPeriods_eq, List.filter_comm, ← accountLines]
  cases hprior : priorSnapshot dep t entity.legalEntityId book.accountingBookId start with
  | some prior =>
    simp only [accountSides_filter, hg, List.filter_filter, ← Bool.decide_and]
    exact total_split₃ f fun row hrow =>
      covered_with_prior (hin row hrow) (mem_priorSnapshot hprior).2.1 hfirst
  | none =>
    simp only [accountSides_filter, hg, List.filter_filter, ← Bool.decide_and]
    exact total_split₃ f fun row hrow => covered_without_prior (hin row hrow) hfirst

/-- The closing is the ledger's total without the left-out lines, rounded. -/
theorem WellFormed.rollforward_closing {t : Tables} (h : WellFormed dep t)
    (hdisjoint : NonOverlapping t.fiscalPeriods) {request : RollforwardRequest}
    {entity : LegalEntityRecord} {book : AccountingBook} {period : FiscalPeriod}
    {document : AccountRollforwardDocument}
    (hread : RollforwardRead dep t request entity book period document) :
    document.closingDebitAmount = contextRound ((ledgerSides dep t request entity book period).1 -
        (leftOutSides dep t request entity book period).1) ∧
      document.closingCreditAmount = contextRound ((ledgerSides dep t request entity book period).2 -
        (leftOutSides dep t request entity book period).2) ∧
      (leftOutSides dep t request entity book period).1 ≤
        (ledgerSides dep t request entity book period).1 ∧
      (leftOutSides dep t request entity book period).2 ≤
        (ledgerSides dep t request entity book period).2 := by
  obtain ⟨hload, hscope, hperiod⟩ := hread
  simp only [loadAccountRollforward, requireFiscalPeriod, bind_eq_ok, fetch_eq_ok, pure_eq_ok,
    hscope, Except.ok.injEq] at hload
  obtain ⟨-, -, -, -, -, -, -, -, _, rfl, -, -, periodIds, hids, start, hstart, opening, hopening,
    rfl⟩ := hload
  have hdebit := h.closing_split hdisjoint hperiod hids hstart hopening LedgerLine.debit
    Prod.fst fun _ => rfl
  have hcredit := h.closing_split hdisjoint hperiod hids hstart hopening LedgerLine.credit
    Prod.snd fun _ => rfl
  have hleft : leftOutLines dep t request entity book period =
      leftOutFrom dep t request entity book period periodIds start := by
    simp only [leftOutLines, hids, hstart]
  rw [leftOutSides, hleft]
  dsimp only at hdebit hcredit ⊢
  refine ⟨congrArg contextRound ?_, congrArg contextRound ?_, by omega, by omega⟩
  · rw [hdebit]; push_cast; ring
  · rw [hcredit]; push_cast; ring

/-! ## The reported sides -/

/-- The reported lines have the sides of the ledger exactly when the snapshot is complete. -/
theorem WellFormed.reported_iff {t : Tables} (h : WellFormed dep t) (request : RollforwardRequest)
    (entity : LegalEntityRecord) (book : AccountingBook) (period : FiscalPeriod) :
    accountSides request.chartAccountCode
        (reportedLines dep t entity.legalEntityId book.accountingBookId period) =
      ledgerSides dep t request entity book period ↔
    SnapshotComplete dep t request entity book period := by
  unfold SnapshotComplete reportedLines ledgerSides
  split
  · next snapshot hhard hlatest =>
    rw [linesThrough_eq, accountSides_filter, accountSides_filter, Prod.mk.injEq,
      total_filter_and_eq_iff, total_filter_and_eq_iff]
    simp only [hhard, hlatest, true_implies, Option.some.injEq, forall_eq', List.mem_filter,
      decide_eq_true_eq, accountLines, and_imp]
    constructor
    · rintro ⟨hdebit, hcredit⟩ row hrow hdate hcode
      by_contra hlate
      have hd := hdebit row hrow hcode hdate hlate
      have hc := hcredit row hrow hcode hdate hlate
      rcases (h.line_facts hrow).2 with ⟨hpos, -⟩ | ⟨-, hpos⟩ <;> omega
    · intro hall
      exact ⟨fun row hrow hcode hdate hlate => absurd (hall row hrow hdate hcode) hlate,
        fun row hrow hcode hdate hlate => absurd (hall row hrow hdate hcode) hlate⟩
  · next hnot =>
    exact iff_of_true rfl fun hhard snapshot hlatest => absurd hlatest (hnot snapshot hhard)

theorem accountBalanceEntries_sides {classes : Dict String AccountClass}
    {lines : List (String × ℕ × ℕ)} {entries : List AccountBalanceEntry}
    (h : tryMap (accountBalanceEntry classes) lines = .ok entries) :
    balanceSides entries =
      (total (fun line => line.2.1) lines, total (fun line => line.2.2) lines) := by
  have hall := tryMap_ok h
  clear h
  induction hall with
  | nil => rfl
  | cons hentry _ ih =>
    simp only [accountBalanceEntry, bind_eq_ok, pure_eq_ok] at hentry
    obtain ⟨_, -, rfl⟩ := hentry
    simp only [balanceSides, Prod.mk.injEq] at ih
    simp only [balanceSides, total_cons, ih]

/-- A trial balance has at most one line of a code. -/
theorem WellFormed.trialBalance_single {t : Tables} (h : WellFormed dep t)
    {legalEntityId bookId : ℕ} {period : FiscalPeriod} {lines : List TrialBalanceEntry}
    (hlines : lines.Perm ((balanceRows dep (reportedLines dep t legalEntityId bookId period)).map
      balanceEntry)) (code : String) :
    (lines.filter fun line => line.chartAccountCode = code).length ≤ 1 := by
  have hsub : ∀ row ∈ reportedLines dep t legalEntityId bookId period,
      row ∈ bookLines dep t legalEntityId bookId := fun row hrow => (reportedLines_sub hrow).1
  have hsingle := h.rowsOfCode_single hsub code
  rw [(hlines.filter _).length_eq, List.filter_map, List.length_map]
  exact hsingle

/-- The account-balance read for one account returns the sides of the trial balance. -/
theorem WellFormed.accountBalances_sides {t : Tables} (h : WellFormed dep t)
    {request : RollforwardRequest} (hcode : request.chartAccountCode ≠ "") {pageLimit : ℕ}
    {balances : AccountBalancesDocument} (hlimit : 0 < pageLimit)
    (hstrip : strip request.chartAccountCode = request.chartAccountCode)
    (hload : loadAccountBalances dep t request.legalEntityReference request.accountingBookReference
      request.periodCode request.chartAccountCode pageLimit "" = .ok balances) :
    ∃ trialBalance, loadPeriodTrialBalance dep t request.legalEntityReference
        request.accountingBookReference request.periodCode "" = .ok trialBalance ∧
      balanceSides balances.accountBalances =
        reportedSides request.chartAccountCode trialBalance.lines := by
  simp only [loadAccountBalances, bind_eq_ok, pure_eq_ok, hstrip, if_true] at hload
  obtain ⟨trialBalance, htrial, _, -, -, -, entries, hentries, rfl⟩ := hload
  refine ⟨trialBalance, htrial, (accountBalanceEntries_sides hentries).trans ?_⟩
  obtain ⟨entity, book, period, hread⟩ := h.trialBalance_read htrial
  have hsingle := h.trialBalance_single hread.lines request.chartAccountCode
  rw [requestedLines, if_neg hcode, List.filter_map]
  unfold reportedSides
  simp only [Function.comp_def]
  generalize trialBalance.lines.filter (fun line =>
    line.chartAccountCode = request.chartAccountCode) = selected at hsingle
  obtain ⟨n, rfl⟩ := Nat.exists_eq_add_of_lt hlimit
  match selected, hsingle with
  | [], _ => simp
  | [line], _ => simp

/-! ## The closing against the ledger -/

theorem mem_leftOutLines {t : Tables} {request : RollforwardRequest} {entity : LegalEntityRecord}
    {book : AccountingBook} {period : FiscalPeriod} {row : LedgerLine}
    (h : row ∈ leftOutLines dep t request entity book period) :
    row ∈ bookLines dep t entity.legalEntityId book.accountingBookId := by
  unfold leftOutLines leftOutFrom at h
  split at h
  · cases h
  · split at h
    · cases h
    · rw [linesThrough_eq] at h
      split at h
      · exact (List.mem_filter.mp (List.mem_filter.mp (List.mem_filter.mp h).1).1).1
      · exact (List.mem_filter.mp (List.mem_filter.mp (List.mem_filter.mp h).1).1).1

/-- Totals of at most 28 digits lose nothing exactly when no line is left out. -/
theorem WellFormed.nothingLeftOut_iff {t : Tables} (h : WellFormed dep t)
    {request : RollforwardRequest} {entity : LegalEntityRecord} {book : AccountingBook}
    {period : FiscalPeriod}
    (hdle : (leftOutSides dep t request entity book period).1 ≤
      (ledgerSides dep t request entity book period).1)
    (hcle : (leftOutSides dep t request entity book period).2 ≤
      (ledgerSides dep t request entity book period).2)
    (hdebit : (ledgerSides dep t request entity book period).1 < 10 ^ contextPrecision)
    (hcredit : (ledgerSides dep t request entity book period).2 < 10 ^ contextPrecision) :
    NothingLeftOut dep t request entity book period ↔
      leftOutLines dep t request entity book period = [] := by
  have hexact : ∀ n m : ℕ, m ≤ n → n < 10 ^ contextPrecision →
      contextRound ((n : ℤ) - m) = (n : ℤ) - m := by
    intro n m hle hlt
    refine roundDec_of_abs_lt (by decide) ?_
    rw [abs_of_nonneg (by omega)]
    have : (n : ℤ) < 10 ^ contextPrecision := by exact_mod_cast hlt
    omega
  rw [NothingLeftOut, hexact _ _ hdle hdebit, hexact _ _ hcle hcredit]
  constructor
  · rintro ⟨hd, hc⟩
    have hd0 : total LedgerLine.debit (leftOutLines dep t request entity book period) = 0 := by
      simp only [leftOutSides] at hd
      omega
    have hc0 : total LedgerLine.credit (leftOutLines dep t request entity book period) = 0 := by
      simp only [leftOutSides] at hc
      omega
    rw [List.eq_nil_iff_forall_not_mem]
    intro row hrow
    have hd := total_eq_zero_iff.mp hd0 row hrow
    have hc := total_eq_zero_iff.mp hc0 row hrow
    rcases (h.line_facts (mem_leftOutLines hrow)).2 with ⟨hpos, -⟩ | ⟨-, hpos⟩ <;> omega
  · intro hnil
    simp [leftOutSides, hnil]

variable (dep) in
/-- The closing of a rollforward, the trial balance and the account balances agree with the
    ledger exactly when nothing is left out and a hard-closed period's snapshot is complete. As
    long as the ledger's totals have at most 28 digits, nothing is left out exactly when no
    line is. -/
theorem rollforward_ties_iff (commands : List Command) (request : RollforwardRequest)
    (entity : LegalEntityRecord) (book : AccountingBook) (period : FiscalPeriod)
    (document : AccountRollforwardDocument)
    (hread : RollforwardRead dep (ledgerAfter dep commands) request entity book period document)
    (hdisjoint : NonOverlapping (ledgerAfter dep commands).fiscalPeriods) :
    let t := ledgerAfter dep commands
    (TiesToLedger dep t request entity book period document ↔
      NothingLeftOut dep t request entity book period ∧
        (Succeeds (loadPeriodTrialBalance dep t request.legalEntityReference
          request.accountingBookReference request.periodCode "") →
            SnapshotComplete dep t request entity book period)) ∧
    ((ledgerSides dep t request entity book period).1 < 10 ^ contextPrecision →
      (ledgerSides dep t request entity book period).2 < 10 ^ contextPrecision →
      (NothingLeftOut dep t request entity book period ↔
        leftOutLines dep t request entity book period = [])) := by
  intro t
  have hwf : WellFormed dep t := wellFormed_ledgerAfter commands
  obtain ⟨hdebit, hcredit, hdle, hcle⟩ := hwf.rollforward_closing hdisjoint hread
  have hreported : ∀ trialBalance, loadPeriodTrialBalance dep t request.legalEntityReference
      request.accountingBookReference request.periodCode "" = .ok trialBalance →
      (reportedSides request.chartAccountCode trialBalance.lines =
        ledgerSides dep t request entity book period ↔
          SnapshotComplete dep t request entity book period) := by
    intro trialBalance htrial
    obtain ⟨entity', book', period', htb⟩ := hwf.trialBalance_read htrial
    have hscope := loadScope_congr htb.scope "the account-rollforward read"
    rw [hread.scope] at hscope
    have hperiod := htb.period_eq
    rw [hread.period_eq] at hperiod
    cases hscope
    cases hperiod
    rw [reportedSides_eq htb.lines]
    exact hwf.reported_iff request entity book period
  have hcode : request.chartAccountCode ≠ "" := by
    have hload := hread.loaded
    simp only [loadAccountRollforward, bind_eq_ok, require_eq_ok] at hload
    obtain ⟨-, -, -, hcode, -⟩ := hload
    exact hcode
  refine ⟨⟨?_, ?_⟩, ?_⟩
  · intro hties
    refine ⟨⟨hdebit.symm.trans hties.closing.1, hcredit.symm.trans hties.closing.2⟩, ?_⟩
    rintro ⟨trialBalance, htrial⟩
    exact (hreported trialBalance htrial).mp (hties.trialBalance trialBalance htrial)
  · rintro ⟨⟨hd, hc⟩, hcomplete⟩
    refine ⟨⟨hdebit.trans hd, hcredit.trans hc⟩, fun trialBalance htrial =>
      (hreported trialBalance htrial).mpr (hcomplete ⟨trialBalance, htrial⟩), ?_⟩
    intro pageLimit balances hlimit hstrip hload
    obtain ⟨trialBalance, htrial, hsides⟩ := hwf.accountBalances_sides hcode hlimit hstrip hload
    rw [hsides]
    exact (hreported trialBalance htrial).mpr (hcomplete ⟨trialBalance, htrial⟩)
  · exact hwf.nothingLeftOut_iff hdle hcle

/-- January is hard-closed, February stays open with one invoice, March is opened. -/
def openFebruaryCommands : List Command := [
  samplePeriod "2024-01" "open-1" 738886 738916,
  samplePeriod "2024-02" "open-2" 738917 738945,
  samplePeriod "2024-03" "open-3" 738946 738976,
  sampleClose "urn:cwl:book:b1" "2024-01" "hard_closed",
  sampleInvoice "urn:cwl:book:b1" "2024-02" "0f8fad5b-d9cb-469f-a165-70867728950e" "invoice-2" 738920
    1000000]

def receivablesOf (periodCode : String) : RollforwardRequest :=
  ⟨"urn:cwl:legal_entity:e1", "urn:cwl:book:b1", periodCode, "110100", ""⟩

def februaryPeriod : FiscalPeriod :=
  ⟨2, 1, "2024-02", 738917, 738945, .opened, none, by decide⟩

def marchPeriod : FiscalPeriod :=
  ⟨3, 1, "2024-03", 738946, 738976, .opened, none, by decide⟩

def receivablesRollforward (periodCode : String) (movement : ℤ) : AccountRollforwardDocument where
  tenantReference := "urn:cwl:tenant:t1"
  legalEntityReference := "urn:cwl:legal_entity:e1"
  accountingBookReference := "urn:cwl:book:b1"
  fiscalPeriodReference := fiscalPeriodReference periodCode
  chartAccountCode := "110100"
  accountClassCode := .asset
  openingDebitAmount := 0
  openingCreditAmount := 0
  periodDebitAmount := movement
  periodCreditAmount := 0
  closingDebitAmount := movement
  closingCreditAmount := 0
  statementScopeCode := none

/-- Both rollforwards after these commands, evaluated. -/
theorem openFebruary_rollforwards :
    let dep := sampleDeployment sampleCatalog
    let t := ledgerAfter dep openFebruaryCommands
    NonOverlapping t.fiscalPeriods ∧
    RollforwardRead dep t (receivablesOf "2024-02") sampleEntity sampleBook februaryPeriod
      (receivablesRollforward "2024-02" 1000000) ∧
    NothingLeftOut dep t (receivablesOf "2024-02") sampleEntity sampleBook februaryPeriod ∧
    RollforwardRead dep t (receivablesOf "2024-03") sampleEntity sampleBook marchPeriod
      (receivablesRollforward "2024-03" 0) ∧
    (ledgerSides dep t (receivablesOf "2024-03") sampleEntity sampleBook marchPeriod).1 = 1000000 := by
  decide +kernel

/-- In February the rollforward ties. -/
theorem february_ties : TiesToLedger (sampleDeployment sampleCatalog)
    (ledgerAfter (sampleDeployment sampleCatalog) openFebruaryCommands) (receivablesOf "2024-02")
    sampleEntity sampleBook februaryPeriod (receivablesRollforward "2024-02" 1000000) := by
  obtain ⟨hdisjoint, hread, hnothing, -, -⟩ := openFebruary_rollforwards
  exact ((rollforward_ties_iff (sampleDeployment sampleCatalog) openFebruaryCommands
    (receivablesOf "2024-02") sampleEntity sampleBook februaryPeriod
    (receivablesRollforward "2024-02" 1000000) hread hdisjoint).1).mpr
      ⟨hnothing, fun _ hclosed => nomatch hclosed⟩

/-- In March the opening is January's snapshot and February's invoice is left out. -/
theorem march_not_tied :
    RollforwardRead (sampleDeployment sampleCatalog)
      (ledgerAfter (sampleDeployment sampleCatalog) openFebruaryCommands) (receivablesOf "2024-03")
      sampleEntity sampleBook marchPeriod (receivablesRollforward "2024-03" 0) ∧
    NonOverlapping (ledgerAfter (sampleDeployment sampleCatalog) openFebruaryCommands).fiscalPeriods ∧
    ¬TiesToLedger (sampleDeployment sampleCatalog)
      (ledgerAfter (sampleDeployment sampleCatalog) openFebruaryCommands) (receivablesOf "2024-03")
      sampleEntity sampleBook marchPeriod (receivablesRollforward "2024-03" 0) := by
  obtain ⟨hdisjoint, -, -, hread, hsides⟩ := openFebruary_rollforwards
  refine ⟨hread, hdisjoint, fun hties => ?_⟩
  have hclosing := hties.closing.1
  rw [hsides] at hclosing
  exact absurd hclosing (by decide)

end AccountingPlatform.Postgres
