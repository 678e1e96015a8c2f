/-
  Whether reads follow the close state of the book they are for.

  A close writes the control row of its book and refreshes the calendar row with the aggregate
  over all active books; every read looks at the calendar row. A book is therefore read as if
  its siblings were in its own state exactly when each calendar row shows that state.
-/
import AccountingPlatform.Postgres.Balances
import AccountingPlatform.Postgres.CloseSnapshots

namespace AccountingPlatform.Postgres

open AccountingPlatform.Lib AccountingPlatform.Core

variable (dep : Deployment)

/-! ## Reads -/

/-- The reads of one book that name a period. -/
inductive ScopedRead
  | trialBalance (periodCode balanceBasisCode : String)
  | financialStatement
      (periodCode statementTypeCode comparisonPeriodCode statementScopeCode : String)
  | accountBalances (periodCode chartAccountCode : String) (pageLimit : ℕ) (cursor : String)
  | accountRollforward (periodCode chartAccountCode statementScopeCode : String)

inductive ScopedDocument
  | trialBalance (document : TrialBalanceDocument)
  | financialStatement (document : FinancialStatementDocument)
  | accountBalances (document : AccountBalancesDocument)
  | accountRollforward (document : AccountRollforwardDocument)

/-- What a read returns or raises. -/
def answer (t : Tables) (legalEntityReference accountingBookReference : String) :
    ScopedRead → Result ScopedDocument
  | .trialBalance periodCode balanceBasisCode =>
    (loadPeriodTrialBalance dep t legalEntityReference accountingBookReference periodCode
      balanceBasisCode).map .trialBalance
  | .financialStatement periodCode statementTypeCode comparisonPeriodCode statementScopeCode =>
    (loadFinancialStatement dep t legalEntityReference accountingBookReference periodCode
      statementTypeCode comparisonPeriodCode statementScopeCode).map .financialStatement
  | .accountBalances periodCode chartAccountCode pageLimit cursor =>
    (loadAccountBalances dep t legalEntityReference accountingBookReference periodCode
      chartAccountCode pageLimit cursor).map .accountBalances
  | .accountRollforward periodCode chartAccountCode statementScopeCode =>
    (loadAccountRollforward dep t legalEntityReference accountingBookReference periodCode
      chartAccountCode statementScopeCode).map .accountRollforward

/-! ## What a read depends on -/

def bookSnapshots (t : Tables) (legalEntityId bookId : ℕ) : List TrialBalanceSnapshot :=
  t.snapshots.filter fun snapshot =>
    snapshot.legalEntityId = legalEntityId ∧ snapshot.accountingBookId = bookId

/-- Tables with the same calendar and the same rows of one book, whatever its siblings have. -/
structure SameRows (t t' : Tables) (legalEntityId bookId : ℕ) : Prop where
  fiscalPeriods : t'.fiscalPeriods = t.fiscalPeriods
  journals : bookJournals t' legalEntityId bookId = bookJournals t legalEntityId bookId
  snapshots : bookSnapshots t' legalEntityId bookId = bookSnapshots t legalEntityId bookId

/-- A book the reads resolve its references to. -/
structure ReadableBook (legalEntityReference accountingBookReference : String)
    (entity : LegalEntityRecord) (book : AccountingBook) : Prop where
  entity_reference : matchesReference legalEntityReference = true
  book_reference : matchesReference accountingBookReference = true
  scope : dep.loadScope legalEntityReference accountingBookReference "the trial-balance read" =
    .ok (entity, book)

/-! ## The book's own state -/

/-- The tables if every book were, in every period, in the state of this one. -/
def aligned (t : Tables) (bookId : ℕ) : Tables :=
  { t with
    fiscalPeriods := t.fiscalPeriods.map fun period =>
      { period with periodStatus := t.bookPeriodStatus bookId period }
    bookPeriodControls := t.bookPeriodControls.map fun control =>
      match t.bookPeriodControls.find? fun own => own.accountingBookId = bookId ∧
          own.fiscalPeriodId = control.fiscalPeriodId with
      | some own => { control with periodStatus := own.periodStatus }
      | none => control }

/-- Reads answer as if the siblings were in the book's state: what its own control row says is
    hard-closed is read from its own snapshot, leaves no net income beside the balance sheet and
    opens later periods. -/
structure FollowsOwnState (t : Tables) (legalEntityReference accountingBookReference : String)
    (entity : LegalEntityRecord) (book : AccountingBook) : Prop where
  siblings : ∀ t', SameRows (aligned t book.accountingBookId) t' entity.legalEntityId
      book.accountingBookId → ∀ read,
    answer dep t legalEntityReference accountingBookReference read =
      answer dep t' legalEntityReference accountingBookReference read
  trialBalance : ∀ p ∈ t.fiscalPeriods, HardClosedFor t book.accountingBookId p.fiscalPeriodId →
    ∃ document snapshot, loadPeriodTrialBalance dep t legalEntityReference accountingBookReference
        p.periodCode "" = .ok document ∧
      document.periodStatus = .hardClosed ∧
      latestCloseSnapshot t entity.legalEntityId book.accountingBookId p.fiscalPeriodId =
        some snapshot ∧
      document.snapshotRecordId = some snapshot.trialBalanceSnapshotId ∧
      document.lines = (snapshotBalanceLines dep snapshot).map trialBalanceEntry
  balanceSheet : ∀ p ∈ t.fiscalPeriods, HardClosedFor t book.accountingBookId p.fiscalPeriodId →
    ∀ comparisonPeriodCode statementScopeCode document, loadFinancialStatement dep t
        legalEntityReference accountingBookReference p.periodCode "balance_sheet"
        comparisonPeriodCode statementScopeCode = .ok document →
      document.statement.netIncomeAmount = 0
  opening : ∀ p ∈ t.fiscalPeriods, HardClosedFor t book.accountingBookId p.fiscalPeriodId →
    ∀ day, p.periodEndDate < day → ∃ snapshot,
      (p, snapshot) ∈ priorSnapshots t entity.legalEntityId book.accountingBookId day

variable {dep}

section Frame

variable {t t' : Tables} {legalEntityId bookId : ℕ}

theorem SameRows.latestCloseSnapshot (h : SameRows t t' legalEntityId bookId) (fiscalPeriodId : ℕ) :
    latestCloseSnapshot t' legalEntityId bookId fiscalPeriodId =
      latestCloseSnapshot t legalEntityId bookId fiscalPeriodId := by
  have hrows : ∀ t : Tables, (t.snapshots.filter fun snapshot =>
      snapshot.legalEntityId = legalEntityId ∧ snapshot.accountingBookId = bookId ∧
        snapshot.fiscalPeriodId = fiscalPeriodId) =
      (bookSnapshots t legalEntityId bookId).filter fun snapshot =>
        snapshot.fiscalPeriodId = fiscalPeriodId := by
    intro t
    rw [bookSnapshots, List.filter_filter]
    refine List.filter_congr fun s _ => ?_
    simp only [← Bool.decide_and, and_assoc, and_comm]
  rw [Postgres.latestCloseSnapshot, hrows, h.snapshots, ← hrows, Postgres.latestCloseSnapshot]

theorem SameRows.priorSnapshot (h : SameRows t t' legalEntityId bookId) (day : Date) :
    priorSnapshot dep t' legalEntityId bookId day = priorSnapshot dep t legalEntityId bookId day := by
  have hrows : ∀ (t : Tables) (period : FiscalPeriod), (t.snapshots.filter fun snapshot =>
      snapshot.fiscalPeriodId = period.fiscalPeriodId ∧ snapshot.legalEntityId = legalEntityId ∧
        snapshot.accountingBookId = bookId) =
      (bookSnapshots t legalEntityId bookId).filter fun snapshot =>
        snapshot.fiscalPeriodId = period.fiscalPeriodId := by
    intro t period
    rw [bookSnapshots, List.filter_filter]
    refine List.filter_congr fun s _ => ?_
    simp only [← Bool.decide_and]
  simp only [Postgres.priorSnapshot, priorSnapshots, hrows, h.snapshots, h.fiscalPeriods]

theorem SameRows.linesThrough (h : SameRows t t' legalEntityId bookId) (throughDate : Date) :
    linesThrough dep t' legalEntityId bookId throughDate =
      linesThrough dep t legalEntityId bookId throughDate := by
  simp only [Postgres.linesThrough, h.journals]

theorem SameRows.linesOfPeriods (h : SameRows t t' legalEntityId bookId) (periodIds : List ℕ) :
    linesOfPeriods dep t' legalEntityId bookId periodIds =
      linesOfPeriods dep t legalEntityId bookId periodIds := by
  simp only [Postgres.linesOfPeriods, h.journals]

theorem SameRows.statementPeriodIds (h : SameRows t t' legalEntityId bookId)
    (periodCode statementScopeCode : String) :
    statementPeriodIds dep t' periodCode statementScopeCode =
      statementPeriodIds dep t periodCode statementScopeCode := by
  simp only [Postgres.statementPeriodIds, periodByCode, h.fiscalPeriods]

theorem SameRows.scopeStart (h : SameRows t t' legalEntityId bookId) (periodIds : List ℕ) :
    scopeStart t' periodIds = scopeStart t periodIds := by
  simp only [Postgres.scopeStart, h.fiscalPeriods]

theorem SameRows.openingAccountSides (h : SameRows t t' legalEntityId bookId) (code : String)
    (start : Date) :
    openingAccountSides dep t' legalEntityId bookId code start =
      openingAccountSides dep t legalEntityId bookId code start := by
  simp only [Postgres.openingAccountSides, h.priorSnapshot, h.linesThrough]

theorem SameRows.trialBalanceLines {entity : LegalEntityRecord} {book : AccountingBook}
    (h : SameRows t t' entity.legalEntityId book.accountingBookId) (period : FiscalPeriod)
    (balanceBasisCode : String) :
    trialBalanceLines dep t' entity book period balanceBasisCode =
      trialBalanceLines dep t entity book period balanceBasisCode := by
  simp only [Postgres.trialBalanceLines, aggregateTrialBalance, aggregateWorksheetTrialBalance,
    h.latestCloseSnapshot, h.linesThrough]

end Frame

section Answers

variable {t t' : Tables} {legalEntityReference accountingBookReference : String}
  {entity : LegalEntityRecord} {book : AccountingBook}

theorem SameRows.trialBalance (h : SameRows t t' entity.legalEntityId book.accountingBookId)
    (hread : ReadableBook dep legalEntityReference accountingBookReference entity book)
    (periodCode balanceBasisCode : String) :
    loadPeriodTrialBalance dep t' legalEntityReference accountingBookReference periodCode
        balanceBasisCode =
      loadPeriodTrialBalance dep t legalEntityReference accountingBookReference periodCode
        balanceBasisCode := by
  simp only [loadPeriodTrialBalance, hread.scope, ok_bind, requireFiscalPeriod, periodByCode,
    h.fiscalPeriods, h.trialBalanceLines]

theorem SameRows.incomeLines (h : SameRows t t' entity.legalEntityId book.accountingBookId)
    (hread : ReadableBook dep legalEntityReference accountingBookReference entity book)
    (periodCode statementScopeCode : String) :
    loadOperationalIncomeLines dep t' legalEntityReference accountingBookReference periodCode
        statementScopeCode =
      loadOperationalIncomeLines dep t legalEntityReference accountingBookReference periodCode
        statementScopeCode := by
  simp only [loadOperationalIncomeLines, loadScope_congr hread.scope, ok_bind,
    h.statementPeriodIds, incomeRows, h.linesOfPeriods]

theorem SameRows.statement (h : SameRows t t' entity.legalEntityId book.accountingBookId)
    (hread : ReadableBook dep legalEntityReference accountingBookReference entity book)
    (periodCode statementTypeCode statementScopeCode : String) :
    loadStatement dep t' legalEntityReference accountingBookReference periodCode statementTypeCode
        statementScopeCode =
      loadStatement dep t legalEntityReference accountingBookReference periodCode statementTypeCode
        statementScopeCode := by
  have hequity : loadChangesInEquityLines dep t' legalEntityReference accountingBookReference
      periodCode statementScopeCode = loadChangesInEquityLines dep t legalEntityReference
        accountingBookReference periodCode statementScopeCode := by
    simp only [loadChangesInEquityLines, loadScope_congr hread.scope, ok_bind, h.incomeLines hread,
      h.statementPeriodIds, h.scopeStart, openingEquityAmount, otherEquityMovementAmount,
      h.priorSnapshot, h.linesThrough, h.linesOfPeriods]
  have hcash : loadCashFlowLines dep t' legalEntityReference accountingBookReference
      periodCode statementScopeCode = loadCashFlowLines dep t legalEntityReference
        accountingBookReference periodCode statementScopeCode := by
    simp only [loadCashFlowLines, loadScope_congr hread.scope, ok_bind, h.incomeLines hread,
      h.statementPeriodIds, h.scopeStart, openingCashAmount, operatingWorkingCapitalAmount,
      otherEquityMovementAmount, h.priorSnapshot, h.linesThrough, h.linesOfPeriods]
  have hlines : ∀ trialBalance facts kind, statementSourceLines dep t' legalEntityReference
      accountingBookReference periodCode statementScopeCode trialBalance facts kind =
        statementSourceLines dep t legalEntityReference accountingBookReference periodCode
          statementScopeCode trialBalance facts kind := by
    intro trialBalance facts kind
    cases kind with
    | changesInEquity => exact hequity
    | cashFlow => exact hcash
    | incomeStatement => exact h.incomeLines hread _ _
    | balanceSheet => rfl
  have hincome : ∀ trialBalance lines kind, statementNetIncome dep t' legalEntityReference
      accountingBookReference periodCode trialBalance lines kind = statementNetIncome dep t
        legalEntityReference accountingBookReference periodCode trialBalance lines kind := by
    intro trialBalance lines kind
    cases kind with
    | balanceSheet => simp only [statementNetIncome, h.incomeLines hread]
    | _ => rfl
  simp only [loadStatement, h.trialBalance hread, hlines, hincome]

/-- A read of a book sees the calendar and that book's rows, nothing of its siblings. -/
theorem SameRows.answer (h : SameRows t t' entity.legalEntityId book.accountingBookId)
    (hread : ReadableBook dep legalEntityReference accountingBookReference entity book)
    (read : ScopedRead) :
    answer dep t' legalEntityReference accountingBookReference read =
      answer dep t legalEntityReference accountingBookReference read := by
  cases read with
  | trialBalance periodCode balanceBasisCode => simp only [Postgres.answer, h.trialBalance hread]
  | financialStatement periodCode statementTypeCode comparisonPeriodCode statementScopeCode =>
    simp only [Postgres.answer, loadFinancialStatement, h.statement hread]
  | accountBalances periodCode chartAccountCode pageLimit cursor =>
    simp only [Postgres.answer, loadAccountBalances, h.trialBalance hread]
  | accountRollforward periodCode chartAccountCode statementScopeCode =>
    simp only [Postgres.answer, loadAccountRollforward, loadScope_congr hread.scope, ok_bind,
      requireFiscalPeriod, periodByCode, h.fiscalPeriods, h.statementPeriodIds, h.scopeStart,
      h.openingAccountSides, periodAccountSides, h.linesOfPeriods]

end Answers

/-! ## Period codes -/

/-- No control row belongs to a period that the commands and reads cannot name. -/
def CodesGiven (periods : List FiscalPeriod) (controls : List BookPeriodControl) : Prop :=
  ∀ c ∈ controls, ∀ p ∈ periods, p.fiscalPeriodId = c.fiscalPeriodId → strip p.periodCode ≠ ""

theorem CodesGiven.transfer {periods periods' : List FiscalPeriod}
    {controls controls' : List BookPeriodControl} (h : CodesGiven periods controls)
    (hcontrols : ∀ c ∈ controls', ∃ d ∈ controls, d.fiscalPeriodId = c.fiscalPeriodId)
    (hperiods : ∀ p ∈ periods', ∃ q ∈ periods, q.fiscalPeriodId = p.fiscalPeriodId ∧
      q.periodCode = p.periodCode) : CodesGiven periods' controls' := by
  intro c hc p hp hid
  obtain ⟨d, hd, hdc⟩ := hcontrols c hc
  obtain ⟨q, hq, hqp, hcode⟩ := hperiods p hp
  rw [← hcode]
  exact h d hd q hq (hqp.trans (hid.trans hdc.symm))

theorem codesGiven_materialized {t : Tables} (hwf : WellFormed dep t)
    (h : CodesGiven t.fiscalPeriods t.bookPeriodControls) {period : FiscalPeriod}
    (hperiod : period ∈ t.fiscalPeriods) (hcode : strip period.periodCode ≠ "") :
    CodesGiven t.fiscalPeriods (materialized dep t period).bookPeriodControls := by
  intro c hc p hp hid
  rcases List.mem_append.mp hc with hc | hc
  · exact h c hc p hp hid
  · obtain ⟨book, -, -, -, rfl⟩ := mem_materializedControls.mp hc
    rw [period_of_id hwf.period_keys hp hperiod hid]
    exact hcode

variable (dep) in
theorem codesGiven_setBookPeriodClosed {t : Tables}
    (h : CodesGiven t.fiscalPeriods t.bookPeriodControls) (bookId fiscalPeriodId : ℕ)
    (status : PeriodStatus) :
    CodesGiven (setBookPeriodClosed dep t bookId fiscalPeriodId status).fiscalPeriods
      (setBookPeriodClosed dep t bookId fiscalPeriodId status).bookPeriodControls := by
  obtain ⟨closedAt, hperiods⟩ := setBookPeriodClosed_periods dep t bookId fiscalPeriodId status
  refine h.transfer (fun c hc => ?_) fun p hp => ?_
  · obtain ⟨d, hd, rfl⟩ := (mem_setBookPeriodClosed dep).mp hc
    exact ⟨d, hd, (((closedRow_keepsKey status t.clock).updateRow _ _).period d).symm⟩
  · rw [hperiods] at hp
    obtain ⟨q, hq, rfl⟩ := mem_refreshStatus hp
    refine ⟨q, hq, ?_⟩
    split <;> exact ⟨rfl, rfl⟩

theorem codesGiven_effect {t t' : Tables} {command : Command} (hwf : WellFormed dep t)
    (h : CodesGiven t.fiscalPeriods t.bookPeriodControls) (he : Effect dep t command t') :
    CodesGiven t'.fiscalPeriods t'.bookPeriodControls := by
  cases he with
  | idle => exact h
  | opened period commands hid hopen hcode =>
    intro c hc p hp hpid
    rcases List.mem_append.mp hp with hp | hp
    · exact h c hc p hp hpid
    · -- a new period has no control row yet
      obtain ⟨q, hq, hqid⟩ := hwf.controls.owned c hc
      have hlt := hwf.period_lt q hq
      rw [List.mem_singleton.mp hp, hid] at hpid
      omega
  | posted hwritten _ _ =>
    simp only [hwritten.fiscalPeriods, hwritten.controls]
    exact h
  | locked period hperiod hcode _ => exact codesGiven_materialized hwf h hperiod hcode
  | @softClosed _ _ book period _ hclosable hopen htarget evidence outbox =>
    have hcode := (periodByCode_mem dep hclosable.period_eq).2
    have hmat := codesGiven_materialized hwf h hclosable.period_mem (hcode ▸ hclosable.code_given)
    refine (codesGiven_setBookPeriodClosed dep (t := materialized dep t period) hmat
      book.accountingBookId period.fiscalPeriodId .softClosed).transfer (fun c hc => ?_)
        fun p hp => ⟨p, hp, rfl, rfl⟩
    obtain ⟨d, hd, rfl⟩ := List.mem_map.mp hc
    refine ⟨d, hd, ?_⟩
    unfold updateRow
    split <;> rfl
  | @hardClosed request entity book period control posted t₂ hclosable hnot hc hpackage hposted
      hunique outbox =>
    have hcode := (periodByCode_mem dep hclosable.period_eq).2
    have hmat := codesGiven_materialized hwf h hclosable.period_mem (hcode ▸ hclosable.code_given)
    obtain ⟨hperiods, hcontrols, -⟩ := hposted.keeps
    refine codesGiven_setBookPeriodClosed dep
      (t := withSnapshot dep t₂ request entity book period) ?_ book.accountingBookId
      period.fiscalPeriodId .hardClosed
    rw [show (withSnapshot dep t₂ request entity book period).fiscalPeriods = t.fiscalPeriods
        from hperiods,
      show (withSnapshot dep t₂ request entity book period).bookPeriodControls =
        (materialized dep t period).bookPeriodControls from hcontrols]
    exact hmat

theorem codesGiven_ledgerAfter (commands : List Command) :
    CodesGiven (ledgerAfter dep commands).fiscalPeriods
      (ledgerAfter dep commands).bookPeriodControls := by
  have hrun : WellFormed dep (ledgerAfter dep commands) ∧
      CodesGiven (ledgerAfter dep commands).fiscalPeriods
        (ledgerAfter dep commands).bookPeriodControls := by
    refine run_monotone (P := fun t => WellFormed dep t ∧
      CodesGiven t.fiscalPeriods t.bookPeriodControls) (fun t command h => ?_)
      ⟨wellFormed_empty, fun c hc => nomatch hc⟩
    refine ⟨wellFormed_execute h.1 command, ?_⟩
    rcases execute_effect h.1 command with ⟨-, heq⟩ | ⟨-, he⟩
    · rw [heq]
      exact h.2
    · exact codesGiven_effect h.1 h.2 he
  exact hrun.2

/-! ## Agreement -/

/-- A named period is readable unless it is hard-closed without a snapshot. -/
theorem loadPeriodTrialBalance_ok {t : Tables}
    {legalEntityReference accountingBookReference : String} {entity : LegalEntityRecord}
    {book : AccountingBook}
    (hread : ReadableBook dep legalEntityReference accountingBookReference entity book)
    {p : FiscalPeriod} (hgiven : strip p.periodCode ≠ "")
    (hperiod : periodByCode dep t p.periodCode = some p)
    (hsnapshot : p.periodStatus = .hardClosed → (latestCloseSnapshot t entity.legalEntityId
      book.accountingBookId p.fiscalPeriodId).isSome) :
    ∃ document, loadPeriodTrialBalance dep t legalEntityReference accountingBookReference
        p.periodCode "" = .ok document ∧ document.periodStatus = p.periodStatus ∧
      (p.periodStatus = .hardClosed → ∀ snapshot, latestCloseSnapshot t entity.legalEntityId
        book.accountingBookId p.fiscalPeriodId = some snapshot →
          document.snapshotRecordId = some snapshot.trialBalanceSnapshotId ∧
          document.lines = (snapshotBalanceLines dep snapshot).map trialBalanceEntry) := by
  have hfetch : requireFiscalPeriod dep t p.periodCode "the trial-balance read" = .ok p := by
    rw [requireFiscalPeriod, hperiod]
    rfl
  have hinitial : ∀ rows source snapshotId, trialBalanceLines dep t entity book p "" =
      .ok (rows, source, snapshotId) → ∃ document, loadPeriodTrialBalance dep t
        legalEntityReference accountingBookReference p.periodCode "" = .ok document ∧
        document.periodStatus = p.periodStatus ∧ document.snapshotRecordId = snapshotId ∧
        document.lines = rows.map trialBalanceEntry := by
    intro rows source snapshotId hrows
    simp only [loadPeriodTrialBalance, requireReference, hread.entity_reference,
      hread.book_reference, require_of hgiven, hread.scope, hfetch, hrows, ok_bind]
    exact ⟨_, rfl, rfl, rfl, rfl⟩
  by_cases hhard : p.periodStatus = .hardClosed
  · obtain ⟨snapshot, hlatest⟩ := Option.isSome_iff_exists.mp (hsnapshot hhard)
    obtain ⟨document, hload, hstatus, hid, hlines⟩ := hinitial _ "snapshot"
      (some snapshot.trialBalanceSnapshotId) (by
        simp only [trialBalanceLines, hhard, hlatest]
        rfl)
    refine ⟨document, hload, hstatus, fun _ snapshot' hlatest' => ?_⟩
    rw [hlatest] at hlatest'
    cases hlatest'
    exact ⟨hid, hlines⟩
  · obtain ⟨document, hload, hstatus, -⟩ := hinitial _ "live" none (by
      simp only [trialBalanceLines, if_neg hhard]
      rfl)
    exact ⟨document, hload, hstatus, fun h => absurd h hhard⟩

/-- The snapshot of a book that has hard-closed a period. -/
theorem WellFormed.latestCloseSnapshot_of_hardClosed {t : Tables} (h : WellFormed dep t)
    {book : AccountingBook} (hbook : book ∈ dep.catalog.books) {fiscalPeriodId : ℕ}
    (hhard : HardClosedFor t book.accountingBookId fiscalPeriodId) :
    ∃ snapshot, latestCloseSnapshot t book.legalEntityId book.accountingBookId fiscalPeriodId =
      some snapshot := by
  obtain ⟨s, hs, hb, hp⟩ := snapshot_of_hardClosed h hhard
  obtain ⟨book', hbook', hid, hle⟩ := h.snapshots.scope s hs
  rw [book_of_id hbook' hbook (hid.trans hb)] at hle
  exact ⟨s, by rw [hle, ← hb, ← hp]; exact latestCloseSnapshot_eq h hs⟩

/-- The aligned calendar is the aggregate that closing the siblings too would lead to. -/
theorem aligned_controlsKept {t : Tables} (h : WellFormed dep t) {book : AccountingBook}
    (hbook : book ∈ dep.catalog.books) (hcurrent : book.isCurrent = true) :
    ControlsKept dep (aligned t book.accountingBookId).fiscalPeriods
      (aligned t book.accountingBookId).bookPeriodControls := by
  generalize hf : (fun control : BookPeriodControl =>
    match t.bookPeriodControls.find? fun own => own.accountingBookId = book.accountingBookId ∧
        own.fiscalPeriodId = control.fiscalPeriodId with
    | some own => { control with periodStatus := own.periodStatus }
    | none => control) = f
  have hcontrols : (aligned t book.accountingBookId).bookPeriodControls =
      t.bookPeriodControls.map f := by rw [← hf]; rfl
  have hkeys : KeepsKey f := by
    rw [← hf]
    constructor <;> intro c <;> split <;> rfl
  have hstatus : ∀ c, ∀ own ∈ t.bookPeriodControls,
      own.IsFor book.accountingBookId c.fiscalPeriodId → (f c).periodStatus = own.periodStatus := by
    intro c own hown hfor
    rw [← hf]
    simp only [find_control h.controls.unique hown hfor]
  rw [hcontrols]
  refine ⟨controlsUnique_map h.controls.unique hkeys, ?_, ?_, ?_⟩
  · intro c hc
    obtain ⟨d, hd, rfl⟩ := List.mem_map.mp hc
    obtain ⟨p, hp, hid⟩ := h.controls.owned d hd
    exact ⟨_, List.mem_map.mpr ⟨p, hp, rfl⟩, hid.trans (hkeys.period d).symm⟩
  · intro c hc
    obtain ⟨d, hd, rfl⟩ := List.mem_map.mp hc
    rw [hkeys.book d]
    exact h.controls.active d hd
  · intro q hq
    obtain ⟨p, hp, rfl⟩ := List.mem_map.mp hq
    rcases h.controls.aggregated p hp with ⟨hno, hopen⟩ | ⟨hall, -⟩
    · refine Or.inl ⟨fun c hc => ?_, ?_⟩
      · obtain ⟨d, hd, rfl⟩ := List.mem_map.mp hc
        rw [hkeys.period d]
        exact hno d hd
      · have hnone : (t.bookPeriodControls.find? fun c => c.accountingBookId =
            book.accountingBookId ∧ c.fiscalPeriodId = p.fiscalPeriodId) = none := by
          rw [List.find?_eq_none]
          intro d hd
          simp [hno d hd]
        simp only [Tables.bookPeriodStatus, hnone, hopen]
    · -- every row of the period takes the state of the book's own row
      obtain ⟨own, hown, hfor⟩ := hall book hbook hcurrent
      refine Or.inr ⟨fun sibling hsibling hactive => ?_, ?_⟩
      · obtain ⟨c, hc, hcfor⟩ := hall sibling hsibling hactive
        exact ⟨f c, List.mem_map.mpr ⟨c, hc, rfl⟩, (hkeys.book c).trans hcfor.1,
          (hkeys.period c).trans hcfor.2⟩
      · rw [h.bookPeriodStatus_eq hown hfor, activeRows_map dep hkeys]
        refine (aggregateStatus_of_all ?_ fun c hc => ?_).symm
        · have hmem : own ∈ activeRows dep t.bookPeriodControls p.fiscalPeriodId :=
            (mem_activeRows dep).mpr ⟨hown, hfor.2, book, hbook, hfor.1.symm, hcurrent⟩
          exact List.ne_nil_of_mem (List.mem_map_of_mem hmem)
        · obtain ⟨d, hd, rfl⟩ := List.mem_map.mp hc
          have hdid := ((mem_activeRows dep).mp hd).2.1
          exact hstatus d own hown ⟨hfor.1, hfor.2.trans hdid.symm⟩

/-- The balance sheet of a period that the calendar shows hard-closed has no net income. -/
theorem balanceSheet_netIncome {t : Tables} {p : FiscalPeriod}
    (hperiod : periodByCode dep t p.periodCode = some p) (hhard : p.periodStatus = .hardClosed)
    {legalEntityReference accountingBookReference comparisonPeriodCode statementScopeCode : String}
    {document : FinancialStatementDocument}
    (h : loadFinancialStatement dep t legalEntityReference accountingBookReference p.periodCode
      "balance_sheet" comparisonPeriodCode statementScopeCode = .ok document) :
    document.statement.netIncomeAmount = 0 := by
  obtain ⟨_, _, trialBalance, lines, -, hparts⟩ := loadBalanceSheet_ok dep h
  have hstatus : trialBalance.periodStatus = .hardClosed :=
    (loadPeriodTrialBalance_status dep hparts.trialBalance_eq hperiod).trans hhard
  have hincome := hparts.netIncome_eq
  simp only [statementNetIncome, if_pos hstatus] at hincome
  exact (Except.ok.inj hincome).symm

/-- A calendar row that shows the state of the book's own control row. -/
def ShowsOwnState (t : Tables) (bookId : ℕ) : Prop :=
  ∀ p ∈ t.fiscalPeriods, p.periodStatus = t.bookPeriodStatus bookId p

instance (t : Tables) (bookId : ℕ) : Decidable (ShowsOwnState t bookId) :=
  inferInstanceAs (Decidable (∀ p ∈ t.fiscalPeriods, _))

theorem aligned_of_showsOwnState {t : Tables} {bookId : ℕ} (h : ShowsOwnState t bookId) :
    (aligned t bookId).fiscalPeriods = t.fiscalPeriods := by
  refine (List.map_congr_left fun p hp => ?_).trans (List.map_id _)
  rw [← h p hp]
  rfl

theorem WellFormed.hardClosedFor_iff {t : Tables} (h : WellFormed dep t) {p : FiscalPeriod}
    (hp : p ∈ t.fiscalPeriods) {book : AccountingBook} (hbook : book ∈ dep.catalog.books)
    (hcurrent : book.isCurrent = true) :
    HardClosedFor t book.accountingBookId p.fiscalPeriodId ↔
      t.bookPeriodStatus book.accountingBookId p = .hardClosed :=
  (h.hardClosed_row hp hbook hcurrent).symm

variable (dep) in
/-- Reads of a book follow its own close state exactly when the calendar shows that state for
    every period. -/
theorem followsOwnState_iff (commands : List Command)
    (legalEntityReference accountingBookReference : String) (entity : LegalEntityRecord)
    (book : AccountingBook)
    (hread : ReadableBook dep legalEntityReference accountingBookReference entity book) :
    let t := ledgerAfter dep commands
    FollowsOwnState dep t legalEntityReference accountingBookReference entity book ↔
      ShowsOwnState t book.accountingBookId := by
  intro t
  have hwf : WellFormed dep t := wellFormed_ledgerAfter commands
  obtain ⟨-, -, hbook, hentity, -, hcurrent⟩ := dep.loadScope_ok hread.scope
  have hlatest : ∀ p ∈ t.fiscalPeriods, t.bookPeriodStatus book.accountingBookId p = .hardClosed →
      ∃ snapshot, latestCloseSnapshot t entity.legalEntityId book.accountingBookId
        p.fiscalPeriodId = some snapshot := by
    intro p hp hown
    rw [← hentity]
    exact hwf.latestCloseSnapshot_of_hardClosed hbook
      ((hwf.hardClosedFor_iff hp hbook hcurrent).mpr hown)
  constructor
  · intro hfollows p hp
    by_cases hgiven : strip p.periodCode = ""
    · -- a period without a readable code was never closed
      have hnone : (t.bookPeriodControls.find? fun c => c.accountingBookId =
          book.accountingBookId ∧ c.fiscalPeriodId = p.fiscalPeriodId) = none := by
        rw [List.find?_eq_none]
        intro c hc hfor
        rw [decide_eq_true_eq] at hfor
        exact codesGiven_ledgerAfter commands c hc p hp hfor.2.symm hgiven
      simp only [Tables.bookPeriodStatus, hnone]
    · have hcalendar : p.periodStatus = .hardClosed →
          t.bookPeriodStatus book.accountingBookId p = .hardClosed := by
        intro hhard
        rcases hwf.controls.aggregated p hp with ⟨-, hopen⟩ | ⟨hall, hagg⟩
        · rw [hopen] at hhard
          cases hhard
        · obtain ⟨own, hown, hfor⟩ := hall book hbook hcurrent
          rw [hhard] at hagg
          rw [hwf.bookPeriodStatus_eq hown hfor]
          exact (aggregateStatus_hardClosed.mp hagg.symm).2 own ((mem_activeRows dep).mpr
            ⟨hown, hfor.2, book, hbook, hfor.1.symm, hcurrent⟩)
      obtain ⟨document, hload, hstatus, -⟩ := loadPeriodTrialBalance_ok hread hgiven
        (hwf.periodByCode_of_mem hp) fun hhard =>
          Option.isSome_iff_exists.mpr (hlatest p hp (hcalendar hhard))
      have hmem : ({ p with periodStatus := t.bookPeriodStatus book.accountingBookId p } :
          FiscalPeriod) ∈ (aligned t book.accountingBookId).fiscalPeriods :=
        List.mem_map.mpr ⟨p, hp, rfl⟩
      have hperiod : periodByCode dep (aligned t book.accountingBookId) p.periodCode =
          some { p with periodStatus := t.bookPeriodStatus book.accountingBookId p } := by
        refine dep.fetchone_unique (by simpa using hmem) fun q hq => ?_
        simp only [List.mem_filter, decide_eq_true_eq] at hq
        obtain ⟨p', hp', rfl⟩ := List.mem_map.mp hq.1
        rw [List.inj_on_of_nodup_map hwf.code_keys hp' hp hq.2]
      obtain ⟨document', hload', hstatus', -⟩ := loadPeriodTrialBalance_ok
        (t := aligned t book.accountingBookId)
        (p := { p with periodStatus := t.bookPeriodStatus book.accountingBookId p }) hread hgiven
        hperiod fun hhard => Option.isSome_iff_exists.mpr (hlatest p hp hhard)
      have hsame := hfollows.siblings _ ⟨rfl, rfl, rfl⟩ (.trialBalance p.periodCode "")
      simp only [answer] at hsame
      rw [hload, show loadPeriodTrialBalance dep (aligned t book.accountingBookId)
        legalEntityReference accountingBookReference p.periodCode "" = .ok document' from hload']
        at hsame
      cases hsame
      exact hstatus.symm.trans hstatus'
  · intro hshows
    have hhard : ∀ p ∈ t.fiscalPeriods, HardClosedFor t book.accountingBookId p.fiscalPeriodId →
        p.periodStatus = .hardClosed := by
      intro p hp h
      rw [hshows p hp]
      exact (hwf.hardClosedFor_iff hp hbook hcurrent).mp h
    refine ⟨?_, ?_, ?_, ?_⟩
    · intro t' hrows read
      have hsame : SameRows t t' entity.legalEntityId book.accountingBookId :=
        ⟨hrows.fiscalPeriods.trans (aligned_of_showsOwnState hshows), hrows.journals, hrows.snapshots⟩
      exact (hsame.answer hread read).symm
    · intro p hp h
      have hstatus := hhard p hp h
      obtain ⟨snapshot, hsnapshot⟩ := hlatest p hp (hshows p hp ▸ hstatus)
      have hgiven : strip p.periodCode ≠ "" := by
        obtain ⟨c, hc, hfor, -⟩ := h
        exact codesGiven_ledgerAfter commands c hc p hp hfor.2.symm
      obtain ⟨document, hload, hdocument, hlines⟩ := loadPeriodTrialBalance_ok hread hgiven
        (hwf.periodByCode_of_mem hp) fun _ => Option.isSome_iff_exists.mpr ⟨snapshot, hsnapshot⟩
      exact ⟨document, snapshot, hload, hdocument.trans hstatus, hsnapshot,
        hlines hstatus snapshot hsnapshot⟩
    · intro p hp h comparisonPeriodCode statementScopeCode document hload
      exact balanceSheet_netIncome (hwf.periodByCode_of_mem hp) (hhard p hp h) hload
    · intro p hp h day hday
      obtain ⟨snapshot, hsnapshot⟩ := hlatest p hp (hshows p hp ▸ hhard p hp h)
      obtain ⟨hmem, hle, hb, hid⟩ := mem_of_latestCloseSnapshot hsnapshot
      refine ⟨snapshot, List.mem_flatMap.mpr ⟨p, ?_, List.mem_map.mpr ⟨snapshot, ?_, rfl⟩⟩⟩
      · simp [hp, hday, hhard p hp h]
      · simp [hmem, hle, hb, hid]

/-- January is opened and the first book closes it. -/
def closeJanuaryCommands : List Command := [
  samplePeriod "2024-01" "open-1" 738886 738916,
  sampleClose "urn:cwl:book:b1" "2024-01" "hard_closed"]

/-- A single book is read in its own state. -/
theorem singleBook_followsOwnState : FollowsOwnState (sampleDeployment sampleCatalog)
    (ledgerAfter (sampleDeployment sampleCatalog) closeJanuaryCommands) "urn:cwl:legal_entity:e1"
    "urn:cwl:book:b1" sampleEntity sampleBook :=
  (followsOwnState_iff (sampleDeployment sampleCatalog) closeJanuaryCommands
    "urn:cwl:legal_entity:e1" "urn:cwl:book:b1" sampleEntity sampleBook
    ⟨by decide +kernel, by decide +kernel, by decide +kernel⟩).mpr (by decide +kernel)

def managementBook : AccountingBook := ⟨2, 1, "management_ledger", "urn:cwl:book:b2", "KRW", true⟩

/-- The sample catalog with a second active book. -/
def twinCatalog : Catalog where
  tenantReference := "urn:cwl:tenant:t1"
  legalEntities := [sampleEntity]
  books := [sampleBook, managementBook]
  chartAccounts := sampleAccounts 1 ++ sampleAccounts 2
  roleMappings := sampleMappings 1 ++ sampleMappings 2
  calendars := [⟨1, "main"⟩]
  legalEntity_key := sampleCatalog.legalEntity_key
  book_key := by decide
  chartAccount_key := by decide
  book_entity := by decide

/-- The second book is still open: the first book's closed January is read live, as open. -/
theorem openSibling_hides_close :
    ReadableBook (sampleDeployment twinCatalog) "urn:cwl:legal_entity:e1" "urn:cwl:book:b1"
      sampleEntity sampleBook ∧
    ¬FollowsOwnState (sampleDeployment twinCatalog)
      (ledgerAfter (sampleDeployment twinCatalog) closeJanuaryCommands) "urn:cwl:legal_entity:e1"
      "urn:cwl:book:b1" sampleEntity sampleBook := by
  have hrun :
      let dep := sampleDeployment twinCatalog
      let t := ledgerAfter dep closeJanuaryCommands
      (∃ p ∈ t.fiscalPeriods, HardClosedFor t 1 p.fiscalPeriodId ∧ p.periodCode = "2024-01") ∧
      (loadPeriodTrialBalance dep t "urn:cwl:legal_entity:e1" "urn:cwl:book:b1" "2024-01" "").map
        TrialBalanceDocument.periodStatus = .ok .opened := by
    decide +kernel
  obtain ⟨⟨p, hp, hhard, hcode⟩, hopen⟩ := hrun
  refine ⟨⟨by decide +kernel, by decide +kernel, by decide +kernel⟩, fun hfollows => ?_⟩
  obtain ⟨document, -, hload, hstatus, -⟩ := hfollows.trialBalance p hp hhard
  rw [hcode] at hload
  obtain ⟨document', hload', hopen⟩ := map_eq_ok.mp hopen
  rw [hload] at hload'
  cases hload'
  rw [hstatus] at hopen
  cases hopen

end AccountingPlatform.Postgres
