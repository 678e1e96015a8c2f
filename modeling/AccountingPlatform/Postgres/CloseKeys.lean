/-
  Keys of period closes.

  A soft close keeps its key in the control row, a hard close in the snapshot, and a key is
  looked up only in the row of the scope that is being closed. A conflict is therefore raised
  in one place: a soft close of a control row that holds the evidence of another key.
-/
import AccountingPlatform.Postgres.Commands

namespace AccountingPlatform.Postgres

open AccountingPlatform.Lib AccountingPlatform.Core

variable (dep : Deployment)

/-! ## Reads raise no conflict -/

/-- The computation does not end with an idempotency conflict. -/
def NoConflict {α : Type} (x : Result α) : Prop := Raises (fun e => ¬e.isConflict) x

theorem NoConflict.bind_error {α β : Type} {x : Result α} {f : α → Result β} {message : String}
    (hx : NoConflict x) (h : (x >>= f) = .error (.idempotencyConflict message)) :
    ∃ a, x = .ok a ∧ f a = .error (.idempotencyConflict message) :=
  Raises.bind_error hx (not_not_intro trivial) h

variable {dep}

section
variable {t : Tables} {entity : LegalEntityRecord} {book : AccountingBook} {period : FiscalPeriod}
  {request : CloseRequest}

theorem loadScope_noConflict (legalEntityReference accountingBookReference nextAction : String) :
    NoConflict (dep.loadScope legalEntityReference accountingBookReference nextAction) := by
  unfold NoConflict Deployment.loadScope Deployment.loadLegalEntity Deployment.requireBookForClose
  refine raises_bind (raises_fetch id) fun _ _ => ?_
  exact raises_bind (raises_fetch id) fun _ _ => raises_pure _

theorem requireReference_noConflict (value label : String) :
    NoConflict (requireReference value label) := raises_require id

theorem requireFiscalPeriod_noConflict (periodCode nextAction : String) :
    NoConflict (requireFiscalPeriod dep t periodCode nextAction) := raises_fetch id

theorem trialBalanceLines_noConflict (balanceBasisCode : String) :
    NoConflict (trialBalanceLines dep t entity book period balanceBasisCode) := by
  unfold NoConflict trialBalanceLines
  dsimp only
  split
  · exact raises_bind (raises_fetch id) fun _ _ => raises_pure _
  split
  · exact raises_pure _
  split
  · exact raises_pure _
  split
  · exact raises_bind (raises_fetch id) fun _ _ => raises_pure _
  · exact raises_pure _

theorem loadPeriodTrialBalance_noConflict
    (legalEntityReference accountingBookReference periodCode balanceBasisCode : String) :
    NoConflict (loadPeriodTrialBalance dep t legalEntityReference accountingBookReference periodCode
      balanceBasisCode) := by
  unfold NoConflict loadPeriodTrialBalance
  refine raises_bind (requireReference_noConflict _ _) fun _ _ => ?_
  refine raises_bind (requireReference_noConflict _ _) fun _ _ => ?_
  refine raises_bind (raises_require id) fun _ _ => ?_
  refine raises_bind (raises_require id) fun _ _ => ?_
  refine raises_bind (loadScope_noConflict _ _ _) fun _ _ => ?_
  refine raises_bind (requireFiscalPeriod_noConflict _ _) fun _ _ => ?_
  exact raises_bind (trialBalanceLines_noConflict _) fun _ _ => raises_pure _

theorem statementPeriodIds_noConflict (periodCode statementScopeCode : String) :
    NoConflict (statementPeriodIds dep t periodCode statementScopeCode) := by
  unfold NoConflict statementPeriodIds
  refine raises_bind (raises_fetch id) fun _ _ => ?_
  split
  · exact raises_pure _
  · exact raises_pure _

theorem dayBefore_noConflict (date : Date) : NoConflict (dayBefore date) :=
  raises_bind (raises_require id) fun _ _ => raises_pure _

theorem loadOperationalIncomeLines_noConflict
    (legalEntityReference accountingBookReference periodCode statementScopeCode : String) :
    NoConflict (loadOperationalIncomeLines dep t legalEntityReference accountingBookReference
      periodCode statementScopeCode) := by
  unfold NoConflict loadOperationalIncomeLines
  refine raises_bind (loadScope_noConflict _ _ _) fun _ _ => ?_
  refine raises_bind (statementPeriodIds_noConflict _ _) fun _ _ => ?_
  exact raises_tryMap (fun _ => raises_bind (raises_fetch id) fun _ _ => raises_pure _) _

theorem loadChangesInEquityLines_noConflict
    (legalEntityReference accountingBookReference periodCode statementScopeCode : String) :
    NoConflict (loadChangesInEquityLines dep t legalEntityReference accountingBookReference
      periodCode statementScopeCode) := by
  unfold NoConflict loadChangesInEquityLines
  refine raises_bind (loadOperationalIncomeLines_noConflict _ _ _ _) fun _ _ => ?_
  refine raises_bind (loadScope_noConflict _ _ _) fun _ _ => ?_
  refine raises_bind (statementPeriodIds_noConflict _ _) fun _ _ => ?_
  refine raises_bind (raises_fetch id) fun _ _ => ?_
  refine raises_bind ?_ fun _ _ => raises_pure _
  unfold openingEquityAmount
  split
  · exact raises_ok _
  · exact raises_bind (dayBefore_noConflict _) fun _ _ => raises_pure _

theorem loadCashFlowLines_noConflict
    (legalEntityReference accountingBookReference periodCode statementScopeCode : String) :
    NoConflict (loadCashFlowLines dep t legalEntityReference accountingBookReference periodCode
      statementScopeCode) := by
  unfold NoConflict loadCashFlowLines
  refine raises_bind (loadOperationalIncomeLines_noConflict _ _ _ _) fun _ _ => ?_
  refine raises_bind (loadScope_noConflict _ _ _) fun _ _ => ?_
  refine raises_bind (statementPeriodIds_noConflict _ _) fun _ _ => ?_
  refine raises_bind (raises_fetch id) fun _ _ => ?_
  refine raises_bind ?_ fun _ _ => raises_pure _
  unfold openingCashAmount
  split
  · exact raises_ok _
  · exact raises_bind (dayBefore_noConflict _) fun _ _ => raises_pure _

theorem balanceSheetLines_noConflict (facts : Dict String (String × AccountClass))
    (entries : List TrialBalanceEntry) : NoConflict (balanceSheetLines facts entries) := by
  induction entries with
  | nil => exact raises_ok _
  | cons entry entries ih =>
    unfold NoConflict balanceSheetLines
    refine raises_bind (raises_fetch id) fun _ _ => raises_bind ih fun _ _ => ?_
    split
    · exact raises_pure _
    · exact raises_pure _

theorem loadStatement_noConflict
    (legalEntityReference accountingBookReference periodCode statementTypeCode
      statementScopeCode : String) :
    NoConflict (loadStatement dep t legalEntityReference accountingBookReference periodCode
      statementTypeCode statementScopeCode) := by
  have hmovement : ∀ lines, NoConflict (statementNetIncome.periodNetIncomeOf lines) := fun lines =>
    raises_bind (raises_fetch id) fun _ _ => raises_pure _
  unfold NoConflict loadStatement
  refine raises_bind (raises_require id) fun _ _ => ?_
  refine raises_bind (raises_fetch id) fun kind _ => ?_
  refine raises_bind (loadPeriodTrialBalance_noConflict _ _ _ _) fun trialBalance _ => ?_
  refine raises_bind (loadScope_noConflict _ _ _) fun scope _ => ?_
  refine raises_bind ?_ fun lines _ => raises_bind ?_ fun _ _ => raises_pure _
  · cases kind with
    | incomeStatement => exact loadOperationalIncomeLines_noConflict _ _ _ _
    | balanceSheet => exact balanceSheetLines_noConflict _ _
    | changesInEquity => exact loadChangesInEquityLines_noConflict _ _ _ _
    | cashFlow => exact loadCashFlowLines_noConflict _ _ _ _
  · cases kind with
    | incomeStatement => exact raises_ok _
    | changesInEquity => exact hmovement lines
    | cashFlow => exact hmovement lines
    | balanceSheet =>
      show Raises _ (if trialBalance.periodStatus = .hardClosed then .ok 0 else _)
      split
      · exact raises_ok _
      · exact raises_bind (loadOperationalIncomeLines_noConflict _ _ _ _) fun _ _ => raises_pure _

theorem loadFinancialStatement_noConflict
    (legalEntityReference accountingBookReference periodCode statementTypeCode comparisonPeriodCode
      statementScopeCode : String) :
    NoConflict (loadFinancialStatement dep t legalEntityReference accountingBookReference periodCode
      statementTypeCode comparisonPeriodCode statementScopeCode) := by
  unfold NoConflict loadFinancialStatement
  refine raises_bind (loadStatement_noConflict _ _ _ _ _) fun _ _ => ?_
  split
  · exact raises_pure _
  · exact raises_bind (loadStatement_noConflict _ _ _ _ _) fun _ _ => raises_pure _

/-! ## Writes of a close raise no conflict -/

theorem assemblePeriodClosePackage_noConflict
    (legalEntityReference accountingBookReference periodCode : String) :
    NoConflict (assemblePeriodClosePackage dep t legalEntityReference accountingBookReference
      periodCode) := by
  unfold NoConflict assemblePeriodClosePackage Deployment.loadLegalEntity requireAgedAccount
    requireCatalogAccount
  refine raises_bind (raises_fetch id) fun _ _ => ?_
  refine raises_bind (raises_fetch id) fun _ _ => ?_
  refine raises_bind (loadPeriodTrialBalance_noConflict _ _ _ _) fun _ _ => ?_
  refine raises_bind (raises_tryMap (fun _ => loadFinancialStatement_noConflict _ _ _ _ _ _) _)
    fun _ _ => ?_
  refine raises_bind (loadScope_noConflict _ _ _) fun scope _ => ?_
  refine raises_bind (raises_require id) fun _ _ => ?_
  refine raises_bind (raises_require id) fun _ _ => ?_
  refine raises_bind (raises_require id) fun _ _ => ?_
  refine raises_bind ?_ fun _ _ => raises_bind (raises_require id) fun _ _ => raises_pure _
  unfold openingAccountSides
  split
  · split
    · exact raises_ok _
    · exact raises_ok _
  · exact raises_bind (dayBefore_noConflict _) fun _ _ => raises_pure _

theorem policyBuild_noConflict (fields : AccountingPolicyFields) :
    NoConflict (AccountingPolicy.build fields) := by
  have hinit : NoConflict fields.postInit := by
    unfold NoConflict AccountingPolicyFields.postInit requireCode requireCurrency
    refine raises_bind (requireReference_noConflict _ _) fun _ _ => ?_
    refine raises_bind (requireReference_noConflict _ _) fun _ _ => ?_
    refine raises_bind (requireReference_noConflict _ _) fun _ _ => ?_
    refine raises_bind (raises_require id) fun _ _ => ?_
    refine raises_bind (raises_require id) fun _ _ => ?_
    refine raises_bind (raises_require id) fun _ _ => ?_
    refine raises_bind (raises_require id) fun _ _ => ?_
    refine raises_bind (raises_require id) fun _ _ => ?_
    refine raises_bind (raises_tryMap (fun entry => ?_) _) fun _ _ => raises_pure _
    exact raises_bind (raises_require id) fun _ _ => raises_require id
  unfold NoConflict AccountingPolicy.build
  split
  · exact raises_ok _
  · next e he => exact raises_error (hinit e he)

theorem insertProposalRecord_noConflict (row : NewProposalRecord) :
    NoConflict (insertProposalRecord t row) := by
  unfold NoConflict insertProposalRecord
  refine raises_bind (raises_require id) fun _ _ => ?_
  refine raises_bind (raises_require id) fun _ _ => ?_
  refine raises_bind (raises_require id) fun _ _ => ?_
  refine raises_bind (raises_require id) fun _ _ => ?_
  exact raises_bind (raises_require id) fun _ _ => raises_pure _

theorem insertJournal_noConflict (new : NewJournal) : NoConflict (insertJournal dep t new) := by
  have hguard : NoConflict (guardPeriodInsert dep t new.accountingBookId new.fiscalPeriodId
      new.writeRole) := by
    unfold NoConflict guardPeriodInsert
    refine raises_bind (raises_fetch id) fun _ _ => ?_
    split
    · exact raises_pure _
    · exact raises_require id
    · exact raises_error id
  have hline : ∀ line, NoConflict (insertJournalLine dep new.accountingBookId line) := by
    intro line
    unfold NoConflict insertJournalLine
    refine raises_bind (raises_fetch id) fun _ _ => ?_
    refine raises_bind (raises_require id) fun _ _ => ?_
    refine raises_bind (raises_require id) fun _ _ => ?_
    refine raises_bind (raises_require id) fun _ _ => ?_
    exact raises_bind (raises_require id) fun _ _ => raises_pure _
  unfold NoConflict insertJournal assertJournalBalance
  refine raises_bind hguard fun _ _ => ?_
  refine raises_bind (raises_require id) fun _ _ => ?_
  refine raises_bind (raises_require id) fun _ _ => ?_
  refine raises_bind (raises_tryMap hline _) fun _ _ => ?_
  refine raises_bind (raises_require id) fun _ _ => ?_
  refine raises_bind (raises_require id) fun _ _ => ?_
  refine raises_bind (raises_require id) fun _ _ => ?_
  refine raises_bind ?_ fun _ _ => raises_pure _
  exact raises_bind (raises_require id) fun _ _ => raises_require id

theorem persistPeriodClose_noConflict :
    NoConflict (persistPeriodClose dep t request entity book period) := by
  have hclosing : NoConflict (postClosingJournal dep t request entity book period) := by
    unfold NoConflict postClosingJournal requireRetainedEarningsMapping
    dsimp only
    split
    · exact raises_pure _
    · refine raises_bind (raises_fetch id) fun _ _ => ?_
      refine raises_bind (insertProposalRecord_noConflict _) fun _ _ => ?_
      refine raises_bind (policyBuild_noConflict _) fun _ _ => ?_
      exact raises_bind (insertJournal_noConflict _) fun _ _ => raises_pure _
  unfold NoConflict persistPeriodClose insertSnapshot
  refine raises_bind hclosing fun _ _ => ?_
  refine raises_bind ?_ fun _ _ => raises_pure _
  refine raises_bind (raises_require id) fun _ _ => ?_
  refine raises_bind (raises_require id) fun _ _ => ?_
  exact raises_bind (raises_require id) fun _ _ => raises_pure _

theorem persistSoftClose_noConflict (control : BookPeriodControl) :
    NoConflict (persistSoftClose dep t request entity book period control) := by
  unfold NoConflict persistSoftClose
  refine raises_bind (raises_require id) fun _ _ => ?_
  refine raises_bind (raises_require id) fun _ _ => ?_
  exact raises_bind (raises_require id) fun _ _ => raises_pure _

theorem replayCloseReceipt_noConflict :
    NoConflict (replayCloseReceipt dep t request entity book period) := by
  unfold NoConflict replayCloseReceipt
  refine raises_bind (raises_fetch id) fun _ _ => ?_
  exact raises_bind (raises_require id) fun _ _ => raises_pure _

end

/-! ## Where a conflict comes from -/

variable (dep) in
/-- A soft close of a control row that keeps the evidence of another key. -/
def SoftClosedUnderAnotherKey (t : Tables) (request : CloseRequest) : Prop :=
  requireCloseRequest request = .ok .softClosed ∧
    ∃ entity book period control evidence,
      dep.loadScope request.legalEntityReference request.accountingBookReference "the close" =
        .ok (entity, book) ∧
      request.snapshotCurrencyCode = book.reportingCurrencyCode ∧
      periodByCode dep t request.periodCode = some period ∧
      (t.bookPeriodControls.find? fun control =>
        control.accountingBookId = book.accountingBookId ∧
          control.fiscalPeriodId = period.fiscalPeriodId) = some control ∧
      control.periodStatus = .softClosed ∧ control.softClose = some evidence ∧
      evidence.idempotencyKey ≠ closeIdempotencyKey dep request

theorem replaySoftCloseReceipt_conflict {t : Tables} {request : CloseRequest}
    {control : BookPeriodControl} {message : String}
    (h : replaySoftCloseReceipt dep t request control = .error (.idempotencyConflict message)) :
    ∃ evidence, control.softClose = some evidence ∧
      evidence.idempotencyKey ≠ closeIdempotencyKey dep request := by
  unfold replaySoftCloseReceipt at h
  obtain ⟨evidence, hevidence, h⟩ := NoConflict.bind_error (raises_fetch id) h
  rw [fetch_eq_ok] at hevidence
  rcases bind_eq_error.mp h with h | ⟨-, -, h⟩
  · exact ⟨evidence, hevidence, (require_eq_error.mp h).1⟩
  · exact absurd h pure_ne_error

/-- A conflict comes from the replay of a soft close. -/
theorem closeLockedPeriod_conflict {t : Tables} {request : CloseRequest}
    {entity : LegalEntityRecord} {book : AccountingBook} {period : FiscalPeriod}
    {control : BookPeriodControl} {requested : PeriodStatus} {message : String}
    (h : closeLockedPeriod dep t request entity book period control requested =
      .error (.idempotencyConflict message)) :
    control.periodStatus ≠ .hardClosed ∧ control.periodStatus = requested ∧
      replaySoftCloseReceipt dep t request control = .error (.idempotencyConflict message) := by
  have hno : ∀ {α : Type} {x : Result α}, NoConflict x → x ≠ .error (.idempotencyConflict message) :=
    fun hx heq => hx _ heq trivial
  unfold closeLockedPeriod at h
  split at h
  · split at h
    · cases h
    · exact absurd h (hno (raises_bind replayCloseReceipt_noConflict fun _ _ => raises_pure _))
  · next hhard =>
    split at h
    · next hsame =>
      refine ⟨hhard, hsame, ?_⟩
      cases hreplay : replaySoftCloseReceipt dep t request control with
      | error e =>
        rw [hreplay, error_bind, Except.error.injEq] at h
        rw [h]
      | ok receipt =>
        rw [hreplay] at h
        cases h
    · split at h
      · exact absurd h (hno (persistSoftClose_noConflict control))
      · refine absurd h (hno ?_)
        refine raises_bind (assemblePeriodClosePackage_noConflict _ _ _) fun _ _ => ?_
        exact raises_bind (raises_require id) fun _ _ => persistPeriodClose_noConflict

/-- The control row a close locks is the stored one, if there is one. -/
theorem find_materialized {controls : List BookPeriodControl} {t : Tables} {period : FiscalPeriod}
    {bookId : ℕ} {control : BookPeriodControl} {evidence : SoftCloseEvidence}
    (hcontrols : t.bookPeriodControls = controls)
    (h : ((controls ++ materializedControls dep t period).find? fun control =>
      control.accountingBookId = bookId ∧ control.fiscalPeriodId = period.fiscalPeriodId) =
        some control) (hevidence : control.softClose = some evidence) :
    (controls.find? fun control => control.accountingBookId = bookId ∧
      control.fiscalPeriodId = period.fiscalPeriodId) = some control := by
  subst hcontrols
  rw [List.find?_append, Option.or_eq_some_iff] at h
  rcases h with h | ⟨-, h⟩
  · exact h
  · -- a row that was materialized has no evidence
    have hmem := List.mem_of_find?_eq_some h
    simp only [materializedControls, List.mem_map] at hmem
    obtain ⟨_, -, rfl⟩ := hmem
    cases hevidence

theorem requireCloseRequest_noConflict {request : CloseRequest} :
    NoConflict (requireCloseRequest request) := by
  unfold NoConflict requireCloseRequest
  refine raises_bind (requireReference_noConflict _ _) fun _ _ => ?_
  refine raises_bind (requireReference_noConflict _ _) fun _ _ => ?_
  refine raises_bind (raises_require id) fun _ _ => ?_
  refine raises_bind (raises_require id) fun _ _ => ?_
  split
  · exact raises_pure _
  · split
    · exact raises_pure _
    · exact raises_error id

theorem requireCloseRequest_cases {request : CloseRequest} {requested : PeriodStatus}
    (h : requireCloseRequest request = .ok requested) :
    requested = .softClosed ∨ requested = .hardClosed := by
  simp only [requireCloseRequest, bind_eq_ok] at h
  obtain ⟨-, -, -, -, -, -, -, -, h⟩ := h
  split at h
  · rw [pure_eq_ok] at h
    exact Or.inl h.symm
  · split at h
    · rw [pure_eq_ok] at h
      exact Or.inr h.symm
    · cases h

theorem lockBookPeriod_noConflict {t : Tables} (bookId : ℕ) (periodCode : String) :
    NoConflict (lockBookPeriod dep t bookId periodCode) := by
  unfold NoConflict lockBookPeriod
  refine raises_bind (requireFiscalPeriod_noConflict _ _) fun _ _ => ?_
  exact raises_bind (raises_fetch id) fun _ _ => raises_pure _

/-- A close is refused as a conflict exactly when it soft-closes a row under another key. -/
theorem closeFiscalPeriod_conflict_iff (t : Tables) (request : CloseRequest) :
    (∃ message, closeFiscalPeriod dep t request = .error (.idempotencyConflict message)) ↔
      SoftClosedUnderAnotherKey dep t request := by
  constructor
  · rintro ⟨message, h⟩
    unfold closeFiscalPeriod at h
    obtain ⟨requested, hrequested, h⟩ := NoConflict.bind_error requireCloseRequest_noConflict h
    obtain ⟨⟨entity, book⟩, hscope, h⟩ := NoConflict.bind_error (loadScope_noConflict _ _ _) h
    obtain ⟨_, hcurrency, h⟩ := NoConflict.bind_error (raises_require id) h
    obtain ⟨⟨period, control, t₁⟩, hlock, h⟩ := NoConflict.bind_error (lockBookPeriod_noConflict _ _) h
    obtain ⟨hhard, hsame, hreplay⟩ := closeLockedPeriod_conflict h
    obtain ⟨evidence, hevidence, hkey⟩ := replaySoftCloseReceipt_conflict hreplay
    obtain ⟨hperiod, rfl, hcontrol⟩ := lockBookPeriod_ok dep hlock
    have hsoft : requested = .softClosed := by
      rcases requireCloseRequest_cases hrequested with hsoft | hhard'
      · exact hsoft
      · exact absurd (hsame.trans hhard') hhard
    refine ⟨hsoft ▸ hrequested, entity, book, period, control, evidence, hscope,
      require_eq_ok.mp hcurrency, hperiod, find_materialized rfl hcontrol hevidence,
      hsame.trans hsoft, hevidence, hkey⟩
  · rintro ⟨hrequested, entity, book, period, control, evidence, hscope, hcurrency, hperiod,
      hcontrol, hstatus, hevidence, hkey⟩
    have hlock : lockBookPeriod dep t book.accountingBookId request.periodCode =
        .ok (period, control, { t with
          bookPeriodControls := t.bookPeriodControls ++ materializedControls dep t period }) := by
      unfold lockBookPeriod requireFiscalPeriod
      rw [hperiod]
      show (fetch ((t.bookPeriodControls ++ materializedControls dep t period).find? _) _ >>= _) = _
      rw [List.find?_append, hcontrol]
      rfl
    refine ⟨"period-close idempotency key was already used by the soft-close command. Replay the original close idempotency key, then retry the close.", ?_⟩
    unfold closeFiscalPeriod
    rw [hrequested, ok_bind, hscope, ok_bind]
    show (require _ _ >>= fun _ => lockBookPeriod dep t book.accountingBookId request.periodCode >>=
      _) = _
    rw [require_of hcurrency, ok_bind, hlock, ok_bind]
    show closeLockedPeriod dep _ request entity book period control .softClosed = _
    unfold closeLockedPeriod
    rw [if_neg (by rw [hstatus]; decide), if_pos hstatus]
    unfold replaySoftCloseReceipt
    rw [hevidence]
    show ((require _ _ >>= _) >>= _) = _
    rw [require, if_neg hkey]
    rfl

/-! ## One key, one close -/

/-- The same legal entity, book, period and requested status. -/
def CloseRequest.sameClose (request first : CloseRequest) : Prop :=
  request.legalEntityReference = first.legalEntityReference ∧
    request.accountingBookReference = first.accountingBookReference ∧
    request.periodCode = first.periodCode ∧ request.periodStatusCode = first.periodStatusCode

instance decSameClose (request first : CloseRequest) : Decidable (request.sameClose first) :=
  inferInstanceAs (Decidable (_ ∧ _))

variable (dep) in
/-- A close that was answered in the course of the commands. -/
def AnsweredClose (before : List Command) (request : CloseRequest) : Prop :=
  ∃ earlier later, before = earlier ++ .closeFiscalPeriod request :: later ∧
    Succeeds (closeFiscalPeriod dep (ledgerAfter dep earlier) request)

variable (dep) in
/-- The explicit key of a request was given to another close before. -/
def KeyReused (before : List Command) (request : CloseRequest) : Prop :=
  strip request.idempotencyKey ≠ "" ∧ ∃ first, AnsweredClose dep before first ∧
    strip first.idempotencyKey = strip request.idempotencyKey ∧ ¬request.sameClose first

variable (dep) in
/-- A close under the key of another one is rejected as a conflict and changes nothing. -/
def KeyNamesItsClose (before : List Command) : Command → Prop
  | .closeFiscalPeriod request => KeyReused dep before request →
      (∃ message, closeFiscalPeriod dep (ledgerAfter dep before) request =
        .error (.idempotencyConflict message)) ∧
      execute dep (ledgerAfter dep before) (.closeFiscalPeriod request) = ledgerAfter dep before
  | _ => True

variable (dep) in
/-- A close under the key of another one soft-closes a row that keeps the evidence of a third. -/
def SoftClosesAnotherRow (before : List Command) : Command → Prop
  | .closeFiscalPeriod request => KeyReused dep before request →
      SoftClosedUnderAnotherKey dep (ledgerAfter dep before) request
  | _ => True

variable (dep) in
/-- Along a run a close key names one close exactly when every reuse of it is a soft close of a
    control row that already keeps the evidence of a different key. -/
theorem closeKey_names_one_close_iff (commands : List Command) :
    EveryStep (KeyNamesItsClose dep) commands ↔ EveryStep (SoftClosesAnotherRow dep) commands := by
  refine everyStep_iff (fun before command _ => ?_) commands
  cases command with
  | closeFiscalPeriod request =>
    refine imp_congr_right fun _ => ?_
    rw [← closeFiscalPeriod_conflict_iff]
    refine and_iff_left_of_imp ?_
    rintro ⟨message, herror⟩
    refine execute_of_error dep (e := .idempotencyConflict message) ?_
    show (closeFiscalPeriod dep _ request).map Prod.snd = _
    rw [herror]
    rfl
  | _ => exact Iff.rfl

/-! ## A reused key -/

/-- The error a close ends with. -/
def closeError (dep : Deployment) (t : Tables) (request : CloseRequest) : Option LedgerError :=
  match closeFiscalPeriod dep t request with
  | .ok _ => none
  | .error e => some e

def keyedClose (periodCode periodStatusCode : String) : CloseRequest :=
  ⟨"urn:cwl:legal_entity:e1", "urn:cwl:book:b1", periodCode, "KRW", periodStatusCode, "close-1"⟩

/-- January is hard-closed under the key. -/
def keyedCloseCommands : List Command := [
  samplePeriod "2024-01" "open-1" 738886 738916,
  samplePeriod "2024-02" "open-2" 738917 738945,
  .closeFiscalPeriod (keyedClose "2024-01" "hard_closed")]

/-- A hard close of February under the same key ends in a raw uniqueness error, a soft close of it
    is accepted. -/
theorem reusedCloseKey_not_rejected :
    let dep := sampleDeployment sampleCatalog
    closeError dep (ledgerAfter dep keyedCloseCommands) (keyedClose "2024-02" "hard_closed") =
      some uniqueViolation ∧
    closeError dep (ledgerAfter dep keyedCloseCommands) (keyedClose "2024-02" "soft_closed") =
      none ∧
    ¬EveryStep (KeyNamesItsClose dep)
      (keyedCloseCommands ++ [.closeFiscalPeriod (keyedClose "2024-02" "hard_closed")]) := by
  intro dep
  have hfacts : closeError dep (ledgerAfter dep (keyedCloseCommands.take 2))
        (keyedClose "2024-01" "hard_closed") = none ∧
      closeError dep (ledgerAfter dep keyedCloseCommands) (keyedClose "2024-02" "hard_closed") =
        some uniqueViolation ∧
      closeError dep (ledgerAfter dep keyedCloseCommands) (keyedClose "2024-02" "soft_closed") =
        none ∧
      strip (keyedClose "2024-02" "hard_closed").idempotencyKey ≠ "" ∧
      ¬(keyedClose "2024-02" "hard_closed").sameClose (keyedClose "2024-01" "hard_closed") := by
    decide +kernel
  obtain ⟨haccepted, hraw, hsoft, hexplicit, hother⟩ := hfacts
  refine ⟨hraw, hsoft, fun h => ?_⟩
  have hlast := (everyStep_concat_iff.mp h).2
  have hanswered : AnsweredClose dep keyedCloseCommands (keyedClose "2024-01" "hard_closed") := by
    refine ⟨keyedCloseCommands.take 2, [], rfl, ?_⟩
    unfold closeError at haccepted
    split at haccepted
    · next answered hok => exact ⟨answered, hok⟩
    · cases haccepted
  obtain ⟨⟨message, hconflict⟩, -⟩ := hlast ⟨hexplicit, _, hanswered, rfl, hother⟩
  rw [closeError, hconflict] at hraw
  cases hraw

end AccountingPlatform.Postgres
