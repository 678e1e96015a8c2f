/-
  The close review of a reconciliation run (`reconciliation_read_model.py`).

  A review is built from a bridge result, the decisions of a run and the statement entries
  that were expected. `Reviewable` is the condition under which the source lets it be built.
-/
import AccountingPlatform.Bank.Bridge

namespace AccountingPlatform.Bank

open AccountingPlatform.Lib AccountingPlatform.Core

/-! ## Inputs -/

structure CloseReviewScope where
  tenantAccountReference : String
  legalEntityReference : String
  accountingBookReference : String
  bankAccountAssignmentReference : String
  currencyCode : String
  deriving DecidableEq

structure CloseReviewInput where
  bridgeResult : BookToBankBridgeResult
  decisions : List ReconciliationDecision
  expectedStatementEntryReferences : List String
  scope : CloseReviewScope
  precedingBridgeResult : Option BookToBankBridgeResult
  precedingScope : Option CloseReviewScope

structure CloseReviewProjection where
  tenantAccountReference : String
  legalEntityReference : String
  accountingBookReference : String
  bankAccountAssignmentReference : String
  reconciliationRunReference : String
  statementPopulationReference : String
  bookPopulationReference : String
  currencyCode : String
  bankClosingBalance : Decimal
  postedBookCashBalance : Decimal
  reconciledBalance : Decimal
  outstandingBankItems : Decimal
  outstandingBookItems : Decimal
  unexplainedDifference : Decimal
  safelyMatchableCandidateCount : ℕ
  exceptionCount : ℕ
  exceptionStatementEntryReferences : List String
  unexplainedDifferenceChange : Option Decimal
  outstandingBankItemsChange : Option Decimal
  outstandingBookItemsChange : Option Decimal
  suitableForPeriodCloseReview : Bool
  nextAction : String
  deriving DecidableEq

/-- `identity_fields`. -/
def CloseReviewScope.identity (scope : CloseReviewScope) : List String :=
  [scope.tenantAccountReference, scope.legalEntityReference, scope.accountingBookReference,
    scope.bankAccountAssignmentReference]

/-- `bridge_identity`. -/
def BookToBankBridgeResult.identity (bridge : BookToBankBridgeResult) : List (Option String) :=
  [bridge.references.tenantAccountReference, bridge.references.legalEntityReference,
    bridge.references.accountingBookReference, bridge.references.bankAccountAssignmentReference]

def CloseReviewInput.decisionReferences (input : CloseReviewInput) : List String :=
  input.decisions.map (·.statementEntryReference)

/-! ## Checks -/

def validateScope (scope : CloseReviewScope) (bridge : BookToBankBridgeResult) (label : String) :
    Except EvidenceError Unit := do
  require (∀ value ∈ scope.identity, strip value ≠ "")
    (.valueError (label ++ " reconciliation scope identity must be non-empty"))
  require (scope.currencyCode = bridge.references.currencyCode)
    (.valueError (label ++ " reconciliation scope currency must match bridge currency"))
  require (∀ bound ∈ bridge.identity, ∃ value ∈ bound, strip value ≠ "")
    (.valueError (label ++ " bridge scope identity must be bound"))
  require (bridge.identity = scope.identity.map some)
    (.valueError (label ++ " bridge scope must match reconciliation scope"))

def validateStatementPopulation (input : CloseReviewInput) : Except EvidenceError Unit := do
  let expected := input.expectedStatementEntryReferences
  require (∀ value ∈ expected, strip value ≠ "")
    (.valueError "statement population identities must be non-empty")
  -- `len(set(expected)) == len(expected)`
  require expected.Nodup (.valueError "statement population identities must be unique")
  let references := input.decisionReferences
  require (∀ value ∈ references, strip value ≠ "")
    (.valueError "statement population decision identities must be non-empty")
  require (references.length = expected.length ∧ references.Nodup ∧
      references ⊆ expected ∧ expected ⊆ references)
    (.valueError
      "statement population decisions must exactly cover the expected statement population")

/-- The three changes from a preceding bridge. -/
structure ReviewChanges where
  unexplained : Option Decimal
  outstandingBank : Option Decimal
  outstandingBook : Option Decimal

def precedingChanges (input : CloseReviewInput) : Except EvidenceError ReviewChanges :=
  let bridge := input.bridgeResult
  match input.precedingBridgeResult, input.precedingScope with
  | none, some _ => .error (.valueError
      "preceding reconciliation scope cannot exist without preceding bridge evidence")
  | none, none => pure ⟨none, none, none⟩
  | some _, none => .error (.valueError
      "preceding reconciliation scope is required for preceding bridge evidence")
  | some preceding, some precedingScope => do
    validateScope precedingScope preceding "preceding"
    require (precedingScope = input.scope) (.valueError
      "preceding reconciliation scope must match the current accounting and bank scope")
    let unexplained ← minus bridge.unexplainedDifference preceding.unexplainedDifference
    let outstandingBank ← minus bridge.money.outstandingBankItems preceding.money.outstandingBankItems
    let outstandingBook ← minus bridge.money.outstandingBookItems preceding.money.outstandingBookItems
    pure ⟨some unexplained, some outstandingBank, some outstandingBook⟩

def reviewAction (bridge : BookToBankBridgeResult) (exceptions : List ReconciliationDecision) : String :=
  if bridge.statusCode ≠ .reconciled then
    "Resolve the exact book-to-bank bridge difference " ++ bridge.unexplainedDifference.text ++ " " ++
      bridge.references.currencyCode ++ ", then rerun close review."
  else if exceptions ≠ [] then
    "Resolve " ++ toString exceptions.length ++ " reconciliation exception(s) from the listed " ++
      "statement evidence, then rerun period-close review."
  else
    "Attach this exact reconciliation evidence to the period-close review; " ++
      "the authorized reconciliation review remains a separate control."

def buildReconciliationCloseReview (input : CloseReviewInput) :
    Except EvidenceError CloseReviewProjection := do
  let bridge := input.bridgeResult
  validateScope input.scope bridge "current"
  validateStatementPopulation input
  let exceptions := input.decisions.filter fun decision => decision.decisionCode ≠ .matched
  let matchCount := (input.decisions.filter fun decision => decision.decisionCode = .matched).length
  let changes ← precedingChanges input
  pure {
    tenantAccountReference := input.scope.tenantAccountReference
    legalEntityReference := input.scope.legalEntityReference
    accountingBookReference := input.scope.accountingBookReference
    bankAccountAssignmentReference := input.scope.bankAccountAssignmentReference
    reconciliationRunReference := bridge.references.reconciliationRunReference
    statementPopulationReference := bridge.references.statementPopulationReference
    bookPopulationReference := bridge.references.bookPopulationReference
    currencyCode := bridge.references.currencyCode
    bankClosingBalance := bridge.money.statementClosingBalance
    postedBookCashBalance := bridge.money.bookClosingBalance
    reconciledBalance := bridge.money.reconciledBookBalance
    outstandingBankItems := bridge.money.outstandingBankItems
    outstandingBookItems := bridge.money.outstandingBookItems
    unexplainedDifference := bridge.unexplainedDifference
    safelyMatchableCandidateCount := matchCount
    exceptionCount := exceptions.length
    exceptionStatementEntryReferences := exceptions.map (·.statementEntryReference)
    unexplainedDifferenceChange := changes.unexplained
    outstandingBankItemsChange := changes.outstandingBank
    outstandingBookItemsChange := changes.outstandingBook
    suitableForPeriodCloseReview := bridge.statusCode = .reconciled && exceptions.isEmpty
    nextAction := reviewAction bridge exceptions }

/-! ## What may be reviewed -/

/-- The scope names the bridge: given, of its currency and bound to its identities. -/
structure ScopeBound (scope : CloseReviewScope) (bridge : BookToBankBridgeResult) : Prop where
  given : ∀ value ∈ scope.identity, strip value ≠ ""
  currency : scope.currencyCode = bridge.references.currencyCode
  bound : bridge.identity = scope.identity.map some

/-- One decision for every expected entry and no other. -/
structure CoversPopulation (input : CloseReviewInput) : Prop where
  given : ∀ value ∈ input.expectedStatementEntryReferences, strip value ≠ ""
  unique : input.expectedStatementEntryReferences.Nodup
  covers : input.decisionReferences.Perm input.expectedStatementEntryReferences

/-- A preceding bridge comes with its scope, which is the current one. -/
def PrecedingBound (input : CloseReviewInput) : Prop :=
  match input.precedingBridgeResult, input.precedingScope with
  | none, none => True
  | some preceding, some precedingScope =>
    ScopeBound precedingScope preceding ∧ precedingScope = input.scope
  | _, _ => False

structure Reviewable (input : CloseReviewInput) : Prop where
  scope : ScopeBound input.scope input.bridgeResult
  population : CoversPopulation input
  preceding : PrecedingBound input

/-- The three changes stay below the largest exponent. -/
def ChangesInRange (input : CloseReviewInput) : Prop :=
  ∀ preceding ∈ input.precedingBridgeResult,
    ¬context.Overflows (input.bridgeResult.unexplainedDifference.value -
        preceding.unexplainedDifference.value) ∧
      ¬context.Overflows (input.bridgeResult.money.outstandingBankItems.value -
        preceding.money.outstandingBankItems.value) ∧
      ¬context.Overflows (input.bridgeResult.money.outstandingBookItems.value -
        preceding.money.outstandingBookItems.value)

/-! ## What the checks accept -/

theorem validateScope_ok {scope : CloseReviewScope} {bridge : BookToBankBridgeResult} {label : String}
    {u : Unit} : validateScope scope bridge label = .ok u ↔ ScopeBound scope bridge := by
  simp only [validateScope, bind_eq_ok, require_eq_ok]
  constructor
  · rintro ⟨_, hgiven, _, hcurrency, _, -, hbound⟩
    exact ⟨hgiven, hcurrency, hbound⟩
  · rintro ⟨hgiven, hcurrency, hbound⟩
    refine ⟨(), hgiven, (), hcurrency, (), fun value hvalue => ?_, hbound⟩
    rw [hbound] at hvalue
    obtain ⟨text, htext, rfl⟩ := List.mem_map.mp hvalue
    exact ⟨text, rfl, hgiven text htext⟩

theorem validateStatementPopulation_ok {input : CloseReviewInput} {u : Unit} :
    validateStatementPopulation input = .ok u ↔ CoversPopulation input := by
  simp only [validateStatementPopulation, bind_eq_ok, require_eq_ok]
  constructor
  · rintro ⟨_, hgiven, _, hunique, _, -, -, hnodup, hsub, hsup⟩
    refine ⟨hgiven, hunique, (List.perm_ext_iff_of_nodup hnodup hunique).mpr fun value => ?_⟩
    exact ⟨fun h => hsub h, fun h => hsup h⟩
  · rintro ⟨hgiven, hunique, hcovers⟩
    refine ⟨(), hgiven, (), hunique, (), fun value hvalue => hgiven value (hcovers.mem_iff.mp hvalue),
      hcovers.length_eq, hcovers.nodup_iff.mpr hunique, hcovers.subset, hcovers.symm.subset⟩

/-- The error is a `ValueError`. -/
def IsValueError (e : EvidenceError) : Prop := ∃ message, e = .valueError message

theorem validateScope_raises (scope : CloseReviewScope) (bridge : BookToBankBridgeResult)
    (label : String) : Raises IsValueError (validateScope scope bridge label) :=
  raises_bind (raises_require ⟨_, rfl⟩) fun _ _ => raises_bind (raises_require ⟨_, rfl⟩) fun _ _ =>
    raises_bind (raises_require ⟨_, rfl⟩) fun _ _ => raises_require ⟨_, rfl⟩

theorem validateStatementPopulation_raises (input : CloseReviewInput) :
    Raises IsValueError (validateStatementPopulation input) :=
  raises_bind (raises_require ⟨_, rfl⟩) fun _ _ => raises_bind (raises_require ⟨_, rfl⟩) fun _ _ =>
    raises_bind (raises_require ⟨_, rfl⟩) fun _ _ => raises_require ⟨_, rfl⟩

theorem minus_ok {left right : Decimal} (h : ¬context.Overflows (left.value - right.value)) :
    ∃ d, minus left right = .ok d := by
  rcases minus_cases left right with ⟨-, hover⟩ | ⟨d, hd, -⟩
  · exact absurd hover h
  · exact ⟨d, hd⟩

theorem precedingBound_of_ok {input : CloseReviewInput} {changes : ReviewChanges}
    (h : precedingChanges input = .ok changes) : PrecedingBound input := by
  unfold precedingChanges at h
  unfold PrecedingBound
  cases hbridge : input.precedingBridgeResult with
  | none =>
    cases hscope : input.precedingScope with
    | none => trivial
    | some scope =>
      rw [hbridge, hscope] at h
      nomatch h
  | some preceding =>
    cases hscope : input.precedingScope with
    | none =>
      rw [hbridge, hscope] at h
      nomatch h
    | some scope =>
      rw [hbridge, hscope] at h
      simp only [bind_eq_ok, validateScope_ok, require_eq_ok] at h
      obtain ⟨_, hbound, _, hsame, -⟩ := h
      exact ⟨hbound, hsame⟩

theorem precedingChanges_ok {input : CloseReviewInput} (hbound : PrecedingBound input)
    (hrange : ChangesInRange input) : ∃ changes, precedingChanges input = .ok changes := by
  unfold PrecedingBound at hbound
  unfold ChangesInRange at hrange
  unfold precedingChanges
  cases hbridge : input.precedingBridgeResult with
  | none =>
    cases hscope : input.precedingScope with
    | none => exact ⟨_, rfl⟩
    | some scope =>
      rw [hbridge, hscope] at hbound
      exact hbound.elim
  | some preceding =>
    cases hscope : input.precedingScope with
    | none =>
      rw [hbridge, hscope] at hbound
      exact hbound.elim
    | some scope =>
      rw [hbridge, hscope] at hbound
      obtain ⟨hunexplained, hbank, hbook⟩ := hrange preceding hbridge
      obtain ⟨unexplained, hunexplained⟩ := minus_ok hunexplained
      obtain ⟨outstandingBank, hbank⟩ := minus_ok hbank
      obtain ⟨outstandingBook, hbook⟩ := minus_ok hbook
      have hscopeOk : validateScope scope preceding "preceding" = .ok () :=
        validateScope_ok.mpr hbound.1
      refine ⟨⟨some unexplained, some outstandingBank, some outstandingBook⟩, ?_⟩
      dsimp only
      rw [hscopeOk, require_of hbound.2, hunexplained, hbank, hbook]
      rfl

/-- Refusing a preceding bridge is a `ValueError`. -/
theorem precedingChanges_refused {input : CloseReviewInput} (h : ¬PrecedingBound input) :
    ∃ e, precedingChanges input = .error e ∧ IsValueError e := by
  unfold PrecedingBound at h
  unfold precedingChanges
  cases hbridge : input.precedingBridgeResult with
  | none =>
    cases hscope : input.precedingScope with
    | none =>
      rw [hbridge, hscope] at h
      exact absurd trivial h
    | some scope => exact ⟨_, rfl, _, rfl⟩
  | some preceding =>
    cases hscope : input.precedingScope with
    | none => exact ⟨_, rfl, _, rfl⟩
    | some scope =>
      rw [hbridge, hscope] at h
      dsimp only
      cases hvalidate : validateScope scope preceding "preceding" with
      | error e => exact ⟨e, rfl, validateScope_raises scope preceding "preceding" e hvalidate⟩
      | ok u =>
        have hother : scope ≠ input.scope := fun hsame => h ⟨validateScope_ok.mp hvalidate, hsame⟩
        rw [ok_bind, require, if_neg hother]
        exact ⟨_, rfl, _, rfl⟩

/-! ## Reviews -/

/-- What a review says of its run. -/
structure Reviews (input : CloseReviewInput) (projection : CloseReviewProjection) : Prop where
  suitable : projection.suitableForPeriodCloseReview = true ↔
    input.bridgeResult.statusCode = .reconciled ∧
      ∀ entry ∈ input.expectedStatementEntryReferences, ∃ decision ∈ input.decisions,
        decision.statementEntryReference = entry ∧ decision.decisionCode = .matched
  counts : projection.safelyMatchableCandidateCount + projection.exceptionCount =
    input.expectedStatementEntryReferences.length
  exceptions : projection.exceptionStatementEntryReferences =
    (input.decisions.filter fun decision => decision.decisionCode ≠ .matched).map
      (·.statementEntryReference)
  exceptionCount : projection.exceptionCount = projection.exceptionStatementEntryReferences.length

/-- A decision added, dropped or repeated at some place. -/
inductive DecisionEdit : List ReconciliationDecision → List ReconciliationDecision → Prop
  | adds (before : List ReconciliationDecision) (decision : ReconciliationDecision)
      (after : List ReconciliationDecision) : DecisionEdit (before ++ after) (before ++ decision :: after)
  | drops (before : List ReconciliationDecision) (decision : ReconciliationDecision)
      (after : List ReconciliationDecision) : DecisionEdit (before ++ decision :: after) (before ++ after)

theorem DecisionEdit.length_ne {decisions edited : List ReconciliationDecision}
    (h : DecisionEdit decisions edited) : edited.length ≠ decisions.length := by
  cases h with
  | adds before decision after => simp
  | drops before decision after => simp

/-- Decisions of a covered population all match exactly when every expected entry has a match. -/
theorem no_exceptions_iff {input : CloseReviewInput} (h : CoversPopulation input) :
    (input.decisions.filter fun decision => decision.decisionCode ≠ .matched) = [] ↔
      ∀ entry ∈ input.expectedStatementEntryReferences, ∃ decision ∈ input.decisions,
        decision.statementEntryReference = entry ∧ decision.decisionCode = .matched := by
  simp only [List.filter_eq_nil_iff, decide_eq_true_eq, not_not]
  constructor
  · intro hall entry hentry
    obtain ⟨decision, hmem, hreference⟩ := List.mem_map.mp (h.covers.mem_iff.mpr hentry)
    exact ⟨decision, hmem, hreference, hall decision hmem⟩
  · intro hall decision hmem
    obtain ⟨other, hother, hreference, hmatched⟩ :=
      hall decision.statementEntryReference (h.covers.mem_iff.mp (List.mem_map_of_mem hmem))
    -- references do not repeat, so the entry has no second decision
    have hnodup : (input.decisions.map (·.statementEntryReference)).Nodup :=
      h.covers.nodup_iff.mpr h.unique
    rw [← List.inj_on_of_nodup_map hnodup hother hmem hreference]
    exact hmatched

theorem counts_add (decisions : List ReconciliationDecision) :
    (decisions.filter fun decision => decision.decisionCode = .matched).length +
      (decisions.filter fun decision => decision.decisionCode ≠ .matched).length = decisions.length := by
  have hnot : (fun decision : ReconciliationDecision => decide (decision.decisionCode ≠ .matched)) =
      fun decision => !decide (decision.decisionCode = .matched) := by
    funext decision
    exact decide_not
  rw [hnot, ← List.length_append]
  exact (List.filter_append_perm _ decisions).length_eq

theorem reviewable_of_ok {input : CloseReviewInput} {projection : CloseReviewProjection}
    (h : buildReconciliationCloseReview input = .ok projection) : Reviewable input := by
  simp only [buildReconciliationCloseReview, bind_eq_ok, validateScope_ok,
    validateStatementPopulation_ok] at h
  obtain ⟨_, hscope, _, hpopulation, changes, hchanges, -⟩ := h
  exact ⟨hscope, hpopulation, precedingBound_of_ok hchanges⟩

theorem reviews_of_ok {input : CloseReviewInput} {projection : CloseReviewProjection}
    (h : buildReconciliationCloseReview input = .ok projection) : Reviews input projection := by
  have hpopulation := (reviewable_of_ok h).population
  simp only [buildReconciliationCloseReview, bind_eq_ok, pure_eq_ok] at h
  obtain ⟨_, -, _, -, changes, -, rfl⟩ := h
  refine ⟨?_, ?_, rfl, (List.length_map _).symm⟩
  · rw [Bool.and_eq_true, decide_eq_true_eq, List.isEmpty_iff]
    exact and_congr_right fun _ => no_exceptions_iff hpopulation
  · have hlength := hpopulation.covers.length_eq
    rw [CloseReviewInput.decisionReferences, List.length_map] at hlength
    rw [← hlength]
    exact counts_add input.decisions

/-- A run that is not reviewable is refused with a `ValueError`. -/
theorem build_refused {input : CloseReviewInput} (h : ¬Reviewable input) :
    ∃ message, buildReconciliationCloseReview input = .error (.valueError message) := by
  unfold buildReconciliationCloseReview
  dsimp only
  cases hscope : validateScope input.scope input.bridgeResult "current" with
  | error e =>
    obtain ⟨message, rfl⟩ := validateScope_raises _ _ _ e hscope
    exact ⟨message, rfl⟩
  | ok u =>
    cases hpopulation : validateStatementPopulation input with
    | error e =>
      obtain ⟨message, rfl⟩ := validateStatementPopulation_raises input e hpopulation
      exact ⟨message, rfl⟩
    | ok u =>
      have hpreceding : ¬PrecedingBound input := fun hbound =>
        h ⟨validateScope_ok.mp hscope, validateStatementPopulation_ok.mp hpopulation, hbound⟩
      obtain ⟨e, hchanges, message, rfl⟩ := precedingChanges_refused hpreceding
      exact ⟨message, by rw [hchanges]; rfl⟩

theorem build_ok {input : CloseReviewInput} (h : Reviewable input) (hrange : ChangesInRange input) :
    ∃ projection, buildReconciliationCloseReview input = .ok projection := by
  obtain ⟨changes, hchanges⟩ := precedingChanges_ok h.preceding hrange
  have hscope : validateScope input.scope input.bridgeResult "current" = .ok () :=
    validateScope_ok.mpr h.scope
  have hpopulation : validateStatementPopulation input = .ok () :=
    validateStatementPopulation_ok.mpr h.population
  unfold buildReconciliationCloseReview
  dsimp only
  rw [hscope, hpopulation, hchanges]
  exact ⟨_, rfl⟩

/-- Editing the decisions of a covered population uncovers it. -/
theorem not_reviewable_of_edit {input : CloseReviewInput} (h : Reviewable input)
    {edited : List ReconciliationDecision} (hedit : DecisionEdit input.decisions edited) :
    ¬Reviewable { input with decisions := edited } := by
  intro hedited
  have hbefore := h.population.covers.length_eq
  have hafter := hedited.population.covers.length_eq
  rw [CloseReviewInput.decisionReferences, List.length_map] at hbefore hafter
  exact hedit.length_ne (hafter.trans hbefore.symm)

def reviewReferences : BridgeReferences where
  reconciliationRunReference := "run-1"
  statementPopulationReference := "statements-1"
  bookPopulationReference := "books-1"
  currencyCode := "KRW"
  tenantAccountReference := some "tenant-1"
  legalEntityReference := some "entity-1"
  accountingBookReference := some "book-1"
  bankAccountAssignmentReference := some "assignment-1"

def reviewMoney : BridgeMoney Decimal where
  statementOpeningBalance := .zero
  statementPeriodMovements := ⟨false, 100, 0⟩
  statementClosingBalance := ⟨false, 100, 0⟩
  bookOpeningBalance := .zero
  postedCashBookMovements := ⟨false, 100, 0⟩
  bookClosingBalance := ⟨false, 100, 0⟩
  reconciledBookBalance := ⟨false, 100, 0⟩
  outstandingBookItems := .zero
  outstandingBankItems := .zero

def reviewBridge : BookToBankBridgeResult where
  references := reviewReferences
  money := reviewMoney
  bridgeBalance := ⟨false, 100, 0⟩
  unexplainedDifference := .zero
  statusCode := .reconciled
  exceptionCode := none
  nextAction := reconciledAction

theorem hundred_pos : 0 < (Decimal.mk false 100 0).value := by decide +kernel

def reviewStatement : StatementEntryEvidence where
  statementEntryReference := "entry-1"
  providerReference := some "payment-1"
  endToEndReference := none
  accountServicerReference := none
  amount := ⟨false, 100, 0⟩
  currencyCode := "KRW"
  creditDebitCode := .crdt
  bookingDate := 1
  valueDate := 1
  amount_pos := hundred_pos

def reviewJournal : BookJournalEvidence where
  journalReference := "journal-1"
  providerReference := some "payment-1"
  endToEndReference := none
  accountServicerReference := none
  amount := ⟨false, 100, 0⟩
  currencyCode := "KRW"
  creditDebitCode := .crdt
  accountingDate := 1
  amount_pos := hundred_pos

def reviewScope : CloseReviewScope where
  tenantAccountReference := "tenant-1"
  legalEntityReference := "entity-1"
  accountingBookReference := "book-1"
  bankAccountAssignmentReference := "assignment-1"
  currencyCode := "KRW"

/-- One entry, matched, of a reconciled bridge. -/
def matchedReview : CloseReviewInput where
  bridgeResult := reviewBridge
  decisions := [matchDecision reviewStatement reviewJournal "provider_reference"]
  expectedStatementEntryReferences := ["entry-1"]
  scope := reviewScope
  precedingBridgeResult := none
  precedingScope := none

theorem reviewScope_bound : ScopeBound reviewScope reviewBridge where
  given := by decide +kernel
  currency := rfl
  bound := rfl

theorem matchedReview_covers : CoversPopulation matchedReview where
  given := by decide +kernel
  unique := List.nodup_singleton _
  covers := List.Perm.refl ["entry-1"]

theorem matchedReview_inRange : ChangesInRange matchedReview := by
  intro preceding hpreceding
  nomatch hpreceding

/-- The same run with a preceding scope and no preceding bridge. -/
def strayReview : CloseReviewInput := { matchedReview with precedingScope := some reviewScope }

end AccountingPlatform.Bank
