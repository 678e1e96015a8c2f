/-
  The rollforward of unapplied cash, account 210200.

  Credits of receipts that are parked, debits of applications and refunds, and every other
  journal in full, all dated within the period, on top of an opening. The closing ties to the
  account as long as no journal of a kind has lines on its other side and the lines that neither
  the opening nor the period reaches net to zero (`unappliedCash_ties_iff`).
-/
import AccountingPlatform.Postgres.MovementReports
import AccountingPlatform.Postgres.Rollforward

namespace AccountingPlatform.Postgres

open AccountingPlatform.Lib AccountingPlatform.Core

variable (dep : Deployment)

/-! ## The read -/

inductive UnappliedCashMovement
  | parked | applied | refunded
  deriving DecidableEq

/-- `_unapplied_cash_movement_kind`. -/
def unappliedCashMovementKind :
    String → Finset String → Finset String → Option UnappliedCashMovement :=
  movementKind [
    ⟨.applied, ":unapplied_cash_application:", ["unapplied_cash"], ["accounts_receivable"]⟩,
    ⟨.refunded, ":unapplied_cash_refund:", ["unapplied_cash"], ["cash_receipt"]⟩,
    ⟨.parked, ":unapplied_cash:", ["cash_receipt"], ["unapplied_cash"]⟩]

def unappliedCashReport : MovementReport UnappliedCashMovement where
  chartAccountCode := "210200"
  accountRoleCode := "unapplied_cash"
  readName := "unapplied-cash-rollforward"
  movementKind := unappliedCashMovementKind
  countsCredit := fun kind => kind = .parked

structure UnappliedCashFigures where
  openingAmount : ℤ
  parkedAmount : ℤ
  appliedAmount : ℤ
  refundedAmount : ℤ
  otherMovementAmount : ℤ
  closingAmount : ℤ
  deriving DecidableEq

/-- `opening` is the debit and the credit of the opening; `round` is the rounding of the context,
    or `id` for exact sums. -/
def unappliedCashFigures (round : ℤ → ℤ) (opening : ℕ × ℕ) (rows : List MovementRow) : UnappliedCashFigures :=
  let openingAmount := round ((opening.2 : ℤ) - opening.1)
  let parked := unappliedCashReport.amountOf round rows (some .parked)
  let applied := unappliedCashReport.amountOf round rows (some .applied)
  let refunded := unappliedCashReport.amountOf round rows (some .refunded)
  let other := unappliedCashReport.amountOf round rows none
  ⟨openingAmount, parked, applied, refunded, other,
    round (round (round (round (openingAmount + parked) - applied) - refunded) + other)⟩

/-- `line_rows` of the rollforward: non-closing lines dated within the period. -/
def unappliedCashRows (t : Tables) (entity : LegalEntityRecord) (book : AccountingBook)
    (period : FiscalPeriod) : List MovementRow :=
  movementRows dep t (worksheetLines dep t entity.legalEntityId book.accountingBookId fun row =>
    period.periodStartDate ≤ row.journal.accountingDate ∧
      row.journal.accountingDate ≤ period.periodEndDate)

structure UnappliedCashRollforward where
  header : ScopeHeader
  asOfDate : Date
  chartAccountCode : String
  accountRoleCode : String
  parkedAmount : ℤ
  appliedAmount : ℤ
  refundedAmount : ℤ
  openingAmount : ℤ
  closingAmount : ℤ
  otherMovementAmount : Option ℤ
  deriving DecidableEq

/-- `load_unapplied_cash_rollforward`. -/
def loadUnappliedCash (t : Tables) (request : MovementRequest) : Result UnappliedCashRollforward := do
  let (entity, book, period) ← movementScope dep unappliedCashReport t request
  let opening ← openingAccountSides dep t entity.legalEntityId book.accountingBookId
    unappliedCashReport.chartAccountCode period.periodStartDate
  let figures := unappliedCashFigures contextRound opening (unappliedCashRows dep t entity book period)
  pure {
    header := request.header dep
    asOfDate := period.periodEndDate
    chartAccountCode := unappliedCashReport.chartAccountCode
    accountRoleCode := unappliedCashReport.accountRoleCode
    parkedAmount := figures.parkedAmount
    appliedAmount := figures.appliedAmount
    refundedAmount := figures.refundedAmount
    openingAmount := figures.openingAmount
    closingAmount := figures.closingAmount
    otherMovementAmount := shownMovement figures.otherMovementAmount }

/-! ## The rollforward against the ledger -/

/-- What rounding to 28 digits adds to the closing of the rollforward. -/
def unappliedCashGain (opening : ℕ × ℕ) (rows : List MovementRow) : ℤ :=
  (unappliedCashFigures contextRound opening rows).closingAmount -
    (unappliedCashFigures id opening rows).closingAmount

/-- What the last roundings add to the amounts the rollforward shows. -/
def unappliedCashSumGain (opening : ℕ × ℕ) (rows : List MovementRow) : ℤ :=
  let figures := unappliedCashFigures contextRound opening rows
  figures.closingAmount - (figures.openingAmount + figures.parkedAmount - figures.appliedAmount -
    figures.refundedAmount + figures.otherMovementAmount)

/-- A rollforward that was read, with what its request resolved to. -/
structure UnappliedCashRead (t : Tables) (request : MovementRequest) (entity : LegalEntityRecord)
    (book : AccountingBook) (period : FiscalPeriod) (opening : ℕ × ℕ)
    (document : UnappliedCashRollforward) : Prop where
  loaded : loadUnappliedCash dep t request = .ok document
  scope : dep.loadScope request.legalEntityReference request.accountingBookReference
    "the unapplied-cash-rollforward read" = .ok (entity, book)
  period_eq : periodByCode dep t request.periodCode = some period
  opening_eq : openingAccountSides dep t entity.legalEntityId book.accountingBookId "210200"
    period.periodStartDate = .ok opening

instance (t : Tables) (request : MovementRequest) (entity : LegalEntityRecord)
    (book : AccountingBook) (period : FiscalPeriod) (opening : ℕ × ℕ)
    (document : UnappliedCashRollforward) :
    Decidable (UnappliedCashRead dep t request entity book period opening document) :=
  decidable_of_iff
    (loadUnappliedCash dep t request = .ok document ∧
      dep.loadScope request.legalEntityReference request.accountingBookReference
        "the unapplied-cash-rollforward read" = .ok (entity, book) ∧
      periodByCode dep t request.periodCode = some period ∧
      openingAccountSides dep t entity.legalEntityId book.accountingBookId "210200"
        period.periodStartDate = .ok opening)
    ⟨fun h => ⟨h.1, h.2.1, h.2.2.1, h.2.2.2⟩, fun h => ⟨h.loaded, h.scope, h.period_eq, h.opening_eq⟩⟩

/-- All lines on 210200 through the period end. -/
def unappliedCashLines (t : Tables) (entity : LegalEntityRecord) (book : AccountingBook)
    (period : FiscalPeriod) : List LedgerLine :=
  (linesThrough dep t entity.legalEntityId book.accountingBookId period.periodEndDate).filter
    fun row => row.code = "210200"

/-- The closing is the account's credit less debit and the sum of the amounts shown, and no
    debit or credit of the period is dropped on the way. -/
structure UnappliedCashTies (t : Tables) (entity : LegalEntityRecord) (book : AccountingBook)
    (period : FiscalPeriod) (document : UnappliedCashRollforward) : Prop where
  closing : document.closingAmount = total lineNet (unappliedCashLines dep t entity book period)
  shown : document.closingAmount = document.openingAmount + document.parkedAmount -
    document.appliedAmount - document.refundedAmount + document.otherMovementAmount.getD 0
  complete : unappliedCashReport.DropsNothing (unappliedCashRows dep t entity book period)

/-- Lines that neither the opening nor the period reaches: after a snapshot, those posted into
    its range later and those between it and the period; always the closing journals of the
    period. -/
def missedLines (t : Tables) (entity : LegalEntityRecord) (book : AccountingBook)
    (period : FiscalPeriod) : List LedgerLine :=
  match priorSnapshot dep t entity.legalEntityId book.accountingBookId period.periodStartDate with
  | some (prior, snapshot) => (unappliedCashLines dep t entity book period).filter fun row =>
      (row.journal.accountingDate ≤ prior.periodEndDate ∧
        snapshot.snapshotGeneratedAt < row.journal.postedAt) ∨
      (prior.periodEndDate < row.journal.accountingDate ∧
        row.journal.accountingDate < period.periodStartDate) ∨
      (period.periodStartDate ≤ row.journal.accountingDate ∧
        isClosingReference row.journal.journalReference = true)
  | none => (unappliedCashLines dep t entity book period).filter fun row =>
      period.periodStartDate ≤ row.journal.accountingDate ∧
        isClosingReference row.journal.journalReference = true

variable {dep}

theorem unappliedCashKinds_all (kind : Option UnappliedCashMovement) :
    kind ∈ [some UnappliedCashMovement.parked, some UnappliedCashMovement.applied,
      some UnappliedCashMovement.refunded, none] := by
  cases kind with
  | none => decide
  | some kind => cases kind <;> decide

theorem unappliedCashFigures_exact (opening : ℕ × ℕ) (rows : List MovementRow) :
    (unappliedCashFigures id opening rows).closingAmount = (opening.2 : ℤ) - opening.1 +
      total MovementRow.net (accountRows "210200" rows) - unappliedCashReport.dropped rows := by
  have hsum := total_signed unappliedCashReport rows (by decide) unappliedCashKinds_all
  simp only [total_cons, total_nil, add_zero] at hsum
  rw [← show unappliedCashReport.chartAccountCode = "210200" from rfl, add_sub_assoc, ← hsum]
  show (opening.2 : ℤ) - opening.1 + unappliedCashReport.amountOf id rows (some .parked) -
      unappliedCashReport.amountOf id rows (some .applied) -
      unappliedCashReport.amountOf id rows (some .refunded) +
      unappliedCashReport.amountOf id rows none =
    (opening.2 : ℤ) - opening.1 + (unappliedCashReport.amountOf id rows (some .parked) +
      (-unappliedCashReport.amountOf id rows (some .applied) +
        (-unappliedCashReport.amountOf id rows (some .refunded) +
          unappliedCashReport.amountOf id rows none)))
  ring

/-- Rounding does not show in a rollforward of at most 28 digits. -/
theorem unappliedCashFigures_of_small {opening : ℕ × ℕ} {rows : List MovementRow}
    (h : opening.1 + opening.2 + total MovementRow.sides (accountRows "210200" rows) <
      10 ^ contextPrecision) :
    unappliedCashFigures contextRound opening rows = unappliedCashFigures id opening rows := by
  have hopening : (opening.1 : ℤ) + opening.2 +
      (total MovementRow.sides (accountRows unappliedCashReport.chartAccountCode rows) : ℕ) <
        10 ^ contextPrecision := by exact_mod_cast h
  have hlt : ((total MovementRow.sides (accountRows unappliedCashReport.chartAccountCode rows) : ℕ)
      : ℤ) < 10 ^ contextPrecision := by omega
  have hkind := amountOf_of_small unappliedCashReport rows (fun _ => contextRound_of_abs_lt) hlt
  have hsum := total_abs_amountOf_le unappliedCashReport rows (by decide) unappliedCashKinds_all
  simp only [total_cons, total_nil, add_zero] at hsum
  unfold unappliedCashFigures
  simp only [hkind, id_eq]
  generalize unappliedCashReport.amountOf id rows (some .parked) = parked at hsum
  generalize unappliedCashReport.amountOf id rows (some .applied) = applied at hsum
  generalize unappliedCashReport.amountOf id rows (some .refunded) = refunded at hsum
  generalize unappliedCashReport.amountOf id rows none = other at hsum
  have hstart : |(opening.2 : ℤ) - opening.1| ≤ opening.1 + opening.2 := by
    rw [abs_le]
    omega
  have hparked := abs_add_le ((opening.2 : ℤ) - opening.1) parked
  have happlied := abs_sub ((opening.2 : ℤ) - opening.1 + parked) applied
  have hrefunded := abs_sub ((opening.2 : ℤ) - opening.1 + parked - applied) refunded
  have hother := abs_add_le ((opening.2 : ℤ) - opening.1 + parked - applied - refunded) other
  have hnonneg := And.intro (abs_nonneg parked) (And.intro (abs_nonneg applied)
    (And.intro (abs_nonneg refunded) (abs_nonneg other)))
  rw [contextRound_of_abs_lt (z := (opening.2 : ℤ) - opening.1) (by omega),
    contextRound_of_abs_lt (z := (opening.2 : ℤ) - opening.1 + parked) (by omega),
    contextRound_of_abs_lt (z := (opening.2 : ℤ) - opening.1 + parked - applied) (by omega),
    contextRound_of_abs_lt (z := (opening.2 : ℤ) - opening.1 + parked - applied - refunded) (by omega),
    contextRound_of_abs_lt (by omega)]

/-- Days and moments of one line, with a snapshot of a period that ended on `q` at `g`. -/
theorem reached_with_prior {d q s p m g : ℕ} {closing : Prop} (hq : q < s) (hs : s ≤ p) :
    (d ≤ p ∧ (d ≤ q ∧ m ≤ g) ∧ ¬(¬closing ∧ s ≤ d ∧ d ≤ p) ∧
      ¬(((d ≤ q ∧ g < m) ∨ (q < d ∧ d < s) ∨ (s ≤ d ∧ closing)) ∧ d ≤ p)) ∨
    (d ≤ p ∧ ¬(d ≤ q ∧ m ≤ g) ∧ (¬closing ∧ s ≤ d ∧ d ≤ p) ∧
      ¬(((d ≤ q ∧ g < m) ∨ (q < d ∧ d < s) ∨ (s ≤ d ∧ closing)) ∧ d ≤ p)) ∨
    (d ≤ p ∧ ¬(d ≤ q ∧ m ≤ g) ∧ ¬(¬closing ∧ s ≤ d ∧ d ≤ p) ∧
      (((d ≤ q ∧ g < m) ∨ (q < d ∧ d < s) ∨ (s ≤ d ∧ closing)) ∧ d ≤ p)) ∨
    (¬d ≤ p ∧ ¬(d ≤ q ∧ m ≤ g) ∧ ¬(¬closing ∧ s ≤ d ∧ d ≤ p) ∧
      ¬(((d ≤ q ∧ g < m) ∨ (q < d ∧ d < s) ∨ (s ≤ d ∧ closing)) ∧ d ≤ p)) := by
  by_cases h : closing
  · simp only [h, not_true_eq_false, not_false_eq_true, true_and, false_and, and_true, and_false,
      false_or]
    omega
  · simp only [h, not_false_eq_true, true_and, and_false, or_false]
    omega

theorem reached_without_prior {d s p : ℕ} {closing : Prop} (hs : s ≤ p) :
    (d ≤ p ∧ d < s ∧ ¬(¬closing ∧ s ≤ d ∧ d ≤ p) ∧ ¬((s ≤ d ∧ closing) ∧ d ≤ p)) ∨
    (d ≤ p ∧ ¬d < s ∧ (¬closing ∧ s ≤ d ∧ d ≤ p) ∧ ¬((s ≤ d ∧ closing) ∧ d ≤ p)) ∨
    (d ≤ p ∧ ¬d < s ∧ ¬(¬closing ∧ s ≤ d ∧ d ≤ p) ∧ ((s ≤ d ∧ closing) ∧ d ≤ p)) ∨
    (¬d ≤ p ∧ ¬d < s ∧ ¬(¬closing ∧ s ≤ d ∧ d ≤ p) ∧ ¬((s ≤ d ∧ closing) ∧ d ≤ p)) := by
  by_cases h : closing
  · simp only [h, not_true_eq_false, not_false_eq_true, true_and, false_and, and_true, and_false,
      false_or]
    omega
  · simp only [h, not_false_eq_true, true_and, false_and, and_true, and_false, false_or]
    omega

/-- Every line on the account through the period end is in the opening, in the period or missed,
    and in one of them only. -/
theorem WellFormed.unappliedCash_split {t : Tables} (h : WellFormed dep t)
    {entity : LegalEntityRecord} {book : AccountingBook} {period : FiscalPeriod} {opening : ℕ × ℕ}
    (hopening : openingAccountSides dep t entity.legalEntityId book.accountingBookId "210200"
      period.periodStartDate = .ok opening) (f : LedgerLine → ℕ) (g : ℕ × ℕ → ℕ)
    (hg : ∀ rows : List LedgerLine, g (total LedgerLine.debit rows, total LedgerLine.credit rows) =
      total f rows) :
    total f (unappliedCashLines dep t entity book period) = g opening +
      total f ((worksheetLines dep t entity.legalEntityId book.accountingBookId fun row =>
        period.periodStartDate ≤ row.journal.accountingDate ∧
          row.journal.accountingDate ≤ period.periodEndDate).filter fun row => row.code = "210200") +
      total f (missedLines dep t entity book period) := by
  have hdates := period.dates_ordered
  rw [h.opening_sides hopening, missedLines, unappliedCashLines, worksheetLines, linesThrough_eq,
    List.filter_comm, List.filter_comm (p := fun row : LedgerLine => decide (row.code = "210200")),
    ← accountLines]
  cases hprior : priorSnapshot dep t entity.legalEntityId book.accountingBookId
      period.periodStartDate with
  | some prior =>
    simp only [accountSides_filter, hg, List.filter_filter, ← Bool.decide_and]
    exact total_split₃ f fun row _ =>
      reached_with_prior (mem_priorSnapshot hprior).2.1 hdates
  | none =>
    simp only [accountSides_filter, hg, List.filter_filter, ← Bool.decide_and]
    exact total_split₃ f fun row _ => reached_without_prior hdates

/-- Credit less debit on the account: opening, period and missed lines. -/
theorem WellFormed.unappliedCash_net {t : Tables} (h : WellFormed dep t)
    {entity : LegalEntityRecord} {book : AccountingBook} {period : FiscalPeriod} {opening : ℕ × ℕ}
    (hopening : openingAccountSides dep t entity.legalEntityId book.accountingBookId "210200"
      period.periodStartDate = .ok opening) :
    total lineNet (unappliedCashLines dep t entity book period) = (opening.2 : ℤ) - opening.1 +
      total MovementRow.net (accountRows "210200" (unappliedCashRows dep t entity book period)) +
      total lineNet (missedLines dep t entity book period) := by
  have hdebit := h.unappliedCash_split hopening LedgerLine.debit Prod.fst fun _ => rfl
  have hcredit := h.unappliedCash_split hopening LedgerLine.credit Prod.snd fun _ => rfl
  rw [unappliedCashRows, total_net_rows, total_lineNet, total_lineNet, total_lineNet, hdebit, hcredit]
  push_cast
  ring

variable (dep) in
/-- The rollforward ties to its account exactly when every journal it recognises has lines only
    on the side its kind counts and the missed lines net to zero, up to what rounding adds; it
    adds nothing below 28 digits. -/
theorem unappliedCash_ties_iff (commands : List Command) (request : MovementRequest)
    (entity : LegalEntityRecord) (book : AccountingBook) (period : FiscalPeriod) (opening : ℕ × ℕ)
    (document : UnappliedCashRollforward)
    (hread : UnappliedCashRead dep (ledgerAfter dep commands) request entity book period opening
      document) :
    let t := ledgerAfter dep commands
    let rows := unappliedCashRows dep t entity book period
    (UnappliedCashTies dep t entity book period document ↔
      unappliedCashReport.OneSided rows ∧
      total lineNet (missedLines dep t entity book period) = unappliedCashGain opening rows ∧
      unappliedCashSumGain opening rows = 0) ∧
    (total (fun row => row.debit + row.credit) (unappliedCashLines dep t entity book period) <
      10 ^ contextPrecision →
        unappliedCashGain opening rows = 0 ∧ unappliedCashSumGain opening rows = 0) := by
  intro t rows
  have hwf : WellFormed dep t := wellFormed_ledgerAfter commands
  have hload := hread.loaded
  simp only [loadUnappliedCash, bind_eq_ok, pure_eq_ok] at hload
  obtain ⟨scope, hscope, opening', hopening, rfl⟩ := hload
  cases movementScope_ok hscope hread.scope hread.period_eq
  cases Except.ok.inj (hopening.symm.trans hread.opening_eq)
  have hnet := hwf.unappliedCash_net hread.opening_eq
  have hexact := unappliedCashFigures_exact opening rows
  refine ⟨⟨fun hties => ?_, ?_⟩, fun hlt => ?_⟩
  · have hone := (dropsNothing_iff _ _).mp hties.complete
    have hclosing : (unappliedCashFigures contextRound opening rows).closingAmount =
        total lineNet (unappliedCashLines dep t entity book period) := hties.closing
    have hshown := hties.shown
    rw [shownMovement_getD] at hshown
    rw [MovementReport.dropped_of_oneSided hone] at hexact
    refine ⟨hone, ?_, sub_eq_zero.mpr hshown⟩
    rw [unappliedCashGain, hclosing, hexact, hnet]
    ring
  · rintro ⟨hone, hgain, hsumGain⟩
    rw [MovementReport.dropped_of_oneSided hone] at hexact
    rw [unappliedCashGain, hexact] at hgain
    refine ⟨?_, ?_, (dropsNothing_iff _ _).mpr hone⟩
    · show (unappliedCashFigures contextRound opening rows).closingAmount = _
      rw [hnet]
      linarith
    · rw [shownMovement_getD]
      exact sub_eq_zero.mp hsumGain
  · have hsplit := hwf.unappliedCash_split hread.opening_eq (fun row => row.debit + row.credit)
      (fun sides => sides.1 + sides.2) fun lines => (total_add _ _ lines).symm
    have hsmall : opening.1 + opening.2 + total MovementRow.sides (accountRows "210200" rows) <
        10 ^ contextPrecision := by
      have hsides : total MovementRow.sides (accountRows "210200" rows) = _ := total_sides_rows _ _ _
      rw [hsides]
      omega
    unfold unappliedCashGain unappliedCashSumGain
    rw [unappliedCashFigures_of_small hsmall]
    exact ⟨sub_self _, sub_self _⟩

theorem unappliedRole_matches : matchesCode "unapplied_cash" = true := by decide

/-- Cash applied to a receivable. -/
def applicationFields : JournalProposalFields :=
  unitFields "billing:unapplied_cash_application:1" "unapplied_cash" "accounts_receivable"
    unappliedRole_matches receivableRole_matches

theorem applicationFields_accepted : applicationFields.postInit = .ok () := by decide +kernel

/-- January with the application posted and reversed under a key. -/
def reversedApplication (key : String) : List Command := [
  samplePeriod "2024-01" "open-1" 738886 738916,
  .postProposal ⟨_, applicationFields_accepted⟩,
  .reverse (sampleReversal "0f8fad5b-d9cb-469f-a165-70867728950e" 738895 (some key)) samplePolicy]

def januaryRollforward (closingAmount : ℤ) (otherMovementAmount : Option ℤ) :
    UnappliedCashRollforward where
  header := ⟨"urn:cwl:tenant:t1", "urn:cwl:legal_entity:e1", "urn:cwl:book:b1",
    fiscalPeriodReference "2024-01"⟩
  asOfDate := 738916
  chartAccountCode := "210200"
  accountRoleCode := "unapplied_cash"
  parkedAmount := 0
  appliedAmount := 1000000
  refundedAmount := 0
  openingAmount := 0
  closingAmount := closingAmount
  otherMovementAmount := otherMovementAmount

/-- Both rollforwards, evaluated: a plain key and one with the mark of applications. -/
theorem reversedApplication_rollforwards :
    let dep := sampleDeployment sampleCatalog
    let january := openMonth 1 "2024-01" 738886 738916 (by decide)
    let plain := ledgerAfter dep (reversedApplication "reversal-1")
    let marked := ledgerAfter dep (reversedApplication "reversal:unapplied_cash_application:1")
    (UnappliedCashRead dep plain januaryMovements sampleEntity sampleBook january (0, 0)
        (januaryRollforward 0 (some 1000000)) ∧
      unappliedCashReport.OneSided (unappliedCashRows dep plain sampleEntity sampleBook january) ∧
      total lineNet (missedLines dep plain sampleEntity sampleBook january) = 0 ∧
      total (fun row => row.debit + row.credit)
        (unappliedCashLines dep plain sampleEntity sampleBook january) < 10 ^ contextPrecision) ∧
    UnappliedCashRead dep marked januaryMovements sampleEntity sampleBook january (0, 0)
      (januaryRollforward (-1000000) none) ∧
    total lineNet (unappliedCashLines dep marked sampleEntity sampleBook january) = 0 := by
  decide +kernel

/-- Under a plain key the reversal is other movement, and the rollforward ties. -/
theorem reversedApplication_ties :
    UnappliedCashTies (sampleDeployment sampleCatalog)
      (ledgerAfter (sampleDeployment sampleCatalog) (reversedApplication "reversal-1")) sampleEntity
      sampleBook (openMonth 1 "2024-01" 738886 738916 (by decide))
      (januaryRollforward 0 (some 1000000)) := by
  obtain ⟨⟨hread, hone, hmissed, hlt⟩, -⟩ := reversedApplication_rollforwards
  have hties := unappliedCash_ties_iff (sampleDeployment sampleCatalog)
    (reversedApplication "reversal-1") januaryMovements sampleEntity sampleBook
    (openMonth 1 "2024-01" 738886 738916 (by decide)) (0, 0) (januaryRollforward 0 (some 1000000)) hread
  obtain ⟨hgain, hsumGain⟩ := hties.2 hlt
  exact hties.1.mpr ⟨hone, hmissed.trans hgain.symm, hsumGain⟩

/-- Under a key with the mark it is an application without debits: its credit is dropped. -/
theorem markedApplication_not_tied :
    UnappliedCashRead (sampleDeployment sampleCatalog)
      (ledgerAfter (sampleDeployment sampleCatalog)
        (reversedApplication "reversal:unapplied_cash_application:1"))
      januaryMovements sampleEntity sampleBook (openMonth 1 "2024-01" 738886 738916 (by decide)) (0, 0)
      (januaryRollforward (-1000000) none) ∧
    ¬UnappliedCashTies (sampleDeployment sampleCatalog)
      (ledgerAfter (sampleDeployment sampleCatalog)
        (reversedApplication "reversal:unapplied_cash_application:1"))
      sampleEntity sampleBook (openMonth 1 "2024-01" 738886 738916 (by decide))
      (januaryRollforward (-1000000) none) := by
  obtain ⟨-, hread, hnet⟩ := reversedApplication_rollforwards
  refine ⟨hread, fun hties => ?_⟩
  have hclosing := hties.closing
  rw [hnet] at hclosing
  exact absurd hclosing (by decide)

end AccountingPlatform.Postgres
