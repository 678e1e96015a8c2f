/-
  The VAT register of account 210100.

  Credits of invoices and debits of voids, from the first journal through the period end; every
  other journal counts in full. The register ties to its account as long as no invoice it
  recognises has a debit there and no void a credit (`vatRegister_ties_iff`).
-/
import AccountingPlatform.Postgres.MovementReports

namespace AccountingPlatform.Postgres

open AccountingPlatform.Lib AccountingPlatform.Core

variable (dep : Deployment)

/-! ## The read -/

inductive VatMovement
  | issued | voided
  deriving DecidableEq

/-- `_vat_period_movement_kind`. -/
def vatPeriodMovementKind : String → Finset String → Finset String → Option VatMovement :=
  movementKind [
    ⟨.voided, ":issued_invoice_void:", ["tax_payable", "usage_revenue"], ["accounts_receivable"]⟩,
    ⟨.issued, ":invoice_draft:", ["accounts_receivable"], ["tax_payable", "usage_revenue"]⟩]

def vatReport : MovementReport VatMovement where
  chartAccountCode := "210100"
  accountRoleCode := "tax_payable"
  readName := "vat-period-register"
  movementKind := vatPeriodMovementKind
  countsCredit := fun kind => kind = .issued

structure VatFigures where
  issuedAmount : ℤ
  voidedAmount : ℤ
  otherMovementAmount : ℤ
  closingAmount : ℤ
  deriving DecidableEq

/-- `round` is the rounding of the context, or `id` for exact sums. -/
def vatFigures (round : ℤ → ℤ) (rows : List MovementRow) : VatFigures :=
  let issued := vatReport.amountOf round rows (some .issued)
  let voided := vatReport.amountOf round rows (some .voided)
  let other := vatReport.amountOf round rows none
  ⟨issued, voided, other, round (round (issued - voided) + other)⟩

/-- `line_rows` of the register: non-closing lines through the period end. -/
def vatRows (t : Tables) (entity : LegalEntityRecord) (book : AccountingBook)
    (period : FiscalPeriod) : List MovementRow :=
  movementRows dep t (worksheetLines dep t entity.legalEntityId book.accountingBookId fun row =>
    row.journal.accountingDate ≤ period.periodEndDate)

structure VatPeriodRegister where
  header : ScopeHeader
  asOfDate : Date
  chartAccountCode : String
  accountRoleCode : String
  issuedAmount : ℤ
  voidedAmount : ℤ
  closingAmount : ℤ
  otherMovementAmount : Option ℤ
  deriving DecidableEq

/-- `load_vat_period_register`. -/
def loadVatRegister (t : Tables) (request : MovementRequest) : Result VatPeriodRegister := do
  let (entity, book, period) ← movementScope dep vatReport t request
  let figures := vatFigures contextRound (vatRows dep t entity book period)
  pure {
    header := request.header dep
    asOfDate := period.periodEndDate
    chartAccountCode := vatReport.chartAccountCode
    accountRoleCode := vatReport.accountRoleCode
    issuedAmount := figures.issuedAmount
    voidedAmount := figures.voidedAmount
    closingAmount := figures.closingAmount
    otherMovementAmount := shownMovement figures.otherMovementAmount }

/-! ## The register against the ledger -/

/-- What rounding to 28 digits adds to the closing of the register. -/
def vatGain (rows : List MovementRow) : ℤ :=
  (vatFigures contextRound rows).closingAmount - (vatFigures id rows).closingAmount

/-- What the last two roundings add to the amounts the register shows. -/
def vatSumGain (rows : List MovementRow) : ℤ :=
  let figures := vatFigures contextRound rows
  figures.closingAmount -
    (figures.issuedAmount - figures.voidedAmount + figures.otherMovementAmount)

/-- A register that was read, with the rows its request resolved to. -/
structure VatRead (t : Tables) (request : MovementRequest) (entity : LegalEntityRecord)
    (book : AccountingBook) (period : FiscalPeriod) (document : VatPeriodRegister) : Prop where
  loaded : loadVatRegister dep t request = .ok document
  scope : dep.loadScope request.legalEntityReference request.accountingBookReference
    "the vat-period-register read" = .ok (entity, book)
  period_eq : periodByCode dep t request.periodCode = some period

instance (t : Tables) (request : MovementRequest) (entity : LegalEntityRecord)
    (book : AccountingBook) (period : FiscalPeriod) (document : VatPeriodRegister) :
    Decidable (VatRead dep t request entity book period document) :=
  decidable_of_iff
    (loadVatRegister dep t request = .ok document ∧
      dep.loadScope request.legalEntityReference request.accountingBookReference
        "the vat-period-register read" = .ok (entity, book) ∧
      periodByCode dep t request.periodCode = some period)
    ⟨fun h => ⟨h.1, h.2.1, h.2.2⟩, fun h => ⟨h.loaded, h.scope, h.period_eq⟩⟩

/-- Non-closing lines on 210100 through the period end. -/
def vatLines (t : Tables) (entity : LegalEntityRecord) (book : AccountingBook)
    (period : FiscalPeriod) : List LedgerLine :=
  (worksheetLines dep t entity.legalEntityId book.accountingBookId fun row =>
    row.journal.accountingDate ≤ period.periodEndDate).filter fun row => row.code = "210100"

/-- The closing is the account's credit less debit and the sum of the amounts shown, and no
    debit or credit is dropped on the way. -/
structure VatTies (t : Tables) (entity : LegalEntityRecord) (book : AccountingBook)
    (period : FiscalPeriod) (document : VatPeriodRegister) : Prop where
  closing : document.closingAmount = total lineNet (vatLines dep t entity book period)
  shown : document.closingAmount =
    document.issuedAmount - document.voidedAmount + document.otherMovementAmount.getD 0
  complete : vatReport.DropsNothing (vatRows dep t entity book period)

variable {dep}

theorem vatKinds_all (kind : Option VatMovement) :
    kind ∈ [some VatMovement.issued, some VatMovement.voided, none] := by
  cases kind with
  | none => decide
  | some kind => cases kind <;> decide

theorem vatFigures_exact (rows : List MovementRow) :
    (vatFigures id rows).closingAmount =
      total MovementRow.net (accountRows "210100" rows) - vatReport.dropped rows := by
  have hsum := total_signed vatReport rows (by decide) vatKinds_all
  simp only [total_cons, total_nil, add_zero] at hsum
  rw [← show vatReport.chartAccountCode = "210100" from rfl, ← hsum]
  show vatReport.amountOf id rows (some .issued) - vatReport.amountOf id rows (some .voided) +
      vatReport.amountOf id rows none = vatReport.amountOf id rows (some .issued) +
        (-vatReport.amountOf id rows (some .voided) + vatReport.amountOf id rows none)
  ring

/-- Rounding does not show in a register of at most 28 digits. -/
theorem vatFigures_of_small {rows : List MovementRow}
    (h : total MovementRow.sides (accountRows "210100" rows) < 10 ^ contextPrecision) :
    vatFigures contextRound rows = vatFigures id rows := by
  have hlt : ((total MovementRow.sides (accountRows vatReport.chartAccountCode rows) : ℕ) : ℤ) <
      10 ^ contextPrecision := by exact_mod_cast h
  have hkind := amountOf_of_small vatReport rows (fun _ => contextRound_of_abs_lt) hlt
  have hsum := (total_abs_amountOf_le vatReport rows (by decide) vatKinds_all).trans_lt hlt
  simp only [total_cons, total_nil, add_zero] at hsum
  unfold vatFigures
  simp only [hkind, id_eq, VatFigures.mk.injEq, true_and]
  generalize vatReport.amountOf id rows (some .issued) = issued at hsum
  generalize vatReport.amountOf id rows (some .voided) = voided at hsum
  generalize vatReport.amountOf id rows none = other at hsum
  have hfirst := abs_sub issued voided
  have hother := abs_nonneg other
  have hsecond := abs_add_le (issued - voided) other
  rw [contextRound_of_abs_lt (z := issued - voided) (by omega), contextRound_of_abs_lt (by omega)]

variable (dep) in
/-- A register ties to its account exactly when every invoice it recognises has credits only and
    every void debits only, up to what rounding adds; it adds nothing below 28 digits. -/
theorem vatRegister_ties_iff (t : Tables) (request : MovementRequest) (entity : LegalEntityRecord)
    (book : AccountingBook) (period : FiscalPeriod) (document : VatPeriodRegister)
    (hread : VatRead dep t request entity book period document) :
    let rows := vatRows dep t entity book period
    (VatTies dep t entity book period document ↔
      vatReport.OneSided rows ∧ vatGain rows = 0 ∧ vatSumGain rows = 0) ∧
    (total (fun row => row.debit + row.credit) (vatLines dep t entity book period) <
      10 ^ contextPrecision → vatGain rows = 0 ∧ vatSumGain rows = 0) := by
  intro rows
  have hload := hread.loaded
  simp only [loadVatRegister, bind_eq_ok, pure_eq_ok] at hload
  obtain ⟨scope, hscope, rfl⟩ := hload
  cases movementScope_ok hscope hread.scope hread.period_eq
  have hnet : total MovementRow.net (accountRows "210100" rows) =
      total lineNet (vatLines dep t entity book period) := total_net_rows _ _ _
  have hexact := vatFigures_exact rows
  refine ⟨⟨fun hties => ?_, ?_⟩, fun hlt => ?_⟩
  · have hone := (dropsNothing_iff _ _).mp hties.complete
    have hclosing := hties.closing
    have hshown := hties.shown
    rw [shownMovement_getD] at hshown
    rw [MovementReport.dropped_of_oneSided hone, hnet, sub_zero] at hexact
    refine ⟨hone, ?_, ?_⟩
    · rw [vatGain, hexact, ← hclosing, sub_self]
    · exact sub_eq_zero.mpr hshown
  · rintro ⟨hone, hgain, hsumGain⟩
    rw [MovementReport.dropped_of_oneSided hone, hnet, sub_zero] at hexact
    refine ⟨?_, ?_, (dropsNothing_iff _ _).mpr hone⟩
    · rw [← hexact]
      exact sub_eq_zero.mp hgain
    · rw [shownMovement_getD]
      exact sub_eq_zero.mp hsumGain
  · have hsides : total MovementRow.sides (accountRows "210100" rows) < 10 ^ contextPrecision :=
      (total_sides_rows _ _ _).trans_lt hlt
    unfold vatGain vatSumGain
    rw [vatFigures_of_small hsides]
    exact ⟨sub_self _, sub_self _⟩

theorem taxRole_matches : matchesCode "tax_payable" = true := by decide

/-- The tax of an invoice, on its own. -/
def taxFields : JournalProposalFields :=
  unitFields "billing:invoice_draft:1" "accounts_receivable" "tax_payable" receivableRole_matches
    taxRole_matches

theorem taxFields_accepted : taxFields.postInit = .ok () := by decide +kernel

/-- January with the tax posted and reversed under a key. -/
def reversedTax (key : String) : List Command := [
  samplePeriod "2024-01" "open-1" 738886 738916,
  .postProposal ⟨_, taxFields_accepted⟩,
  .reverse (sampleReversal "0f8fad5b-d9cb-469f-a165-70867728950e" 738895 (some key)) samplePolicy]

def januaryRegister (closingAmount : ℤ) (otherMovementAmount : Option ℤ) : VatPeriodRegister where
  header := ⟨"urn:cwl:tenant:t1", "urn:cwl:legal_entity:e1", "urn:cwl:book:b1",
    fiscalPeriodReference "2024-01"⟩
  asOfDate := 738916
  chartAccountCode := "210100"
  accountRoleCode := "tax_payable"
  issuedAmount := 1000000
  voidedAmount := 0
  closingAmount := closingAmount
  otherMovementAmount := otherMovementAmount

/-- Both registers, evaluated: a plain key and one with the mark of invoices. -/
theorem reversedTax_registers :
    let dep := sampleDeployment sampleCatalog
    let january := openMonth 1 "2024-01" 738886 738916 (by decide)
    let plain := ledgerAfter dep (reversedTax "reversal-1")
    let marked := ledgerAfter dep (reversedTax "reversal:invoice_draft:1")
    (VatRead dep plain januaryMovements sampleEntity sampleBook january
        (januaryRegister 0 (some (-1000000))) ∧
      vatReport.OneSided (vatRows dep plain sampleEntity sampleBook january) ∧
      total (fun row => row.debit + row.credit) (vatLines dep plain sampleEntity sampleBook january) <
        10 ^ contextPrecision) ∧
    VatRead dep marked januaryMovements sampleEntity sampleBook january (januaryRegister 1000000 none) ∧
    total lineNet (vatLines dep marked sampleEntity sampleBook january) = 0 := by
  decide +kernel

/-- Under a plain key the reversal is other movement, and the register ties. -/
theorem reversedTax_ties :
    VatTies (sampleDeployment sampleCatalog)
      (ledgerAfter (sampleDeployment sampleCatalog) (reversedTax "reversal-1")) sampleEntity sampleBook
      (openMonth 1 "2024-01" 738886 738916 (by decide)) (januaryRegister 0 (some (-1000000))) := by
  obtain ⟨⟨hread, hone, hlt⟩, -⟩ := reversedTax_registers
  have hties := vatRegister_ties_iff (sampleDeployment sampleCatalog)
    (ledgerAfter (sampleDeployment sampleCatalog) (reversedTax "reversal-1")) januaryMovements
    sampleEntity sampleBook (openMonth 1 "2024-01" 738886 738916 (by decide))
    (januaryRegister 0 (some (-1000000))) hread
  exact hties.1.mpr ⟨hone, hties.2 hlt⟩

/-- Under a key with the mark it is an invoice without credits: its debit is dropped. -/
theorem markedReversal_not_tied :
    VatRead (sampleDeployment sampleCatalog)
      (ledgerAfter (sampleDeployment sampleCatalog) (reversedTax "reversal:invoice_draft:1"))
      januaryMovements sampleEntity sampleBook (openMonth 1 "2024-01" 738886 738916 (by decide))
      (januaryRegister 1000000 none) ∧
    ¬VatTies (sampleDeployment sampleCatalog)
      (ledgerAfter (sampleDeployment sampleCatalog) (reversedTax "reversal:invoice_draft:1"))
      sampleEntity sampleBook (openMonth 1 "2024-01" 738886 738916 (by decide))
      (januaryRegister 1000000 none) := by
  obtain ⟨-, hread, hnet⟩ := reversedTax_registers
  refine ⟨hread, fun hties => ?_⟩
  have hclosing := hties.closing
  rw [hnet] at hclosing
  exact absurd hclosing (by decide)

end AccountingPlatform.Postgres
