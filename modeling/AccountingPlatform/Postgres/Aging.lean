/-
  Aging of the receivable or payable account of a book.

  Lines that raise the balance are open items, dated; lines that lower it are taken from the
  oldest items first, and what they exceed the open items by is forgotten. What is left falls
  into four buckets by its age at the period end. Of a receivable the document also shows the
  credit by which the account as a whole is overpaid.
-/
import AccountingPlatform.Lib.Fifo
import AccountingPlatform.Postgres.ClosePackage

namespace AccountingPlatform.Postgres

open AccountingPlatform.Lib AccountingPlatform.Core

variable (dep : Deployment)

/-! ## Open items -/

/-- A row of `line_rows`. -/
structure AgingRow where
  accountingDate : Date
  journalReference : String
  lineNumber : ℕ
  debitAmount : ℕ
  creditAmount : ℕ

def AgingRow.increaseAmount (increaseIsDebit : Bool) (row : AgingRow) : ℕ :=
  if increaseIsDebit then row.debitAmount else row.creditAmount

def AgingRow.decreaseAmount (increaseIsDebit : Bool) (row : AgingRow) : ℕ :=
  if increaseIsDebit then row.creditAmount else row.debitAmount

/-- The loop over the open items: each gives what it can to the remaining decrease. -/
def applyDecrease : ℤ → List (Date × ℤ) → List (Date × ℤ)
  | _, [] => []
  | remaining, (date, amount) :: items =>
    let applied := min amount remaining
    (date, contextRound (amount - applied)) :: applyDecrease (contextRound (remaining - applied)) items

/-- One turn of the loop over the rows. -/
def agingStep (increaseIsDebit : Bool) (items : List (Date × ℤ)) (row : AgingRow) :
    List (Date × ℤ) :=
  if 0 < row.increaseAmount increaseIsDebit then
    items ++ [(row.accountingDate, (row.increaseAmount increaseIsDebit : ℤ))]
  else
    (applyDecrease (row.decreaseAmount increaseIsDebit) items).filter fun item => 0 < item.2

/-- `_fifo_aging_open_items`. -/
def fifoAgingOpenItems (increaseIsDebit : Bool) (rows : List AgingRow) : List (Date × ℤ) :=
  rows.foldl (agingStep increaseIsDebit) []

/-! ## Buckets -/

inductive AgingBucket
  | current | days31To60 | days61To90 | daysOver90
  deriving DecidableEq, Repr

/-- `_receivable_aging_bucket`. -/
def receivableAgingBucket (outstandingDays : ℤ) : AgingBucket :=
  if outstandingDays ≤ 30 then .current
  else if outstandingDays ≤ 60 then .days31To60
  else if outstandingDays ≤ 90 then .days61To90
  else .daysOver90

/-- `bucket_amounts`. -/
structure BucketAmounts where
  current : ℤ
  days31To60 : ℤ
  days61To90 : ℤ
  daysOver90 : ℤ
  deriving DecidableEq

def BucketAmounts.add (amounts : BucketAmounts) (bucket : AgingBucket) (amount : ℤ) :
    BucketAmounts :=
  match bucket with
  | .current => { amounts with current := contextRound (amounts.current + amount) }
  | .days31To60 => { amounts with days31To60 := contextRound (amounts.days31To60 + amount) }
  | .days61To90 => { amounts with days61To90 := contextRound (amounts.days61To90 + amount) }
  | .daysOver90 => { amounts with daysOver90 := contextRound (amounts.daysOver90 + amount) }

/-- The loop over the open items that are left on the as-of day. -/
def bucketAmounts (asOf : Date) (items : List (Date × ℤ)) : BucketAmounts :=
  items.foldl (fun amounts item =>
    amounts.add (receivableAgingBucket ((asOf : ℤ) - (item.1 : ℤ))) item.2) ⟨0, 0, 0, 0⟩

/-- `total_outstanding_amount`. -/
def BucketAmounts.outstanding (amounts : BucketAmounts) : ℤ :=
  contextRound (contextRound (contextRound (amounts.current + amounts.days31To60) +
    amounts.days61To90) + amounts.daysOver90)

/-! ## The document -/

structure AgingFigures where
  buckets : BucketAmounts
  totalOutstandingAmount : ℤ
  /-- Absent from the document of a payable, and where nothing is unapplied. -/
  unappliedCreditAmount : Option ℤ
  deriving DecidableEq

/-- `unapplied_credit_amount`, a running sum over the rows. -/
def unappliedCredit (rows : List AgingRow) : ℤ :=
  decimalSum (rows.map fun row => contextRound ((row.creditAmount : ℤ) - (row.debitAmount : ℤ)))

/-- The figures `_load_account_aging` computes from its rows. -/
def agingFigures (increaseIsDebit : Bool) (asOf : Date) (rows : List AgingRow) : AgingFigures :=
  let buckets := bucketAmounts asOf (fifoAgingOpenItems increaseIsDebit rows)
  { buckets := buckets
    totalOutstandingAmount := buckets.outstanding
    unappliedCreditAmount :=
      if increaseIsDebit = true ∧ 0 < unappliedCredit rows then some (unappliedCredit rows) else none }

structure AgingDocument where
  tenantReference : String
  legalEntityReference : String
  accountingBookReference : String
  fiscalPeriodReference : String
  chartAccountCode : String
  accountClassCode : AccountClass
  asOfDate : Date
  figures : AgingFigures

/-- `account_rows`: active accounts of the book, joined with their current mappings. -/
def agedAccountRows (book : AccountingBook) : List (ChartAccount × Option String) :=
  dep.rowOrder ((dep.catalog.chartAccounts.filter fun account =>
      account.accountingBookId = book.accountingBookId ∧ account.isCurrent).flatMap fun account =>
    match dep.currentMappings account.chartAccountId with
    | [] => [(account, none)]
    | mappings => mappings.map fun m => (account, some m.accountRoleCode))

/-- ORDER BY date, increases first, reference, line number. -/
def agingOrder (increaseIsDebit : Bool) (a b : AgingRow) : Bool :=
  let side (row : AgingRow) : ℕ := if 0 < row.increaseAmount increaseIsDebit then 0 else 1
  a.accountingDate < b.accountingDate || (a.accountingDate == b.accountingDate &&
    (side a < side b || (side a == side b &&
      (if a.journalReference = b.journalReference then a.lineNumber ≤ b.lineNumber
        else dep.collation a.journalReference b.journalReference))))

def LedgerLine.agingRow (row : LedgerLine) : AgingRow :=
  ⟨row.journal.accountingDate, row.journal.journalReference, row.line.lineNumber, row.debit,
    row.credit⟩

/-- `line_rows`: non-closing lines of the account through the period end. -/
def agingRows (t : Tables) (legalEntityId bookId : ℕ) (chartAccountCode : String)
    (periodEndDate : Date) (increaseIsDebit : Bool) : List AgingRow :=
  ((worksheetLines dep t legalEntityId bookId fun row => row.code = chartAccountCode ∧
      row.journal.accountingDate ≤ periodEndDate).map LedgerLine.agingRow).insertionSort
    fun a b => agingOrder dep increaseIsDebit a b

/-- The side and names that tell the two agings apart. -/
structure AgingKind where
  catalogRoleCode : String
  increaseIsDebit : Bool
  readName : String

def receivableKind : AgingKind := ⟨"accounts_receivable", true, "receivable-aging"⟩

def payableKind : AgingKind := ⟨"tax_payable", false, "payable-aging"⟩

/-- `_load_account_aging`. -/
def loadAgingDocument (kind : AgingKind) (t : Tables)
    (legalEntityReference bookReference periodCode chartAccountCode : String) :
    Result AgingDocument := do
  require (legalEntityReference ≠ "" ∧ bookReference ≠ "" ∧ periodCode ≠ "")
    (.validation ("legal_entity_reference, book_reference, and fiscal_period_reference are required. " ++
      "Supply those " ++ kind.readName ++ " fields, then retry the " ++ kind.readName ++ " read."))
  let (entity, book) ← dep.loadScope legalEntityReference bookReference
    ("the " ++ kind.readName ++ " read")
  let period ← requireFiscalPeriod dep t periodCode ("the " ++ kind.readName ++ " read")
  let rows := agedAccountRows dep book
  let classes := rows.foldl (fun classes row =>
    classes.set row.1.chartAccountCode row.1.accountClassCode) Dict.empty
  let catalogCode := ((rows.find? fun row => row.2 = some kind.catalogRoleCode).map fun row =>
    row.1.chartAccountCode).getD ""
  let resolvedCode := if strip chartAccountCode = "" then catalogCode else strip chartAccountCode
  let accountClass ← fetch (classes.get? resolvedCode)
    (.validation ("Chart account " ++ resolvedCode ++ " is not recorded for this book. " ++
      "Create the chart_account row, then retry the " ++ kind.readName ++ " read."))
  require (resolvedCode = catalogCode)
    (.validation ("chart_account_code must be the catalog " ++ kind.catalogRoleCode ++ " account. " ++
      "Supply that " ++ kind.readName ++ " account, then retry the " ++ kind.readName ++ " read."))
  pure {
    tenantReference := dep.catalog.tenantReference
    legalEntityReference := legalEntityReference
    accountingBookReference := bookReference
    fiscalPeriodReference := fiscalPeriodReference periodCode
    chartAccountCode := resolvedCode
    accountClassCode := accountClass
    asOfDate := period.periodEndDate
    figures := agingFigures kind.increaseIsDebit period.periodEndDate
      (agingRows dep t entity.legalEntityId book.accountingBookId resolvedCode period.periodEndDate
        kind.increaseIsDebit) }

/-- `load_receivable_aging`. -/
def loadReceivableAging (t : Tables)
    (legalEntityReference bookReference periodCode chartAccountCode : String) :
    Result AgingDocument :=
  loadAgingDocument dep receivableKind t legalEntityReference bookReference periodCode
    chartAccountCode

/-- `load_payable_aging`. -/
def loadPayableAging (t : Tables)
    (legalEntityReference bookReference periodCode chartAccountCode : String) :
    Result AgingDocument :=
  loadAgingDocument dep payableKind t legalEntityReference bookReference periodCode chartAccountCode

variable {dep}

/-! ## Exact arithmetic -/

/-- What the CHECK on a stored line leaves: one positive side. -/
def AgingRow.OneSided (row : AgingRow) : Prop :=
  (0 < row.debitAmount ∧ row.creditAmount = 0) ∨ (row.debitAmount = 0 ∧ 0 < row.creditAmount)

/-- Both totals have at most the digits of the decimal context. -/
def WithinContext (rows : List AgingRow) : Prop :=
  total AgingRow.debitAmount rows < 10 ^ contextPrecision ∧
    total AgingRow.creditAmount rows < 10 ^ contextPrecision

instance decOneSided (row : AgingRow) : Decidable row.OneSided :=
  inferInstanceAs (Decidable ((0 < row.debitAmount ∧ row.creditAmount = 0) ∨
    (row.debitAmount = 0 ∧ 0 < row.creditAmount)))

instance decWithinContext (rows : List AgingRow) : Decidable (WithinContext rows) :=
  inferInstanceAs (Decidable (total AgingRow.debitAmount rows < 10 ^ contextPrecision ∧
    total AgingRow.creditAmount rows < 10 ^ contextPrecision))

theorem contextRound_of_abs_lt {z : ℤ} (h : |z| < 10 ^ contextPrecision) : contextRound z = z :=
  roundDec_of_abs_lt (by decide) h

theorem contextRound_of_nonneg {z : ℤ} (h : 0 ≤ z) (hlt : z < 10 ^ contextPrecision) :
    contextRound z = z :=
  contextRound_of_abs_lt (by rwa [abs_of_nonneg h])

def AgingRow.movement (increaseIsDebit : Bool) (row : AgingRow) : Movement Date ℤ :=
  if 0 < row.increaseAmount increaseIsDebit then
    .increase row.accountingDate (row.increaseAmount increaseIsDebit)
  else .decrease (row.decreaseAmount increaseIsDebit)

def movements (increaseIsDebit : Bool) (rows : List AgingRow) : List (Movement Date ℤ) :=
  rows.map (AgingRow.movement increaseIsDebit)

theorem applyDecrease_eq {items : List (Date × ℤ)}
    (h : ∀ item ∈ items, 0 ≤ item.2 ∧ item.2 < 10 ^ contextPrecision) {amount : ℤ}
    (hamount : 0 ≤ amount) (hlt : amount < 10 ^ contextPrecision) :
    applyDecrease amount items = consume amount items := by
  induction items generalizing amount with
  | nil => rfl
  | cons item items ih =>
    obtain ⟨date, held⟩ := item
    have hheld : 0 ≤ held ∧ held < 10 ^ contextPrecision := h (date, held) List.mem_cons_self
    have hmin : 0 ≤ min held amount := le_min hheld.1 hamount
    have hkept : contextRound (held - min held amount) = held - min held amount :=
      contextRound_of_nonneg (by omega) (by omega)
    have hleft : contextRound (amount - min held amount) = amount - min held amount :=
      contextRound_of_nonneg (by omega) (by omega)
    rw [applyDecrease, consume, hkept, hleft,
      ih (fun i hi => h i (List.mem_cons_of_mem _ hi)) (by omega) (by omega)]

section Rows

variable {increaseIsDebit : Bool} {rows : List AgingRow}

theorem AgingRow.movement_proper {row : AgingRow} (h : row.OneSided) :
    (row.movement increaseIsDebit).Proper := by
  unfold AgingRow.movement
  split
  · next hpos => exact Int.natCast_pos.mpr hpos
  · next hnot =>
    refine Int.natCast_pos.mpr ?_
    unfold AgingRow.increaseAmount at hnot
    unfold AgingRow.decreaseAmount
    unfold AgingRow.OneSided at h
    cases increaseIsDebit <;> simp_all

theorem movements_proper (increaseIsDebit : Bool) (h : ∀ row ∈ rows, row.OneSided) :
    ∀ move ∈ movements increaseIsDebit rows, move.Proper :=
  List.forall_mem_map.mpr fun row hrow => AgingRow.movement_proper (h row hrow)

/-- Rows that raise the balance, as items. -/
def increaseItems (increaseIsDebit : Bool) (rows : List AgingRow) : List (Date × ℤ) :=
  (rows.filter fun row => 0 < row.increaseAmount increaseIsDebit).map fun row =>
    (row.accountingDate, (row.increaseAmount increaseIsDebit : ℤ))

theorem increases_movements : increases (movements increaseIsDebit rows) =
    increaseItems increaseIsDebit rows := by
  induction rows with
  | nil => rfl
  | cons row rows ih =>
    unfold increases movements increaseItems at ih ⊢
    rw [List.map_cons, List.filter_cons]
    by_cases hpos : 0 < row.increaseAmount increaseIsDebit
    · have hmove : Movement.increase? (row.movement increaseIsDebit) =
          some (row.accountingDate, (row.increaseAmount increaseIsDebit : ℤ)) := by
        rw [AgingRow.movement, if_pos hpos]
        rfl
      rw [List.filterMap_cons_some hmove, ih, if_pos (by simpa using hpos), List.map_cons]
    · have hmove : Movement.increase? (row.movement increaseIsDebit) = none := by
        rw [AgingRow.movement, if_neg hpos]
        rfl
      rw [List.filterMap_cons_none hmove, ih, if_neg (by simpa using hpos)]

theorem WithinContext.amounts (h : WithinContext rows) (increaseIsDebit : Bool) {row : AgingRow}
    (hrow : row ∈ rows) :
    row.increaseAmount increaseIsDebit < 10 ^ contextPrecision ∧
      row.decreaseAmount increaseIsDebit < 10 ^ contextPrecision := by
  have hdebit : row.debitAmount < 10 ^ contextPrecision :=
    (le_total (f := AgingRow.debitAmount) hrow).trans_lt h.1
  have hcredit : row.creditAmount < 10 ^ contextPrecision :=
    (le_total (f := AgingRow.creditAmount) hrow).trans_lt h.2
  unfold AgingRow.increaseAmount AgingRow.decreaseAmount
  cases increaseIsDebit
  · exact ⟨hcredit, hdebit⟩
  · exact ⟨hdebit, hcredit⟩

theorem WithinContext.of_initial {earlier : List AgingRow} (h : WithinContext rows)
    (hinitial : earlier <+: rows) : WithinContext earlier := by
  obtain ⟨later, rfl⟩ := hinitial
  unfold WithinContext at h ⊢
  rw [total_append, total_append] at h
  omega

variable (increaseIsDebit) in
/-- Without rounding the loop is the queue. -/
theorem fifoAgingOpenItems_eq (hside : ∀ row ∈ rows, row.OneSided) (hdigits : WithinContext rows) :
    fifoAgingOpenItems increaseIsDebit rows = fifo (movements increaseIsDebit rows) := by
  induction rows using List.reverseRecOn with
  | nil => rfl
  | append_singleton rows row ih =>
    have hsides : ∀ r ∈ rows, r.OneSided := fun r hr => hside r (List.mem_append_left _ hr)
    have hdone := hdigits.of_initial (List.prefix_append rows [row])
    obtain ⟨hincrease, hdecrease⟩ := hdigits.amounts increaseIsDebit
      (List.mem_append_right rows (List.mem_singleton_self row))
    have hmoves := movements_proper increaseIsDebit hsides
    obtain ⟨hpos, hsuffix⟩ := fifo_pos_leavesSuffix hmoves
    have hbound : ∀ item ∈ fifo (movements increaseIsDebit rows),
        0 ≤ item.2 ∧ item.2 < 10 ^ contextPrecision := by
      rw [increases_movements] at hsuffix
      refine fun item hitem => ⟨(hpos item hitem).le, hsuffix.amount_lt (fun i hi => ?_) item hitem⟩
      obtain ⟨r, hr, rfl⟩ := List.mem_map.mp hi
      have hlt := (hdone.amounts increaseIsDebit (List.mem_filter.mp hr).1).1
      show ((r.increaseAmount increaseIsDebit : ℕ) : ℤ) < 10 ^ contextPrecision
      exact_mod_cast hlt
    rw [fifoAgingOpenItems, List.foldl_concat, movements, List.map_append, List.map_singleton,
      fifo_concat]
    change agingStep increaseIsDebit (fifoAgingOpenItems increaseIsDebit rows) row =
      fifoStep (fifo (movements increaseIsDebit rows)) (row.movement increaseIsDebit)
    rw [ih hsides hdone, agingStep, AgingRow.movement]
    split
    · rfl
    · rw [applyDecrease_eq hbound (Int.natCast_nonneg _) (by exact_mod_cast hdecrease)]
      rfl

/-- The balance of the account in the direction of its increases. -/
def agedBalance (increaseIsDebit : Bool) (rows : List AgingRow) : ℤ :=
  ((total (AgingRow.increaseAmount increaseIsDebit) rows : ℕ) : ℤ) -
    (total (AgingRow.decreaseAmount increaseIsDebit) rows : ℕ)

theorem balance_movements (hside : ∀ row ∈ rows, row.OneSided) :
    balance (movements increaseIsDebit rows) = agedBalance increaseIsDebit rows := by
  have hsigned : ∀ row ∈ rows, (row.movement increaseIsDebit).signed =
      (row.increaseAmount increaseIsDebit : ℤ) - row.decreaseAmount increaseIsDebit := by
    intro row hrow
    have hone : row.OneSided := hside row hrow
    unfold AgingRow.OneSided at hone
    unfold AgingRow.movement AgingRow.increaseAmount AgingRow.decreaseAmount
    cases increaseIsDebit <;> rcases hone with ⟨hd, hc⟩ | ⟨hd, hc⟩ <;>
      simp [Movement.signed, hd, hc]
  unfold agedBalance
  rw [balance, movements, List.map_map, natCast_total, natCast_total, ← total_sub]
  exact total_congr hsigned

/-- The balance that decreases cannot take below zero, row by row. -/
def outstandingBalance (increaseIsDebit : Bool) (rows : List AgingRow) : ℤ :=
  rows.foldl (fun balance row =>
    if 0 < row.increaseAmount increaseIsDebit then balance + row.increaseAmount increaseIsDebit
    else max (balance - row.decreaseAmount increaseIsDebit) 0) 0

theorem outstanding_movements :
    outstanding (movements increaseIsDebit rows) = outstandingBalance increaseIsDebit rows := by
  unfold outstanding movements outstandingBalance
  rw [List.foldl_map]
  congr 1
  funext balance row
  rw [AgingRow.movement]
  split
  · rfl
  · rfl

variable (increaseIsDebit) in
/-- What is open adds up to the reference balance. -/
theorem total_openItems (hside : ∀ row ∈ rows, row.OneSided) (hdigits : WithinContext rows) :
    total Prod.snd (fifoAgingOpenItems increaseIsDebit rows) =
      outstandingBalance increaseIsDebit rows := by
  rw [fifoAgingOpenItems_eq increaseIsDebit hside hdigits, total_fifo (movements_proper increaseIsDebit hside),
    outstanding_movements]

theorem outstandingBalance_concat (row : AgingRow) :
    outstandingBalance increaseIsDebit (rows ++ [row]) =
      if 0 < row.increaseAmount increaseIsDebit then
        outstandingBalance increaseIsDebit rows + row.increaseAmount increaseIsDebit
      else max (outstandingBalance increaseIsDebit rows - row.decreaseAmount increaseIsDebit) 0 := by
  unfold outstandingBalance
  rw [List.foldl_concat]

variable (increaseIsDebit rows) in
/-- Never more is open than has come in. -/
theorem outstandingBalance_le : outstandingBalance increaseIsDebit rows ≤
    (total (AgingRow.increaseAmount increaseIsDebit) rows : ℕ) := by
  induction rows using List.reverseRecOn with
  | nil => exact Int.le_refl _
  | append_singleton rows row ih =>
    rw [outstandingBalance_concat, total_append, total_cons, total_nil]
    split
    · omega
    · omega

variable (increaseIsDebit) in
theorem outstandingBalance_lt (hdigits : WithinContext rows) :
    outstandingBalance increaseIsDebit rows < 10 ^ contextPrecision := by
  have hle := outstandingBalance_le increaseIsDebit rows
  have hlt : total (AgingRow.increaseAmount increaseIsDebit) rows < 10 ^ contextPrecision := by
    cases increaseIsDebit
    · exact hdigits.2
    · exact hdigits.1
  have hcast : ((total (AgingRow.increaseAmount increaseIsDebit) rows : ℕ) : ℤ) <
      10 ^ contextPrecision := by exact_mod_cast hlt
  omega

end Rows

/-! ## Buckets -/

/-- The sum of the four buckets. -/
def BucketAmounts.sum (amounts : BucketAmounts) : ℤ :=
  amounts.current + amounts.days31To60 + amounts.days61To90 + amounts.daysOver90

structure BucketAmounts.NonNeg (amounts : BucketAmounts) : Prop where
  current : 0 ≤ amounts.current
  days31To60 : 0 ≤ amounts.days31To60
  days61To90 : 0 ≤ amounts.days61To90
  daysOver90 : 0 ≤ amounts.daysOver90

theorem BucketAmounts.add_exact {amounts : BucketAmounts} (h : amounts.NonNeg)
    (bucket : AgingBucket) {amount : ℤ} (hamount : 0 ≤ amount)
    (hlt : amounts.sum + amount < 10 ^ contextPrecision) :
    (amounts.add bucket amount).NonNeg ∧ (amounts.add bucket amount).sum = amounts.sum + amount := by
  obtain ⟨hc, h31, h61, h90⟩ := h
  unfold BucketAmounts.sum at hlt
  have hround : ∀ held : ℤ, 0 ≤ held → held ≤ amounts.sum →
      contextRound (held + amount) = held + amount := by
    intro held hheld hle
    unfold BucketAmounts.sum at hle
    exact contextRound_of_nonneg (by omega) (by omega)
  have hsum : amounts.sum = amounts.current + amounts.days31To60 + amounts.days61To90 +
      amounts.daysOver90 := rfl
  cases bucket with
  | current =>
    have hnew := hround amounts.current hc (by omega)
    simp only [BucketAmounts.add, hnew]
    exact ⟨⟨by dsimp only; omega, h31, h61, h90⟩, by dsimp only [BucketAmounts.sum]; omega⟩
  | days31To60 =>
    have hnew := hround amounts.days31To60 h31 (by omega)
    simp only [BucketAmounts.add, hnew]
    exact ⟨⟨hc, by dsimp only; omega, h61, h90⟩, by dsimp only [BucketAmounts.sum]; omega⟩
  | days61To90 =>
    have hnew := hround amounts.days61To90 h61 (by omega)
    simp only [BucketAmounts.add, hnew]
    exact ⟨⟨hc, h31, by dsimp only; omega, h90⟩, by dsimp only [BucketAmounts.sum]; omega⟩
  | daysOver90 =>
    have hnew := hround amounts.daysOver90 h90 (by omega)
    simp only [BucketAmounts.add, hnew]
    exact ⟨⟨hc, h31, h61, by dsimp only; omega⟩, by dsimp only [BucketAmounts.sum]; omega⟩

theorem bucketAmounts_from (asOf : Date) {items : List (Date × ℤ)}
    (h : ∀ item ∈ items, 0 < item.2) {start : BucketAmounts} (hstart : start.NonNeg)
    (hlt : start.sum + total Prod.snd items < 10 ^ contextPrecision) :
    (items.foldl (fun amounts item => amounts.add
        (receivableAgingBucket ((asOf : ℤ) - (item.1 : ℤ))) item.2) start).NonNeg ∧
      (items.foldl (fun amounts item => amounts.add
        (receivableAgingBucket ((asOf : ℤ) - (item.1 : ℤ))) item.2) start).sum =
          start.sum + total Prod.snd items := by
  induction items generalizing start with
  | nil => exact ⟨hstart, (add_zero _).symm⟩
  | cons item items ih =>
    have hitems : ∀ i ∈ items, 0 < i.2 := fun i hi => h i (List.mem_cons_of_mem _ hi)
    have hrest : 0 ≤ total Prod.snd items :=
      List.sum_nonneg (List.forall_mem_map.mpr fun i hi => (hitems i hi).le)
    have hitem := h item List.mem_cons_self
    rw [total_cons] at hlt ⊢
    obtain ⟨hnonneg, hsum⟩ := BucketAmounts.add_exact hstart
      (receivableAgingBucket ((asOf : ℤ) - (item.1 : ℤ))) hitem.le (by omega)
    obtain ⟨hnonneg', hsum'⟩ := ih hitems hnonneg (by omega)
    rw [List.foldl_cons]
    exact ⟨hnonneg', by omega⟩

theorem BucketAmounts.outstanding_eq {amounts : BucketAmounts} (h : amounts.NonNeg)
    (hlt : amounts.sum < 10 ^ contextPrecision) : amounts.outstanding = amounts.sum := by
  obtain ⟨hc, h31, h61, h90⟩ := h
  unfold BucketAmounts.sum at hlt ⊢
  unfold BucketAmounts.outstanding
  rw [contextRound_of_nonneg (z := amounts.current + amounts.days31To60) (by omega) (by omega),
    contextRound_of_nonneg (z := amounts.current + amounts.days31To60 + amounts.days61To90)
      (by omega) (by omega),
    contextRound_of_nonneg (by omega) (by omega)]

/-- The buckets split what is open, whatever the as-of day. -/
theorem buckets_split {increaseIsDebit : Bool} {rows : List AgingRow}
    (hside : ∀ row ∈ rows, row.OneSided) (hdigits : WithinContext rows) (asOf : Date) :
    (bucketAmounts asOf (fifoAgingOpenItems increaseIsDebit rows)).sum =
        outstandingBalance increaseIsDebit rows ∧
      (bucketAmounts asOf (fifoAgingOpenItems increaseIsDebit rows)).outstanding =
        outstandingBalance increaseIsDebit rows := by
  have hpos := (fifo_pos_leavesSuffix (movements_proper increaseIsDebit hside)).1
  rw [← fifoAgingOpenItems_eq increaseIsDebit hside hdigits] at hpos
  have htotal := total_openItems increaseIsDebit hside hdigits
  have hlt := outstandingBalance_lt increaseIsDebit hdigits
  have hzero : BucketAmounts.NonNeg ⟨0, 0, 0, 0⟩ :=
    ⟨Int.le_refl 0, Int.le_refl 0, Int.le_refl 0, Int.le_refl 0⟩
  have hsum : BucketAmounts.sum ⟨0, 0, 0, 0⟩ = 0 := rfl
  obtain ⟨hnonneg, hsplit⟩ := bucketAmounts_from asOf hpos hzero (by omega)
  rw [hsum, zero_add, htotal] at hsplit
  refine ⟨hsplit, ?_⟩
  exact (BucketAmounts.outstanding_eq hnonneg (lt_of_eq_of_lt hsplit hlt)).trans hsplit

/-! ## Open items and their reference -/

/-- The items against the reference: positive, dated in order, a suffix of the increases with
    its first item perhaps reduced, adding up to the held balance in any split into buckets. -/
structure ReferenceItems (increaseIsDebit : Bool) (rows : List AgingRow) (items : List (Date × ℤ)) :
    Prop where
  positive : ∀ item ∈ items, 0 < item.2
  dated : items.Pairwise fun a b => a.1 ≤ b.1
  outstanding : total Prod.snd items = outstandingBalance increaseIsDebit rows
  oldest_first : LeavesSuffix items (increaseItems increaseIsDebit rows)
  buckets : ∀ asOf, (bucketAmounts asOf items).sum = outstandingBalance increaseIsDebit rows ∧
    (bucketAmounts asOf items).outstanding = outstandingBalance increaseIsDebit rows

theorem openItems_reference (increaseIsDebit : Bool) (rows : List AgingRow)
    (hdates : rows.Pairwise fun a b => a.accountingDate ≤ b.accountingDate)
    (hside : ∀ row ∈ rows, row.OneSided) (hdigits : WithinContext rows) :
    ReferenceItems increaseIsDebit rows (fifoAgingOpenItems increaseIsDebit rows) := by
  have hmoves := movements_proper increaseIsDebit hside
  obtain ⟨hpos, hsuffix⟩ := fifo_pos_leavesSuffix hmoves
  have hsorted : ((increases (movements increaseIsDebit rows)).map Prod.fst).Pairwise
      fun a b => a ≤ b := by
    rw [increases_movements, increaseItems, List.map_map]
    exact List.pairwise_map.mpr (hdates.sublist List.filter_sublist)
  have heq := fifoAgingOpenItems_eq increaseIsDebit hside hdigits
  exact {
    positive := by rw [heq]; exact hpos
    dated := by rw [heq]; exact List.pairwise_map.mp (fifo_keys_sorted hsorted hmoves)
    outstanding := total_openItems increaseIsDebit hside hdigits
    oldest_first := by rw [heq, ← increases_movements]; exact hsuffix
    buckets := buckets_split hside hdigits }

/-! ## The aging against the ledger -/

/-- Debit minus credit of the rows. -/
def netBalance (rows : List AgingRow) : ℤ :=
  ((total AgingRow.debitAmount rows : ℕ) : ℤ) - (total AgingRow.creditAmount rows : ℕ)

theorem netBalance_abs_lt {rows : List AgingRow} (h : WithinContext rows) :
    |netBalance rows| < 10 ^ contextPrecision := by
  obtain ⟨hdebit, hcredit⟩ := h
  have hd : ((total AgingRow.debitAmount rows : ℕ) : ℤ) < 10 ^ contextPrecision := by
    exact_mod_cast hdebit
  have hc : ((total AgingRow.creditAmount rows : ℕ) : ℤ) < 10 ^ contextPrecision := by
    exact_mod_cast hcredit
  unfold netBalance
  rw [abs_lt]
  omega

theorem unappliedCredit_eq {rows : List AgingRow} (h : WithinContext rows) :
    unappliedCredit rows = -netBalance rows := by
  have hrow : ∀ row ∈ rows, contextRound ((row.creditAmount : ℤ) - (row.debitAmount : ℤ)) =
      (row.creditAmount : ℤ) - (row.debitAmount : ℤ) := by
    intro row hrow
    obtain ⟨hd, hc⟩ := h.amounts true hrow
    have hd' : (row.debitAmount : ℤ) < 10 ^ contextPrecision := by exact_mod_cast hd
    have hc' : (row.creditAmount : ℤ) < 10 ^ contextPrecision := by exact_mod_cast hc
    refine contextRound_of_abs_lt ?_
    rw [abs_lt]
    omega
  have hsum : ∀ earlier : List AgingRow, (earlier.map fun row =>
      (row.creditAmount : ℤ) - (row.debitAmount : ℤ)).sum = -netBalance earlier := by
    intro earlier
    unfold netBalance
    rw [natCast_total, natCast_total, neg_sub, ← total_sub]
    rfl
  unfold unappliedCredit decimalSum decSum
  rw [List.map_congr_left hrow, decSumFrom_of_exact, zero_add, hsum]
  refine exactFrom_of_prefixes (by decide) fun ys hys => ?_
  obtain ⟨earlier, hinitial, rfl⟩ := List.prefix_map_iff.mp hys
  rw [zero_add, hsum, abs_neg]
  exact netBalance_abs_lt (h.of_initial hinitial)

/-- The total ties to the account: net of the unapplied credit of a receivable, as it is for a
    payable that is not overpaid. -/
def AgingTies (increaseIsDebit : Bool) (asOf : Date) (rows : List AgingRow) : Prop :=
  let figures := agingFigures increaseIsDebit asOf rows
  if increaseIsDebit then
    figures.totalOutstandingAmount - figures.unappliedCreditAmount.getD 0 = netBalance rows
  else 0 ≤ -netBalance rows → figures.totalOutstandingAmount = -netBalance rows

/-- No decrease is forgotten for good: the balance of the account was never below both zero and
    what it is at the period end. -/
def NeverOverdrawn (increaseIsDebit : Bool) (rows : List AgingRow) : Prop :=
  ∀ earlier, earlier <+: rows →
    min (agedBalance increaseIsDebit rows) 0 ≤ agedBalance increaseIsDebit earlier

theorem outstandingBalance_eq_iff {increaseIsDebit : Bool} {rows : List AgingRow}
    (hside : ∀ row ∈ rows, row.OneSided) :
    outstandingBalance increaseIsDebit rows = max (agedBalance increaseIsDebit rows) 0 ↔
      NeverOverdrawn increaseIsDebit rows := by
  rw [← outstanding_movements, ← balance_movements hside,
    outstanding_eq_max_iff (movements_proper increaseIsDebit hside), balance_movements hside]
  unfold NeverOverdrawn
  constructor
  · intro h earlier hearlier
    have hsides : ∀ row ∈ earlier, row.OneSided := fun row hrow => hside row (hearlier.mem hrow)
    have hbalance := h (movements increaseIsDebit earlier) (hearlier.map _)
    rwa [balance_movements hsides] at hbalance
  · intro h moves hmoves
    obtain ⟨earlier, hearlier, rfl⟩ := List.prefix_map_iff.mp hmoves
    have hsides : ∀ row ∈ earlier, row.OneSided := fun row hrow => hside row (hearlier.mem hrow)
    have hbalance := h earlier hearlier
    rwa [← balance_movements hsides] at hbalance

/-- An aging ties to the account exactly when no decrease was forgotten for good; of a payable
    that is overpaid at the period end nothing is asked. -/
theorem aging_ties_iff (increaseIsDebit : Bool) (asOf : Date) (rows : List AgingRow)
    (hside : ∀ row ∈ rows, row.OneSided) (hdigits : WithinContext rows) :
    AgingTies increaseIsDebit asOf rows ↔
      (increaseIsDebit = true ∨ 0 ≤ agedBalance increaseIsDebit rows →
        NeverOverdrawn increaseIsDebit rows) := by
  have htotal : (agingFigures increaseIsDebit asOf rows).totalOutstandingAmount =
      outstandingBalance increaseIsDebit rows := (buckets_split hside hdigits asOf).2
  rw [← outstandingBalance_eq_iff hside]
  cases increaseIsDebit with
  | true =>
    have hnet : agedBalance true rows = netBalance rows := rfl
    have hunapplied : (agingFigures true asOf rows).unappliedCreditAmount =
        if 0 < -netBalance rows then some (-netBalance rows) else none := by
      show (if true = true ∧ 0 < unappliedCredit rows then some (unappliedCredit rows) else none) = _
      rw [unappliedCredit_eq hdigits]
      simp only [true_and]
    unfold AgingTies
    simp only [if_true, htotal, hunapplied, hnet, true_or, forall_true_left]
    split
    · rw [Option.getD_some]
      omega
    · rw [Option.getD_none]
      omega
  | false =>
    have hnet : agedBalance false rows = -netBalance rows := by
      show ((total AgingRow.creditAmount rows : ℕ) : ℤ) - (total AgingRow.debitAmount rows : ℕ) = _
      unfold netBalance
      omega
    unfold AgingTies
    simp only [htotal, hnet, Bool.false_eq_true, if_false, false_or]
    refine forall_congr' fun hle => ?_
    rw [max_eq_left hle]

/-! ## Rows of a read -/

/-- The rows a read ages come in date order, each with one positive side. -/
theorem agingRows_admitted {t : Tables} (h : WellFormed dep t) (legalEntityId bookId : ℕ)
    (chartAccountCode : String) (periodEndDate : Date) (increaseIsDebit : Bool) :
    ((agingRows dep t legalEntityId bookId chartAccountCode periodEndDate increaseIsDebit).Pairwise
        fun a b => a.accountingDate ≤ b.accountingDate) ∧
      ∀ row ∈ agingRows dep t legalEntityId bookId chartAccountCode periodEndDate increaseIsDebit,
        row.OneSided ∧ row.accountingDate ≤ periodEndDate := by
  unfold agingRows
  constructor
  · have hle : ∀ a b, agingOrder dep increaseIsDebit a b = true →
        a.accountingDate ≤ b.accountingDate := by
      intro a b hab
      simp only [agingOrder, Bool.or_eq_true, Bool.and_eq_true, decide_eq_true_eq,
        beq_iff_eq] at hab
      rcases hab with hlt | ⟨heq, -⟩
      · exact hlt.le
      · exact heq.le
    have hge : ∀ a b, ¬agingOrder dep increaseIsDebit a b = true →
        b.accountingDate ≤ a.accountingDate := by
      intro a b hab
      simp only [agingOrder, Bool.or_eq_true, decide_eq_true_eq, not_or] at hab
      exact Nat.le_of_not_lt hab.1
    exact pairwise_insertionSort_of hle hge _
  · intro row hrow
    rw [List.mem_insertionSort, List.mem_map] at hrow
    obtain ⟨line, hline, rfl⟩ := hrow
    obtain ⟨hmem, hwhere⟩ := List.mem_filter.mp hline
    obtain ⟨hj, hrow, -⟩ := mem_ledgerLines hmem
    obtain ⟨posted, hposted⟩ := (h.facts line.journal (List.mem_filter.mp hj).1).lines
    obtain ⟨source, -, hsource⟩ := mem_tryMap hposted hrow
    obtain ⟨account, -, heq, hside⟩ := insertJournalLine_ok hsource
    simp only [decide_eq_true_eq] at hwhere
    refine ⟨?_, hwhere.2.2⟩
    show (0 < line.line.debitAmount ∧ line.line.creditAmount = 0) ∨
      (line.line.debitAmount = 0 ∧ 0 < line.line.creditAmount)
    rw [heq]
    exact hside

/-- What a read shows is computed from these rows. -/
theorem loadAgingDocument_figures {t : Tables} {kind : AgingKind}
    {legalEntityReference bookReference periodCode chartAccountCode : String}
    {document : AgingDocument}
    (h : loadAgingDocument dep kind t legalEntityReference bookReference periodCode
      chartAccountCode = .ok document) :
    ∃ entity book, dep.loadScope legalEntityReference bookReference
        ("the " ++ kind.readName ++ " read") = .ok (entity, book) ∧
      document.figures = agingFigures kind.increaseIsDebit document.asOfDate
        (agingRows dep t entity.legalEntityId book.accountingBookId document.chartAccountCode
          document.asOfDate kind.increaseIsDebit) := by
  simp only [loadAgingDocument, bind_eq_ok, pure_eq_ok] at h
  obtain ⟨-, -, ⟨entity, book⟩, hscope, period, -, accountClass, -, -, -, rfl⟩ := h
  exact ⟨entity, book, hscope, rfl⟩

/-! ## Two histories -/

/-- Two charges and a payment of more than the first of them. -/
def januaryRows : List AgingRow := [
  ⟨738886, "urn:cwl:accounting:general_journal:1", 1, 100000000, 0⟩,
  ⟨738896, "urn:cwl:accounting:general_journal:2", 1, 50000000, 0⟩,
  ⟨738906, "urn:cwl:accounting:general_journal:3", 2, 0, 120000000⟩]

theorem januaryRows_reference :
    ReferenceItems true januaryRows (fifoAgingOpenItems true januaryRows) :=
  openItems_reference true januaryRows (by decide) (by decide) (by decide)

theorem januaryRows_ties : AgingTies true 738916 januaryRows :=
  (aging_ties_iff true 738916 januaryRows (by decide) (by decide)).mpr fun _ =>
    (outstandingBalance_eq_iff (by decide)).mp (by decide +kernel)

/-- A payment ten days before the charge it is for. -/
def prepaidRows : List AgingRow := [
  ⟨738886, "urn:cwl:accounting:general_journal:1", 2, 0, 100000000⟩,
  ⟨738896, "urn:cwl:accounting:general_journal:2", 1, 100000000, 0⟩]

/-- The payment is lost: the charge stays open although the account is settled. -/
theorem prepayment_forgotten :
    prepaidRows.Pairwise (fun a b => a.accountingDate < b.accountingDate) ∧
      (∀ row ∈ prepaidRows, row.OneSided) ∧ WithinContext prepaidRows ∧
      netBalance prepaidRows = 0 ∧
      (agingFigures true 738916 prepaidRows).totalOutstandingAmount = 100000000 ∧
      (agingFigures true 738916 prepaidRows).unappliedCreditAmount = none ∧
      ¬AgingTies true 738916 prepaidRows := by
  have htotal : (agingFigures true 738916 prepaidRows).totalOutstandingAmount = 100000000 := by
    decide +kernel
  have hnone : (agingFigures true 738916 prepaidRows).unappliedCreditAmount = none := by
    decide +kernel
  have hnet : netBalance prepaidRows = 0 := by decide +kernel
  refine ⟨by decide, by decide, by decide, hnet, htotal, hnone, fun hties => ?_⟩
  unfold AgingTies at hties
  rw [if_pos rfl, htotal, hnone, hnet] at hties
  exact absurd hties (by decide)

end AccountingPlatform.Postgres
