/-
  Reports on the movements of one account, by kind of journal.

  Journals are sorted into kinds of movement, by a mark in the idempotency key or by the roles on
  the two sides. A journal of a kind counts with one side of the account, any other journal in
  full; what a journal of a kind has on the other side is dropped (`total_signed`).
-/
import Mathlib.Data.Finset.Basic
import Mathlib.Data.Finset.Dedup
import Mathlib.Data.Finset.Lattice.Lemmas
import Mathlib.Data.List.Infix
import AccountingPlatform.Lib.Buckets
import AccountingPlatform.Postgres.Aging

namespace AccountingPlatform.Postgres

open AccountingPlatform.Lib AccountingPlatform.Core

variable (dep : Deployment)

/-! ## Kinds of movement -/

/-- How a kind of movement is recognised. -/
structure MovementRule (κ : Type) where
  kind : κ
  keyMark : String
  debitRoles : List String
  creditRoles : List String

/-- `mark in idempotency_key or (role in debit_roles and ... and role in credit_roles)`. -/
def MovementRule.Recognises {κ : Type} (rule : MovementRule κ) (idempotencyKey : String)
    (debitRoles creditRoles : Finset String) : Prop :=
  rule.keyMark.toList <:+: idempotencyKey.toList ∨
    ((∀ role ∈ rule.debitRoles, role ∈ debitRoles) ∧ ∀ role ∈ rule.creditRoles, role ∈ creditRoles)

instance {κ : Type} (rule : MovementRule κ) (idempotencyKey : String)
    (debitRoles creditRoles : Finset String) :
    Decidable (rule.Recognises idempotencyKey debitRoles creditRoles) :=
  inferInstanceAs (Decidable (_ ∨ _))

/-- The kind of the first rule that applies. -/
def movementKind {κ : Type} (rules : List (MovementRule κ)) (idempotencyKey : String)
    (debitRoles creditRoles : Finset String) : Option κ :=
  (rules.find? fun rule => rule.Recognises idempotencyKey debitRoles creditRoles).map
    MovementRule.kind

/-- What tells the two reports apart. -/
structure MovementReport (κ : Type) where
  chartAccountCode : String
  accountRoleCode : String
  readName : String
  movementKind : String → Finset String → Finset String → Option κ
  /-- The kinds that count credits; the others count debits. -/
  countsCredit : κ → Bool

/-! ## Journals of a read -/

/-- A row of `line_rows`. -/
structure MovementRow where
  idempotencyKey : String
  journalReference : String
  lineNumber : ℕ
  accountRoleCode : String
  chartAccountCode : String
  debitAmount : ℕ
  creditAmount : ℕ
  deriving DecidableEq

/-- What the loop over the rows collects of one journal. -/
structure MovementBucket where
  idempotencyKey : String
  debitRoles : Finset String
  creditRoles : Finset String
  debitAmount : ℤ
  creditAmount : ℤ
  deriving DecidableEq

def newBucket (row : MovementRow) : MovementBucket := ⟨row.idempotencyKey, ∅, ∅, 0, 0⟩

-- Amounts are added as `Decimal`: `round` is the rounding of the context, or `id` for exact sums.
section Amounts

variable (round : ℤ → ℤ)

/-- One turn of the loop over the rows. -/
def bucketStep (code : String) (bucket : MovementBucket) (row : MovementRow) : MovementBucket where
  idempotencyKey := bucket.idempotencyKey
  debitRoles :=
    if 0 < row.debitAmount then insert row.accountRoleCode bucket.debitRoles else bucket.debitRoles
  creditRoles :=
    if 0 < row.creditAmount then insert row.accountRoleCode bucket.creditRoles
    else bucket.creditRoles
  debitAmount :=
    if row.chartAccountCode = code then round (bucket.debitAmount + row.debitAmount)
    else bucket.debitAmount
  creditAmount :=
    if row.chartAccountCode = code then round (bucket.creditAmount + row.creditAmount)
    else bucket.creditAmount

/-- `journals`. -/
def movementBuckets (code : String) (rows : List MovementRow) : Dict String MovementBucket :=
  Dict.accumulate MovementRow.journalReference newBucket (bucketStep round code) rows

namespace MovementReport

variable {κ : Type} [DecidableEq κ] (report : MovementReport κ)

def kindOf (bucket : MovementBucket) : Option κ :=
  report.movementKind bucket.idempotencyKey bucket.debitRoles bucket.creditRoles

def countedOf (kind : Option κ) (debitAmount creditAmount : ℤ) : ℤ :=
  match kind with
  | some kind => if report.countsCredit kind then creditAmount else debitAmount
  | none => round (creditAmount - debitAmount)

/-- The amount a journal adds to its kind, or to the other movement. -/
def counted (bucket : MovementBucket) : ℤ :=
  report.countedOf round (report.kindOf bucket) bucket.debitAmount bucket.creditAmount

/-- Journals of a kind with an amount on the account; those of `none` are of no kind. -/
def bucketsOf (rows : List MovementRow) (kind : Option κ) : List MovementBucket :=
  (movementBuckets round report.chartAccountCode rows).values.filter fun bucket =>
    ¬(bucket.debitAmount = 0 ∧ bucket.creditAmount = 0) ∧ report.kindOf bucket = kind

/-- The running amount of a kind; that of `none` is the other movement. -/
def amountOf (rows : List MovementRow) (kind : Option κ) : ℤ :=
  runningSum round 0 ((report.bucketsOf round rows kind).map (report.counted round))

end MovementReport

end Amounts

/-! ## The reads -/

/-- ORDER BY reference, line number. -/
def movementOrder (a b : MovementRow) : Bool :=
  if a.journalReference = b.journalReference then a.lineNumber ≤ b.lineNumber
  else dep.collation a.journalReference b.journalReference

/-- The key of a journal that no record is joined to is empty. -/
def LedgerLine.movementRow (t : Tables) (row : LedgerLine) : MovementRow :=
  ⟨((t.proposalRecord? row.journal.sourceProposalRecordId).map ProposalRecord.idempotencyKey).getD "",
    row.journal.journalReference, row.line.lineNumber, row.line.accountRoleCode, row.code, row.debit,
    row.credit⟩

def movementRows (t : Tables) (lines : List LedgerLine) : List MovementRow :=
  (lines.map (LedgerLine.movementRow t)).insertionSort fun a b => movementOrder dep a b

structure MovementRequest where
  legalEntityReference : String
  accountingBookReference : String
  periodCode : String

/-- The checks both reads begin with, and the rows they resolve to. -/
def movementScope {κ : Type} (report : MovementReport κ) (t : Tables) (request : MovementRequest) :
    Result (LegalEntityRecord × AccountingBook × FiscalPeriod) := do
  require (request.legalEntityReference ≠ "" ∧ request.accountingBookReference ≠ "" ∧
      request.periodCode ≠ "")
    (.validation ("legal_entity_reference, book_reference, and fiscal_period_reference are required. " ++
      "Supply those " ++ report.readName ++ " fields, then retry the " ++ report.readName ++ " read."))
  let (_, classesBook) ← dep.loadScope request.legalEntityReference request.accountingBookReference
    "the account-balance read"
  require ((chartAccountClasses dep classesBook).get? report.chartAccountCode).isSome
    (.validation ("Chart account " ++ report.chartAccountCode ++ " is not recorded for this book. " ++
      "Create the chart_account row, then retry the " ++ report.readName ++ " read."))
  let (entity, book) ← dep.loadScope request.legalEntityReference request.accountingBookReference
    ("the " ++ report.readName ++ " read")
  let period ← requireFiscalPeriod dep t request.periodCode ("the " ++ report.readName ++ " read")
  pure (entity, book, period)

def MovementRequest.header (request : MovementRequest) : ScopeHeader :=
  ⟨dep.catalog.tenantReference, request.legalEntityReference, request.accountingBookReference,
    fiscalPeriodReference request.periodCode⟩

/-- `other_movement_amount`, a key that is left out when nothing else moved. -/
def shownMovement (amount : ℤ) : Option ℤ := if amount = 0 then none else some amount

/-! ## The other side -/

def MovementRow.net (row : MovementRow) : ℤ := (row.creditAmount : ℤ) - row.debitAmount

def MovementRow.sides (row : MovementRow) : ℕ := row.debitAmount + row.creditAmount

/-- Rows on an account. -/
def accountRows (code : String) (rows : List MovementRow) : List MovementRow :=
  rows.filter fun row => row.chartAccountCode = code

/-- Roles of the rows with a positive amount. -/
def rolesOf (amount : MovementRow → ℕ) (rows : List MovementRow) : Finset String :=
  ((rows.filter fun row => 0 < amount row).map MovementRow.accountRoleCode).toFinset

namespace MovementReport

variable {κ : Type} [DecidableEq κ] (report : MovementReport κ)

/-- The kind of a journal: by its key and the roles on its two sides. -/
def kindOfJournal (rows : List MovementRow) (journalReference : String) : Option κ :=
  let lines := rows.filter fun row => row.journalReference = journalReference
  report.movementKind ((lines.head?.map MovementRow.idempotencyKey).getD "")
    (rolesOf MovementRow.debitAmount lines) (rolesOf MovementRow.creditAmount lines)

/-- What a row has on the side that a kind does not count. -/
def droppedOf (kind : Option κ) (row : MovementRow) : ℤ :=
  match kind with
  | some kind => if report.countsCredit kind then -(row.debitAmount : ℤ) else row.creditAmount
  | none => 0

/-- Credit less debit of the account that the kinds of the journals do not count. -/
def dropped (rows : List MovementRow) : ℤ :=
  total (fun row => report.droppedOf (report.kindOfJournal rows row.journalReference) row)
    (accountRows report.chartAccountCode rows)

/-- The amount of a kind as it enters the closing. -/
def signed (kind : Option κ) (amount : ℤ) : ℤ :=
  match kind with
  | some kind => if report.countsCredit kind then amount else -amount
  | none => amount

end MovementReport

/-! ## Buckets of a journal -/

theorem rolesOf_cons (amount : MovementRow → ℕ) (row : MovementRow) (rows : List MovementRow) :
    rolesOf amount (row :: rows) =
      if 0 < amount row then insert row.accountRoleCode (rolesOf amount rows)
      else rolesOf amount rows := by
  unfold rolesOf
  rw [List.filter_cons]
  simp only [decide_eq_true_eq]
  split
  · rw [List.map_cons, List.toFinset_cons]
  · rfl

/-- Amounts of some rows on an account. -/
def amountsOn (code : String) (amount : MovementRow → ℕ) (rows : List MovementRow) : List ℤ :=
  (accountRows code rows).map fun row => (amount row : ℤ)

theorem runningSum_amountsOn_cons (round : ℤ → ℤ) (code : String) (amount : MovementRow → ℕ)
    (acc : ℤ) (row : MovementRow) (rows : List MovementRow) :
    runningSum round acc (amountsOn code amount (row :: rows)) =
      runningSum round (if row.chartAccountCode = code then round (acc + amount row) else acc)
        (amountsOn code amount rows) := by
  unfold amountsOn accountRows
  rw [List.filter_cons]
  simp only [decide_eq_true_eq]
  split
  · rw [List.map_cons, runningSum_cons]
  · rfl

theorem foldl_bucketStep (round : ℤ → ℤ) (code : String) (rows : List MovementRow)
    (start : MovementBucket) :
    rows.foldl (bucketStep round code) start =
      { idempotencyKey := start.idempotencyKey
        debitRoles := start.debitRoles ∪ rolesOf MovementRow.debitAmount rows
        creditRoles := start.creditRoles ∪ rolesOf MovementRow.creditAmount rows
        debitAmount :=
          runningSum round start.debitAmount (amountsOn code MovementRow.debitAmount rows)
        creditAmount :=
          runningSum round start.creditAmount (amountsOn code MovementRow.creditAmount rows) } := by
  induction rows generalizing start with
  | nil =>
    show start = ⟨start.idempotencyKey, start.debitRoles ∪ ∅, start.creditRoles ∪ ∅, _, _⟩
    rw [Finset.union_empty, Finset.union_empty]
    rfl
  | cons row rows ih =>
    have hroles : ∀ (amount : MovementRow → ℕ) (roles : Finset String),
        (if 0 < amount row then insert row.accountRoleCode roles else roles) ∪ rolesOf amount rows =
          roles ∪ rolesOf amount (row :: rows) := by
      intro amount roles
      rw [rolesOf_cons]
      split
      · rw [Finset.insert_union, Finset.union_insert]
      · rfl
    rw [List.foldl_cons, ih, runningSum_amountsOn_cons, runningSum_amountsOn_cons, ← hroles, ← hroles]
    rfl

/-- The bucket of a journal: its key, its roles, and its running sums on the account. -/
theorem bucket_eq (round : ℤ → ℤ) (code : String) (rows : List MovementRow) :
    Dict.bucket newBucket (bucketStep round code) rows = rows.head?.map fun first =>
      { idempotencyKey := first.idempotencyKey
        debitRoles := rolesOf MovementRow.debitAmount rows
        creditRoles := rolesOf MovementRow.creditAmount rows
        debitAmount := runningSum round 0 (amountsOn code MovementRow.debitAmount rows)
        creditAmount := runningSum round 0 (amountsOn code MovementRow.creditAmount rows) } := by
  cases rows with
  | nil => rfl
  | cons first rows =>
    have hfold := foldl_bucketStep round code (first :: rows) (newBucket first)
    simp only [newBucket, Finset.empty_union] at hfold
    exact congrArg some hfold

/-! ## Exact sums -/

section Exact

variable (code : String) (rows : List MovementRow)

theorem accountRows_filter (p : MovementRow → Bool) :
    accountRows code (rows.filter p) = (accountRows code rows).filter p :=
  List.filter_comm _ _ _

theorem runningSum_amountsOn (amount : MovementRow → ℕ) :
    runningSum id 0 (amountsOn code amount rows) = (total amount (accountRows code rows) : ℕ) := by
  rw [runningSum_id, zero_add, natCast_total]
  rfl

/-- A total over the buckets of the journals, as one over the rows on the account. -/
theorem total_buckets {f : MovementBucket → ℤ} {g : MovementRow → ℤ}
    (h : ∀ journalReference first lines,
      rows.filter (fun row => row.journalReference = journalReference) = first :: lines →
      f { idempotencyKey := first.idempotencyKey
          debitRoles := rolesOf MovementRow.debitAmount (first :: lines)
          creditRoles := rolesOf MovementRow.creditAmount (first :: lines)
          debitAmount := (total MovementRow.debitAmount
            (accountRows code (first :: lines)) : ℕ)
          creditAmount := (total MovementRow.creditAmount
            (accountRows code (first :: lines)) : ℕ) } =
        total g (accountRows code (first :: lines))) :
    total f (movementBuckets id code rows).values =
      total g (accountRows code rows) := by
  have hrows : total g (accountRows code rows) =
      total (fun row => if row.chartAccountCode = code then g row else 0) rows := by
    rw [accountRows, total_filter]
    simp only [decide_eq_true_eq]
  rw [hrows]
  refine Dict.total_accumulate _ _ _ fun journalReference bucket hbucket => ?_
  rw [bucket_eq] at hbucket
  cases hlines : rows.filter fun row => row.journalReference = journalReference with
  | nil => rw [hlines] at hbucket; cases hbucket
  | cons first lines =>
    rw [hlines] at hbucket
    cases hbucket
    rw [runningSum_amountsOn, runningSum_amountsOn, h journalReference first lines hlines,
      accountRows, total_filter]
    simp only [decide_eq_true_eq]

theorem mem_bucket {bucket : MovementBucket} (h : bucket ∈ (movementBuckets id code rows).values) :
    0 ≤ bucket.debitAmount ∧ 0 ≤ bucket.creditAmount := by
  rw [Dict.mem_values_iff] at h
  obtain ⟨journalReference, hget⟩ := h
  rw [movementBuckets, Dict.get?_accumulate, bucket_eq, Option.map_eq_some_iff] at hget
  obtain ⟨first, -, rfl⟩ := hget
  rw [runningSum_amountsOn, runningSum_amountsOn]
  exact ⟨Int.natCast_nonneg _, Int.natCast_nonneg _⟩

/-- Both sides of all journals. -/
theorem total_bucketSides :
    total (fun bucket : MovementBucket => bucket.debitAmount + bucket.creditAmount)
        (movementBuckets id code rows).values =
      (total MovementRow.sides (accountRows code rows) : ℕ) := by
  rw [natCast_total]
  refine total_buckets code rows fun _ _ _ _ => ?_
  rw [natCast_total, natCast_total, ← total_add]
  exact total_congr fun row _ => (Nat.cast_add row.debitAmount row.creditAmount).symm

end Exact

section Report

variable {κ : Type} [DecidableEq κ] (report : MovementReport κ) (rows : List MovementRow)

/-- Over all kinds, every journal with an amount on the account is met once. -/
theorem total_kinds {f : MovementBucket → ℤ}
    (hzero : ∀ bucket, bucket.debitAmount = 0 → bucket.creditAmount = 0 → f bucket = 0)
    {kinds : List (Option κ)} (hnodup : kinds.Nodup) (hall : ∀ kind, kind ∈ kinds) :
    total (fun kind => total f (report.bucketsOf id rows kind)) kinds =
      total f (movementBuckets id report.chartAccountCode rows).values := by
  set buckets := (movementBuckets id report.chartAccountCode rows).values with hbuckets
  have hof : ∀ kind, report.bucketsOf id rows kind = (buckets.filter fun bucket =>
      ¬(bucket.debitAmount = 0 ∧ bucket.creditAmount = 0)).filter fun bucket =>
        report.kindOf bucket = kind := by
    intro kind
    rw [List.filter_filter, MovementReport.bucketsOf, ← hbuckets]
    refine List.filter_congr fun bucket _ => ?_
    rw [Bool.decide_and, Bool.and_comm]
  simp only [hof]
  rw [total_groups report.kindOf f hnodup fun bucket _ => hall _, total_filter]
  refine total_congr fun bucket _ => ?_
  by_cases h : bucket.debitAmount = 0 ∧ bucket.creditAmount = 0
  · rw [hzero bucket h.1 h.2, ite_self]
  · rw [if_pos (decide_eq_true h)]

omit [DecidableEq κ] in
theorem abs_counted_le {bucket : MovementBucket} (hdebit : 0 ≤ bucket.debitAmount)
    (hcredit : 0 ≤ bucket.creditAmount) :
    |report.counted id bucket| ≤ bucket.debitAmount + bucket.creditAmount := by
  unfold MovementReport.counted MovementReport.countedOf
  cases report.kindOf bucket with
  | none =>
    show |bucket.creditAmount - bucket.debitAmount| ≤ _
    rw [abs_le]
    omega
  | some kind =>
    dsimp only
    split
    · rw [abs_of_nonneg hcredit]
      omega
    · rw [abs_of_nonneg hdebit]
      omega

theorem amountOf_id (kind : Option κ) :
    report.amountOf id rows kind = total (report.counted id) (report.bucketsOf id rows kind) := by
  rw [MovementReport.amountOf, runningSum_id, zero_add]
  rfl

/-- What the journals of a kind count, without signs. -/
theorem total_abs_counted_le (kind : Option κ) :
    total (fun bucket => |report.counted id bucket|) (report.bucketsOf id rows kind) ≤
      total (fun bucket : MovementBucket => bucket.debitAmount + bucket.creditAmount)
        (report.bucketsOf id rows kind) := by
  refine List.sum_le_sum fun bucket hbucket => ?_
  obtain ⟨hdebit, hcredit⟩ := mem_bucket _ _ (List.mem_filter.mp hbucket).1
  exact abs_counted_le report hdebit hcredit

/-- The amounts of the kinds stay below what the rows have on the account. -/
theorem total_abs_amountOf_le {kinds : List (Option κ)} (hnodup : kinds.Nodup)
    (hall : ∀ kind, kind ∈ kinds) :
    total (fun kind => |report.amountOf id rows kind|) kinds ≤
      (total MovementRow.sides (accountRows report.chartAccountCode rows) : ℕ) := by
  rw [← total_bucketSides, ← total_kinds report rows (fun bucket hd hc => by rw [hd, hc, add_zero])
    hnodup hall]
  refine List.sum_le_sum fun kind _ => ?_
  rw [amountOf_id]
  exact (abs_total_le _ _).trans (total_abs_counted_le report rows kind)

omit [DecidableEq κ] in
theorem signed_total {α : Type} (f : α → ℤ) (xs : List α) (kind : Option κ) :
    report.signed kind (total f xs) = total (fun x => report.signed kind (f x)) xs := by
  cases kind with
  | none => rfl
  | some kind =>
    unfold MovementReport.signed
    dsimp only
    split
    · rfl
    · induction xs with
      | nil => rfl
      | cons x xs ih => rw [total_cons, total_cons, ← ih, neg_add]

omit [DecidableEq κ] in
/-- A journal of a kind enters the closing without what the kind drops. -/
theorem signed_countedOf (kind : Option κ) (lines : List MovementRow) :
    report.signed kind (report.countedOf id kind (total MovementRow.debitAmount lines : ℕ)
        (total MovementRow.creditAmount lines : ℕ)) =
      total (fun row => row.net - report.droppedOf kind row) lines := by
  rw [total_sub]
  have hnet : total MovementRow.net lines = ((total MovementRow.creditAmount lines : ℕ) : ℤ) -
      (total MovementRow.debitAmount lines : ℕ) := by
    rw [natCast_total, natCast_total, ← total_sub]
    rfl
  rw [hnet]
  unfold MovementReport.signed MovementReport.countedOf MovementReport.droppedOf
  cases kind with
  | none =>
    dsimp only
    rw [total_zero, sub_zero]
    rfl
  | some kind =>
    dsimp only
    split
    · have hdebit : total (fun row : MovementRow => -(row.debitAmount : ℤ)) lines =
          -((total MovementRow.debitAmount lines : ℕ) : ℤ) := by
        rw [natCast_total, ← zero_sub, ← total_zero lines, ← total_sub]
        simp only [zero_sub]
      rw [hdebit]
      ring
    · rw [natCast_total MovementRow.creditAmount]
      ring

/-- The kinds add up to the account's rows without what they drop. -/
theorem total_signed {kinds : List (Option κ)} (hnodup : kinds.Nodup)
    (hall : ∀ kind, kind ∈ kinds) :
    total (fun kind => report.signed kind (report.amountOf id rows kind)) kinds =
      total MovementRow.net (accountRows report.chartAccountCode rows) - report.dropped rows := by
  let f (bucket : MovementBucket) : ℤ :=
    report.signed (report.kindOf bucket) (report.counted id bucket)
  have hkind : ∀ kind, report.signed kind (report.amountOf id rows kind) =
      total f (report.bucketsOf id rows kind) := by
    intro kind
    rw [amountOf_id, signed_total]
    refine total_congr fun bucket hbucket => ?_
    obtain ⟨-, hof⟩ := List.mem_filter.mp hbucket
    rw [decide_eq_true_eq] at hof
    rw [← hof.2]
  have hzero : ∀ bucket : MovementBucket, bucket.debitAmount = 0 → bucket.creditAmount = 0 →
      f bucket = 0 := by
    intro bucket hd hc
    show report.signed (report.kindOf bucket) (report.counted id bucket) = 0
    unfold MovementReport.signed MovementReport.counted MovementReport.countedOf
    cases report.kindOf bucket with
    | none => simp [hd, hc]
    | some kind => simp [hd, hc]
  rw [total_congr fun kind _ => hkind kind, total_kinds report rows hzero hnodup hall,
    MovementReport.dropped, ← total_sub]
  refine total_buckets _ rows fun journalReference first lines hlines => ?_
  have hof : report.kindOfJournal rows journalReference = report.movementKind first.idempotencyKey
      (rolesOf MovementRow.debitAmount (first :: lines))
      (rolesOf MovementRow.creditAmount (first :: lines)) := by
    rw [MovementReport.kindOfJournal, hlines]
    rfl
  have hrow : ∀ row ∈ accountRows report.chartAccountCode (first :: lines),
      row.journalReference = journalReference := by
    intro row hrow
    have hmem := (List.mem_filter.mp hrow).1
    rw [← hlines, List.mem_filter, decide_eq_true_eq] at hmem
    exact hmem.2
  refine (signed_countedOf report _ _).trans (total_congr fun row h => ?_)
  rw [hrow row h, hof]
  rfl

/-! ## Rounding -/

-- A rounding that leaves amounts of few digits alone.
variable {round : ℤ → ℤ} {bound : ℤ} (hround : ∀ z, |z| < bound → round z = z)

include hround

omit [DecidableEq κ] in
theorem buckets_of_small {code : String} {rows : List MovementRow}
    (h : (total MovementRow.sides (accountRows code rows) : ℕ) < bound) :
    (movementBuckets round code rows).values = (movementBuckets id code rows).values := by
  refine Dict.values_accumulate_congr _ _ _ fun journalReference => ?_
  have hsum : ∀ amount : MovementRow → ℕ, (∀ row, amount row ≤ row.sides) →
      runningSum round 0 (amountsOn code amount
          (rows.filter fun row => row.journalReference = journalReference)) =
        runningSum id 0 (amountsOn code amount
          (rows.filter fun row => row.journalReference = journalReference)) := by
    intro amount hle
    rw [runningSum_id]
    refine runningSum_of_small hround (lt_of_le_of_lt ?_ h)
    rw [abs_zero, zero_add, amountsOn, total_map, accountRows_filter, natCast_total]
    refine (total_filter_le (fun row _ => abs_nonneg _) _).trans
      (List.sum_le_sum fun row _ => ?_)
    rw [Nat.abs_cast]
    exact_mod_cast hle row
  rw [bucket_eq, bucket_eq, hsum MovementRow.debitAmount fun row => Nat.le_add_right _ _,
    hsum MovementRow.creditAmount fun row => Nat.le_add_left _ _]

theorem amountOf_of_small (h : (total MovementRow.sides
      (accountRows report.chartAccountCode rows) : ℕ) < bound) (kind : Option κ) :
    report.amountOf round rows kind = report.amountOf id rows kind := by
  have hbuckets : report.bucketsOf round rows kind = report.bucketsOf id rows kind := by
    rw [MovementReport.bucketsOf, MovementReport.bucketsOf, buckets_of_small hround h]
  have hbelow : total (fun bucket => |report.counted id bucket|) (report.bucketsOf id rows kind) <
      bound := by
    refine lt_of_le_of_lt ?_ h
    rw [← total_bucketSides]
    refine (total_abs_counted_le report rows kind).trans (total_filter_le (fun bucket hbucket => ?_) _)
    obtain ⟨hdebit, hcredit⟩ := mem_bucket _ _ hbucket
    exact add_nonneg hdebit hcredit
  have hcounted : ∀ bucket ∈ report.bucketsOf id rows kind,
      report.counted round bucket = report.counted id bucket := by
    intro bucket hbucket
    have hle : |report.counted id bucket| < bound := by
      refine lt_of_le_of_lt ?_ hbelow
      exact List.single_le_sum (List.forall_mem_map.mpr fun _ _ => abs_nonneg _) _
        (List.mem_map_of_mem hbucket)
    unfold MovementReport.counted MovementReport.countedOf at hle ⊢
    cases hkind : report.kindOf bucket with
    | none =>
      rw [hkind] at hle
      exact hround _ hle
    | some kind => rfl
  unfold MovementReport.amountOf
  rw [hbuckets, List.map_congr_left hcounted, runningSum_id]
  refine runningSum_of_small hround ?_
  rw [abs_zero, zero_add, total_map]
  exact hbelow

end Report

/-! ## One-sided journals -/

namespace MovementReport

variable {κ : Type} [DecidableEq κ] (report : MovementReport κ) (rows : List MovementRow)

/-- No journal of a kind has an amount that the kind drops. -/
def DropsNothing : Prop :=
  ∀ bucket ∈ (movementBuckets contextRound report.chartAccountCode rows).values, ∀ kind,
    report.kindOf bucket = some kind →
      (if report.countsCredit kind then bucket.debitAmount else bucket.creditAmount) = 0

/-- A journal that is recognised has lines on the account only on the side its kind counts. -/
def OneSided : Prop :=
  ∀ row ∈ accountRows report.chartAccountCode rows, ∀ kind ∈ report.kindOfJournal rows
    row.journalReference, (if report.countsCredit kind then row.debitAmount else row.creditAmount) = 0

instance : Decidable (report.OneSided rows) :=
  inferInstanceAs (Decidable (∀ row ∈ accountRows report.chartAccountCode rows,
    ∀ kind ∈ report.kindOfJournal rows row.journalReference, _))

variable {report rows}

omit [DecidableEq κ] in
theorem dropped_of_oneSided (h : report.OneSided rows) : report.dropped rows = 0 := by
  refine total_eq_zero fun row hrow => ?_
  have hkind := h row hrow
  unfold droppedOf
  cases hof : report.kindOfJournal rows row.journalReference with
  | none => rfl
  | some kind =>
    have hzero := hkind kind hof
    dsimp only
    split
    · next hcredit =>
      rw [if_pos hcredit] at hzero
      rw [hzero]
      rfl
    · next hdebit =>
      rw [if_neg hdebit] at hzero
      rw [hzero]
      rfl

end MovementReport

theorem contextRound_pos {z : ℤ} (h : 0 < z) : 0 < contextRound z := roundDec_pos (by decide) h

theorem amountsOn_nonneg (code : String) (amount : MovementRow → ℕ) (rows : List MovementRow) :
    ∀ x ∈ amountsOn code amount rows, 0 ≤ x :=
  List.forall_mem_map.mpr fun _ _ => Int.natCast_nonneg _

/-- A side of a journal is zero on the account when each of its lines is. -/
theorem runningSum_amountsOn_eq_zero_iff (code : String) (amount : MovementRow → ℕ)
    (rows : List MovementRow) :
    runningSum contextRound 0 (amountsOn code amount rows) = 0 ↔
      ∀ row ∈ accountRows code rows, amount row = 0 := by
  rw [runningSum_eq_zero_iff (fun _ => contextRound_pos) (roundDec_zero _) le_rfl
    (amountsOn_nonneg code amount rows), and_iff_right rfl, amountsOn, List.forall_mem_map]
  refine forall₂_congr fun row _ => ?_
  exact Int.natCast_eq_zero

/-- A bucket tells the kind of its journal, and its sides are zero when those of the lines are. -/
theorem bucket_sides {κ : Type} (report : MovementReport κ) (rows : List MovementRow)
    {journalReference : String} {bucket : MovementBucket}
    (h : (movementBuckets contextRound report.chartAccountCode rows).get? journalReference =
      some bucket) :
    report.kindOf bucket = report.kindOfJournal rows journalReference ∧
      ∀ counts : Bool, (if counts then bucket.debitAmount else bucket.creditAmount) = 0 ↔
        ∀ row ∈ accountRows report.chartAccountCode rows, row.journalReference = journalReference →
          (if counts then row.debitAmount else row.creditAmount) = 0 := by
  rw [movementBuckets, Dict.get?_accumulate, bucket_eq, Option.map_eq_some_iff] at h
  obtain ⟨first, hfirst, rfl⟩ := h
  refine ⟨?_, fun counts => ?_⟩
  · rw [MovementReport.kindOfJournal, hfirst]
    rfl
  · have hside : ∀ amount : MovementRow → ℕ,
        runningSum contextRound 0 (amountsOn report.chartAccountCode amount
            (rows.filter fun row => row.journalReference = journalReference)) = 0 ↔
          ∀ row ∈ accountRows report.chartAccountCode rows, row.journalReference = journalReference →
            amount row = 0 := by
      intro amount
      rw [runningSum_amountsOn_eq_zero_iff, accountRows_filter]
      simp only [List.mem_filter, decide_eq_true_eq, and_imp]
    cases counts with
    | true => exact hside MovementRow.debitAmount
    | false => exact hside MovementRow.creditAmount

theorem dropsNothing_iff {κ : Type} (report : MovementReport κ) (rows : List MovementRow) :
    report.DropsNothing rows ↔ report.OneSided rows := by
  unfold MovementReport.DropsNothing MovementReport.OneSided
  constructor
  · intro h row hrow kind hkind
    have hkey : row.journalReference ∈
        (movementBuckets contextRound report.chartAccountCode rows).keys :=
      (Dict.mem_keys_accumulate _ _ _).mpr ⟨row, (List.mem_filter.mp hrow).1, rfl⟩
    obtain ⟨bucket, hget⟩ := (Dict.mem_keys_iff _ _).mp hkey
    obtain ⟨hof, hside⟩ := bucket_sides report rows hget
    have hzero := h bucket ((Dict.mem_values_iff _ _).mpr ⟨_, hget⟩) kind (hof.trans hkind)
    exact (hside _).mp hzero row hrow rfl
  · intro h bucket hbucket kind hkind
    obtain ⟨journalReference, hget⟩ := (Dict.mem_values_iff _ _).mp hbucket
    obtain ⟨hof, hside⟩ := bucket_sides report rows hget
    refine (hside _).mpr fun row hrow hreference => h row hrow kind ?_
    rw [hreference, ← hof]
    exact hkind

/-! ## Rows of a read -/

variable {dep}

theorem movementScope_ok {κ : Type} {report : MovementReport κ} {t : Tables}
    {request : MovementRequest} {scope : LegalEntityRecord × AccountingBook × FiscalPeriod}
    (h : movementScope dep report t request = .ok scope) {entity : LegalEntityRecord}
    {book : AccountingBook} {period : FiscalPeriod}
    (hscope : dep.loadScope request.legalEntityReference request.accountingBookReference
      ("the " ++ report.readName ++ " read") = .ok (entity, book))
    (hperiod : periodByCode dep t request.periodCode = some period) :
    scope = (entity, book, period) := by
  simp only [movementScope, bind_eq_ok, pure_eq_ok, hscope, Except.ok.injEq, requireFiscalPeriod,
    fetch_eq_ok, hperiod, Option.some.injEq] at h
  obtain ⟨-, -, -, -, -, -, _, rfl, _, rfl, rfl⟩ := h
  rfl

theorem shownMovement_getD (amount : ℤ) : (shownMovement amount).getD 0 = amount := by
  unfold shownMovement
  split
  · next h => exact h.symm
  · rfl

/-- The rows of a read add up what its lines add up. -/
theorem total_movementRows {M : Type} [AddCommMonoid M] (t : Tables) (lines : List LedgerLine)
    (code : String) (f : MovementRow → M) (g : LedgerLine → M)
    (hfg : ∀ row : LedgerLine, f (row.movementRow t) = g row) :
    total f (accountRows code (movementRows dep t lines)) =
      total g (lines.filter fun row => row.code = code) := by
  unfold accountRows movementRows
  rw [total_perm ((List.perm_insertionSort _ _).filter _), List.filter_map, total_map]
  exact total_congr fun row _ => hfg row

theorem total_sides_rows (t : Tables) (lines : List LedgerLine) (code : String) :
    total MovementRow.sides (accountRows code (movementRows dep t lines)) =
      total (fun row => row.debit + row.credit) (lines.filter fun row => row.code = code) :=
  total_movementRows t lines code _ _ fun _ => rfl

theorem total_net_rows (t : Tables) (lines : List LedgerLine) (code : String) :
    total MovementRow.net (accountRows code (movementRows dep t lines)) =
      total lineNet (lines.filter fun row => row.code = code) :=
  total_movementRows t lines code _ _ fun _ => rfl

/-- The request of the samples. -/
def januaryMovements : MovementRequest :=
  ⟨"urn:cwl:legal_entity:e1", "urn:cwl:book:b1", "2024-01"⟩

end AccountingPlatform.Postgres
