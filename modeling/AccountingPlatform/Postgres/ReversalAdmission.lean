/-
  Which reversals the ledger admits.

  A reversal is admitted three times: by the status of the calendar row, by the trigger that
  reads the row of the journal's own book and the role of the session, and by the trigger that
  asks for a receipt of the original. Every other check of the command is a check of its
  request, so `admitReversal` alone decides an otherwise valid one.
-/
import AccountingPlatform.Postgres.BookReads
import AccountingPlatform.Postgres.Postings

namespace AccountingPlatform.Postgres

open AccountingPlatform.Lib AccountingPlatform.Core

open PostingLedger (ReversalRequest)

variable {dep : Deployment}

/-! ## Opposite rows -/

/-- The opposite of a line that was inserted can be inserted. -/
theorem insertJournalLine_opposite_ok {bookId : ℕ} {line : PostedJournalLine}
    {row : JournalEntryLine} (h : insertJournalLine dep bookId line = .ok row) :
    insertJournalLine dep bookId line.opposite = .ok row.opposite := by
  simp only [insertJournalLine, bind_eq_ok, fetch_eq_ok, require_eq_ok, pure_eq_ok] at h ⊢
  obtain ⟨account, haccount, _, hnumber, _, ⟨hdebit, hcredit⟩, _, hpositive, _, hside, rfl⟩ := h
  exact ⟨account, haccount, (), hnumber, (), ⟨hcredit, hdebit⟩, (), hpositive, (),
    hside.symm.imp And.symm And.symm, rfl⟩

/-- The opposites of stored rows can be inserted. -/
theorem insertJournalLines_opposite_ok {bookId : ℕ} {rows : List JournalEntryLine}
    (hrows : ∀ row ∈ rows, ∃ line, insertJournalLine dep bookId line = .ok row) :
    tryMap (insertJournalLine dep bookId) ((rows.filterMap fun row =>
      (dep.chartAccount? row.chartAccountId).map fun account =>
        ⟨row.lineNumber, account.chartAccountCode, row.accountRoleCode, row.debitAmount,
          row.creditAmount⟩).map PostedJournalLine.opposite) =
      .ok (rows.map JournalEntryLine.opposite) := by
  induction rows with
  | nil => rfl
  | cons row rows ih =>
    obtain ⟨line, hline⟩ := hrows row List.mem_cons_self
    simp only [List.filterMap_cons, insertJournalLine_reads hline, List.map_cons, tryMap,
      insertJournalLine_opposite_ok hline, ih fun r hr => hrows r (List.mem_cons_of_mem _ hr), ok_bind]
    rfl

theorem total_debit_opposite (rows : List JournalEntryLine) :
    total JournalEntryLine.debitAmount (rows.map JournalEntryLine.opposite) =
      total JournalEntryLine.creditAmount rows := total_map _ _ _

theorem total_credit_opposite (rows : List JournalEntryLine) :
    total JournalEntryLine.creditAmount (rows.map JournalEntryLine.opposite) =
      total JournalEntryLine.debitAmount rows := total_map _ _ _

/-- What the deferred balance check sees of the opposite of a stored journal. -/
theorem JournalFacts.opposite_balanced {periods : List FiscalPeriod} {journal : GeneralJournal}
    (h : JournalFacts dep periods journal) :
    assertJournalBalance (journal.orderedLines.map JournalEntryLine.opposite) = .ok () := by
  have hperm : journal.orderedLines.Perm journal.lines := List.perm_insertionSort _ _
  simp only [assertJournalBalance, total_debit_opposite, total_credit_opposite, total_perm hperm]
  rw [require_of h.totals.symm, ok_bind]
  refine require_of ⟨fun hnil => h.given ?_, h.balanced.symm⟩ _
  rw [List.map_eq_nil_iff] at hnil
  exact (hnil ▸ hperm).symm.eq_nil

/-! ## Admission -/

variable (dep) in
/-- The checks of `reverse` and of the triggers that read the period and the receipt. -/
def admitReversal (t : Tables) (original : GeneralJournal) (reversalDate : Date) :
    Result FiscalPeriod := do
  let period ← requireAdjustingPeriodBounds dep t reversalDate
  guardPeriodInsert dep t original.accountingBookId period.fiscalPeriodId .reversal
  require (∃ receipt ∈ t.postingReceipts, receipt.generalJournalId = original.generalJournalId)
    checkViolation
  pure period

variable (dep) in
/-- A reversal of an unreversed original that passes every check of its request. -/
structure OtherwiseReversible (t : Tables) (request : ReversalRequest) (policy : AccountingPolicy)
    (original : GeneralJournal) : Prop where
  reason : requireCode request.reversalReasonCode "reversal reason code" = .ok ()
  key_given : request.commandKey ≠ ""
  key_fresh : t.proposalRecordByKey request.commandKey = none
  original_eq : reversibleJournal dep t request policy = .ok original
  unreversed : ∀ r ∈ t.reversals, r.originalJournalId ≠ original.generalJournalId
  unoccupied : t.journalByReference (request.journalReference ++ ":reversal") = none

theorem functionalCurrency_matches (policy : AccountingPolicy) :
    matchesCurrency policy.functionalCurrency = true := by
  have h := policy.accepted
  simp only [AccountingPolicyFields.postInit, requireCurrency, bind_eq_ok, require_eq_ok] at h
  obtain ⟨-, -, -, -, -, -, -, -, -, -, -, hfunctional, -⟩ := h
  exact hfunctional

theorem existingReversal_of_unreversed {t : Tables} {reference : String} {original : GeneralJournal}
    (horiginal : t.journalByReference reference = some original)
    (hno : ∀ r ∈ t.reversals, r.originalJournalId ≠ original.generalJournalId) :
    existingReversal t reference = none := by
  have hlineage : reversalOf? t original.generalJournalId = none :=
    List.find?_eq_none.mpr fun r hr => by simpa using hno r hr
  unfold existingReversal
  rw [horiginal]
  show (reversalOf? t original.generalJournalId).bind _ = none
  rw [hlineage]
  rfl

variable (dep) in
/-- The tables with the record of a reversal. -/
def withReversalRecord (t : Tables) (request : ReversalRequest) : Tables :=
  { t with
    proposalRecords := t.proposalRecords ++ [(reversalRecord dep t request).row t]
    nextId := t.nextId + 1 }

variable (dep) in
/-- The journal of a reversal. -/
def reversalJournalRow (t : Tables) (request : ReversalRequest) (policy : AccountingPolicy)
    (original : GeneralJournal) (period : FiscalPeriod) : GeneralJournal :=
  (newReversalJournal dep request policy original period t.nextId).row
    (withReversalRecord dep t request) (original.orderedLines.map JournalEntryLine.opposite)

variable (dep) in
/-- The tables with the record and the journal of a reversal. -/
def withReversalJournal (t : Tables) (request : ReversalRequest) (policy : AccountingPolicy)
    (original : GeneralJournal) (period : FiscalPeriod) : Tables :=
  { withReversalRecord dep t request with
    journals := t.journals ++ [reversalJournalRow dep t request policy original period]
    nextId := t.nextId + 2 }

section
variable {t : Tables} {request : ReversalRequest} {policy : AccountingPolicy}
  {original : GeneralJournal}

/-- The insert of a reversal journal is decided by its guard. -/
theorem insertReversalJournal_eq (hwf : WellFormed dep t) (hmem : original ∈ t.journals)
    (hfree : t.journalByReference (request.journalReference ++ ":reversal") = none)
    (period : FiscalPeriod) :
    insertJournal dep (withReversalRecord dep t request)
        (newReversalJournal dep request policy original period t.nextId) =
      guardPeriodInsert dep t original.accountingBookId period.fiscalPeriodId .reversal >>= fun _ =>
        .ok (reversalJournalRow dep t request policy original period,
          withReversalJournal dep t request policy original period) := by
  have hfacts := hwf.facts original hmem
  have hperm : original.orderedLines.Perm original.lines := List.perm_insertionSort _ _
  have hrows : tryMap (insertJournalLine dep original.accountingBookId)
      ((loadLines dep original).map PostedJournalLine.opposite) =
        .ok (original.orderedLines.map JournalEntryLine.opposite) := by
    refine insertJournalLines_opposite_ok fun row hrow => ?_
    obtain ⟨posted, hposted⟩ := hfacts.lines
    obtain ⟨line, -, hline⟩ := mem_tryMap hposted (hperm.mem_iff.mp hrow)
    exact ⟨line, hline⟩
  have hfresh : ∀ j ∈ t.journals, j.journalReference ≠ request.journalReference ++ ":reversal" :=
    fun j hj heq => List.find?_eq_none.mp hfree j hj (decide_eq_true heq)
  have hnumbers : ((original.orderedLines.map JournalEntryLine.opposite).map
      JournalEntryLine.lineNumber).Nodup := by
    rw [List.map_map]
    exact (hperm.map _).nodup_iff.mpr hfacts.lineNumbers
  unfold insertJournal
  show (guardPeriodInsert dep t original.accountingBookId period.fiscalPeriodId .reversal >>= _) = _
  refine congrArg _ (funext fun _ => ?_)
  show (require (matchesCurrency original.transactionCurrencyCode = true ∧
    matchesCurrency policy.functionalCurrency = true) checkViolation >>= _) = _
  rw [require_of ⟨hfacts.currency, functionalCurrency_matches policy⟩, ok_bind]
  show (require (∀ j ∈ t.journals, j.journalReference ≠ request.journalReference ++ ":reversal")
    uniqueViolation >>= _) = _
  rw [require_of hfresh, ok_bind]
  show (tryMap (insertJournalLine dep original.accountingBookId)
    ((loadLines dep original).map PostedJournalLine.opposite) >>= _) = _
  have hsources : (newReversalJournal dep request policy original period
      t.nextId).sourceEventReferences ≠ [] → matchesHash (newReversalJournal dep request policy
        original period t.nextId).sourcePayloadHash = true := fun h => absurd rfl h
  have hunique : (newReversalJournal dep request policy original period
      t.nextId).sourceEventReferences.Nodup := List.nodup_nil
  rw [hrows, ok_bind, require_of hnumbers, ok_bind, require_of hsources, ok_bind,
    require_of hunique, ok_bind, hfacts.opposite_balanced, ok_bind]
  rfl

/-- The record of a reversal under a fresh key is always inserted. -/
theorem insertReversalRecord_eq (hkept : PostingsKept t)
    (hkey : t.proposalRecordByKey request.commandKey = none) :
    insertProposalRecord t (reversalRecord dep t request) = .ok (t.nextId,
      withReversalRecord dep t request) := by
  have hexternal : ∀ r ∈ t.proposalRecords, r.externalProposalId ≠ .generated t.nextId :=
    fun r hr heq => absurd (hkept.generated_lt r hr _ heq) (Nat.lt_irrefl _)
  have hhash : matchesHash (reversalCommandHash dep request) = true := dep.digest_matches _
  have hfresh : ∀ r ∈ t.proposalRecords, r.idempotencyKey ≠ request.commandKey :=
    fun r hr heq => List.find?_eq_none.mp hkey r hr (decide_eq_true heq)
  unfold insertProposalRecord
  show (require (fitsInt4 1) outOfRange >>= _) = _
  rw [require_of (by decide), ok_bind]
  show (require ((0 : ℤ) < 1) checkViolation >>= _) = _
  rw [require_of (by decide), ok_bind]
  show (require (matchesHash (reversalCommandHash dep request) = true) checkViolation >>= _) = _
  rw [require_of hhash, ok_bind]
  show (require (∀ r ∈ t.proposalRecords, r.externalProposalId ≠ .generated t.nextId)
    uniqueViolation >>= _) = _
  rw [require_of hexternal, ok_bind]
  show (require (∀ r ∈ t.proposalRecords, r.idempotencyKey ≠ request.commandKey)
    uniqueViolation >>= _) = _
  rw [require_of hfresh, ok_bind]
  rfl

/-- The lineage of a reversal is decided by the receipt of its original. -/
theorem insertReversal_eq {t₁ : Tables} {reversal : GeneralJournal} {reasonCode : String}
    (hdates : original.accountingDate ≤ reversal.accountingDate)
    (hreceipts : ∀ r ∈ t₁.postingReceipts, r.generalJournalId ≠ reversal.generalJournalId)
    (hreversals : ∀ r ∈ t₁.reversals, r.originalJournalId ≠ original.generalJournalId ∧
      r.reversalJournalId ≠ reversal.generalJournalId)
    (hne : original.generalJournalId ≠ reversal.generalJournalId) :
    insertReversal t₁ original reversal reasonCode =
      require (∃ receipt ∈ t₁.postingReceipts, receipt.generalJournalId = original.generalJournalId)
        checkViolation >>= fun _ => .ok { t₁ with reversals := t₁.reversals ++
          [⟨original.generalJournalId, reversal.generalJournalId, reasonCode⟩] } := by
  unfold insertReversal
  rw [require_of hdates, ok_bind]
  refine congrArg _ (funext fun _ => ?_)
  rw [require_of hreceipts, ok_bind, require_of hreversals, ok_bind, require_of hne, ok_bind]
  rfl

/-- Record and journal of a reversal are inserted together. -/
theorem insertRecordedReversal_eq (hwf : WellFormed dep t) (hkept : PostingsKept t)
    (hmem : original ∈ t.journals) (hkey : t.proposalRecordByKey request.commandKey = none)
    (hfree : t.journalByReference (request.journalReference ++ ":reversal") = none)
    (period : FiscalPeriod) :
    insertRecordedJournal dep t (reversalRecord dep t request)
        (newReversalJournal dep request policy original period) =
      guardPeriodInsert dep t original.accountingBookId period.fiscalPeriodId .reversal >>= fun _ =>
        .ok (t.nextId, reversalJournalRow dep t request policy original period,
          withReversalJournal dep t request policy original period) := by
  unfold insertRecordedJournal
  rw [insertReversalRecord_eq hkept hkey, ok_bind]
  show (insertJournal dep (withReversalRecord dep t request)
    (newReversalJournal dep request policy original period t.nextId) >>= _) = _
  rw [insertReversalJournal_eq hwf hmem hfree]
  cases guardPeriodInsert dep t original.accountingBookId period.fiscalPeriodId .reversal with
  | error e => rfl
  | ok _ => rfl

/-- An otherwise valid reversal ends as its admission does. -/
theorem reverse_eq_admission (hwf : WellFormed dep t) (hkept : PostingsKept t)
    (h : OtherwiseReversible dep t request policy original) :
    ∃ answer : FiscalPeriod → PostingReceipt × Tables,
      reverse dep t request policy =
        (admitReversal dep t original request.reversalDate).map answer := by
  obtain ⟨horiginal, -, hdates, -⟩ := reversibleJournal_ok dep h.original_eq
  have hmem : original ∈ t.journals := List.mem_of_find?_eq_some horiginal
  have hlt := hwf.journal_lt original hmem
  obtain ⟨record, hrecord, hid, -⟩ := hkept.provenance original hmem
  have hfound : t.proposalRecord? original.sourceProposalRecordId = some record := by
    rw [← hid]
    exact find?_of_nodup_map hkept.record_keys hrecord
  let receipt := reversalReceipt dep request policy (record.externalProposalId.text dep)
    ((loadLines dep original).map PostedJournalLine.opposite).length
  let answer (period : FiscalPeriod) : PostingReceipt × Tables :=
    let journal := reversalJournalRow dep t request policy original period
    let written := withReversalJournal dep t request policy original period
    (receipt, insertOutbox dep (insertReceipt dep { written with
        reversals := written.reversals ++ [⟨original.generalJournalId, journal.generalJournalId,
          request.reversalReasonCode⟩] } t.nextId journal.generalJournalId receipt)
      "journal_reversal" (request.journalReference ++ ":reversal") receipt.receiptReference receipt)
  refine ⟨answer, ?_⟩
  unfold reverse
  rw [h.reason, ok_bind, require_of h.key_given, ok_bind,
    existingReversal_of_unreversed horiginal h.unreversed]
  show persistFreshReversal dep t request policy = _
  unfold persistFreshReversal admitReversal
  rw [require_of h.key_fresh, ok_bind, h.original_eq, ok_bind]
  cases requireAdjustingPeriodBounds dep t request.reversalDate with
  | error e => rfl
  | ok period =>
    rw [ok_bind, ok_bind, require_of h.unoccupied, ok_bind, hfound]
    show (insertRecordedJournal dep t (reversalRecord dep t request)
      (newReversalJournal dep request policy original period) >>= _) = _
    rw [insertRecordedReversal_eq hwf hkept hmem h.key_fresh h.unoccupied]
    cases guardPeriodInsert dep t original.accountingBookId period.fiscalPeriodId .reversal with
    | error e => rfl
    | ok _ =>
      have hreceipts : ∀ r ∈ t.postingReceipts, r.generalJournalId ≠ t.nextId + 1 := by
        intro r hr heq
        obtain ⟨j, hj, hjid, -⟩ := hwf.receipted r hr
        have := hwf.journal_lt j hj
        omega
      have hreversals : ∀ r ∈ t.reversals, r.originalJournalId ≠ original.generalJournalId ∧
          r.reversalJournalId ≠ t.nextId + 1 := by
        intro r hr
        obtain ⟨⟨j, hj, hjid⟩, -⟩ := hkept.lineage r hr
        have := hwf.journal_lt j hj
        exact ⟨h.unreversed r hr, by omega⟩
      have hne : original.generalJournalId ≠ t.nextId + 1 := by omega
      rw [ok_bind, ok_bind, ok_bind]
      dsimp only
      rw [insertReversal_eq hdates hreceipts hreversals hne]
      show ((require (∃ receipt ∈ t.postingReceipts,
        receipt.generalJournalId = original.generalJournalId) checkViolation >>= _) >>= _) = _
      rcases require_cases (∃ receipt ∈ t.postingReceipts,
        receipt.generalJournalId = original.generalJournalId) checkViolation with ⟨-, hr⟩ | ⟨-, hr⟩
      · rw [hr]
        rfl
      · rw [hr]
        rfl

end

/-! ## The period and the book -/

variable (dep) in
/-- The period the ledger resolves a date to. -/
def coveringPeriod (t : Tables) (date : Date) : Option FiscalPeriod :=
  dep.fetchone (periodsCovering t date)

def HasReceipt (t : Tables) (journal : GeneralJournal) : Prop :=
  ∃ receipt ∈ t.postingReceipts, receipt.generalJournalId = journal.generalJournalId

instance decHasReceipt (t : Tables) (journal : GeneralJournal) : Decidable (HasReceipt t journal) :=
  inferInstanceAs (Decidable (∃ receipt ∈ t.postingReceipts, _))

variable (dep) in
/-- The journal's own book has not hard-closed the period of the date, and there is a receipt of
    the journal to refer to. -/
def BookAdmits (t : Tables) (original : GeneralJournal) (date : Date) : Prop :=
  ∃ period, coveringPeriod dep t date = some period ∧
    t.bookPeriodStatus original.accountingBookId period ≠ .hardClosed ∧ HasReceipt t original

variable (dep) in
/-- `AccountingValidationError`, and nothing is written. -/
def RefusedCleanly (t : Tables) (request : ReversalRequest) (policy : AccountingPolicy) : Prop :=
  (∃ e, reverse dep t request policy = .error e ∧ e.isAccountingValidation) ∧
    execute dep t (.reverse request policy) = t

variable (dep) in
/-- The reversal is admitted exactly when the original's own book admits it. -/
def AgreesWithOwnBook (t : Tables) (request : ReversalRequest) (policy : AccountingPolicy)
    (original : GeneralJournal) : Prop :=
  (BookAdmits dep t original request.reversalDate → Succeeds (reverse dep t request policy)) ∧
    (¬BookAdmits dep t original request.reversalDate → RefusedCleanly dep t request policy)

variable (dep) in
/-- The calendar row is hard-closed and the book refuses, or it is not, the book admits, and a
    session that writes into a soft-closed row may do so. -/
def CalendarFollowsBook (t : Tables) (original : GeneralJournal) (date : Date) : Prop :=
  ∀ period, coveringPeriod dep t date = some period →
    (period.periodStatus = .hardClosed ∧ ¬BookAdmits dep t original date) ∨
    (period.periodStatus ≠ .hardClosed ∧ BookAdmits dep t original date ∧
      (t.bookPeriodStatus original.accountingBookId period = .softClosed →
        dep.isClosingWriter = true))

section
variable {t : Tables} {original : GeneralJournal} {date : Date} {period : FiscalPeriod}

theorem requireAdjustingPeriodBounds_eq (hwf : WellFormed dep t)
    (hcover : coveringPeriod dep t date = some period) :
    requireAdjustingPeriodBounds dep t date = require (period.periodStatus ≠ .hardClosed)
      (.validation ("Fiscal period " ++ period.periodCode ++ " is " ++ period.periodStatus.code ++
        lockedMarker period.periodStatus ++ ". Reverse into an open or soft-closed period; " ++
        "no journal was written.")) >>= fun _ => .ok period := by
  have hperiod : t.period? period.fiscalPeriodId = some period :=
    hwf.period?_of_mem (periodsCovering_mem (dep.fetchone_mem hcover)).1
  unfold requireAdjustingPeriodBounds
  unfold coveringPeriod at hcover
  rw [hcover]
  show (fetch (t.period? period.fiscalPeriodId) _ >>= _) = _
  rw [hperiod]
  rfl

/-- The trigger admits a reversal into an open row, and into a soft-closed one by role. -/
theorem guardPeriodInsert_reversal_eq {bookId : ℕ}
    (hperiod : t.period? period.fiscalPeriodId = some period) :
    guardPeriodInsert dep t bookId period.fiscalPeriodId .reversal =
      require (t.bookPeriodStatus bookId period ≠ .hardClosed ∧
        (t.bookPeriodStatus bookId period = .softClosed → dep.isClosingWriter = true))
        checkViolation := by
  unfold guardPeriodInsert fetch
  rw [hperiod]
  dsimp only
  rw [ok_bind]
  generalize t.bookPeriodStatus bookId period = status
  cases status with
  | opened => exact (require_of ⟨by decide, fun h => nomatch h⟩ _).symm
  | hardClosed => exact (if_neg fun h => h.1 rfl).symm
  | softClosed =>
    unfold require
    refine if_congr ⟨fun h => ⟨by decide, fun _ => h.2⟩, fun h => ⟨by decide, h.2 rfl⟩⟩ rfl rfl

/-- The triggers' answer in a period that the calendar has not hard-closed. -/
theorem admitReversal_cases (hwf : WellFormed dep t)
    (hcover : coveringPeriod dep t date = some period) (hcalendar : period.periodStatus ≠ .hardClosed) :
    (BookAdmits dep t original date ∧ (t.bookPeriodStatus original.accountingBookId period =
        .softClosed → dep.isClosingWriter = true) ∧
      admitReversal dep t original date = .ok period) ∨
    (¬(BookAdmits dep t original date ∧ (t.bookPeriodStatus original.accountingBookId period =
        .softClosed → dep.isClosingWriter = true)) ∧
      admitReversal dep t original date = .error checkViolation) := by
  have hperiod : t.period? period.fiscalPeriodId = some period :=
    hwf.period?_of_mem (periodsCovering_mem (dep.fetchone_mem hcover)).1
  have hadmits : BookAdmits dep t original date ↔
      t.bookPeriodStatus original.accountingBookId period ≠ .hardClosed ∧ HasReceipt t original := by
    unfold BookAdmits
    rw [hcover]
    constructor
    · rintro ⟨_, heq, h⟩
      cases heq
      exact h
    · exact fun h => ⟨period, rfl, h⟩
  have hguards : admitReversal dep t original date =
      require (t.bookPeriodStatus original.accountingBookId period ≠ .hardClosed ∧
        (t.bookPeriodStatus original.accountingBookId period = .softClosed →
          dep.isClosingWriter = true)) checkViolation >>= fun _ =>
      require (HasReceipt t original) checkViolation >>= fun _ => .ok period := by
    unfold admitReversal
    rw [requireAdjustingPeriodBounds_eq hwf hcover, require_of hcalendar, ok_bind, ok_bind,
      guardPeriodInsert_reversal_eq hperiod]
    rfl
  rw [hadmits, hguards]
  rcases require_cases (t.bookPeriodStatus original.accountingBookId period ≠ .hardClosed ∧
    (t.bookPeriodStatus original.accountingBookId period = .softClosed → dep.isClosingWriter = true))
    checkViolation with ⟨hrow, hrequire⟩ | ⟨hrow, hrequire⟩
  · rw [hrequire, ok_bind]
    rcases require_cases (HasReceipt t original) checkViolation with ⟨hhas, heq⟩ | ⟨hno, heq⟩
    · exact Or.inl ⟨⟨hrow.1, hhas⟩, hrow.2, by rw [heq, ok_bind]⟩
    · exact Or.inr ⟨fun h => hno h.1.2, by rw [heq, error_bind]⟩
  · refine Or.inr ⟨fun h => hrow ⟨h.1.1, h.2⟩, ?_⟩
    rw [hrequire, error_bind]

end

/-! ## The whole command -/

/-- An error of the database is neither an admission nor a clean refusal. -/
theorem rawError_disagrees {t : Tables} {request : ReversalRequest} {policy : AccountingPolicy}
    {original : GeneralJournal} {e : LedgerError} (h : reverse dep t request policy = .error e)
    (hraw : ¬e.isAccountingValidation) : ¬AgreesWithOwnBook dep t request policy original := by
  rintro ⟨hsuccess, hclean⟩
  by_cases hadmits : BookAdmits dep t original request.reversalDate
  · obtain ⟨_, hok⟩ := hsuccess hadmits
    rw [h] at hok
    cases hok
  · obtain ⟨⟨e', he, hkind⟩, -⟩ := hclean hadmits
    rw [h] at he
    cases he
    exact hraw hkind

/-- January is hard-closed for the first book, after an invoice in it. -/
def closedInvoiceCommands : List Command := [
  samplePeriod "2024-01" "open-1" 738886 738916,
  sampleInvoice "urn:cwl:book:b1" "2024-01" "0f8fad5b-d9cb-469f-a165-70867728950e" "invoice-1" 738890
    1000000,
  sampleClose "urn:cwl:book:b1" "2024-01" "hard_closed"]

def invoiceReversal : ReversalRequest :=
  sampleReversal "0f8fad5b-d9cb-469f-a165-70867728950e" 738900 none

instance decOtherwiseReversible (dep : Deployment) (t : Tables) (request : ReversalRequest)
    (policy : AccountingPolicy) (original : GeneralJournal) :
    Decidable (OtherwiseReversible dep t request policy original) :=
  decidable_of_iff (requireCode request.reversalReasonCode "reversal reason code" = .ok () ∧
      request.commandKey ≠ "" ∧ t.proposalRecordByKey request.commandKey = none ∧
      reversibleJournal dep t request policy = .ok original ∧
      (∀ r ∈ t.reversals, r.originalJournalId ≠ original.generalJournalId) ∧
      t.journalByReference (request.journalReference ++ ":reversal") = none)
    ⟨fun ⟨h₁, h₂, h₃, h₄, h₅, h₆⟩ => ⟨h₁, h₂, h₃, h₄, h₅, h₆⟩,
      fun h => ⟨h.reason, h.key_given, h.key_fresh, h.original_eq, h.unreversed, h.unoccupied⟩⟩

end AccountingPlatform.Postgres
