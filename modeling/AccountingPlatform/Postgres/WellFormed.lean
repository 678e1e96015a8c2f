/-
  What every reachable state of the tables satisfies.

  Journals are dated inside their period, belong to a book of their entity and balance; a
  snapshot is frozen at the journals its close saw; a control row is hard-closed exactly when
  its book has a snapshot of the period. One lemma a kind of change shows that the change keeps
  all of this.
-/
import AccountingPlatform.Postgres.BookControls

namespace AccountingPlatform.Postgres

open AccountingPlatform.Lib AccountingPlatform.Core

variable (dep : Deployment)

/-! ## Journal references -/

/-- A reference that starts with the journal reference of a proposal. -/
def FromProposal (journalReference : String) : Prop :=
  ∃ id, matchesProposalId id = true ∧
    (PostingLedger.generalJournalReference id).toList <+: journalReference.toList

theorem matchesLikePrefix_append (ps cs ds : List Char) :
    matchesLikePrefix (cs ++ ps) (cs ++ ds) = matchesLikePrefix ps ds := by
  induction cs with
  | nil => rfl
  | cons c cs ih => simp [matchesLikePrefix, ih]

/-- No pattern character but an underscore matches another character. -/
theorem matchesLikePrefix_of_ne {p c : Char} (hp : p ≠ '_') (hc : p ≠ c) (ps cs : List Char) :
    matchesLikePrefix (p :: ps) (c :: cs) = false := by
  simp [matchesLikePrefix, hp, hc]

/-- `journal` and `period_closing` as the two parts of the pattern. -/
theorem closingJournalPattern_toList : closingJournalPattern.toList =
    "urn:cwl:accounting:general_journal:".toList ++ 'p' :: "eriod_closing:".toList := by
  decide +kernel

theorem generalJournalReference_toList (id : String) :
    (PostingLedger.generalJournalReference id).toList =
      "urn:cwl:accounting:general_journal:".toList ++ id.toList :=
  String.toList_append

/-- A UUID does not start with the `p` of `period_closing`. -/
theorem proposalReference_not_closing {id : String} (hid : matchesProposalId id = true)
    (rest : List Char) :
    matchesLikePrefix closingJournalPattern.toList
      ((PostingLedger.generalJournalReference id).toList ++ rest) = false := by
  rw [closingJournalPattern_toList, generalJournalReference_toList, List.append_assoc,
    matchesLikePrefix_append]
  unfold matchesProposalId at hid
  generalize id.toList = cs at hid ⊢
  cases cs with
  | nil => cases hid
  | cons c cs =>
    have hc : isHex c = true ∨ c = '-' := hexGroups_chars _ _ hid c List.mem_cons_self
    refine matchesLikePrefix_of_ne (by decide) ?_ _ _
    rintro rfl
    revert hc
    decide

theorem FromProposal.not_closing {journalReference : String} (h : FromProposal journalReference) :
    isClosingReference journalReference = false := by
  obtain ⟨id, hid, rest, hrest⟩ := h
  rw [isClosingReference, ← hrest]
  exact proposalReference_not_closing hid rest

theorem closingReference_eq (request : CloseRequest) : closingReference request =
    closingJournalPattern ++ request.periodCode ++ ":" ++ request.accountingBookReference := rfl

theorem closingReference_closing (request : CloseRequest) :
    isClosingReference (closingReference request) = true := by
  rw [isClosingReference, closingReference_eq, String.toList_append, String.toList_append,
    String.toList_append, List.append_assoc, List.append_assoc]
  have happ := matchesLikePrefix_append [] closingJournalPattern.toList
    (request.periodCode.toList ++ (":".toList ++ request.accountingBookReference.toList))
  rw [List.append_nil] at happ
  rw [happ, matchesLikePrefix]

/-! ## Journals -/

/-- What the write paths check of a journal, whatever is written later. -/
structure JournalFacts (periods : List FiscalPeriod) (journal : GeneralJournal) : Prop where
  dated : ∃ p ∈ periods, p.fiscalPeriodId = journal.fiscalPeriodId ∧
    p.periodStartDate ≤ journal.accountingDate ∧ journal.accountingDate ≤ p.periodEndDate
  scope : ∃ book ∈ dep.catalog.books, book.accountingBookId = journal.accountingBookId ∧
    book.legalEntityId = journal.legalEntityId
  currency : matchesCurrency journal.transactionCurrencyCode = true
  lines : ∃ posted, tryMap (insertJournalLine dep journal.accountingBookId) posted = .ok journal.lines
  lineNumbers : (journal.lines.map JournalEntryLine.lineNumber).Nodup
  totals : fitsNumeric (total JournalEntryLine.debitAmount journal.lines) ∧
    fitsNumeric (total JournalEntryLine.creditAmount journal.lines)
  given : journal.lines ≠ []
  balanced : total JournalEntryLine.debitAmount journal.lines =
    total JournalEntryLine.creditAmount journal.lines

/-- A journal the tables admit now. -/
structure Admitted (t : Tables) (journal : GeneralJournal) : Prop where
  facts : JournalFacts dep t.fiscalPeriods journal
  postedAt : journal.postedAt = t.clock
  fresh : ∀ j ∈ t.journals, j.journalReference ≠ journal.journalReference
  unlocked : ∃ period, t.period? journal.fiscalPeriodId = some period ∧
    t.bookPeriodStatus journal.accountingBookId period ≠ .hardClosed

/-- A journal and its proposal record, appended; periods, controls and snapshots as before. -/
structure Written (t : Tables) (record : ProposalRecord) (journal : GeneralJournal)
    (t' : Tables) : Prop where
  admitted : Admitted dep t journal
  record_id : record.proposalRecordId = t.nextId
  journal_id : journal.generalJournalId = t.nextId + 1
  record_of : journal.sourceProposalRecordId = t.nextId
  key_fresh : ∀ r ∈ t.proposalRecords, r.idempotencyKey ≠ record.idempotencyKey
  fiscalPeriods : t'.fiscalPeriods = t.fiscalPeriods
  controls : t'.bookPeriodControls = t.bookPeriodControls
  snapshots : t'.snapshots = t.snapshots
  records : t'.proposalRecords = t.proposalRecords ++ [record]
  journals : t'.journals = t.journals ++ [journal]
  reversals : t.reversals <+: t'.reversals
  referenced : FromProposal journal.journalReference ∨ isClosingReference journal.journalReference = true
  receipts : ∀ r ∈ t'.postingReceipts, r ∈ t.postingReceipts ∨
    (r.generalJournalId = journal.generalJournalId ∧ FromProposal journal.journalReference)
  nextId : t'.nextId = t.nextId + 2
  clock : t'.clock = t.clock

/-! ## Snapshots -/

/-- Journals of a book dated through a day and posted by a moment. -/
def journalsAsOf (t : Tables) (legalEntityId bookId : ℕ) (throughDate : Date) (asOf : Timestamp) :
    List GeneralJournal :=
  (bookJournals t legalEntityId bookId).filter fun journal =>
    journal.accountingDate ≤ throughDate ∧ journal.postedAt ≤ asOf

/-- The rows a snapshot was taken of. -/
def snapshotRows (t : Tables) (snapshot : TrialBalanceSnapshot) (throughDate : Date) :
    List BalanceRow :=
  balanceRows dep (ledgerLines dep (journalsAsOf t snapshot.legalEntityId snapshot.accountingBookId
    throughDate snapshot.snapshotGeneratedAt))

structure SnapshotsKept (t : Tables) : Prop where
  before : ∀ s ∈ t.snapshots, s.snapshotGeneratedAt < t.clock
  unique : ∀ s ∈ t.snapshots, ∀ s' ∈ t.snapshots, s'.accountingBookId = s.accountingBookId →
    s'.fiscalPeriodId = s.fiscalPeriodId → s' = s
  scope : ∀ s ∈ t.snapshots, ∃ book ∈ dep.catalog.books,
    book.accountingBookId = s.accountingBookId ∧ book.legalEntityId = s.legalEntityId
  locked : ∀ s ∈ t.snapshots, ∃ c ∈ t.bookPeriodControls,
    c.IsFor s.accountingBookId s.fiscalPeriodId ∧ c.periodStatus = .hardClosed
  backed : ∀ c ∈ t.bookPeriodControls, c.periodStatus = .hardClosed →
    ∃ s ∈ t.snapshots, c.IsFor s.accountingBookId s.fiscalPeriodId
  frozen : ∀ s ∈ t.snapshots, ∀ p ∈ t.fiscalPeriods, p.fiscalPeriodId = s.fiscalPeriodId →
    s.lines = (snapshotRows dep t s p.periodEndDate).map snapshotLine ∧
    s.sourceJournalCount = (journalsAsOf t s.legalEntityId s.accountingBookId p.periodEndDate
      s.snapshotGeneratedAt).length

/-! ## Well-formed tables -/

structure WellFormed (t : Tables) : Prop where
  period_keys : (t.fiscalPeriods.map FiscalPeriod.fiscalPeriodId).Nodup
  period_lt : ∀ p ∈ t.fiscalPeriods, p.fiscalPeriodId < t.nextId
  code_keys : (t.fiscalPeriods.map FiscalPeriod.periodCode).Nodup
  journal_keys : (t.journals.map GeneralJournal.generalJournalId).Nodup
  journal_lt : ∀ j ∈ t.journals, j.generalJournalId < t.nextId
  reference_keys : (t.journals.map GeneralJournal.journalReference).Nodup
  facts : ∀ j ∈ t.journals, JournalFacts dep t.fiscalPeriods j
  posted_by : ∀ j ∈ t.journals, j.postedAt ≤ t.clock
  referenced : ∀ j ∈ t.journals,
    FromProposal j.journalReference ∨ isClosingReference j.journalReference = true
  receipted : ∀ r ∈ t.postingReceipts, ∃ j ∈ t.journals,
    j.generalJournalId = r.generalJournalId ∧ FromProposal j.journalReference
  controls : ControlsKept dep t.fiscalPeriods t.bookPeriodControls
  snapshots : SnapshotsKept dep t

variable {dep}

theorem wellFormed_empty : WellFormed dep Tables.empty where
  period_keys := List.nodup_nil
  period_lt := fun _ h => nomatch h
  code_keys := List.nodup_nil
  journal_keys := List.nodup_nil
  journal_lt := fun _ h => nomatch h
  reference_keys := List.nodup_nil
  facts := fun _ h => nomatch h
  posted_by := fun _ h => nomatch h
  referenced := fun _ h => nomatch h
  receipted := fun _ h => nomatch h
  controls := controlsKept_nil
  snapshots := by constructor <;> simp [Tables.empty]

/-! ## Consequences -/

theorem WellFormed.period?_of_mem {t : Tables} (h : WellFormed dep t) {p : FiscalPeriod}
    (hp : p ∈ t.fiscalPeriods) : t.period? p.fiscalPeriodId = some p :=
  find?_of_nodup_map h.period_keys hp

theorem WellFormed.periodByCode_of_mem {t : Tables} (h : WellFormed dep t) {p : FiscalPeriod}
    (hp : p ∈ t.fiscalPeriods) : periodByCode dep t p.periodCode = some p := by
  refine dep.fetchone_unique (by simp [hp]) fun q hq => ?_
  simp only [List.mem_filter, decide_eq_true_eq] at hq
  exact List.inj_on_of_nodup_map h.code_keys hq.1 hp hq.2

theorem WellFormed.bookPeriodStatus_eq {t : Tables} (h : WellFormed dep t) {c : BookPeriodControl}
    (hc : c ∈ t.bookPeriodControls) {p : FiscalPeriod} {bookId : ℕ}
    (hfor : c.IsFor bookId p.fiscalPeriodId) : t.bookPeriodStatus bookId p = c.periodStatus := by
  simp only [Tables.bookPeriodStatus, find_control h.controls.unique hc hfor]

/-- A period the book has hard-closed has a hard-closed row: the calendar row alone cannot be
    ahead of the book. -/
theorem WellFormed.hardClosed_row {t : Tables} (h : WellFormed dep t) {p : FiscalPeriod}
    (hp : p ∈ t.fiscalPeriods) {book : AccountingBook} (hbook : book ∈ dep.catalog.books)
    (hcurrent : book.isCurrent = true) :
    t.bookPeriodStatus book.accountingBookId p = .hardClosed ↔
      ∃ c ∈ t.bookPeriodControls, c.IsFor book.accountingBookId p.fiscalPeriodId ∧
        c.periodStatus = .hardClosed := by
  constructor
  · intro hs
    unfold Tables.bookPeriodStatus at hs
    split at hs
    · next c hc =>
      obtain ⟨hmem, hfor⟩ := find_control_mem hc
      exact ⟨c, hmem, hfor, hs⟩
    · next hnone =>
      rcases h.controls.aggregated p hp with ⟨-, hopen⟩ | ⟨hall, -⟩
      · rw [hopen] at hs
        cases hs
      · obtain ⟨c, hc, hfor⟩ := hall book hbook hcurrent
        rw [find_control h.controls.unique hc hfor] at hnone
        cases hnone
  · rintro ⟨c, hc, hfor, hs⟩
    rw [h.bookPeriodStatus_eq hc hfor, hs]

/-! ## Changes that keep them -/

theorem nodup_concat_map {α β : Type} {f : α → β} {xs : List α} {x : α} (h : (xs.map f).Nodup)
    (hx : ∀ y ∈ xs, f y ≠ f x) : ((xs ++ [x]).map f).Nodup := by
  rw [List.map_append, List.map_singleton, List.nodup_append]
  refine ⟨h, List.nodup_singleton _, ?_⟩
  intro a ha b hb
  obtain ⟨y, hy, rfl⟩ := List.mem_map.mp ha
  rw [List.mem_singleton] at hb
  rw [hb]
  exact hx y hy

theorem journalsAsOf_congr {t t' : Tables} (hj : t'.journals = t.journals) (legalEntityId bookId : ℕ)
    (throughDate : Date) (asOf : Timestamp) :
    journalsAsOf t' legalEntityId bookId throughDate asOf =
      journalsAsOf t legalEntityId bookId throughDate asOf := by
  simp only [journalsAsOf, bookJournals, hj]

/-- Tables that agree on the rows the invariant speaks about. -/
theorem WellFormed.congr {t t' : Tables} (h : WellFormed dep t)
    (hperiods : t'.fiscalPeriods = t.fiscalPeriods)
    (hcontrols : t'.bookPeriodControls = t.bookPeriodControls)
    (hjournals : t'.journals = t.journals) (hsnapshots : t'.snapshots = t.snapshots)
    (hreceipts : t'.postingReceipts = t.postingReceipts) (hid : t.nextId ≤ t'.nextId)
    (hclock : t.clock ≤ t'.clock) : WellFormed dep t' where
  period_keys := by rw [hperiods]; exact h.period_keys
  period_lt := by rw [hperiods]; exact fun p hp => (h.period_lt p hp).trans_le hid
  code_keys := by rw [hperiods]; exact h.code_keys
  journal_keys := by rw [hjournals]; exact h.journal_keys
  journal_lt := by rw [hjournals]; exact fun j hj => (h.journal_lt j hj).trans_le hid
  reference_keys := by rw [hjournals]; exact h.reference_keys
  facts := by rw [hjournals, hperiods]; exact h.facts
  posted_by := by rw [hjournals]; exact fun j hj => (h.posted_by j hj).trans hclock
  referenced := by rw [hjournals]; exact h.referenced
  receipted := by rw [hjournals, hreceipts]; exact h.receipted
  controls := by rw [hperiods, hcontrols]; exact h.controls
  snapshots := {
    before := by rw [hsnapshots]; exact fun s hs => (h.snapshots.before s hs).trans_le hclock
    unique := by rw [hsnapshots]; exact h.snapshots.unique
    scope := by rw [hsnapshots]; exact h.snapshots.scope
    locked := by rw [hsnapshots, hcontrols]; exact h.snapshots.locked
    backed := by rw [hsnapshots, hcontrols]; exact h.snapshots.backed
    frozen := by
      rw [hsnapshots, hperiods]
      simp only [snapshotRows, journalsAsOf_congr hjournals]
      exact h.snapshots.frozen }

/-- A snapshot does not see a journal that is posted after it. -/
theorem journalsAsOf_write {t t' : Tables} {journal : GeneralJournal}
    (hj : t'.journals = t.journals ++ [journal]) {legalEntityId bookId : ℕ} {throughDate : Date}
    {asOf : Timestamp} (hlate : asOf < journal.postedAt) :
    journalsAsOf t' legalEntityId bookId throughDate asOf =
      journalsAsOf t legalEntityId bookId throughDate asOf := by
  have hnot : ¬journal.postedAt ≤ asOf := Nat.not_le.mpr hlate
  simp only [journalsAsOf, bookJournals, hj, List.filter_append, List.filter_filter]
  refine (congrArg _ (List.filter_eq_nil_iff.mpr fun j hmem => ?_)).trans (List.append_nil _)
  rw [List.mem_singleton] at hmem
  subst hmem
  simp [hnot]

theorem WellFormed.write {t t' : Tables} (h : WellFormed dep t) {record : ProposalRecord}
    {journal : GeneralJournal} (hw : Written dep t record journal t') : WellFormed dep t' where
  period_keys := by rw [hw.fiscalPeriods]; exact h.period_keys
  period_lt := by
    rw [hw.fiscalPeriods, hw.nextId]
    intro p hp
    have := h.period_lt p hp
    omega
  code_keys := by rw [hw.fiscalPeriods]; exact h.code_keys
  journal_keys := by
    rw [hw.journals]
    refine nodup_concat_map h.journal_keys fun j hj => ?_
    have := h.journal_lt j hj
    rw [hw.journal_id]
    omega
  journal_lt := by
    rw [hw.journals, hw.nextId]
    intro j hj
    rcases List.mem_append.mp hj with hj | hj
    · have := h.journal_lt j hj
      omega
    · rw [List.mem_singleton.mp hj, hw.journal_id]
      omega
  reference_keys := by
    rw [hw.journals]
    exact nodup_concat_map h.reference_keys hw.admitted.fresh
  facts := by
    rw [hw.journals, hw.fiscalPeriods]
    intro j hj
    rcases List.mem_append.mp hj with hj | hj
    · exact h.facts j hj
    · rw [List.mem_singleton.mp hj]
      exact hw.admitted.facts
  posted_by := by
    rw [hw.journals, hw.clock]
    intro j hj
    rcases List.mem_append.mp hj with hj | hj
    · exact h.posted_by j hj
    · rw [List.mem_singleton.mp hj, hw.admitted.postedAt]
  referenced := by
    rw [hw.journals]
    intro j hj
    rcases List.mem_append.mp hj with hj | hj
    · exact h.referenced j hj
    · rw [List.mem_singleton.mp hj]
      exact hw.referenced
  receipted := by
    rw [hw.journals]
    intro r hr
    rcases hw.receipts r hr with hr | ⟨hid, hfrom⟩
    · obtain ⟨j, hj, hjr⟩ := h.receipted r hr
      exact ⟨j, List.mem_append_left _ hj, hjr⟩
    · exact ⟨journal, List.mem_append_right _ (List.mem_singleton.mpr rfl), hid.symm, hfrom⟩
  controls := by rw [hw.fiscalPeriods, hw.controls]; exact h.controls
  snapshots := {
    before := by rw [hw.snapshots, hw.clock]; exact h.snapshots.before
    unique := by rw [hw.snapshots]; exact h.snapshots.unique
    scope := by rw [hw.snapshots]; exact h.snapshots.scope
    locked := by rw [hw.snapshots, hw.controls]; exact h.snapshots.locked
    backed := by rw [hw.snapshots, hw.controls]; exact h.snapshots.backed
    frozen := by
      rw [hw.snapshots, hw.fiscalPeriods]
      intro s hs p hp hid
      have hlate : s.snapshotGeneratedAt < journal.postedAt := by
        rw [hw.admitted.postedAt]
        exact h.snapshots.before s hs
      simp only [snapshotRows, journalsAsOf_write hw.journals hlate]
      exact h.snapshots.frozen s hs p hp hid }

theorem JournalFacts.more_periods {periods : List FiscalPeriod} {journal : GeneralJournal}
    (h : JournalFacts dep periods journal) {periods' : List FiscalPeriod}
    (hsub : ∀ p ∈ periods, ∃ q ∈ periods', q.fiscalPeriodId = p.fiscalPeriodId ∧
      q.periodStartDate = p.periodStartDate ∧ q.periodEndDate = p.periodEndDate) :
    JournalFacts dep periods' journal where
  dated := by
    obtain ⟨p, hp, hid, hle, hge⟩ := h.dated
    obtain ⟨q, hq, hqid, hstart, hend⟩ := hsub p hp
    exact ⟨q, hq, hqid.trans hid, hstart.symm ▸ hle, hend.symm ▸ hge⟩
  scope := h.scope
  currency := h.currency
  lines := h.lines
  lineNumbers := h.lineNumbers
  totals := h.totals
  given := h.given
  balanced := h.balanced

theorem WellFormed.openPeriod {t t' : Tables} (h : WellFormed dep t) {period : FiscalPeriod}
    (hid : period.fiscalPeriodId = t.nextId) (hopen : period.periodStatus = .opened)
    (hcode : ∀ p ∈ t.fiscalPeriods, p.periodCode ≠ period.periodCode)
    (ht : t' = { t with fiscalPeriods := t.fiscalPeriods ++ [period], nextId := t.nextId + 1 }) :
    WellFormed dep t' := by
  subst ht
  have hnew : ∀ p ∈ t.fiscalPeriods, p.fiscalPeriodId ≠ period.fiscalPeriodId := fun p hp => by
    have := h.period_lt p hp
    omega
  exact {
    period_keys := nodup_concat_map h.period_keys hnew
    period_lt := by
      intro p hp
      rcases List.mem_append.mp hp with hp | hp
      · exact (h.period_lt p hp).trans (Nat.lt_succ_self _)
      · rw [List.mem_singleton.mp hp, hid]
        exact Nat.lt_succ_self _
    code_keys := nodup_concat_map h.code_keys hcode
    journal_keys := h.journal_keys
    journal_lt := fun j hj => (h.journal_lt j hj).trans (Nat.lt_succ_self _)
    reference_keys := h.reference_keys
    facts := fun j hj => (h.facts j hj).more_periods fun p hp =>
      ⟨p, List.mem_append_left _ hp, rfl, rfl, rfl⟩
    posted_by := h.posted_by
    referenced := h.referenced
    receipted := h.receipted
    controls := h.controls.openPeriod hnew hopen
    snapshots := {
      before := h.snapshots.before
      unique := h.snapshots.unique
      scope := h.snapshots.scope
      locked := h.snapshots.locked
      backed := h.snapshots.backed
      frozen := by
        intro s hs p hp hsid
        rcases List.mem_append.mp hp with hp | hp
        · exact h.snapshots.frozen s hs p hp hsid
        · -- the snapshot's own period is an older row
          obtain ⟨c, hc, hfor, -⟩ := h.snapshots.locked s hs
          obtain ⟨q, hq, hqid⟩ := h.controls.owned c hc
          rw [List.mem_singleton.mp hp] at hsid
          exact absurd (hqid.trans (hfor.2.trans hsid.symm)) (hnew q hq) } }

theorem WellFormed.materialize {t t' : Tables} (h : WellFormed dep t) {period : FiscalPeriod}
    (hp : period ∈ t.fiscalPeriods)
    (ht : t' = { t with
      bookPeriodControls := t.bookPeriodControls ++ materializedControls dep t period }) :
    WellFormed dep t' := by
  subst ht
  exact {
    h with
    controls := h.controls.materialize h.period_keys hp
    snapshots := {
      before := h.snapshots.before
      unique := h.snapshots.unique
      scope := h.snapshots.scope
      frozen := h.snapshots.frozen
      locked := by
        intro s hs
        obtain ⟨c, hc, hcs⟩ := h.snapshots.locked s hs
        exact ⟨c, List.mem_append_left _ hc, hcs⟩
      backed := by
        intro c hc hhard
        rcases List.mem_append.mp hc with hc | hc
        · exact h.snapshots.backed c hc hhard
        · rw [(materializedControls_opened h.controls hp hc).1] at hhard
          cases hhard } }

/-! ## Closing -/

/-- The control row `_set_book_period_closed` writes. -/
def closedRow (status : PeriodStatus) (closedAt : Timestamp) (control : BookPeriodControl) :
    BookPeriodControl :=
  { control with periodStatus := status, periodClosedAt := some closedAt }

theorem closedRow_keepsKey (status : PeriodStatus) (closedAt : Timestamp) :
    KeepsKey (closedRow status closedAt) := ⟨fun _ => rfl, fun _ => rfl⟩

variable (dep) in
theorem mem_setBookPeriodClosed {t : Tables} {bookId fiscalPeriodId : ℕ} {status : PeriodStatus}
    {c : BookPeriodControl} :
    c ∈ (setBookPeriodClosed dep t bookId fiscalPeriodId status).bookPeriodControls ↔
      ∃ d ∈ t.bookPeriodControls,
        updateRow bookId fiscalPeriodId (closedRow status t.clock) d = c := List.mem_map

variable (dep) in
theorem setBookPeriodClosed_controls (t : Tables) (bookId fiscalPeriodId : ℕ) (status : PeriodStatus) :
    (setBookPeriodClosed dep t bookId fiscalPeriodId status).bookPeriodControls =
      updateControl bookId fiscalPeriodId (closedRow status t.clock) t.bookPeriodControls := rfl

variable (dep) in
theorem setBookPeriodClosed_periods (t : Tables) (bookId fiscalPeriodId : ℕ) (status : PeriodStatus) :
    ∃ closedAt, (setBookPeriodClosed dep t bookId fiscalPeriodId status).fiscalPeriods =
      refreshStatus t.fiscalPeriods fiscalPeriodId
        (aggregateStatus (activeRows dep (updateControl bookId fiscalPeriodId
          (closedRow status t.clock) t.bookPeriodControls) fiscalPeriodId)) closedAt := ⟨_, rfl⟩

theorem refreshStatus_map {β : Type} (f : FiscalPeriod → β) (periods : List FiscalPeriod)
    (fiscalPeriodId : ℕ) (status : PeriodStatus) (closedAt : Option Timestamp)
    (hf : ∀ p, f { p with periodStatus := status, periodClosedAt := closedAt } = f p) :
    (refreshStatus periods fiscalPeriodId status closedAt).map f = periods.map f := by
  simp only [refreshStatus, List.map_map]
  refine List.map_congr_left fun p _ => ?_
  simp only [Function.comp_apply]
  split
  · exact hf p
  · rfl

/-- Rows of the refreshed calendar are the old rows up to their status. -/
theorem refreshStatus_row {periods : List FiscalPeriod} {fiscalPeriodId : ℕ} {status : PeriodStatus}
    {closedAt : Option Timestamp} {q : FiscalPeriod}
    (hq : q ∈ refreshStatus periods fiscalPeriodId status closedAt) :
    ∃ p ∈ periods, q.fiscalPeriodId = p.fiscalPeriodId ∧ q.periodStartDate = p.periodStartDate ∧
      q.periodEndDate = p.periodEndDate := by
  obtain ⟨p, hp, rfl⟩ := mem_refreshStatus hq
  refine ⟨p, hp, ?_⟩
  split <;> exact ⟨rfl, rfl, rfl⟩

theorem refreshStatus_of_mem {periods : List FiscalPeriod} (fiscalPeriodId : ℕ)
    (status : PeriodStatus) (closedAt : Option Timestamp) {p : FiscalPeriod} (hp : p ∈ periods) :
    ∃ q ∈ refreshStatus periods fiscalPeriodId status closedAt, q.fiscalPeriodId = p.fiscalPeriodId ∧
      q.periodStartDate = p.periodStartDate ∧ q.periodEndDate = p.periodEndDate := by
  refine ⟨_, List.mem_map.mpr ⟨p, hp, rfl⟩, ?_⟩
  split <;> exact ⟨rfl, rfl, rfl⟩

theorem WellFormed.setSoftClosed {t : Tables} (h : WellFormed dep t) {bookId fiscalPeriodId : ℕ}
    (hrow : ∃ c ∈ t.bookPeriodControls, c.IsFor bookId fiscalPeriodId ∧ c.periodStatus ≠ .hardClosed) :
    WellFormed dep (setBookPeriodClosed dep t bookId fiscalPeriodId .softClosed) := by
  obtain ⟨row, hrow, hfor, hsoft⟩ := hrow
  have hkeys := closedRow_keepsKey .softClosed t.clock
  obtain ⟨closedAt, hperiods⟩ := setBookPeriodClosed_periods dep t bookId fiscalPeriodId .softClosed
  exact {
    period_keys := by
      rw [hperiods, refreshStatus_map _ _ _ _ _ fun _ => rfl]
      exact h.period_keys
    period_lt := by
      rw [hperiods]
      intro q hq
      obtain ⟨p, hp, hid, -⟩ := refreshStatus_row hq
      exact hid ▸ h.period_lt p hp
    code_keys := by
      rw [hperiods, refreshStatus_map _ _ _ _ _ fun _ => rfl]
      exact h.code_keys
    journal_keys := h.journal_keys
    journal_lt := h.journal_lt
    reference_keys := h.reference_keys
    facts := by
      rw [hperiods]
      exact fun j hj => (h.facts j hj).more_periods fun p hp => refreshStatus_of_mem _ _ _ hp
    posted_by := h.posted_by
    referenced := h.referenced
    receipted := h.receipted
    controls := by
      rw [hperiods, setBookPeriodClosed_controls]
      exact h.controls.update ⟨row, hrow, hfor⟩ hkeys closedAt
    snapshots := {
      before := h.snapshots.before
      unique := h.snapshots.unique
      scope := h.snapshots.scope
      locked := by
        intro s hs
        obtain ⟨c, hc, hcfor, hhard⟩ := h.snapshots.locked s hs
        refine ⟨c, ?_, hcfor, hhard⟩
        -- a hard-closed row is not the row that is changed
        have hother : ¬c.IsFor bookId fiscalPeriodId := by
          rintro ⟨rfl, rfl⟩
          rw [h.controls.unique c hc row hrow hfor] at hsoft
          exact hsoft hhard
        exact (mem_setBookPeriodClosed dep).mpr ⟨c, hc, updateRow_of_not hother⟩
      backed := by
        intro c hc hhard
        obtain ⟨d, hd, rfl⟩ := (mem_setBookPeriodClosed dep).mp hc
        by_cases hdfor : d.IsFor bookId fiscalPeriodId
        · rw [updateRow_of_isFor hdfor] at hhard
          cases hhard
        · rw [updateRow_of_not hdfor] at hhard ⊢
          exact h.snapshots.backed d hd hhard
      frozen := by
        rw [hperiods]
        intro s hs q hq hid
        obtain ⟨p, hp, hpid, -, hend⟩ := refreshStatus_row hq
        rw [hend]
        exact h.snapshots.frozen s hs p hp (hpid.symm.trans hid) } }

theorem WellFormed.annotate {t : Tables} (h : WellFormed dep t)
    {f : BookPeriodControl → BookPeriodControl} (hf : KeepsKey f)
    (hstatus : ∀ c, (f c).periodStatus = c.periodStatus) :
    WellFormed dep { t with bookPeriodControls := t.bookPeriodControls.map f } :=
  { h with
    controls := h.controls.annotate hf hstatus
    snapshots := {
      before := h.snapshots.before
      unique := h.snapshots.unique
      scope := h.snapshots.scope
      frozen := h.snapshots.frozen
      locked := by
        intro s hs
        obtain ⟨c, hc, hfor, hhard⟩ := h.snapshots.locked s hs
        exact ⟨f c, List.mem_map.mpr ⟨c, hc, rfl⟩, ⟨(hf.book c).trans hfor.1, (hf.period c).trans hfor.2⟩,
          (hstatus c).trans hhard⟩
      backed := by
        intro c hc hhard
        obtain ⟨d, hd, rfl⟩ := List.mem_map.mp hc
        obtain ⟨s, hs, hfor⟩ := h.snapshots.backed d hd ((hstatus d).symm.trans hhard)
        exact ⟨s, hs, (hf.book d).trans hfor.1, (hf.period d).trans hfor.2⟩ } }

variable (dep) in
/-- A snapshot as a close takes it: of all journals through the period end. -/
structure TakenNow (t : Tables) (book : AccountingBook) (period : FiscalPeriod)
    (snapshot : TrialBalanceSnapshot) : Prop where
  legalEntity : snapshot.legalEntityId = book.legalEntityId
  book_id : snapshot.accountingBookId = book.accountingBookId
  period_id : snapshot.fiscalPeriodId = period.fiscalPeriodId
  generatedAt : snapshot.snapshotGeneratedAt = t.clock
  lines : snapshot.lines = (aggregateTrialBalance dep t book.legalEntityId book.accountingBookId
    period.periodEndDate).map snapshotLine
  count : snapshot.sourceJournalCount = countSourceJournals t book.legalEntityId
    book.accountingBookId period.periodEndDate
  unique : ∀ s ∈ t.snapshots, ¬(s.accountingBookId = book.accountingBookId ∧
    s.fiscalPeriodId = period.fiscalPeriodId)

theorem journalsAsOf_now {t : Tables} (h : WellFormed dep t) (legalEntityId bookId : ℕ)
    (throughDate : Date) :
    journalsAsOf t legalEntityId bookId throughDate t.clock =
      (bookJournals t legalEntityId bookId).filter fun journal =>
        journal.accountingDate ≤ throughDate := by
  refine List.filter_congr fun j hj => ?_
  have := h.posted_by j (List.mem_filter.mp hj).1
  simp [this]

theorem WellFormed.hardClose {t : Tables} (h : WellFormed dep t) {book : AccountingBook}
    {period : FiscalPeriod} {snapshot : TrialBalanceSnapshot} (hbook : book ∈ dep.catalog.books)
    (hperiod : period ∈ t.fiscalPeriods) (hs : TakenNow dep t book period snapshot)
    (hrow : ∃ c ∈ t.bookPeriodControls, c.IsFor book.accountingBookId period.fiscalPeriodId) :
    WellFormed dep { setBookPeriodClosed dep
        { t with snapshots := t.snapshots ++ [snapshot], nextId := t.nextId + 1 }
        book.accountingBookId period.fiscalPeriodId .hardClosed with clock := t.clock + 1 } := by
  obtain ⟨row, hrow, hfor⟩ := hrow
  have hkeys := closedRow_keepsKey .hardClosed t.clock
  obtain ⟨closedAt, hperiods⟩ := setBookPeriodClosed_periods dep
    { t with snapshots := t.snapshots ++ [snapshot], nextId := t.nextId + 1 }
    book.accountingBookId period.fiscalPeriodId .hardClosed
  have hasOf : ∀ s : TrialBalanceSnapshot, ∀ throughDate, journalsAsOf { t with
      snapshots := t.snapshots ++ [snapshot], nextId := t.nextId + 1 } s.legalEntityId
      s.accountingBookId throughDate s.snapshotGeneratedAt =
      journalsAsOf t s.legalEntityId s.accountingBookId throughDate s.snapshotGeneratedAt :=
    fun _ _ => rfl
  exact {
    period_keys := by
      rw [hperiods, refreshStatus_map _ _ _ _ _ fun _ => rfl]
      exact h.period_keys
    period_lt := by
      rw [hperiods]
      intro q hq
      obtain ⟨p, hp, hid, -⟩ := refreshStatus_row hq
      exact hid ▸ (h.period_lt p hp).trans (Nat.lt_succ_self _)
    code_keys := by
      rw [hperiods, refreshStatus_map _ _ _ _ _ fun _ => rfl]
      exact h.code_keys
    journal_keys := h.journal_keys
    journal_lt := fun j hj => (h.journal_lt j hj).trans (Nat.lt_succ_self _)
    reference_keys := h.reference_keys
    facts := by
      rw [hperiods]
      exact fun j hj => (h.facts j hj).more_periods fun p hp => refreshStatus_of_mem _ _ _ hp
    posted_by := fun j hj => (h.posted_by j hj).trans (Nat.le_succ _)
    referenced := h.referenced
    receipted := h.receipted
    controls := by
      rw [hperiods]
      exact h.controls.update ⟨row, hrow, hfor⟩ hkeys closedAt
    snapshots := {
      before := by
        intro s hmem
        rcases List.mem_append.mp hmem with hmem | hmem
        · exact (h.snapshots.before s hmem).trans (Nat.lt_succ_self _)
        · rw [List.mem_singleton.mp hmem, hs.generatedAt]
          exact Nat.lt_succ_self _
      unique := by
        intro s hmem s' hmem' hb hp
        rcases List.mem_append.mp hmem with hmem | hmem <;>
          rcases List.mem_append.mp hmem' with hmem' | hmem'
        · exact h.snapshots.unique s hmem s' hmem' hb hp
        · rw [List.mem_singleton.mp hmem', hs.book_id] at hb
          rw [List.mem_singleton.mp hmem', hs.period_id] at hp
          exact absurd ⟨hb.symm, hp.symm⟩ (hs.unique s hmem)
        · rw [List.mem_singleton.mp hmem, hs.book_id] at hb
          rw [List.mem_singleton.mp hmem, hs.period_id] at hp
          exact absurd ⟨hb, hp⟩ (hs.unique s' hmem')
        · rw [List.mem_singleton.mp hmem, List.mem_singleton.mp hmem']
      scope := by
        intro s hmem
        rcases List.mem_append.mp hmem with hmem | hmem
        · exact h.snapshots.scope s hmem
        · rw [List.mem_singleton.mp hmem]
          exact ⟨book, hbook, hs.book_id.symm, hs.legalEntity.symm⟩
      locked := by
        intro s hmem
        rcases List.mem_append.mp hmem with hmem | hmem
        · obtain ⟨c, hc, hcfor, hhard⟩ := h.snapshots.locked s hmem
          refine ⟨_, (mem_setBookPeriodClosed dep).mpr ⟨c, hc, rfl⟩, ?_⟩
          by_cases hsame : c.IsFor book.accountingBookId period.fiscalPeriodId
          · rw [updateRow_of_isFor hsame]
            exact ⟨hcfor, rfl⟩
          · rw [updateRow_of_not hsame]
            exact ⟨hcfor, hhard⟩
        · rw [List.mem_singleton.mp hmem]
          refine ⟨_, (mem_setBookPeriodClosed dep).mpr ⟨row, hrow, rfl⟩, ?_⟩
          rw [updateRow_of_isFor hfor]
          exact ⟨⟨hfor.1.trans hs.book_id.symm, hfor.2.trans hs.period_id.symm⟩, rfl⟩
      backed := by
        intro c hc hhard
        obtain ⟨d, hd, rfl⟩ := (mem_setBookPeriodClosed dep).mp hc
        by_cases hdfor : d.IsFor book.accountingBookId period.fiscalPeriodId
        · refine ⟨snapshot, List.mem_append_right _ (List.mem_singleton.mpr rfl), ?_⟩
          rw [updateRow_of_isFor hdfor]
          exact ⟨hdfor.1.trans hs.book_id.symm, hdfor.2.trans hs.period_id.symm⟩
        · rw [updateRow_of_not hdfor] at hhard ⊢
          obtain ⟨s, hmem, hsfor⟩ := h.snapshots.backed d hd hhard
          exact ⟨s, List.mem_append_left _ hmem, hsfor⟩
      frozen := by
        rw [hperiods]
        intro s hmem q hq hid
        obtain ⟨p, hp, hpid, -, hend⟩ := refreshStatus_row hq
        rw [hend]
        rcases List.mem_append.mp hmem with hmem | hmem
        · exact h.snapshots.frozen s hmem p hp (hpid.symm.trans hid)
        · rw [List.mem_singleton.mp hmem] at hid ⊢
          obtain rfl : p = period :=
            period_of_id h.period_keys hp hperiod ((hpid.symm.trans hid).trans hs.period_id)
          have hall : journalsAsOf t snapshot.legalEntityId snapshot.accountingBookId p.periodEndDate
              snapshot.snapshotGeneratedAt = (bookJournals t book.legalEntityId
                book.accountingBookId).filter fun journal =>
                  journal.accountingDate ≤ p.periodEndDate := by
            rw [hs.generatedAt, journalsAsOf_now h, hs.legalEntity, hs.book_id]
          exact ⟨hs.lines.trans (by
              rw [aggregateTrialBalance, linesThrough, ← hall]
              rfl), hs.count.trans (by
              rw [countSourceJournals, ← hall]
              rfl)⟩ } }

end AccountingPlatform.Postgres
