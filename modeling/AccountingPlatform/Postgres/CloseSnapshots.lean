/-
  Whether the snapshot of a hard close still says what the ledger says.

  A snapshot is frozen at the journals posted by its moment, so it is current as long as no
  later journal of its book is dated on or before its period end. The write guard looks at the
  one period a journal is posted to; a journal of an earlier period passes it.
-/
import AccountingPlatform.Postgres.Effects

namespace AccountingPlatform.Postgres

open AccountingPlatform.Lib AccountingPlatform.Core

variable (dep : Deployment)

/-! ## Current snapshots -/

/-- The book's own control row of the period is hard-closed. -/
def HardClosedFor (t : Tables) (bookId fiscalPeriodId : ℕ) : Prop :=
  ∃ c ∈ t.bookPeriodControls, c.IsFor bookId fiscalPeriodId ∧ c.periodStatus = .hardClosed

instance (t : Tables) (bookId fiscalPeriodId : ℕ) : Decidable (HardClosedFor t bookId fiscalPeriodId) :=
  inferInstanceAs (Decidable (∃ c ∈ t.bookPeriodControls, _))

/-- Journal count and account totals of a snapshot equal the live aggregate through a day. -/
def CurrentThrough (t : Tables) (snapshot : TrialBalanceSnapshot) (throughDate : Date) : Prop :=
  snapshot.sourceJournalCount =
      countSourceJournals t snapshot.legalEntityId snapshot.accountingBookId throughDate ∧
    snapshot.lines = (aggregateTrialBalance dep t snapshot.legalEntityId snapshot.accountingBookId
      throughDate).map snapshotLine

/-- Every hard-closed book and period has a stored snapshot, and it is current. -/
def SnapshotsCurrent (t : Tables) : Prop :=
  ∀ book ∈ dep.catalog.books, ∀ period ∈ t.fiscalPeriods,
    HardClosedFor t book.accountingBookId period.fiscalPeriodId →
      ∃ snapshot, latestCloseSnapshot t book.legalEntityId book.accountingBookId
          period.fiscalPeriodId = some snapshot ∧
        CurrentThrough dep t snapshot period.periodEndDate

/-! ## Late journals -/

/-- A journal of the snapshot's book that it should count and was posted after it. -/
def LateFor (t : Tables) (snapshot : TrialBalanceSnapshot) (journal : GeneralJournal) : Prop :=
  journal.legalEntityId = snapshot.legalEntityId ∧
    journal.accountingBookId = snapshot.accountingBookId ∧
    (∃ p ∈ t.fiscalPeriods, p.fiscalPeriodId = snapshot.fiscalPeriodId ∧
      journal.accountingDate ≤ p.periodEndDate) ∧
    snapshot.snapshotGeneratedAt < journal.postedAt

instance (t : Tables) (snapshot : TrialBalanceSnapshot) (journal : GeneralJournal) :
    Decidable (LateFor t snapshot journal) :=
  inferInstanceAs (Decidable (_ ∧ _ ∧ (∃ p ∈ t.fiscalPeriods, _) ∧ _))

def NoLateJournal (t : Tables) : Prop :=
  ∀ s ∈ t.snapshots, ∀ j ∈ t.journals, ¬LateFor t s j

instance (t : Tables) : Decidable (NoLateJournal t) :=
  inferInstanceAs (Decidable (∀ s ∈ t.snapshots, ∀ j ∈ t.journals, _))

/-- The command is about to write into a range its book has already hard-closed. -/
def LateWrite (t : Tables) (command : Command) : Prop :=
  ∃ bookId date, targetOf dep t command = some (bookId, date) ∧
    ∃ p ∈ t.fiscalPeriods, HardClosedFor t bookId p.fiscalPeriodId ∧ date ≤ p.periodEndDate

/-- A late write that the ledger admits. -/
def CommitsLate (t : Tables) (command : Command) : Prop :=
  LateWrite dep t command ∧ Succeeds (attempt dep t command)

variable {dep}

theorem latestCloseSnapshot_eq {t : Tables} (h : WellFormed dep t) {snapshot : TrialBalanceSnapshot}
    (hs : snapshot ∈ t.snapshots) :
    latestCloseSnapshot t snapshot.legalEntityId snapshot.accountingBookId snapshot.fiscalPeriodId =
      some snapshot := by
  refine head?_insertionSort_of_unique _ (by simp [hs]) fun s hmem => ?_
  simp only [List.mem_filter, decide_eq_true_eq] at hmem
  exact h.snapshots.unique snapshot hs s hmem.1 hmem.2.2.1 hmem.2.2.2

/-- The snapshot behind a hard-closed row. -/
theorem snapshot_of_hardClosed {t : Tables} (h : WellFormed dep t) {bookId fiscalPeriodId : ℕ}
    (hhard : HardClosedFor t bookId fiscalPeriodId) :
    ∃ s ∈ t.snapshots, s.accountingBookId = bookId ∧ s.fiscalPeriodId = fiscalPeriodId := by
  obtain ⟨c, hc, hfor, hstatus⟩ := hhard
  obtain ⟨s, hs, hsfor⟩ := h.snapshots.backed c hc hstatus
  exact ⟨s, hs, hsfor.1.symm.trans hfor.1, hsfor.2.symm.trans hfor.2⟩

/-- A snapshot is current exactly when no later journal falls into its range. -/
theorem currentThrough_iff {t : Tables} (h : WellFormed dep t) {snapshot : TrialBalanceSnapshot}
    (hs : snapshot ∈ t.snapshots) {p : FiscalPeriod} (hp : p ∈ t.fiscalPeriods)
    (hid : p.fiscalPeriodId = snapshot.fiscalPeriodId) :
    CurrentThrough dep t snapshot p.periodEndDate ↔ ∀ j ∈ t.journals, ¬LateFor t snapshot j := by
  obtain ⟨hlines, hcount⟩ := h.snapshots.frozen snapshot hs p hp hid
  have hsplit : journalsAsOf t snapshot.legalEntityId snapshot.accountingBookId p.periodEndDate
      snapshot.snapshotGeneratedAt =
      ((bookJournals t snapshot.legalEntityId snapshot.accountingBookId).filter fun journal =>
        journal.accountingDate ≤ p.periodEndDate).filter fun journal =>
          journal.postedAt ≤ snapshot.snapshotGeneratedAt := by
    rw [journalsAsOf, List.filter_filter]
    refine List.filter_congr fun j _ => ?_
    simp [Bool.and_comm]
  constructor
  · rintro ⟨hsame, -⟩ j hj ⟨hle, hb, ⟨q, hq, hqid, hdate⟩, hlate⟩
    obtain rfl : q = p := period_of_id h.period_keys hq hp (hqid.trans hid.symm)
    rw [hsame, countSourceJournals, hsplit] at hcount
    have hall := List.length_filter_eq_length_iff.mp hcount.symm j (by
      simp [bookJournals, hj, hle, hb, hdate])
    exact absurd (of_decide_eq_true hall) (Nat.not_le.mpr hlate)
  · intro hnone
    have hall : ((bookJournals t snapshot.legalEntityId snapshot.accountingBookId).filter
        fun journal => journal.accountingDate ≤ p.periodEndDate).filter (fun journal =>
          journal.postedAt ≤ snapshot.snapshotGeneratedAt) =
        (bookJournals t snapshot.legalEntityId snapshot.accountingBookId).filter fun journal =>
          journal.accountingDate ≤ p.periodEndDate := by
      refine List.filter_eq_self.mpr fun j hj => ?_
      simp only [bookJournals, List.mem_filter, decide_eq_true_eq] at hj
      obtain ⟨⟨hj, hle, hb⟩, hdate⟩ := hj
      have := hnone j hj
      simp only [LateFor, hle, hb, true_and, not_and, not_lt] at this
      exact decide_eq_true (this ⟨p, hp, hid, hdate⟩)
    rw [hall] at hsplit
    refine ⟨by rw [hcount, hsplit]; rfl, ?_⟩
    rw [hlines, snapshotRows, hsplit]
    rfl

theorem snapshotsCurrent_iff {t : Tables} (h : WellFormed dep t) :
    SnapshotsCurrent dep t ↔ NoLateJournal t := by
  constructor
  · intro hcurrent s hs j hj hlate
    obtain ⟨c, hc, hfor, hhard⟩ := h.snapshots.locked s hs
    obtain ⟨p, hp, hpid⟩ := h.controls.owned c hc
    obtain ⟨book, hbook, hbid, hble⟩ := h.snapshots.scope s hs
    have hid : p.fiscalPeriodId = s.fiscalPeriodId := hpid.trans hfor.2
    obtain ⟨snapshot, hlatest, hthrough⟩ := hcurrent book hbook p hp
      ⟨c, hc, ⟨hfor.1.trans hbid.symm, hfor.2.trans hid.symm⟩, hhard⟩
    rw [hble, hbid, hid, latestCloseSnapshot_eq h hs] at hlatest
    cases hlatest
    exact (currentThrough_iff h hs hp hid).mp hthrough j hj hlate
  · intro hnone book hbook period hperiod hhard
    obtain ⟨s, hs, hsb, hsp⟩ := snapshot_of_hardClosed h hhard
    obtain ⟨book', hbook', hbid, hble⟩ := h.snapshots.scope s hs
    rw [book_of_id hbook' hbook (hbid.trans hsb)] at hble
    refine ⟨s, ?_, (currentThrough_iff h hs hperiod hsp.symm).mpr (hnone s hs)⟩
    rw [hble, ← hsb, ← hsp]
    exact latestCloseSnapshot_eq h hs

/-! ## One command -/

/-- Lateness depends on the calendar only through the end dates. -/
theorem LateFor.transfer {t t' : Tables} {snapshot : TrialBalanceSnapshot} {journal : GeneralJournal}
    (h : LateFor t snapshot journal)
    (hsub : ∀ p ∈ t.fiscalPeriods, ∃ q ∈ t'.fiscalPeriods, q.fiscalPeriodId = p.fiscalPeriodId ∧
      q.periodEndDate = p.periodEndDate) : LateFor t' snapshot journal := by
  obtain ⟨hle, hb, ⟨p, hp, hid, hdate⟩, hlate⟩ := h
  obtain ⟨q, hq, hqid, hend⟩ := hsub p hp
  exact ⟨hle, hb, ⟨q, hq, hqid.trans hid, hend ▸ hdate⟩, hlate⟩

theorem noLateJournal_congr {t t' : Tables} (hjournals : t'.journals = t.journals)
    (hsnapshots : t'.snapshots = t.snapshots) (hperiods : t'.fiscalPeriods = t.fiscalPeriods) :
    NoLateJournal t' ↔ NoLateJournal t := by
  simp only [NoLateJournal, LateFor, hjournals, hsnapshots, hperiods]

/-- A written journal is late exactly when its book has hard-closed a period that ends on or
    after its date. -/
theorem Written.noLateJournal_iff {t t' : Tables} (h : WellFormed dep t) (hnone : NoLateJournal t)
    {record : ProposalRecord} {journal : GeneralJournal} (hw : Written dep t record journal t') :
    NoLateJournal t' ↔ ¬∃ p ∈ t.fiscalPeriods,
      HardClosedFor t journal.accountingBookId p.fiscalPeriodId ∧
        journal.accountingDate ≤ p.periodEndDate := by
  constructor
  · rintro hnone' ⟨p, hp, hhard, hdate⟩
    obtain ⟨s, hs, hsb, hsp⟩ := snapshot_of_hardClosed h hhard
    obtain ⟨book, hbook, hbid, hble⟩ := h.snapshots.scope s hs
    obtain ⟨book', hbook', hbid', hble'⟩ := hw.admitted.facts.scope
    have hsame : book' = book := book_of_id hbook' hbook (hbid'.trans (hsb.symm.trans hbid.symm))
    refine hnone' s (hw.snapshots ▸ hs) journal (by rw [hw.journals]; simp) ⟨?_, hsb.symm, ?_, ?_⟩
    · rw [← hble', ← hble, hsame]
    · exact ⟨p, hw.fiscalPeriods ▸ hp, hsp.symm, hdate⟩
    · rw [hw.admitted.postedAt]
      exact h.snapshots.before s hs
  · intro hclear s hs j hj hlate
    rw [hw.snapshots] at hs
    rw [hw.journals, List.mem_append, List.mem_singleton] at hj
    have hlate' : LateFor t s j := hlate.transfer fun p hp =>
      ⟨p, hw.fiscalPeriods ▸ hp, rfl, rfl⟩
    rcases hj with hj | rfl
    · exact hnone s hs j hj hlate'
    · obtain ⟨-, hb, ⟨p, hp, hid, hdate⟩, -⟩ := hlate'
      obtain ⟨c, hc, hfor, hhard⟩ := h.snapshots.locked s hs
      exact hclear ⟨p, hp, ⟨c, hc, ⟨hfor.1.trans hb.symm, hfor.2.trans hid.symm⟩, hhard⟩, hdate⟩

theorem hardClosedFor_materialized {t : Tables} (h : WellFormed dep t) {period : FiscalPeriod}
    (hp : period ∈ t.fiscalPeriods) {bookId fiscalPeriodId : ℕ} :
    HardClosedFor (materialized dep t period) bookId fiscalPeriodId ↔
      HardClosedFor t bookId fiscalPeriodId := by
  constructor
  · rintro ⟨c, hc, hfor, hhard⟩
    rcases List.mem_append.mp hc with hc | hc
    · exact ⟨c, hc, hfor, hhard⟩
    · rw [(materializedControls_opened h.controls hp hc).1] at hhard
      cases hhard
  · rintro ⟨c, hc, hc'⟩
    exact ⟨c, List.mem_append_left _ hc, hc'⟩

/-- The new snapshot of a hard close has seen every journal; the older ones see no change. -/
theorem noLateJournal_hardClose {t : Tables} (h : WellFormed dep t) (request : CloseRequest)
    (entity : LegalEntityRecord) (book : AccountingBook) (period : FiscalPeriod)
    (outbox : List OutboxEvent) :
    NoLateJournal { setBookPeriodClosed dep (withSnapshot dep t request entity book period)
      book.accountingBookId period.fiscalPeriodId .hardClosed with
        outboxEvents := outbox, clock := t.clock + 1 } ↔ NoLateJournal t := by
  obtain ⟨closedAt, hperiods⟩ := setBookPeriodClosed_periods dep
    (withSnapshot dep t request entity book period) book.accountingBookId period.fiscalPeriodId
    .hardClosed
  constructor
  · intro hnone s hs j hj hlate
    refine hnone s (List.mem_append_left _ hs) j hj (hlate.transfer fun p hp => ?_)
    obtain ⟨q, hq, hid, -, hend⟩ := refreshStatus_of_mem period.fiscalPeriodId _ closedAt hp
    exact ⟨q, hperiods ▸ hq, hid, hend⟩
  · intro hnone s hs j hj hlate
    have hlate' : LateFor t s j := hlate.transfer fun q hq => by
      rw [hperiods] at hq
      obtain ⟨p, hp, hid, -, hend⟩ := refreshStatus_row hq
      exact ⟨p, hp, hid.symm, hend.symm⟩
    rcases List.mem_append.mp hs with hs | hs
    · exact hnone s hs j hj hlate'
    · rw [List.mem_singleton.mp hs] at hlate'
      exact absurd hlate'.2.2.2 (Nat.not_lt.mpr (h.posted_by j hj))

/-- A command that takes effect keeps all snapshots current unless it writes late. -/
theorem noLateJournal_effect {t t' : Tables} {command : Command} (h : WellFormed dep t)
    (hnone : NoLateJournal t) (he : Effect dep t command t') :
    NoLateJournal t' ↔ ¬LateWrite dep t command := by
  have hidle : targetOf dep t command = none → ¬LateWrite dep t command := by
    rintro hnot ⟨bookId, date, htarget, -⟩
    rw [hnot] at htarget
    cases htarget
  cases he with
  | idle commands htarget => exact iff_of_true hnone (hidle htarget)
  | opened period commands hid hopen hcode =>
    refine iff_of_true (fun s hs j hj hlate => ?_) (hidle rfl)
    obtain ⟨hle, hb, ⟨p, hp, hpid, hdate⟩, hpost⟩ := hlate
    rcases List.mem_append.mp hp with hp | hp
    · exact hnone s hs j hj ⟨hle, hb, ⟨p, hp, hpid, hdate⟩, hpost⟩
    · -- the snapshot is of an older period
      obtain ⟨c, hc, hfor, -⟩ := h.snapshots.locked s hs
      obtain ⟨q, hq, hqid⟩ := h.controls.owned c hc
      have hlt := h.period_lt q hq
      rw [List.mem_singleton.mp hp, hid] at hpid
      rw [hqid, hfor.2, ← hpid] at hlt
      exact absurd hlt (Nat.lt_irrefl _)
  | posted hwritten hfrom htarget =>
    refine (noLateJournal_congr rfl rfl rfl).trans ((hwritten.noLateJournal_iff h hnone).trans ?_)
    refine not_congr ⟨fun hlate => ⟨_, _, htarget, hlate⟩, ?_⟩
    rintro ⟨bookId, date, htarget', hlate⟩
    rw [htarget] at htarget'
    cases htarget'
    exact hlate
  | locked period hperiod _ htarget => exact iff_of_true hnone (hidle htarget)
  | @softClosed _ _ book period _ hclosable hopen htarget evidence outbox =>
    refine iff_of_true (fun s hs j hj hlate => hnone s hs j hj (hlate.transfer fun q hq => ?_))
      (hidle htarget)
    obtain ⟨closedAt, hperiods⟩ := setBookPeriodClosed_periods dep (materialized dep t period)
      book.accountingBookId period.fiscalPeriodId .softClosed
    rw [hperiods] at hq
    obtain ⟨p, hp, hid, -, hend⟩ := refreshStatus_row hq
    exact ⟨p, hp, hid.symm, hend.symm⟩
  | @hardClosed request entity book period control posted t₂ hclosable hnot hcode hpackage hposted
      hunique outbox =>
    have hmat := h.materialized hclosable.period_mem
    have hnoneMat : NoLateJournal (materialized dep t period) := hnone
    have hstatus := bookPeriodStatus_of_materialized h hclosable.period_mem hclosable.control_mem
      hclosable.control_for
    refine (noLateJournal_hardClose (hposted.keeps.2.2.2.2.2 hmat) request entity book period
      outbox).trans ?_
    cases hposted with
    | nothing hlines =>
      refine iff_of_true hnoneMat (hidle ?_)
      refine hclosable.target.trans (if_neg ?_)
      rintro ⟨-, -, hne⟩
      exact hne hlines
    | journal hlines hwritten hreference hdate hbook =>
      have htarget : targetOf dep t (.closeFiscalPeriod request) =
          some (book.accountingBookId, period.periodEndDate) :=
        hclosable.target.trans (if_pos ⟨hcode, hstatus ▸ hnot, hlines⟩)
      refine (hwritten.noLateJournal_iff hmat hnoneMat).trans (not_congr ?_)
      rw [hbook, hdate]
      simp only [hardClosedFor_materialized h hclosable.period_mem]
      refine ⟨fun hlate => ⟨_, _, htarget, hlate⟩, ?_⟩
      rintro ⟨bookId, date, htarget', hlate⟩
      rw [htarget] at htarget'
      cases htarget'
      exact hlate

/-! ## Runs -/

theorem noLateJournal_execute {t : Tables} (h : WellFormed dep t) (hnone : NoLateJournal t)
    (command : Command) :
    NoLateJournal (execute dep t command) ↔ ¬CommitsLate dep t command := by
  rcases execute_effect h command with ⟨hfail, heq⟩ | ⟨hok, he⟩
  · rw [heq]
    exact iff_of_true hnone fun hlate => hfail hlate.2
  · rw [noLateJournal_effect h hnone he]
    exact not_congr ⟨fun hlate => ⟨hlate, hok⟩, fun hlate => hlate.1⟩

variable (dep) in
/-- All snapshots stay current along a run exactly as long as no command commits a journal into
    a range that its book has hard-closed. -/
theorem snapshotsCurrent_run_iff (commands : List Command) :
    (∀ earlier, earlier <+: commands → SnapshotsCurrent dep (ledgerAfter dep earlier)) ↔
      AdmittedRun (execute dep) (fun t command => ¬CommitsLate dep t command) Tables.empty commands := by
  have hrun := forall_prefix_iff_admittedRun (P := NoLateJournal)
    (fun t command (h : WellFormed dep t) => wellFormed_execute h command)
    (fun t command h hnone => noLateJournal_execute h hnone command) wellFormed_empty
    (fun s hs => nomatch hs) commands
  rw [← hrun]
  exact forall₂_congr fun earlier _ => snapshotsCurrent_iff (wellFormed_ledgerAfter earlier)

/-- February is hard-closed before January, then an invoice is entered in January. -/
def lateInvoiceCommands : List Command := [
  samplePeriod "2024-01" "open-1" 738886 738916,
  samplePeriod "2024-02" "open-2" 738917 738945,
  sampleClose "urn:cwl:book:b1" "2024-02" "hard_closed",
  sampleInvoice "urn:cwl:book:b1" "2024-01" "0f8fad5b-d9cb-469f-a165-70867728950e" "invoice-1" 738900
    1000000]

theorem lateInvoice_stale :
    ¬SnapshotsCurrent (sampleDeployment sampleCatalog)
      (ledgerAfter (sampleDeployment sampleCatalog) lateInvoiceCommands) := by
  rw [snapshotsCurrent_iff (wellFormed_ledgerAfter _)]
  decide +kernel

end AccountingPlatform.Postgres
