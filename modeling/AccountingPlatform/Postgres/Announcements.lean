/-
  The outbox as a mirror of the committed facts.

  A fact is a posting receipt, a reversal, a close snapshot or a recorded soft close. Each is
  announced by the event that was inserted in its transaction; `announcement` reads that event
  off the rows of the fact. `Announces` says what one command adds on both sides.
-/
import AccountingPlatform.Postgres.PeriodStates
import AccountingPlatform.Postgres.Replay

namespace AccountingPlatform.Postgres

open AccountingPlatform.Lib AccountingPlatform.Core

open PostingLedger (ReversalRequest)

variable (dep : Deployment)

/-! ## Facts -/

inductive Fact
  | posting (receipt : PostingReceiptRow)
  | reversal (lineage : JournalReversal)
  | snapshot (snapshot : TrialBalanceSnapshot)
  | softClose (accountingBookId fiscalPeriodId : ℕ) (evidence : SoftCloseEvidence)
  deriving DecidableEq

/-- Receipts of journals that are not reversals. -/
def postings (t : Tables) : List PostingReceiptRow :=
  t.postingReceipts.filter fun receipt =>
    ∀ lineage ∈ t.reversals, lineage.reversalJournalId ≠ receipt.generalJournalId

/-- The soft close recorded on a control row. -/
def softCloseFact (control : BookPeriodControl) : Option Fact :=
  control.softClose.map (.softClose control.accountingBookId control.fiscalPeriodId)

def facts (t : Tables) : List Fact :=
  (postings t).map .posting ++ t.reversals.map .reversal ++ t.snapshots.map .snapshot ++
    t.bookPeriodControls.filterMap softCloseFact

/-! ## Announcements -/

def postingReceiptReference (journalReference : String) : String :=
  "urn:cwl:accounting:posting_receipt:" ++
    removePrefix journalReference "urn:cwl:accounting:general_journal:"

/-- `period_close`, with the book and period of the fact. -/
def closeAnnouncement (t : Tables) (bookId fiscalPeriodId : ℕ) (payloadReference : String → String)
    (payloadHash : String) : Option OutboxEvent := do
  let bookName ← bookName? dep bookId
  let period ← t.period? fiscalPeriodId
  pure ⟨"period_close", bookName ++ ":fiscal_period:" ++ period.periodCode,
    payloadReference period.periodCode, payloadHash⟩

/-- The event of a fact, with the hash stored for it. -/
def announcement (t : Tables) : Fact → Option OutboxEvent
  | .posting receipt => do
    let journal ← t.journal? receipt.generalJournalId
    pure ⟨"posting_receipt", journal.journalReference,
      postingReceiptReference journal.journalReference, receipt.receiptPayloadHash⟩
  | .reversal lineage => do
    let journal ← t.journal? lineage.reversalJournalId
    let receipt ← t.postingReceipts.find? fun receipt =>
      receipt.generalJournalId = lineage.reversalJournalId
    pure ⟨"journal_reversal", journal.journalReference, journal.journalReference ++ ":receipt",
      receipt.receiptPayloadHash⟩
  | .snapshot snapshot =>
    closeAnnouncement dep t snapshot.accountingBookId snapshot.fiscalPeriodId
      (fun _ => "urn:cwl:accounting:trial_balance_snapshot:" ++
        dep.uuidText snapshot.trialBalanceSnapshotId) snapshot.sourcePayloadHash
  | .softClose bookId fiscalPeriodId evidence =>
    closeAnnouncement dep t bookId fiscalPeriodId fiscalPeriodReference evidence.sourcePayloadHash

/-- The events are the announcements of the facts, each fact announced once. -/
def Announced (t : Tables) : Prop :=
  (t.outboxEvents.map some).Perm ((facts t).map (announcement dep t))

variable {dep}

theorem find?_of_initial {α : Type} {rows rows' : List α} (h : rows <+: rows') {p : α → Bool} {row : α}
    (hfind : rows.find? p = some row) : rows'.find? p = some row := by
  obtain ⟨later, rfl⟩ := h
  rw [List.find?_append, hfind, Option.some_or]

theorem closeAnnouncement_kept {t t' : Tables} (hwf : WellFormed dep t') (he : Extends t t')
    {bookId fiscalPeriodId : ℕ} {payloadReference : String → String} {payloadHash : String}
    {event : OutboxEvent}
    (h : closeAnnouncement dep t bookId fiscalPeriodId payloadReference payloadHash = some event) :
    closeAnnouncement dep t' bookId fiscalPeriodId payloadReference payloadHash = some event := by
  unfold closeAnnouncement at h ⊢
  simp only [Option.bind_eq_bind, Option.bind_eq_some_iff] at h ⊢
  obtain ⟨bookName, hbook, period, hperiod, hevent⟩ := h
  obtain ⟨hmem, hid⟩ := period?_mem hperiod
  obtain ⟨period', hmem', hid', hcode, -, -⟩ := he.periods period hmem
  refine ⟨bookName, hbook, period', ?_, ?_⟩
  · rw [← hid, ← hid']
    exact hwf.period?_of_mem hmem'
  · rw [hcode]
    exact hevent

/-- What was announced stays announced alike: rows are only added, periods keep their code. -/
theorem announcement_kept {t t' : Tables} (hwf : WellFormed dep t') (he : Extends t t')
    (hreceipts : t.postingReceipts <+: t'.postingReceipts) {fact : Fact} {event : OutboxEvent}
    (h : announcement dep t fact = some event) : announcement dep t' fact = some event := by
  cases fact with
  | posting receipt =>
    simp only [announcement, Option.bind_eq_bind, Option.bind_eq_some_iff] at h ⊢
    obtain ⟨journal, hjournal, hevent⟩ := h
    exact ⟨journal, find?_of_initial he.journals hjournal, hevent⟩
  | reversal lineage =>
    simp only [announcement, Option.bind_eq_bind, Option.bind_eq_some_iff] at h ⊢
    obtain ⟨journal, hjournal, receipt, hreceipt, hevent⟩ := h
    exact ⟨journal, find?_of_initial he.journals hjournal, receipt,
      find?_of_initial hreceipts hreceipt, hevent⟩
  | snapshot snapshot =>
    unfold announcement at h ⊢
    exact closeAnnouncement_kept hwf he h
  | softClose bookId fiscalPeriodId evidence =>
    unfold announcement at h ⊢
    exact closeAnnouncement_kept hwf he h

/-! ## One command -/

variable (dep) in
/-- A command adds the facts and, with them, their events. -/
structure Announces (t t' : Tables) (added : List Fact) (events : List OutboxEvent) : Prop where
  rows : (facts t').Perm (added ++ facts t)
  outbox : t'.outboxEvents = t.outboxEvents ++ events
  announced : added.map (announcement dep t') = events.map some
  single : events.length ≤ 1

theorem Announces.announced_kept {t t' : Tables} {added : List Fact} {events : List OutboxEvent}
    (h : Announces dep t t' added events) (hwf : WellFormed dep t') (he : Extends t t')
    (hreceipts : t.postingReceipts <+: t'.postingReceipts) (hannounced : Announced dep t) :
    Announced dep t' := by
  have hold : (facts t).map (announcement dep t') =
      (facts t).map (announcement dep t) := by
    apply List.map_congr_left
    intro fact hfact
    obtain ⟨event, -, hevent⟩ := List.mem_map.mp
      (hannounced.mem_iff.mpr (List.mem_map.mpr ⟨fact, hfact, rfl⟩))
    rw [← hevent]
    exact announcement_kept hwf he hreceipts hevent.symm
  unfold Announced at hannounced ⊢
  refine List.Perm.trans ?_ (h.rows.map (announcement dep t')).symm
  rw [h.outbox, List.map_append, List.map_append, h.announced, hold]
  exact (List.Perm.append_right _ hannounced).trans List.perm_append_comm

theorem Announces.nothing {t t' : Tables} (hfacts : facts t' = facts t)
    (hevents : t'.outboxEvents = t.outboxEvents) : Announces dep t t' [] [] where
  rows := by rw [hfacts]; exact List.Perm.refl _
  outbox := by rw [hevents, List.append_nil]
  announced := rfl
  single := Nat.zero_le 1

theorem Announces.one {t t' : Tables} {fact : Fact} {event : OutboxEvent}
    (hfacts : (facts t').Perm (fact :: facts t)) (hevents : t'.outboxEvents = t.outboxEvents ++ [event])
    (hannounced : announcement dep t' fact = some event) : Announces dep t t' [fact] [event] where
  rows := hfacts
  outbox := hevents
  announced := by rw [List.map_singleton, List.map_singleton, hannounced]
  single := Nat.le_refl 1

/-! ## Journals -/

/-- What recording a journal leaves behind, apart from its record. -/
structure JournalAdded (t : Tables) (journal : GeneralJournal) (t' : Tables) : Prop where
  fresh : ∀ j ∈ t.journals, j.generalJournalId ≠ journal.generalJournalId
  journals : t'.journals = t.journals ++ [journal]
  reversals : t'.reversals = t.reversals
  receipts : t'.postingReceipts = t.postingReceipts
  snapshots : t'.snapshots = t.snapshots
  controls : t'.bookPeriodControls = t.bookPeriodControls
  outbox : t'.outboxEvents = t.outboxEvents

theorem RecordedJournal.added {t t' : Tables} {record : NewProposalRecord} {new : ℕ → NewJournal}
    {journal : GeneralJournal} (hwf : WellFormed dep t)
    (h : RecordedJournal dep t record new journal t') : JournalAdded t journal t' := by
  have htables := h.inserted.tables
  have hid : journal.generalJournalId = t.nextId + 1 := by
    rw [h.inserted.row]
    rfl
  refine ⟨fun j hj => ?_, ?_, ?_, ?_, ?_, ?_, ?_⟩
  · have hlt := hwf.journal_lt j hj
    omega
  all_goals rw [htables]

/-- The added journal is found by its key. -/
theorem JournalAdded.found {t t' : Tables} {journal : GeneralJournal} (h : JournalAdded t journal t') :
    t'.journal? journal.generalJournalId = some journal := by
  have hnone : (t.journals.find? fun j => j.generalJournalId = journal.generalJournalId) = none := by
    rw [List.find?_eq_none]
    intro j hj
    simpa using h.fresh j hj
  rw [Tables.journal?, h.journals, List.find?_append, hnone, Option.none_or]
  simp

/-- No lineage of older rows is about the added journal, and no older receipt either. -/
theorem JournalAdded.unreferred {t t' : Tables} {journal : GeneralJournal}
    (h : JournalAdded t journal t') (hkept : PostingsKept t) :
    (∀ lineage ∈ t.reversals, lineage.reversalJournalId ≠ journal.generalJournalId) ∧
      ∀ receipt ∈ t.postingReceipts, receipt.generalJournalId ≠ journal.generalJournalId := by
  constructor
  · intro lineage hlineage
    obtain ⟨⟨j, hj, hid⟩, -⟩ := hkept.lineage lineage hlineage
    rw [← hid]
    exact h.fresh j hj
  · intro receipt hreceipt
    obtain ⟨j, hj, hid, -⟩ := hkept.receipt_of receipt hreceipt
    rw [← hid]
    exact h.fresh j hj

/-! ## Postings -/

/-- The receipt of a journal without lineage is a posting. -/
theorem facts_posting {t t' : Tables} {receipt : PostingReceiptRow}
    (hnot : ∀ lineage ∈ t.reversals, lineage.reversalJournalId ≠ receipt.generalJournalId)
    (hreceipts : t'.postingReceipts = t.postingReceipts ++ [receipt])
    (hreversals : t'.reversals = t.reversals) (hsnapshots : t'.snapshots = t.snapshots)
    (hcontrols : t'.bookPeriodControls = t.bookPeriodControls) :
    (facts t').Perm (.posting receipt :: facts t) := by
  have hpostings : postings t' = postings t ++ [receipt] := by
    unfold postings
    rw [hreversals, hreceipts, List.filter_append, List.filter_cons_of_pos (by simpa using hnot)]
    rfl
  unfold facts
  rw [hpostings, hreversals, hsnapshots, hcontrols]
  simp only [List.map_append, List.map_cons, List.map_nil, List.append_assoc, List.cons_append,
    List.nil_append]
  exact List.perm_middle

theorem postingReceiptReference_of (id : String) :
    postingReceiptReference (PostingLedger.generalJournalReference id) =
      "urn:cwl:accounting:posting_receipt:" ++ id := by
  have hid : removePrefix (PostingLedger.generalJournalReference id)
      "urn:cwl:accounting:general_journal:" = id :=
    removePrefix_append "urn:cwl:accounting:general_journal:" id
  unfold postingReceiptReference
  rw [hid]

theorem announcement_posting {t : Tables} {receipt : PostingReceiptRow} {journal : GeneralJournal}
    {id : String} (hfound : t.journal? receipt.generalJournalId = some journal)
    (hreference : journal.journalReference = PostingLedger.generalJournalReference id) :
    announcement dep t (.posting receipt) = some ⟨"posting_receipt",
      PostingLedger.generalJournalReference id, "urn:cwl:accounting:posting_receipt:" ++ id,
      receipt.receiptPayloadHash⟩ := by
  rw [announcement, hfound, Option.bind_eq_bind, Option.bind_some, hreference,
    postingReceiptReference_of]
  rfl

theorem writePosting_announces {t t' : Tables} (hwf : WellFormed dep t) (hkept : PostingsKept t)
    {record : NewProposalRecord} {new : ℕ → NewJournal} {receipt : PostingReceipt} {id : String}
    (h : writePosting dep t record new receipt = .ok t')
    (hnew : (new t.nextId).journalReference = PostingLedger.generalJournalReference id)
    (hjournal : receipt.journalReference = PostingLedger.generalJournalReference id)
    (hreceipt : receipt.receiptReference = "urn:cwl:accounting:posting_receipt:" ++ id) :
    ∃ added events, Announces dep t t' added events := by
  obtain ⟨journal, t₁, hrecorded, rfl⟩ := writePosting_ok dep h
  have hadded := hrecorded.added hwf
  obtain ⟨hlineage, -⟩ := hadded.unreferred hkept
  have hreference : journal.journalReference = PostingLedger.generalJournalReference id := by
    rw [hrecorded.inserted.row]
    exact hnew
  let row : PostingReceiptRow := ⟨t.nextId, journal.generalJournalId, receipt.postingStatusCode,
    canonicalReceiptHash dep receipt⟩
  refine ⟨[.posting row], _, .one ?_ ?_ (announcement_posting hadded.found hreference)⟩
  · exact facts_posting hlineage (congrArg (· ++ [row]) hadded.receipts) hadded.reversals
      hadded.snapshots hadded.controls
  · unfold insertOutbox
    rw [hjournal, hreceipt]
    exact congrArg (· ++ _) hadded.outbox

theorem persistProposal_announces {t t' : Tables} (hwf : WellFormed dep t) (hkept : PostingsKept t)
    {proposal : JournalProposal} {suppliedPolicy : Option AccountingPolicy}
    {receipt : PostingReceipt}
    (h : persistProposal dep t proposal suppliedPolicy = .ok (receipt, t')) :
    ∃ added events, Announces dep t t' added events := by
  rcases persistProposal_ok dep h with ⟨-, -, -, -, rfl⟩ | ⟨-, hfresh⟩
  · exact ⟨[], [], .nothing rfl rfl⟩
  · obtain ⟨policy, _, _, _, lines, -, rfl, hwrite⟩ := persistFreshProposal_ok dep hfresh
    have hreference : (PostingLedger.postingReceipt proposal policy lines).journalReference =
        PostingLedger.generalJournalReference proposal.proposalId := rfl
    exact writePosting_announces hwf hkept hwrite rfl hreference rfl

theorem postAdjustingJournal_announces {t t' : Tables} (hwf : WellFormed dep t)
    (hkept : PostingsKept t) {request : AdjustingRequest}
    (h : postAdjustingJournal dep t request = .ok t') :
    ∃ added events, Announces dep t t' added events := by
  rcases postAdjustingJournal_ok dep h with ⟨-, -, rfl⟩ | ⟨-, -, policy, _, _, _, -, hwrite⟩
  · exact ⟨[], [], .nothing rfl rfl⟩
  · have hreference : (adjustingReceipt dep request policy).journalReference =
        PostingLedger.generalJournalReference request.proposalId := rfl
    exact writePosting_announces hwf hkept hwrite rfl hreference rfl

/-! ## Reversals -/

/-- A reversal's receipt is no posting: its lineage is the fact. -/
theorem facts_reversal {t t' : Tables} {lineage : JournalReversal} {receipt : PostingReceiptRow}
    (hof : lineage.reversalJournalId = receipt.generalJournalId)
    (hnot : ∀ r ∈ t.postingReceipts, r.generalJournalId ≠ lineage.reversalJournalId)
    (hreceipts : t'.postingReceipts = t.postingReceipts ++ [receipt])
    (hreversals : t'.reversals = t.reversals ++ [lineage])
    (hsnapshots : t'.snapshots = t.snapshots)
    (hcontrols : t'.bookPeriodControls = t.bookPeriodControls) :
    (facts t').Perm (.reversal lineage :: facts t) := by
  have hpostings : postings t' = postings t := by
    unfold postings
    rw [hreversals, hreceipts, List.filter_append, List.filter_cons_of_neg (by simp [hof]),
      List.filter_nil, List.append_nil]
    apply List.filter_congr
    intro r hr
    have hother : lineage.reversalJournalId ≠ r.generalJournalId := (hnot r hr).symm
    rw [decide_eq_decide]
    simp only [List.mem_append, List.mem_singleton, or_imp, forall_and, forall_eq]
    exact and_iff_left hother
  unfold facts
  rw [hpostings, hreversals, hsnapshots, hcontrols]
  simp only [List.map_append, List.map_cons, List.map_nil, List.append_assoc, List.cons_append,
    List.nil_append]
  rw [← List.append_assoc, ← List.append_assoc]
  exact List.perm_middle

theorem announcement_reversal {t : Tables} {lineage : JournalReversal}
    {receipt : PostingReceiptRow} {journal : GeneralJournal}
    (hfound : t.journal? lineage.reversalJournalId = some journal)
    (hreceipt : (t.postingReceipts.find? fun r =>
      r.generalJournalId = lineage.reversalJournalId) = some receipt) :
    announcement dep t (.reversal lineage) = some ⟨"journal_reversal", journal.journalReference,
      journal.journalReference ++ ":receipt", receipt.receiptPayloadHash⟩ := by
  rw [announcement, hfound, Option.bind_eq_bind, Option.bind_some, hreceipt]
  rfl

theorem reverse_announces {t t' : Tables} (hwf : WellFormed dep t) (hkept : PostingsKept t)
    {request : ReversalRequest} {policy : AccountingPolicy} {receipt : PostingReceipt}
    (h : reverse dep t request policy = .ok (receipt, t')) :
    ∃ added events, Announces dep t t' added events := by
  rcases reverse_ok dep h with ⟨_, -, -, rfl⟩ |
    ⟨original, period, originalRecord, journal, t₁, -, hreceipt, hrecorded, -, -, rfl⟩
  · exact ⟨[], [], .nothing rfl rfl⟩
  · have hadded := hrecorded.added hwf
    obtain ⟨-, hreceipts⟩ := hadded.unreferred hkept
    have hreference : journal.journalReference = request.journalReference ++ ":reversal" := by
      rw [hrecorded.inserted.row]
      rfl
    have hpayload : receipt.receiptReference = request.journalReference ++ ":reversal" ++ ":receipt" := by
      rw [hreceipt]
      rfl
    let row : PostingReceiptRow := ⟨t.nextId, journal.generalJournalId, receipt.postingStatusCode,
      canonicalReceiptHash dep receipt⟩
    let lineage : JournalReversal := ⟨original.generalJournalId, journal.generalJournalId,
      request.reversalReasonCode⟩
    have hrow : ((t₁.postingReceipts ++ [row]).find? fun r =>
        r.generalJournalId = journal.generalJournalId) = some row := by
      have hnone : (t.postingReceipts.find? fun r =>
          r.generalJournalId = journal.generalJournalId) = none := by
        rw [List.find?_eq_none]
        intro r hr
        simpa using hreceipts r hr
      rw [hadded.receipts, List.find?_append, hnone, Option.none_or]
      simp [row]
    refine ⟨[.reversal lineage], _, .one ?_ ?_ (announcement_reversal hadded.found hrow)⟩
    · exact @facts_reversal t _ lineage row rfl hreceipts
        (congrArg (· ++ [row]) hadded.receipts) (congrArg (· ++ [lineage]) hadded.reversals)
        hadded.snapshots hadded.controls
    · unfold insertOutbox
      rw [hpayload, hreference]
      exact congrArg (· ++ _) hadded.outbox

/-! ## Control rows -/

def BookPeriodControl.key (control : BookPeriodControl) : ℕ × ℕ :=
  (control.accountingBookId, control.fiscalPeriodId)

/-- The primary key of the control rows. -/
def ControlKeys (t : Tables) : Prop := (t.bookPeriodControls.map BookPeriodControl.key).Nodup

/-- Evidence is recorded on rows that are not open. -/
def EvidenceClosed (t : Tables) : Prop :=
  ∀ c ∈ t.bookPeriodControls, c.softClose ≠ none → c.periodStatus ≠ .opened

theorem controlKeys_materialized {t : Tables} (h : ControlKeys t) (period : FiscalPeriod) :
    ControlKeys (materialized dep t period) := by
  show ((t.bookPeriodControls ++ materializedControls dep t period).map BookPeriodControl.key).Nodup
  rw [List.map_append, List.nodup_append]
  refine ⟨h, ?_, ?_⟩
  · -- one row a book
    unfold materializedControls
    rw [List.map_map]
    have hbooks := dep.catalog.book_key.sublist
      ((List.filter_sublist (p := fun book : AccountingBook =>
        ¬∃ control ∈ t.bookPeriodControls, control.accountingBookId = book.accountingBookId ∧
          control.fiscalPeriodId = period.fiscalPeriodId).trans
        (List.filter_sublist (l := dep.catalog.books) (p := AccountingBook.isCurrent))).map
          AccountingBook.accountingBookId)
    refine List.Nodup.of_map Prod.fst ?_
    rw [List.map_map]
    exact hbooks
  · intro key hkey key' hkey' heq
    obtain ⟨c, hc, rfl⟩ := List.mem_map.mp hkey
    obtain ⟨d, hd, rfl⟩ := List.mem_map.mp hkey'
    obtain ⟨book, -, -, hnone, rfl⟩ := mem_materializedControls.mp hd
    exact hnone c hc ⟨congrArg Prod.fst heq, congrArg Prod.snd heq⟩

theorem controlKeys_step {t t' : Tables} (h : ControlKeys t) (hstep : StateStep dep t t') :
    ControlKeys t' := by
  unfold ControlKeys at h ⊢
  cases hstep with
  | same _ hcontrols _ _ =>
    rw [hcontrols]
    exact h
  | opened _ _ _ _ _ hcontrols _ _ =>
    rw [hcontrols]
    exact h
  | locked period _ _ hcontrols _ _ =>
    rw [hcontrols]
    exact controlKeys_materialized h period
  | closed book period control status _ hclose =>
    obtain ⟨f, hf, hcontrols⟩ := hclose.controls
    have hkeys := hf.key.updateRow book.accountingBookId period.fiscalPeriodId
    have hmap : BookPeriodControl.key ∘ updateRow book.accountingBookId period.fiscalPeriodId f =
        BookPeriodControl.key := by
      funext c
      exact Prod.ext (hkeys.book c) (hkeys.period c)
    rw [hcontrols, updateControl_eq_map, List.map_map, hmap]
    exact controlKeys_materialized h period

theorem evidenceClosed_step {t t' : Tables} (h : EvidenceClosed t) (hstep : StateStep dep t t') :
    EvidenceClosed t' := by
  apply hstep.rows h
  · exact fun c hnone hevidence => absurd hnone hevidence
  · intro control status f hf c _
    rw [hf.status_eq]
    rcases hf.forward with ⟨-, rfl⟩ | ⟨-, rfl⟩
    · decide
    · decide

/-- Missing rows are added without evidence. -/
theorem evidence_materialized (t : Tables) (period : FiscalPeriod) :
    (materialized dep t period).bookPeriodControls.filterMap softCloseFact =
      t.bookPeriodControls.filterMap softCloseFact := by
  show (t.bookPeriodControls ++ materializedControls dep t period).filterMap softCloseFact = _
  have hnone : (materializedControls dep t period).filterMap softCloseFact = [] := by
    rw [List.filterMap_eq_nil_iff]
    intro c hc
    obtain ⟨_, -, -, -, rfl⟩ := mem_materializedControls.mp hc
    rfl
  rw [List.filterMap_append, hnone, List.append_nil]

/-- Closing a row leaves the recorded evidence alone. -/
theorem evidence_closed (bookId fiscalPeriodId : ℕ) (status : PeriodStatus) (closedAt : Timestamp)
    (controls : List BookPeriodControl) :
    (updateControl bookId fiscalPeriodId (closedRow status closedAt) controls).filterMap
      softCloseFact = controls.filterMap softCloseFact := by
  rw [updateControl_eq_map, List.filterMap_map]
  apply List.filterMap_congr
  intro c _
  rw [Function.comp_apply, updateRow]
  split <;> rfl

/-! ## Closes -/

theorem facts_snapshot {t t' : Tables} {snapshot : TrialBalanceSnapshot}
    (hreceipts : t'.postingReceipts = t.postingReceipts) (hreversals : t'.reversals = t.reversals)
    (hsnapshots : t'.snapshots = t.snapshots ++ [snapshot])
    (hevidence : t'.bookPeriodControls.filterMap softCloseFact =
      t.bookPeriodControls.filterMap softCloseFact) :
    (facts t').Perm (.snapshot snapshot :: facts t) := by
  unfold facts postings
  rw [hreceipts, hreversals, hsnapshots, hevidence]
  rw [List.map_append, List.map_singleton, ← List.append_assoc, List.append_assoc _ [_],
    List.singleton_append]
  exact List.perm_middle

theorem facts_softClose {t t' : Tables} {fact : Fact}
    (hreceipts : t'.postingReceipts = t.postingReceipts) (hreversals : t'.reversals = t.reversals)
    (hsnapshots : t'.snapshots = t.snapshots)
    (hevidence : (t'.bookPeriodControls.filterMap softCloseFact).Perm
      (fact :: t.bookPeriodControls.filterMap softCloseFact)) :
    (facts t').Perm (fact :: facts t) := by
  unfold facts postings
  rw [hreceipts, hreversals, hsnapshots]
  exact (hevidence.append_left _).trans List.perm_middle

/-- The event of a close names its book and the period code of the request. -/
theorem closeAnnouncement_of {t t' : Tables}
    (hperiods : (t'.fiscalPeriods.map FiscalPeriod.fiscalPeriodId).Nodup) (he : Extends t t')
    {book : AccountingBook} (hbook : book ∈ dep.catalog.books) {code : String}
    {period : FiscalPeriod} (hperiod : periodByCode dep t code = some period)
    (payloadReference : String → String) (payloadHash : String) :
    closeAnnouncement dep t' book.accountingBookId period.fiscalPeriodId payloadReference
      payloadHash = some ⟨"period_close", book.bookName ++ ":fiscal_period:" ++ code,
        payloadReference code, payloadHash⟩ := by
  obtain ⟨hmem, hcode⟩ := periodByCode_mem dep hperiod
  obtain ⟨period', hmem', hid', hcode', -, -⟩ := he.periods period hmem
  have hfound : t'.period? period.fiscalPeriodId = some period' := by
    rw [← hid']
    exact find?_of_nodup_map hperiods hmem'
  rw [closeAnnouncement, bookName?_of_mem hbook, hfound, Option.bind_eq_bind, Option.bind_some,
    Option.bind_eq_bind, Option.bind_some, hcode', hcode]
  rfl

/-- A hard close adds its snapshot; its closing journal has no receipt. -/
theorem persistPeriodClose_announces {t t' : Tables} {request : CloseRequest}
    {entity : LegalEntityRecord} {book : AccountingBook} {period : FiscalPeriod}
    {receipt : PeriodCloseReceipt} (hwf : WellFormed dep (materialized dep t period))
    (hperiods : (t'.fiscalPeriods.map FiscalPeriod.fiscalPeriodId).Nodup)
    (he : Extends t t') (hbook : book ∈ dep.catalog.books)
    (hname : book.bookName = request.accountingBookReference)
    (hperiod : periodByCode dep t request.periodCode = some period)
    (h : persistPeriodClose dep (materialized dep t period) request entity book period =
      .ok (receipt, t')) : ∃ added events, Announces dep t t' added events := by
  obtain ⟨posted, t₁, hposted, -, rfl⟩ := persistPeriodClose_eq dep h
  have hkept : t₁.reversals = t.reversals ∧ t₁.postingReceipts = t.postingReceipts ∧
      t₁.snapshots = t.snapshots ∧
      t₁.bookPeriodControls = (materialized dep t period).bookPeriodControls ∧
      t₁.outboxEvents = t.outboxEvents := by
    rcases postClosingJournal_ok dep hposted with ⟨-, -, rfl⟩ | ⟨_, journal, -, -, hrecorded⟩
    · exact ⟨rfl, rfl, rfl, rfl, rfl⟩
    · have hadded := hrecorded.added hwf
      exact ⟨hadded.reversals, hadded.receipts, hadded.snapshots, hadded.controls, hadded.outbox⟩
  obtain ⟨hreversals, hreceipts, hsnapshots, hcontrols, houtbox⟩ := hkept
  have hevent := closeAnnouncement_of hperiods he hbook hperiod (fun _ =>
    "urn:cwl:accounting:trial_balance_snapshot:" ++ dep.uuidText t₁.nextId)
    (newSnapshot dep t₁ request entity book period).sourcePayloadHash
  refine ⟨[.snapshot (newSnapshot dep t₁ request entity book period)], _, .one ?_ ?_ hevent⟩
  · refine facts_snapshot hreceipts hreversals (congrArg (· ++ [_]) hsnapshots) ?_
    show (updateControl book.accountingBookId period.fiscalPeriodId (closedRow .hardClosed t₁.clock)
      t₁.bookPeriodControls).filterMap softCloseFact = _
    rw [evidence_closed, hcontrols, evidence_materialized]
  · rw [hname]
    exact congrArg (· ++ [_]) houtbox

/-- A soft close adds the evidence it records on the open row. -/
theorem persistSoftClose_announces {t t' : Tables} {request : CloseRequest}
    {entity : LegalEntityRecord} {book : AccountingBook} {period : FiscalPeriod}
    {control : BookPeriodControl} {receipt : PeriodCloseReceipt} (hkeys : ControlKeys t)
    (hnone : control.softClose = none) (hcontrol : control ∈
      (materialized dep t period).bookPeriodControls)
    (hfor : control.IsFor book.accountingBookId period.fiscalPeriodId)
    (hperiods : (t'.fiscalPeriods.map FiscalPeriod.fiscalPeriodId).Nodup)
    (he : Extends t t') (hbook : book ∈ dep.catalog.books)
    (hname : book.bookName = request.accountingBookReference)
    (hperiod : periodByCode dep t request.periodCode = some period)
    (h : persistSoftClose dep (materialized dep t period) request entity book period control =
      .ok (receipt, t')) : ∃ added events, Announces dep t t' added events := by
  obtain ⟨evidence, -, rfl⟩ := persistSoftClose_eq dep h
  have hevent := closeAnnouncement_of hperiods he hbook hperiod fiscalPeriodReference
    evidence.sourcePayloadHash
  refine ⟨[.softClose book.accountingBookId period.fiscalPeriodId evidence], _, .one ?_ ?_ hevent⟩
  · refine facts_softClose rfl rfl rfl ?_
    show (updateControl book.accountingBookId period.fiscalPeriodId (recordEvidence evidence)
      (updateControl book.accountingBookId period.fiscalPeriodId (closedRow .softClosed t.clock)
        (materialized dep t period).bookPeriodControls)).filterMap softCloseFact |>.Perm _
    rw [updateControl_updateControl (closedRow_keepsKey _ _), updateControl_eq_map,
      ← evidence_materialized t period]
    refine filterMap_update_perm (controlKeys_materialized hkeys period) hcontrol ?_ ?_ ?_
    · -- only the row of this book and period changes
      intro c _ hother
      refine updateRow_of_not fun hc => hother ?_
      exact Prod.ext (hc.1.trans hfor.1.symm) (hc.2.trans hfor.2.symm)
    · unfold softCloseFact
      rw [hnone, Option.map_none]
    · rw [updateRow_of_isFor hfor]
      show some (Fact.softClose control.accountingBookId control.fiscalPeriodId evidence) = _
      rw [hfor.1, hfor.2]
  · rw [hname]
    rfl

theorem Announces.clock {t t' : Tables} {added : List Fact} {events : List OutboxEvent}
    (h : Announces dep t t' added events) (clock : Timestamp) :
    Announces dep t { t' with clock := clock } added events where
  rows := h.rows
  outbox := h.outbox
  announced := by
    have hsame : announcement dep { t' with clock := clock } = announcement dep t' := by
      funext fact
      cases fact <;> rfl
    rw [hsame]
    exact h.announced
  single := h.single

theorem closeFiscalPeriod_announces {t t' : Tables} (hwf : WellFormed dep t) (hkeys : ControlKeys t)
    (hclosed : EvidenceClosed t) {request : CloseRequest} {receipt : PeriodCloseReceipt}
    (hperiods : (t'.fiscalPeriods.map FiscalPeriod.fiscalPeriodId).Nodup)
    (he : Extends t t')
    (h : closeFiscalPeriod dep t request = .ok (receipt, t')) :
    ∃ added events, Announces dep t t' added events := by
  obtain ⟨entity, book, period, control, t₁, hlocked, hcases⟩ := closeFiscalPeriod_cases dep h
  obtain ⟨hperiod, ht₁, hfound⟩ := lockBookPeriod_ok dep hlocked.lock
  obtain ⟨-, -, hbook, -, hname, -⟩ := dep.loadScope_ok hlocked.scope
  obtain ⟨hcontrol, hfor⟩ := find_control_mem hfound
  obtain rfl : t₁ = materialized dep t period := ht₁
  rcases hcases with ⟨-, -, rfl⟩ | ⟨hopen, -, hsoft⟩ | ⟨-, -, -, hhard⟩
  · refine ⟨[], [], ?_, (List.append_nil _).symm, rfl, Nat.zero_le 1⟩
    unfold facts
    rw [evidence_materialized]
    exact List.Perm.refl _
  · have hnone : control.softClose = none := by
      by_contra hevidence
      rcases List.mem_append.mp hcontrol with hc | hc
      · exact hclosed control hc hevidence hopen
      · obtain ⟨_, -, -, -, rfl⟩ := mem_materializedControls.mp hc
        exact hevidence rfl
    exact persistSoftClose_announces hkeys hnone hcontrol hfor hperiods he hbook hname hperiod hsoft
  · have hmat := hwf.materialized (periodByCode_mem dep hperiod).1
    exact persistPeriodClose_announces hmat hperiods he hbook hname hperiod hhard

/-- Whatever a command commits, it announces. -/
theorem execute_announces {t : Tables} (hwf : WellFormed dep t) (hkept : PostingsKept t)
    (hkeys : ControlKeys t) (hclosed : EvidenceClosed t) (command : Command) :
    ∃ added events, Announces dep t (execute dep t command) added events := by
  have hwf' := wellFormed_execute hwf command
  have he := extends_execute hwf command
  cases ha : attempt dep t command with
  | error e =>
    rw [execute_of_error dep ha]
    exact ⟨[], [], .nothing rfl rfl⟩
  | ok t' =>
    rw [execute_of_ok dep ha] at hwf' he ⊢
    suffices h : ∃ added events, Announces dep t t' added events by
      obtain ⟨added, events, h⟩ := h
      exact ⟨added, events, h.clock _⟩
    cases command with
    | openFiscalPeriod request =>
      obtain ⟨⟨document, t''⟩, hok, rfl⟩ := map_eq_ok.mp ha
      rcases openFiscalPeriod_ok dep hok with rfl | ⟨command, rfl | ⟨period, -, -, -, rfl⟩⟩
      · exact ⟨[], [], .nothing rfl rfl⟩
      · exact ⟨[], [], .nothing rfl rfl⟩
      · exact ⟨[], [], .nothing rfl rfl⟩
    | post proposal policy =>
      obtain ⟨⟨receipt, t''⟩, hok, rfl⟩ := map_eq_ok.mp ha
      exact persistProposal_announces hwf hkept hok
    | postProposal proposal =>
      obtain ⟨⟨receipt, t''⟩, hok, rfl⟩ := map_eq_ok.mp ha
      exact persistProposal_announces hwf hkept hok
    | postAdjustingJournal request => exact postAdjustingJournal_announces hwf hkept ha
    | reverse request policy =>
      obtain ⟨⟨receipt, t''⟩, hok, rfl⟩ := map_eq_ok.mp ha
      exact reverse_announces hwf hkept hok
    | closeFiscalPeriod request =>
      obtain ⟨⟨receipt, t''⟩, hok, rfl⟩ := map_eq_ok.mp ha
      exact closeFiscalPeriod_announces hwf hkeys hclosed
        hwf'.period_keys { he with } hok

end AccountingPlatform.Postgres
