/-
  Identities of announced facts.

  The outbox mirrors the facts after every run. Two facts are announced under one identity
  only when they are soft closes of one period by different books of one name
  (`identities_nodup_iff`): the event of a soft close names the book and the period, not the
  legal entity.
-/
import AccountingPlatform.Postgres.Announcements

namespace AccountingPlatform.Postgres

open AccountingPlatform.Lib AccountingPlatform.Core

variable (dep : Deployment)

/-! ## The invariant -/

/-- The outbox mirrors the facts, and the rows behind the facts have their keys. -/
structure OutboxKept (t : Tables) : Prop where
  announced : Announced dep t
  receipt_keys : (t.postingReceipts.map PostingReceiptRow.generalJournalId).Nodup
  snapshot_keys : (t.snapshots.map TrialBalanceSnapshot.trialBalanceSnapshotId).Nodup
  snapshot_lt : ∀ s ∈ t.snapshots, s.trialBalanceSnapshotId < t.nextId
  control_keys : ControlKeys t
  evidence_closed : EvidenceClosed t

variable {dep}

theorem outboxKept_empty : OutboxKept dep Tables.empty where
  announced := List.Perm.refl _
  receipt_keys := List.nodup_nil
  snapshot_keys := List.nodup_nil
  snapshot_lt := fun _ h => nomatch h
  control_keys := List.nodup_nil
  evidence_closed := fun _ h => nomatch h

/-- Receipts are only added, one a journal. -/
theorem receipts_execute {t : Tables} (hwf : WellFormed dep t) (hkept : PostingsKept t)
    (command : Command) :
    t.postingReceipts <+: (execute dep t command).postingReceipts ∧
      ((t.postingReceipts.map PostingReceiptRow.generalJournalId).Nodup →
        ((execute dep t command).postingReceipts.map PostingReceiptRow.generalJournalId).Nodup) := by
  rcases execute_booked hwf command with hu | ⟨record, journal, lineage, hb⟩
  · rw [hu.receipts]
    exact ⟨List.prefix_refl _, id⟩
  · rw [hb.receipts]
    refine ⟨List.prefix_append _ _, fun hn => ?_⟩
    cases builtReceipt dep t command with
    | none =>
      rw [Option.map_none, Option.toList_none, List.append_nil]
      exact hn
    | some receipt =>
      refine nodup_map_concat hn fun r hr => ?_
      obtain ⟨j, hj, hid, -⟩ := hkept.receipt_of r hr
      have hlt := hwf.journal_lt j hj
      have hnew := hb.journal_id
      show r.generalJournalId ≠ journal.generalJournalId
      omega

/-- A snapshot takes the next number. -/
theorem snapshots_effect {t t' : Tables} {command : Command} (he : Effect dep t command t') :
    t.nextId ≤ t'.nextId ∧ (t'.snapshots = t.snapshots ∨ ∃ s : TrialBalanceSnapshot,
      t.nextId ≤ s.trialBalanceSnapshotId ∧ s.trialBalanceSnapshotId < t'.nextId ∧
        t'.snapshots = t.snapshots ++ [s]) := by
  cases he with
  | idle commands _ => exact ⟨Nat.le_refl _, Or.inl rfl⟩
  | opened period commands hid hopen hcode => exact ⟨Nat.le_succ _, Or.inl rfl⟩
  | @posted _ _ _ t₁ hwritten _ _ =>
    refine ⟨?_, Or.inl hwritten.snapshots⟩
    show t.nextId ≤ t₁.nextId
    rw [hwritten.nextId]
    omega
  | locked period hperiod _ _ => exact ⟨Nat.le_refl _, Or.inl rfl⟩
  | softClosed hclosable hopen _ evidence outbox => exact ⟨Nat.le_refl _, Or.inl rfl⟩
  | @hardClosed request entity book period control posted t₂ hclosable _ _ _ hposted hunique outbox =>
    obtain ⟨-, -, hsnapshots, -⟩ := hposted.keeps
    have hnext : t.nextId ≤ t₂.nextId := by
      cases hposted with
      | nothing => exact Nat.le_refl _
      | journal _ hwritten =>
        have hid : t₂.nextId = t.nextId + 2 := hwritten.nextId
        omega
    refine ⟨hnext.trans (Nat.le_succ _), Or.inr ⟨newSnapshot dep t₂ request entity book period,
      hnext, Nat.lt_succ_self _, ?_⟩⟩
    exact congrArg (· ++ [_]) hsnapshots

theorem snapshots_execute {t : Tables} (hwf : WellFormed dep t) (command : Command) :
    t.nextId ≤ (execute dep t command).nextId ∧
      ((execute dep t command).snapshots = t.snapshots ∨ ∃ s : TrialBalanceSnapshot,
        t.nextId ≤ s.trialBalanceSnapshotId ∧
          s.trialBalanceSnapshotId < (execute dep t command).nextId ∧
          (execute dep t command).snapshots = t.snapshots ++ [s]) := by
  rcases execute_effect hwf command with ⟨-, heq⟩ | ⟨-, he⟩
  · rw [heq]
    exact ⟨Nat.le_refl _, Or.inl rfl⟩
  · exact snapshots_effect he

theorem outboxKept_execute {t : Tables} (hwf : WellFormed dep t) (hkept : PostingsKept t)
    (h : OutboxKept dep t) (command : Command) : OutboxKept dep (execute dep t command) := by
  have hstep := @stateStep_execute dep t command
  obtain ⟨added, events, hannounces⟩ :=
    execute_announces hwf hkept h.control_keys h.evidence_closed command
  obtain ⟨hinitial, hkeys⟩ := receipts_execute hwf hkept command
  obtain ⟨hnext, hsnapshots⟩ := snapshots_execute hwf command
  refine ⟨?_, hkeys h.receipt_keys, ?_, ?_, controlKeys_step h.control_keys hstep,
    evidenceClosed_step h.evidence_closed hstep⟩
  · exact hannounces.announced_kept (wellFormed_execute hwf command) (extends_execute hwf command)
      hinitial h.announced
  · rcases hsnapshots with heq | ⟨s, hle, -, heq⟩
    · rw [heq]
      exact h.snapshot_keys
    · rw [heq]
      exact nodup_map_concat h.snapshot_keys fun r hr => ((h.snapshot_lt r hr).trans_le hle).ne
  · intro s hs
    rcases hsnapshots with heq | ⟨new, -, hlt, heq⟩
    · rw [heq] at hs
      exact (h.snapshot_lt s hs).trans_le hnext
    · rw [heq] at hs
      rcases List.mem_append.mp hs with hs | hs
      · exact (h.snapshot_lt s hs).trans_le hnext
      · rw [List.mem_singleton.mp hs]
        exact hlt

/-- Every reachable outbox mirrors the facts. -/
theorem outboxKept_ledgerAfter (commands : List Command) :
    OutboxKept dep (ledgerAfter dep commands) := by
  induction commands using List.reverseRecOn with
  | nil => exact outboxKept_empty
  | append_singleton commands command ih =>
    rw [ledgerAfter_concat]
    exact outboxKept_execute (wellFormed_ledgerAfter commands) (postingsKept_ledgerAfter commands)
      ih command

/-! ## Distinct facts -/

theorem mem_softCloseFacts {t : Tables} {fact : Fact} :
    fact ∈ t.bookPeriodControls.filterMap softCloseFact ↔ ∃ c ∈ t.bookPeriodControls,
      ∃ evidence, c.softClose = some evidence ∧
        fact = .softClose c.accountingBookId c.fiscalPeriodId evidence := by
  simp only [List.mem_filterMap, softCloseFact, Option.map_eq_some_iff]
  constructor
  · rintro ⟨c, hc, evidence, he, rfl⟩
    exact ⟨c, hc, evidence, he, rfl⟩
  · rintro ⟨c, hc, evidence, he, rfl⟩
    exact ⟨c, hc, evidence, he, rfl⟩

theorem mem_facts {t : Tables} {fact : Fact} :
    fact ∈ facts t ↔ (∃ receipt ∈ postings t, fact = .posting receipt) ∨
      (∃ lineage ∈ t.reversals, fact = .reversal lineage) ∨
      (∃ snapshot ∈ t.snapshots, fact = .snapshot snapshot) ∨
      ∃ c ∈ t.bookPeriodControls, ∃ evidence, c.softClose = some evidence ∧
        fact = .softClose c.accountingBookId c.fiscalPeriodId evidence := by
  unfold facts
  simp only [List.mem_append, List.mem_map, mem_softCloseFacts, or_assoc, eq_comm (b := fact)]

theorem posting_mem_facts {t : Tables} {receipt : PostingReceiptRow} :
    Fact.posting receipt ∈ facts t ↔ receipt ∈ postings t := by
  simp [mem_facts]

theorem reversal_mem_facts {t : Tables} {lineage : JournalReversal} :
    Fact.reversal lineage ∈ facts t ↔ lineage ∈ t.reversals := by
  simp [mem_facts]

theorem snapshot_mem_facts {t : Tables} {snapshot : TrialBalanceSnapshot} :
    Fact.snapshot snapshot ∈ facts t ↔ snapshot ∈ t.snapshots := by
  simp [mem_facts]

theorem softClose_mem_facts {t : Tables} {bookId fiscalPeriodId : ℕ} {evidence : SoftCloseEvidence} :
    Fact.softClose bookId fiscalPeriodId evidence ∈ facts t ↔ ∃ c ∈ t.bookPeriodControls,
      c.softClose = some evidence ∧ c.IsFor bookId fiscalPeriodId := by
  simp only [mem_facts, reduceCtorEq, and_false, exists_false, false_or, Fact.softClose.injEq,
    BookPeriodControl.IsFor]
  constructor
  · rintro ⟨c, hc, e, he, rfl, rfl, rfl⟩
    exact ⟨c, hc, he, rfl, rfl⟩
  · rintro ⟨c, hc, he, rfl, rfl⟩
    exact ⟨c, hc, evidence, he, rfl, rfl, rfl⟩

theorem OutboxKept.facts_nodup {t : Tables} (h : OutboxKept dep t) (hkept : PostingsKept t) :
    (facts t).Nodup := by
  have hpostings : (postings t).Nodup := by
    unfold postings
    exact (List.Nodup.of_map _ h.receipt_keys).filter _
  have hevidence : (t.bookPeriodControls.filterMap softCloseFact).Nodup := by
    rw [List.Nodup, List.pairwise_filterMap]
    have hkeys : t.bookPeriodControls.Pairwise fun c d => c.key ≠ d.key :=
      List.pairwise_map.mp h.control_keys
    refine hkeys.imp fun {c d} hne fact hfact fact' hfact' heq => ?_
    simp only [softCloseFact, Option.map_eq_some_iff] at hfact hfact'
    obtain ⟨e, -, rfl⟩ := hfact
    obtain ⟨e', -, rfl⟩ := hfact'
    injection heq with hbook hperiod
    exact hne (Prod.ext hbook hperiod)
  unfold facts
  rw [List.nodup_append, List.nodup_append, List.nodup_append]
  refine ⟨⟨⟨?_, ?_, ?_⟩, ?_, ?_⟩, hevidence, ?_⟩
  · exact hpostings.map fun _ _ heq => Fact.posting.inj heq
  · exact (List.Nodup.of_map _ hkept.reversal_keys).map fun _ _ heq => Fact.reversal.inj heq
  · intro fact hfact fact' hfact' heq
    obtain ⟨_, -, rfl⟩ := List.mem_map.mp hfact
    obtain ⟨_, -, rfl⟩ := List.mem_map.mp hfact'
    cases heq
  · exact (List.Nodup.of_map _ h.snapshot_keys).map fun _ _ heq => Fact.snapshot.inj heq
  · intro fact hfact fact' hfact' heq
    obtain ⟨_, -, rfl⟩ := List.mem_map.mp hfact'
    rcases List.mem_append.mp hfact with hfact | hfact
    · obtain ⟨_, -, rfl⟩ := List.mem_map.mp hfact
      cases heq
    · obtain ⟨_, -, rfl⟩ := List.mem_map.mp hfact
      cases heq
  · intro fact hfact fact' hfact' heq
    obtain ⟨_, -, _, -, rfl⟩ := mem_softCloseFacts.mp hfact'
    subst heq
    rcases List.mem_append.mp hfact with hfact | hfact
    · rcases List.mem_append.mp hfact with hfact | hfact
      · obtain ⟨_, -, heq⟩ := List.mem_map.mp hfact
        cases heq
      · obtain ⟨_, -, heq⟩ := List.mem_map.mp hfact
        cases heq
    · obtain ⟨_, -, heq⟩ := List.mem_map.mp hfact
      cases heq

/-! ## Identities -/

/-- `event_type_code`, `aggregate_reference` and `payload_reference`. -/
def OutboxEvent.identity (event : OutboxEvent) : String × String × String :=
  (event.eventTypeCode, event.aggregateReference, event.payloadReference)

variable (dep) in
/-- No period has recorded soft closes of two books of one name. -/
def SoftClosesApart (t : Tables) : Prop :=
  ∀ c ∈ t.bookPeriodControls, ∀ c' ∈ t.bookPeriodControls, c.softClose ≠ none → c'.softClose ≠ none →
    c.fiscalPeriodId = c'.fiscalPeriodId →
      bookName? dep c.accountingBookId = bookName? dep c'.accountingBookId →
        c.accountingBookId = c'.accountingBookId

variable (dep) in
/-- The texts of the UUIDs generated so far differ. -/
def UuidsDistinct (nextId : ℕ) : Prop :=
  ∀ m < nextId, ∀ n < nextId, dep.uuidText m = dep.uuidText n → m = n

/-- The references of a close read off its rows. -/
theorem closeAnnouncement_some {t : Tables} {bookId fiscalPeriodId : ℕ}
    {payloadReference : String → String} {payloadHash : String} {event : OutboxEvent}
    (h : closeAnnouncement dep t bookId fiscalPeriodId payloadReference payloadHash = some event) :
    ∃ bookName period, bookName? dep bookId = some bookName ∧
      t.period? fiscalPeriodId = some period ∧
      event.identity = ("period_close", bookName ++ ":fiscal_period:" ++ period.periodCode,
        payloadReference period.periodCode) := by
  unfold closeAnnouncement at h
  simp only [Option.bind_eq_bind, Option.bind_eq_some_iff] at h
  obtain ⟨bookName, hbook, period, hperiod, hevent⟩ := h
  refine ⟨bookName, period, hbook, hperiod, ?_⟩
  cases hevent
  rfl

/-- Texts after two prefixes that differ in their first characters differ. -/
theorem append_ne_of_take {a b : String} (n : ℕ) (ha : n ≤ a.toList.length) (hb : n ≤ b.toList.length)
    (hne : a.toList.take n ≠ b.toList.take n) (x y : String) : a ++ x ≠ b ++ y := by
  intro heq
  apply hne
  have htake := congrArg (fun text : String => text.toList.take n) heq
  simp only [String.toList_append] at htake
  rwa [List.take_append_of_le_length ha, List.take_append_of_le_length hb] at htake

theorem snapshotReference_ne (x y : String) :
    "urn:cwl:accounting:trial_balance_snapshot:" ++ x ≠ fiscalPeriodReference y :=
  append_ne_of_take 20 (by decide +kernel) (by decide +kernel) (by decide +kernel) x y

/-- The identity of a fact, by the kind of the fact. -/
inductive Identified (dep : Deployment) (t : Tables) : Fact → String × String × String → Prop
  | posting {receipt : PostingReceiptRow} {journal : GeneralJournal}
      (hjournal : t.journal? receipt.generalJournalId = some journal) :
      Identified dep t (.posting receipt) ("posting_receipt", journal.journalReference,
        postingReceiptReference journal.journalReference)
  | reversal {lineage : JournalReversal} {journal : GeneralJournal}
      (hjournal : t.journal? lineage.reversalJournalId = some journal) :
      Identified dep t (.reversal lineage) ("journal_reversal", journal.journalReference,
        journal.journalReference ++ ":receipt")
  | snapshot {snapshot : TrialBalanceSnapshot} {bookName : String} {period : FiscalPeriod} :
      Identified dep t (.snapshot snapshot) ("period_close",
        bookName ++ ":fiscal_period:" ++ period.periodCode,
        "urn:cwl:accounting:trial_balance_snapshot:" ++
          dep.uuidText snapshot.trialBalanceSnapshotId)
  | softClose {bookId fiscalPeriodId : ℕ} {evidence : SoftCloseEvidence} {bookName : String}
      {period : FiscalPeriod} (hbook : bookName? dep bookId = some bookName)
      (hperiod : t.period? fiscalPeriodId = some period) :
      Identified dep t (.softClose bookId fiscalPeriodId evidence) ("period_close",
        bookName ++ ":fiscal_period:" ++ period.periodCode,
        fiscalPeriodReference period.periodCode)

theorem announcement_identified {t : Tables} {fact : Fact} {event : OutboxEvent}
    (h : announcement dep t fact = some event) : Identified dep t fact event.identity := by
  cases fact with
  | posting receipt =>
    simp only [announcement, Option.bind_eq_bind, Option.bind_eq_some_iff] at h
    obtain ⟨journal, hjournal, hevent⟩ := h
    cases hevent
    exact .posting hjournal
  | reversal lineage =>
    simp only [announcement, Option.bind_eq_bind, Option.bind_eq_some_iff] at h
    obtain ⟨journal, hjournal, receipt, -, hevent⟩ := h
    cases hevent
    exact .reversal hjournal
  | snapshot snapshot =>
    unfold announcement at h
    obtain ⟨bookName, period, -, -, hidentity⟩ := closeAnnouncement_some h
    rw [hidentity]
    exact .snapshot
  | softClose bookId fiscalPeriodId evidence =>
    unfold announcement at h
    obtain ⟨bookName, period, hbook, hperiod, hidentity⟩ := closeAnnouncement_some h
    rw [hidentity]
    exact .softClose hbook hperiod

/-- Journals of one reference are one journal. -/
theorem WellFormed.journal_of_reference {t : Tables} (h : WellFormed dep t) {m n : ℕ}
    {journal journal' : GeneralJournal} (hj : t.journal? m = some journal)
    (hj' : t.journal? n = some journal')
    (href : journal.journalReference = journal'.journalReference) : m = n := by
  have hid : journal.generalJournalId = m := by simpa using List.find?_some hj
  have hid' : journal'.generalJournalId = n := by simpa using List.find?_some hj'
  have hsame : journal = journal' := List.inj_on_of_nodup_map h.reference_keys
    (List.mem_of_find?_eq_some hj) (List.mem_of_find?_eq_some hj') href
  rw [← hid, ← hid', hsame]

/-- Two soft closes under one identity are one, when no soft closes share theirs. -/
theorem OutboxKept.softClose_inj {t : Tables} (h : OutboxKept dep t) (hwf : WellFormed dep t)
    (hapart : SoftClosesApart dep t) {c c' : BookPeriodControl} (hc : c ∈ t.bookPeriodControls)
    (hc' : c' ∈ t.bookPeriodControls) {evidence evidence' : SoftCloseEvidence}
    (he : c.softClose = some evidence) (he' : c'.softClose = some evidence')
    {bookName bookName' : String} {period period' : FiscalPeriod}
    (hbook : bookName? dep c.accountingBookId = some bookName)
    (hbook' : bookName? dep c'.accountingBookId = some bookName')
    (hperiod : t.period? c.fiscalPeriodId = some period)
    (hperiod' : t.period? c'.fiscalPeriodId = some period')
    (haggregate : bookName ++ ":fiscal_period:" ++ period.periodCode =
      bookName' ++ ":fiscal_period:" ++ period'.periodCode)
    (hpayload : fiscalPeriodReference period.periodCode =
      fiscalPeriodReference period'.periodCode) : c = c' := by
  obtain ⟨hmem, hid⟩ := period?_mem hperiod
  obtain ⟨hmem', hid'⟩ := period?_mem hperiod'
  have hcode : period.periodCode = period'.periodCode := (String.append_right_inj _).mp hpayload
  obtain rfl : period = period' := List.inj_on_of_nodup_map hwf.code_keys hmem hmem' hcode
  have hname : bookName = bookName' := by
    have happend := (String.append_left_inj _).mp haggregate
    exact (String.append_left_inj _).mp happend
  have hsame : c.accountingBookId = c'.accountingBookId := by
    refine hapart c hc c' hc' ?_ ?_ (hid.symm.trans hid') ?_
    · rw [he]
      exact Option.some_ne_none _
    · rw [he']
      exact Option.some_ne_none _
    · rw [hbook, hbook', hname]
  exact List.inj_on_of_nodup_map h.control_keys hc hc' (Prod.ext hsame (hid.symm.trans hid'))

/-- Facts under one identity are one fact, when no soft closes share theirs. -/
theorem OutboxKept.identified_inj {t : Tables} (h : OutboxKept dep t) (hwf : WellFormed dep t)
    (hkept : PostingsKept t) (huuid : UuidsDistinct dep t.nextId) (hapart : SoftClosesApart dep t)
    {fact fact' : Fact} (hfact : fact ∈ facts t) (hfact' : fact' ∈ facts t)
    {identity identity' : String × String × String} (hid : Identified dep t fact identity)
    (hid' : Identified dep t fact' identity') (heq : identity = identity') : fact = fact' := by
  cases hid with
  | posting hjournal =>
    cases hid' with
    | posting hjournal' =>
      have hone := hwf.journal_of_reference hjournal hjournal' (congrArg (·.2.1) heq)
      have hmem := (List.mem_filter.mp (posting_mem_facts.mp hfact)).1
      have hmem' := (List.mem_filter.mp (posting_mem_facts.mp hfact')).1
      rw [List.inj_on_of_nodup_map h.receipt_keys hmem hmem' hone]
    | _ => simp at heq
  | reversal hjournal =>
    cases hid' with
    | reversal hjournal' =>
      have hone := hwf.journal_of_reference hjournal hjournal' (congrArg (·.2.1) heq)
      rw [List.inj_on_of_nodup_map hkept.reversal_keys (reversal_mem_facts.mp hfact)
        (reversal_mem_facts.mp hfact') hone]
    | _ => simp at heq
  | @snapshot snapshot =>
    cases hid' with
    | @snapshot snapshot' =>
      have hmem := snapshot_mem_facts.mp hfact
      have hmem' := snapshot_mem_facts.mp hfact'
      have htext := (String.append_right_inj _).mp (congrArg (·.2.2) heq)
      have hone := huuid _ (h.snapshot_lt _ hmem) _ (h.snapshot_lt _ hmem') htext
      rw [List.inj_on_of_nodup_map h.snapshot_keys hmem hmem' hone]
    | softClose => exact absurd (congrArg (·.2.2) heq) (snapshotReference_ne _ _)
    | _ => simp at heq
  | softClose hbook hperiod =>
    cases hid' with
    | softClose hbook' hperiod' =>
      obtain ⟨c, hc, he, hfor⟩ := softClose_mem_facts.mp hfact
      obtain ⟨c', hc', he', hfor'⟩ := softClose_mem_facts.mp hfact'
      rw [← hfor.1] at hbook
      rw [← hfor.2] at hperiod
      rw [← hfor'.1] at hbook'
      rw [← hfor'.2] at hperiod'
      obtain rfl : c = c' := h.softClose_inj hwf hapart hc hc' he he' hbook hbook' hperiod hperiod'
        (congrArg (·.2.1) heq) (congrArg (·.2.2) heq)
      rw [← hfor.1, ← hfor.2, ← hfor'.1, ← hfor'.2, Option.some.inj (he.symm.trans he')]
    | snapshot => exact absurd (congrArg (·.2.2) heq).symm (snapshotReference_ne _ _)
    | _ => simp at heq

/-- Every fact has its event. -/
theorem OutboxKept.announcement_some {t : Tables} (h : OutboxKept dep t) {fact : Fact}
    (hfact : fact ∈ facts t) : ∃ event ∈ t.outboxEvents, announcement dep t fact = some event := by
  obtain ⟨event, hevent, heq⟩ := List.mem_map.mp
    (h.announced.mem_iff.mpr (List.mem_map.mpr ⟨fact, hfact, rfl⟩))
  exact ⟨event, hevent, heq.symm⟩

/-- Events of different facts have different identities exactly when soft closes are apart. -/
theorem OutboxKept.identities_nodup_iff {t : Tables} (h : OutboxKept dep t)
    (hwf : WellFormed dep t) (hkept : PostingsKept t) (huuid : UuidsDistinct dep t.nextId) :
    (t.outboxEvents.map OutboxEvent.identity).Nodup ↔ SoftClosesApart dep t := by
  have hnodup : (t.outboxEvents.map OutboxEvent.identity).Nodup ↔
      ((facts t).map fun fact => (announcement dep t fact).map OutboxEvent.identity).Nodup := by
    have hperm := (h.announced.map (Option.map OutboxEvent.identity)).nodup_iff
    rw [List.map_map, List.map_map] at hperm
    rw [← List.nodup_map_iff (Option.some_injective _), List.map_map]
    exact hperm
  rw [hnodup, List.nodup_map_iff_inj_on (h.facts_nodup hkept)]
  constructor
  · intro hinj c hc c' hc' he he' hperiod hbook
    obtain ⟨e, he⟩ := Option.ne_none_iff_exists'.mp he
    obtain ⟨e', he'⟩ := Option.ne_none_iff_exists'.mp he'
    have hsame := hinj _ (softClose_mem_facts.mpr ⟨c, hc, he, rfl, rfl⟩) _
      (softClose_mem_facts.mpr ⟨c', hc', he', rfl, rfl⟩) ?_
    · injection hsame
    · simp only [announcement, closeAnnouncement, hbook, hperiod, Option.bind_eq_bind]
      cases bookName? dep c'.accountingBookId with
      | none => rfl
      | some bookName =>
        cases t.period? c'.fiscalPeriodId with
        | none => rfl
        | some period => rfl
  · intro hapart fact hfact fact' hfact' heq
    obtain ⟨event, -, hevent⟩ := h.announcement_some hfact
    obtain ⟨event', -, hevent'⟩ := h.announcement_some hfact'
    rw [hevent, hevent', Option.map_some, Option.map_some, Option.some.injEq] at heq
    exact h.identified_inj hwf hkept huuid hapart hfact hfact' (announcement_identified hevent)
      (announcement_identified hevent') heq

/-! ## Soft closes of books of one name -/

/-- The book has a recorded soft close of the period. -/
def RecordedFor (t : Tables) (bookId fiscalPeriodId : ℕ) : Prop :=
  ∃ c ∈ t.bookPeriodControls, c.IsFor bookId fiscalPeriodId ∧ c.softClose ≠ none

variable (dep) in
/-- A close that commits and finds the row of its book open, and not a hard close. -/
structure SoftCloses (t : Tables) (request : CloseRequest) (book : AccountingBook)
    (period : FiscalPeriod) : Prop where
  committed : Succeeds (closeFiscalPeriod dep t request)
  scope : ∃ entity, dep.loadScope request.legalEntityReference request.accountingBookReference
    "the close" = .ok (entity, book)
  period_eq : periodByCode dep t request.periodCode = some period
  soft : request.periodStatusCode ≠ "hard_closed"
  opened : t.bookPeriodStatus book.accountingBookId period = .opened

variable (dep) in
/-- The command soft-closes a period that another book of the same name has soft-closed. -/
def RecordsTwin (t : Tables) : Command → Prop
  | .closeFiscalPeriod request => ∃ book period bookId, SoftCloses dep t request book period ∧
      RecordedFor t bookId period.fiscalPeriodId ∧ bookId ≠ book.accountingBookId ∧
      bookName? dep bookId = some book.bookName
  | _ => False

theorem softClosesApart_iff {t : Tables} : SoftClosesApart dep t ↔ ∀ bookId bookId' fiscalPeriodId,
    RecordedFor t bookId fiscalPeriodId → RecordedFor t bookId' fiscalPeriodId →
      bookName? dep bookId = bookName? dep bookId' → bookId = bookId' := by
  constructor
  · rintro h _ _ _ ⟨c, hc, ⟨rfl, rfl⟩, he⟩ ⟨c', hc', ⟨rfl, hperiod⟩, he'⟩ hname
    exact h c hc c' hc' he he' hperiod.symm hname
  · intro h c hc c' hc' he he' hperiod hname
    exact h _ _ _ ⟨c, hc, ⟨rfl, rfl⟩, he⟩ ⟨c', hc', ⟨rfl, hperiod.symm⟩, he'⟩ hname

theorem recordedFor_materialized {t : Tables} {period : FiscalPeriod} {bookId fiscalPeriodId : ℕ} :
    RecordedFor (materialized dep t period) bookId fiscalPeriodId ↔
      RecordedFor t bookId fiscalPeriodId := by
  constructor
  · rintro ⟨c, hc, hfor, he⟩
    rcases List.mem_append.mp hc with hc | hc
    · exact ⟨c, hc, hfor, he⟩
    · obtain ⟨_, -, -, -, rfl⟩ := mem_materializedControls.mp hc
      exact absurd rfl he
  · rintro ⟨c, hc, hfor, he⟩
    exact ⟨c, List.mem_append_left _ hc, hfor, he⟩

/-- A change of rows that keeps their keys. -/
theorem recordedFor_map {t t' : Tables} {f : BookPeriodControl → BookPeriodControl}
    (hf : KeepsKey f) (hcontrols : t'.bookPeriodControls = t.bookPeriodControls.map f)
    {bookId fiscalPeriodId : ℕ} : RecordedFor t' bookId fiscalPeriodId ↔
      ∃ c ∈ t.bookPeriodControls, c.IsFor bookId fiscalPeriodId ∧ (f c).softClose ≠ none := by
  unfold RecordedFor
  rw [hcontrols]
  simp only [List.mem_map, exists_exists_and_eq_and, BookPeriodControl.IsFor, hf.book, hf.period]

/-- What a close records. -/
theorem recordedFor_close {t t' : Tables} (hwf : WellFormed dep t) {request : CloseRequest}
    {receipt : PeriodCloseReceipt} (hok : closeFiscalPeriod dep t request = .ok (receipt, t'))
    (bookId fiscalPeriodId : ℕ) : RecordedFor t' bookId fiscalPeriodId ↔
      RecordedFor t bookId fiscalPeriodId ∨ ∃ book period, SoftCloses dep t request book period ∧
        bookId = book.accountingBookId ∧ fiscalPeriodId = period.fiscalPeriodId := by
  obtain ⟨entity, book, period, control, t₁, hlocked, hcases⟩ := closeFiscalPeriod_cases dep hok
  obtain ⟨hperiod, ht₁, hfound⟩ := lockBookPeriod_ok dep hlocked.lock
  obtain ⟨hcontrol, hfor⟩ := find_control_mem hfound
  obtain rfl : t₁ = materialized dep t period := ht₁
  have hstatus := bookPeriodStatus_of_materialized hwf (periodByCode_mem dep hperiod).1 hcontrol hfor
  -- scope and period are those the close resolved
  have honly : ∀ {book' period'}, SoftCloses dep t request book' period' →
      book' = book ∧ period' = period := by
    rintro book' period' ⟨-, ⟨entity', hscope⟩, hperiod', -, -⟩
    rw [hlocked.scope] at hscope
    rw [hperiod] at hperiod'
    cases hscope
    cases hperiod'
    exact ⟨rfl, rfl⟩
  rcases hcases with ⟨hnot, -, rfl⟩ | ⟨hopen, hsoft, hrecord⟩ | ⟨-, hhard, -, hclose⟩
  · rw [recordedFor_materialized, or_iff_left]
    rintro ⟨book', period', hcloses, -, -⟩
    obtain ⟨rfl, rfl⟩ := honly hcloses
    exact hnot (hstatus.symm.trans hcloses.opened)
  · obtain ⟨evidence, -, rfl⟩ := persistSoftClose_eq dep hrecord
    have hkeys : KeepsKey fun c => recordEvidence evidence (closedRow .softClosed t.clock c) :=
      ⟨fun _ => rfl, fun _ => rfl⟩
    have hcontrols : updateControl book.accountingBookId period.fiscalPeriodId
        (recordEvidence evidence) (updateControl book.accountingBookId period.fiscalPeriodId
          (closedRow .softClosed t.clock) (materialized dep t period).bookPeriodControls) =
        (materialized dep t period).bookPeriodControls.map (updateRow book.accountingBookId
          period.fiscalPeriodId fun c => recordEvidence evidence (closedRow .softClosed t.clock c)) := by
      rw [updateControl_updateControl (closedRow_keepsKey _ _), updateControl_eq_map]
    rw [recordedFor_map (hkeys.updateRow _ _) hcontrols, ← recordedFor_materialized]
    constructor
    · rintro ⟨c, hc, hcfor, he⟩
      by_cases hthis : c.IsFor book.accountingBookId period.fiscalPeriodId
      · refine Or.inr ⟨book, period, ⟨⟨_, hok⟩, ⟨entity, hlocked.scope⟩, hperiod, hsoft,
          hstatus.trans hopen⟩, ?_, ?_⟩
        · exact hcfor.1.symm.trans hthis.1
        · exact hcfor.2.symm.trans hthis.2
      · rw [updateRow_of_not hthis] at he
        exact Or.inl ⟨c, hc, hcfor, he⟩
    · rintro (⟨c, hc, hcfor, he⟩ | ⟨book', period', hcloses, rfl, rfl⟩)
      · refine ⟨c, hc, hcfor, ?_⟩
        unfold updateRow
        split
        · exact Option.some_ne_none _
        · exact he
      · obtain ⟨rfl, rfl⟩ := honly hcloses
        refine ⟨control, hcontrol, hfor, ?_⟩
        rw [updateRow_of_isFor hfor]
        exact Option.some_ne_none _
  · obtain ⟨posted, t₂, hposted, -, rfl⟩ := persistPeriodClose_eq dep hclose
    obtain ⟨-, hsame, -, -⟩ := postClosingJournal_same hposted
    have hkeys := (closedRow_keepsKey .hardClosed t₂.clock).updateRow book.accountingBookId
      period.fiscalPeriodId
    have hcontrols : updateControl book.accountingBookId period.fiscalPeriodId
        (closedRow .hardClosed t₂.clock) t₂.bookPeriodControls =
        (materialized dep t period).bookPeriodControls.map (updateRow book.accountingBookId
          period.fiscalPeriodId (closedRow .hardClosed t₂.clock)) := by
      rw [hsame, updateControl_eq_map]
    have hevidence : ∀ c, (updateRow book.accountingBookId period.fiscalPeriodId
        (closedRow .hardClosed t₂.clock) c).softClose = c.softClose := by
      intro c
      unfold updateRow
      split <;> rfl
    rw [recordedFor_map hkeys hcontrols, or_iff_left]
    · simp only [hevidence]
      exact recordedFor_materialized
    · rintro ⟨book', period', hcloses, -, -⟩
      exact hcloses.soft hhard

/-- A soft close of an open row inserts its event. -/
theorem SoftCloses.announces {t : Tables} (hwf : WellFormed dep t) {request : CloseRequest}
    {book : AccountingBook} {period : FiscalPeriod} (h : SoftCloses dep t request book period) :
    ∃ event, (execute dep t (.closeFiscalPeriod request)).outboxEvents =
      t.outboxEvents ++ [event] := by
  obtain ⟨⟨receipt, t'⟩, hok⟩ := h.committed
  have hexecute : execute dep t (.closeFiscalPeriod request) = { t' with clock := t'.clock + 1 } := by
    apply execute_of_ok
    show (closeFiscalPeriod dep t request).map Prod.snd = .ok t'
    rw [hok]
    rfl
  obtain ⟨entity, book', period', control, t₁, hlocked, hcases⟩ := closeFiscalPeriod_cases dep hok
  obtain ⟨hperiod, ht₁, hfound⟩ := lockBookPeriod_ok dep hlocked.lock
  obtain ⟨hcontrol, hfor⟩ := find_control_mem hfound
  obtain rfl : t₁ = materialized dep t period' := ht₁
  obtain ⟨entity', hscope⟩ := h.scope
  have hperiod' := h.period_eq
  rw [hlocked.scope] at hscope
  rw [hperiod] at hperiod'
  cases hscope
  cases hperiod'
  have hstatus := bookPeriodStatus_of_materialized hwf (periodByCode_mem dep hperiod).1 hcontrol hfor
  rw [hexecute]
  rcases hcases with ⟨hnot, -, -⟩ | ⟨-, -, hrecord⟩ | ⟨-, hhard, -⟩
  · exact absurd (hstatus.symm.trans h.opened) hnot
  · obtain ⟨evidence, -, rfl⟩ := persistSoftClose_eq dep hrecord
    exact ⟨_, rfl⟩
  · exact absurd hhard h.soft

/-- Only a close touches the control rows. -/
theorem controls_execute {t : Tables} (hwf : WellFormed dep t) {command : Command}
    (hnot : ∀ request, command ≠ .closeFiscalPeriod request) :
    (execute dep t command).bookPeriodControls = t.bookPeriodControls := by
  rcases execute_effect hwf command with ⟨-, heq⟩ | ⟨-, he⟩
  · rw [heq]
  · generalize execute dep t command = t' at he
    cases he with
    | idle => rfl
    | opened => rfl
    | posted hwritten => exact hwritten.controls
    | locked => exact absurd rfl (hnot _)
    | softClosed => exact absurd rfl (hnot _)
    | hardClosed => exact absurd rfl (hnot _)

/-- A command keeps soft closes apart exactly when it records no twin. -/
theorem softClosesApart_execute_iff {t : Tables} (hwf : WellFormed dep t)
    (hapart : SoftClosesApart dep t) (command : Command) :
    SoftClosesApart dep (execute dep t command) ↔ ¬RecordsTwin dep t command := by
  by_cases hclose : ∃ request, command = .closeFiscalPeriod request
  · obtain ⟨request, rfl⟩ := hclose
    cases ha : closeFiscalPeriod dep t request with
    | error e =>
      have hsame : execute dep t (.closeFiscalPeriod request) = t := by
        apply execute_of_error
        show (closeFiscalPeriod dep t request).map Prod.snd = .error e
        rw [ha]
        rfl
      rw [hsame]
      refine iff_of_true hapart ?_
      rintro ⟨book, period, bookId, hcloses, -⟩
      obtain ⟨_, hok⟩ := hcloses.committed
      rw [ha] at hok
      cases hok
    | ok result =>
      obtain ⟨receipt, t'⟩ := result
      have hexecute : execute dep t (.closeFiscalPeriod request) = { t' with clock := t'.clock + 1 } := by
        apply execute_of_ok
        show (closeFiscalPeriod dep t request).map Prod.snd = .ok t'
        rw [ha]
        rfl
      have hrecorded : ∀ bookId fiscalPeriodId,
          RecordedFor (execute dep t (.closeFiscalPeriod request)) bookId fiscalPeriodId ↔
            RecordedFor t bookId fiscalPeriodId ∨
              ∃ book period, SoftCloses dep t request book period ∧
                bookId = book.accountingBookId ∧ fiscalPeriodId = period.fiscalPeriodId := by
        intro bookId fiscalPeriodId
        have hclose := recordedFor_close hwf ha bookId fiscalPeriodId
        rw [hexecute]
        exact hclose
      have hbook : ∀ {book period}, SoftCloses dep t request book period →
          bookName? dep book.accountingBookId = some book.bookName := by
        rintro book period ⟨-, ⟨entity, hscope⟩, -⟩
        exact bookName?_of_mem (dep.loadScope_ok hscope).2.2.1
      have honly : ∀ {book period book' period'}, SoftCloses dep t request book period →
          SoftCloses dep t request book' period' → book = book' := by
        rintro book period book' period' ⟨-, ⟨entity, hscope⟩, -⟩ ⟨-, ⟨entity', hscope'⟩, -⟩
        rw [hscope] at hscope'
        cases hscope'
        rfl
      rw [softClosesApart_iff] at hapart ⊢
      simp only [hrecorded]
      constructor
      · rintro h ⟨book, period, bookId, hcloses, hother, hne, hname⟩
        exact hne (h bookId book.accountingBookId period.fiscalPeriodId (Or.inl hother)
          (Or.inr ⟨book, period, hcloses, rfl, rfl⟩) (hname.trans (hbook hcloses).symm))
      · rintro h bookId bookId' fiscalPeriodId (hr | ⟨book, period, hcloses, rfl, rfl⟩)
          (hr' | ⟨book', period', hcloses', rfl, hp⟩) hname
        · exact hapart _ _ _ hr hr' hname
        · by_contra hne
          rw [hp] at hr
          exact h ⟨book', period', bookId, hcloses', hr, hne, hname.trans (hbook hcloses')⟩
        · by_contra hne
          exact h ⟨book, period, bookId', hcloses, hr', fun he => hne he.symm,
            hname.symm.trans (hbook hcloses)⟩
        · rw [honly hcloses hcloses']
  · have hcontrols := controls_execute hwf fun request heq => hclose ⟨request, heq⟩
    unfold SoftClosesApart at hapart ⊢
    rw [hcontrols]
    refine iff_of_true hapart ?_
    cases command with
    | closeFiscalPeriod request => exact absurd ⟨request, rfl⟩ hclose
    | _ => exact id

end AccountingPlatform.Postgres
