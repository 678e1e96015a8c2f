/-
  Posting, adjusting and reversing side by side, any number of transactions in any order.

  `JournalsKept` is what every commit keeps and `Enlarges` how it may change the tables; the
  rows of one transaction are `Complete` at its commit whatever the others have committed
  between its statements. `concurrent_postings` is the result for every interleaving.
-/
import AccountingPlatform.Sessions.ConcurrentCommands

namespace AccountingPlatform.Postgres

open AccountingPlatform.Lib AccountingPlatform.Core
open Program

open PostingLedger (ReversalRequest)

variable (dep : Deployment)

/-! ## What every commit keeps -/

/-- Lines on accounts of the book, at least one, in balance. -/
structure LinesPosted (journal : GeneralJournal) : Prop where
  stored : ∀ row ∈ journal.lines, ∃ line, insertJournalLine dep journal.accountingBookId line = .ok row
  given : journal.lines ≠ []
  balanced : total JournalEntryLine.debitAmount journal.lines =
    total JournalEntryLine.creditAmount journal.lines

structure JournalsKept (t : Tables) : Prop where
  postings : PostingsKept t
  journal_keys : (t.journals.map GeneralJournal.generalJournalId).Nodup
  journal_lt : ∀ j ∈ t.journals, j.generalJournalId < t.nextId
  reference_keys : (t.journals.map GeneralJournal.journalReference).Nodup
  lines : ∀ j ∈ t.journals, LinesPosted dep j
  receipt_keys : (t.postingReceipts.map PostingReceiptRow.generalJournalId).Nodup

/-- Rows are added and none is changed; no journal that was there becomes a reversal. -/
structure Enlarges (t t' : Tables) : Prop where
  records : t.proposalRecords <+: t'.proposalRecords
  journals : t.journals <+: t'.journals
  reversals : t.reversals <+: t'.reversals
  receipts : t.postingReceipts <+: t'.postingReceipts
  lineage : ∀ r ∈ t'.reversals, r ∈ t.reversals ∨
    ∀ j ∈ t.journals, r.reversalJournalId ≠ j.generalJournalId
  nextId : t.nextId ≤ t'.nextId

variable {dep}

theorem Enlarges.refl (t : Tables) : Enlarges t t where
  records := List.prefix_refl _
  journals := List.prefix_refl _
  reversals := List.prefix_refl _
  receipts := List.prefix_refl _
  lineage := fun _ hr => Or.inl hr
  nextId := Nat.le_refl _

theorem Enlarges.trans {t u v : Tables} (h : Enlarges t u) (h' : Enlarges u v) : Enlarges t v where
  records := h.records.trans h'.records
  journals := h.journals.trans h'.journals
  reversals := h.reversals.trans h'.reversals
  receipts := h.receipts.trans h'.receipts
  lineage := by
    intro r hr
    rcases h'.lineage r hr with hr | hr
    · exact h.lineage r hr
    · exact Or.inr fun j hj => hr j (h.journals.subset hj)
  nextId := h.nextId.trans h'.nextId

/-- Drawing keys changes no row. -/
theorem enlarges_drawing (t : Tables) (rows : Rows) : Enlarges t (t.drawing rows) :=
  { Enlarges.refl t with nextId := Nat.le_add_right _ _ }

theorem JournalsKept.drawing {t : Tables} (h : JournalsKept dep t) (rows : Rows) :
    JournalsKept dep (t.drawing rows) where
  postings := h.postings.untouched ⟨rfl, rfl, rfl, rfl, Nat.le_add_right _ _⟩
  journal_keys := h.journal_keys
  journal_lt := fun j hj => (h.journal_lt j hj).trans_le (Nat.le_add_right _ _)
  reference_keys := h.reference_keys
  lines := h.lines
  receipt_keys := h.receipt_keys

variable (dep) in
/-- How other transactions may change the tables meanwhile. -/
def postingRely : Rely ledgerStore where
  Sound := JournalsKept dep
  Grows := Enlarges
  refl := Enlarges.refl
  trans _ _ _ := Enlarges.trans
  draw_grows := enlarges_drawing
  draw_sound _ rows h := h.drawing rows

/-! ## Complete transactions -/

/-- A committed journal that is no reversal. -/
structure NoReversal (t : Tables) (original : GeneralJournal) : Prop where
  posted : original ∈ t.journals
  no_reversal : ∀ r ∈ t.reversals, r.reversalJournalId ≠ original.generalJournalId

/-- A journal of a posting: it has a receipt too. -/
structure Reversible (t : Tables) (original : GeneralJournal) : Prop extends
    NoReversal t original where
  receipted : ∃ r ∈ t.postingReceipts, r.generalJournalId = original.generalJournalId

/-- What others commit makes no reversal of it. -/
theorem NoReversal.enlarges {t t' : Tables} {original : GeneralJournal} (h : NoReversal t original)
    (hgrows : Enlarges t t') : NoReversal t' original where
  posted := hgrows.journals.subset h.posted
  no_reversal := by
    intro r hr
    rcases hgrows.lineage r hr with hr | hr
    · exact h.no_reversal r hr
    · exact hr original h.posted

theorem Reversible.enlarges {t t' : Tables} {original : GeneralJournal} (h : Reversible t original)
    (hgrows : Enlarges t t') : Reversible t' original where
  toNoReversal := h.toNoReversal.enlarges hgrows
  receipted := by
    obtain ⟨r, hr, hid⟩ := h.receipted
    exact ⟨r, hgrows.receipts.subset hr, hid⟩

/-- What a new record and journal come from, with the lineage row. -/
inductive Origin (t : Tables) (record : ProposalRecord) (journal : GeneralJournal) :
    Option JournalReversal → Prop
  | posted {id : String} (hid : matchesProposalId id = true)
      (hreference : journal.journalReference = PostingLedger.generalJournalReference id)
      (hexternal : record.externalProposalId = .supplied (canonicalUuid id)) :
      Origin t record journal none
  | reversal {original : GeneralJournal} {reasonCode : String} {n : ℕ}
      (hreversible : Reversible t original)
      (hreference : journal.journalReference = original.journalReference ++ ":reversal")
      (hscope : journal.accountingBookId = original.accountingBookId ∧
        journal.legalEntityId = original.legalEntityId)
      (hafter : original.accountingDate ≤ journal.accountingDate)
      (hrows : journal.lines = original.orderedLines.map JournalEntryLine.opposite)
      (hexternal : record.externalProposalId = .generated n) (hn : n < t.nextId) :
      Origin t record journal
        (some ⟨original.generalJournalId, journal.generalJournalId, reasonCode⟩)

variable (dep) in
/-- Record, journal and receipt belong together. -/
structure Joined (t : Tables) (record : ProposalRecord) (journal : GeneralJournal)
    (receipt : PostingReceiptRow) : Prop where
  record_lt : record.proposalRecordId < t.nextId
  journal_lt : journal.generalJournalId < t.nextId
  source : journal.sourceProposalRecordId = record.proposalRecordId
  lines : LinesPosted dep journal
  receipt_record : receipt.proposalRecordId = record.proposalRecordId
  receipt_journal : receipt.generalJournalId = journal.generalJournalId

variable (dep) in
/-- The rows a transaction commits: none, or one journal with all that belongs to it. -/
inductive Complete (t : Tables) : Rows → Prop
  | nothing : Complete t Rows.none
  | journal {record : ProposalRecord} {journal : GeneralJournal} {lineage : Option JournalReversal}
      {receipt : PostingReceiptRow} {events : List OutboxEvent}
      (hjoined : Joined dep t record journal receipt) (horigin : Origin t record journal lineage) :
      Complete t ⟨[record], [journal], lineage.toList, [receipt], events⟩

/-! ## A commit -/

section
variable {t : Tables} {record : ProposalRecord} {journal : GeneralJournal}
  {lineage : Option JournalReversal} {receipt : PostingReceiptRow} {events : List OutboxEvent}

/-- A value that is not in the list, from a list without duplicates. -/
theorem ne_of_nodup_concat {α β : Type} {f : α → β} {xs : List α} {x : α}
    (h : (xs.map f ++ [x].flatMap fun x => [f x]).Nodup) : ∀ y ∈ xs, f y ≠ f x := by
  intro y hy heq
  have hdisjoint := (List.nodup_append.mp h).2.2
  exact hdisjoint (f y) (List.mem_map_of_mem hy) (f x) (by simp) heq

/-- The keys of the new rows are new. -/
structure NewKeys (t : Tables) (record : ProposalRecord) (journal : GeneralJournal)
    (lineage : Option JournalReversal) : Prop where
  record_id : ∀ r ∈ t.proposalRecords, r.proposalRecordId ≠ record.proposalRecordId
  external : ∀ r ∈ t.proposalRecords, r.externalProposalId ≠ record.externalProposalId
  command : ∀ r ∈ t.proposalRecords, r.idempotencyKey ≠ record.idempotencyKey
  journal_id : ∀ j ∈ t.journals, j.generalJournalId ≠ journal.generalJournalId
  reference : ∀ j ∈ t.journals, j.journalReference ≠ journal.journalReference
  original : ∀ l ∈ lineage, ∀ r ∈ t.reversals, r.originalJournalId ≠ l.originalJournalId

theorem newKeys (h : ledgerStore.Apart t [⟨[record], [journal], lineage.toList, [receipt], events⟩]) :
    NewKeys t record journal lineage where
  record_id := ne_of_nodup_concat (h UniqueKey.proposalRecordId)
  external := ne_of_nodup_concat (h UniqueKey.externalProposalId)
  command := ne_of_nodup_concat (h UniqueKey.idempotencyKey)
  journal_id := ne_of_nodup_concat (h UniqueKey.generalJournalId)
  reference := ne_of_nodup_concat (h UniqueKey.journalReference)
  original := by
    intro l hl
    cases hl
    exact ne_of_nodup_concat (h UniqueKey.originalJournalId)

/-- Old journals come from where they came. -/
theorem Provenance.commit {j : GeneralJournal} {r : ProposalRecord} (h : Provenance t j r)
    (hj : j ∈ t.journals) (hnew : NewKeys t record journal lineage)
    (hjoined : Joined dep t record journal receipt) (horigin : Origin t record journal lineage) :
    Provenance (ledgerStore.commit t ⟨[record], [journal], lineage.toList, [receipt], events⟩) j r := by
  refine h.grow (fun j hj => List.mem_append_left _ hj) (fun l hl => List.mem_append_left _ hl) ?_
    (fun p hp => List.mem_append_left _ hp) ?_ hj
  · intro l hl
    rcases List.mem_append.mp hl with hl | hl
    · exact Or.inl hl
    · cases horigin with
      | posted => exact absurd hl List.not_mem_nil
      | reversal hreversible =>
        rw [List.mem_singleton.mp hl]
        exact Or.inr ⟨fun j hj => (hnew.journal_id j hj).symm, hreversible.receipted⟩
  · intro p hp
    rcases List.mem_append.mp hp with hp | hp
    · exact Or.inl hp
    · rw [List.mem_singleton.mp hp, hjoined.receipt_journal]
      exact Or.inr fun j hj => (hnew.journal_id j hj).symm

/-- No older lineage row names the new journal. -/
theorem NewKeys.no_lineage (hnew : NewKeys t record journal lineage) (h : PostingsKept t) :
    ∀ l ∈ t.reversals, l.reversalJournalId ≠ journal.generalJournalId := by
  intro l hl
  obtain ⟨⟨j, hj, hid⟩, -⟩ := h.lineage l hl
  rw [← hid]
  exact hnew.journal_id j hj

/-- The new journal comes from its own record. -/
theorem Origin.provenance (horigin : Origin t record journal lineage) (h : PostingsKept t)
    (hnew : NewKeys t record journal lineage) (hjoined : Joined dep t record journal receipt) :
    Provenance (ledgerStore.commit t ⟨[record], [journal], lineage.toList, [receipt], events⟩)
      journal record := by
  have hfinal : ∃ r ∈ t.postingReceipts ++ [receipt], r.generalJournalId = journal.generalJournalId :=
    ⟨receipt, List.mem_append_right _ List.mem_cons_self, hjoined.receipt_journal⟩
  have hno := hnew.no_lineage h
  cases horigin with
  | posted hid hreference hexternal =>
    refine .posted hid hreference hexternal hfinal fun l hl => ?_
    rcases List.mem_append.mp hl with hl | hl
    · exact hno l hl
    · exact absurd hl List.not_mem_nil
  | @reversal original reasonCode n hreversible hreference hscope hafter hrows hexternal hn =>
    have hnot : lineageOf? t original.generalJournalId = none := by
      rw [lineageOf?, List.find?_eq_none]
      intro l hl
      simpa using hreversible.no_reversal l hl
    obtain ⟨-, -, -, id, hid, horef, -, -⟩ :=
      h.original_posted hreversible.posted hreversible.receipted hnot
    refine @Provenance.reversal _ _ _ ⟨original.generalJournalId, journal.generalJournalId,
      reasonCode⟩ original id (List.mem_append_right _ List.mem_cons_self) rfl
      (List.mem_append_left _ hreversible.posted) rfl hid horef hreference hscope hafter hrows ?_ hfinal
    intro l hl
    rcases List.mem_append.mp hl with hl | hl
    · exact hreversible.no_reversal l hl
    · rw [List.mem_singleton.mp hl]
      exact (hnew.journal_id original hreversible.posted).symm

theorem PostingsKept.commit (h : PostingsKept t) (hnew : NewKeys t record journal lineage)
    (hjoined : Joined dep t record journal receipt) (horigin : Origin t record journal lineage) :
    PostingsKept (ledgerStore.commit t ⟨[record], [journal], lineage.toList, [receipt], events⟩) where
  record_keys := nodup_concat_map h.record_keys hnew.record_id
  record_lt := by
    intro r hr
    rcases List.mem_append.mp hr with hr | hr
    · exact h.record_lt r hr
    · rw [List.mem_singleton.mp hr]
      exact hjoined.record_lt
  command_keys := nodup_concat_map h.command_keys hnew.command
  external_keys := nodup_concat_map h.external_keys hnew.external
  generated_lt := by
    intro r hr n hn
    rcases List.mem_append.mp hr with hr | hr
    · exact h.generated_lt r hr n hn
    · rw [List.mem_singleton.mp hr] at hn
      cases horigin with
      | posted _ _ hexternal =>
        rw [hexternal] at hn
        cases hn
      | reversal _ _ _ _ _ hexternal hlt =>
        rw [hexternal, ExternalProposalId.generated.injEq] at hn
        exact hn ▸ hlt
  source_keys := by
    refine nodup_concat_map h.source_keys fun j hj => ?_
    obtain ⟨r, hr, hid, -⟩ := h.provenance j hj
    rw [hjoined.source, ← hid]
    exact hnew.record_id r hr
  sourced := by
    intro r hr
    rcases List.mem_append.mp hr with hr | hr
    · obtain ⟨j, hj, hid⟩ := h.sourced r hr
      exact ⟨j, List.mem_append_left _ hj, hid⟩
    · rw [List.mem_singleton.mp hr]
      exact ⟨journal, List.mem_append_right _ List.mem_cons_self, hjoined.source⟩
  provenance := by
    intro j hj
    rcases List.mem_append.mp hj with hj | hj
    · obtain ⟨r, hr, hid, hprov⟩ := h.provenance j hj
      exact ⟨r, List.mem_append_left _ hr, hid, hprov.commit hj hnew hjoined horigin⟩
    · rw [List.mem_singleton.mp hj]
      exact ⟨record, List.mem_append_right _ List.mem_cons_self, hjoined.source.symm,
        horigin.provenance h hnew hjoined⟩
  original_keys := by
    cases horigin with
    | posted =>
      show ((t.reversals ++ []).map JournalReversal.originalJournalId).Nodup
      rw [List.append_nil]
      exact h.original_keys
    | reversal => exact nodup_concat_map h.original_keys (hnew.original _ rfl)
  reversal_keys := by
    cases horigin with
    | posted =>
      show ((t.reversals ++ []).map JournalReversal.reversalJournalId).Nodup
      rw [List.append_nil]
      exact h.reversal_keys
    | reversal => exact nodup_concat_map h.reversal_keys (hnew.no_lineage h)
  lineage := by
    intro l hl
    rcases List.mem_append.mp hl with hl | hl
    · obtain ⟨⟨j, hj, hid⟩, o, ho, hoid⟩ := h.lineage l hl
      exact ⟨⟨j, List.mem_append_left _ hj, hid⟩, o, List.mem_append_left _ ho, hoid⟩
    · cases horigin with
      | posted => exact absurd hl List.not_mem_nil
      | @reversal original _ _ hreversible =>
        rw [List.mem_singleton.mp hl]
        exact ⟨⟨journal, List.mem_append_right _ List.mem_cons_self, rfl⟩, original,
          List.mem_append_left _ hreversible.posted, rfl⟩
  receipt_of := by
    intro p hp
    rcases List.mem_append.mp hp with hp | hp
    · obtain ⟨j, hj, hids⟩ := h.receipt_of p hp
      exact ⟨j, List.mem_append_left _ hj, hids⟩
    · rw [List.mem_singleton.mp hp]
      exact ⟨journal, List.mem_append_right _ List.mem_cons_self, hjoined.receipt_journal.symm,
        hjoined.source.trans hjoined.receipt_record.symm⟩

theorem JournalsKept.commit (h : JournalsKept dep t) (hnew : NewKeys t record journal lineage)
    (hjoined : Joined dep t record journal receipt) (horigin : Origin t record journal lineage) :
    JournalsKept dep
      (ledgerStore.commit t ⟨[record], [journal], lineage.toList, [receipt], events⟩) where
  postings := h.postings.commit hnew hjoined horigin
  journal_keys := nodup_concat_map h.journal_keys hnew.journal_id
  journal_lt := by
    intro j hj
    rcases List.mem_append.mp hj with hj | hj
    · exact h.journal_lt j hj
    · rw [List.mem_singleton.mp hj]
      exact hjoined.journal_lt
  reference_keys := nodup_concat_map h.reference_keys hnew.reference
  lines := by
    intro j hj
    rcases List.mem_append.mp hj with hj | hj
    · exact h.lines j hj
    · rw [List.mem_singleton.mp hj]
      exact hjoined.lines
  receipt_keys := by
    refine nodup_concat_map h.receipt_keys fun p hp => ?_
    obtain ⟨j, hj, hid, -⟩ := h.postings.receipt_of p hp
    rw [hjoined.receipt_journal, ← hid]
    exact hnew.journal_id j hj

theorem enlarges_journal (hnew : NewKeys t record journal lineage)
    (horigin : Origin t record journal lineage) :
    Enlarges t (ledgerStore.commit t ⟨[record], [journal], lineage.toList, [receipt], events⟩) where
  records := List.prefix_append _ _
  journals := List.prefix_append _ _
  reversals := List.prefix_append _ _
  receipts := List.prefix_append _ _
  lineage := by
    intro l hl
    rcases List.mem_append.mp hl with hl | hl
    · exact Or.inl hl
    · cases horigin with
      | posted => exact absurd hl List.not_mem_nil
      | reversal =>
        rw [List.mem_singleton.mp hl]
        exact Or.inr fun j hj => (hnew.journal_id j hj).symm
  nextId := Nat.le_refl _

end

/-- A complete transaction commits to tables that keep everything. -/
theorem Complete.commit {t : Tables} {rows : Rows} (hcomplete : Complete dep t rows)
    (h : JournalsKept dep t) (hapart : ledgerStore.Apart t [rows]) :
    JournalsKept dep (ledgerStore.commit t rows) ∧ Enlarges t (ledgerStore.commit t rows) := by
  cases hcomplete with
  | nothing =>
    have hsame : ledgerStore.commit t Rows.none = t.ticked := congrArg Tables.ticked (withRows_none t)
    rw [hsame]
    refine ⟨⟨h.postings.untouched ⟨rfl, rfl, rfl, rfl, Nat.le_refl _⟩, h.journal_keys, h.journal_lt,
      h.reference_keys, h.lines, h.receipt_keys⟩, { Enlarges.refl t with }⟩
  | journal hjoined horigin =>
    have hnew := newKeys hapart
    exact ⟨h.commit hnew hjoined horigin, enlarges_journal hnew horigin⟩

/-! ## Inserts between the commits of others -/

theorem inserting_ok {β : Type} {insert : Tables → Result (β × Tables)} {t : Tables} {b : β}
    {rows : Rows} (h : inserting insert t = .ok (b, rows)) :
    ∃ t', insert t = .ok (b, t') ∧ rows = t.rowsSince t' := by
  obtain ⟨r, hinsert, heq⟩ := map_eq_ok.mp h
  obtain ⟨rfl, rfl⟩ := Prod.mk.inj heq
  exact ⟨r.2, hinsert, rfl⟩

/-- One value, new to two lists. -/
theorem single_fresh {α : Type} {a : α} {xs ys : List α} (hx : a ∉ xs) (hy : a ∉ ys) :
    [a].Nodup ∧ ∀ v ∈ [a], v ∉ xs ∧ v ∉ ys := by
  refine ⟨List.nodup_singleton a, fun v hv => ?_⟩
  rw [List.mem_singleton.mp hv]
  exact ⟨hx, hy⟩

theorem none_fresh {α : Type} (xs ys : List α) : ([] : List α).Nodup ∧ ∀ v ∈ [], v ∉ xs ∧ v ∉ ys :=
  ⟨List.nodup_nil, fun _ hv => absurd hv List.not_mem_nil⟩

/-- Rows of the other tables carry no key. -/
theorem fresh_keyless (t : Tables) (rows : Rows) (receipts : List PostingReceiptRow)
    (events : List OutboxEvent) : ledgerStore.Fresh t rows ⟨[], [], [], receipts, events⟩ := by
  intro key
  cases key with
  | _ => exact none_fresh _ _

theorem fresh_record {t : Tables} {record : ProposalRecord}
    (hid : ∀ r ∈ t.proposalRecords, r.proposalRecordId < record.proposalRecordId)
    (hexternal : ∀ r ∈ t.proposalRecords, r.externalProposalId ≠ record.externalProposalId)
    (hkey : ∀ r ∈ t.proposalRecords, r.idempotencyKey ≠ record.idempotencyKey) :
    ledgerStore.Fresh t Rows.none ⟨[record], [], [], [], []⟩ := by
  intro key
  cases key with
  | externalProposalId =>
    refine single_fresh (fun h => ?_) List.not_mem_nil
    obtain ⟨r, hr, heq⟩ := List.mem_map.mp h
    exact hexternal r hr heq
  | idempotencyKey =>
    refine single_fresh (fun h => ?_) List.not_mem_nil
    obtain ⟨r, hr, heq⟩ := List.mem_map.mp h
    exact hkey r hr heq
  | proposalRecordId =>
    refine single_fresh (fun h => ?_) List.not_mem_nil
    obtain ⟨r, hr, heq⟩ := List.mem_map.mp h
    exact (hid r hr).ne heq
  | _ => exact none_fresh _ _

theorem fresh_journal {t : Tables} {record : ProposalRecord} {journal : GeneralJournal}
    (hid : ∀ j ∈ t.journals, j.generalJournalId < journal.generalJournalId)
    (hreference : ∀ j ∈ t.journals, j.journalReference ≠ journal.journalReference) :
    ledgerStore.Fresh t ⟨[record], [], [], [], []⟩ ⟨[], [journal], [], [], []⟩ := by
  intro key
  cases key with
  | journalReference =>
    refine single_fresh (fun h => ?_) List.not_mem_nil
    obtain ⟨j, hj, heq⟩ := List.mem_map.mp h
    exact hreference j hj heq
  | generalJournalId =>
    refine single_fresh (fun h => ?_) List.not_mem_nil
    obtain ⟨j, hj, heq⟩ := List.mem_map.mp h
    exact (hid j hj).ne heq
  | _ => exact none_fresh _ _

theorem fresh_reversal {t : Tables} {record : ProposalRecord} {journal : GeneralJournal}
    {lineage : JournalReversal} (hunique : ∀ r ∈ t.reversals,
      r.originalJournalId ≠ lineage.originalJournalId ∧
        r.reversalJournalId ≠ lineage.reversalJournalId) :
    ledgerStore.Fresh t ⟨[record], [journal], [], [], []⟩ ⟨[], [], [lineage], [], []⟩ := by
  intro key
  cases key with
  | originalJournalId =>
    refine single_fresh (fun h => ?_) List.not_mem_nil
    obtain ⟨r, hr, heq⟩ := List.mem_map.mp h
    exact (hunique r hr).1 heq
  | reversalJournalId =>
    refine single_fresh (fun h => ?_) List.not_mem_nil
    obtain ⟨r, hr, heq⟩ := List.mem_map.mp h
    exact (hunique r hr).2 heq
  | _ => exact none_fresh _ _

section
variable {α : Type} {goal : Tables → Rows → α → Prop} {s : Tables}

/-- The first insert of a transaction. -/
theorem runs_addRecord {row : Tables → NewProposalRecord} {k : ℕ → Tx α}
    (h : ∀ t t₀ record, Enlarges s t → JournalsKept dep t → record = (row t₀).row t₀ →
      t₀.nextId < t.nextId →
      (k record.proposalRecordId).Runs (postingRely dep) goal t ⟨[record], [], [], [], []⟩) :
    (add (inserting fun t => insertProposalRecord t (row t)) >>= k).Runs (postingRely dep) goal s
      Rows.none := by
  refine runs_add fun t id rows ht hkept hwrite => ?_
  have hview : ledgerStore.view t Rows.none = t := withRows_none t
  rw [hview] at hwrite
  obtain ⟨t', hinsert, hrows⟩ := inserting_ok hwrite
  obtain ⟨rfl, rfl, hexternal, hkey⟩ := insertProposalRecord_ok hinsert
  have hrow : rows = ⟨[(row t).row t], [], [], [], []⟩ := by
    rw [hrows]
    simp [Tables.rowsSince, NewProposalRecord.row]
  rw [hrow]
  refine ⟨fresh_record hkept.postings.record_lt hexternal hkey, ?_⟩
  exact h (t.drawing ⟨[(row t).row t], [], [], [], []⟩) t _ (ht.trans (enlarges_drawing t _))
    (hkept.drawing _) rfl (Nat.lt_succ_self _)

/-- The journal of a transaction, after its record. -/
theorem runs_addJournal {new : NewJournal} {record : ProposalRecord} {k : GeneralJournal → Tx α}
    (h : ∀ t t₀ t₁ journal, Enlarges s t → JournalsKept dep t →
      Inserted dep t₀ new journal t₁ → journal.generalJournalId < t.nextId →
      (k journal).Runs (postingRely dep) goal t ⟨[record], [journal], [], [], []⟩) :
    (add (inserting fun t => insertJournal dep t new) >>= k).Runs (postingRely dep) goal s
      ⟨[record], [], [], [], []⟩ := by
  refine runs_add fun t journal rows ht hkept hwrite => ?_
  obtain ⟨t', hinsert, hrows⟩ := inserting_ok hwrite
  have hin := insertJournal_ok hinsert
  have hid : journal.generalJournalId = t.nextId := by
    rw [hin.row]
    rfl
  have hreference : journal.journalReference = new.journalReference := by
    rw [hin.row]
    rfl
  have hrow : rows = ⟨[], [journal], [], [], []⟩ := by
    rw [hrows, hin.tables]
    simp [Tables.rowsSince]
  rw [hrow]
  refine ⟨fresh_journal (fun j hj => hid ▸ hkept.journal_lt j hj) fun j hj => ?_, ?_⟩
  · rw [hreference]
    exact hin.fresh j (List.mem_append_left _ hj)
  · exact h (t.drawing ⟨[], [journal], [], [], []⟩) _ t' journal (ht.trans (enlarges_drawing t _))
      (hkept.drawing _) hin (hid ▸ Nat.lt_succ_self _)

/-- The lineage row, whose triggers saw the receipt of the original. -/
theorem runs_addReversal {original journal : GeneralJournal} {reasonCode : String}
    {record : ProposalRecord} {k : Unit → Tx α}
    (h : ∀ t, Enlarges s t → JournalsKept dep t →
      (∃ r ∈ t.postingReceipts, r.generalJournalId = original.generalJournalId) →
      (k ()).Runs (postingRely dep) goal t ⟨[record], [journal],
        [⟨original.generalJournalId, journal.generalJournalId, reasonCode⟩], [], []⟩) :
    (add (inserting (insertingReversal original journal reasonCode)) >>= k).Runs (postingRely dep)
      goal s ⟨[record], [journal], [], [], []⟩ := by
  refine runs_add fun t u rows ht hkept hwrite => ?_
  obtain ⟨t', hinsert, hrows⟩ := inserting_ok hwrite
  obtain ⟨t'', hreversal, heq⟩ := map_eq_ok.mp hinsert
  obtain ⟨-, rfl⟩ := Prod.mk.inj heq
  obtain ⟨⟨r, hr, hid⟩, hunique, rfl⟩ := insertReversal_ok hreversal
  have hrow : rows =
      ⟨[], [], [⟨original.generalJournalId, journal.generalJournalId, reasonCode⟩], [], []⟩ := by
    rw [hrows]
    simp [Tables.rowsSince]
  rw [hrow]
  refine ⟨fresh_reversal fun r hr => hunique r (List.mem_append_left _ hr), ?_⟩
  refine h (t.drawing _) (ht.trans (enlarges_drawing t _)) (hkept.drawing _) ⟨r, ?_, hid⟩
  rcases List.mem_append.mp hr with hr | hr
  · exact hr
  · exact absurd hr List.not_mem_nil

theorem runs_addReceipt {recordId journalId : ℕ} {receipt : PostingReceipt}
    {records : List ProposalRecord} {journals : List GeneralJournal}
    {reversals : List JournalReversal} {k : Unit → Tx α}
    (h : ∀ t row, Enlarges s t → JournalsKept dep t → row.proposalRecordId = recordId →
      row.generalJournalId = journalId →
      (k ()).Runs (postingRely dep) goal t ⟨records, journals, reversals, [row], []⟩) :
    (add (inserting (insertingReceipt dep recordId journalId receipt)) >>= k).Runs (postingRely dep)
      goal s ⟨records, journals, reversals, [], []⟩ := by
  refine runs_add fun t u rows ht hkept hwrite => ?_
  obtain ⟨t', hinsert, hrows⟩ := inserting_ok hwrite
  obtain ⟨-, rfl⟩ := Prod.mk.inj (Except.ok.inj hinsert)
  have hrow : rows = ⟨[], [], [], [⟨recordId, journalId, receipt.postingStatusCode,
      canonicalReceiptHash dep receipt⟩], []⟩ := by
    rw [hrows]
    simp [Tables.rowsSince, insertReceipt]
  have happend : ledgerStore.append ⟨records, journals, reversals, [], []⟩ rows =
      ⟨records, journals, reversals, [⟨recordId, journalId, receipt.postingStatusCode,
        canonicalReceiptHash dep receipt⟩], []⟩ := by
    rw [hrow]
    simp [ledgerStore, Rows.append]
  rw [happend]
  refine ⟨hrow ▸ fresh_keyless _ _ _ _, ?_⟩
  exact h (t.drawing rows) _ (ht.trans (enlarges_drawing t rows)) (hkept.drawing rows) rfl rfl

theorem runs_addOutbox {eventTypeCode aggregateReference : String} {receipt : PostingReceipt}
    {records : List ProposalRecord} {journals : List GeneralJournal}
    {reversals : List JournalReversal} {receipts : List PostingReceiptRow} {k : Unit → Tx α}
    (h : ∀ t events, Enlarges s t → JournalsKept dep t →
      (k ()).Runs (postingRely dep) goal t ⟨records, journals, reversals, receipts, events⟩) :
    (add (inserting (insertingOutbox dep eventTypeCode aggregateReference receipt)) >>= k).Runs
      (postingRely dep) goal s ⟨records, journals, reversals, receipts, []⟩ := by
  refine runs_add fun t u rows ht hkept hwrite => ?_
  obtain ⟨t', hinsert, hrows⟩ := inserting_ok hwrite
  obtain ⟨-, rfl⟩ := Prod.mk.inj (Except.ok.inj hinsert)
  have hrow : rows = ⟨[], [], [], [], [⟨eventTypeCode, aggregateReference, receipt.receiptReference,
      canonicalReceiptHash dep receipt⟩]⟩ := by
    rw [hrows]
    simp [Tables.rowsSince, insertOutbox]
  have happend : ledgerStore.append ⟨records, journals, reversals, receipts, []⟩ rows =
      ⟨records, journals, reversals, receipts, rows.events⟩ := by
    rw [hrow]
    simp [ledgerStore, Rows.append]
  rw [happend]
  refine ⟨hrow ▸ fresh_keyless _ _ _ _, ?_⟩
  exact h (t.drawing rows) _ (ht.trans (enlarges_drawing t rows)) (hkept.drawing rows)

end

/-! ## Transactions between the commits of others -/

theorem Complete.enlarges {t t' : Tables} {rows : Rows} (h : Complete dep t rows)
    (hgrows : Enlarges t t') : Complete dep t' rows := by
  cases h with
  | nothing => exact .nothing
  | journal hjoined horigin =>
    refine .journal { hjoined with
      record_lt := hjoined.record_lt.trans_le hgrows.nextId
      journal_lt := hjoined.journal_lt.trans_le hgrows.nextId } ?_
    cases horigin with
    | posted hid hreference hexternal => exact .posted hid hreference hexternal
    | reversal hreversible hreference hscope hafter hrows hexternal hn =>
      exact .reversal (hreversible.enlarges hgrows) hreference hscope hafter hrows hexternal
        (hn.trans_le hgrows.nextId)

variable (dep) in
/-- The program commits complete rows or none, from any tables. -/
def CommitsWhole {α : Type} (p : Tx α) : Prop :=
  ∀ s, JournalsKept dep s → p.Runs (postingRely dep) (fun t rows _ => Complete dep t rows) s Rows.none

theorem Inserted.linesKept {t t' : Tables} {new : NewJournal} {journal : GeneralJournal}
    (h : Inserted dep t new journal t') : LinesPosted dep journal where
  stored := by
    intro row hrow
    obtain ⟨line, -, hline⟩ := mem_tryMap h.lines hrow
    have hbook : journal.accountingBookId = new.accountingBookId := by
      rw [h.row]
      rfl
    exact ⟨line, hbook ▸ hline⟩
  given := h.given
  balanced := h.balanced

/-- Record, journal and receipt as the inserts leave them. -/
theorem joined_of_inserts {t t₁ t₂ : Tables} {record : ProposalRecord} {new : ℕ → NewJournal}
    {journal : GeneralJournal} {receipt : PostingReceiptRow}
    (hsource : ∀ n, (new n).proposalRecordId = n)
    (hin : Inserted dep t₁ (new record.proposalRecordId) journal t₂)
    (hrecord : record.proposalRecordId < t.nextId) (hjournal : journal.generalJournalId < t.nextId)
    (hr : receipt.proposalRecordId = record.proposalRecordId)
    (hj : receipt.generalJournalId = journal.generalJournalId) :
    Joined dep t record journal receipt where
  record_lt := hrecord
  journal_lt := hjournal
  source := by
    rw [hin.row]
    exact hsource record.proposalRecordId
  lines := hin.linesKept
  receipt_record := hr
  receipt_journal := hj

theorem commitsWhole_writePosting {record : NewProposalRecord} {new : ℕ → NewJournal} {id : String}
    (hid : matchesProposalId id = true)
    (hexternal : record.externalProposalId = .supplied (canonicalUuid id))
    (hreference : ∀ n, (new n).journalReference = PostingLedger.generalJournalReference id)
    (hsource : ∀ n, (new n).proposalRecordId = n) (receipt : PostingReceipt) :
    CommitsWhole dep (writePostingTx dep record new receipt) := by
  intro s hs
  refine runs_addRecord fun t t₀ row ht hkept hrow hlt => ?_
  refine runs_addJournal fun t₁ t₂ t₃ journal ht₁ hkept₁ hin hjournal => ?_
  refine runs_addReceipt fun t₄ receiptRow ht₄ hkept₄ hr hj => ?_
  refine runs_addOutbox (k := pure) fun t₅ events ht₅ hkept₅ => ?_
  refine runs_pure fun t₆ ht₆ hkept₆ => ?_
  have hgrows : Enlarges t₁ t₆ := (ht₄.trans ht₅).trans ht₆
  have hrecord : row.proposalRecordId = t₀.nextId := by
    rw [hrow]
    rfl
  have hjoined := joined_of_inserts hsource hin
    (hrecord ▸ hlt.trans_le ((ht₁.trans hgrows).nextId))
    (hjournal.trans_le hgrows.nextId) hr hj
  refine .journal hjoined (.posted hid ?_ ?_)
  · rw [hin.row]
    exact hreference row.proposalRecordId
  · rw [hrow]
    exact hexternal

theorem commitsWhole_andThen {α β : Type} {p : Tx α} (h : CommitsWhole dep p) (f : α → β) :
    CommitsWhole dep (p >>= fun a => pure (f a)) := by
  intro s hs
  refine runs_andThen ?_ hs
  exact (h s hs).mono fun t rows a hcomplete => runs_pure fun t' ht' _ => hcomplete.enlarges ht'

theorem view_rowsNone (t : Tables) : ledgerStore.view t Rows.none = t := withRows_none t

variable (dep) in
theorem readOnly_requireOpenBookPeriodTx (bookId : ℕ) (accountingDate : Date) :
    (requireOpenBookPeriodTx dep bookId accountingDate).ReadOnly :=
  readOnly_andThen (readOnly_ask _) fun _ =>
    readOnly_andThen (readOnly_acquire _) fun _ => readOnly_ask _

variable (dep) in
theorem readOnly_postingPolicyTx (proposal : JournalProposal)
    (suppliedPolicy : Option AccountingPolicy) :
    (postingPolicyTx dep proposal suppliedPolicy).ReadOnly := by
  cases suppliedPolicy with
  | some policy => trivial
  | none =>
    refine readOnly_andThen (readOnly_check _) fun _ => ?_
    refine readOnly_andThen (readOnly_check _) fun _ => ?_
    refine readOnly_andThen (readOnly_check _) fun book => ?_
    refine readOnly_andThen (readOnly_requireOpenBookPeriodTx dep _ _) fun _ => ?_
    exact readOnly_andThen (readOnly_check _) fun _ => readOnly_check _

variable (dep) in
theorem commitsWhole_persistProposal (proposal : JournalProposal)
    (suppliedPolicy : Option AccountingPolicy) :
    CommitsWhole dep (persistProposalTx dep proposal suppliedPolicy) := by
  intro s hs
  refine runs_acquire (runs_ask fun t prior ht hkept _ => ?_)
  cases prior with
  | some prior => exact runs_check fun _ _ => fun _ _ _ _ _ _ _ _ => .nothing
  | none =>
    refine runs_check fun _ _ => ?_
    refine runs_readOnly (readOnly_postingPolicyTx dep proposal suppliedPolicy) hkept
      fun t₁ policy ht₁ hkept₁ => ?_
    refine runs_check fun _ _ => runs_check fun lines _ => runs_check fun entity _ =>
      runs_check fun book _ => ?_
    refine runs_readOnly (readOnly_requireOpenBookPeriodTx dep _ _) hkept₁
      fun t₂ period ht₂ hkept₂ => ?_
    exact commitsWhole_andThen (commitsWhole_writePosting proposal.proposalId_matches rfl
      (fun _ => rfl) (fun _ => rfl) _) _ t₂ hkept₂

variable (dep) in
theorem commitsWhole_postAdjustingJournal (request : AdjustingRequest) :
    CommitsWhole dep (postAdjustingJournalTx dep request) := by
  intro s hs
  refine runs_check fun _ hid => runs_acquire (runs_ask fun t prior ht hkept _ => ?_)
  cases prior with
  | some prior => exact runs_verdict fun _ _ _ _ _ => .nothing
  | none =>
    simp only [requireProposalId, bind_eq_ok, require_eq_ok] at hid
    obtain ⟨-, hid, -⟩ := hid
    refine runs_check fun scope _ => runs_check fun _ _ => runs_ask fun t₁ period ht₁ hkept₁ _ => ?_
    refine runs_check fun versions _ => runs_check fun policy _ => ?_
    exact commitsWhole_writePosting hid rfl (fun _ => rfl) (fun _ => rfl) _ t₁ hkept₁

/-! ## Reversals -/

variable (dep) in
theorem readOnly_requireAdjustingPeriodTx (accountingDate : Date) :
    (requireAdjustingPeriodTx dep accountingDate).ReadOnly :=
  readOnly_andThen (readOnly_ask _) fun _ =>
    readOnly_andThen (readOnly_acquire _) fun _ => readOnly_ask _

/-- The original was read first and its lineage later; in between others may have committed. -/
theorem runs_reversibleJournal {α : Type} {goal : Tables → Rows → α → Prop} {s : Tables}
    {request : ReversalRequest} {policy : AccountingPolicy} {k : GeneralJournal → Tx α}
    (hs : JournalsKept dep s)
    (h : ∀ t original, Enlarges s t → JournalsKept dep t → NoReversal t original →
      original.journalReference = request.journalReference →
      original.accountingDate ≤ request.reversalDate →
      (k original).Runs (postingRely dep) goal t Rows.none) :
    (reversibleJournalTx dep request policy >>= k).Runs (postingRely dep) goal s Rows.none := by
  refine runs_andThen ?_ hs
  refine runs_ask fun t original ht hkept hread => ?_
  refine runs_ask fun t₁ _ ht₁ hkept₁ hnot => ?_
  refine runs_check fun _ hscope => ?_
  refine runs_pure fun t₂ ht₂ hkept₂ => ?_
  rw [view_rowsNone, fetch_eq_ok] at hread
  rw [view_rowsNone, require_eq_ok, lineageOf?, List.find?_eq_none] at hnot
  simp only [reversalScope, bind_eq_ok, require_eq_ok] at hscope
  obtain ⟨-, hdate, -⟩ := hscope
  have hno : NoReversal t₁ original :=
    ⟨ht₁.journals.subset (List.mem_of_find?_eq_some hread), fun r hr => by simpa using hnot r hr⟩
  exact h t₂ original ((ht.trans ht₁).trans ht₂) hkept₂ (hno.enlarges ht₂)
    (by simpa using List.find?_some hread) hdate

/-- The mirrored lines of a committed journal. -/
theorem JournalsKept.reversal_rows {t : Tables} (h : JournalsKept dep t) {original : GeneralJournal}
    (horiginal : original ∈ t.journals) {rows : List JournalEntryLine}
    (hrows : tryMap (insertJournalLine dep original.accountingBookId)
      ((loadLines dep original).map PostedJournalLine.opposite) = .ok rows) :
    rows = original.orderedLines.map JournalEntryLine.opposite :=
  mirrored_rows (fun row hrow =>
    (h.lines original horiginal).stored row ((List.mem_insertionSort _).mp hrow)) hrows

theorem commitsWhole_writeReversal {request : ReversalRequest} {policy : AccountingPolicy}
    {original : GeneralJournal} {period : FiscalPeriod} {receipt : PostingReceipt} {s : Tables}
    (hs : JournalsKept dep s) (hno : NoReversal s original)
    (hreference : original.journalReference = request.journalReference)
    (hdate : original.accountingDate ≤ request.reversalDate) :
    (writeReversalTx dep request original (newReversalJournal dep request policy original period)
      receipt).Runs (postingRely dep) (fun t rows _ => Complete dep t rows) s Rows.none := by
  refine runs_addRecord fun t t₀ row ht hkept hrow hlt => ?_
  refine runs_addJournal fun t₁ t₂ t₃ journal ht₁ hkept₁ hin hjournal => ?_
  refine runs_addReversal fun t₄ ht₄ hkept₄ hreceipted => ?_
  refine runs_addReceipt fun t₅ receiptRow ht₅ hkept₅ hr hj => ?_
  refine runs_addOutbox (k := pure) fun t₆ events ht₆ hkept₆ => ?_
  refine runs_pure fun t₇ ht₇ hkept₇ => ?_
  have hend : Enlarges t₄ t₇ := (ht₅.trans ht₆).trans ht₇
  have hgrows : Enlarges t₁ t₇ := ht₄.trans hend
  have hrecord : row.proposalRecordId = t₀.nextId := by
    rw [hrow]
    rfl
  have hjoined := joined_of_inserts (fun _ => rfl) hin
    (hrecord ▸ hlt.trans_le ((ht₁.trans hgrows).nextId))
    (hjournal.trans_le hgrows.nextId) hr hj
  have hstart : Enlarges s t₄ := (ht.trans ht₁).trans ht₄
  have hreversible : Reversible t₄ original := ⟨hno.enlarges hstart, hreceipted⟩
  refine .journal hjoined (.reversal (hreversible.enlarges hend) ?_ ?_ ?_ ?_ ?_
    (hlt.trans_le ((ht₁.trans hgrows).nextId)))
  · rw [hin.row, hreference]
    rfl
  · rw [hin.row]
    exact ⟨rfl, rfl⟩
  · rw [hin.row]
    exact hdate
  · exact hs.reversal_rows hno.posted hin.lines
  · rw [hrow]
    rfl

variable (dep) in
theorem commitsWhole_reverse (request : ReversalRequest) (policy : AccountingPolicy) :
    CommitsWhole dep (reverseTx dep request policy) := by
  intro s hs
  refine runs_check fun _ _ => runs_check fun _ _ => runs_acquire (runs_ask fun t existing ht hkept _ => ?_)
  cases existing with
  | some existing => exact fun _ _ _ _ _ _ _ _ => .nothing
  | none =>
    refine runs_ask fun t₁ _ ht₁ hkept₁ _ => ?_
    refine runs_reversibleJournal hkept₁ fun t₂ original ht₂ hkept₂ hno hreference hdate => ?_
    refine runs_readOnly (readOnly_requireAdjustingPeriodTx dep _) hkept₂ fun t₃ period ht₃ hkept₃ => ?_
    refine runs_ask fun t₄ lines ht₄ hkept₄ hlines => ?_
    refine runs_ask fun t₅ _ ht₅ hkept₅ _ => runs_ask fun t₆ originalRecord ht₆ hkept₆ _ => ?_
    have hno₄ : NoReversal t₄ original := hno.enlarges (ht₃.trans ht₄)
    rw [view_rowsNone, Except.ok.injEq, linesOf_eq hkept₄.journal_keys hno₄.posted] at hlines
    rw [← hlines]
    refine runs_andThen ?_ hkept₆
    refine (commitsWhole_writeReversal hkept₆ (hno₄.enlarges (ht₅.trans ht₆)) hreference hdate).mono
      fun t rows _ hcomplete => runs_pure fun t' ht' _ => hcomplete.enlarges ht'

/-! ## Every interleaving -/

variable (dep) in
/-- The transaction of a command that posts or reverses. -/
def Command.journalTx : Command → Option (Tx Unit)
  | .post proposal policy => some (persistProposalTx dep proposal (some policy) >>= fun _ => pure ())
  | .postProposal proposal => some (persistProposalTx dep proposal none >>= fun _ => pure ())
  | .postAdjustingJournal request => some (postAdjustingJournalTx dep request)
  | .reverse request policy => some (reverseTx dep request policy >>= fun _ => pure ())
  | .openFiscalPeriod _ | .closeFiscalPeriod _ => none

variable (dep) in
def JournalTx (p : Tx Unit) : Prop := ∃ command : Command, command.journalTx dep = some p

theorem JournalTx.commitsWhole {p : Tx Unit} (h : JournalTx dep p) : CommitsWhole dep p := by
  obtain ⟨command, hcommand⟩ := h
  cases command with
  | post proposal policy =>
    rw [← Option.some.inj hcommand]
    exact commitsWhole_andThen (commitsWhole_persistProposal dep proposal (some policy)) _
  | postProposal proposal =>
    rw [← Option.some.inj hcommand]
    exact commitsWhole_andThen (commitsWhole_persistProposal dep proposal none) _
  | postAdjustingJournal request =>
    rw [← Option.some.inj hcommand]
    exact commitsWhole_postAdjustingJournal dep request
  | reverse request policy =>
    rw [← Option.some.inj hcommand]
    exact commitsWhole_andThen (commitsWhole_reverse dep request policy) _
  | openFiscalPeriod request => cases hcommand
  | closeFiscalPeriod request => cases hcommand

variable (dep) in
/-- Alone a transaction leaves what its command leaves. -/
theorem alone_journalTx {command : Command} {p : Tx Unit} (h : command.journalTx dep = some p)
    {t : Tables} (hkeys : (t.journals.map GeneralJournal.generalJournalId).Nodup) :
    p.alone ledgerStore t = attempt dep t command >>= fun t' => .ok ((), t') := by
  have hmap : ∀ x : Result (PostingReceipt × Tables),
      (x >>= fun r => .ok ((), r.2)) = x.map Prod.snd >>= fun t' => .ok ((), t') := by
    intro x
    cases x with
    | error e => rfl
    | ok r => rfl
  cases command with
  | post proposal policy =>
    rw [← Option.some.inj h, alone_andThen, alone_persistProposalTx]
    exact hmap _
  | postProposal proposal =>
    rw [← Option.some.inj h, alone_andThen, alone_persistProposalTx]
    exact hmap _
  | postAdjustingJournal request =>
    rw [← Option.some.inj h, alone_postAdjustingJournalTx]
    rfl
  | reverse request policy =>
    rw [← Option.some.inj h, alone_andThen, alone_reverseTx dep request policy hkeys]
    exact hmap _
  | openFiscalPeriod request => cases h
  | closeFiscalPeriod request => cases h

/-- Commands one after another are one of the interleavings. -/
theorem reaches_ledgerAfter {commands later : List Command}
    (h : ∀ command ∈ later, (command.journalTx dep).isSome = true) :
    ledgerStore.Reaches (JournalTx dep) ⟨ledgerAfter dep commands, []⟩
      ⟨ledgerAfter dep (commands ++ later), []⟩ := by
  induction later using List.reverseRecOn with
  | nil =>
    rw [List.append_nil]
    exact .refl
  | append_singleton later command ih =>
    have hbefore := ih fun c hc => h c (List.mem_append_left _ hc)
    obtain ⟨p, hp⟩ := Option.isSome_iff_exists.mp
      (h command (List.mem_append_right _ List.mem_cons_self))
    rw [← List.append_assoc, ledgerAfter_concat]
    cases hattempt : attempt dep (ledgerAfter dep (commands ++ later)) command with
    | error e =>
      rw [execute_of_error dep hattempt]
      exact hbefore
    | ok t' =>
      rw [execute_of_ok dep hattempt]
      have hwf := @wellFormed_ledgerAfter dep (commands ++ later)
      have halone := alone_journalTx dep hp hwf.journal_keys
      rw [hattempt, ok_bind] at halone
      rw [← view_rowsNone (ledgerAfter dep (commands ++ later))] at halone
      exact (hbefore.tail (.begins ⟨command, hp⟩)).trans (ledgerStore.reaches_alone halone)

/-- What the sequential commands leave is a sound start. -/
theorem journalsKept_ledgerAfter (commands : List Command) :
    JournalsKept dep (ledgerAfter dep commands) := by
  have hwf := @wellFormed_ledgerAfter dep commands
  have hkept := @postingsKept_ledgerAfter dep commands
  refine ⟨hkept, hwf.journal_keys, hwf.journal_lt, hwf.reference_keys, fun j hj => ?_, ?_⟩
  · obtain ⟨posted, hposted⟩ := (hwf.facts j hj).lines
    refine ⟨fun row hrow => ?_, (hwf.facts j hj).given, (hwf.facts j hj).balanced⟩
    obtain ⟨line, -, hline⟩ := mem_tryMap hposted hrow
    exact ⟨line, hline⟩
  · induction commands using List.reverseRecOn with
    | nil => exact List.nodup_nil
    | append_singleton commands command ih =>
      rw [ledgerAfter_concat]
      have hwf := @wellFormed_ledgerAfter dep commands
      have hkept := @postingsKept_ledgerAfter dep commands
      have hold := ih hwf hkept
      rcases execute_booked hwf command with hu | ⟨record, journal, lineage, hb⟩
      · rw [hu.receipts]
        exact hold
      · rw [hb.receipts]
        cases hreceipt : builtReceipt dep (ledgerAfter dep commands) command with
        | none =>
          rw [Option.map_none, Option.toList_none, List.append_nil]
          exact hold
        | some receipt =>
          refine nodup_concat_map hold fun r hr => ?_
          obtain ⟨j, hj, hid, -⟩ := hkept.receipt_of r hr
          have hlt := hwf.journal_lt j hj
          have hnew := hb.journal_id
          show r.generalJournalId ≠ journal.generalJournalId
          omega

/-- No unique key occurs twice. -/
theorem JournalsKept.apart {t : Tables} (h : JournalsKept dep t) : ledgerStore.Apart t [] := by
  intro key
  rw [List.flatMap_nil, List.append_nil]
  cases key with
  | externalProposalId => exact h.postings.external_keys
  | idempotencyKey => exact h.postings.command_keys
  | proposalRecordId => exact h.postings.record_keys
  | journalReference => exact h.reference_keys
  | generalJournalId => exact h.journal_keys
  | originalJournalId => exact h.postings.original_keys
  | reversalJournalId => exact h.postings.reversal_keys

/-- Any number of posting, adjusting and reversing transactions, interleaved in any way and
    aborted anywhere: no key, proposal or original is used twice, every reversal mirrors a
    posting, every journal balances, and nothing that was committed is changed. -/
theorem concurrent_postings {commands : List Command} {w : World Tables Rows LedgerError Unit}
    (h : ledgerStore.Reaches (JournalTx dep) ⟨ledgerAfter dep commands, []⟩ w) :
    JournalsKept dep w.committed ∧ Enlarges (ledgerAfter dep commands) w.committed := by
  have hstart := @journalsKept_ledgerAfter dep commands
  have hrun : ∀ p, JournalTx dep p → ∀ s, (postingRely dep).Sound s →
      p.Runs (postingRely dep) (fun t rows _ => Complete dep t rows) s ledgerStore.none :=
    fun p hp s hs => hp.commitsWhole s hs
  have hcommit : ∀ s rows (_ : Unit), (postingRely dep).Sound s → ledgerStore.Apart s [rows] →
      Complete dep s rows → (postingRely dep).Sound (ledgerStore.commit s rows) ∧
        (postingRely dep).Grows s (ledgerStore.commit s rows) :=
    fun s rows _ hs hapart hcomplete => hcomplete.commit hs hapart
  have hsafe := Rely.reachable_safe hrun hcommit hstart hstart.apart h
  exact ⟨hsafe.sound, hsafe.grows⟩

def openJanuary : List Command := [samplePeriod "2024-01" "open-1" 738886 738916]

/-- An invoice, the same invoice under another key, and two reversals of it. -/
def rivalCommands : List Command := [
  sampleInvoice "urn:cwl:book:b1" "2024-01" "0f8fad5b-d9cb-469f-a165-70867728950e" "invoice-1" 738900
    1000000,
  sampleInvoice "urn:cwl:book:b1" "2024-01" "0f8fad5b-d9cb-469f-a165-70867728950e" "invoice-2" 738900
    1000000,
  .reverse (sampleReversal "0f8fad5b-d9cb-469f-a165-70867728950e" 738901 (some "reverse-1")) samplePolicy,
  .reverse (sampleReversal "0f8fad5b-d9cb-469f-a165-70867728950e" 738901 (some "reverse-2")) samplePolicy]

theorem concurrent_postings_rivals :
    (ledgerAfter (sampleDeployment sampleCatalog) (openJanuary ++ rivalCommands)).journals.length = 2 ∧
      JournalsKept (sampleDeployment sampleCatalog)
        (ledgerAfter (sampleDeployment sampleCatalog) (openJanuary ++ rivalCommands)) ∧
      Enlarges (ledgerAfter (sampleDeployment sampleCatalog) openJanuary)
        (ledgerAfter (sampleDeployment sampleCatalog) (openJanuary ++ rivalCommands)) := by
  have hrun := @reaches_ledgerAfter (sampleDeployment sampleCatalog) openJanuary rivalCommands
    (by simp [rivalCommands, sampleInvoice, Command.journalTx])
  have hsafe := concurrent_postings hrun
  dsimp only at hsafe
  exact ⟨by decide +kernel, hsafe⟩

end AccountingPlatform.Postgres
