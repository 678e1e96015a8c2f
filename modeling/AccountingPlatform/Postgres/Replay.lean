/-
  What a replay answers: the receipt of the command that wrote the record first, or one put
  together from the incoming command.

  A posting is replayed from its key and payload hash alone; the identifiers of the answer are
  the incoming ones. A reversal is replayed from the stored journal; its source proposal is read
  off the journal reference. `replay_returns_original_iff` says when the answer is the original
  receipt.
-/
import AccountingPlatform.Postgres.Postings

namespace AccountingPlatform.Postgres

open AccountingPlatform.Lib AccountingPlatform.Core

open PostingLedger (ReversalRequest)

variable (dep : Deployment)

/-! ## Replays -/

/-- The key a posting or reversal is replayed by. -/
def Command.replayKey : Command → String
  | .post proposal _ => proposal.idempotencyKey
  | .postProposal proposal => proposal.idempotencyKey
  | .postAdjustingJournal request => request.idempotencyKey
  | .reverse request _ => request.commandKey
  | .openFiscalPeriod _ | .closeFiscalPeriod _ => ""

/-- The receipt of a posting or reversal that is answered as a replay. -/
def replayReceipt (t : Tables) : Command → Option PostingReceipt
  | .post proposal policy =>
    if (t.proposalRecordByKey proposal.idempotencyKey).isSome then
      (post dep t proposal policy).toOption.map Prod.fst
    else none
  | .postProposal proposal =>
    if (t.proposalRecordByKey proposal.idempotencyKey).isSome then
      (postProposal dep t proposal).toOption.map Prod.fst
    else none
  | .reverse request policy =>
    if (existingReversal t request.journalReference).isSome then
      (reverse dep t request policy).toOption.map Prod.fst
    else none
  | .postAdjustingJournal _ | .openFiscalPeriod _ | .closeFiscalPeriod _ => none

/-- The command that wrote the record of a key, with the tables it found. -/
def firstWriter (key : String) (t : Tables) : List Command → Option (Tables × Command)
  | [] => none
  | command :: commands =>
    if ((execute dep t command).proposalRecordByKey key).isSome then some (t, command)
    else firstWriter key (execute dep t command) commands

/-- The receipt the first execution built for a key. -/
def firstReceipt (commands : List Command) (key : String) : Option PostingReceipt :=
  (firstWriter dep key Tables.empty commands).bind fun first => builtReceipt dep first.1 first.2

/-- The replay answers with the first receipt, and the journal it names exists. -/
def ReturnsOriginal (commands : List Command) (command : Command) (receipt : PostingReceipt) :
    Prop :=
  firstReceipt dep commands command.replayKey = some receipt ∧
    ∃ journal ∈ (ledgerAfter dep commands).journals,
      journal.journalReference = receipt.journalReference

instance decReturnsOriginal (commands : List Command) (command : Command)
    (receipt : PostingReceipt) : Decidable (ReturnsOriginal dep commands command receipt) :=
  inferInstanceAs (Decidable (_ ∧ _))

/-! ## Spelling -/

/-- The policy names the book that its role selects. -/
def namesItsBook (proposal : JournalProposal) (policy : AccountingPolicy) : Prop :=
  ((dep.loadLegalEntity proposal.legalEntityReference "posting").toOption.bind fun entity =>
    (dep.requireBook entity.legalEntityId policy.intendedBookRoleCode
      policy.accountingBookReference).toOption.map AccountingBook.bookName) =
    some policy.accountingBookReference

/-- An incoming proposal with the identifiers of the first command. -/
def spelledAs (first : Command) (proposal : JournalProposal) : Prop :=
  match first with
  | .post original policy => proposal.proposalId = original.proposalId ∧
      proposal.tenantReference = original.tenantReference ∧
      proposal.legalEntityReference = original.legalEntityReference ∧
      namesItsBook dep original policy
  | .postProposal original => proposal.proposalId = original.proposalId ∧
      proposal.tenantReference = original.tenantReference ∧
      proposal.legalEntityReference = original.legalEntityReference
  | .postAdjustingJournal request => proposal.proposalId = request.proposalId ∧
      proposal.tenantReference = dep.catalog.tenantReference ∧
      proposal.legalEntityReference = request.legalEntityReference
  | .reverse _ _ | .openFiscalPeriod _ | .closeFiscalPeriod _ => False

/-- The replay spells what the first command spelled; a reversal names its original in lower
    case. -/
def SpelledAsFirst (commands : List Command) (command : Command) : Prop :=
  match command with
  | .post proposal _ | .postProposal proposal =>
    ∃ first, firstWriter dep proposal.idempotencyKey Tables.empty commands = some first ∧
      spelledAs dep first.2 proposal
  | .reverse request _ => canonicalUuid request.journalReference = request.journalReference
  | .postAdjustingJournal _ | .openFiscalPeriod _ | .closeFiscalPeriod _ => False

variable {dep}

/-! ## The first execution -/

theorem proposalRecordByKey_isSome {t : Tables} {key : String} :
    (t.proposalRecordByKey key).isSome = true ↔ ∃ r ∈ t.proposalRecords, r.idempotencyKey = key := by
  simp [Tables.proposalRecordByKey]

/-- A key with a first writer has a record. -/
theorem firstWriter_isSome {key : String} {t : Tables} (hwf : WellFormed dep t)
    {commands : List Command} (h : (firstWriter dep key t commands).isSome = true) :
    ((run (execute dep) t commands).proposalRecordByKey key).isSome = true := by
  induction commands generalizing t with
  | nil => cases h
  | cons command commands ih =>
    rw [run_cons]
    by_cases hnow : ((execute dep t command).proposalRecordByKey key).isSome = true
    · obtain ⟨r, hr, hkey⟩ := proposalRecordByKey_isSome.mp hnow
      refine proposalRecordByKey_isSome.mpr ⟨r, ?_, hkey⟩
      exact (extends_run (wellFormed_execute hwf command) commands).proposalRecords.subset hr
    · rw [firstWriter, if_neg hnow] at h
      exact ih (wellFormed_execute hwf command) h

variable (dep) in
/-- What the first execution of a key left, seen from the end of the run. -/
structure FirstExecution (key : String) (t : Tables) (command : Command) (record : ProposalRecord)
    (journal : GeneralJournal) (lineage : Option JournalReversal) (final : Tables) : Prop where
  wellFormed : WellFormed dep t
  kept : PostingsKept t
  booked : Booked dep t command record journal lineage (builtReceipt dep t command)
    (execute dep t command)
  key_eq : record.idempotencyKey = key
  later : Extends (execute dep t command) final

/-- A key that has a record was written by one command of the run. -/
theorem firstWriter_of_record {key : String} {t : Tables} (hwf : WellFormed dep t)
    (hkept : PostingsKept t) (hfresh : (t.proposalRecordByKey key).isSome = false)
    {commands : List Command}
    (hkey : ((run (execute dep) t commands).proposalRecordByKey key).isSome = true) :
    ∃ t₁ command record journal lineage,
      firstWriter dep key t commands = some (t₁, command) ∧
      FirstExecution dep key t₁ command record journal lineage
        (run (execute dep) t commands) := by
  induction commands generalizing t with
  | nil => exact absurd hkey (by rw [run_nil, hfresh]; decide)
  | cons command commands ih =>
    rw [run_cons] at hkey ⊢
    by_cases hnow : ((execute dep t command).proposalRecordByKey key).isSome = true
    · rcases execute_booked hwf command with hu | ⟨record, journal, lineage, hb⟩
      · rw [Tables.proposalRecordByKey, hu.records, ← Tables.proposalRecordByKey, hfresh] at hnow
        cases hnow
      · refine ⟨t, command, record, journal, lineage, if_pos hnow, hwf, hkept, hb, ?_,
          extends_run (wellFormed_execute hwf command) commands⟩
        obtain ⟨r, hr, hrkey⟩ := proposalRecordByKey_isSome.mp hnow
        rw [hb.records] at hr
        rcases List.mem_append.mp hr with hr | hr
        · rw [proposalRecordByKey_isSome.mpr ⟨r, hr, hrkey⟩] at hfresh
          cases hfresh
        · rw [← List.mem_singleton.mp hr, hrkey]
    · have hkept' : PostingsKept (execute dep t command) := by
        rcases execute_booked hwf command with hu | ⟨record, journal, lineage, hb⟩
        · exact hkept.untouched hu
        · exact hkept.booked hwf hb
      obtain ⟨t₁, first, record, journal, lineage, hfirst, hexec⟩ :=
        ih (wellFormed_execute hwf command) hkept' (by simpa using hnow) hkey
      refine ⟨t₁, first, record, journal, lineage, ?_, hexec⟩
      rw [firstWriter, if_neg hnow, hfirst]

namespace FirstExecution

variable {key : String} {t final : Tables} {command : Command} {record : ProposalRecord}
  {journal : GeneralJournal} {lineage : Option JournalReversal}

theorem record_mem (h : FirstExecution dep key t command record journal lineage final) :
    record ∈ final.proposalRecords :=
  h.later.proposalRecords.subset (h.booked.records ▸ List.mem_append_right _ List.mem_cons_self)

theorem journal_mem (h : FirstExecution dep key t command record journal lineage final) :
    journal ∈ final.journals :=
  h.later.journals.subset (h.booked.journals ▸ List.mem_append_right _ List.mem_cons_self)

theorem lineage_mem (h : FirstExecution dep key t command record journal lineage final) :
    ∀ r ∈ lineage, r ∈ final.reversals := by
  intro r hr
  refine h.later.reversals.subset (h.booked.reversals ▸ List.mem_append_right _ ?_)
  exact Option.mem_toList.mpr hr

/-- The key still leads to its record, and the record to its journal. -/
theorem record_eq (h : FirstExecution dep key t command record journal lineage final)
    (hkept : PostingsKept final) : final.proposalRecordByKey key = some record := by
  rw [← h.key_eq]
  exact find?_of_nodup_map hkept.command_keys h.record_mem

theorem journal_eq (h : FirstExecution dep key t command record journal lineage final)
    (hkept : PostingsKept final) :
    final.journalOfProposal record.proposalRecordId = some journal := by
  rw [h.booked.booking.record_id, ← h.booked.source]
  exact find?_of_nodup_map hkept.source_keys h.journal_mem

end FirstExecution

/-! ## Replayed postings -/

/-- Book and legal entity of a stored journal have names. -/
theorem JournalFacts.named {periods : List FiscalPeriod} {journal : GeneralJournal}
    (h : JournalFacts dep periods journal) :
    ∃ name code, bookName? dep journal.accountingBookId = some name ∧
      legalEntityCode? dep journal.legalEntityId = some code := by
  obtain ⟨book, hbook, hid, hentity⟩ := h.scope
  obtain ⟨entity, hmem, heid⟩ := dep.catalog.book_entity book hbook
  refine ⟨book.bookName, entity.legalEntityCode, ?_, ?_⟩
  · rw [← hid]
    exact bookName?_of_mem hbook
  · rw [← hentity, ← heid, legalEntityCode?,
      find?_of_nodup_map dep.catalog.legalEntity_key hmem, Option.map_some]

/-- A replayed posting spells the identifiers of the incoming proposal. -/
theorem receiptForIdempotencyKey_eq {t : Tables} {proposal : JournalProposal}
    {record : ProposalRecord} {journal : GeneralJournal}
    (hrecord : t.proposalRecordByKey proposal.idempotencyKey = some record)
    (hjournal : t.journalOfProposal record.proposalRecordId = some journal)
    (hhash : record.sourcePayloadHash = proposal.sourcePayloadHash) {name : String}
    (hname : bookName? dep journal.accountingBookId = some name) :
    receiptForIdempotencyKey dep t proposal = .ok (postedReceipt proposal.proposalId
      proposal.tenantReference proposal.legalEntityReference name record journal) := by
  obtain ⟨book, hbook, rfl⟩ := Option.map_eq_some_iff.mp hname
  simp only [receiptForIdempotencyKey, hrecord, hjournal, hbook, fetch, ok_bind]
  unfold postedReceipt PostingLedger.generalJournalReference
  rw [hhash]
  rfl

theorem namesItsBook_iff {proposal : JournalProposal} {policy : AccountingPolicy}
    {journal : GeneralJournal}
    (hscope : ∃ entity book,
      dep.loadLegalEntity proposal.legalEntityReference "posting" = .ok entity ∧
      dep.requireBook entity.legalEntityId policy.intendedBookRoleCode
        policy.accountingBookReference = .ok book ∧
      journal.accountingBookId = book.accountingBookId) :
    namesItsBook dep proposal policy ↔
      bookName? dep journal.accountingBookId = some policy.accountingBookReference := by
  obtain ⟨entity, book, hentity, hbook, hid⟩ := hscope
  have hmem : book ∈ dep.catalog.books := by
    simp only [Deployment.requireBook, fetch_eq_ok] at hbook
    have hmem := dep.fetchone_mem hbook
    simp only [Deployment.booksForRole, List.mem_filter] at hmem
    exact hmem.1
  rw [namesItsBook, hentity, Except.toOption, Option.bind_some, hbook, Except.toOption,
    Option.map_some, hid, bookName?_of_mem hmem]

/-- The answer over the first rows is the receipt the first command built exactly when it spells
    what that command spelled. -/
theorem postedReceipt_first_iff {t : Tables} {record : ProposalRecord} {journal : GeneralJournal}
    {command : Command} {lineage : Option JournalReversal} {built : Option PostingReceipt}
    (hb : Booking dep t record journal command lineage built) (proposal : JournalProposal)
    {name : String} (hname : bookName? dep journal.accountingBookId = some name) :
    built = some (postedReceipt proposal.proposalId proposal.tenantReference
      proposal.legalEntityReference name record journal) ↔ spelledAs dep command proposal := by
  cases hb with
  | @post original policy _ _ hscope =>
    rw [Option.some.injEq, postedReceipt_inj, spelledAs, namesItsBook_iff hscope, hname,
      Option.some.injEq]
    constructor
    · rintro ⟨h₁, h₂, h₃, h₄⟩
      exact ⟨h₁.symm, h₂.symm, h₃.symm, h₄.symm⟩
    · rintro ⟨h₁, h₂, h₃, h₄⟩
      exact ⟨h₁.symm, h₂.symm, h₃.symm, h₄.symm⟩
  | @postProposal original bookName _ _ hbook =>
    rw [hbook, Option.some.injEq] at hname
    rw [Option.some.injEq, postedReceipt_inj, spelledAs]
    constructor
    · rintro ⟨h₁, h₂, h₃, -⟩
      exact ⟨h₁.symm, h₂.symm, h₃.symm⟩
    · rintro ⟨h₁, h₂, h₃⟩
      exact ⟨h₁.symm, h₂.symm, h₃.symm, hname⟩
  | @adjusting request _ _ _ hbook =>
    rw [hbook, Option.some.injEq] at hname
    rw [Option.some.injEq, postedReceipt_inj, spelledAs]
    constructor
    · rintro ⟨h₁, h₂, h₃, -⟩
      exact ⟨h₁.symm, h₂.symm, h₃.symm⟩
    · rintro ⟨h₁, h₂, h₃⟩
      exact ⟨h₁.symm, h₂.symm, h₃.symm, hname⟩
  | reverse =>
    refine iff_of_false (fun h => ?_) id
    have hno := congrArg (Option.map PostingReceipt.reversalOfJournalReference) h
    cases hno
  | close => exact iff_of_false (fun h => nomatch h) id

/-! ## Replayed reversals -/

theorem removePrefix_append (affix rest : String) : removePrefix (affix ++ rest) affix = rest := by
  have hpre : affix.toList.isPrefixOf (affix ++ rest).toList = true := by
    rw [String.toList_append, List.isPrefixOf_iff_prefix]
    exact List.prefix_append _ _
  rw [removePrefix, if_pos hpre, String.toList_append, ← String.length_toList, List.drop_left,
    String.ofList_toList]

theorem removeSuffix_append (rest affix : String) : removeSuffix (rest ++ affix) affix = rest := by
  have hsuf : affix.toList.isSuffixOf (rest ++ affix).toList = true := by
    rw [String.toList_append, List.isSuffixOf_iff_suffix]
    exact List.suffix_append _ _
  have hlength : (rest ++ affix).length - affix.length = rest.toList.length := by
    rw [← String.length_toList, ← String.length_toList, String.toList_append, List.length_append]
    omega
  rw [removeSuffix, if_pos hsuf, hlength, String.toList_append, List.take_left,
    String.ofList_toList]

theorem removeAffixes (affix rest suffix : String) :
    removeSuffix (removePrefix (affix ++ rest ++ suffix) affix) suffix = rest := by
  rw [String.append_assoc, removePrefix_append, removeSuffix_append]

/-- The source proposal a replay reads off a reversal's reference. -/
theorem source_of_reversalReference (id : String) :
    removeSuffix (removePrefix (PostingLedger.generalJournalReference id ++ ":reversal")
      "urn:cwl:accounting:general_journal:") ":reversal" = id :=
  removeAffixes "urn:cwl:accounting:general_journal:" id ":reversal"

theorem canonicalUuid_append {affix : String} (haffix : canonicalUuid affix = affix)
    (text : String) : canonicalUuid (affix ++ text) = affix ++ canonicalUuid text := by
  nth_rewrite 2 [← haffix]
  rw [canonicalUuid, canonicalUuid, canonicalUuid, String.toList_append, List.map_append,
    String.ofList_append]

/-- The prefix of a journal reference is lower case: only the identifier can change. -/
theorem canonicalUuid_reference (id : String) :
    canonicalUuid (PostingLedger.generalJournalReference id) =
      PostingLedger.generalJournalReference id ↔ canonicalUuid id = id := by
  have hinitial : canonicalUuid "urn:cwl:accounting:general_journal:" =
      "urn:cwl:accounting:general_journal:" := by decide +kernel
  have happend : canonicalUuid (PostingLedger.generalJournalReference id) =
      PostingLedger.generalJournalReference (canonicalUuid id) := canonicalUuid_append hinitial id
  rw [happend]
  exact String.append_right_inj _

/-- What `existingReversal` joins. -/
theorem existingReversal_ok {t : Tables} {journalReference : String} {existing : ExistingReversal}
    (h : existingReversal t journalReference = some existing) :
    existing.original ∈ t.journals ∧ existing.original.journalReference = journalReference ∧
    existing.lineage ∈ t.reversals ∧
      existing.lineage.originalJournalId = existing.original.generalJournalId ∧
    existing.reversal ∈ t.journals ∧
      existing.reversal.generalJournalId = existing.lineage.reversalJournalId ∧
    existing.record ∈ t.proposalRecords ∧
      existing.record.proposalRecordId = existing.reversal.sourceProposalRecordId := by
  simp only [existingReversal, Option.bind_eq_bind, Option.bind_eq_some_iff, Option.pure_def,
    Option.some.injEq] at h
  obtain ⟨original, horiginal, lineage, hlineage, reversal, hreversal, record, hrecord, rfl⟩ := h
  refine ⟨List.mem_of_find?_eq_some horiginal, ?_, List.mem_of_find?_eq_some hlineage, ?_,
    List.mem_of_find?_eq_some hreversal, ?_, List.mem_of_find?_eq_some hrecord, ?_⟩
  · simpa using List.find?_some horiginal
  · simpa using List.find?_some hlineage
  · simpa using List.find?_some hreversal
  · simpa using List.find?_some hrecord

/-- A reversed journal was posted, and its reversal sits at its own reference. -/
theorem PostingsKept.reversed {t : Tables} (hwf : WellFormed dep t) (hkept : PostingsKept t)
    {lineage : JournalReversal} (hlineage : lineage ∈ t.reversals)
    {original reversal : GeneralJournal} (horiginal : original ∈ t.journals)
    (hfrom : lineage.originalJournalId = original.generalJournalId)
    (hreversal : reversal ∈ t.journals)
    (hof : reversal.generalJournalId = lineage.reversalJournalId) :
    reversal.journalReference = original.journalReference ++ ":reversal" ∧
      ∃ id, matchesProposalId id = true ∧
        original.journalReference = PostingLedger.generalJournalReference id := by
  obtain ⟨record, -, -, hprov⟩ := hkept.provenance reversal hreversal
  cases hprov with
  | posted _ _ _ _ hnot => exact absurd hof.symm (hnot lineage hlineage)
  | closing _ _ hnot => exact absurd hof.symm (hnot lineage hlineage).1
  | @reversal lineage' original' id hlineage' hof' horiginal' hfrom' hid horef href =>
    obtain rfl : lineage' = lineage :=
      List.inj_on_of_nodup_map hkept.reversal_keys hlineage' hlineage (hof'.trans hof)
    obtain rfl : original' = original :=
      List.inj_on_of_nodup_map hwf.journal_keys horiginal' horiginal (hfrom'.symm.trans hfrom)
    exact ⟨href, id, hid, horef⟩

/-- A replayed reversal answers with the stored rows and a source proposal read off the text. -/
theorem receiptForJournal_eq {t : Tables} (hwf : WellFormed dep t) (hkept : PostingsKept t)
    {lineage : JournalReversal} (hlineage : lineage ∈ t.reversals)
    {original reversal : GeneralJournal} (horiginal : original ∈ t.journals)
    (hfrom : lineage.originalJournalId = original.generalJournalId)
    (hreversal : reversal ∈ t.journals)
    (hof : reversal.generalJournalId = lineage.reversalJournalId) {record : ProposalRecord}
    (hrecord : record ∈ t.proposalRecords)
    (hsource : record.proposalRecordId = reversal.sourceProposalRecordId) {id : String}
    (horef : original.journalReference = PostingLedger.generalJournalReference id)
    {entity book : String} (hentity : legalEntityCode? dep reversal.legalEntityId = some entity)
    (hbook : bookName? dep reversal.accountingBookId = some book) :
    receiptForJournal dep t reversal.journalReference =
      .ok (reversedReceipt id dep.catalog.tenantReference entity book original.journalReference
        record reversal) := by
  obtain ⟨href, -⟩ := hkept.reversed hwf hlineage horiginal hfrom hreversal hof
  have hjournal : t.journalByReference reversal.journalReference = some reversal :=
    find?_of_nodup_map hwf.reference_keys hreversal
  have hrec : t.proposalRecord? reversal.sourceProposalRecordId = some record := by
    rw [← hsource]
    exact find?_of_nodup_map hkept.record_keys hrecord
  have hline : lineageOf? t reversal.generalJournalId = some lineage := by
    rw [hof]
    exact find?_of_nodup_map hkept.reversal_keys hlineage
  have horig : t.journal? lineage.originalJournalId = some original := by
    rw [hfrom]
    exact find?_of_nodup_map hwf.journal_keys horiginal
  simp only [receiptForJournal, hjournal, hrec, hline, horig, hentity, hbook, fetch, ok_bind,
    Option.bind_eq_bind, Option.bind_some]
  unfold reversedReceipt
  rw [href, horef, source_of_reversalReference]
  rfl

/-- A UUID is not the identifier of another followed by `:reversal`. -/
theorem reference_ne_reversal {id id' : String} (hid : matchesProposalId id = true) :
    PostingLedger.generalJournalReference id ≠
      PostingLedger.generalJournalReference id' ++ ":reversal" := by
  intro h
  have happend : PostingLedger.generalJournalReference id' ++ ":reversal" =
      PostingLedger.generalJournalReference (id' ++ ":reversal") := String.append_assoc
  rw [happend] at h
  have hid' : id = id' ++ ":reversal" := (String.append_right_inj _).mp h
  have hcolon : ':' ∈ ":reversal".toList := by decide +kernel
  apply proposalId_no_colon hid
  rw [hid', String.toList_append]
  exact List.mem_append_right _ hcolon

/-- The answer over the first rows of a reversal is the receipt it built exactly when the
    original was named by its stored, lower-case identifier. -/
theorem reversedReceipt_first_iff {t : Tables} (hkept : PostingsKept t) {record : ProposalRecord}
    {journal : GeneralJournal} {command : Command} {lineage : Option JournalReversal}
    {built : Option PostingReceipt} (hb : Booking dep t record journal command lineage built)
    {id entity book : String}
    (href : journal.journalReference = PostingLedger.generalJournalReference id ++ ":reversal")
    (hentity : legalEntityCode? dep journal.legalEntityId = some entity)
    (hbook : bookName? dep journal.accountingBookId = some book)
    (hclosing : isClosingReference journal.journalReference = false) :
    built = some (reversedReceipt id dep.catalog.tenantReference entity book
      (PostingLedger.generalJournalReference id) record journal) ↔ canonicalUuid id = id := by
  cases hb with
  | @post proposal _ _ hreference =>
    exact absurd (hreference.symm.trans href) (reference_ne_reversal proposal.proposalId_matches)
  | @postProposal proposal _ _ hreference =>
    exact absurd (hreference.symm.trans href) (reference_ne_reversal proposal.proposalId_matches)
  | adjusting hid _ hreference =>
    exact absurd (hreference.symm.trans href) (reference_ne_reversal hid)
  | @close request _ _ hreference =>
    rw [hreference, closingReference_closing] at hclosing
    cases hclosing
  | @reverse request policy original originalRecord horiginal hfinal hnot _ horiginalRecord _
      hreference hscope _ _ _ htenant hpolicyEntity hpolicyBook =>
    have hmem : original ∈ t.journals := List.mem_of_find?_eq_some horiginal
    have horef : original.journalReference = request.journalReference := by
      simpa using List.find?_some horiginal
    have hname : request.journalReference = PostingLedger.generalJournalReference id :=
      (String.append_left_inj _).mp (hreference.symm.trans href)
    obtain ⟨record', hrecord', hsource, id', -, hid', hexternal, -⟩ :=
      hkept.original_posted hmem hfinal hnot
    have hsame : id' = id :=
      (String.append_right_inj _).mp (hid'.symm.trans (horef.trans hname))
    have hfound : t.proposalRecord? original.sourceProposalRecordId = some record' := by
      rw [← hsource]
      exact find?_of_nodup_map hkept.record_keys hrecord'
    have hrecord : originalRecord = record' :=
      Option.some.inj (horiginalRecord.symm.trans hfound)
    have htext : originalRecord.externalProposalId.text dep = canonicalUuid id := by
      rw [hrecord, hexternal, hsame]
      rfl
    have hentity' : policy.legalEntityReference = entity := by
      rw [hscope.2, hpolicyEntity] at hentity
      exact Option.some.inj hentity
    have hbook' : policy.accountingBookReference = book := by
      rw [hscope.1, hpolicyBook] at hbook
      exact Option.some.inj hbook
    rw [htext, ← htenant, hentity', hbook', hname, Option.some.injEq]
    constructor
    · intro h
      exact congrArg PostingReceipt.sourceProposalId h
    · intro h
      rw [h]

/-- The receipt a command builds names the journal it wrote. -/
theorem Booking.receipt_reference {t : Tables} {record : ProposalRecord} {journal : GeneralJournal}
    {command : Command} {lineage : Option JournalReversal} {built : Option PostingReceipt}
    (hb : Booking dep t record journal command lineage built) {receipt : PostingReceipt}
    (h : built = some receipt) : journal.journalReference = receipt.journalReference := by
  cases hb with
  | post _ hreference => rw [← Option.some.inj h, hreference]; rfl
  | postProposal _ hreference => rw [← Option.some.inj h, hreference]; rfl
  | adjusting _ _ hreference => rw [← Option.some.inj h, hreference]; rfl
  | reverse => rw [← Option.some.inj h]; rfl
  | close => cases h

/-- A first receipt names a journal of the ledger, so only the receipts have to be compared. -/
theorem FirstExecution.returnsOriginal_iff {key : String} {t : Tables} {first : Command}
    {record : ProposalRecord} {journal : GeneralJournal} {lineage : Option JournalReversal}
    {commands : List Command} {command : Command} (hreplay : command.replayKey = key)
    (hfirst : firstWriter dep key Tables.empty commands = some (t, first))
    (hexec : FirstExecution dep key t first record journal lineage (ledgerAfter dep commands))
    {receipt : PostingReceipt} :
    ReturnsOriginal dep commands command receipt ↔ builtReceipt dep t first = some receipt := by
  rw [ReturnsOriginal, firstReceipt, hreplay, hfirst, Option.bind_some]
  constructor
  · exact fun h => h.1
  · intro h
    exact ⟨h, journal, hexec.journal_mem, hexec.booked.booking.receipt_reference h⟩

/-! ## The answer to a replay -/

theorem persistProposal_replay {t : Tables} {proposal : JournalProposal}
    {supplied : Option AccountingPolicy} {receipt : PostingReceipt}
    (hkey : (t.proposalRecordByKey proposal.idempotencyKey).isSome = true)
    (h : (persistProposal dep t proposal supplied).toOption.map Prod.fst = some receipt) :
    ∃ prior, t.proposalRecordByKey proposal.idempotencyKey = some prior ∧
      prior.sourcePayloadHash = proposal.sourcePayloadHash ∧
      receiptForIdempotencyKey dep t proposal = .ok receipt := by
  obtain ⟨prior, hprior⟩ := Option.isSome_iff_exists.mp hkey
  obtain ⟨⟨receipt', t'⟩, hok, rfl⟩ := Option.map_eq_some_iff.mp h
  replace hok := toOption_eq_some.mp hok
  simp only [persistProposal, hprior, bind_eq_ok, require_eq_ok, pure_eq_ok, Prod.mk.injEq] at hok
  obtain ⟨-, hhash, receipt'', hreceipt, rfl, -⟩ := hok
  exact ⟨prior, hprior, hhash, hreceipt⟩

theorem replayed_posting_iff {commands : List Command} {command : Command}
    {proposal : JournalProposal} {supplied : Option AccountingPolicy} {receipt : PostingReceipt}
    (hreplay : command.replayKey = proposal.idempotencyKey)
    (hkey : ((ledgerAfter dep commands).proposalRecordByKey proposal.idempotencyKey).isSome = true)
    (h : (persistProposal dep (ledgerAfter dep commands) proposal supplied).toOption.map Prod.fst =
      some receipt) :
    ReturnsOriginal dep commands command receipt ↔
      ∃ first, firstWriter dep proposal.idempotencyKey Tables.empty commands = some first ∧
        spelledAs dep first.2 proposal := by
  obtain ⟨prior, hprior, hhash, hreceipt⟩ := persistProposal_replay hkey h
  obtain ⟨t, first, record, journal, lineage, hfirst, hexec⟩ :=
    firstWriter_of_record wellFormed_empty postingsKept_empty rfl hkey
  have hkept := @postingsKept_ledgerAfter dep commands
  have hrecord := hexec.record_eq hkept
  obtain rfl : prior = record := Option.some.inj (hprior.symm.trans hrecord)
  obtain ⟨name, -, hname, -⟩ := (wellFormed_ledgerAfter commands).facts _ hexec.journal_mem |>.named
  rw [receiptForIdempotencyKey_eq hprior (hexec.journal_eq hkept) hhash hname, Except.ok.injEq]
    at hreceipt
  subst hreceipt
  rw [hexec.returnsOriginal_iff hreplay hfirst,
    postedReceipt_first_iff hexec.booked.booking _ hname, hfirst]
  constructor
  · exact fun hspelled => ⟨_, rfl, hspelled⟩
  · rintro ⟨_, hsome, hspelled⟩
    rw [← Option.some.inj hsome] at hspelled
    exact hspelled

theorem reverse_replay {t : Tables} {request : ReversalRequest} {policy : AccountingPolicy}
    {receipt : PostingReceipt} (hsome : (existingReversal t request.journalReference).isSome = true)
    (h : (reverse dep t request policy).toOption.map Prod.fst = some receipt) :
    ∃ existing, existingReversal t request.journalReference = some existing ∧
      existing.record.idempotencyKey = request.commandKey ∧
      receiptForJournal dep t existing.reversal.journalReference = .ok receipt := by
  obtain ⟨existing, hexisting⟩ := Option.isSome_iff_exists.mp hsome
  obtain ⟨⟨receipt', t'⟩, hok, rfl⟩ := Option.map_eq_some_iff.mp h
  replace hok := toOption_eq_some.mp hok
  simp only [reverse, hexisting, replayReversal, bind_eq_ok, require_eq_ok, pure_eq_ok,
    Prod.mk.injEq] at hok
  obtain ⟨-, -, -, -, receipt'', ⟨-, hkey, -, -, hreceipt⟩, rfl, -⟩ := hok
  exact ⟨existing, hexisting, hkey, hreceipt⟩

theorem replayed_reversal_iff {commands : List Command} {request : ReversalRequest}
    {policy : AccountingPolicy} {receipt : PostingReceipt}
    (hsome : (existingReversal (ledgerAfter dep commands) request.journalReference).isSome = true)
    (h : (reverse dep (ledgerAfter dep commands) request policy).toOption.map Prod.fst =
      some receipt) :
    ReturnsOriginal dep commands (.reverse request policy) receipt ↔
      canonicalUuid request.journalReference = request.journalReference := by
  have hwf := @wellFormed_ledgerAfter dep commands
  have hkept := @postingsKept_ledgerAfter dep commands
  obtain ⟨existing, hexisting, hcommand, hreceipt⟩ := reverse_replay hsome h
  obtain ⟨horiginal, horef, hlineage, hfrom, hreversal, hof, hrecord, hsource⟩ :=
    existingReversal_ok hexisting
  obtain ⟨href, id, hmatches, hid⟩ := hkept.reversed hwf hlineage horiginal hfrom hreversal hof
  obtain ⟨book, entity, hbook, hentity⟩ := (hwf.facts _ hreversal).named
  rw [receiptForJournal_eq hwf hkept hlineage horiginal hfrom hreversal hof hrecord hsource hid
    hentity hbook, Except.ok.injEq] at hreceipt
  subst hreceipt
  have hkey : ((ledgerAfter dep commands).proposalRecordByKey request.commandKey).isSome = true :=
    proposalRecordByKey_isSome.mpr ⟨_, hrecord, hcommand⟩
  obtain ⟨t, first, record, journal, lineage, hfirst, hexec⟩ :=
    firstWriter_of_record wellFormed_empty postingsKept_empty rfl hkey
  -- the record and the journal of the first execution are the ones the replay joined
  obtain rfl : existing.record = record :=
    List.inj_on_of_nodup_map hkept.command_keys hrecord hexec.record_mem
      (hcommand.trans hexec.key_eq.symm)
  obtain rfl : existing.reversal = journal :=
    List.inj_on_of_nodup_map hkept.source_keys hreversal hexec.journal_mem
      (hsource.symm.trans (hexec.booked.booking.record_id.trans hexec.booked.source.symm))
  have hclosing : isClosingReference existing.reversal.journalReference = false := by
    apply FromProposal.not_closing
    refine ⟨id, hmatches, ?_⟩
    rw [href, hid, String.toList_append]
    exact List.prefix_append _ _
  rw [hexec.returnsOriginal_iff rfl hfirst, hid,
    reversedReceipt_first_iff hexec.kept hexec.booked.booking (href.trans (hid ▸ rfl)) hentity hbook
      hclosing, ← horef, hid, canonicalUuid_reference]

/-- A replay answers with the first receipt, and names a journal of the ledger, exactly when it
    is spelled as the first command was. -/
theorem replay_returns_original_iff (commands : List Command) (command : Command)
    (receipt : PostingReceipt)
    (h : replayReceipt dep (ledgerAfter dep commands) command = some receipt) :
    ReturnsOriginal dep commands command receipt ↔ SpelledAsFirst dep commands command := by
  cases command with
  | post proposal policy =>
    simp only [replayReceipt, Option.ite_none_right_eq_some] at h
    exact replayed_posting_iff rfl h.1 h.2
  | postProposal proposal =>
    simp only [replayReceipt, Option.ite_none_right_eq_some] at h
    exact replayed_posting_iff rfl h.1 h.2
  | reverse request policy =>
    simp only [replayReceipt, Option.ite_none_right_eq_some] at h
    exact replayed_reversal_iff h.1 h.2
  | postAdjustingJournal request => cases h
  | openFiscalPeriod request => cases h
  | closeFiscalPeriod request => cases h

/-! ## An invoice, its reversal and their replays -/

/-- An invoice of January under a lower-case identifier, reversed. -/
def reversedInvoiceCommands : List Command := [
  samplePeriod "2024-01" "open-1" 738886 738916,
  .postProposal ⟨invoiceFields "0f8fad5b-d9cb-469f-a165-70867728950e" "invoice-1" 738890,
    by decide +kernel⟩,
  .reverse (sampleReversal "0f8fad5b-d9cb-469f-a165-70867728950e" 738890 none) samplePolicy]

/-- The invoice again, its identifier in upper case. -/
def upperCaseInvoice : Command :=
  .postProposal ⟨invoiceFields "0F8FAD5B-D9CB-469F-A165-70867728950E" "invoice-1" 738890,
    by decide +kernel⟩

/-- The receipt of the invoice, over an identifier. -/
def invoiceReceipt (proposalId : String) : PostingReceipt where
  receiptReference := "urn:cwl:accounting:posting_receipt:" ++ proposalId
  journalReference := PostingLedger.generalJournalReference proposalId
  postingStatusCode := "posted"
  sourceProposalId := proposalId
  sourcePayloadHash := "sha256:0000000000000000000000000000000000000000000000000000000000000000"
  tenantReference := "urn:cwl:tenant:t1"
  legalEntityReference := "urn:cwl:legal_entity:e1"
  accountingBookReference := "urn:cwl:book:b1"
  accountingPolicyVersion := "v1"
  postingRuleVersion := "v1"
  lineCount := 2
  reversalOfJournalReference := none

/-- The replay answers with a receipt over the upper-case identifier; no journal has its name. -/
theorem upperCaseInvoice_not_original :
    let dep := sampleDeployment sampleCatalog
    let receipt := invoiceReceipt "0F8FAD5B-D9CB-469F-A165-70867728950E"
    replayReceipt dep (ledgerAfter dep reversedInvoiceCommands) upperCaseInvoice = some receipt ∧
    (∀ journal ∈ (ledgerAfter dep reversedInvoiceCommands).journals,
      journal.journalReference ≠ receipt.journalReference) ∧
    ¬ReturnsOriginal dep reversedInvoiceCommands upperCaseInvoice receipt := by
  decide +kernel

/-- The receipt of its reversal, which a replay repeats. -/
def reversalReceiptOfInvoice : PostingReceipt :=
  let reference := "urn:cwl:accounting:general_journal:0f8fad5b-d9cb-469f-a165-70867728950e"
  { invoiceReceipt "0f8fad5b-d9cb-469f-a165-70867728950e" with
    receiptReference := reference ++ ":reversal:receipt"
    journalReference := reference ++ ":reversal"
    sourcePayloadHash := reversalCommandHash (sampleDeployment sampleCatalog)
      (sampleReversal "0f8fad5b-d9cb-469f-a165-70867728950e" 738890 none)
    reversalOfJournalReference := some reference }

theorem lowerCaseReversal_original :
    ReturnsOriginal (sampleDeployment sampleCatalog) reversedInvoiceCommands
      (.reverse (sampleReversal "0f8fad5b-d9cb-469f-a165-70867728950e" 738890 none) samplePolicy)
      reversalReceiptOfInvoice := by
  refine (replay_returns_original_iff reversedInvoiceCommands _ reversalReceiptOfInvoice ?_).mpr ?_
  · decide +kernel
  · unfold SpelledAsFirst
    decide +kernel

end AccountingPlatform.Postgres
