/-
  Command keys of the PostgreSQL ledger.

  Records of postings, reversals and closes share one unique key column, so a key has one
  journal. What a later command under the key is answered is another matter: a posting is
  compared with the record by payload hash alone. `commandKey_names_one_command_iff` says for
  both ledgers when a key names one command.
-/
import AccountingPlatform.Core.CommandKeys
import AccountingPlatform.Core.Integrity
import AccountingPlatform.Postgres.Replay

namespace AccountingPlatform.Postgres

open AccountingPlatform.Lib AccountingPlatform.Core

open PostingLedger (ReversalRequest)

variable (dep : Deployment)

/-! ## Keys and answers -/

/-- The proposal of a posting. -/
def Command.proposal? : Command → Option JournalProposal
  | .post proposal _ => some proposal
  | .postProposal proposal => some proposal
  | _ => none

/-- The same kind of command, the same payload hash, and for a reversal the same original, date
    and reason. -/
def Command.identical (command first : Command) : Prop :=
  match command, first with
  | .reverse request _, .reverse original _ =>
    reversalCommandHash dep request = reversalCommandHash dep original ∧
      request.journalReference = original.journalReference ∧
      request.reversalDate = original.reversalDate ∧
      request.reversalReasonCode = original.reversalReasonCode
  | _, _ => ∃ proposal original, command.proposal? = some proposal ∧
      first.proposal? = some original ∧ proposal.sourcePayloadHash = original.sourcePayloadHash

/-- What a posting or a reversal is answered. -/
def receiptAnswer (t : Tables) : Command → Option (Result PostingReceipt)
  | .post proposal policy => some ((post dep t proposal policy).map Prod.fst)
  | .postProposal proposal => some ((postProposal dep t proposal).map Prod.fst)
  | .reverse request policy => some ((reverse dep t request policy).map Prod.fst)
  | .postAdjustingJournal _ | .openFiscalPeriod _ | .closeFiscalPeriod _ => none

/-- After the commands `before`, a posting or reversal whose key has a record is the identical
    command to the one that wrote it and is answered by its receipt, or is refused. No table
    changes either way. -/
def NamesItsCommand (before : List Command) (command : Command) : Prop :=
  let t := ledgerAfter dep before
  ∀ result, receiptAnswer dep t command = some result →
    ∀ t₁ first, firstWriter dep command.replayKey Tables.empty before = some (t₁, first) →
      (command.identical dep first ∧ attempt dep t command = .ok t ∧
        ∃ receipt, builtReceipt dep t₁ first = some receipt ∧ result = .ok receipt) ∨
      ∃ e, result = .error e ∧ e.isAccountingValidation ∧ execute dep t command = t

/-- A posting under a key with its payload hash follows a posting that it spells alike; a
    reversal that repeats the first one names its original in lower case. -/
def KeyFree (before : List Command) (command : Command) : Prop :=
  ∀ t₁ first, firstWriter dep command.replayKey Tables.empty before = some (t₁, first) →
    match command with
    | .post proposal _ | .postProposal proposal =>
      (∃ record ∈ (ledgerAfter dep before).proposalRecords,
        record.idempotencyKey = proposal.idempotencyKey ∧
          record.sourcePayloadHash = proposal.sourcePayloadHash) →
      first.proposal?.isSome = true ∧ spelledAs dep first proposal
    | .reverse request policy => (Command.reverse request policy).identical dep first →
      canonicalUuid request.journalReference = request.journalReference
    | .postAdjustingJournal _ | .openFiscalPeriod _ | .closeFiscalPeriod _ => True

variable {dep}

/-! ## Postings under a known key -/

/-- A posting whose key has a record is answered over it, or refused. -/
theorem persistProposal_known {t : Tables} {proposal : JournalProposal}
    (supplied : Option AccountingPolicy) {record : ProposalRecord} {journal : GeneralJournal}
    (hrecord : t.proposalRecordByKey proposal.idempotencyKey = some record)
    (hjournal : t.journalOfProposal record.proposalRecordId = some journal) {name : String}
    (hname : bookName? dep journal.accountingBookId = some name) :
    (record.sourcePayloadHash = proposal.sourcePayloadHash ∧
      persistProposal dep t proposal supplied = .ok (postedReceipt proposal.proposalId
        proposal.tenantReference proposal.legalEntityReference name record journal, t)) ∨
    (record.sourcePayloadHash ≠ proposal.sourcePayloadHash ∧
      persistProposal dep t proposal supplied = .error idempotencyKeyConflict) := by
  unfold persistProposal
  rw [hrecord]
  by_cases hhash : record.sourcePayloadHash = proposal.sourcePayloadHash
  · refine Or.inl ⟨hhash, ?_⟩
    show (require _ _ >>= fun _ => receiptForIdempotencyKey dep t proposal >>= fun receipt =>
      pure (receipt, t)) = _
    rw [require_of hhash, receiptForIdempotencyKey_eq hrecord hjournal hhash hname]
    rfl
  · refine Or.inr ⟨hhash, ?_⟩
    show (require _ _ >>= _) = _
    rw [require, if_neg hhash]
    rfl

theorem posting_identical_iff {command first : Command} {proposal : JournalProposal}
    (hproposal : command.proposal? = some proposal) :
    command.identical dep first ↔ ∃ original, first.proposal? = some original ∧
      proposal.sourcePayloadHash = original.sourcePayloadHash := by
  have hplain : command.identical dep first ↔ ∃ proposal original,
      command.proposal? = some proposal ∧ first.proposal? = some original ∧
        proposal.sourcePayloadHash = original.sourcePayloadHash := by
    cases command with
    | reverse => cases hproposal
    | _ => exact Iff.rfl
  rw [hplain]
  constructor
  · rintro ⟨proposal', original, hproposal', horiginal, hhash⟩
    cases hproposal.symm.trans hproposal'
    exact ⟨original, horiginal, hhash⟩
  · rintro ⟨original, horiginal, hhash⟩
    exact ⟨proposal, original, hproposal, horiginal, hhash⟩

/-- The record of a posting carries its payload hash. -/
theorem Booking.posting_hash {t : Tables} {record : ProposalRecord} {journal : GeneralJournal}
    {command : Command} {lineage : Option JournalReversal} {built : Option PostingReceipt}
    (hb : Booking dep t record journal command lineage built) {original : JournalProposal}
    (horiginal : command.proposal? = some original) :
    record.sourcePayloadHash = original.sourcePayloadHash := by
  cases hb with
  | post hrecord =>
    cases horiginal
    rw [hrecord]
  | postProposal hrecord =>
    cases horiginal
    rw [hrecord]
  | adjusting => cases horiginal
  | reverse => cases horiginal
  | close => cases horiginal

/-- A posting under a known key: what `NamesItsCommand` asks of it. -/
theorem named_posting_iff {commands : List Command} {command : Command}
    {proposal : JournalProposal} {supplied : Option AccountingPolicy} {t₁ : Tables}
    {first : Command} {record : ProposalRecord} {journal : GeneralJournal}
    {lineage : Option JournalReversal}
    (hexec : FirstExecution dep proposal.idempotencyKey t₁ first record journal lineage
      (ledgerAfter dep commands))
    (hidentical : command.identical dep first ↔ ∃ original, first.proposal? = some original ∧
      proposal.sourcePayloadHash = original.sourcePayloadHash)
    (hattempt : attempt dep (ledgerAfter dep commands) command =
      (persistProposal dep (ledgerAfter dep commands) proposal supplied).map Prod.snd) :
    ((command.identical dep first ∧
        attempt dep (ledgerAfter dep commands) command = .ok (ledgerAfter dep commands) ∧
        ∃ receipt, builtReceipt dep t₁ first = some receipt ∧
          (persistProposal dep (ledgerAfter dep commands) proposal supplied).map Prod.fst =
            .ok receipt) ∨
      ∃ e, (persistProposal dep (ledgerAfter dep commands) proposal supplied).map Prod.fst =
          .error e ∧ e.isAccountingValidation ∧
        execute dep (ledgerAfter dep commands) command = ledgerAfter dep commands) ↔
    ((∃ record ∈ (ledgerAfter dep commands).proposalRecords,
        record.idempotencyKey = proposal.idempotencyKey ∧
          record.sourcePayloadHash = proposal.sourcePayloadHash) →
      first.proposal?.isSome = true ∧ spelledAs dep first proposal) := by
  have hkept := @postingsKept_ledgerAfter dep commands
  have hrecord := hexec.record_eq hkept
  have hjournal := hexec.journal_eq hkept
  have honly : ∀ r ∈ (ledgerAfter dep commands).proposalRecords,
      r.idempotencyKey = proposal.idempotencyKey → r = record := fun r hr hkey =>
    List.inj_on_of_nodup_map hkept.command_keys hr hexec.record_mem (hkey.trans hexec.key_eq.symm)
  obtain ⟨name, -, hname, -⟩ :=
    ((@wellFormed_ledgerAfter dep commands).facts _ hexec.journal_mem).named
  rcases persistProposal_known supplied hrecord hjournal hname with ⟨hhash, hok⟩ | ⟨hhash, herror⟩
  · have hspelled := postedReceipt_first_iff hexec.booked.booking proposal hname
    rw [hattempt, hok]
    constructor
    · rintro (⟨hsame, -, receipt, hbuilt, hreceipt⟩ | ⟨e, herror, -⟩) -
      · obtain ⟨original, horiginal, -⟩ := hidentical.mp hsame
        cases hreceipt
        exact ⟨by rw [horiginal]; rfl, hspelled.mp hbuilt⟩
      · cases herror
    · intro hfree
      obtain ⟨hposting, hspells⟩ := hfree ⟨record, hexec.record_mem, hexec.key_eq, hhash⟩
      obtain ⟨original, horiginal⟩ := Option.isSome_iff_exists.mp hposting
      refine Or.inl ⟨hidentical.mpr ⟨original, horiginal, ?_⟩, rfl, _, hspelled.mpr hspells, rfl⟩
      rw [← hhash, hexec.booked.booking.posting_hash horiginal]
  · rw [herror]
    refine iff_of_true (Or.inr ⟨_, rfl, trivial, ?_⟩) ?_
    · refine execute_of_error dep (e := idempotencyKeyConflict) ?_
      rw [hattempt, herror]
      rfl
    · rintro ⟨r, hr, hkey, hsame⟩
      rw [honly r hr hkey] at hsame
      exact absurd hsame hhash

/-! ## Reversals under a known key -/

variable (dep) in
/-- The stored reversal of a journal has the evidence of the command. -/
structure SameEvidence (t : Tables) (request : ReversalRequest) (existing : ExistingReversal) :
    Prop where
  found : existingReversal t request.journalReference = some existing
  key : existing.record.idempotencyKey = request.commandKey
  hash : existing.record.sourcePayloadHash = reversalCommandHash dep request
  reference : existing.original.journalReference = request.journalReference
  reason : existing.lineage.reversalReasonCode = request.reversalReasonCode
  date : existing.reversal.accountingDate = request.reversalDate

/-- A stored reversal can be answered. -/
theorem receiptForJournal_total {t : Tables} (hwf : WellFormed dep t) (hkept : PostingsKept t)
    {journalReference : String} {existing : ExistingReversal}
    (hfound : existingReversal t journalReference = some existing) :
    ∃ receipt, receiptForJournal dep t existing.reversal.journalReference = .ok receipt := by
  obtain ⟨horiginal, -, hlineage, hfrom, hreversal, hof, hrecord, hsource⟩ :=
    existingReversal_ok hfound
  obtain ⟨-, id, -, hid⟩ := hkept.reversed hwf hlineage horiginal hfrom hreversal hof
  obtain ⟨book, entity, hbook, hentity⟩ := (hwf.facts _ hreversal).named
  exact ⟨_, receiptForJournal_eq hwf hkept hlineage horiginal hfrom hreversal hof hrecord hsource hid
    hentity hbook⟩

/-- A reversal whose key has a record is a replay, or is refused. -/
theorem reverse_known {t : Tables} (hwf : WellFormed dep t) (hkept : PostingsKept t)
    {request : ReversalRequest} (policy : AccountingPolicy)
    (hkey : (t.proposalRecordByKey request.commandKey).isSome = true) :
    (∃ existing receipt, SameEvidence dep t request existing ∧
      reverse dep t request policy = .ok (receipt, t)) ∨
    ∃ e, reverse dep t request policy = .error e ∧ e.isAccountingValidation := by
  have hraises : Raises LedgerError.isAccountingValidation (reverse dep t request policy) := by
    unfold reverse requireCode
    refine raises_bind (raises_require trivial) fun _ _ => ?_
    refine raises_bind (raises_require trivial) fun _ _ => ?_
    split
    · next existing hexisting =>
      unfold replayReversal
      refine raises_bind (raises_bind (raises_require trivial) fun _ _ => ?_) fun _ _ => raises_pure _
      refine raises_bind (raises_require trivial) fun _ _ => ?_
      obtain ⟨receipt, hreceipt⟩ := receiptForJournal_total hwf hkept hexisting
      rw [hreceipt]
      exact raises_ok receipt
    · unfold persistFreshReversal
      rw [require, if_neg (fun hnone => by rw [hnone] at hkey; cases hkey)]
      exact raises_error trivial
  cases hresult : reverse dep t request policy with
  | error e => exact Or.inr ⟨e, rfl, hraises e hresult⟩
  | ok result =>
    obtain ⟨receipt, t'⟩ := result
    rcases reverse_ok dep hresult with ⟨existing, hfound, hreplay, rfl⟩ | ⟨_, _, _, _, _, hfresh, -⟩
    · simp only [replayReversal, bind_eq_ok, require_eq_ok] at hreplay
      obtain ⟨-, hsame, -, ⟨hhash, hreference, hreason, hdate⟩, -⟩ := hreplay
      exact Or.inl ⟨existing, receipt, ⟨hfound, hsame, hhash, hreference, hreason, hdate⟩, rfl⟩
    · rw [hfresh.key_fresh] at hkey
      cases hkey

/-- A repeated reversal finds the reversal that the first one stored. -/
theorem FirstExecution.sameEvidence {key : String} {t final : Tables}
    {original : ReversalRequest} {policy : AccountingPolicy} {record : ProposalRecord}
    {journal : GeneralJournal} {lineage : Option JournalReversal}
    (h : FirstExecution dep key t (.reverse original policy) record journal lineage final)
    (hwf : WellFormed dep final) (hkept : PostingsKept final) :
    ∃ existing, SameEvidence dep final original existing := by
  have hjournal := h.journal_mem
  have hline := h.lineage_mem
  have hrecordMem := h.record_mem
  have hid := h.booked.source
  have hlater := h.later
  have hjournals := h.booked.journals
  have hbooking := h.booked.booking
  generalize builtReceipt dep t (.reverse original policy) = built at hbooking
  cases hbooking with
  | @reverse _ _ originalJournal originalRecord horiginal hfinal hnot hfirst horiginalRecord hrecord
      hreference hscope hdate =>
    have hstored : originalJournal ∈ final.journals := by
      apply hlater.journals.subset
      rw [hjournals]
      exact List.mem_append_left _ (List.mem_of_find?_eq_some horiginal)
    have horef : originalJournal.journalReference = original.journalReference := by
      simpa using List.find?_some horiginal
    have hrow := hline _ rfl
    have h₁ : final.journalByReference original.journalReference = some originalJournal := by
      rw [← horef]
      exact find?_of_nodup_map hwf.reference_keys hstored
    have h₂ : reversalOf? final originalJournal.generalJournalId =
        some ⟨originalJournal.generalJournalId, journal.generalJournalId,
          original.reversalReasonCode⟩ :=
      find?_of_nodup_map hkept.original_keys hrow
    have h₃ : final.journal? journal.generalJournalId = some journal :=
      find?_of_nodup_map hwf.journal_keys hjournal
    have h₄ : final.proposalRecord? journal.sourceProposalRecordId = some record := by
      rw [hid, show t.nextId = record.proposalRecordId by rw [hrecord]]
      exact find?_of_nodup_map hkept.record_keys hrecordMem
    refine ⟨⟨⟨originalJournal.generalJournalId, journal.generalJournalId,
      original.reversalReasonCode⟩, originalJournal, journal, record⟩, ?_, ?_, ?_, horef, rfl, hdate⟩
    · simp only [existingReversal, h₁, h₂, h₃, h₄, Option.bind_eq_bind, Option.bind_some,
        Option.pure_def]
    · rw [hrecord]
    · rw [hrecord]

/-- Only the command that stored a reversal has its evidence. -/
theorem FirstExecution.reverse_of_sameEvidence {key : String} {t final : Tables} {first : Command}
    {record : ProposalRecord} {journal : GeneralJournal} {lineage : Option JournalReversal}
    (h : FirstExecution dep key t first record journal lineage final)
    (hwf : WellFormed dep final) (hkept : PostingsKept final) {request : ReversalRequest}
    (policy : AccountingPolicy) (hkey : request.commandKey = key) {existing : ExistingReversal}
    (hsame : SameEvidence dep final request existing) :
    (Command.reverse request policy).identical dep first := by
  obtain ⟨horiginal, horef, hlineage, hfrom, hreversal, hof, hrecord, hsource⟩ :=
    existingReversal_ok hsame.found
  obtain ⟨href, id, hmatches, hid⟩ := hkept.reversed hwf hlineage horiginal hfrom hreversal hof
  have hrecordEq : existing.record = record :=
    List.inj_on_of_nodup_map hkept.command_keys hrecord h.record_mem
      (hsame.key.trans (hkey.trans h.key_eq.symm))
  have hjournalEq : existing.reversal = journal := by
    refine List.inj_on_of_nodup_map hkept.source_keys hreversal h.journal_mem ?_
    rw [← hsource, hrecordEq, h.booked.booking.record_id, h.booked.source]
  have hline := h.lineage_mem
  have hrefJournal : journal.journalReference =
      PostingLedger.generalJournalReference id ++ ":reversal" := by
    rw [← hjournalEq, href, hid]
  have hbooking := h.booked.booking
  generalize builtReceipt dep t first = built at hbooking
  cases hbooking with
  | @post proposal _ _ hreference =>
    exact absurd (hreference.symm.trans hrefJournal)
      (reference_ne_reversal proposal.proposalId_matches)
  | @postProposal proposal _ _ hreference =>
    exact absurd (hreference.symm.trans hrefJournal)
      (reference_ne_reversal proposal.proposalId_matches)
  | adjusting hid' _ hreference =>
    exact absurd (hreference.symm.trans hrefJournal) (reference_ne_reversal hid')
  | @close closing _ _ hreference =>
    have hclosing : isClosingReference journal.journalReference = false := by
      apply FromProposal.not_closing
      refine ⟨id, hmatches, ?_⟩
      rw [hrefJournal, String.toList_append]
      exact List.prefix_append _ _
    rw [hreference, closingReference_closing] at hclosing
    cases hclosing
  | @reverse original _ originalJournal _ _ _ _ _ _ hrecord' hreference _ hdate =>
    have hrow := hline _ rfl
    have hlineEq : existing.lineage = ⟨originalJournal.generalJournalId, journal.generalJournalId,
        original.reversalReasonCode⟩ :=
      List.inj_on_of_nodup_map hkept.reversal_keys hlineage hrow (hof.symm.trans (by rw [hjournalEq]))
    refine ⟨?_, ?_, ?_, ?_⟩
    · rw [← hsame.hash, hrecordEq, hrecord']
    · rw [← hsame.reference]
      refine (String.append_left_inj ":reversal").mp ?_
      rw [← href, hjournalEq, hreference]
    · rw [← hsame.date, hjournalEq, hdate]
    · rw [← hsame.reason, hlineEq]

/-- Identical reversals look for the same evidence. -/
theorem SameEvidence.of_identical {t : Tables} {request original : ReversalRequest}
    {policy originalPolicy : AccountingPolicy} {existing : ExistingReversal}
    (hidentical : (Command.reverse request policy).identical dep (.reverse original originalPolicy))
    (hkey : request.commandKey = original.commandKey) (h : SameEvidence dep t original existing) :
    SameEvidence dep t request existing := by
  obtain ⟨hhash, hreference, hdate, hreason⟩ := hidentical
  exact {
    found := hreference ▸ h.found
    key := h.key.trans hkey.symm
    hash := h.hash.trans hhash.symm
    reference := h.reference.trans hreference.symm
    reason := h.reason.trans hreason.symm
    date := h.date.trans hdate.symm }

/-- A repeated reversal passes the checks that the first one passed. -/
theorem reverse_of_identical {t t₁ : Tables} (hwf : WellFormed dep t) (hkept : PostingsKept t)
    {request original : ReversalRequest} (policy : AccountingPolicy)
    {originalPolicy : AccountingPolicy} {first : PostingReceipt × Tables} (hfirst : reverse dep t₁ original originalPolicy = .ok first)
    (hreason : request.reversalReasonCode = original.reversalReasonCode)
    (hkey : request.commandKey = original.commandKey) {existing : ExistingReversal}
    (hsame : SameEvidence dep t request existing) :
    ∃ receipt, reverse dep t request policy = .ok (receipt, t) := by
  simp only [reverse, bind_eq_ok] at hfirst
  obtain ⟨_, hcode, _, hnonempty, -⟩ := hfirst
  obtain ⟨receipt, hreceipt⟩ := receiptForJournal_total hwf hkept hsame.found
  refine ⟨receipt, ?_⟩
  unfold reverse
  rw [hreason, hkey, hcode, ok_bind, hnonempty, ok_bind, hsame.found]
  show (replayReversal dep t request existing >>= fun receipt => pure (receipt, t)) = _
  unfold replayReversal
  rw [require_of hsame.key, ok_bind, require_of ⟨hsame.hash, hsame.reference, hsame.reason,
    hsame.date⟩, ok_bind, hreceipt]
  rfl

/-- A reversal under a known key: what `NamesItsCommand` asks of it. -/
theorem named_reversal_iff {commands : List Command} {request : ReversalRequest}
    {policy : AccountingPolicy} {t₁ : Tables} {first : Command} {record : ProposalRecord}
    {journal : GeneralJournal} {lineage : Option JournalReversal}
    (hfirst : firstWriter dep request.commandKey Tables.empty commands = some (t₁, first))
    (hexec : FirstExecution dep request.commandKey t₁ first record journal lineage
      (ledgerAfter dep commands)) :
    (((Command.reverse request policy).identical dep first ∧
        attempt dep (ledgerAfter dep commands) (.reverse request policy) =
          .ok (ledgerAfter dep commands) ∧
        ∃ receipt, builtReceipt dep t₁ first = some receipt ∧
          (reverse dep (ledgerAfter dep commands) request policy).map Prod.fst = .ok receipt) ∨
      ∃ e, (reverse dep (ledgerAfter dep commands) request policy).map Prod.fst = .error e ∧
        e.isAccountingValidation ∧
        execute dep (ledgerAfter dep commands) (.reverse request policy) =
          ledgerAfter dep commands) ↔
    ((Command.reverse request policy).identical dep first →
      canonicalUuid request.journalReference = request.journalReference) := by
  have hwf := @wellFormed_ledgerAfter dep commands
  have hkept := @postingsKept_ledgerAfter dep commands
  have hkey : ((ledgerAfter dep commands).proposalRecordByKey request.commandKey).isSome = true := by
    rw [hexec.record_eq hkept]
    rfl
  have hattempt : attempt dep (ledgerAfter dep commands) (.reverse request policy) =
    (reverse dep (ledgerAfter dep commands) request policy).map Prod.snd := rfl
  rcases reverse_known hwf hkept policy hkey with ⟨existing, receipt, hsame, hok⟩ |
    ⟨e, herror, hvalid⟩
  · have hidentical := hexec.reverse_of_sameEvidence hwf hkept policy rfl hsame
    have hsome : (existingReversal (ledgerAfter dep commands) request.journalReference).isSome =
        true := by
      rw [hsame.found]
      rfl
    have hanswer : (reverse dep (ledgerAfter dep commands) request policy).toOption.map Prod.fst =
        some receipt := by
      rw [hok]
      rfl
    have hcanonical := replayed_reversal_iff hsome hanswer
    rw [hexec.returnsOriginal_iff rfl hfirst] at hcanonical
    rw [hattempt, hok, ← hcanonical]
    constructor
    · rintro (⟨-, -, receipt', hbuilt, hreceipt⟩ | ⟨e, herror, -⟩) -
      · cases hreceipt
        exact hbuilt
      · cases herror
    · exact fun h => Or.inl ⟨hidentical, rfl, receipt, h hidentical, rfl⟩
  · rw [herror]
    refine iff_of_true (Or.inr ⟨e, rfl, hvalid, ?_⟩) (fun hidentical => ?_)
    · refine execute_of_error dep (e := e) ?_
      rw [hattempt, herror]
      rfl
    · -- the first reversal stored its evidence, so a repetition would have been answered
      cases first with
      | reverse original originalPolicy =>
        have hsameKey : request.commandKey = original.commandKey := by
          have hbooking := hexec.booked.booking
          generalize builtReceipt dep t₁ (.reverse original originalPolicy) = built at hbooking
          cases hbooking with
          | reverse _ _ _ _ _ hrecord' =>
            rw [← hexec.key_eq, hrecord']
        obtain ⟨existing, hsame⟩ := hexec.sameEvidence hwf hkept
        have hbuilt : ∃ result, reverse dep t₁ original originalPolicy = .ok result := by
          have hbooking := hexec.booked.booking
          cases hresult : reverse dep t₁ original originalPolicy with
          | ok result => exact ⟨result, rfl⟩
          | error e =>
            have hnone : builtReceipt dep t₁ (.reverse original originalPolicy) = none := by
              rw [builtReceipt, hresult]
              rfl
            rw [hnone] at hbooking
            cases hbooking
        obtain ⟨result, hresult⟩ := hbuilt
        obtain ⟨receipt, hok⟩ := reverse_of_identical hwf hkept policy hresult
          hidentical.2.2.2 hsameKey (hsame.of_identical hidentical hsameKey)
        rw [hok] at herror
        cases herror
      | _ => obtain ⟨_, _, hproposal, -⟩ := hidentical; cases hproposal

/-! ## A key that names its command -/

theorem namesItsCommand_iff (before : List Command) (command : Command) :
    NamesItsCommand dep before command ↔ KeyFree dep before command := by
  have hknown : ∀ {t₁ first}, firstWriter dep command.replayKey Tables.empty before =
      some (t₁, first) → ∃ record journal lineage,
        FirstExecution dep command.replayKey t₁ first record journal lineage
          (ledgerAfter dep before) := by
    intro t₁ first hfirst
    obtain ⟨t₂, first', record, journal, lineage, hfirst', hexec⟩ :=
      firstWriter_of_record wellFormed_empty postingsKept_empty rfl
        (firstWriter_isSome wellFormed_empty (by rw [hfirst]; rfl))
    rw [hfirst, Option.some.injEq, Prod.mk.injEq] at hfirst'
    obtain ⟨rfl, rfl⟩ := hfirst'
    exact ⟨record, journal, lineage, hexec⟩
  cases command with
  | post proposal policy =>
    constructor
    · intro h t₁ first hfirst
      obtain ⟨record, journal, lineage, hexec⟩ := hknown hfirst
      exact (named_posting_iff hexec (posting_identical_iff rfl) rfl).mp (h _ rfl t₁ first hfirst)
    · intro h result hresult t₁ first hfirst
      cases hresult
      obtain ⟨record, journal, lineage, hexec⟩ := hknown hfirst
      exact (named_posting_iff hexec (posting_identical_iff rfl) rfl).mpr (h t₁ first hfirst)
  | postProposal proposal =>
    constructor
    · intro h t₁ first hfirst
      obtain ⟨record, journal, lineage, hexec⟩ := hknown hfirst
      exact (named_posting_iff hexec (posting_identical_iff rfl) rfl).mp (h _ rfl t₁ first hfirst)
    · intro h result hresult t₁ first hfirst
      cases hresult
      obtain ⟨record, journal, lineage, hexec⟩ := hknown hfirst
      exact (named_posting_iff hexec (posting_identical_iff rfl) rfl).mpr (h t₁ first hfirst)
  | reverse request policy =>
    constructor
    · intro h t₁ first hfirst
      obtain ⟨record, journal, lineage, hexec⟩ := hknown hfirst
      exact (named_reversal_iff hfirst hexec).mp (h _ rfl t₁ first hfirst)
    · intro h result hresult t₁ first hfirst
      cases hresult
      obtain ⟨record, journal, lineage, hexec⟩ := hknown hfirst
      exact (named_reversal_iff hfirst hexec).mpr (h t₁ first hfirst)
  | postAdjustingJournal request => exact iff_of_true (fun _ h => nomatch h) (fun _ _ _ => trivial)
  | openFiscalPeriod request => exact iff_of_true (fun _ h => nomatch h) (fun _ _ _ => trivial)
  | closeFiscalPeriod request => exact iff_of_true (fun _ h => nomatch h) (fun _ _ _ => trivial)

/-- In both ledgers every key of a run names one command exactly when every step finds its key
    free: in memory, the key was accepted in the same key space or something else stands in the
    way; in PostgreSQL, a replay is spelled as the posting or reversal that wrote the record. -/
theorem commandKey_names_one_command_iff (digest : ReversalCommandPayload → String)
    (memoryCommands : List PostingLedger.Command) (commands : List Command) :
    (EveryStep (PostingLedger.NamesItsCommand digest) memoryCommands ↔
      EveryStep (PostingLedger.KeyFree digest) memoryCommands) ∧
    (EveryStep (NamesItsCommand dep) commands ↔ EveryStep (KeyFree dep) commands) :=
  ⟨PostingLedger.namesItsCommand_run_iff memoryCommands,
    everyStep_iff (fun before command _ => namesItsCommand_iff before command) commands⟩

/-! ## Keys that name two commands -/

/-- Two invoices, reversed under one key. -/
def sharedKeyCommands : List PostingLedger.Command := [
  .post ⟨invoiceFields "0f8fad5b-d9cb-469f-a165-70867728950e" "invoice-1" 10, by decide +kernel⟩
    PostingLedger.invoicePolicy,
  .post ⟨invoiceFields "7c9e6679-7425-40de-944b-e07fc1f90ae7" "invoice-2" 10, by decide +kernel⟩
    PostingLedger.invoicePolicy,
  .reverse (sampleReversal "0f8fad5b-d9cb-469f-a165-70867728950e" 20 (some "reversal-1"))
    PostingLedger.invoicePolicy]

def secondReversal : PostingLedger.Command :=
  .reverse (sampleReversal "7c9e6679-7425-40de-944b-e07fc1f90ae7" 20 (some "reversal-1"))
    PostingLedger.invoicePolicy

/-- A proposal with the key and the payload hash of the reversal of the first invoice. -/
def reversalKeyFields : JournalProposalFields :=
  let reversal := sampleReversal "0f8fad5b-d9cb-469f-a165-70867728950e" 738890 none
  { invoiceFields "7c9e6679-7425-40de-944b-e07fc1f90ae7" reversal.commandKey 738890 with
    sourcePayloadHash := reversalCommandHash (sampleDeployment sampleCatalog) reversal }

def reversalKeyProposal : JournalProposal := ⟨reversalKeyFields, by decide +kernel⟩

/-- In memory the key of one reversal is accepted for a second original; in PostgreSQL a posting
    is answered over the record of a reversal. -/
theorem reusedKeys_name_two_commands :
    ¬EveryStep (PostingLedger.NamesItsCommand fun payload => sampleDigest (.reversalCommand payload))
      (sharedKeyCommands ++ [secondReversal]) ∧
    ¬EveryStep (NamesItsCommand (sampleDeployment sampleCatalog))
      (reversedInvoiceCommands ++ [.postProposal reversalKeyProposal]) := by
  constructor
  · intro h
    have hlast := (everyStep_concat_iff.mp h).2
    have hfacts :
        let digest := fun payload => sampleDigest (.reversalCommand payload)
        let ledger := PostingLedger.runCommands digest PostingLedger.empty sharedKeyCommands
        (PostingLedger.firstAccepted digest secondReversal.key PostingLedger.empty
            sharedKeyCommands).isSome = true ∧ ledger.journals.entries.length = 3 ∧
          (ledger.execute digest secondReversal).2.journals.entries.length = 4 := by
      decide +kernel
    obtain ⟨hsome, hbefore, hafter⟩ := hfacts
    obtain ⟨first, hfirst⟩ := Option.isSome_iff_exists.mp hsome
    rcases hlast first.1 first.2 hfirst with ⟨-, hsame⟩ | ⟨e, hsame, -⟩
    · rw [hsame, hbefore] at hafter
      cases hafter
    · rw [hsame, hbefore] at hafter
      cases hafter
  · intro h
    have hlast := (everyStep_concat_iff.mp h).2
    have hfacts :
        let dep := sampleDeployment sampleCatalog
        let answered := (postProposal dep (ledgerAfter dep reversedInvoiceCommands)
          reversalKeyProposal).toOption.map Prod.fst
        (firstWriter dep reversalKeyProposal.idempotencyKey Tables.empty
            reversedInvoiceCommands).isSome = true ∧
          answered ≠ none ∧
          firstReceipt dep reversedInvoiceCommands reversalKeyProposal.idempotencyKey ≠ answered := by
      decide +kernel
    obtain ⟨hsome, haccepted, hother⟩ := hfacts
    obtain ⟨first, hfirst⟩ := Option.isSome_iff_exists.mp hsome
    rw [firstReceipt, hfirst, Option.bind_some] at hother
    rcases hlast _ rfl first.1 first.2 hfirst with ⟨-, -, receipt, hbuilt, hreceipt⟩ | ⟨e, herror, -⟩
    · obtain ⟨result, hresult, rfl⟩ := map_eq_ok.mp hreceipt
      rw [hbuilt, hresult] at hother
      exact hother rfl
    · cases hresult : postProposal (sampleDeployment sampleCatalog)
          (ledgerAfter (sampleDeployment sampleCatalog) reversedInvoiceCommands)
          reversalKeyProposal with
      | error e' =>
        rw [hresult] at haccepted
        exact haccepted rfl
      | ok result =>
        rw [hresult] at herror
        cases herror

end AccountingPlatform.Postgres
