/-
  Pulls of the proposals Billing lists, page after page, and their postings.

  Billing may answer anything, and otherwise at every request. A posting is committed before its
  receipt is read, so whatever a pull posted stays when the pull fails. The origin a request goes
  to is resolved outside of the model. `pull_outcome` says when a pull is answered, `pull_retry`
  that it can be run again.
-/
import AccountingPlatform.Accept.AcceptedRuns
import AccountingPlatform.Ingest.PublishedProposals
import AccountingPlatform.Lib.Fetching

namespace AccountingPlatform.Ingest

open AccountingPlatform.Lib AccountingPlatform.Core AccountingPlatform.Postgres AccountingPlatform.Accept

/-! ## Pages -/

structure JournalProposalPage where
  journalProposals : List Members
  nextCursor : Option String

/-- The query of one page; `tenant_reference` and `proposal_status` are the same in all. -/
structure PageQuery where
  proposedAfter : Option String
  cursor : Option String
  pageLimit : ℤ

/-- `_billing_get` of the n-th request, a JSON object or what it raises. -/
abbrev Billing := ℕ → PageQuery → IngestResult Members

def defaultPageLimit : ℤ := 50

def maxPageLimit : ℤ := 100

def maxPullPages : ℕ := 20

/-- `_resolve_page_limit`. -/
def resolvePageLimit (pageLimit : Option ℤ) : IngestResult ℤ :=
  match pageLimit with
  | none => .ok defaultPageLimit
  | some pageLimit => do
    require (¬(pageLimit < 1 ∨ maxPageLimit < pageLimit))
      (invalid "page_limit must be between 1 and 100. Supply a Billing page_limit, then retry the pull.")
    pure pageLimit

/-- `if value:` of an optional text. -/
def given (value : Option String) : Option String := value.filter fun text => text ≠ ""

def isText (value : Option Json) (text : String) : Bool :=
  match value with
  | some (.text found) => found = text
  | _ => false

def validatedItem (item : Json) : IngestResult Members :=
  match item with
  | .object members => do
    require (isText (lookup? members "proposal_status") "validated" = true)
      (invalid ("Billing list must contain validated proposal objects only. " ++
        "Ask Billing to correct the list item contract, then retry the pull."))
    pure members
  | _ => .error (invalid ("Billing list must contain validated proposal objects only. " ++
      "Ask Billing to correct the list item contract, then retry the pull."))

def listCursor (value : Json) : IngestResult (Option String) :=
  match value with
  | .null => .ok none
  | .text cursor => do
    require (cursor ≠ "")
      (invalid ("Billing next_cursor must be null or a non-empty string. " ++
        "Ask Billing to correct the list cursor, then retry the pull."))
    pure (some cursor)
  | _ => .error (invalid ("Billing next_cursor must be null or a non-empty string. " ++
      "Ask Billing to correct the list cursor, then retry the pull."))

/-- The closed envelope of one page. -/
def listEnvelope (document : Members) : IngestResult JournalProposalPage := do
  require (∀ member ∈ document, member.1 = "journal_proposals" ∨ member.1 = "next_cursor")
    (invalid ("Billing list envelope contains fields outside the closed list contract. " ++
      "Ask Billing to publish only journal_proposals and next_cursor, then retry the pull."))
  let collection ← fetch (lookup? document "journal_proposals")
    (invalid ("Billing list envelope is missing journal_proposals. " ++
      "Ask Billing to correct the published list contract, then retry the pull."))
  let nextCursor ← fetch (lookup? document "next_cursor")
    (invalid ("Billing list envelope is missing next_cursor. " ++
      "Ask Billing to return next_cursor as null or a non-empty string, then retry the pull."))
  let items ← requireItems collection
    ("Billing list envelope journal_proposals must be an array. " ++
      "Ask Billing to correct the published list contract, then retry the pull.")
  let validated ← tryMap validatedItem items
  let cursor ← listCursor nextCursor
  pure ⟨validated, cursor⟩

/-- `pull_validated_journal_proposals`. -/
def pullValidatedJournalProposals (billing : Billing) (n : ℕ) (proposedAfter cursor : Option String)
    (pageLimit : Option ℤ) : IngestResult JournalProposalPage := do
  let pageLimit ← resolvePageLimit pageLimit
  let document ← billing n ⟨given proposedAfter, given cursor, pageLimit⟩
  listEnvelope document

/-! ## Items -/

variable (str : Json → String) (dep : Deployment)

/-- What `accept_journal_proposal` reads before it posts. -/
def readProposal (payload : Members) : IngestResult JournalProposal := do
  require (isText (lookup? payload "tenant_reference") dep.catalog.tenantReference = true)
    (invalid ("proposal tenant_reference does not match the bound tenant. " ++
      "Call accept_journal_proposal with that tenant_reference, then retry."))
  ingestJournalProposal str (.object payload)

/-- `accept_journal_proposal` of an object. -/
def acceptJournalProposal (t : Tables) (payload : Members) : Tables × IngestResult PublishedReceipt :=
  match readProposal str dep payload with
  | .error e => (t, .error e)
  | .ok proposal =>
    match postProposal dep t proposal with
    | .error e => (t, .error (.ledger e))
    | .ok (_, t') =>
      let t := { t' with clock := t'.clock + 1 }
      (t, ofResult (loadPublishedReceiptByKey dep t proposal.idempotencyKey))

/-- `needle in message`. -/
def mentions (message needle : String) : Bool :=
  message.toList.tails.any fun rest => needle.toList.isPrefixOf rest

/-- `_REJECTION_REASON_RULES`. -/
def rejectionReasonRules : List (List String × String) := [
  (["is not mapped", "account_role_mapping"], "unknown_account_role"),
  (["must balance"], "unbalanced_journal"),
  (["closed fiscal period", "open period", "is soft_closed", "is hard_closed"], "closed_period"),
  (["bound tenant"], "cross_tenant"),
  (["canonical decimal", "amount must be"], "invalid_amount")]

/-- `_rejection_reason_code`, by the rules. -/
def ruledReasonCode (message : String) : String :=
  match rejectionReasonRules.find? fun rule => rule.1.any (mentions message) with
  | some rule => rule.2
  | none => "proposal_validation_failed"

structure RejectedProposal where
  proposalId : String
  idempotencyKey : String
  rejectionReasonCode : String
  rejectionMessage : String
  deriving DecidableEq

/-- The truth of a value; a float stands as its text. -/
def Json.isTruthy : Json → Bool
  | .null => false
  | .bool value => value
  | .int value => value ≠ 0
  | .float written => written ≠ "0.0" && written ≠ "-0.0"
  | .text value => value ≠ ""
  | .list items => !items.isEmpty
  | .object members => !members.isEmpty

/-- `str(item.get(name) or "")`. -/
def memberText (item : Members) (name : String) : String :=
  match lookup? item name with
  | some value => if value.isTruthy then str value else str (.text "")
  | none => str (.text "")

/-- `_rejected_proposal` of a validation error; no other is caught. -/
def rejectedProposal (item : Members) : IngestError → Option RejectedProposal
  | .ledger (.validation message) =>
    some ⟨memberText str item "proposal_id", memberText str item "idempotency_key",
      ruledReasonCode message, message⟩
  | .ledger (.idempotencyConflict message) =>
    some ⟨memberText str item "proposal_id", memberText str item "idempotency_key",
      "idempotency_conflict", message⟩
  | _ => none

/-! ## Pulls -/

structure PullState where
  tables : Tables
  receipts : List PublishedReceipt
  rejected : List RejectedProposal

def PullState.start (t : Tables) : PullState := ⟨t, [], []⟩

def acceptItem (s : PullState) (item : Members) : PullState × Except IngestError Unit :=
  match acceptJournalProposal str dep s.tables item with
  | (t, .ok receipt) => ({ s with tables := t, receipts := s.receipts ++ [receipt] }, .ok ())
  | (t, .error e) =>
    match rejectedProposal str item e with
    | some rejection => ({ s with tables := t, rejected := s.rejected ++ [rejection] }, .ok ())
    | none => ({ s with tables := t }, .error e)

/-- The items of a page, until one raises what is not caught. -/
def acceptItems : PullState → List Members → PullState × Except IngestError Unit
  | s, [] => (s, .ok ())
  | s, item :: items =>
    match acceptItem str dep s item with
    | (s, .error e) => (s, .error e)
    | (s, .ok _) => acceptItems s items

def billingPages (billing : Billing) (proposedAfter : Option String) (pageLimit : Option ℤ) :
    Source IngestError String JournalProposalPage PullState where
  fetch n cursor := pullValidatedJournalProposals billing n proposedAfter cursor pageLimit
  next := JournalProposalPage.nextCursor
  consume s page := acceptItems str dep s page.journalProposals
  repeated := invalid ("Billing list cursor did not advance. " ++
    "Ask Billing to fix the list cursor, then retry the pull.")
  exhausted := invalid ("Billing pull exceeded 20 pages. " ++
    "Narrow proposed_after or cursor, then retry the pull.")

/-- `accept_pulled_proposals`; a pull that raises leaves its receipts unanswered. -/
def acceptPulledProposals (billing : Billing) (t : Tables) (proposedAfter cursor : Option String)
    (pageLimit : Option ℤ) : PullState × Except IngestError Unit :=
  (billingPages str dep billing proposedAfter pageLimit).walk maxPullPages 0 (given cursor) []
    (PullState.start t)

/-! ## One posting -/

variable {str dep}

theorem record_of_booked {t t' : Tables} {proposal : JournalProposal} {record : ProposalRecord}
    {journal : GeneralJournal} {lineage : Option JournalReversal} {receipt : Option PostingReceipt}
    (h : Booked dep t (.postProposal proposal) record journal lineage receipt t') :
    record.idempotencyKey = proposal.idempotencyKey ∧ record.proposalRecordId = t.nextId ∧
      ∃ r, receipt = some r := by
  cases h.booking with
  | postProposal hrecord _ _ => exact ⟨by rw [hrecord], by rw [hrecord], _, rfl⟩

/-- The receipt of a new journal is there to be read. -/
theorem published_of_booked {t t' : Tables} {proposal : JournalProposal} {record : ProposalRecord}
    {journal : GeneralJournal} {lineage : Option JournalReversal} {receipt : Option PostingReceipt}
    (hkept : PostingsKept t) (hwf' : WellFormed dep t')
    (h : Booked dep t (.postProposal proposal) record journal lineage receipt t') :
    ∃ document, publishedRow dep t' proposal.idempotencyKey = some document ∧
      document.journalReference = journal.journalReference := by
  have hjournal : journal ∈ t'.journals := by
    rw [h.journals]
    exact List.mem_append_right _ List.mem_cons_self
  obtain ⟨period, hperiod, hdated, -⟩ := (hwf'.facts journal hjournal).dated
  obtain ⟨name, code, hname, hcode⟩ := (hwf'.facts journal hjournal).named
  have hrow : t'.period? journal.fiscalPeriodId = some period := by
    rw [← hdated]
    exact find?_of_nodup_map hwf'.period_keys hperiod
  have hfound : t'.journal? journal.generalJournalId = some journal :=
    find?_of_nodup_map hwf'.journal_keys hjournal
  obtain ⟨hkey, hnext, r, rfl⟩ := record_of_booked h
  have hrecord : t'.proposalRecordByKey proposal.idempotencyKey = some record := by
    have hnone : t.proposalRecordByKey proposal.idempotencyKey = none :=
      List.find?_eq_none.mpr fun prior hprior => by
        simpa [hkey] using h.key_fresh prior hprior
    rw [Tables.proposalRecordByKey] at hnone ⊢
    rw [h.records, List.find?_append, hnone, Option.none_or]
    simp [hkey]
  have holder : ∀ prior ∈ t.postingReceipts, prior.proposalRecordId ≠ record.proposalRecordId := by
    intro prior hprior
    obtain ⟨j, hj, -, hsource⟩ := hkept.receipt_of prior hprior
    obtain ⟨source, hmem, hsourceId, -⟩ := hkept.provenance j hj
    have hlt := hkept.record_lt source hmem
    omega
  have hreceipt : t'.postingReceipts.find? (fun row => row.proposalRecordId = record.proposalRecordId) =
      some ⟨record.proposalRecordId, journal.generalJournalId, r.postingStatusCode,
        canonicalReceiptHash dep r⟩ := by
    have hnone : t.postingReceipts.find? (fun row => row.proposalRecordId = record.proposalRecordId) = none :=
      List.find?_eq_none.mpr fun prior hprior => by simpa using holder prior hprior
    rw [h.receipts, List.find?_append, hnone, Option.none_or]
    simp
  simp only [publishedRow, hrecord, hreceipt, hfound, hname, hcode, hrow, Option.bind_eq_bind,
    Option.bind_some, Option.pure_def]
  exact ⟨_, rfl, rfl⟩

theorem publishedRow_key {t : Tables} {key : String} {document : PublishedReceipt}
    (h : publishedRow dep t key = some document) : document.idempotencyKey = key := by
  simp only [publishedRow, Option.bind_eq_bind, Option.bind_eq_some_iff, Option.pure_def,
    Option.some.injEq] at h
  obtain ⟨record, hrecord, _, -, _, -, _, -, _, -, _, -, rfl⟩ := h
  simpa using List.find?_some hrecord

variable (dep) in
/-- What an answer says of the ledger before and after: the receipt of a journal that was there,
    or of the one that was posted. -/
inductive Answered (t t' : Tables) : IngestResult PublishedReceipt → Prop
  | refused {e : IngestError} (hjournals : t'.journals = t.journals)
      (hrecords : t'.proposalRecords = t.proposalRecords) : Answered t t' (.error e)
  | replayed {document : PublishedReceipt} (hjournals : t'.journals = t.journals)
      (hrecords : t'.proposalRecords = t.proposalRecords)
      (hknown : (t.proposalRecordByKey document.idempotencyKey).isSome = true)
      (hload : loadPublishedReceiptByKey dep t' document.idempotencyKey = .ok document) :
      Answered t t' (.ok document)
  | posted {document : PublishedReceipt} {journal : GeneralJournal} {record : ProposalRecord}
      (hjournals : t'.journals = t.journals ++ [journal])
      (hrecords : t'.proposalRecords = t.proposalRecords ++ [record])
      (hreference : journal.journalReference = document.journalReference)
      (hkey : record.idempotencyKey = document.idempotencyKey)
      (hfresh : t.proposalRecordByKey document.idempotencyKey = none)
      (hload : loadPublishedReceiptByKey dep t' document.idempotencyKey = .ok document) :
      Answered t t' (.ok document)

/-- The tables an accepted payload leaves are those of its posting. -/
theorem acceptJournalProposal_tables (t : Tables) (payload : Members) :
    ∃ posts, (acceptJournalProposal str dep t payload).1 = run (execute dep) t posts := by
  unfold acceptJournalProposal
  cases readProposal str dep payload with
  | error e => exact ⟨[], rfl⟩
  | ok proposal =>
    dsimp only
    cases hposted : postProposal dep t proposal with
    | error e => exact ⟨[], rfl⟩
    | ok posted =>
      have hattempt : attempt dep t (.postProposal proposal) = .ok posted.2 := by
        simp only [attempt, hposted, Except.map]
      exact ⟨[.postProposal proposal], (execute_of_ok dep hattempt).symm⟩

theorem acceptJournalProposal_answered {t : Tables} (hwf : WellFormed dep t) (hkept : PostingsKept t)
    (payload : Members) :
    Answered dep t (acceptJournalProposal str dep t payload).1 (acceptJournalProposal str dep t payload).2 := by
  unfold acceptJournalProposal
  cases readProposal str dep payload with
  | error e => exact .refused rfl rfl
  | ok proposal =>
    dsimp only
    cases hposted : postProposal dep t proposal with
    | error e => exact .refused rfl rfl
    | ok posted =>
      obtain ⟨receipt, t'⟩ := posted
      dsimp only
      have hattempt : attempt dep t (.postProposal proposal) = .ok t' := by
        simp only [attempt, hposted, Except.map]
      have hcommitted := execute_of_ok dep hattempt
      rcases persistProposal_ok dep hposted with ⟨prior, hprior, -, -, rfl⟩ | ⟨hfresh, hpersist⟩
      · -- a replay: the ledger is as it was, and so is the receipt
        cases hload : loadPublishedReceiptByKey dep { t' with clock := t'.clock + 1 }
            proposal.idempotencyKey with
        | error e => exact .refused rfl rfl
        | ok document =>
          have hkey := publishedRow_key (fetch_eq_ok.mp hload)
          refine .replayed rfl rfl ?_ ?_
          · rw [hkey, hprior]
            rfl
          · rw [hkey]
            exact hload
      · rcases execute_booked hwf (.postProposal proposal) with hsame | ⟨record, journal, lineage, hbooked⟩
        · -- a new proposal is recorded
          obtain ⟨record, hrecord, hkey, -⟩ := postProposal_record hposted
          have hold : record ∈ t.proposalRecords := by
            rw [← hsame.records, hcommitted]
            exact hrecord
          exact absurd hkey (by simpa using List.find?_eq_none.mp hfresh record hold)
        · rw [hcommitted] at hbooked
          have hwf' : WellFormed dep { t' with clock := t'.clock + 1 } := by
            rw [← hcommitted]
            exact wellFormed_execute hwf _
          obtain ⟨document, hrow, hreference⟩ := published_of_booked hkept hwf' hbooked
          have hkey := publishedRow_key hrow
          have hrecordKey := (record_of_booked hbooked).1
          have hload : loadPublishedReceiptByKey dep { t' with clock := t'.clock + 1 }
              proposal.idempotencyKey = .ok document := fetch_eq_ok.mpr hrow
          rw [hload]
          refine .posted hbooked.journals hbooked.records hreference.symm (hrecordKey.trans hkey.symm) ?_ ?_
          · rw [hkey]
            exact hfresh
          · rw [hkey]
            exact hload

/-! ## A pull -/

/-- The receipts of keys the tables did not know, each once. -/
def newReceipts (t : Tables) (receipts : List PublishedReceipt) : List PublishedReceipt :=
  (receipts.filter fun r => (t.proposalRecordByKey r.idempotencyKey).isNone).eraseDups

variable (dep) in
/-- Where a pull is, from the tables it started with. -/
structure PullKept (t : Tables) (s : PullState) : Prop where
  reached : ∃ posts, s.tables = run (execute dep) t posts
  published : ∀ r ∈ s.receipts, loadPublishedReceiptByKey dep s.tables r.idempotencyKey = .ok r
  recorded : ∀ key, (s.tables.proposalRecordByKey key).isSome = true ↔
    (t.proposalRecordByKey key).isSome = true ∨ ∃ r ∈ s.receipts, r.idempotencyKey = key
  posted : ∃ journals, s.tables.journals = t.journals ++ journals ∧
    journals.map GeneralJournal.journalReference =
      (newReceipts t s.receipts).map PublishedReceipt.journalReference

theorem pullKept_start (t : Tables) : PullKept dep t (PullState.start t) where
  reached := ⟨[], rfl⟩
  published := fun _ hr => absurd hr List.not_mem_nil
  recorded := by
    intro key
    refine ⟨Or.inl, fun h => h.resolve_right ?_⟩
    rintro ⟨_, hr, -⟩
    exact List.not_mem_nil hr
  posted := ⟨[], (List.append_nil _).symm, rfl⟩

theorem newReceipts_append (t : Tables) (receipts : List PublishedReceipt) (document : PublishedReceipt) :
    newReceipts t (receipts ++ [document]) = newReceipts t receipts ++
      if document ∈ receipts ∨ (t.proposalRecordByKey document.idempotencyKey).isSome = true then []
      else [document] := by
  unfold newReceipts
  rw [List.filter_append, List.eraseDups_append]
  congr 1
  cases hknown : t.proposalRecordByKey document.idempotencyKey with
  | some prior => simp [hknown]
  | none =>
    by_cases hmem : document ∈ receipts
    · simp [hknown, hmem, List.cons_removeAll]
    · simp [hknown, hmem, List.cons_removeAll, List.eraseDups_cons]

section
variable {before : List Postgres.Command} {s : PullState}

theorem PullKept.ledger (h : PullKept dep (ledgerAfter dep before) s) :
    WellFormed dep s.tables ∧ PostingsKept s.tables := by
  obtain ⟨posts, hposts⟩ := h.reached
  rw [hposts, ← ledgerAfter_append]
  exact ⟨wellFormed_ledgerAfter _, postingsKept_ledgerAfter _⟩

/-- One answer, by what it did to the ledger. -/
theorem PullKept.answer (h : PullKept dep (ledgerAfter dep before) s) {t' : Tables}
    {answer : IngestResult PublishedReceipt} (hposts : ∃ posts, t' = run (execute dep) s.tables posts)
    (hanswer : Answered dep s.tables t' answer) :
    (∀ document, answer = .ok document → PullKept dep (ledgerAfter dep before)
      { s with tables := t', receipts := s.receipts ++ [document] }) ∧
    (∀ e rejected, answer = .error e → PullKept dep (ledgerAfter dep before)
      { s with tables := t', rejected := rejected }) := by
  obtain ⟨hwf, hkept⟩ := h.ledger
  obtain ⟨posts, rfl⟩ := hposts
  have hreached : ∃ posts', run (execute dep) s.tables posts =
      run (execute dep) (ledgerAfter dep before) posts' := by
    obtain ⟨earlier, hearlier⟩ := h.reached
    exact ⟨earlier ++ posts, by rw [run_append, ← hearlier]⟩
  have hretains : Retains s.tables (run (execute dep) s.tables posts) := retains_run hwf posts
  have hwf' : WellFormed dep (run (execute dep) s.tables posts) := by
    obtain ⟨posts', hposts'⟩ := hreached
    rw [hposts', ← ledgerAfter_append]
    exact wellFormed_ledgerAfter _
  have hpublished : ∀ r ∈ s.receipts, loadPublishedReceiptByKey dep (run (execute dep) s.tables posts)
      r.idempotencyKey = .ok r := fun r hr => hretains.loadPublishedReceiptByKey hwf' (h.published r hr)
  generalize run (execute dep) s.tables posts = t' at *
  have hsame : t'.proposalRecords = s.tables.proposalRecords → ∀ key,
      t'.proposalRecordByKey key = s.tables.proposalRecordByKey key := by
    intro hrecords key
    rw [Tables.proposalRecordByKey, hrecords]
    rfl
  have hall : ∀ {document}, loadPublishedReceiptByKey dep t' document.idempotencyKey = .ok document →
      ∀ r ∈ s.receipts ++ [document], loadPublishedReceiptByKey dep t' r.idempotencyKey = .ok r := by
    intro document hload r hr
    rcases List.mem_append.mp hr with hr | hr
    · exact hpublished r hr
    · rw [List.mem_singleton.mp hr]
      exact hload
  cases hanswer with
  | refused hjournals hrecords =>
    constructor
    · intro document hok
      cases hok
    · intro e rejected _
      exact ⟨hreached, hpublished, fun key => by rw [hsame hrecords key]; exact h.recorded key,
        by rw [hjournals]; exact h.posted⟩
  | @replayed document hjournals hrecords hknown hload =>
    constructor
    · intro document' hok
      obtain rfl := Except.ok.inj hok
      -- a key that is known was there at the start, or this receipt was answered before
      have hold : document ∈ s.receipts ∨
          ((ledgerAfter dep before).proposalRecordByKey document.idempotencyKey).isSome = true := by
        rcases (h.recorded _).mp hknown with hstart | ⟨r, hr, hkey⟩
        · exact Or.inr hstart
        · have hloaded := hpublished r hr
          rw [hkey, hload] at hloaded
          rw [Except.ok.inj hloaded]
          exact Or.inl hr
      refine ⟨hreached, hall hload, fun key => ?_, ?_⟩
      · rw [hsame hrecords key, h.recorded key]
        constructor
        · rintro (hstart | ⟨r, hr, hkey⟩)
          · exact Or.inl hstart
          · exact Or.inr ⟨r, List.mem_append_left _ hr, hkey⟩
        rintro (hstart | ⟨r, hr, rfl⟩)
        · exact Or.inl hstart
        · rcases List.mem_append.mp hr with hr | hr
          · exact Or.inr ⟨r, hr, rfl⟩
          · rw [List.mem_singleton.mp hr]
            exact (h.recorded _).mp hknown
      · rw [newReceipts_append, if_pos hold, List.append_nil, hjournals]
        exact h.posted
    · intro e rejected herror
      cases herror
  | @posted document journal record hjournals hrecords hreference hkey hfresh hload =>
    constructor
    · intro document' hok
      obtain rfl := Except.ok.inj hok
      have hnew : ¬(document ∈ s.receipts ∨
          ((ledgerAfter dep before).proposalRecordByKey document.idempotencyKey).isSome = true) := by
        intro hold
        have hknown := (h.recorded document.idempotencyKey).mpr
          (hold.symm.imp_right fun hr => ⟨document, hr, rfl⟩)
        rw [hfresh] at hknown
        cases hknown
      have hrow : ∀ key, (t'.proposalRecordByKey key).isSome = true ↔
          (s.tables.proposalRecordByKey key).isSome = true ∨ document.idempotencyKey = key := by
        intro key
        rw [Tables.proposalRecordByKey, hrecords, List.find?_append, Option.isSome_or, Bool.or_eq_true]
        refine or_congr Iff.rfl ?_
        simp [hkey]
      refine ⟨hreached, hall hload, fun key => ?_, ?_⟩
      · rw [hrow, h.recorded key, or_assoc]
        refine or_congr Iff.rfl ⟨?_, ?_⟩
        · rintro (⟨r, hr, hrkey⟩ | hdocument)
          · exact ⟨r, List.mem_append_left _ hr, hrkey⟩
          · exact ⟨document, List.mem_append_right _ List.mem_cons_self, hdocument⟩
        · rintro ⟨r, hr, hrkey⟩
          rcases List.mem_append.mp hr with hr | hr
          · exact Or.inl ⟨r, hr, hrkey⟩
          · exact Or.inr (List.mem_singleton.mp hr ▸ hrkey)
      · obtain ⟨journals, happended, hreferences⟩ := h.posted
        refine ⟨journals ++ [journal], by rw [hjournals, happended, List.append_assoc], ?_⟩
        rw [newReceipts_append, if_neg hnew, List.map_append, List.map_append, hreferences]
        exact congrArg (fun reference => _ ++ [reference]) hreference
    · intro e rejected herror
      cases herror

/-- One item keeps where the pull is. -/
theorem pullKept_acceptItem (h : PullKept dep (ledgerAfter dep before) s) (item : Members) :
    PullKept dep (ledgerAfter dep before) (acceptItem str dep s item).1 := by
  have hposts := @acceptJournalProposal_tables str dep s.tables item
  have hanswer := @acceptJournalProposal_answered str dep s.tables h.ledger.1 h.ledger.2 item
  obtain ⟨haccepted, hrefused⟩ := h.answer hposts hanswer
  unfold acceptItem
  generalize acceptJournalProposal str dep s.tables item = outcome at *
  obtain ⟨t', e | document⟩ := outcome
  · dsimp only
    cases rejectedProposal str item e with
    | some rejection => exact hrefused e _ rfl
    | none => exact hrefused e _ rfl
  · exact haccepted document rfl

theorem pullKept_acceptItems (h : PullKept dep (ledgerAfter dep before) s) (items : List Members) :
    PullKept dep (ledgerAfter dep before) (acceptItems str dep s items).1 := by
  induction items generalizing s with
  | nil => exact h
  | cons item items ih =>
    have hitem := @pullKept_acceptItem str dep before s h item
    unfold acceptItems
    generalize acceptItem str dep s item = outcome at *
    obtain ⟨s', e | ⟨⟩⟩ := outcome
    · exact hitem
    · exact ih hitem

variable (str) in
theorem pullKept_acceptPulledProposals (billing : Billing) (before : List Postgres.Command)
    (proposedAfter cursor : Option String) (pageLimit : Option ℤ) :
    PullKept dep (ledgerAfter dep before)
      (acceptPulledProposals str dep billing (ledgerAfter dep before) proposedAfter cursor pageLimit).1 := by
  have hconsume : ∀ (s : PullState) (page : JournalProposalPage), PullKept dep (ledgerAfter dep before) s →
      PullKept dep (ledgerAfter dep before)
        ((billingPages str dep billing proposedAfter pageLimit).consume s page).1 :=
    fun s page hs => pullKept_acceptItems hs page.journalProposals
  exact Source.walk_invariant _ hconsume (pullKept_start _)

end

/-! ## Complete pulls -/

theorem acceptItems_cons_of_ok {s s' : PullState} {item : Members}
    (h : acceptItem str dep s item = (s', .ok ())) (items : List Members) :
    acceptItems str dep s (item :: items) = acceptItems str dep s' items := by
  rw [acceptItems, h]

theorem acceptItems_cons_of_error {s s' : PullState} {item : Members} {e : IngestError}
    (h : acceptItem str dep s item = (s', .error e)) (items : List Members) :
    acceptItems str dep s (item :: items) = (s', .error e) := by
  rw [acceptItems, h]

theorem acceptItems_append_of_ok {s s' : PullState} {items : List Members}
    (h : acceptItems str dep s items = (s', .ok ())) (more : List Members) :
    acceptItems str dep s (items ++ more) = acceptItems str dep s' more := by
  induction items generalizing s with
  | nil =>
    obtain ⟨rfl, -⟩ := Prod.mk.inj h
    rfl
  | cons item items ih =>
    rw [List.cons_append]
    rcases hitem : acceptItem str dep s item with ⟨s₁, e | ⟨⟩⟩
    · rw [acceptItems_cons_of_error hitem] at h
      cases congrArg Prod.snd h
    · rw [acceptItems_cons_of_ok hitem] at h ⊢
      exact ih h

theorem acceptItems_append_of_error {s s' : PullState} {e : IngestError} {items : List Members}
    (h : acceptItems str dep s items = (s', .error e)) (more : List Members) :
    acceptItems str dep s (items ++ more) = (s', .error e) := by
  induction items generalizing s with
  | nil => cases congrArg Prod.snd h
  | cons item items ih =>
    rw [List.cons_append]
    rcases hitem : acceptItem str dep s item with ⟨s₁, e' | ⟨⟩⟩
    · rw [acceptItems_cons_of_error hitem] at h ⊢
      exact h
    · rw [acceptItems_cons_of_ok hitem] at h ⊢
      exact ih h

theorem consumeAll_eq_acceptItems (billing : Billing) (proposedAfter : Option String) (pageLimit : Option ℤ)
    (s : PullState) (pages : List JournalProposalPage) :
    (billingPages str dep billing proposedAfter pageLimit).consumeAll s pages =
      acceptItems str dep s (pages.flatMap JournalProposalPage.journalProposals) := by
  induction pages generalizing s with
  | nil => rfl
  | cons page pages ih =>
    rw [List.flatMap_cons]
    rcases hpage : acceptItems str dep s page.journalProposals with ⟨s', e | ⟨⟩⟩
    · rw [acceptItems_append_of_error hpage]
      exact Source.consumeAll_cons_of_error hpage pages
    · rw [acceptItems_append_of_ok hpage, ← ih]
      exact Source.consumeAll_cons_of_ok hpage pages

theorem acceptItem_count {s s' : PullState} {item : Members}
    (h : acceptItem str dep s item = (s', .ok ())) :
    s'.receipts.length + s'.rejected.length = s.receipts.length + s.rejected.length + 1 := by
  unfold acceptItem at h
  split at h
  · obtain ⟨rfl, -⟩ := Prod.mk.inj h
    simp only [List.length_append, List.length_cons, List.length_nil]
    omega
  · split at h
    · obtain ⟨rfl, -⟩ := Prod.mk.inj h
      simp only [List.length_append, List.length_cons, List.length_nil]
      omega
    · cases congrArg Prod.snd h

/-- Every item is answered once, with a receipt or a rejection. -/
theorem acceptItems_count {s s' : PullState} {items : List Members}
    (h : acceptItems str dep s items = (s', .ok ())) :
    s'.receipts.length + s'.rejected.length = s.receipts.length + s.rejected.length + items.length := by
  induction items generalizing s with
  | nil =>
    obtain ⟨rfl, -⟩ := Prod.mk.inj h
    rfl
  | cons item items ih =>
    rcases hitem : acceptItem str dep s item with ⟨s₁, e | ⟨⟩⟩
    · rw [acceptItems_cons_of_error hitem] at h
      cases congrArg Prod.snd h
    · rw [acceptItems_cons_of_ok hitem] at h
      have hrest := ih h
      have hfirst := acceptItem_count hitem
      rw [List.length_cons]
      omega

/-- A pull is answered exactly when Billing's pages end within the limit and come back to no
    cursor, and no item raises what is not caught; then the answer holds a receipt or a rejection
    for every item of every page, in the order of the pages. A pull that fails has answered all
    items of the pages before the one it fails at. -/
theorem pull_outcome (billing : Billing) (t : Tables) (proposedAfter cursor : Option String)
    (pageLimit : Option ℤ) :
    (∀ s', acceptPulledProposals str dep billing t proposedAfter cursor pageLimit = (s', .ok ()) ↔
      ∃ pages, (billingPages str dep billing proposedAfter pageLimit).Ends 0 (given cursor) pages ∧
        pages.length ≤ maxPullPages ∧
        ((given cursor).toList ++ pages.filterMap JournalProposalPage.nextCursor).Nodup ∧
        acceptItems str dep (PullState.start t) (pages.flatMap JournalProposalPage.journalProposals) =
          (s', .ok ()) ∧
        s'.receipts.length + s'.rejected.length =
          (pages.flatMap JournalProposalPage.journalProposals).length) ∧
    (∀ s' e, acceptPulledProposals str dep billing t proposedAfter cursor pageLimit = (s', .error e) →
      ∃ pages m last s,
        (billingPages str dep billing proposedAfter pageLimit).Follows 0 (given cursor) pages m last ∧
        acceptItems str dep (PullState.start t) (pages.flatMap JournalProposalPage.journalProposals) =
          (s, .ok ()) ∧
        (billingPages str dep billing proposedAfter pageLimit).Failure maxPullPages [] (given cursor)
          pages m last s s' e) := by
  unfold acceptPulledProposals
  constructor
  · intro s'
    rw [Source.walk_ok_iff]
    refine exists_congr fun pages =>
      and_congr Iff.rfl (and_congr Iff.rfl (and_congr Source.fresh_nil_iff ?_))
    rw [consumeAll_eq_acceptItems]
    refine ⟨fun h => ⟨h, ?_⟩, And.left⟩
    have hcount := acceptItems_count h
    simpa [PullState.start] using hcount
  · intro s' e h
    obtain ⟨pages, m, last, s, hfollows, hconsumed, hfailure⟩ := Source.walk_error h
    rw [consumeAll_eq_acceptItems] at hconsumed
    exact ⟨pages, m, last, s, hfollows, hconsumed, hfailure⟩

/-! ## Retries -/

variable (str dep) in
/-- A pull, and a later one after any other commands: what the first has answered is answered
    again as it was, and posted once. -/
structure RetrySafe (first : PullState) (t : Tables) (second : PullState) : Prop where
  same : ∀ r ∈ first.receipts, ∀ r' ∈ second.receipts, r'.idempotencyKey = r.idempotencyKey → r' = r
  once : ∀ r ∈ first.receipts, ∀ r' ∈ newReceipts t second.receipts, r'.idempotencyKey ≠ r.idempotencyKey
  posted : ∃ journals, second.tables.journals = t.journals ++ journals ∧
    journals.map GeneralJournal.journalReference =
      (newReceipts t second.receipts).map PublishedReceipt.journalReference
  answered : ∀ r ∈ first.receipts, ∀ item proposal, readProposal str dep item = .ok proposal →
    proposal.idempotencyKey = r.idempotencyKey → proposal.sourcePayloadHash = r.sourcePayloadHash →
      ∀ commands, acceptJournalProposal str dep (run (execute dep) first.tables commands) item =
        ({ run (execute dep) first.tables commands with
          clock := (run (execute dep) first.tables commands).clock + 1 }, .ok r)

/-- The record of a published receipt. -/
theorem publishedRow_record {t : Tables} {key : String} {document : PublishedReceipt}
    (h : publishedRow dep t key = some document) :
    ∃ record ∈ t.proposalRecords, record.idempotencyKey = document.idempotencyKey ∧
      record.sourcePayloadHash = document.sourcePayloadHash := by
  simp only [publishedRow, Option.bind_eq_bind, Option.bind_eq_some_iff, Option.pure_def,
    Option.some.injEq] at h
  obtain ⟨record, hrecord, _, -, _, -, _, -, _, -, _, -, rfl⟩ := h
  exact ⟨record, List.mem_of_find?_eq_some hrecord, rfl, rfl⟩

/-- A proposal that was posted is answered with the receipt that is published. -/
theorem acceptJournalProposal_again {t : Tables} {document : PublishedReceipt} {item : Members}
    {proposal : JournalProposal} (hlater : Later dep t t)
    (hload : loadPublishedReceiptByKey dep t document.idempotencyKey = .ok document)
    (hread : readProposal str dep item = .ok proposal)
    (hkey : proposal.idempotencyKey = document.idempotencyKey)
    (hhash : proposal.sourcePayloadHash = document.sourcePayloadHash) :
    acceptJournalProposal str dep t item = ({ t with clock := t.clock + 1 }, .ok document) := by
  obtain ⟨record, hrecord, hrecordKey, hrecordHash⟩ := publishedRow_record (fetch_eq_ok.mp hload)
  obtain ⟨again, hagain⟩ := hlater.postProposal hrecord (hrecordKey.trans hkey.symm)
    (hrecordHash.trans hhash.symm)
  have hloaded : loadPublishedReceiptByKey dep { t with clock := t.clock + 1 } proposal.idempotencyKey =
      .ok document := by
    rw [hkey]
    exact hload
  simp only [acceptJournalProposal, hread, hagain, hloaded]
  rfl

/-- Pulls can be retried: whatever Billing answers to either of them, in whatever state the ledger
    was and whatever is done between them, the second answers a key the first has answered with the
    same receipt, and posts only what it answers under a key the ledger did not know. -/
theorem pull_retry (before between : List Postgres.Command) (billing billing' : Billing)
    (proposedAfter proposedAfter' cursor cursor' : Option String) (pageLimit pageLimit' : Option ℤ) :
    let first := (acceptPulledProposals str dep billing (ledgerAfter dep before) proposedAfter cursor
      pageLimit).1
    let t := run (execute dep) first.tables between
    RetrySafe str dep first t
      (acceptPulledProposals str dep billing' t proposedAfter' cursor' pageLimit').1 := by
  intro first t
  have hfirst : PullKept dep (ledgerAfter dep before) first :=
    pullKept_acceptPulledProposals str billing before proposedAfter cursor pageLimit
  obtain ⟨posts, hposts⟩ := hfirst.reached
  -- the tables after any commands are those of a run
  have hledger : ∀ commands, run (execute dep) first.tables commands =
      ledgerAfter dep (before ++ posts ++ commands) := by
    intro commands
    rw [hposts, ledgerAfter_append, ledgerAfter_append]
  have hlater : ∀ commands, Later dep (run (execute dep) first.tables commands)
      (run (execute dep) first.tables commands) := by
    intro commands
    rw [hledger]
    exact ⟨wellFormed_ledgerAfter _, postingsKept_ledgerAfter _, Retains.refl _⟩
  have hload : ∀ r ∈ first.receipts, ∀ commands,
      loadPublishedReceiptByKey dep (run (execute dep) first.tables commands) r.idempotencyKey = .ok r :=
    fun r hr commands => (retains_run hfirst.ledger.1 commands).loadPublishedReceiptByKey
      (hlater commands).wellFormed (hfirst.published r hr)
  have hsecond : PullKept dep t
      (acceptPulledProposals str dep billing' t proposedAfter' cursor' pageLimit').1 := by
    have hstart : t = ledgerAfter dep (before ++ posts ++ between) := hledger between
    rw [hstart]
    exact pullKept_acceptPulledProposals str billing' _ proposedAfter' cursor' pageLimit'
  obtain ⟨later, hreached⟩ := hsecond.reached
  have hend : ∀ r ∈ first.receipts, loadPublishedReceiptByKey dep
      (acceptPulledProposals str dep billing' t proposedAfter' cursor' pageLimit').1.tables
        r.idempotencyKey = .ok r := by
    intro r hr
    rw [hreached, ← run_append]
    exact hload r hr (between ++ later)
  exact {
    same := by
      intro r hr r' hr' hkey
      have hanswered := hsecond.published r' hr'
      rw [hkey, hend r hr] at hanswered
      exact (Except.ok.inj hanswered).symm
    once := by
      intro r hr r' hr' hkey
      have hnew := (List.mem_filter.mp (List.mem_eraseDups.mp hr')).2
      obtain ⟨record, hrecord, hrecordKey, -⟩ := publishedRow_record (fetch_eq_ok.mp (hload r hr between))
      rw [hkey, (hlater between).record hrecord hrecordKey] at hnew
      cases hnew
    posted := hsecond.posted
    answered := fun r hr item proposal hread hkey hhash commands =>
      acceptJournalProposal_again (hlater commands) (hload r hr commands) hread hkey hhash }

end AccountingPlatform.Ingest
