/-
  What each command does to well-formed tables.

  `Effect` lists the outcomes once: nothing, a new period, one journal, a soft close, a hard
  close with or without a closing journal. Every invariant over runs is a case analysis on it.
  `targetOf` names the book and date of the journal a command is about to write.
-/
import AccountingPlatform.Postgres.WellFormed

namespace AccountingPlatform.Postgres

open AccountingPlatform.Lib AccountingPlatform.Core

open PostingLedger (ReversalRequest)

variable (dep : Deployment)

/-! ## Targets -/

/-- Book and day of the journal a fresh proposal is posted to. -/
def proposalTarget (t : Tables) (proposal : JournalProposal) (bookRoleCode : String) :
    Option (ℕ × Date) :=
  match t.proposalRecordByKey proposal.idempotencyKey with
  | some _ => none
  | none => do
    let entity ← (dep.loadLegalEntity proposal.legalEntityReference "posting").toOption
    let book ← dep.fetchone (dep.booksForRole entity.legalEntityId bookRoleCode)
    pure (book.accountingBookId, proposal.accountingDate)

/-- The closing journal of a hard close that is not a replay and has income to clear. -/
def closingTarget (t : Tables) (request : CloseRequest) : Option (ℕ × Date) := do
  let scope ← (dep.loadScope request.legalEntityReference request.accountingBookReference
    "the close").toOption
  let period ← periodByCode dep t request.periodCode
  if request.periodStatusCode = "hard_closed" ∧
      t.bookPeriodStatus scope.2.accountingBookId period ≠ .hardClosed ∧
      closingLines dep t scope.1.legalEntityId scope.2.accountingBookId period.periodEndDate ≠ [] then
    some (scope.2.accountingBookId, period.periodEndDate)
  else none

/-- Book and accounting date of the journal a command writes if it commits one. -/
def targetOf (t : Tables) : Command → Option (ℕ × Date)
  | .openFiscalPeriod _ => none
  | .post proposal policy => proposalTarget dep t proposal policy.intendedBookRoleCode
  | .postProposal proposal => proposalTarget dep t proposal proposal.intendedBookRoleCode
  | .postAdjustingJournal request =>
    match t.proposalRecordByKey request.idempotencyKey with
    | some _ => none
    | none => do
      let scope ← (dep.loadScope request.legalEntityReference request.accountingBookReference
        "the journal post").toOption
      pure (scope.2.accountingBookId, request.journalDate)
  | .reverse request _ =>
    match existingReversal t request.journalReference with
    | some _ => none
    | none => do
      let original ← t.journalByReference request.journalReference
      pure (original.accountingBookId, request.reversalDate)
  | .closeFiscalPeriod request => closingTarget dep t request

/-! ## Effects -/

/-- The tables once `_lock_book_period` has added the missing control rows. -/
def materialized (t : Tables) (period : FiscalPeriod) : Tables :=
  { t with bookPeriodControls := t.bookPeriodControls ++ materializedControls dep t period }

/-- What a close found when it went on to write. -/
structure Closable (t : Tables) (request : CloseRequest) (entity : LegalEntityRecord)
    (book : AccountingBook) (period : FiscalPeriod) (control : BookPeriodControl) : Prop where
  scope : dep.loadScope request.legalEntityReference request.accountingBookReference "the close" =
    .ok (entity, book)
  book_mem : book ∈ dep.catalog.books
  book_current : book.isCurrent = true
  book_entity : book.legalEntityId = entity.legalEntityId
  code_given : strip request.periodCode ≠ ""
  period_eq : periodByCode dep t request.periodCode = some period
  period_mem : period ∈ t.fiscalPeriods
  control_mem : control ∈ (materialized dep t period).bookPeriodControls
  control_for : control.IsFor book.accountingBookId period.fiscalPeriodId

/-- The tables after the closing journal of a hard close, if there was one to write. -/
inductive ClosingPosted (t : Tables) (request : CloseRequest) (entity : LegalEntityRecord)
    (book : AccountingBook) (period : FiscalPeriod) : Option GeneralJournal → Tables → Prop
  | nothing
      (h : closingLines dep t entity.legalEntityId book.accountingBookId period.periodEndDate = []) :
      ClosingPosted t request entity book period none t
  | journal {record : ProposalRecord} {journal : GeneralJournal} {t' : Tables}
      (h : closingLines dep t entity.legalEntityId book.accountingBookId period.periodEndDate ≠ [])
      (hwritten : Written dep t record journal t')
      (hreference : journal.journalReference = closingReference request)
      (hdate : journal.accountingDate = period.periodEndDate)
      (hbook : journal.accountingBookId = book.accountingBookId)
      (hlines : tryMap (insertJournalLine dep book.accountingBookId)
        (closingLines dep t entity.legalEntityId book.accountingBookId period.periodEndDate) =
          .ok journal.lines) :
      ClosingPosted t request entity book period (some journal) t'

/-- The outcomes of a command that commits. -/
inductive Effect (t : Tables) : Command → Tables → Prop
  | idle {command : Command} (commands : List PeriodOpenCommand)
      (htarget : targetOf dep t command = none) :
      Effect t command { t with periodOpenCommands := commands, clock := t.clock + 1 }
  | opened {request : PeriodOpenRequest} (period : FiscalPeriod) (commands : List PeriodOpenCommand)
      (hid : period.fiscalPeriodId = t.nextId) (hopen : period.periodStatus = .opened)
      (hcode : ∀ p ∈ t.fiscalPeriods, p.periodCode ≠ period.periodCode) :
      Effect t (.openFiscalPeriod request) { t with
        fiscalPeriods := t.fiscalPeriods ++ [period]
        nextId := t.nextId + 1
        periodOpenCommands := commands
        clock := t.clock + 1 }
  | posted {command : Command} {record : ProposalRecord} {journal : GeneralJournal} {t' : Tables}
      (hwritten : Written dep t record journal t') (hfrom : FromProposal journal.journalReference)
      (htarget : targetOf dep t command = some (journal.accountingBookId, journal.accountingDate)) :
      Effect t command { t' with clock := t'.clock + 1 }
  | locked {request : CloseRequest} (period : FiscalPeriod) (hperiod : period ∈ t.fiscalPeriods)
      (hcode : strip period.periodCode ≠ "") (htarget : closingTarget dep t request = none) :
      Effect t (.closeFiscalPeriod request) { materialized dep t period with clock := t.clock + 1 }
  | softClosed {request : CloseRequest} {entity : LegalEntityRecord} {book : AccountingBook}
      {period : FiscalPeriod} {control : BookPeriodControl}
      (hclosable : Closable dep t request entity book period control)
      (hopen : control.periodStatus = .opened) (htarget : closingTarget dep t request = none)
      (evidence : SoftCloseEvidence) (outbox : List OutboxEvent) :
      Effect t (.closeFiscalPeriod request)
        { setBookPeriodClosed dep (materialized dep t period) book.accountingBookId
            period.fiscalPeriodId .softClosed with
          bookPeriodControls := (setBookPeriodClosed dep (materialized dep t period)
            book.accountingBookId period.fiscalPeriodId .softClosed).bookPeriodControls.map
              (updateRow book.accountingBookId period.fiscalPeriodId
                fun c => { c with softClose := some evidence })
          outboxEvents := outbox
          clock := t.clock + 1 }
  | hardClosed {request : CloseRequest} {entity : LegalEntityRecord} {book : AccountingBook}
      {period : FiscalPeriod} {control : BookPeriodControl} {posted : Option GeneralJournal}
      {t' : Tables} (hclosable : Closable dep t request entity book period control)
      (hnot : control.periodStatus ≠ .hardClosed)
      (hcode : request.periodStatusCode = "hard_closed")
      (hpackage : ∃ trialBalance, assemblePeriodClosePackage dep (materialized dep t period)
        request.legalEntityReference request.accountingBookReference request.periodCode =
          .ok trialBalance ∧ requireCloseablePackage trialBalance = .ok ())
      (hposted : ClosingPosted dep (materialized dep t period) request entity book period posted t')
      (hunique : ∀ s ∈ t'.snapshots, ¬(s.legalEntityId = entity.legalEntityId ∧
        s.accountingBookId = book.accountingBookId ∧ s.fiscalPeriodId = period.fiscalPeriodId))
      (outbox : List OutboxEvent) :
      Effect t (.closeFiscalPeriod request)
        { setBookPeriodClosed dep (withSnapshot dep t' request entity book period)
            book.accountingBookId period.fiscalPeriodId .hardClosed with
          outboxEvents := outbox
          clock := t'.clock + 1 }

/-! ## Written journals -/

/-- A recorded journal is a written one; the write path adds where it may be dated. -/
theorem RecordedJournal.written {t t' : Tables} {record : NewProposalRecord} {new : ℕ → NewJournal}
    {journal : GeneralJournal} (h : RecordedJournal dep t record new journal t')
    (hproposal : ∀ n, (new n).proposalRecordId = n)
    (hdated : ∃ p ∈ t.fiscalPeriods, p.fiscalPeriodId = (new t.nextId).fiscalPeriodId ∧
      p.periodStartDate ≤ (new t.nextId).accountingDate ∧
      (new t.nextId).accountingDate ≤ p.periodEndDate)
    (hscope : ∃ book ∈ dep.catalog.books, book.accountingBookId = (new t.nextId).accountingBookId ∧
      book.legalEntityId = (new t.nextId).legalEntityId)
    (hreference : FromProposal (new t.nextId).journalReference ∨
      isClosingReference (new t.nextId).journalReference = true) :
    Written dep t ⟨t.nextId, record.externalProposalId, record.idempotencyKey,
      record.sourcePayloadHash⟩ journal t' := by
  obtain ⟨hin, -, hkey⟩ := h
  obtain ⟨p, hp, hunlocked, -⟩ := guardPeriodInsert_ok hin.guarded
  have hrow := hin.row
  have htables := hin.tables
  have hfacts : JournalFacts dep t.fiscalPeriods journal := by
    refine ⟨?_, ?_, ?_, ⟨(new t.nextId).lines, ?_⟩, hin.lineNumbers, hin.totals, hin.given,
      hin.balanced⟩
    · rw [hrow]; exact hdated
    · rw [hrow]; exact hscope
    · rw [hrow]; exact hin.currency
    · have := hin.lines
      rw [hrow] at this ⊢
      exact this
  exact {
    admitted := {
      facts := hfacts
      postedAt := by rw [hrow]; rfl
      fresh := by rw [hrow]; exact hin.fresh
      unlocked := ⟨p, by rw [hrow]; exact hp, by rw [hrow]; exact hunlocked⟩ }
    record_id := rfl
    journal_id := by rw [hrow]; rfl
    record_of := by rw [hrow]; exact hproposal _
    key_fresh := hkey
    fiscalPeriods := by rw [htables]
    controls := by rw [htables]
    snapshots := by rw [htables]
    records := by rw [htables]
    journals := by rw [htables]
    reversals := ⟨[], by rw [htables, List.append_nil]⟩
    referenced := by rw [hrow]; exact hreference
    receipts := by rw [htables]; exact fun r hr => Or.inl hr
    nextId := by rw [htables]
    clock := by rw [htables] }

/-- The receipt, the lineage and the event of a journal change nothing else. -/
theorem Written.with_receipt {t t₁ t' : Tables} {record : ProposalRecord} {journal : GeneralJournal}
    (h : Written dep t record journal t₁) (hfrom : FromProposal journal.journalReference)
    (reversals : List JournalReversal) {receipt : PostingReceiptRow} {outbox : List OutboxEvent}
    (hreceipt : receipt.generalJournalId = journal.generalJournalId)
    (ht : t' = { t₁ with
      reversals := t₁.reversals ++ reversals
      postingReceipts := t₁.postingReceipts ++ [receipt]
      outboxEvents := outbox }) : Written dep t record journal t' := by
  subst ht
  exact { h with
    reversals := h.reversals.trans (List.prefix_append _ _)
    receipts := by
      intro r hr
      rcases List.mem_append.mp hr with hr | hr
      · exact h.receipts r hr
      · rw [List.mem_singleton.mp hr]
        exact Or.inr ⟨hreceipt, hfrom⟩ }

/-- A posting: its journal is the row of `new`, with receipt and event. -/
theorem writePosting_written {t t' : Tables} {record : NewProposalRecord} {new : ℕ → NewJournal}
    {receipt : PostingReceipt} (h : writePosting dep t record new receipt = .ok t')
    (hproposal : ∀ n, (new n).proposalRecordId = n)
    (hdated : ∃ p ∈ t.fiscalPeriods, p.fiscalPeriodId = (new t.nextId).fiscalPeriodId ∧
      p.periodStartDate ≤ (new t.nextId).accountingDate ∧
      (new t.nextId).accountingDate ≤ p.periodEndDate)
    (hscope : ∃ book ∈ dep.catalog.books, book.accountingBookId = (new t.nextId).accountingBookId ∧
      book.legalEntityId = (new t.nextId).legalEntityId)
    (hreference : FromProposal (new t.nextId).journalReference) :
    ∃ journal t₀, Written dep t ⟨t.nextId, record.externalProposalId, record.idempotencyKey,
      record.sourcePayloadHash⟩ journal t' ∧ journal = (new t.nextId).row t₀ journal.lines := by
  obtain ⟨journal, t₁, hrecorded, ht'⟩ := writePosting_ok dep h
  have hrow := hrecorded.inserted.row
  have hfrom : FromProposal journal.journalReference := by rw [hrow]; exact hreference
  have hwritten := hrecorded.written dep hproposal hdated hscope (Or.inl hreference)
  have htables : t' = { t₁ with
      reversals := t₁.reversals ++ []
      postingReceipts := t₁.postingReceipts ++ [⟨t.nextId, journal.generalJournalId,
        receipt.postingStatusCode, canonicalReceiptHash dep receipt⟩]
      outboxEvents := t'.outboxEvents } := by
    rw [List.append_nil, ht']
    rfl
  exact ⟨journal, _, hwritten.with_receipt dep hfrom [] rfl htables, hrow⟩

theorem fromProposal_reference {id : String} (hid : matchesProposalId id = true) :
    FromProposal (PostingLedger.generalJournalReference id) := ⟨id, hid, List.prefix_refl _⟩

/-! ## One command -/

variable {dep}

theorem persistProposal_effect {t t' : Tables} {proposal : JournalProposal}
    {suppliedPolicy : Option AccountingPolicy} {receipt : PostingReceipt} {bookRoleCode : String}
    (h : persistProposal dep t proposal suppliedPolicy = .ok (receipt, t'))
    (hrole : ∀ policy, postingPolicy dep t proposal suppliedPolicy = .ok policy →
      validatePolicyScope proposal policy = .ok () → policy.intendedBookRoleCode = bookRoleCode) :
    (t' = t ∧ proposalTarget dep t proposal bookRoleCode = none) ∨
    ∃ record journal, Written dep t record journal t' ∧
      FromProposal journal.journalReference ∧
      proposalTarget dep t proposal bookRoleCode =
        some (journal.accountingBookId, journal.accountingDate) := by
  rcases persistProposal_ok dep h with ⟨prior, hprior, -, -, rfl⟩ | ⟨hnone, hfresh⟩
  · exact Or.inl ⟨rfl, by simp only [proposalTarget, hprior]⟩
  · obtain ⟨policy, entity, book, period, lines, hposting, rfl, hwrite⟩ :=
      persistFreshProposal_ok dep hfresh
    obtain ⟨-, -, candidate, hcandidate, hid, hle, hge⟩ :=
      requireOpenBookPeriodBounds_ok dep hposting.period_eq
    have hbook := hposting.book_eq
    simp only [Deployment.requireBook, fetch_eq_ok] at hbook
    have hmem := dep.fetchone_mem hbook
    simp only [Deployment.booksForRole, List.mem_filter, decide_eq_true_eq] at hmem
    obtain ⟨journal, t₀, hwritten, hrow⟩ := writePosting_written dep hwrite (fun _ => rfl)
      ⟨candidate, hcandidate, hid, hle, hge⟩ ⟨book, hmem.1, rfl, hmem.2.1⟩
      (fromProposal_reference proposal.proposalId_matches)
    refine Or.inr ⟨_, journal, hwritten, ?_, ?_⟩
    · rw [hrow]
      exact fromProposal_reference proposal.proposalId_matches
    · rw [hrole policy hposting.policy_eq hposting.scope] at hbook
      rw [hrow]
      simp only [proposalTarget, hnone, hposting.entity_eq, Except.toOption, Option.bind_eq_bind,
        Option.bind_some, hbook]
      rfl

theorem post_effect {t t' : Tables} {proposal : JournalProposal} {policy : AccountingPolicy}
    {receipt : PostingReceipt} (h : post dep t proposal policy = .ok (receipt, t')) :
    Effect dep t (.post proposal policy) { t' with clock := t'.clock + 1 } := by
  have hrole : ∀ policy', postingPolicy dep t proposal (some policy) = .ok policy' →
      validatePolicyScope proposal policy' = .ok () →
        policy'.intendedBookRoleCode = policy.intendedBookRoleCode := by
    rintro policy' hpolicy -
    cases hpolicy
    rfl
  rcases persistProposal_effect h hrole with
    ⟨rfl, htarget⟩ | ⟨record, journal, hwritten, hfrom, htarget⟩
  · exact .idle t'.periodOpenCommands htarget
  · exact .posted hwritten hfrom htarget

theorem postProposal_effect {t t' : Tables} {proposal : JournalProposal}
    {receipt : PostingReceipt} (h : postProposal dep t proposal = .ok (receipt, t')) :
    Effect dep t (.postProposal proposal) { t' with clock := t'.clock + 1 } := by
  have hrole : ∀ policy, postingPolicy dep t proposal none = .ok policy →
      validatePolicyScope proposal policy = .ok () →
        policy.intendedBookRoleCode = proposal.intendedBookRoleCode := by
    intro policy _ hscope
    simp only [validatePolicyScope, bind_eq_ok, require_eq_ok] at hscope
    obtain ⟨-, -, -, -, -, hrole, -⟩ := hscope
    exact hrole.symm
  rcases persistProposal_effect h hrole with
    ⟨rfl, htarget⟩ | ⟨record, journal, hwritten, hfrom, htarget⟩
  · exact .idle t'.periodOpenCommands htarget
  · exact .posted hwritten hfrom htarget

theorem postAdjustingJournal_effect {t t' : Tables} {request : AdjustingRequest}
    (h : postAdjustingJournal dep t request = .ok t') :
    Effect dep t (.postAdjustingJournal request) { t' with clock := t'.clock + 1 } := by
  rcases postAdjustingJournal_ok dep h with ⟨prior, hprior, rfl⟩ |
    ⟨hnone, hid, policy, entity, book, period, hfresh, hwrite⟩
  · exact .idle t'.periodOpenCommands (by simp only [targetOf, hprior])
  · obtain ⟨hperiod, hle, hge, -⟩ := adjustingPeriod_ok dep hfresh.period_eq
    obtain ⟨-, -, hbook, hentity, -⟩ := dep.loadScope_ok hfresh.scope
    obtain ⟨journal, t₀, hwritten, hrow⟩ := writePosting_written dep hwrite (fun _ => rfl)
      ⟨period, (periodByCode_mem dep hperiod).1, rfl, hle, hge⟩ ⟨book, hbook, rfl, hentity⟩
      (fromProposal_reference hid)
    refine .posted hwritten ?_ ?_
    · rw [hrow]
      exact fromProposal_reference hid
    · rw [hrow]
      simp only [targetOf, hnone, hfresh.scope, Except.toOption, Option.bind_eq_bind,
        Option.bind_some]
      rfl

/-- The original of a reversal came from a proposal: closing journals have no receipt. -/
theorem WellFormed.original_fromProposal {t : Tables} (h : WellFormed dep t)
    {original : GeneralJournal} (horiginal : original ∈ t.journals)
    (hreceipt : ∃ r ∈ t.postingReceipts, r.generalJournalId = original.generalJournalId) :
    FromProposal original.journalReference := by
  obtain ⟨r, hr, hid⟩ := hreceipt
  obtain ⟨j, hj, hjid, hfrom⟩ := h.receipted r hr
  rw [← List.inj_on_of_nodup_map h.journal_keys hj horiginal (hjid.trans hid)]
  exact hfrom

theorem reverse_effect {t t' : Tables} (h : WellFormed dep t) {request : ReversalRequest}
    {policy : AccountingPolicy} {receipt : PostingReceipt}
    (hok : reverse dep t request policy = .ok (receipt, t')) :
    Effect dep t (.reverse request policy) { t' with clock := t'.clock + 1 } := by
  rcases reverse_ok dep hok with ⟨existing, hexisting, -, rfl⟩ |
    ⟨original, period, originalRecord, journal, t₁, hfresh, -, hrecorded, hreceipt, -, ht'⟩
  · exact .idle t'.periodOpenCommands (by simp only [targetOf, hexisting])
  · obtain ⟨horiginal, -, -, -, -, -⟩ := reversibleJournal_ok dep hfresh.original_eq
    obtain ⟨-, -, candidate, hcandidate, hid, hle, hge⟩ :=
      requireAdjustingPeriodBounds_ok dep hfresh.period_eq
    have hmem : original ∈ t.journals := List.mem_of_find?_eq_some horiginal
    have href : original.journalReference = request.journalReference := by
      simpa using List.find?_some horiginal
    have hfrom : FromProposal (request.journalReference ++ ":reversal") := by
      obtain ⟨id, hid', hinitial⟩ := h.original_fromProposal hmem (by
        have := hrecorded.inserted.tables
        rw [this] at hreceipt
        exact hreceipt)
      refine ⟨id, hid', hinitial.trans ?_⟩
      rw [href, String.toList_append]
      exact List.prefix_append _ _
    have hrow := hrecorded.inserted.row
    have hwritten := hrecorded.written dep (fun _ => rfl) ⟨candidate, hcandidate, hid, hle, hge⟩
      (h.facts original hmem).scope (Or.inl hfrom)
    have hfrom' : FromProposal journal.journalReference := by rw [hrow]; exact hfrom
    refine .posted (hwritten.with_receipt dep hfrom' _ rfl ht') hfrom' ?_
    rw [hrow]
    simp only [targetOf, hfresh.unreversed, horiginal, Option.bind_eq_bind, Option.bind_some]
    rfl

theorem openFiscalPeriod_effect {t t' : Tables} {request : PeriodOpenRequest}
    {document : PeriodOpenDocument} (h : openFiscalPeriod dep t request = .ok (document, t')) :
    Effect dep t (.openFiscalPeriod request) { t' with clock := t'.clock + 1 } := by
  rcases openFiscalPeriod_ok dep h with rfl | ⟨command, rfl | ⟨period, hid, hopen, hcode, rfl⟩⟩
  · exact .idle t'.periodOpenCommands rfl
  · exact .idle _ rfl
  · refine .opened period _ hid hopen fun p hp hc => ?_
    simp only [periodByCode, Deployment.fetchone_eq_none, List.filter_eq_nil_iff,
      decide_eq_true_eq] at hcode
    exact hcode p hp hc

theorem postClosingJournal_posted {t t' : Tables} {request : CloseRequest}
    {entity : LegalEntityRecord} {book : AccountingBook} {period : FiscalPeriod}
    {posted : Option GeneralJournal} (hperiod : period ∈ t.fiscalPeriods)
    (hbook : book ∈ dep.catalog.books) (hentity : book.legalEntityId = entity.legalEntityId)
    (h : postClosingJournal dep t request entity book period = .ok (posted, t')) :
    ClosingPosted dep t request entity book period posted t' := by
  rcases postClosingJournal_ok dep h with ⟨hnil, rfl, rfl⟩ |
    ⟨policy, journal, rfl, hlines, hrecorded⟩
  · exact .nothing hnil
  · have hrow := hrecorded.inserted.row
    have hwritten := hrecorded.written dep (fun _ => rfl)
      ⟨period, hperiod, rfl, period.dates_ordered, Nat.le_refl _⟩ ⟨book, hbook, rfl, hentity⟩
      (Or.inr (closingReference_closing request))
    exact .journal hlines hwritten (by rw [hrow]; rfl) (by rw [hrow]; rfl) (by rw [hrow]; rfl)
      hrecorded.inserted.lines

/-- The state of a control row, once locked, is the state its book had before. -/
theorem bookPeriodStatus_of_materialized {t : Tables} (h : WellFormed dep t) {bookId : ℕ}
    {period : FiscalPeriod} (hp : period ∈ t.fiscalPeriods) {control : BookPeriodControl}
    (hcontrol : control ∈ (materialized dep t period).bookPeriodControls)
    (hfor : control.IsFor bookId period.fiscalPeriodId) :
    t.bookPeriodStatus bookId period = control.periodStatus := by
  rcases List.mem_append.mp hcontrol with hc | hc
  · exact h.bookPeriodStatus_eq hc hfor
  · obtain ⟨hopen, hno⟩ := materializedControls_opened h.controls hp hc
    have hnone : (t.bookPeriodControls.find? fun c =>
        c.accountingBookId = bookId ∧ c.fiscalPeriodId = period.fiscalPeriodId) = none := by
      rw [List.find?_eq_none]
      intro d hd
      simp [hno d hd]
    obtain ⟨book, -, -, -, rfl⟩ := mem_materializedControls.mp hc
    simp only [Tables.bookPeriodStatus, hnone]

theorem Closable.target {t : Tables} {request : CloseRequest} {entity : LegalEntityRecord}
    {book : AccountingBook} {period : FiscalPeriod} {control : BookPeriodControl}
    (h : Closable dep t request entity book period control) :
    closingTarget dep t request =
      if request.periodStatusCode = "hard_closed" ∧
          t.bookPeriodStatus book.accountingBookId period ≠ .hardClosed ∧
          closingLines dep t entity.legalEntityId book.accountingBookId period.periodEndDate ≠ [] then
        some (book.accountingBookId, period.periodEndDate)
      else none := by
  simp only [closingTarget, h.scope, h.period_eq, Except.toOption, Option.bind_eq_bind,
    Option.bind_some]

theorem closeFiscalPeriod_effect {t t' : Tables} (hwf : WellFormed dep t) {request : CloseRequest}
    {receipt : PeriodCloseReceipt} (h : closeFiscalPeriod dep t request = .ok (receipt, t')) :
    Effect dep t (.closeFiscalPeriod request) { t' with clock := t'.clock + 1 } := by
  obtain ⟨entity, book, period, control, t₁, hlocked, hcases⟩ := closeFiscalPeriod_ok dep h
  obtain ⟨hperiod, ht₁, hcontrol⟩ := lockBookPeriod_ok dep hlocked.lock
  obtain ⟨-, -, hbook, hentity, -, hcurrent⟩ := dep.loadScope_ok hlocked.scope
  obtain ⟨hcmem, hcfor⟩ := find_control_mem hcontrol
  obtain ⟨hpmem, hpcode⟩ := periodByCode_mem dep hperiod
  obtain rfl : t₁ = materialized dep t period := ht₁
  have hclosable : Closable dep t request entity book period control :=
    ⟨hlocked.scope, hbook, hcurrent, hentity, hlocked.code_given, hperiod, hpmem, hcmem, hcfor⟩
  have hstatus := bookPeriodStatus_of_materialized hwf hpmem hcmem hcfor
  rcases hcases with ⟨hreplay, rfl⟩ | ⟨hopen, hcode, hsoft⟩ | ⟨hnot, hcode, hpackage, hhard⟩
  · refine .locked period hpmem (hpcode ▸ hlocked.code_given) ?_
    rw [hclosable.target, hstatus, if_neg]
    rintro ⟨hcode, hnot, -⟩
    exact hreplay.elim hnot fun hne => hne hcode
  · obtain ⟨evidence, payloadHash, rfl⟩ := persistSoftClose_ok dep hsoft
    refine .softClosed hclosable hopen ?_ evidence _
    rw [hclosable.target, if_neg]
    exact fun h => hcode h.1
  · obtain ⟨posted, t₂, hposted, hunique, snapshotId, payloadHash, rfl⟩ :=
      persistPeriodClose_ok dep hhard
    exact .hardClosed hclosable hnot hcode hpackage
      (postClosingJournal_posted hpmem hbook hentity hposted) hunique _

/-- A command that does not raise has one of the listed effects. -/
theorem attempt_effect {t t' : Tables} (h : WellFormed dep t) {command : Command}
    (ha : attempt dep t command = .ok t') :
    Effect dep t command { t' with clock := t'.clock + 1 } := by
  cases command with
  | postAdjustingJournal request => exact postAdjustingJournal_effect ha
  | openFiscalPeriod request =>
    obtain ⟨⟨document, t''⟩, hok, rfl⟩ := map_eq_ok.mp ha
    exact openFiscalPeriod_effect hok
  | post proposal policy =>
    obtain ⟨⟨receipt, t''⟩, hok, rfl⟩ := map_eq_ok.mp ha
    exact post_effect hok
  | postProposal proposal =>
    obtain ⟨⟨receipt, t''⟩, hok, rfl⟩ := map_eq_ok.mp ha
    exact postProposal_effect hok
  | reverse request policy =>
    obtain ⟨⟨receipt, t''⟩, hok, rfl⟩ := map_eq_ok.mp ha
    exact reverse_effect h hok
  | closeFiscalPeriod request =>
    obtain ⟨⟨receipt, t''⟩, hok, rfl⟩ := map_eq_ok.mp ha
    exact closeFiscalPeriod_effect h hok

/-- Either the command raised and nothing happened, or it had its effect. -/
theorem execute_effect {t : Tables} (h : WellFormed dep t) (command : Command) :
    (¬Succeeds (attempt dep t command) ∧ execute dep t command = t) ∨
    (Succeeds (attempt dep t command) ∧ Effect dep t command (execute dep t command)) := by
  cases ha : attempt dep t command with
  | error e =>
    refine Or.inl ⟨?_, execute_of_error dep ha⟩
    rintro ⟨_, hok⟩
    cases hok
  | ok t' =>
    rw [execute_of_ok dep ha]
    exact Or.inr ⟨⟨t', rfl⟩, attempt_effect h ha⟩

/-! ## Well-formed runs -/

theorem ClosingPosted.keeps {t t' : Tables} {request : CloseRequest} {entity : LegalEntityRecord}
    {book : AccountingBook} {period : FiscalPeriod} {posted : Option GeneralJournal}
    (h : ClosingPosted dep t request entity book period posted t') :
    t'.fiscalPeriods = t.fiscalPeriods ∧ t'.bookPeriodControls = t.bookPeriodControls ∧
      t'.snapshots = t.snapshots ∧ t'.clock = t.clock ∧ t'.journals = t.journals ++ posted.toList ∧
      (WellFormed dep t → WellFormed dep t') := by
  cases h with
  | nothing => exact ⟨rfl, rfl, rfl, rfl, (List.append_nil _).symm, id⟩
  | journal _ hwritten =>
    exact ⟨hwritten.fiscalPeriods, hwritten.controls, hwritten.snapshots, hwritten.clock,
      hwritten.journals, fun h => h.write hwritten⟩

theorem WellFormed.materialized {t : Tables} (h : WellFormed dep t) {period : FiscalPeriod}
    (hp : period ∈ t.fiscalPeriods) : WellFormed dep (Postgres.materialized dep t period) :=
  h.materialize hp rfl

/-- The snapshot of a hard close is taken of the tables with its closing journal. -/
theorem newSnapshot_takenNow {t : Tables} (h : WellFormed dep t) (request : CloseRequest)
    {entity : LegalEntityRecord} {book : AccountingBook} {period : FiscalPeriod}
    (hbook : book ∈ dep.catalog.books) (hentity : book.legalEntityId = entity.legalEntityId)
    (hunique : ∀ s ∈ t.snapshots, ¬(s.legalEntityId = entity.legalEntityId ∧
      s.accountingBookId = book.accountingBookId ∧ s.fiscalPeriodId = period.fiscalPeriodId)) :
    TakenNow dep t book period (newSnapshot dep t request entity book period) where
  legalEntity := hentity.symm
  book_id := rfl
  period_id := rfl
  generatedAt := rfl
  lines := by rw [hentity]; rfl
  count := by rw [hentity]; rfl
  unique := by
    rintro s hs ⟨hb, hp⟩
    obtain ⟨book', hbook', hid, hle⟩ := h.snapshots.scope s hs
    rw [book_of_id hbook' hbook (hid.trans hb)] at hle
    exact hunique s hs ⟨hle.symm.trans hentity, hb, hp⟩

theorem wellFormed_effect {t t' : Tables} {command : Command} (h : WellFormed dep t)
    (he : Effect dep t command t') : WellFormed dep t' := by
  cases he with
  | idle commands _ => exact h.congr rfl rfl rfl rfl rfl (Nat.le_refl _) (Nat.le_succ _)
  | opened period commands hid hopen hcode =>
    exact (h.openPeriod hid hopen hcode rfl).congr rfl rfl rfl rfl rfl (Nat.le_refl _) (Nat.le_succ _)
  | posted hwritten _ _ =>
    exact (h.write hwritten).congr rfl rfl rfl rfl rfl (Nat.le_refl _) (Nat.le_succ _)
  | locked period hperiod _ _ =>
    exact (h.materialized hperiod).congr rfl rfl rfl rfl rfl (Nat.le_refl _) (Nat.le_succ _)
  | softClosed hclosable hopen _ evidence outbox =>
    have hmat := h.materialized hclosable.period_mem
    have hset := hmat.setSoftClosed ⟨_, hclosable.control_mem, hclosable.control_for, by
      rw [hopen]; decide⟩
    have hkeys : KeepsKey fun c : BookPeriodControl => { c with softClose := some evidence } :=
      ⟨fun _ => rfl, fun _ => rfl⟩
    refine (hset.annotate (hkeys.updateRow _ _) fun c => ?_).congr rfl rfl rfl rfl rfl
      (Nat.le_refl _) (Nat.le_succ _)
    unfold updateRow
    split <;> rfl
  | @hardClosed request entity book period control posted t₂ hclosable _ _ _ hposted hunique outbox =>
    obtain ⟨hperiods, hcontrols, -, -, -, hkeep⟩ := hposted.keeps
    have hwf := hkeep (h.materialized hclosable.period_mem)
    have htaken := newSnapshot_takenNow hwf request hclosable.book_mem hclosable.book_entity hunique
    exact (hwf.hardClose hclosable.book_mem (hperiods ▸ hclosable.period_mem) htaken
      ⟨_, hcontrols ▸ hclosable.control_mem, hclosable.control_for⟩).congr rfl rfl rfl rfl rfl
        (Nat.le_refl _) (Nat.le_refl _)

theorem wellFormed_execute {t : Tables} (h : WellFormed dep t) (command : Command) :
    WellFormed dep (execute dep t command) := by
  rcases execute_effect h command with ⟨-, heq⟩ | ⟨-, he⟩
  · rw [heq]
    exact h
  · exact wellFormed_effect h he

/-- Every reachable state is well formed. -/
theorem wellFormed_ledgerAfter (commands : List Command) : WellFormed dep (ledgerAfter dep commands) :=
  run_monotone (P := WellFormed dep) (fun _ command h => wellFormed_execute h command)
    wellFormed_empty

end AccountingPlatform.Postgres
