/-
  Proposal records, journals, reversal lineage and receipts: what a command that writes a
  journal leaves behind, and what holds between these rows in every reachable state.

  Every record has one journal and every journal one record. A posted journal carries the
  identifier of its proposal and a receipt; a reversal carries the opposite lines of its
  original, its lineage and a receipt; a closing journal has neither lineage nor receipt.
-/
import AccountingPlatform.Postgres.AppendOnly

namespace AccountingPlatform.Postgres

open AccountingPlatform.Lib AccountingPlatform.Core

open PostingLedger (ReversalRequest)

variable (dep : Deployment)

/-! ## Opposite lines -/

/-- The same row on the opposite side. -/
def JournalEntryLine.opposite (line : JournalEntryLine) : JournalEntryLine :=
  { line with debitAmount := line.creditAmount, creditAmount := line.debitAmount }

/-- A journal's rows in line-number order. -/
def GeneralJournal.orderedLines (journal : GeneralJournal) : List JournalEntryLine :=
  journal.lines.insertionSort fun a b => a.lineNumber ≤ b.lineNumber

variable {dep}

/-- The code of a stored line leads back to the account it was inserted on. -/
theorem insertJournalLine_reads {bookId : ℕ} {line : PostedJournalLine} {row : JournalEntryLine}
    (h : insertJournalLine dep bookId line = .ok row) :
    (dep.chartAccount? row.chartAccountId).map (fun account => (⟨row.lineNumber,
      account.chartAccountCode, row.accountRoleCode, row.debitAmount, row.creditAmount⟩ :
        PostedJournalLine)) = some line := by
  obtain ⟨account, haccount, rfl, -⟩ := insertJournalLine_ok h
  obtain ⟨hmem, -, hcode, -⟩ := dep.chartAccountForCode_mem haccount
  rw [dep.chartAccount?_of_mem hmem, Option.map_some, hcode]

/-- Inserting the opposite of a stored line gives the opposite row. -/
theorem insertJournalLine_opposite {bookId : ℕ} {line : PostedJournalLine}
    {row row' : JournalEntryLine} (h : insertJournalLine dep bookId line = .ok row)
    (h' : insertJournalLine dep bookId line.opposite = .ok row') : row' = row.opposite := by
  obtain ⟨account, haccount, rfl, -⟩ := insertJournalLine_ok h
  obtain ⟨account', haccount', rfl, -⟩ := insertJournalLine_ok h'
  rw [PostedJournalLine.opposite, haccount, Option.some.injEq] at haccount'
  rw [← haccount']
  rfl

/-- Rows that were inserted read back, and inserting their opposites mirrors them. -/
theorem mirrored_rows {bookId : ℕ} {rows mirrored : List JournalEntryLine}
    (hrows : ∀ row ∈ rows, ∃ line, insertJournalLine dep bookId line = .ok row)
    (h : tryMap (insertJournalLine dep bookId) ((rows.filterMap fun row =>
      (dep.chartAccount? row.chartAccountId).map fun account =>
        ⟨row.lineNumber, account.chartAccountCode, row.accountRoleCode, row.debitAmount,
          row.creditAmount⟩).map PostedJournalLine.opposite) = .ok mirrored) :
    mirrored = rows.map JournalEntryLine.opposite := by
  induction rows generalizing mirrored with
  | nil =>
    cases h
    rfl
  | cons row rows ih =>
    obtain ⟨line, hline⟩ := hrows row List.mem_cons_self
    simp only [List.filterMap_cons, insertJournalLine_reads hline, List.map_cons, tryMap,
      bind_eq_ok, pure_eq_ok] at h
    obtain ⟨row', hrow', rest, hrest, rfl⟩ := h
    rw [insertJournalLine_opposite hline hrow',
      ih (fun r hr => hrows r (List.mem_cons_of_mem _ hr)) hrest, List.map_cons]

/-- The rows of a reversal are the opposites of its original's, in order. -/
theorem WellFormed.reversal_rows {t : Tables} (h : WellFormed dep t) {original : GeneralJournal}
    (horiginal : original ∈ t.journals) {rows : List JournalEntryLine}
    (hrows : tryMap (insertJournalLine dep original.accountingBookId)
      ((loadLines dep original).map PostedJournalLine.opposite) = .ok rows) :
    rows = original.orderedLines.map JournalEntryLine.opposite := by
  obtain ⟨posted, hposted⟩ := (h.facts original horiginal).lines
  refine mirrored_rows (fun row hrow => ?_) hrows
  obtain ⟨line, -, hline⟩ := mem_tryMap hposted ((List.mem_insertionSort _).mp hrow)
  exact ⟨line, hline⟩

/-! ## Receipts over stored rows -/

/-- The receipt of a posting: identifiers of a command, the rest from the stored rows. -/
def postedReceipt (proposalId tenantReference legalEntityReference accountingBookReference : String)
    (record : ProposalRecord) (journal : GeneralJournal) : PostingReceipt where
  receiptReference := "urn:cwl:accounting:posting_receipt:" ++ proposalId
  journalReference := PostingLedger.generalJournalReference proposalId
  postingStatusCode := "posted"
  sourceProposalId := proposalId
  sourcePayloadHash := record.sourcePayloadHash
  tenantReference := tenantReference
  legalEntityReference := legalEntityReference
  accountingBookReference := accountingBookReference
  accountingPolicyVersion := journal.accountingPolicyVersion
  postingRuleVersion := journal.postingRuleVersion
  lineCount := journal.lines.length
  reversalOfJournalReference := none

/-- The receipt of a reversal of `originalReference`. -/
def reversedReceipt (sourceProposalId tenantReference legalEntityReference accountingBookReference
    originalReference : String) (record : ProposalRecord) (journal : GeneralJournal) :
    PostingReceipt where
  receiptReference := journal.journalReference ++ ":receipt"
  journalReference := journal.journalReference
  postingStatusCode := "posted"
  sourceProposalId := sourceProposalId
  sourcePayloadHash := record.sourcePayloadHash
  tenantReference := tenantReference
  legalEntityReference := legalEntityReference
  accountingBookReference := accountingBookReference
  accountingPolicyVersion := journal.accountingPolicyVersion
  postingRuleVersion := journal.postingRuleVersion
  lineCount := journal.lines.length
  reversalOfJournalReference := some originalReference

/-- Two receipts over the same rows agree exactly when the identifiers do. -/
theorem postedReceipt_inj {id tenant entity book id' tenant' entity' book' : String}
    {record : ProposalRecord} {journal : GeneralJournal} :
    postedReceipt id tenant entity book record journal =
        postedReceipt id' tenant' entity' book' record journal ↔
      id = id' ∧ tenant = tenant' ∧ entity = entity' ∧ book = book' := by
  constructor
  · intro h
    exact ⟨congrArg PostingReceipt.sourceProposalId h, congrArg PostingReceipt.tenantReference h,
      congrArg PostingReceipt.legalEntityReference h,
      congrArg PostingReceipt.accountingBookReference h⟩
  · rintro ⟨rfl, rfl, rfl, rfl⟩
    rfl

/-! ## Commands that write a journal -/

variable (dep) in
/-- A command with the record and journal it writes, its lineage row and the receipt it
    builds. -/
inductive Booking (t : Tables) (record : ProposalRecord) (journal : GeneralJournal) :
    Command → Option JournalReversal → Option PostingReceipt → Prop
  | post {proposal : JournalProposal} {policy : AccountingPolicy}
      (hrecord : record = ⟨t.nextId, .supplied (canonicalUuid proposal.proposalId),
        proposal.idempotencyKey, proposal.sourcePayloadHash⟩)
      (hreference : journal.journalReference =
        PostingLedger.generalJournalReference proposal.proposalId)
      (hscope : ∃ entity book,
        dep.loadLegalEntity proposal.legalEntityReference "posting" = .ok entity ∧
        dep.requireBook entity.legalEntityId policy.intendedBookRoleCode
          policy.accountingBookReference = .ok book ∧
        journal.accountingBookId = book.accountingBookId) :
      Booking t record journal (.post proposal policy) none
        (some (postedReceipt proposal.proposalId proposal.tenantReference
          proposal.legalEntityReference policy.accountingBookReference record journal))
  | postProposal {proposal : JournalProposal} {bookName : String}
      (hrecord : record = ⟨t.nextId, .supplied (canonicalUuid proposal.proposalId),
        proposal.idempotencyKey, proposal.sourcePayloadHash⟩)
      (hreference : journal.journalReference =
        PostingLedger.generalJournalReference proposal.proposalId)
      (hbook : bookName? dep journal.accountingBookId = some bookName) :
      Booking t record journal (.postProposal proposal) none
        (some (postedReceipt proposal.proposalId proposal.tenantReference
          proposal.legalEntityReference bookName record journal))
  | adjusting {request : AdjustingRequest} (hid : matchesProposalId request.proposalId = true)
      (hrecord : record = ⟨t.nextId, .supplied (canonicalUuid request.proposalId),
        request.idempotencyKey, request.sourcePayloadHash⟩)
      (hreference : journal.journalReference =
        PostingLedger.generalJournalReference request.proposalId)
      (hbook : bookName? dep journal.accountingBookId = some request.accountingBookReference) :
      Booking t record journal (.postAdjustingJournal request) none
        (some (postedReceipt request.proposalId dep.catalog.tenantReference
          request.legalEntityReference request.accountingBookReference record journal))
  | reverse {request : ReversalRequest} {policy : AccountingPolicy} {original : GeneralJournal}
      {originalRecord : ProposalRecord}
      (horiginal : t.journalByReference request.journalReference = some original)
      (hfinal : ∃ r ∈ t.postingReceipts, r.generalJournalId = original.generalJournalId)
      (hnot : lineageOf? t original.generalJournalId = none)
      (hfirst : ∀ r ∈ t.reversals, r.originalJournalId ≠ original.generalJournalId)
      (horiginalRecord : t.proposalRecord? original.sourceProposalRecordId = some originalRecord)
      (hrecord : record = ⟨t.nextId, .generated t.nextId, request.commandKey,
        reversalCommandHash dep request⟩)
      (hreference : journal.journalReference = request.journalReference ++ ":reversal")
      (hscope : journal.accountingBookId = original.accountingBookId ∧
        journal.legalEntityId = original.legalEntityId)
      (hdate : journal.accountingDate = request.reversalDate)
      (hafter : original.accountingDate ≤ request.reversalDate)
      (hrows : journal.lines = original.orderedLines.map JournalEntryLine.opposite)
      (htenant : dep.catalog.tenantReference = policy.tenantReference)
      (hentity : legalEntityCode? dep original.legalEntityId = some policy.legalEntityReference)
      (hbook : bookName? dep original.accountingBookId = some policy.accountingBookReference) :
      Booking t record journal (.reverse request policy)
        (some ⟨original.generalJournalId, journal.generalJournalId, request.reversalReasonCode⟩)
        (some (reversedReceipt (originalRecord.externalProposalId.text dep) policy.tenantReference
          policy.legalEntityReference policy.accountingBookReference request.journalReference
          record journal))
  | close {request : CloseRequest} {sourcePayloadHash : String}
      (hrecord : record = ⟨t.nextId, .generated t.nextId, dep.catalog.tenantReference ++
        ":period_closing:" ++ request.periodCode ++ ":" ++ request.accountingBookReference,
        sourcePayloadHash⟩)
      (hreference : journal.journalReference = closingReference request) :
      Booking t record journal (.closeFiscalPeriod request) none none

variable (dep) in
/-- The rows of the four journal tables before and after such a command. -/
structure Booked (t : Tables) (command : Command) (record : ProposalRecord)
    (journal : GeneralJournal) (lineage : Option JournalReversal) (receipt : Option PostingReceipt)
    (t' : Tables) : Prop where
  journal_id : journal.generalJournalId = t.nextId + 1
  source : journal.sourceProposalRecordId = t.nextId
  nextId : t.nextId + 2 ≤ t'.nextId
  key_fresh : ∀ r ∈ t.proposalRecords, r.idempotencyKey ≠ record.idempotencyKey
  external_fresh : ∀ r ∈ t.proposalRecords, r.externalProposalId ≠ record.externalProposalId
  reference_fresh : ∀ j ∈ t.journals, j.journalReference ≠ journal.journalReference
  records : t'.proposalRecords = t.proposalRecords ++ [record]
  journals : t'.journals = t.journals ++ [journal]
  reversals : t'.reversals = t.reversals ++ lineage.toList
  receipts : t'.postingReceipts = t.postingReceipts ++ (receipt.map fun r =>
    (⟨record.proposalRecordId, journal.generalJournalId, r.postingStatusCode,
      canonicalReceiptHash dep r⟩ : PostingReceiptRow)).toList
  booking : Booking dep t record journal command lineage receipt

/-- The four journal tables are left alone. -/
structure Untouched (t t' : Tables) : Prop where
  records : t'.proposalRecords = t.proposalRecords
  journals : t'.journals = t.journals
  reversals : t'.reversals = t.reversals
  receipts : t'.postingReceipts = t.postingReceipts
  nextId : t.nextId ≤ t'.nextId

theorem Untouched.refl (t : Tables) : Untouched t t := ⟨rfl, rfl, rfl, rfl, Nat.le_refl _⟩

theorem Booking.record_id {t : Tables} {record : ProposalRecord} {journal : GeneralJournal}
    {command : Command} {lineage : Option JournalReversal} {receipt : Option PostingReceipt}
    (h : Booking dep t record journal command lineage receipt) :
    record.proposalRecordId = t.nextId := by
  cases h with
  | post hrecord => rw [hrecord]
  | postProposal hrecord => rw [hrecord]
  | adjusting _ hrecord => rw [hrecord]
  | reverse _ _ _ _ _ hrecord => rw [hrecord]
  | close hrecord => rw [hrecord]

/-- A generated identifier takes the next number. -/
theorem Booking.external_id {t : Tables} {record : ProposalRecord} {journal : GeneralJournal}
    {command : Command} {lineage : Option JournalReversal} {receipt : Option PostingReceipt}
    (h : Booking dep t record journal command lineage receipt) :
    (∃ id, record.externalProposalId = .supplied id) ∨
      record.externalProposalId = .generated t.nextId := by
  cases h with
  | post hrecord => exact Or.inl ⟨_, by rw [hrecord]⟩
  | postProposal hrecord => exact Or.inl ⟨_, by rw [hrecord]⟩
  | adjusting _ hrecord => exact Or.inl ⟨_, by rw [hrecord]⟩
  | reverse _ _ _ _ _ hrecord => exact Or.inr (by rw [hrecord])
  | close hrecord => exact Or.inr (by rw [hrecord])

variable (dep) in
/-- The receipt a command builds: returned, or, by an adjusting journal, only hashed. -/
def builtReceipt (t : Tables) : Command → Option PostingReceipt
  | .post proposal policy => (post dep t proposal policy).toOption.map Prod.fst
  | .postProposal proposal => (postProposal dep t proposal).toOption.map Prod.fst
  | .postAdjustingJournal request => do
    let t' ← (postAdjustingJournal dep t request).toOption
    let record ← t'.proposalRecords.getLast?
    let journal ← t'.journals.getLast?
    pure (postedReceipt request.proposalId dep.catalog.tenantReference
      request.legalEntityReference request.accountingBookReference record journal)
  | .reverse request policy => (reverse dep t request policy).toOption.map Prod.fst
  | .openFiscalPeriod _ | .closeFiscalPeriod _ => none

/-! ## What each command writes -/

/-- The record that is inserted for a new journal. -/
def NewProposalRecord.row (record : NewProposalRecord) (t : Tables) : ProposalRecord :=
  ⟨t.nextId, record.externalProposalId, record.idempotencyKey, record.sourcePayloadHash⟩

theorem RecordedJournal.booked {t t₁ t' : Tables} {record : NewProposalRecord}
    {new : ℕ → NewJournal} {journal : GeneralJournal}
    (h : RecordedJournal dep t record new journal t₁)
    (hproposal : (new t.nextId).proposalRecordId = t.nextId) {command : Command}
    {lineage : Option JournalReversal} {receipt : Option PostingReceipt}
    (hrecords : t'.proposalRecords = t₁.proposalRecords) (hjournals : t'.journals = t₁.journals)
    (hreversals : t'.reversals = t₁.reversals ++ lineage.toList)
    (hreceipts : t'.postingReceipts = t₁.postingReceipts ++ (receipt.map fun r =>
      (⟨t.nextId, journal.generalJournalId, r.postingStatusCode,
        canonicalReceiptHash dep r⟩ : PostingReceiptRow)).toList)
    (hnextId : t₁.nextId ≤ t'.nextId)
    (hbooking : Booking dep t (record.row t) journal command lineage receipt) :
    Booked dep t command (record.row t) journal lineage receipt t' := by
  obtain ⟨hin, hext, hkey⟩ := h
  have hrow := hin.row
  have htables := hin.tables
  exact {
    journal_id := by rw [hrow]; rfl
    source := by rw [hrow]; exact hproposal
    nextId := by
      rw [htables] at hnextId
      exact hnextId
    key_fresh := hkey
    external_fresh := hext
    reference_fresh := by rw [hrow]; exact hin.fresh
    records := by rw [hrecords, htables]; rfl
    journals := by rw [hjournals, htables]
    reversals := by rw [hreversals, htables]
    receipts := by rw [hreceipts, htables]; rfl
    booking := hbooking }

/-- The number of stored lines is the number of lines given. -/
theorem Inserted.line_count {t t' : Tables} {new : NewJournal} {journal : GeneralJournal}
    (h : Inserted dep t new journal t') : journal.lines.length = new.lines.length :=
  tryMap_length h.lines

/-- A posting is booked with the receipt row it writes. -/
theorem writePosting_booked {t t' : Tables} {record : NewProposalRecord} {new : ℕ → NewJournal}
    {receipt : PostingReceipt} (h : writePosting dep t record new receipt = .ok t')
    (hproposal : (new t.nextId).proposalRecordId = t.nextId) {command : Command}
    (hbooking : ∀ t₀ journal, journal = (new t.nextId).row t₀ journal.lines →
      journal.lines.length = (new t.nextId).lines.length →
      Booking dep t (record.row t) journal command none (some receipt)) :
    ∃ journal, Booked dep t command (record.row t) journal none (some receipt)
      { t' with clock := t'.clock + 1 } := by
  obtain ⟨journal, t₁, hrecorded, rfl⟩ := writePosting_ok dep h
  exact ⟨journal, hrecorded.booked hproposal rfl rfl (List.append_nil _).symm rfl (Nat.le_refl _)
    (hbooking _ journal hrecorded.inserted.row hrecorded.inserted.line_count)⟩

/-- What a posting returns, read off the rows it wrote. -/
theorem postingReceipt_rows {t t₀ : Tables} {proposal : JournalProposal} {policy : AccountingPolicy}
    {entity : LegalEntityRecord} {book : AccountingBook} {period : FiscalPeriod}
    {lines : List PostedJournalLine} {journal : GeneralJournal}
    (hrow : journal = (postingJournal proposal policy entity book period lines t.nextId).row t₀
      journal.lines) (hcount : journal.lines.length = lines.length) :
    PostingLedger.postingReceipt proposal policy lines =
      postedReceipt proposal.proposalId proposal.tenantReference proposal.legalEntityReference
        policy.accountingBookReference ((postingRecord proposal).row t) journal := by
  have hpolicy : journal.accountingPolicyVersion = policy.accountingPolicyVersion := by
    rw [hrow]; rfl
  have hrule : journal.postingRuleVersion = policy.postingRuleVersion := by
    rw [hrow]; rfl
  unfold PostingLedger.postingReceipt postedReceipt
  rw [hcount, hpolicy, hrule]
  simp only [NewProposalRecord.row, postingRecord]

theorem adjustingReceipt_rows {t t₀ : Tables} {request : AdjustingRequest}
    {policy : AccountingPolicy} {entity : LegalEntityRecord} {book : AccountingBook}
    {period : FiscalPeriod} {journal : GeneralJournal}
    (hrow : journal = (adjustingJournal request policy entity book period t.nextId).row t₀
      journal.lines) (hcount : journal.lines.length = request.lines.length) :
    adjustingReceipt dep request policy =
      postedReceipt request.proposalId dep.catalog.tenantReference request.legalEntityReference
        request.accountingBookReference ((adjustingRecord request).row t) journal := by
  have hpolicy : journal.accountingPolicyVersion = policy.accountingPolicyVersion := by
    rw [hrow]; rfl
  have hrule : journal.postingRuleVersion = policy.postingRuleVersion := by
    rw [hrow]; rfl
  unfold adjustingReceipt postedReceipt
  rw [hcount, hpolicy, hrule]
  simp only [NewProposalRecord.row, adjustingRecord]

theorem persistProposal_booked {t t' : Tables} {proposal : JournalProposal}
    {suppliedPolicy : Option AccountingPolicy} {receipt : PostingReceipt} {command : Command}
    (h : persistProposal dep t proposal suppliedPolicy = .ok (receipt, t'))
    (hbooking : ∀ (policy : AccountingPolicy) (book : AccountingBook) (journal : GeneralJournal),
      postingPolicy dep t proposal suppliedPolicy = .ok policy →
      (∃ entity, dep.loadLegalEntity proposal.legalEntityReference "posting" = .ok entity ∧
        dep.requireBook entity.legalEntityId policy.intendedBookRoleCode
          policy.accountingBookReference = .ok book) →
      validatePolicyScope proposal policy = .ok () →
      journal.accountingBookId = book.accountingBookId →
      journal.journalReference = PostingLedger.generalJournalReference proposal.proposalId →
      Booking dep t ((postingRecord proposal).row t) journal command none
        (some (postedReceipt proposal.proposalId proposal.tenantReference
          proposal.legalEntityReference policy.accountingBookReference
          ((postingRecord proposal).row t) journal))) :
    (t' = t ∧ ∃ prior, t.proposalRecordByKey proposal.idempotencyKey = some prior ∧
      prior.sourcePayloadHash = proposal.sourcePayloadHash ∧
      receiptForIdempotencyKey dep t proposal = .ok receipt) ∨
    (t.proposalRecordByKey proposal.idempotencyKey = none ∧
    ∃ journal, Booked dep t command ((postingRecord proposal).row t) journal none (some receipt)
      { t' with clock := t'.clock + 1 }) := by
  rcases persistProposal_ok dep h with ⟨prior, hprior, hhash, hreceipt, rfl⟩ | ⟨hnone, hfresh⟩
  · exact Or.inl ⟨rfl, prior, hprior, hhash, hreceipt⟩
  · obtain ⟨policy, entity, book, period, lines, hposting, rfl, hwrite⟩ :=
      persistFreshProposal_ok dep hfresh
    refine Or.inr ⟨hnone, writePosting_booked hwrite rfl fun t₀ journal hrow hcount => ?_⟩
    rw [postingReceipt_rows hrow hcount]
    exact hbooking policy book journal hposting.policy_eq ⟨entity, hposting.entity_eq,
      hposting.book_eq⟩ hposting.scope (by rw [hrow]; rfl)
      (by rw [hrow]; simp only [NewJournal.row, postingJournal])

/-- A book of the catalog is found by its key, so its name is. -/
theorem bookName?_of_mem {book : AccountingBook} (h : book ∈ dep.catalog.books) :
    bookName? dep book.accountingBookId = some book.bookName := by
  rw [bookName?, book?, find?_of_nodup_map dep.catalog.book_key h, Option.map_some]

/-- The policy the catalog resolves names the book the journal goes to. -/
theorem resolveAccountingPolicy_book {t : Tables} {proposal : JournalProposal}
    {policy : AccountingPolicy} (h : resolveAccountingPolicy dep t proposal = .ok policy)
    {entity : LegalEntityRecord} {book : AccountingBook}
    (hentity : dep.loadLegalEntity proposal.legalEntityReference "posting" = .ok entity)
    (hbook : dep.requireBook entity.legalEntityId policy.intendedBookRoleCode
      policy.accountingBookReference = .ok book) :
    bookName? dep book.accountingBookId = some policy.accountingBookReference := by
  simp only [resolveAccountingPolicy, bind_eq_ok] at h
  obtain ⟨_, -, entity', hentity', book', hbook', period, -, ⟨mapping, versions⟩, -, hbuild⟩ := h
  have hfields := AccountingPolicy.build_fields hbuild
  rw [hentity, Except.ok.injEq] at hentity'
  subst hentity'
  have hrole : policy.intendedBookRoleCode = proposal.intendedBookRoleCode := by rw [hfields]
  have hname : policy.accountingBookReference = book'.bookName := by rw [hfields]
  simp only [Deployment.requireBook, fetch_eq_ok, hrole] at hbook
  simp only [Deployment.requireBookForRole, fetch_eq_ok, hbook, Option.some.injEq] at hbook'
  have hmem := dep.fetchone_mem hbook
  simp only [Deployment.booksForRole, List.mem_filter, decide_eq_true_eq] at hmem
  rw [hname, ← hbook']
  exact bookName?_of_mem hmem.1

theorem postAdjustingJournal_booked {t t' : Tables} {request : AdjustingRequest}
    (h : postAdjustingJournal dep t request = .ok t') :
    t' = t ∨ ∃ record journal, Booked dep t (.postAdjustingJournal request) record journal none
      (builtReceipt dep t (.postAdjustingJournal request)) { t' with clock := t'.clock + 1 } := by
  rcases postAdjustingJournal_ok dep h with ⟨prior, -, rfl⟩ |
    ⟨-, hid, policy, entity, book, period, hfresh, hwrite⟩
  · exact Or.inl rfl
  · obtain ⟨-, -, hbook, -, hname, -⟩ := dep.loadScope_ok hfresh.scope
    obtain ⟨journal, t₁, hrecorded, ht'⟩ := writePosting_ok dep hwrite
    have hrow := hrecorded.inserted.row
    have hreceipt := @adjustingReceipt_rows dep _ _ _ _ _ _ _ _ hrow hrecorded.inserted.line_count
    have hbooked : Booked dep t (.postAdjustingJournal request) ((adjustingRecord request).row t)
        journal none (some (adjustingReceipt dep request policy))
        { t' with clock := t'.clock + 1 } := by
      subst ht'
      refine hrecorded.booked rfl rfl rfl (List.append_nil _).symm rfl (Nat.le_refl _) ?_
      rw [hreceipt]
      refine .adjusting hid rfl ?_ ?_
      · rw [hrow]
        simp only [NewJournal.row, adjustingJournal]
      · have hjournal : journal.accountingBookId = book.accountingBookId := by rw [hrow]; rfl
        rw [hjournal, bookName?_of_mem hbook, hname]
    have hbuilt : builtReceipt dep t (.postAdjustingJournal request) =
        some (adjustingReceipt dep request policy) := by
      have hrecords : t'.proposalRecords = _ := hbooked.records
      have hjournals : t'.journals = _ := hbooked.journals
      simp only [builtReceipt, h, Except.toOption, hrecords, hjournals, List.getLast?_append,
        List.getLast?_singleton, Option.some_or, Option.bind_eq_bind, Option.bind_some]
      exact congrArg some hreceipt.symm
    exact Or.inr ⟨_, journal, hbuilt ▸ hbooked⟩

/-- What a fresh reversal returns, read off the rows it wrote. -/
theorem reversalReceipt_rows {t t₀ : Tables} {request : ReversalRequest} {policy : AccountingPolicy}
    {original : GeneralJournal} {period : FiscalPeriod} {journal : GeneralJournal}
    (hrow : journal = (newReversalJournal dep request policy original period t.nextId).row t₀
      journal.lines) (hcount : journal.lines.length = (loadLines dep original).length)
    (sourceProposalId : String) :
    reversalReceipt dep request policy sourceProposalId (loadLines dep original).length =
      reversedReceipt sourceProposalId policy.tenantReference policy.legalEntityReference
        policy.accountingBookReference request.journalReference
        ((reversalRecord dep t request).row t) journal := by
  have hreference : journal.journalReference = request.journalReference ++ ":reversal" := by
    rw [hrow]
    simp only [NewJournal.row, newReversalJournal]
  have hpolicy : journal.accountingPolicyVersion = policy.accountingPolicyVersion := by
    rw [hrow]; rfl
  have hrule : journal.postingRuleVersion = policy.postingRuleVersion := by
    rw [hrow]; rfl
  unfold reversalReceipt reversedReceipt
  rw [hcount, hpolicy, hrule, hreference]
  simp only [NewProposalRecord.row, reversalRecord]

theorem reverse_booked {t t' : Tables} (hwf : WellFormed dep t) {request : ReversalRequest}
    {policy : AccountingPolicy} {receipt : PostingReceipt}
    (h : reverse dep t request policy = .ok (receipt, t')) :
    (t' = t ∧ ∃ existing, existingReversal t request.journalReference = some existing ∧
      replayReversal dep t request existing = .ok receipt) ∨
    (existingReversal t request.journalReference = none ∧ ∃ record journal lineage,
      Booked dep t (.reverse request policy) record journal (some lineage) (some receipt)
        { t' with clock := t'.clock + 1 }) := by
  rcases reverse_ok dep h with ⟨existing, hexisting, hreplay, rfl⟩ |
    ⟨original, period, originalRecord, journal, t₁, hfresh, rfl, hrecorded, hfinal, hunique, rfl⟩
  · exact Or.inl ⟨rfl, existing, hexisting, hreplay⟩
  · obtain ⟨horiginal, hnot, hafter, htenant, hentity, hbook⟩ :=
      reversibleJournal_ok dep hfresh.original_eq
    have hmem : original ∈ t.journals := List.mem_of_find?_eq_some horiginal
    have hrow := hrecorded.inserted.row
    have htables := hrecorded.inserted.tables
    have hcount : journal.lines.length = (loadLines dep original).length := by
      rw [hrecorded.inserted.line_count]
      simp only [newReversalJournal, List.length_map]
    refine Or.inr ⟨hfresh.unreversed, _, journal, _, hrecorded.booked rfl rfl rfl rfl rfl
      (Nat.le_refl _) ?_⟩
    rw [reversalReceipt_rows hrow hcount]
    refine .reverse horiginal ?_ hnot (fun r hr => ?_) hfresh.record_eq rfl ?_ ⟨?_, ?_⟩ ?_ hafter ?_
      htenant hentity hbook
    · rw [htables] at hfinal
      exact hfinal
    · rw [htables] at hunique
      exact (hunique r hr).1
    · rw [hrow]
      simp only [NewJournal.row, newReversalJournal]
    · rw [hrow]; rfl
    · rw [hrow]; rfl
    · rw [hrow]; rfl
    · exact hwf.reversal_rows hmem hrecorded.inserted.lines

theorem postClosingJournal_booked {t t' : Tables} {request : CloseRequest}
    {entity : LegalEntityRecord} {book : AccountingBook} {period : FiscalPeriod}
    {posted : Option GeneralJournal}
    (h : postClosingJournal dep t request entity book period = .ok (posted, t')) :
    (posted = none ∧ t' = t) ∨ ∃ record journal, posted = some journal ∧
      Booked dep t (.closeFiscalPeriod request) record journal none none t' := by
  rcases postClosingJournal_ok dep h with ⟨-, rfl, rfl⟩ | ⟨policy, journal, rfl, -, hrecorded⟩
  · exact Or.inl ⟨rfl, rfl⟩
  · refine Or.inr ⟨_, journal, rfl, hrecorded.booked rfl rfl rfl (List.append_nil _).symm
      (List.append_nil _).symm (Nat.le_refl _) (.close rfl ?_)⟩
    rw [hrecorded.inserted.row]
    simp only [NewJournal.row, newClosingJournal]

/-! ## One command -/

/-- A closing journal is booked by the whole close: locking and the snapshot touch none of the
    four tables. -/
theorem Booked.close {t t₁ t₂ t' : Tables} {request : CloseRequest} {record : ProposalRecord}
    {journal : GeneralJournal}
    (h : Booked dep t₁ (.closeFiscalPeriod request) record journal none none t₂)
    (hbefore : Untouched t t₁) (hid : t₁.nextId = t.nextId) (hafter : Untouched t₂ t') :
    Booked dep t (.closeFiscalPeriod request) record journal none none t' where
  journal_id := by rw [← hid]; exact h.journal_id
  source := by rw [← hid]; exact h.source
  nextId := by rw [← hid]; exact h.nextId.trans hafter.nextId
  key_fresh := by rw [← hbefore.records]; exact h.key_fresh
  external_fresh := by rw [← hbefore.records]; exact h.external_fresh
  reference_fresh := by rw [← hbefore.journals]; exact h.reference_fresh
  records := by rw [hafter.records, h.records, hbefore.records]
  journals := by rw [hafter.journals, h.journals, hbefore.journals]
  reversals := by rw [hafter.reversals, h.reversals, hbefore.reversals]
  receipts := by rw [hafter.receipts, h.receipts, hbefore.receipts]
  booking := by
    cases h.booking with
    | close hrecord hreference => exact .close (hid ▸ hrecord) hreference

theorem closeFiscalPeriod_booked {t t' : Tables} {request : CloseRequest}
    {receipt : PeriodCloseReceipt} (h : closeFiscalPeriod dep t request = .ok (receipt, t')) :
    Untouched t t' ∨ ∃ record journal,
      Booked dep t (.closeFiscalPeriod request) record journal none none
        { t' with clock := t'.clock + 1 } := by
  obtain ⟨entity, book, period, control, t₁, hlocked, hcases⟩ := closeFiscalPeriod_ok dep h
  obtain ⟨-, rfl, -⟩ := lockBookPeriod_ok dep hlocked.lock
  rcases hcases with ⟨-, rfl⟩ | ⟨-, -, hsoft⟩ | ⟨-, -, -, hhard⟩
  · exact Or.inl ⟨rfl, rfl, rfl, rfl, Nat.le_refl _⟩
  · obtain ⟨evidence, payloadHash, rfl⟩ := persistSoftClose_ok dep hsoft
    exact Or.inl ⟨rfl, rfl, rfl, rfl, Nat.le_refl _⟩
  · obtain ⟨posted, t₂, hposted, -, snapshotId, payloadHash, rfl⟩ := persistPeriodClose_ok dep hhard
    rcases postClosingJournal_booked hposted with ⟨-, rfl⟩ | ⟨record, journal, -, hbooked⟩
    · exact Or.inl ⟨rfl, rfl, rfl, rfl, Nat.le_succ _⟩
    · exact Or.inr ⟨record, journal, hbooked.close ⟨rfl, rfl, rfl, rfl, Nat.le_refl _⟩ rfl
        ⟨rfl, rfl, rfl, rfl, Nat.le_succ _⟩⟩

/-- A command leaves the four tables alone or books one journal, with the receipt it builds. -/
theorem execute_booked {t : Tables} (hwf : WellFormed dep t) (command : Command) :
    Untouched t (execute dep t command) ∨ ∃ record journal lineage,
      Booked dep t command record journal lineage (builtReceipt dep t command)
        (execute dep t command) := by
  cases ha : attempt dep t command with
  | error e =>
    rw [execute_of_error dep ha]
    exact Or.inl (Untouched.refl t)
  | ok t' =>
    rw [execute_of_ok dep ha]
    cases command with
    | openFiscalPeriod request =>
      obtain ⟨⟨document, t''⟩, hok, rfl⟩ := map_eq_ok.mp ha
      rcases openFiscalPeriod_ok dep hok with rfl | ⟨command, rfl | ⟨period, -, -, -, rfl⟩⟩
      · exact Or.inl ⟨rfl, rfl, rfl, rfl, Nat.le_refl _⟩
      · exact Or.inl ⟨rfl, rfl, rfl, rfl, Nat.le_refl _⟩
      · exact Or.inl ⟨rfl, rfl, rfl, rfl, Nat.le_succ _⟩
    | post proposal policy =>
      obtain ⟨⟨receipt, t''⟩, hok, rfl⟩ := map_eq_ok.mp ha
      simp only [builtReceipt, hok, Except.toOption, Option.map_some]
      rcases persistProposal_booked hok fun policy' book _ hpolicy hbook _ hid hreference => by
        cases hpolicy
        obtain ⟨entity, hentity, hbook⟩ := hbook
        exact .post rfl hreference ⟨entity, book, hentity, hbook, hid⟩ with
          ⟨rfl, -⟩ | ⟨-, journal, hbooked⟩
      · exact Or.inl ⟨rfl, rfl, rfl, rfl, Nat.le_refl _⟩
      · exact Or.inr ⟨_, _, _, hbooked⟩
    | postProposal proposal =>
      obtain ⟨⟨receipt, t''⟩, hok, rfl⟩ := map_eq_ok.mp ha
      simp only [builtReceipt, hok, Except.toOption, Option.map_some]
      rcases persistProposal_booked hok fun policy' book _ hpolicy hbook _ hid hreference => by
        obtain ⟨entity, hentity, hbook⟩ := hbook
        exact .postProposal rfl hreference (hid ▸
          resolveAccountingPolicy_book hpolicy hentity hbook) with ⟨rfl, -⟩ | ⟨-, journal, hbooked⟩
      · exact Or.inl ⟨rfl, rfl, rfl, rfl, Nat.le_refl _⟩
      · exact Or.inr ⟨_, _, _, hbooked⟩
    | postAdjustingJournal request =>
      rcases postAdjustingJournal_booked ha with rfl | ⟨record, journal, hbooked⟩
      · exact Or.inl ⟨rfl, rfl, rfl, rfl, Nat.le_refl _⟩
      · exact Or.inr ⟨_, _, _, hbooked⟩
    | reverse request policy =>
      obtain ⟨⟨receipt, t''⟩, hok, rfl⟩ := map_eq_ok.mp ha
      simp only [builtReceipt, hok, Except.toOption, Option.map_some]
      rcases reverse_booked hwf hok with ⟨rfl, -⟩ | ⟨-, record, journal, lineage, hbooked⟩
      · exact Or.inl ⟨rfl, rfl, rfl, rfl, Nat.le_refl _⟩
      · exact Or.inr ⟨_, _, _, hbooked⟩
    | closeFiscalPeriod request =>
      obtain ⟨⟨receipt, t''⟩, hok, rfl⟩ := map_eq_ok.mp ha
      rcases closeFiscalPeriod_booked hok with h | ⟨record, journal, hbooked⟩
      · exact Or.inl ⟨h.records, h.journals, h.reversals, h.receipts, h.nextId⟩
      · exact Or.inr ⟨_, _, _, hbooked⟩

/-! ## Between the tables -/

/-- Where a journal comes from: its record, and what its kind adds. -/
inductive Provenance (t : Tables) (journal : GeneralJournal) (record : ProposalRecord) : Prop
  | posted {id : String} (hid : matchesProposalId id = true)
      (hreference : journal.journalReference = PostingLedger.generalJournalReference id)
      (hexternal : record.externalProposalId = .supplied (canonicalUuid id))
      (hfinal : ∃ r ∈ t.postingReceipts, r.generalJournalId = journal.generalJournalId)
      (hnot : ∀ r ∈ t.reversals, r.reversalJournalId ≠ journal.generalJournalId)
  | reversal {lineage : JournalReversal} {original : GeneralJournal} {id : String}
      (hlineage : lineage ∈ t.reversals) (hof : lineage.reversalJournalId = journal.generalJournalId)
      (horiginal : original ∈ t.journals)
      (hfrom : lineage.originalJournalId = original.generalJournalId)
      (hid : matchesProposalId id = true)
      (horiginalReference : original.journalReference = PostingLedger.generalJournalReference id)
      (hreference : journal.journalReference = original.journalReference ++ ":reversal")
      (hscope : journal.accountingBookId = original.accountingBookId ∧
        journal.legalEntityId = original.legalEntityId)
      (hafter : original.accountingDate ≤ journal.accountingDate)
      (hrows : journal.lines = original.orderedLines.map JournalEntryLine.opposite)
      (hfirst : ∀ r ∈ t.reversals, r.reversalJournalId ≠ original.generalJournalId)
      (hfinal : ∃ r ∈ t.postingReceipts, r.generalJournalId = journal.generalJournalId)
  | closing (hreference : isClosingReference journal.journalReference = true)
      (hopen : ∀ r ∈ t.postingReceipts, r.generalJournalId ≠ journal.generalJournalId)
      (hnot : ∀ r ∈ t.reversals, r.reversalJournalId ≠ journal.generalJournalId ∧
        r.originalJournalId ≠ journal.generalJournalId)

structure PostingsKept (t : Tables) : Prop where
  record_keys : (t.proposalRecords.map ProposalRecord.proposalRecordId).Nodup
  record_lt : ∀ r ∈ t.proposalRecords, r.proposalRecordId < t.nextId
  command_keys : (t.proposalRecords.map ProposalRecord.idempotencyKey).Nodup
  external_keys : (t.proposalRecords.map ProposalRecord.externalProposalId).Nodup
  generated_lt : ∀ r ∈ t.proposalRecords, ∀ n, r.externalProposalId = .generated n → n < t.nextId
  source_keys : (t.journals.map GeneralJournal.sourceProposalRecordId).Nodup
  sourced : ∀ r ∈ t.proposalRecords, ∃ j ∈ t.journals, j.sourceProposalRecordId = r.proposalRecordId
  provenance : ∀ j ∈ t.journals, ∃ r ∈ t.proposalRecords,
    r.proposalRecordId = j.sourceProposalRecordId ∧ Provenance t j r
  original_keys : (t.reversals.map JournalReversal.originalJournalId).Nodup
  reversal_keys : (t.reversals.map JournalReversal.reversalJournalId).Nodup
  lineage : ∀ r ∈ t.reversals, (∃ j ∈ t.journals, j.generalJournalId = r.reversalJournalId) ∧
    ∃ j ∈ t.journals, j.generalJournalId = r.originalJournalId
  receipt_of : ∀ r ∈ t.postingReceipts, ∃ j ∈ t.journals,
    j.generalJournalId = r.generalJournalId ∧ j.sourceProposalRecordId = r.proposalRecordId

theorem postingsKept_empty : PostingsKept Tables.empty where
  record_keys := List.nodup_nil
  record_lt := fun _ h => nomatch h
  command_keys := List.nodup_nil
  external_keys := List.nodup_nil
  generated_lt := fun _ h => nomatch h
  source_keys := List.nodup_nil
  sourced := fun _ h => nomatch h
  provenance := fun _ h => nomatch h
  original_keys := List.nodup_nil
  reversal_keys := List.nodup_nil
  lineage := fun _ h => nomatch h
  receipt_of := fun _ h => nomatch h

/-- Rows about other journals do not change where a journal comes from. -/
theorem Provenance.grow {t t' : Tables} {journal : GeneralJournal} {record : ProposalRecord}
    (h : Provenance t journal record) (hjournals : ∀ j ∈ t.journals, j ∈ t'.journals)
    (hold : ∀ r ∈ t.reversals, r ∈ t'.reversals)
    (hreversals : ∀ r ∈ t'.reversals, r ∈ t.reversals ∨
      (∀ j ∈ t.journals, r.reversalJournalId ≠ j.generalJournalId) ∧
        ∃ p ∈ t.postingReceipts, p.generalJournalId = r.originalJournalId)
    (hreceipts : ∀ r ∈ t.postingReceipts, r ∈ t'.postingReceipts)
    (hnew : ∀ r ∈ t'.postingReceipts, r ∈ t.postingReceipts ∨
      ∀ j ∈ t.journals, r.generalJournalId ≠ j.generalJournalId)
    (hmem : journal ∈ t.journals) : Provenance t' journal record := by
  have hlineage : ∀ j ∈ t.journals, (∀ r ∈ t.reversals, r.reversalJournalId ≠ j.generalJournalId) →
      ∀ r ∈ t'.reversals, r.reversalJournalId ≠ j.generalJournalId := by
    intro j hj hno r hr
    rcases hreversals r hr with hr | ⟨hr, -⟩
    · exact hno r hr
    · exact hr j hj
  cases h with
  | posted hid hreference hexternal hfinal hnot =>
    obtain ⟨r, hr, hrj⟩ := hfinal
    exact .posted hid hreference hexternal ⟨r, hreceipts r hr, hrj⟩ (hlineage journal hmem hnot)
  | reversal hl hof horiginal hfrom hid horef href hscope hafter hrows hfirst hfinal =>
    obtain ⟨r, hr, hrj⟩ := hfinal
    exact .reversal (hold _ hl) hof (hjournals _ horiginal) hfrom hid horef href hscope hafter hrows
      (hlineage _ horiginal hfirst) ⟨r, hreceipts r hr, hrj⟩
  | closing hreference hopen hnot =>
    refine .closing hreference (fun r hr => ?_) (fun r hr => ?_)
    · rcases hnew r hr with hr | hr
      · exact hopen r hr
      · exact hr journal hmem
    · rcases hreversals r hr with hr | ⟨hr, p, hp, hpo⟩
      · exact hnot r hr
      · exact ⟨hr journal hmem, fun heq => hopen p hp (hpo.trans heq)⟩

theorem PostingsKept.untouched {t t' : Tables} (h : PostingsKept t) (hu : Untouched t t') :
    PostingsKept t' where
  record_keys := by rw [hu.records]; exact h.record_keys
  record_lt := by rw [hu.records]; exact fun r hr => (h.record_lt r hr).trans_le hu.nextId
  command_keys := by rw [hu.records]; exact h.command_keys
  external_keys := by rw [hu.records]; exact h.external_keys
  generated_lt := by
    rw [hu.records]
    exact fun r hr n hn => (h.generated_lt r hr n hn).trans_le hu.nextId
  source_keys := by rw [hu.journals]; exact h.source_keys
  sourced := by rw [hu.records, hu.journals]; exact h.sourced
  provenance := by
    rw [hu.records, hu.journals]
    intro j hj
    obtain ⟨r, hr, hid, hprov⟩ := h.provenance j hj
    refine ⟨r, hr, hid, hprov.grow ?_ ?_ ?_ ?_ ?_ hj⟩
    · rw [hu.journals]; exact fun _ h => h
    · rw [hu.reversals]; exact fun _ h => h
    · rw [hu.reversals]; exact fun _ h => Or.inl h
    · rw [hu.receipts]; exact fun _ h => h
    · rw [hu.receipts]; exact fun _ h => Or.inl h
  original_keys := by rw [hu.reversals]; exact h.original_keys
  reversal_keys := by rw [hu.reversals]; exact h.reversal_keys
  lineage := by rw [hu.reversals, hu.journals]; exact h.lineage
  receipt_of := by rw [hu.receipts, hu.journals]; exact h.receipt_of

/-- What keeps the provenance of older journals when one more is booked. -/
theorem Booked.grows {t t' : Tables} (hwf : WellFormed dep t) {command : Command}
    {record : ProposalRecord} {journal : GeneralJournal} {lineage : Option JournalReversal}
    {receipt : Option PostingReceipt} (hb : Booked dep t command record journal lineage receipt t')
    {j : GeneralJournal} (hj : j ∈ t.journals) {r : ProposalRecord} (h : Provenance t j r) :
    Provenance t' j r := by
  have hne : ∀ j ∈ t.journals, journal.generalJournalId ≠ j.generalJournalId := by
    intro j hj
    have := hwf.journal_lt j hj
    rw [hb.journal_id]
    omega
  refine h.grow ?_ ?_ ?_ ?_ ?_ hj
  · rw [hb.journals]
    exact fun j hj => List.mem_append_left _ hj
  · rw [hb.reversals]
    exact fun r hr => List.mem_append_left _ hr
  · rw [hb.reversals]
    intro r hr
    rcases List.mem_append.mp hr with hr | hr
    · exact Or.inl hr
    · refine Or.inr ?_
      rw [Option.mem_toList] at hr
      cases hb.booking with
      | reverse _ hfinal =>
        cases hr
        exact ⟨hne, hfinal⟩
      | _ => cases hr
  · rw [hb.receipts]
    exact fun r hr => List.mem_append_left _ hr
  · rw [hb.receipts]
    intro r hr
    rcases List.mem_append.mp hr with hr | hr
    · exact Or.inl hr
    · rw [Option.mem_toList, Option.map_eq_some_iff] at hr
      obtain ⟨_, -, rfl⟩ := hr
      exact Or.inr hne

/-- The original of a reversal was posted: it has a receipt and no lineage of its own. -/
theorem PostingsKept.original_posted {t : Tables} (h : PostingsKept t) {original : GeneralJournal}
    (horiginal : original ∈ t.journals)
    (hfinal : ∃ r ∈ t.postingReceipts, r.generalJournalId = original.generalJournalId)
    (hnot : lineageOf? t original.generalJournalId = none) :
    ∃ record ∈ t.proposalRecords, record.proposalRecordId = original.sourceProposalRecordId ∧
      ∃ id, matchesProposalId id = true ∧
        original.journalReference = PostingLedger.generalJournalReference id ∧
        record.externalProposalId = .supplied (canonicalUuid id) ∧
        ∀ r ∈ t.reversals, r.reversalJournalId ≠ original.generalJournalId := by
  obtain ⟨record, hrecord, hid, hprov⟩ := h.provenance original horiginal
  refine ⟨record, hrecord, hid, ?_⟩
  cases hprov with
  | posted hid hreference hexternal _ hno => exact ⟨_, hid, hreference, hexternal, hno⟩
  | reversal hlineage hof =>
    rw [lineageOf?, List.find?_eq_none] at hnot
    exact absurd (by simpa using hof) (hnot _ hlineage)
  | closing _ hopen =>
    obtain ⟨r, hr, heq⟩ := hfinal
    exact absurd heq (hopen r hr)

/-- The new journal has the provenance of its command. -/
theorem Booked.provenance {t t' : Tables} (hwf : WellFormed dep t) (h : PostingsKept t)
    {command : Command} {record : ProposalRecord} {journal : GeneralJournal}
    {lineage : Option JournalReversal} {receipt : Option PostingReceipt}
    (hb : Booked dep t command record journal lineage receipt t') : Provenance t' journal record := by
  have hold : ∀ r ∈ t.reversals, r.reversalJournalId ≠ journal.generalJournalId ∧
      r.originalJournalId ≠ journal.generalJournalId := by
    intro r hr
    obtain ⟨⟨j, hj, hid⟩, o, ho, hoid⟩ := h.lineage r hr
    have hjlt := hwf.journal_lt j hj
    have holt := hwf.journal_lt o ho
    rw [hb.journal_id, ← hid, ← hoid]
    omega
  have hfinal : ∀ built, receipt = some built →
      ∃ r ∈ t'.postingReceipts, r.generalJournalId = journal.generalJournalId := by
    rintro built rfl
    rw [hb.receipts]
    exact ⟨_, List.mem_append_right _ List.mem_cons_self, rfl⟩
  have hplain : lineage = none →
      ∀ r ∈ t'.reversals, r.reversalJournalId ≠ journal.generalJournalId := by
    rintro rfl
    rw [hb.reversals, Option.toList_none, List.append_nil]
    exact fun r hr => (hold r hr).1
  have hbooking := hb.booking
  cases hbooking with
  | @post proposal _ hrecord hreference =>
    exact .posted proposal.proposalId_matches hreference (by rw [hrecord]) (hfinal _ rfl) (hplain rfl)
  | @postProposal proposal _ hrecord hreference =>
    exact .posted proposal.proposalId_matches hreference (by rw [hrecord]) (hfinal _ rfl) (hplain rfl)
  | adjusting hid hrecord hreference =>
    exact .posted hid hreference (by rw [hrecord]) (hfinal _ rfl) (hplain rfl)
  | @reverse request policy original originalRecord horiginal hofinal hnot _ _ _ hreference hscope
      hdate hafter hrows =>
    have hmem : original ∈ t.journals := List.mem_of_find?_eq_some horiginal
    have href : original.journalReference = request.journalReference := by
      simpa using List.find?_some horiginal
    obtain ⟨record', -, -, id, hid, horef, -, hno⟩ := h.original_posted hmem hofinal hnot
    refine @Provenance.reversal _ _ _ ⟨original.generalJournalId, journal.generalJournalId,
      request.reversalReasonCode⟩ original id ?_ rfl ?_ rfl hid horef (href ▸ hreference) hscope
      (hdate ▸ hafter) hrows ?_ (hfinal _ rfl)
    · rw [hb.reversals]
      exact List.mem_append_right _ List.mem_cons_self
    · rw [hb.journals]
      exact List.mem_append_left _ hmem
    · rw [hb.reversals]
      intro r hr
      rcases List.mem_append.mp hr with hr | hr
      · exact hno r hr
      · rw [Option.mem_toList] at hr
        cases hr
        have hlt := hwf.journal_lt original hmem
        have hid' := hb.journal_id
        show journal.generalJournalId ≠ original.generalJournalId
        omega
  | @close request _ _ hreference =>
    refine .closing (hreference ▸ closingReference_closing request) ?_ ?_
    · rw [hb.receipts, Option.map_none, Option.toList_none, List.append_nil]
      intro r hr
      obtain ⟨j, hj, hid, -⟩ := h.receipt_of r hr
      have := hwf.journal_lt j hj
      rw [hb.journal_id, ← hid]
      omega
    · rw [hb.reversals, Option.toList_none, List.append_nil]
      exact hold

theorem PostingsKept.booked {t t' : Tables} (hwf : WellFormed dep t) (h : PostingsKept t)
    {command : Command} {record : ProposalRecord} {journal : GeneralJournal}
    {lineage : Option JournalReversal} {receipt : Option PostingReceipt}
    (hb : Booked dep t command record journal lineage receipt t') : PostingsKept t' where
  record_keys := by
    rw [hb.records]
    refine nodup_concat_map h.record_keys fun r hr => ?_
    rw [hb.booking.record_id]
    exact (h.record_lt r hr).ne
  record_lt := by
    rw [hb.records]
    intro r hr
    have hnext := hb.nextId
    rcases List.mem_append.mp hr with hr | hr
    · have := h.record_lt r hr
      omega
    · rw [List.mem_singleton.mp hr, hb.booking.record_id]
      omega
  command_keys := by
    rw [hb.records]
    exact nodup_concat_map h.command_keys hb.key_fresh
  external_keys := by
    rw [hb.records]
    exact nodup_concat_map h.external_keys hb.external_fresh
  generated_lt := by
    rw [hb.records]
    intro r hr n hn
    have hnext := hb.nextId
    rcases List.mem_append.mp hr with hr | hr
    · have := h.generated_lt r hr n hn
      omega
    · rw [List.mem_singleton.mp hr] at hn
      rcases hb.booking.external_id with ⟨_, hsupplied⟩ | hgenerated
      · rw [hsupplied] at hn
        cases hn
      · rw [hgenerated, ExternalProposalId.generated.injEq] at hn
        omega
  source_keys := by
    rw [hb.journals]
    refine nodup_concat_map h.source_keys fun j hj => ?_
    obtain ⟨r, hr, hid, -⟩ := h.provenance j hj
    rw [hb.source, ← hid]
    exact (h.record_lt r hr).ne
  sourced := by
    rw [hb.records, hb.journals]
    intro r hr
    rcases List.mem_append.mp hr with hr | hr
    · obtain ⟨j, hj, hid⟩ := h.sourced r hr
      exact ⟨j, List.mem_append_left _ hj, hid⟩
    · refine ⟨journal, List.mem_append_right _ List.mem_cons_self, ?_⟩
      rw [List.mem_singleton.mp hr, hb.source, hb.booking.record_id]
  provenance := by
    rw [hb.records, hb.journals]
    intro j hj
    rcases List.mem_append.mp hj with hj | hj
    · obtain ⟨r, hr, hid, hprov⟩ := h.provenance j hj
      exact ⟨r, List.mem_append_left _ hr, hid, hb.grows hwf hj hprov⟩
    · rw [List.mem_singleton.mp hj]
      exact ⟨record, List.mem_append_right _ List.mem_cons_self,
        hb.booking.record_id.trans hb.source.symm, hb.provenance hwf h⟩
  original_keys := by
    rw [hb.reversals]
    cases hb.booking with
    | reverse _ _ _ hfirst => exact nodup_concat_map h.original_keys hfirst
    | _ => rw [Option.toList_none, List.append_nil]; exact h.original_keys
  reversal_keys := by
    rw [hb.reversals]
    cases hb.booking with
    | reverse =>
      refine nodup_concat_map h.reversal_keys fun r hr => ?_
      obtain ⟨⟨j, hj, hid⟩, -⟩ := h.lineage r hr
      have hlt := hwf.journal_lt j hj
      have hnew := hb.journal_id
      show r.reversalJournalId ≠ journal.generalJournalId
      omega
    | _ => rw [Option.toList_none, List.append_nil]; exact h.reversal_keys
  lineage := by
    rw [hb.reversals, hb.journals]
    intro r hr
    rcases List.mem_append.mp hr with hr | hr
    · obtain ⟨⟨j, hj, hid⟩, o, ho, hoid⟩ := h.lineage r hr
      exact ⟨⟨j, List.mem_append_left _ hj, hid⟩, o, List.mem_append_left _ ho, hoid⟩
    · cases hb.booking with
      | reverse horiginal =>
        rw [Option.toList_some, List.mem_singleton] at hr
        subst hr
        exact ⟨⟨journal, List.mem_append_right _ List.mem_cons_self, rfl⟩, _,
          List.mem_append_left _ (List.mem_of_find?_eq_some horiginal), rfl⟩
      | _ => cases hr
  receipt_of := by
    rw [hb.receipts, hb.journals]
    intro r hr
    rcases List.mem_append.mp hr with hr | hr
    · obtain ⟨j, hj, hids⟩ := h.receipt_of r hr
      exact ⟨j, List.mem_append_left _ hj, hids⟩
    · rw [Option.mem_toList, Option.map_eq_some_iff] at hr
      obtain ⟨_, -, rfl⟩ := hr
      exact ⟨journal, List.mem_append_right _ List.mem_cons_self, rfl,
        hb.source.trans hb.booking.record_id.symm⟩

/-- Every reachable state keeps records, journals, lineage and receipts together. -/
theorem postingsKept_ledgerAfter (commands : List Command) :
    PostingsKept (ledgerAfter dep commands) := by
  induction commands using List.reverseRecOn with
  | nil => exact postingsKept_empty
  | append_singleton commands command ih =>
    rw [ledgerAfter_concat]
    have hwf := @wellFormed_ledgerAfter dep commands
    rcases execute_booked hwf command with hu | ⟨record, journal, lineage, hb⟩
    · exact ih.untouched hu
    · exact ih.booked hwf hb

end AccountingPlatform.Postgres
