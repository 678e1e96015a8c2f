/-
  Replays of accepted commands, after any later commands of the ledger.
-/
import AccountingPlatform.Accept.AcceptedCommands
import AccountingPlatform.Postgres.CloseKeys

namespace AccountingPlatform.Accept

open AccountingPlatform.Lib AccountingPlatform.Core AccountingPlatform.Postgres

open PostingLedger (ReversalRequest)

variable {dep : Deployment}

/-! ## Later tables -/

variable (dep) in
/-- Tables some commands after an accepted one. -/
structure Later (t₁ t₂ : Tables) : Prop where
  wellFormed : WellFormed dep t₂
  kept : PostingsKept t₂
  retains : Retains t₁ t₂

variable (dep) in
/-- The command is answered again, as before, and nothing is changed. -/
def Replays (t₂ : Tables) (command : AcceptCommand) (answer : AcceptAnswer) : Prop :=
  ∃ again, accept dep t₂ command = .ok (again, t₂) ∧ again.identity = answer.identity

/-! ## Postings -/

theorem writePosting_record {t t' : Tables} {record : NewProposalRecord} {new : ℕ → NewJournal}
    {receipt : PostingReceipt} (h : writePosting dep t record new receipt = .ok t') :
    record.row t ∈ t'.proposalRecords := by
  obtain ⟨journal, t₁, hrecorded, rfl⟩ := writePosting_ok dep h
  show record.row t ∈ t₁.proposalRecords
  rw [hrecorded.inserted.tables]
  exact List.mem_append_right _ (List.mem_singleton.mpr rfl)

/-- A posting that was answered has a record with its key and hash. -/
theorem postProposal_record {t t₁ : Tables} {proposal : JournalProposal} {receipt : PostingReceipt}
    (h : postProposal dep t proposal = .ok (receipt, t₁)) :
    ∃ record ∈ t₁.proposalRecords, record.idempotencyKey = proposal.idempotencyKey ∧
      record.sourcePayloadHash = proposal.sourcePayloadHash := by
  rcases persistProposal_ok dep h with ⟨prior, hprior, hhash, -, rfl⟩ | ⟨-, hfresh⟩
  · exact ⟨prior, List.mem_of_find?_eq_some hprior, by simpa using List.find?_some hprior, hhash⟩
  · obtain ⟨_, _, _, _, _, -, -, hwrite⟩ := persistFreshProposal_ok dep hfresh
    exact ⟨_, writePosting_record hwrite, rfl, rfl⟩

theorem postAdjustingJournal_record {t t₁ : Tables} {request : AdjustingRequest}
    (h : postAdjustingJournal dep t request = .ok t₁) :
    matchesProposalId request.proposalId = true ∧
    ∃ record ∈ t₁.proposalRecords, record.idempotencyKey = request.idempotencyKey ∧
      record.sourcePayloadHash = request.sourcePayloadHash := by
  simp only [postAdjustingJournal, requireProposalId, bind_eq_ok, require_eq_ok, pure_eq_ok] at h
  obtain ⟨_, ⟨-, hid, rfl⟩, h⟩ := h
  refine ⟨hid, ?_⟩
  split at h
  · next prior hprior =>
    simp only [bind_eq_ok, require_eq_ok, pure_eq_ok] at h
    obtain ⟨-, hhash, rfl⟩ := h
    exact ⟨prior, List.mem_of_find?_eq_some hprior, by simpa using List.find?_some hprior, hhash⟩
  · simp only [persistFreshAdjusting, bind_eq_ok] at h
    obtain ⟨_, -, _, -, _, -, _, -, _, -, hwrite⟩ := h
    exact ⟨_, writePosting_record hwrite, rfl, rfl⟩

theorem Later.record {t₁ t₂ : Tables} (h : Later dep t₁ t₂) {record : ProposalRecord}
    (hrecord : record ∈ t₁.proposalRecords) {key : String} (hkey : record.idempotencyKey = key) :
    t₂.proposalRecordByKey key = some record := by
  subst hkey
  exact find?_of_nodup_map h.kept.command_keys
    (h.retains.proposalRecords.subset hrecord)

/-- A proposal whose record is stored is answered from it. -/
theorem Later.postProposal {t₁ t₂ : Tables} (h : Later dep t₁ t₂) {proposal : JournalProposal}
    {record : ProposalRecord} (hrecord : record ∈ t₁.proposalRecords)
    (hkey : record.idempotencyKey = proposal.idempotencyKey)
    (hhash : record.sourcePayloadHash = proposal.sourcePayloadHash) :
    ∃ receipt, postProposal dep t₂ proposal = .ok (receipt, t₂) := by
  obtain ⟨journal, hjournal, hsource⟩ :=
    h.kept.sourced record (h.retains.proposalRecords.subset hrecord)
  have hof : t₂.journalOfProposal record.proposalRecordId = some journal := by
    rw [← hsource]
    exact find?_of_nodup_map h.kept.source_keys hjournal
  obtain ⟨name, code, hname, -⟩ := (h.wellFormed.facts journal hjournal).named
  rcases persistProposal_known none (h.record hrecord hkey) hof hname with
    ⟨-, hanswer⟩ | ⟨hdiffers, -⟩
  · exact ⟨_, hanswer⟩
  · exact absurd hhash hdiffers

theorem journalProposal_replays {t t₁ t₂ : Tables} {proposal : JournalProposal}
    {answer : AcceptAnswer} (h : accept dep t (.journalProposal proposal) = .ok (answer, t₁))
    (hlater : Later dep t₁ t₂) : Replays dep t₂ (.journalProposal proposal) answer := by
  simp only [accept, acceptJournalProposal, bind_eq_ok, require_eq_ok, pure_eq_ok,
    Prod.mk.injEq] at h
  obtain ⟨_, htenant, ⟨receipt, t₁'⟩, hposted, document, hload, rfl, rfl⟩ := h
  obtain ⟨record, hrecord, hkey, hhash⟩ := postProposal_record hposted
  obtain ⟨again, hagain⟩ := hlater.postProposal hrecord hkey hhash
  refine ⟨.receipt document, ?_, rfl⟩
  simp only [accept, acceptJournalProposal, bind_eq_ok, require_eq_ok, pure_eq_ok, Prod.mk.injEq]
  exact ⟨(), htenant, (again, t₂), hagain, document,
    hlater.retains.loadPublishedReceiptByKey hlater.wellFormed hload, rfl, rfl⟩

theorem adjustingJournal_replays {t t₁ t₂ : Tables} {request : AdjustingRequest}
    {answer : AcceptAnswer} (h : accept dep t (.adjustingJournal request) = .ok (answer, t₁))
    (hlater : Later dep t₁ t₂) : Replays dep t₂ (.adjustingJournal request) answer := by
  simp only [accept, acceptAdjustingJournal, bind_eq_ok, require_eq_ok, pure_eq_ok,
    Prod.mk.injEq] at h
  obtain ⟨_, hscope, _, hgiven, t₁', hposted, document, hload, rfl, rfl⟩ := h
  obtain ⟨hid, record, hrecord, hkey, hhash⟩ := postAdjustingJournal_record hposted
  have hagain : postAdjustingJournal dep t₂ request = .ok t₂ := by
    simp only [postAdjustingJournal, requireProposalId, hlater.record hrecord hkey]
    rw [require_of hid, ok_bind]
    show (require _ _ >>= fun _ => pure t₂) = _
    rw [require_of hhash]
    rfl
  refine ⟨.receipt document, ?_, rfl⟩
  simp only [accept, acceptAdjustingJournal, bind_eq_ok, require_eq_ok, pure_eq_ok,
    Prod.mk.injEq]
  exact ⟨(), hscope, (), hgiven, t₂, hagain, document,
    hlater.retains.loadPublishedReceiptByKey hlater.wellFormed hload, rfl, rfl⟩

/-! ## Period opens -/

variable (dep) in
/-- The recorded command of an open that was answered, and its period. -/
structure OpenRecorded (t : Tables) (request : PeriodOpenRequest) (document : PeriodOpenDocument)
    (entity : LegalEntityRecord) (command : PeriodOpenCommand) (period : FiscalPeriod) : Prop where
  named : request.legalEntityReference ≠ "" ∧ request.periodCode ≠ ""
  key : strip request.idempotencyKey ≠ "" ∧ strip request.idempotencyKey = request.idempotencyKey
  hash : matchesHash request.sourcePayloadHash = true
  entity_eq : dep.loadLegalEntity request.legalEntityReference "the period open" = .ok entity
  found : (t.periodOpenCommands.find? fun command =>
    command.periodOpenIdempotencyKey = strip request.idempotencyKey) = some command
  period_eq : t.period? command.fiscalPeriodId = some period
  same : command.legalEntityId = entity.legalEntityId ∧ period.periodCode = request.periodCode ∧
    command.requestedPeriodStartDate = request.periodStartDate ∧
    command.requestedPeriodEndDate = request.periodEndDate ∧
    command.sourcePayloadHash = request.sourcePayloadHash
  document_eq : { document with replayed := true } = (⟨dep.catalog.tenantReference,
    request.legalEntityReference, request.periodCode, period.periodStartDate, period.periodEndDate,
    true⟩ : PeriodOpenDocument)

/-- The period a fresh command opens is stored under its key. -/
theorem openPeriodRow_stored {t : Tables} (hwf : WellFormed dep t) {request : PeriodOpenRequest}
    {opened : FiscalPeriod × Tables} (h : openPeriodRow dep t request = .ok opened) :
    opened.2.period? opened.1.fiscalPeriodId = some opened.1 ∧
      opened.1.periodCode = request.periodCode ∧
      opened.2.periodOpenCommands = t.periodOpenCommands := by
  unfold openPeriodRow at h
  split at h
  · next existing hexisting =>
    simp only [bind_eq_ok, pure_eq_ok] at h
    obtain ⟨-, -, -, -, rfl⟩ := h
    obtain ⟨hmem, hcode⟩ := periodByCode_mem dep hexisting
    exact ⟨find?_of_nodup_map hwf.period_keys hmem, hcode, rfl⟩
  · split at h
    · split at h
      · simp only [bind_eq_ok, pure_eq_ok] at h
        obtain ⟨calendar, -, rfl⟩ := h
        refine ⟨?_, rfl, rfl⟩
        have hnone : (t.fiscalPeriods.find? fun p => p.fiscalPeriodId = t.nextId) = none := by
          rw [List.find?_eq_none]
          intro p hp
          have := hwf.period_lt p hp
          simp only [decide_eq_true_eq]
          omega
        rw [Tables.period?, List.find?_append, hnone, Option.none_or]
        simp
      · cases h
    · cases h

theorem openFiscalPeriod_recorded {t t₁ : Tables} (hwf : WellFormed dep t)
    {request : PeriodOpenRequest} {document : PeriodOpenDocument}
    (h : openFiscalPeriod dep t request = .ok (document, t₁)) :
    ∃ entity command period, OpenRecorded dep t₁ request document entity command period := by
  simp only [openFiscalPeriod, bind_eq_ok, require_eq_ok] at h
  obtain ⟨_, hnamed, _, hkey, _, hhash, entity, hentity, h⟩ := h
  split at h
  · next prior hprior =>
    simp only [bind_eq_ok, fetch_eq_ok, require_eq_ok, pure_eq_ok, Prod.mk.injEq] at h
    obtain ⟨period, hperiod, -, hsame, rfl, rfl⟩ := h
    exact ⟨entity, prior, period, hnamed, hkey, hhash, hentity, hprior, hperiod, hsame, rfl⟩
  · next hnone =>
    simp only [bind_eq_ok, pure_eq_ok, Prod.mk.injEq] at h
    obtain ⟨opened, hopened, -, -, rfl, rfl⟩ := h
    obtain ⟨hstored, hcode, hcommands⟩ := openPeriodRow_stored hwf hopened
    refine ⟨entity, request.commandRow entity.legalEntityId opened.1.fiscalPeriodId, opened.1, hnamed, hkey, hhash, hentity, ?_, hstored,
      ⟨rfl, hcode, rfl, rfl, rfl⟩, rfl⟩
    rw [hcommands, List.find?_append, hnone, Option.none_or]
    exact List.find?_cons_of_pos (decide_eq_true rfl)

theorem periodOpen_replays {t t₁ t₂ : Tables} (hwf : WellFormed dep t)
    {request : PeriodOpenRequest} {answer : AcceptAnswer}
    (h : accept dep t (.periodOpen request) = .ok (answer, t₁)) (hlater : Later dep t₁ t₂) :
    Replays dep t₂ (.periodOpen request) answer := by
  simp only [accept, acceptPeriodOpen, bind_eq_ok, pure_eq_ok, Prod.mk.injEq] at h
  obtain ⟨⟨document, t₁'⟩, hopened, rfl, rfl⟩ := h
  obtain ⟨entity, command, period, hr⟩ := openFiscalPeriod_recorded hwf hopened
  obtain ⟨period', hperiod', hcode, hstart, hend⟩ :=
    hlater.retains.period? hlater.wellFormed hr.period_eq
  have hfound : (t₂.periodOpenCommands.find? fun command =>
      command.periodOpenIdempotencyKey = strip request.idempotencyKey) = some command :=
    hlater.retains.openCommands.find?_eq_some hr.found
  obtain ⟨hentity, hpcode, hrequested⟩ := hr.same
  have hagain : openFiscalPeriod dep t₂ request = .ok (⟨dep.catalog.tenantReference,
      request.legalEntityReference, request.periodCode, period'.periodStartDate,
      period'.periodEndDate, true⟩, t₂) := by
    unfold openFiscalPeriod
    rw [require_of hr.named, ok_bind]
    dsimp only
    rw [require_of hr.key, ok_bind, require_of hr.hash, ok_bind, hr.entity_eq, ok_bind, hfound]
    dsimp only
    rw [hperiod']
    show (require _ _ >>= fun _ => _) = _
    rw [require_of ⟨hentity, hcode.trans hpcode, hrequested⟩]
    rfl
  refine ⟨.opened ⟨dep.catalog.tenantReference, request.legalEntityReference, request.periodCode,
    period'.periodStartDate, period'.periodEndDate, true⟩, ?_, ?_⟩
  · simp only [accept, acceptPeriodOpen, hagain, ok_bind]
    rfl
  · show AcceptAnswer.opened _ = AcceptAnswer.opened _
    rw [hr.document_eq, hstart, hend]

/-! ## Closes -/

/-- A lock that finds a row finds all of them: it adds nothing. -/
theorem lockBookPeriod_settled {t : Tables} (hwf : WellFormed dep t) {bookId : ℕ} {code : String}
    {period : FiscalPeriod} {control : BookPeriodControl}
    (hperiod : periodByCode dep t code = some period)
    (hrow : t.controlRow? bookId period.fiscalPeriodId = some control) :
    lockBookPeriod dep t bookId code = .ok (period, control, t) := by
  have hnil : materializedControls dep t period = [] := by
    obtain ⟨hmem, hfor⟩ := controlRow?_isFor hrow
    rcases hwf.controls.aggregated period (periodByCode_mem dep hperiod).1 with ⟨hno, -⟩ | ⟨hall, -⟩
    · exact absurd hfor.2 (hno control hmem)
    · rw [List.eq_nil_iff_forall_not_mem]
      intro c hc
      obtain ⟨book, hbook, hcurrent, hnone, -⟩ := mem_materializedControls.mp hc
      obtain ⟨d, hd, hd'⟩ := hall book hbook hcurrent
      exact hnone d hd hd'
  unfold Tables.controlRow? at hrow
  unfold lockBookPeriod requireFiscalPeriod
  rw [hperiod]
  show (fetch _ _ >>= fun control => pure (period, control, _)) = _
  rw [hnil, List.append_nil, hrow]
  rfl

/-- The book and period a close request names, as later tables see them. -/
theorem Later.periodByCode {t t₁ t₂ : Tables} (hlater : Later dep t₁ t₂) {code : String}
    {period : FiscalPeriod} (hperiod : periodByCode dep t code = some period)
    (hstored : ∃ p ∈ t₁.fiscalPeriods, p.fiscalPeriodId = period.fiscalPeriodId ∧
      p.periodCode = period.periodCode) :
    ∃ period₂, Postgres.periodByCode dep t₂ code = some period₂ ∧
      period₂.fiscalPeriodId = period.fiscalPeriodId := by
  obtain ⟨p, hp, hid, hcode⟩ := hstored
  obtain ⟨q, hq, hqid, hqcode, -, -⟩ := hlater.retains.periods p hp
  refine ⟨q, ?_, hqid.trans hid⟩
  rw [← (periodByCode_mem dep hperiod).2, ← hcode, ← hqcode]
  exact hlater.wellFormed.periodByCode_of_mem hq

variable (dep) in
/-- What a close was checked against before its row was locked. -/
structure CloseScope (request : CloseRequest) (requested : PeriodStatus)
    (entity : LegalEntityRecord) (book : AccountingBook) : Prop where
  requested_eq : requireCloseRequest request = .ok requested
  scope : dep.loadScope request.legalEntityReference request.accountingBookReference "the close" =
    .ok (entity, book)
  currency : request.snapshotCurrencyCode = book.reportingCurrencyCode

theorem CloseScope.closeFiscalPeriod {t : Tables} {request : CloseRequest}
    {requested : PeriodStatus} {entity : LegalEntityRecord} {book : AccountingBook}
    (h : CloseScope dep request requested entity book) {period : FiscalPeriod}
    {control : BookPeriodControl} {t' : Tables}
    (hlock : lockBookPeriod dep t book.accountingBookId request.periodCode =
      .ok (period, control, t')) :
    closeFiscalPeriod dep t request =
      closeLockedPeriod dep t' request entity book period control requested := by
  unfold Postgres.closeFiscalPeriod
  rw [h.requested_eq, ok_bind, h.scope, ok_bind]
  dsimp only
  rw [require_of h.currency, ok_bind, hlock]
  rfl

variable (dep) in
/-- What a close that was answered left behind: its snapshot, or its evidence on the row. -/
inductive CloseRecorded (t₁ : Tables) (request : CloseRequest) (entity : LegalEntityRecord)
    (book : AccountingBook) (fiscalPeriodId : ℕ) (receipt : PeriodCloseReceipt) : Prop
  | snapshot (s : TrialBalanceSnapshot) (hs : s ∈ t₁.snapshots)
      (hentity : s.legalEntityId = entity.legalEntityId)
      (hbook : s.accountingBookId = book.accountingBookId)
      (hperiod : s.fiscalPeriodId = fiscalPeriodId)
      (hkey : s.closeIdempotencyKey = closeIdempotencyKey dep request)
      (hrequested : requireCloseRequest request = .ok .hardClosed)
      (hreceipt : { receipt with replayed := true } = closeReceipt dep request .hardClosed
        (some s.trialBalanceSnapshotId) s.snapshotGeneratedAt s.sourceJournalCount
        s.sourcePayloadHash true)
  | evidence (control : BookPeriodControl) (evidence : SoftCloseEvidence) (closedAt : Timestamp)
      (hrow : t₁.controlRow? book.accountingBookId fiscalPeriodId = some control)
      (hsoft : control.periodStatus = .softClosed)
      (hevidence : control.softClose = some evidence)
      (hclosedAt : control.periodClosedAt = some closedAt)
      (hkey : evidence.idempotencyKey = closeIdempotencyKey dep request)
      (hrequested : requireCloseRequest request = .ok .softClosed)
      (hreceipt : { receipt with replayed := true } = closeReceipt dep request .softClosed none
        closedAt evidence.sourceJournalCount evidence.sourcePayloadHash true)

theorem persistPeriodClose_recorded {t t₁ : Tables} {request : CloseRequest}
    {entity : LegalEntityRecord} {book : AccountingBook} {period : FiscalPeriod}
    {receipt : PeriodCloseReceipt} (hrequested : requireCloseRequest request = .ok .hardClosed)
    (h : persistPeriodClose dep t request entity book period = .ok (receipt, t₁)) :
    CloseRecorded dep t₁ request entity book period.fiscalPeriodId receipt := by
  simp only [persistPeriodClose, insertSnapshot, bind_eq_ok, require_eq_ok, pure_eq_ok,
    Prod.mk.injEq] at h
  obtain ⟨posted, -, t₂, ⟨-, -, -, -, -, -, rfl⟩, rfl, rfl⟩ := h
  exact .snapshot (newSnapshot dep posted.2 request entity book period)
    (List.mem_append_right _ (List.mem_singleton.mpr rfl)) rfl rfl rfl rfl hrequested rfl

theorem persistSoftClose_recorded {t t₁ : Tables} {request : CloseRequest}
    {entity : LegalEntityRecord} {book : AccountingBook} {period : FiscalPeriod}
    {control : BookPeriodControl} {receipt : PeriodCloseReceipt}
    (hrequested : requireCloseRequest request = .ok .softClosed)
    (hrow : t.controlRow? book.accountingBookId period.fiscalPeriodId = some control)
    (h : persistSoftClose dep t request entity book period control = .ok (receipt, t₁)) :
    CloseRecorded dep t₁ request entity book period.fiscalPeriodId receipt := by
  have hfor := (controlRow?_isFor hrow).2
  simp only [persistSoftClose, bind_eq_ok, require_eq_ok, pure_eq_ok, Prod.mk.injEq] at h
  obtain ⟨-, -, -, -, -, -, rfl, rfl⟩ := h
  let evidence : SoftCloseEvidence := ⟨closeIdempotencyKey dep request,
    (liveCloseSource dep t request entity book period).2.2,
    (liveCloseSource dep t request entity book period).2.1⟩
  refine .evidence (recordEvidence evidence (closeRow .softClosed t.clock control)) evidence t.clock
    ?_ rfl rfl rfl rfl hrequested rfl
  have hkeys : KeepsKey fun c => recordEvidence evidence (closeRow .softClosed t.clock c) :=
    ⟨fun _ => rfl, fun _ => rfl⟩
  show ((updateControl _ _ (recordEvidence evidence) (updateControl _ _ (closeRow .softClosed t.clock)
    t.bookPeriodControls)).find? _) = _
  rw [updateControl_updateControl (keepsKey_closeRow _ _), find_updateControl hkeys]
  unfold Tables.controlRow? at hrow
  rw [hrow]
  exact congrArg some (updateRow_of_isFor hfor)

theorem latestCloseSnapshot_mem {t : Tables} {legalEntityId bookId fiscalPeriodId : ℕ}
    {s : TrialBalanceSnapshot}
    (h : latestCloseSnapshot t legalEntityId bookId fiscalPeriodId = some s) :
    s ∈ t.snapshots ∧ s.legalEntityId = legalEntityId ∧ s.accountingBookId = bookId ∧
      s.fiscalPeriodId = fiscalPeriodId := by
  have hmem := List.mem_of_mem_head? h
  rw [List.mem_insertionSort] at hmem
  simpa using hmem

theorem closeFiscalPeriod_recorded {t t₁ : Tables} (hdated : EvidenceDated t)
    {request : CloseRequest} {receipt : PeriodCloseReceipt}
    (h : closeFiscalPeriod dep t request = .ok (receipt, t₁)) :
    ∃ requested entity book period, CloseScope dep request requested entity book ∧
      periodByCode dep t request.periodCode = some period ∧
      CloseRecorded dep t₁ request entity book period.fiscalPeriodId receipt := by
  simp only [closeFiscalPeriod, bind_eq_ok, require_eq_ok] at h
  obtain ⟨requested, hrequested, ⟨entity, book⟩, hscope, _, hcurrency, ⟨period, control, t'⟩,
    hlock, h⟩ := h
  obtain ⟨hperiod, ht', hrow⟩ := lockBookPeriod_ok dep hlock
  have hrow' : t'.controlRow? book.accountingBookId period.fiscalPeriodId = some control := hrow
  have hstatus : requested ≠ .opened := by
    rcases requireCloseRequest_cases hrequested with rfl | rfl <;> decide
  refine ⟨requested, entity, book, period, ⟨hrequested, hscope, hcurrency⟩, hperiod, ?_⟩
  unfold closeLockedPeriod at h
  by_cases hhard : control.periodStatus = .hardClosed
  · rw [if_pos hhard] at h
    split at h
    · cases h
    · next hnot =>
      have hreq : requested = .hardClosed := by
        cases requested <;> simp_all
      subst hreq
      simp only [replayCloseReceipt, bind_eq_ok, fetch_eq_ok, require_eq_ok, pure_eq_ok,
        Prod.mk.injEq] at h
      obtain ⟨_, ⟨s, hs, -, hkey, rfl⟩, rfl, rfl⟩ := h
      obtain ⟨hmem, hentity, hbook, hsp⟩ := latestCloseSnapshot_mem hs
      exact .snapshot s hmem hentity hbook hsp hkey hrequested rfl
  · rw [if_neg hhard] at h
    split at h
    · next hsame =>
      have hsoft : control.periodStatus = .softClosed := by
        cases hs : control.periodStatus with
        | opened => exact absurd (hsame.symm.trans hs) hstatus
        | softClosed => rfl
        | hardClosed => exact absurd hs hhard
      simp only [replaySoftCloseReceipt, bind_eq_ok, fetch_eq_ok, require_eq_ok, pure_eq_ok,
        Prod.mk.injEq] at h
      obtain ⟨_, ⟨evidence, hevidence, -, hkey, rfl⟩, rfl, rfl⟩ := h
      have hgiven : control.periodClosedAt ≠ none := by
        have hstep : StateStep dep t t' := .locked period (periodByCode_mem dep hperiod).1
          (by rw [ht']) (by rw [ht']; rfl) (by rw [ht']) (by rw [ht'])
        exact hdated.step hstep control (controlRow?_isFor hrow').1 (by rw [hevidence]; nofun)
      obtain ⟨closedAt, hclosedAt⟩ := Option.ne_none_iff_exists'.mp hgiven
      refine .evidence control evidence closedAt hrow' hsoft hevidence hclosedAt hkey
        (hrequested.trans (by rw [← hsame, hsoft])) ?_
      rw [hclosedAt]
      rfl
    · split at h
      · next hsoft =>
        subst hsoft
        exact persistSoftClose_recorded hrequested hrow' h
      · next hnot =>
        have hreq : requested = .hardClosed := by
          cases requested <;> simp_all
        subst hreq
        simp only [bind_eq_ok] at h
        obtain ⟨_, -, _, -, h⟩ := h
        exact persistPeriodClose_recorded hrequested h

variable (dep) in
/-- A soft close whose book and period have been hard-closed since. -/
def Superseded (t : Tables) : AcceptCommand → Prop
  | .periodClose request => request.periodStatusCode = "soft_closed" ∧ ∃ entity book period,
    dep.loadScope request.legalEntityReference request.accountingBookReference "the close" =
      .ok (entity, book) ∧ periodByCode dep t request.periodCode = some period ∧
    t.bookPeriodStatus book.accountingBookId period = .hardClosed
  | _ => False

theorem requireCloseRequest_soft {request : CloseRequest}
    (h : requireCloseRequest request = .ok .softClosed) :
    request.periodStatusCode = "soft_closed" := by
  simp only [requireCloseRequest, bind_eq_ok] at h
  obtain ⟨-, -, -, -, -, -, -, -, h⟩ := h
  split at h
  · next hsoft => exact hsoft
  · split at h
    · rw [pure_eq_ok] at h
      cases h
    · cases h

/-- A stored snapshot answers the hard close that took it. -/
theorem Later.hardClose {t₁ t₂ : Tables} (hlater : Later dep t₁ t₂) {request : CloseRequest}
    {entity : LegalEntityRecord} {book : AccountingBook} {period₂ : FiscalPeriod}
    (hscope : CloseScope dep request .hardClosed entity book)
    (hperiod₂ : Postgres.periodByCode dep t₂ request.periodCode = some period₂)
    {s : TrialBalanceSnapshot} (hs : s ∈ t₁.snapshots)
    (hentity : s.legalEntityId = entity.legalEntityId)
    (hbook : s.accountingBookId = book.accountingBookId)
    (hid : s.fiscalPeriodId = period₂.fiscalPeriodId)
    (hkey : s.closeIdempotencyKey = closeIdempotencyKey dep request) :
    closeFiscalPeriod dep t₂ request = .ok (closeReceipt dep request .hardClosed
      (some s.trialBalanceSnapshotId) s.snapshotGeneratedAt s.sourceJournalCount
      s.sourcePayloadHash true, t₂) := by
  have hmem : s ∈ t₂.snapshots := hlater.retains.snapshots.subset hs
  obtain ⟨control, hc, hfor, hhard⟩ := hlater.wellFormed.snapshots.locked s hmem
  have hrow : t₂.controlRow? book.accountingBookId period₂.fiscalPeriodId = some control := by
    rw [← hbook, ← hid]
    exact find_control hlater.wellFormed.controls.unique hc hfor
  have hlatest : latestCloseSnapshot t₂ entity.legalEntityId book.accountingBookId
      period₂.fiscalPeriodId = some s := by
    rw [← hentity, ← hbook, ← hid]
    exact latestCloseSnapshot_eq hlater.wellFormed hmem
  rw [hscope.closeFiscalPeriod (lockBookPeriod_settled hlater.wellFormed hperiod₂ hrow)]
  unfold closeLockedPeriod replayCloseReceipt
  rw [if_pos hhard, if_neg (by decide), hlatest]
  show ((require _ _ >>= fun _ => _) >>= fun _ => _) = _
  rw [require_of hkey]
  rfl

/-- Recorded evidence answers the soft close that recorded it. -/
theorem Later.softClose {t₁ t₂ : Tables} (hlater : Later dep t₁ t₂) {request : CloseRequest}
    {entity : LegalEntityRecord} {book : AccountingBook} {period₂ : FiscalPeriod}
    (hscope : CloseScope dep request .softClosed entity book)
    (hperiod₂ : Postgres.periodByCode dep t₂ request.periodCode = some period₂)
    {control : BookPeriodControl} {evidence : SoftCloseEvidence} {closedAt : Timestamp}
    (hrow : t₂.controlRow? book.accountingBookId period₂.fiscalPeriodId = some control)
    (hsoft : control.periodStatus = .softClosed) (hevidence : control.softClose = some evidence)
    (hclosedAt : control.periodClosedAt = some closedAt)
    (hkey : evidence.idempotencyKey = closeIdempotencyKey dep request) :
    closeFiscalPeriod dep t₂ request = .ok (closeReceipt dep request .softClosed none closedAt
      evidence.sourceJournalCount evidence.sourcePayloadHash true, t₂) := by
  rw [hscope.closeFiscalPeriod (lockBookPeriod_settled hlater.wellFormed hperiod₂ hrow)]
  unfold closeLockedPeriod replaySoftCloseReceipt
  rw [if_neg (by rw [hsoft]; decide), if_pos hsoft, hevidence, hclosedAt]
  show ((require _ _ >>= fun _ => _) >>= fun _ => _) = _
  rw [require_of hkey]
  rfl

theorem periodClose_replays {t t₁ t₂ : Tables} (hdated : EvidenceDated t) (hext : Extends t t₁)
    {request : CloseRequest} {answer : AcceptAnswer}
    (h : accept dep t (.periodClose request) = .ok (answer, t₁)) (hlater : Later dep t₁ t₂)
    (hrows : ClosedRowsKept t₁ t₂) (hstands : ¬Superseded dep t₂ (.periodClose request)) :
    Replays dep t₂ (.periodClose request) answer := by
  simp only [accept, acceptPeriodClose, bind_eq_ok, require_eq_ok, pure_eq_ok, Prod.mk.injEq] at h
  obtain ⟨_, hnamed, _, hcurrency, _, hgiven, ⟨receipt, t₁'⟩, hclosed, rfl, rfl⟩ := h
  obtain ⟨requested, entity, book, period, hscope, hperiod, hrecorded⟩ :=
    closeFiscalPeriod_recorded hdated hclosed
  obtain ⟨p, hp, hpid, hpcode, -, -⟩ := hext.periods period (periodByCode_mem dep hperiod).1
  obtain ⟨period₂, hperiod₂, hid⟩ := hlater.periodByCode hperiod ⟨p, hp, hpid, hpcode⟩
  have hagain : ∃ again, closeFiscalPeriod dep t₂ request = .ok (again, t₂) ∧
      again = { receipt with replayed := true } := by
    cases hrecorded with
    | snapshot s hs hentity hbook hsp hkey hrequested hreceipt =>
      obtain rfl : requested = .hardClosed :=
        Except.ok.inj (hscope.requested_eq.symm.trans hrequested)
      exact ⟨_, hlater.hardClose hscope hperiod₂ hs hentity hbook (hsp.trans hid.symm) hkey,
        hreceipt.symm⟩
    | evidence control evidence closedAt hrow hsoft hevidence hclosedAt hkey hrequested hreceipt =>
      obtain rfl : requested = .softClosed :=
        Except.ok.inj (hscope.requested_eq.symm.trans hrequested)
      rcases hrows _ _ control hrow (by rw [hsoft]; decide) with hsame | ⟨c, hc, hhard⟩
      · rw [← hid] at hsame
        exact ⟨_, hlater.softClose hscope hperiod₂ hsame hsoft hevidence hclosedAt hkey,
          hreceipt.symm⟩
      · rw [← hid] at hc
        exact absurd ⟨requireCloseRequest_soft hrequested, entity, book, period₂, hscope.scope,
          hperiod₂, (bookPeriodStatus_of_row hc).trans hhard⟩ hstands
  obtain ⟨again, hok, rfl⟩ := hagain
  refine ⟨.closed { receipt with replayed := true }, ?_, rfl⟩
  simp only [accept, acceptPeriodClose, bind_eq_ok, require_eq_ok, pure_eq_ok, Prod.mk.injEq]
  exact ⟨(), hnamed, (), hcurrency, (), hgiven, _, hok, rfl, rfl⟩

/-! ## Reversals -/

/-- The original a payload names is the same later. -/
theorem Later.resolveReversedJournal {t₁ t₂ : Tables} (hlater : Later dep t₁ t₂)
    {payload : ReversalPayload} {journalReference : String}
    (h : resolveReversedJournal dep t₁ payload = .ok journalReference) :
    Accept.resolveReversedJournal dep t₂ payload = .ok journalReference := by
  unfold Accept.resolveReversedJournal at h ⊢
  split
  · next hempty =>
    rw [if_pos hempty] at h
    exact h
  · next hgiven =>
    rw [if_neg hgiven] at h
    simp only [lookupPublishedReceipt, bind_eq_ok, require_eq_ok, pure_eq_ok] at h ⊢
    obtain ⟨original, ⟨_, hkey, hload⟩, _, hmatch, rfl⟩ := h
    exact ⟨original, ⟨(), hkey, hlater.retains.loadPublishedReceiptByKey hlater.wellFormed hload⟩,
      (), hmatch, rfl⟩

theorem Later.existingReversal {t₁ t₂ : Tables} (hlater : Later dep t₁ t₂)
    {journalReference : String} {existing : ExistingReversal}
    (h : existingReversal t₁ journalReference = some existing) :
    Postgres.existingReversal t₂ journalReference = some existing := by
  simp only [Postgres.existingReversal, Option.bind_eq_bind, Option.bind_eq_some_iff,
    Option.pure_def] at h ⊢
  obtain ⟨original, horiginal, lineage, hlineage, reversal, hreversal, record, hrecord, hexisting⟩ := h
  exact ⟨original, hlater.retains.journals.find?_eq_some horiginal, lineage,
    hlater.retains.reversals.find?_eq_some hlineage, reversal,
    hlater.retains.journals.find?_eq_some hreversal, record,
    hlater.retains.proposalRecords.find?_eq_some hrecord, hexisting⟩

/-- A reversal that was answered left its evidence. -/
theorem Later.sameEvidence {t t₁ t₂ : Tables} (hwf : WellFormed dep t) (hkept : PostingsKept t)
    (hlater : Later dep t₁ t₂) {request : ReversalRequest} {policy : AccountingPolicy}
    {receipt : PostingReceipt} (h : reverse dep t request policy = .ok (receipt, t₁)) :
    ∃ existing, SameEvidence dep t₂ request existing := by
  rcases reverse_booked hwf h with ⟨rfl, existing, hfound, hreplay⟩ |
    ⟨-, record, journal, lineage, hbooked⟩
  · simp only [replayReversal, bind_eq_ok, require_eq_ok] at hreplay
    obtain ⟨-, hsame, -, ⟨hhash, hreference, hreason, hdate⟩, -⟩ := hreplay
    exact ⟨existing, hlater.existingReversal hfound, hsame, hhash, hreference, hreason, hdate⟩
  · have hattempt : attempt dep t (.reverse request policy) = .ok t₁ := by
      simp only [attempt, h, Except.map]
    have hbuilt : builtReceipt dep t (.reverse request policy) = some receipt := by
      simp only [builtReceipt, h, Except.toOption, Option.map_some]
    rw [← hbuilt, ← execute_of_ok dep hattempt] at hbooked
    have hlaterExtends : Extends (execute dep t (.reverse request policy)) t₂ := by
      rw [execute_of_ok dep hattempt]
      exact { hlater.retains.toExtends with }
    have hexec : FirstExecution dep record.idempotencyKey t (.reverse request policy) record
        journal (some lineage) t₂ := ⟨hwf, hkept, hbooked, rfl, hlaterExtends⟩
    exact hexec.sameEvidence hlater.wellFormed hlater.kept

/-- Whether a policy is accepted does not depend on which period it is for. -/
theorem postInit_of_period {f : AccountingPolicyFields} (h : f.postInit = .ok ()) {start finish : Date}
    (hle : start ≤ finish) :
    { f with openPeriodStart := start, openPeriodEnd := finish }.postInit = .ok () := by
  simp only [AccountingPolicyFields.postInit, bind_eq_ok, require_eq_ok] at h ⊢
  obtain ⟨_, h₁, _, h₂, _, h₃, _, h₄, _, h₅, _, h₆, _, -, hrest⟩ := h
  exact ⟨(), h₁, (), h₂, (), h₃, (), h₄, (), h₅, (), h₆, (), hle, hrest⟩

theorem build_ok_iff {f : AccountingPolicyFields} :
    (∃ policy, AccountingPolicy.build f = .ok policy) ↔ f.postInit = .ok () := by
  unfold AccountingPolicy.build
  constructor
  · rintro ⟨policy, h⟩
    split at h
    · next haccepted => exact haccepted
    · cases h
  · intro haccepted
    split
    · exact ⟨_, rfl⟩
    · next e herror =>
      rw [haccepted] at herror
      cases herror

variable (dep) in
/-- The calendar row of the period that covers a reversal's date is not hard-closed. -/
def DateNotHardClosed (t : Tables) : AcceptCommand → Prop
  | .journalReversal payload => ∃ period, coveringPeriod dep t payload.reversalDate = some period ∧
    period.periodStatus ≠ .hardClosed
  | _ => True

theorem requireAdjustingPeriodBounds_iff {t : Tables} (hwf : WellFormed dep t) {date : Date} :
    (∃ period, requireAdjustingPeriodBounds dep t date = .ok period) ↔
      ∃ period, coveringPeriod dep t date = some period ∧ period.periodStatus ≠ .hardClosed := by
  constructor
  · rintro ⟨period, h⟩
    cases hcover : coveringPeriod dep t date with
    | none =>
      simp only [requireAdjustingPeriodBounds, bind_eq_ok, fetch_eq_ok] at h
      obtain ⟨candidate, hcandidate, -⟩ := h
      rw [coveringPeriod, hcandidate] at hcover
      cases hcover
    | some covering =>
      rw [requireAdjustingPeriodBounds_eq hwf hcover] at h
      simp only [bind_eq_ok, require_eq_ok] at h
      obtain ⟨_, hnot, -⟩ := h
      exact ⟨covering, rfl, hnot⟩
  · rintro ⟨period, hcover, hnot⟩
    refine ⟨period, ?_⟩
    rw [requireAdjustingPeriodBounds_eq hwf hcover, require_of hnot]
    rfl

/-- A policy that was loaded once is loaded again exactly when the date is still admitted. -/
theorem loadReversalPolicy_again_iff {t t₁ t₂ : Tables} (hlater : Later dep t₁ t₂)
    (hext : t.journals <+: t₁.journals) {journalReference : String} {date : Date}
    {policy : AccountingPolicy} (h : loadReversalPolicy dep t journalReference date = .ok policy) :
    (∃ again, loadReversalPolicy dep t₂ journalReference date = .ok again) ↔
      ∃ period, coveringPeriod dep t₂ date = some period ∧ period.periodStatus ≠ .hardClosed := by
  rw [← requireAdjustingPeriodBounds_iff hlater.wellFormed]
  simp only [loadReversalPolicy, bind_eq_ok, fetch_eq_ok] at h
  obtain ⟨row, hfound, period, -, hbuild⟩ := h
  have haccepted := build_ok_iff.mp ⟨policy, hbuild⟩
  have hrow : reversalRow dep t₂ journalReference = some row := by
    simp only [reversalRow, Option.bind_eq_bind, Option.bind_eq_some_iff, Option.pure_def] at hfound ⊢
    obtain ⟨journal, hjournal, hrest⟩ := hfound
    exact ⟨journal, (hext.trans hlater.retains.journals).find?_eq_some hjournal, hrest⟩
  constructor
  · rintro ⟨again, hagain⟩
    simp only [loadReversalPolicy, bind_eq_ok, fetch_eq_ok] at hagain
    obtain ⟨_, -, period₂, hperiod₂, -⟩ := hagain
    exact ⟨period₂, hperiod₂⟩
  · rintro ⟨period₂, hperiod₂⟩
    obtain ⟨again, hagain⟩ := build_ok_iff.mpr
      (postInit_of_period haccepted period₂.dates_ordered)
    refine ⟨again, ?_⟩
    simp only [loadReversalPolicy, bind_eq_ok, fetch_eq_ok]
    exact ⟨row, hrow, period₂, hperiod₂, hagain⟩

/-- A reversal is answered again exactly while the calendar admits its date. -/
theorem journalReversal_replays_iff {t t₁ t₂ : Tables} (hwf : WellFormed dep t)
    (hkept : PostingsKept t) (hext : Retains t t₁) {payload : ReversalPayload}
    {answer : AcceptAnswer} (h : accept dep t (.journalReversal payload) = .ok (answer, t₁))
    (hlater : Later dep t₁ t₂) :
    Replays dep t₂ (.journalReversal payload) answer ↔
      DateNotHardClosed dep t₂ (.journalReversal payload) := by
  simp only [accept, acceptJournalReversal, bind_eq_ok, require_eq_ok, pure_eq_ok,
    Prod.mk.injEq] at h
  obtain ⟨_, hnamed, _, hreason, journalReference, hresolved, policy, hpolicy, ⟨receipt, t₁'⟩,
    hreversed, document, hload, rfl, rfl⟩ := h
  have hfromStart : Later dep t t₂ := ⟨hlater.wellFormed, hlater.kept, hext.trans hlater.retains⟩
  have hresolved₂ := hfromStart.resolveReversedJournal hresolved
  show _ ↔ ∃ period, coveringPeriod dep t₂ payload.reversalDate = some period ∧
    period.periodStatus ≠ .hardClosed
  rw [← loadReversalPolicy_again_iff hlater hext.journals hpolicy]
  constructor
  · rintro ⟨again, hagain, -⟩
    simp only [accept, acceptJournalReversal, bind_eq_ok, require_eq_ok, pure_eq_ok,
      Prod.mk.injEq] at hagain
    obtain ⟨_, -, _, -, reference₂, hreference₂, policy₂, hpolicy₂, -⟩ := hagain
    obtain rfl : reference₂ = journalReference :=
      Except.ok.inj (hreference₂.symm.trans hresolved₂)
    exact ⟨policy₂, hpolicy₂⟩
  · rintro ⟨policy₂, hpolicy₂⟩
    obtain ⟨existing, hsame⟩ := hlater.sameEvidence hwf hkept hreversed
    obtain ⟨receipt₂, hagain⟩ :=
      reverse_of_identical hlater.wellFormed hlater.kept policy₂ hreversed rfl rfl hsame
    refine ⟨.receipt document, ?_, rfl⟩
    simp only [accept, acceptJournalReversal, bind_eq_ok, require_eq_ok, pure_eq_ok,
      Prod.mk.injEq]
    exact ⟨(), hnamed, (), hreason, journalReference, hresolved₂, policy₂, hpolicy₂, (receipt₂, t₂),
      hagain, document, hlater.retains.loadPublishedReceiptByKey hlater.wellFormed hload, rfl, rfl⟩

end AccountingPlatform.Accept
