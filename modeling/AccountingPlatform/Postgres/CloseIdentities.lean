/-
  The identities of a hard close: the default key of its snapshot and the reference and key of
  its closing journal.

  All three join the name of the book and the code of the period with a colon and leave out the
  legal entity, and all three are unique in the tenant. Two scopes share an identity when their
  texts agree, or when a piece of one text moves across the colon.
-/
import AccountingPlatform.Lib.Separated
import AccountingPlatform.Postgres.AppendOnly
import AccountingPlatform.Postgres.BookReads
import AccountingPlatform.Postgres.CloseKeys
import AccountingPlatform.Postgres.Postings

namespace AccountingPlatform.Postgres

open AccountingPlatform.Lib AccountingPlatform.Core

variable (dep : Deployment)

/-! ## Joined texts -/

/-- The parts agree, or a piece moved across the colon. -/
def SameJoin (left right left' right' : String) : Prop :=
  (left = left' ∧ right = right') ∨
    Shifted ':' left.toList right.toList left'.toList right'.toList ∨
    Shifted ':' left'.toList right'.toList left.toList right.toList

theorem join_eq_iff (affix left right left' right' : String) :
    affix ++ left ++ ":" ++ right = affix ++ left' ++ ":" ++ right' ↔
      SameJoin left right left' right' := by
  have hcolon : ":".toList = [':'] := by decide +kernel
  unfold SameJoin
  rw [← String.toList_inj, ← String.toList_inj, ← String.toList_inj, ← separated_eq_iff]
  simp only [String.toList_append, hcolon, List.append_assoc, List.append_cancel_left_eq,
    List.cons_append, List.nil_append]

/-! ## Scopes -/

/-- A book that a close can name, and a period of the calendar. -/
structure CloseScope (t : Tables) (book : AccountingBook) (period : FiscalPeriod) : Prop where
  named : ∃ legalEntityReference entity,
    dep.loadScope legalEntityReference book.bookName "the close" = .ok (entity, book)
  period_mem : period ∈ t.fiscalPeriods

def SameScope (book book' : AccountingBook) (period period' : FiscalPeriod) : Prop :=
  book.accountingBookId = book'.accountingBookId ∧ period.fiscalPeriodId = period'.fiscalPeriodId

/-- The request hard-closes the scope under the default key. -/
structure ClosesByDefault (t : Tables) (request : CloseRequest) (book : AccountingBook)
    (period : FiscalPeriod) : Prop where
  scope : ∃ entity, dep.loadScope request.legalEntityReference request.accountingBookReference
    "the close" = .ok (entity, book)
  period_eq : periodByCode dep t request.periodCode = some period
  hard : request.periodStatusCode = "hard_closed"
  key_default : strip request.idempotencyKey = ""

/-- The key of the proposal record of a closing journal. -/
def closingKey (request : CloseRequest) : String :=
  dep.catalog.tenantReference ++ ":period_closing:" ++ request.periodCode ++ ":" ++
    request.accountingBookReference

/-- Distinct scopes have distinct default keys, journal references and record keys. -/
def IdentitiesDistinct (t : Tables) : Prop :=
  ∀ request request' book book' period period',
    ClosesByDefault dep t request book period → ClosesByDefault dep t request' book' period' →
    ¬SameScope book book' period period' →
    closeIdempotencyKey dep request ≠ closeIdempotencyKey dep request' ∧
      closingReference request ≠ closingReference request' ∧
      closingKey dep request ≠ closingKey dep request'

/-- No two scopes have texts that join alike, in either order. -/
def ScopesApart (t : Tables) : Prop :=
  ∀ book book' period period', CloseScope dep t book period → CloseScope dep t book' period' →
    ¬SameScope book book' period period' →
    ¬SameJoin book.bookName period.periodCode book'.bookName period'.periodCode ∧
      ¬SameJoin period.periodCode book.bookName period'.periodCode book'.bookName

variable {dep}

section
variable {t : Tables} {request request' : CloseRequest} {book book' : AccountingBook}
  {period period' : FiscalPeriod}

theorem ClosesByDefault.closeScope (h : ClosesByDefault dep t request book period) :
    CloseScope dep t book period ∧ request.accountingBookReference = book.bookName ∧
      request.periodCode = period.periodCode := by
  obtain ⟨entity, hscope⟩ := h.scope
  obtain ⟨-, -, -, -, hname, -⟩ := dep.loadScope_ok hscope
  obtain ⟨hmem, hcode⟩ := periodByCode_mem dep h.period_eq
  exact ⟨⟨⟨_, entity, hname ▸ hscope⟩, hmem⟩, hname.symm, hcode.symm⟩

/-- Every scope is closed by some request. -/
theorem CloseScope.closed (hwf : WellFormed dep t) (h : CloseScope dep t book period) :
    ∃ request, ClosesByDefault dep t request book period := by
  obtain ⟨reference, entity, hscope⟩ := h.named
  refine ⟨⟨reference, book.bookName, period.periodCode, book.reportingCurrencyCode, "hard_closed", ""⟩,
    ⟨entity, hscope⟩, hwf.periodByCode_of_mem h.period_mem, rfl, ?_⟩
  show strip "" = ""
  decide +kernel

theorem closeIdempotencyKey_default (h : strip request.idempotencyKey = "") :
    closeIdempotencyKey dep request = dep.catalog.tenantReference ++ ":period_close:" ++
      request.accountingBookReference ++ ":" ++ request.periodCode := if_pos h

/-- Identities agree exactly when the texts join alike. -/
theorem closeIdempotencyKey_eq_iff (h : ClosesByDefault dep t request book period)
    (h' : ClosesByDefault dep t request' book' period') :
    closeIdempotencyKey dep request = closeIdempotencyKey dep request' ↔
      SameJoin book.bookName period.periodCode book'.bookName period'.periodCode := by
  obtain ⟨-, hname, hcode⟩ := h.closeScope
  obtain ⟨-, hname', hcode'⟩ := h'.closeScope
  rw [closeIdempotencyKey_default h.key_default, closeIdempotencyKey_default h'.key_default,
    join_eq_iff, hname, hcode, hname', hcode']

theorem closingReference_eq_iff (h : ClosesByDefault dep t request book period)
    (h' : ClosesByDefault dep t request' book' period') :
    closingReference request = closingReference request' ↔
      SameJoin period.periodCode book.bookName period'.periodCode book'.bookName := by
  obtain ⟨-, hname, hcode⟩ := h.closeScope
  obtain ⟨-, hname', hcode'⟩ := h'.closeScope
  unfold closingReference
  rw [join_eq_iff, hname, hcode, hname', hcode']

theorem closingKey_eq_iff (h : ClosesByDefault dep t request book period)
    (h' : ClosesByDefault dep t request' book' period') :
    closingKey dep request = closingKey dep request' ↔
      SameJoin period.periodCode book.bookName period'.periodCode book'.bookName := by
  obtain ⟨-, hname, hcode⟩ := h.closeScope
  obtain ⟨-, hname', hcode'⟩ := h'.closeScope
  unfold closingKey
  rw [join_eq_iff, hname, hcode, hname', hcode']

end

theorem WellFormed.identitiesDistinct_iff {t : Tables} (hwf : WellFormed dep t) :
    IdentitiesDistinct dep t ↔ ScopesApart dep t := by
  constructor
  · intro h book book' period period' hscope hscope' hother
    obtain ⟨request, hcloses⟩ := hscope.closed hwf
    obtain ⟨request', hcloses'⟩ := hscope'.closed hwf
    obtain ⟨hkey, hreference, -⟩ := h _ _ _ _ _ _ hcloses hcloses' hother
    exact ⟨fun hjoin => hkey ((closeIdempotencyKey_eq_iff hcloses hcloses').mpr hjoin),
      fun hjoin => hreference ((closingReference_eq_iff hcloses hcloses').mpr hjoin)⟩
  · intro h request request' book book' period period' hcloses hcloses' hother
    obtain ⟨hkey, hreference⟩ := h _ _ _ _ hcloses.closeScope.1 hcloses'.closeScope.1 hother
    exact ⟨fun heq => hkey ((closeIdempotencyKey_eq_iff hcloses hcloses').mp heq),
      fun heq => hreference ((closingReference_eq_iff hcloses hcloses').mp heq),
      fun heq => hreference ((closingKey_eq_iff hcloses hcloses').mp heq)⟩

/-! ## Rows of hard closes -/

/-- A hard close under an explicit key is not part of the run. -/
def Command.hardClosesByDefault : Command → Prop
  | .closeFiscalPeriod request =>
    request.periodStatusCode = "hard_closed" → strip request.idempotencyKey = ""
  | _ => True

variable (dep) in
/-- The rows of a hard close are those of its scope and carry the identities of its request. -/
structure CloseRows (t : Tables) (request : CloseRequest) (book : AccountingBook)
    (period : FiscalPeriod) (t' : Tables) : Prop where
  snapshot : ∃ s, t'.snapshots = t.snapshots ++ [s] ∧ s.accountingBookId = book.accountingBookId ∧
    s.fiscalPeriodId = period.fiscalPeriodId ∧
    s.closeIdempotencyKey = closeIdempotencyKey dep request
  journal : ∃ journals records, t'.journals = t.journals ++ journals ∧
    t'.proposalRecords = t.proposalRecords ++ records ∧
    ∀ j ∈ journals, j.accountingBookId = book.accountingBookId ∧
      j.fiscalPeriodId = period.fiscalPeriodId ∧ j.journalReference = closingReference request ∧
      ∃ r ∈ records, r.proposalRecordId = j.sourceProposalRecordId ∧
        r.idempotencyKey = closingKey dep request

theorem persistPeriodClose_rows {t t' : Tables} {request : CloseRequest} {entity : LegalEntityRecord}
    {book : AccountingBook} {period : FiscalPeriod} {receipt : PeriodCloseReceipt}
    (h : persistPeriodClose dep t request entity book period = .ok (receipt, t')) :
    CloseRows dep t request book period t' := by
  obtain ⟨posted, t₁, hposted, -, _, _, rfl⟩ := persistPeriodClose_ok dep h
  rcases postClosingJournal_ok dep hposted with ⟨-, -, rfl⟩ | ⟨policy, journal, -, -, hrecorded⟩
  · exact {
      snapshot := ⟨_, rfl, rfl, rfl, rfl⟩
      journal := ⟨[], [], (List.append_nil _).symm, (List.append_nil _).symm, fun _ h => nomatch h⟩ }
  · have hrow := hrecorded.inserted.row
    have htables := hrecorded.inserted.tables
    have hsnapshots : t₁.snapshots = t.snapshots := by rw [htables]
    exact {
      snapshot := ⟨newSnapshot dep t₁ request entity book period, by
        rw [← hsnapshots]
        rfl, rfl, rfl, rfl⟩
      journal := by
        refine ⟨[journal], [(closingRecord dep t request (closingLines dep t entity.legalEntityId
          book.accountingBookId period.periodEndDate)).row t], ?_, ?_, fun j hj => ?_⟩
        · show t₁.journals = _
          rw [htables]
        · show t₁.proposalRecords = _
          rw [htables]
          rfl
        · rw [List.mem_singleton.mp hj, hrow]
          exact ⟨rfl, rfl, rfl, _, List.mem_cons_self, rfl, rfl⟩ }

variable (dep) in
/-- What a command adds to snapshots and closing journals. -/
inductive ClosingEffect (t t' : Tables) : Command → Prop
  | none {command : Command} (hsnapshots : t'.snapshots = t.snapshots)
      (hjournals : ∀ j ∈ t'.journals, isClosingReference j.journalReference = true → j ∈ t.journals) :
      ClosingEffect t t' command
  | closed {request : CloseRequest} {entity : LegalEntityRecord} {book : AccountingBook}
      {period : FiscalPeriod}
      (hscope : dep.loadScope request.legalEntityReference request.accountingBookReference
        "the close" = .ok (entity, book))
      (hperiod : periodByCode dep t request.periodCode = some period)
      (hcode : request.periodStatusCode = "hard_closed")
      (hrows : CloseRows dep t request book period t') :
      ClosingEffect t t' (.closeFiscalPeriod request)

theorem closeFiscalPeriod_closing {t t' : Tables} {request : CloseRequest}
    {receipt : PeriodCloseReceipt} (h : closeFiscalPeriod dep t request = .ok (receipt, t')) :
    ClosingEffect dep t { t' with clock := t'.clock + 1 } (.closeFiscalPeriod request) := by
  obtain ⟨entity, book, period, control, t₁, hlocked, hcases⟩ := closeFiscalPeriod_ok dep h
  obtain ⟨hperiod, rfl, -⟩ := lockBookPeriod_ok dep hlocked.lock
  rcases hcases with ⟨-, rfl⟩ | ⟨-, -, hsoft⟩ | ⟨-, hcode, -, hhard⟩
  · exact .none rfl fun j hj _ => hj
  · obtain ⟨evidence, payloadHash, rfl⟩ := persistSoftClose_ok dep hsoft
    exact .none rfl fun j hj _ => hj
  · exact .closed hlocked.scope hperiod hcode { persistPeriodClose_rows hhard with }

theorem execute_closing {t : Tables} (hwf : WellFormed dep t) (command : Command) :
    ClosingEffect dep t (execute dep t command) command := by
  cases ha : attempt dep t command with
  | error e =>
    rw [execute_of_error dep ha]
    exact .none rfl fun j hj _ => hj
  | ok t' =>
    have heffect := attempt_effect hwf ha
    rw [execute_of_ok dep ha]
    generalize hresult : ({ t' with clock := t'.clock + 1 } : Tables) = t'' at heffect ⊢
    cases heffect with
    | idle => exact .none rfl fun j hj _ => hj
    | opened => exact .none rfl fun j hj _ => hj
    | posted hwritten hfrom =>
      refine .none hwritten.snapshots fun j hj hclosing => ?_
      rcases List.mem_append.mp (hwritten.journals ▸ hj) with hj | hj
      · exact hj
      · rw [List.mem_singleton.mp hj, hfrom.not_closing] at hclosing
        cases hclosing
    | locked => exact .none rfl fun j hj _ => hj
    | softClosed => exact .none rfl fun j hj _ => hj
    | hardClosed =>
      obtain ⟨⟨receipt, t₃⟩, hok, rfl⟩ := map_eq_ok.mp ha
      rw [← hresult]
      exact closeFiscalPeriod_closing hok

variable (dep) in
/-- Snapshots and closing journals carry the identities of default closes of their scope. -/
structure ClosesNamed (t : Tables) : Prop where
  snapshots : ∀ s ∈ t.snapshots, ∃ request book period, ClosesByDefault dep t request book period ∧
    s.accountingBookId = book.accountingBookId ∧ s.fiscalPeriodId = period.fiscalPeriodId ∧
    s.closeIdempotencyKey = closeIdempotencyKey dep request
  journals : ∀ j ∈ t.journals, isClosingReference j.journalReference = true →
    ∃ request book period, ClosesByDefault dep t request book period ∧
      j.accountingBookId = book.accountingBookId ∧ j.fiscalPeriodId = period.fiscalPeriodId ∧
      j.journalReference = closingReference request ∧
      ∃ r ∈ t.proposalRecords, r.proposalRecordId = j.sourceProposalRecordId ∧
        r.idempotencyKey = closingKey dep request

theorem ClosesByDefault.grow {t t' : Tables} (hwf : WellFormed dep t') (he : Extends t t')
    {request : CloseRequest} {book : AccountingBook} {period : FiscalPeriod}
    (h : ClosesByDefault dep t request book period) :
    ∃ period', ClosesByDefault dep t' request book period' ∧
      period'.fiscalPeriodId = period.fiscalPeriodId := by
  obtain ⟨hmem, hcode⟩ := periodByCode_mem dep h.period_eq
  obtain ⟨period', hmem', hid, hcode', -, -⟩ := he.periods period hmem
  refine ⟨period', ⟨h.scope, ?_, h.hard, h.key_default⟩, hid⟩
  rw [← hcode, ← hcode']
  exact hwf.periodByCode_of_mem hmem'

theorem CloseScope.grow {t t' : Tables} (he : Extends t t') {book : AccountingBook}
    {period : FiscalPeriod} (h : CloseScope dep t book period) :
    ∃ period', CloseScope dep t' book period' ∧ period'.fiscalPeriodId = period.fiscalPeriodId ∧
      period'.periodCode = period.periodCode := by
  obtain ⟨period', hmem', hid, hcode, -, -⟩ := he.periods period h.period_mem
  exact ⟨period', ⟨h.named, hmem'⟩, hid, hcode⟩

/-- Scopes that are apart at the end of a run were apart all along. -/
theorem ScopesApart.before {t t' : Tables} (he : Extends t t') (h : ScopesApart dep t') :
    ScopesApart dep t := by
  intro book book' period period' hscope hscope' hother
  obtain ⟨later, hlater, hid, hcode⟩ := hscope.grow he
  obtain ⟨later', hlater', hid', hcode'⟩ := hscope'.grow he
  have hdistinct : ¬SameScope book book' later later' := by
    unfold SameScope
    rw [hid, hid']
    exact hother
  rw [← hcode, ← hcode']
  exact h book book' later later' hlater hlater' hdistinct

/-- One command keeps the rows named. -/
theorem closesNamed_execute {t : Tables} (hwf : WellFormed dep t) (h : ClosesNamed dep t)
    {command : Command} (hdefault : command.hardClosesByDefault) :
    ClosesNamed dep (execute dep t command) := by
  have hwf' := wellFormed_execute hwf command
  have he := extends_execute hwf command
  have hrecords : ∀ r ∈ t.proposalRecords, r ∈ (execute dep t command).proposalRecords :=
    fun r hr => he.proposalRecords.subset hr
  have hold : ∀ s ∈ t.snapshots, ∃ request book period,
      ClosesByDefault dep (execute dep t command) request book period ∧
      s.accountingBookId = book.accountingBookId ∧ s.fiscalPeriodId = period.fiscalPeriodId ∧
      s.closeIdempotencyKey = closeIdempotencyKey dep request := by
    intro s hs
    obtain ⟨request, book, period, hcloses, hbook, hperiod, hkey⟩ := h.snapshots s hs
    obtain ⟨period', hcloses', hid⟩ := hcloses.grow hwf' he
    exact ⟨request, book, period', hcloses', hbook, hperiod.trans hid.symm, hkey⟩
  have holdJournal : ∀ j ∈ t.journals, isClosingReference j.journalReference = true →
      ∃ request book period,
        ClosesByDefault dep (execute dep t command) request book period ∧
        j.accountingBookId = book.accountingBookId ∧ j.fiscalPeriodId = period.fiscalPeriodId ∧
        j.journalReference = closingReference request ∧
        ∃ r ∈ (execute dep t command).proposalRecords,
          r.proposalRecordId = j.sourceProposalRecordId ∧
            r.idempotencyKey = closingKey dep request := by
    intro j hj hclosing
    obtain ⟨request, book, period, hcloses, hbook, hperiod, hreference, r, hr, hid⟩ :=
      h.journals j hj hclosing
    obtain ⟨period', hcloses', hpid⟩ := hcloses.grow hwf' he
    exact ⟨request, book, period', hcloses', hbook, hperiod.trans hpid.symm, hreference, r,
      hrecords r hr, hid⟩
  have heffect := execute_closing hwf command
  generalize execute dep t command = t' at *
  cases heffect with
  | none hsnapshots hjournals =>
    exact {
      snapshots := by rw [hsnapshots]; exact hold
      journals := fun j hj hclosing => holdJournal j (hjournals j hj hclosing) hclosing }
  | @closed request entity book period hscope hperiod hcode hrows =>
    have hcloses : ClosesByDefault dep t request book period :=
      ⟨⟨entity, hscope⟩, hperiod, hcode, hdefault hcode⟩
    obtain ⟨period', hcloses', hid⟩ := hcloses.grow hwf' he
    obtain ⟨s, hsnapshots, hsbook, hsperiod, hskey⟩ := hrows.snapshot
    obtain ⟨journals, records, hjournals, hnewRecords, hnew⟩ := hrows.journal
    refine ⟨fun s' hs' => ?_, fun j hj hclosing => ?_⟩
    · rcases List.mem_append.mp (hsnapshots ▸ hs') with hs' | hs'
      · exact hold s' hs'
      · rw [List.mem_singleton.mp hs']
        exact ⟨request, book, period', hcloses', hsbook, hsperiod.trans hid.symm, hskey⟩
    · rcases List.mem_append.mp (hjournals ▸ hj) with hj | hj
      · exact holdJournal j hj hclosing
      · obtain ⟨hbook, hjperiod, hreference, r, hr, hsource, hkey⟩ := hnew j hj
        exact ⟨request, book, period', hcloses', hbook, hjperiod.trans hid.symm, hreference, r,
          hnewRecords ▸ List.mem_append_right _ hr, hsource, hkey⟩

theorem closesNamed_empty : ClosesNamed dep Tables.empty where
  snapshots := fun _ h => nomatch h
  journals := fun _ h => nomatch h

theorem closesNamed_ledgerAfter {commands : List Command}
    (hdefault : ∀ command ∈ commands, command.hardClosesByDefault) :
    ClosesNamed dep (ledgerAfter dep commands) := by
  have hrun : WellFormed dep (ledgerAfter dep commands) ∧ ClosesNamed dep (ledgerAfter dep commands) :=
    @run_invariant _ _ (execute dep) (fun t => WellFormed dep t ∧ ClosesNamed dep t) _
      (fun t command hcommand h => ⟨wellFormed_execute h.1 command,
        closesNamed_execute h.1 h.2 hcommand⟩) _ _ hdefault ⟨wellFormed_empty, closesNamed_empty⟩
  exact hrun.2

variable (dep) in
/-- A row of another scope's hard close holds a key that the close is to insert. -/
def HeldByAnotherScope (t : Tables) (request : CloseRequest) (book : AccountingBook)
    (period : FiscalPeriod) : Prop :=
  (∃ s ∈ t.snapshots, ¬(s.accountingBookId = book.accountingBookId ∧
      s.fiscalPeriodId = period.fiscalPeriodId) ∧
    s.closeIdempotencyKey = closeIdempotencyKey dep request) ∨
  ∃ j ∈ t.journals, isClosingReference j.journalReference = true ∧
    ¬(j.accountingBookId = book.accountingBookId ∧ j.fiscalPeriodId = period.fiscalPeriodId) ∧
    (j.journalReference = closingReference request ∨ ∃ r ∈ t.proposalRecords,
      r.proposalRecordId = j.sourceProposalRecordId ∧ r.idempotencyKey = closingKey dep request)

/-- Distinct identities are never held by another scope. -/
theorem ClosesNamed.not_held {t : Tables} (hkept : PostingsKept t) (h : ClosesNamed dep t)
    (hdistinct : IdentitiesDistinct dep t) {request : CloseRequest} {book : AccountingBook}
    {period : FiscalPeriod} (hcloses : ClosesByDefault dep t request book period) :
    ¬HeldByAnotherScope dep t request book period := by
  rintro (⟨s, hs, hother, hkey⟩ | ⟨j, hj, hclosing, hother, hheld⟩)
  · obtain ⟨request', book', period', hcloses', hbook, hperiod, hkey'⟩ := h.snapshots s hs
    rw [hbook, hperiod] at hother
    exact (hdistinct _ _ _ _ _ _ hcloses' hcloses hother).1 (hkey'.symm.trans hkey)
  · obtain ⟨request', book', period', hcloses', hbook, hperiod, hreference', r', hr', hid', hkey'⟩ :=
      h.journals j hj hclosing
    rw [hbook, hperiod] at hother
    obtain ⟨-, hreferences, hkeys⟩ := hdistinct _ _ _ _ _ _ hcloses' hcloses hother
    rcases hheld with hreference | ⟨r, hr, hid, hkey⟩
    · exact hreferences (hreference'.symm.trans hreference)
    · -- the record of a journal is unique
      have hsame : r = r' := List.inj_on_of_nodup_map hkept.record_keys hr hr' (hid.trans hid'.symm)
      exact hkeys (hkey'.symm.trans (hsame ▸ hkey))

variable (dep) in
/-- A hard close under the default key meets no row of another scope. -/
def ClosesAlone (before : List Command) : Command → Prop
  | .closeFiscalPeriod request => ∀ book period,
      ClosesByDefault dep (ledgerAfter dep before) request book period →
        ¬HeldByAnotherScope dep (ledgerAfter dep before) request book period
  | _ => True

variable (dep) in
/-- After a run of default closes the identities of distinct scopes are distinct, and no close
    of the run met a row of another scope, exactly when no two scopes have texts that join
    alike. -/
theorem closeIdentities_distinct_iff (commands : List Command)
    (hdefault : ∀ command ∈ commands, command.hardClosesByDefault) :
    (IdentitiesDistinct dep (ledgerAfter dep commands) ∧ EveryStep (ClosesAlone dep) commands) ↔
      ScopesApart dep (ledgerAfter dep commands) := by
  have hwf := @wellFormed_ledgerAfter dep
  rw [(hwf commands).identitiesDistinct_iff, and_iff_left_iff_imp]
  rintro hapart before command ⟨later, hrun⟩
  cases command with
  | closeFiscalPeriod request =>
    intro book period hcloses
    have hextends : Extends (ledgerAfter dep before) (ledgerAfter dep commands) := by
      rw [← hrun, List.append_assoc, ledgerAfter_append]
      exact extends_run (hwf before) _
    have hbefore : ∀ command ∈ before, command.hardClosesByDefault := fun command hmem =>
      hdefault command (hrun ▸ List.mem_append_left _ (List.mem_append_left _ hmem))
    refine (closesNamed_ledgerAfter hbefore).not_held (postingsKept_ledgerAfter before) ?_ hcloses
    exact (hwf before).identitiesDistinct_iff.mpr (hapart.before hextends)
  | _ => trivial

/-- Both months of the sample book are hard-closed under the default key. -/
def defaultCloseCommands : List Command := [
  samplePeriod "2024-01" "open-1" 738886 738916,
  samplePeriod "2024-02" "open-2" 738917 738945,
  sampleClose "urn:cwl:book:b1" "2024-01" "hard_closed",
  sampleClose "urn:cwl:book:b1" "2024-02" "hard_closed"]

theorem sampleCloses_distinct :
    let dep := sampleDeployment sampleCatalog
    (∀ command ∈ defaultCloseCommands, command.hardClosesByDefault) ∧
    IdentitiesDistinct dep (ledgerAfter dep defaultCloseCommands) ∧
      EveryStep (ClosesAlone dep) defaultCloseCommands := by
  intro dep
  have hdefault : ∀ command ∈ defaultCloseCommands, command.hardClosesByDefault := by
    have hstrip : strip "" = "" := by decide +kernel
    intro command hmem
    simp only [defaultCloseCommands, List.mem_cons, List.not_mem_nil, or_false] at hmem
    rcases hmem with rfl | rfl | rfl | rfl
    · trivial
    · trivial
    · exact fun _ => hstrip
    · exact fun _ => hstrip
  refine ⟨hdefault, (closeIdentities_distinct_iff dep _ hdefault).mpr ?_⟩
  have htexts : ∀ p ∈ (ledgerAfter dep defaultCloseCommands).fiscalPeriods,
      ∀ p' ∈ (ledgerAfter dep defaultCloseCommands).fiscalPeriods,
      p.fiscalPeriodId ≠ p'.fiscalPeriodId →
        "" ++ "urn:cwl:book:b1" ++ ":" ++ p.periodCode ≠
            "" ++ "urn:cwl:book:b1" ++ ":" ++ p'.periodCode ∧
          "" ++ p.periodCode ++ ":" ++ "urn:cwl:book:b1" ≠
            "" ++ p'.periodCode ++ ":" ++ "urn:cwl:book:b1" := by
    decide +kernel
  have hbook : ∀ {book period}, CloseScope dep (ledgerAfter dep defaultCloseCommands) book period →
      book = sampleBook := by
    intro book period hscope
    obtain ⟨_, _, hload⟩ := hscope.named
    obtain ⟨-, -, hmem, -⟩ := dep.loadScope_ok hload
    exact List.mem_singleton.mp hmem
  intro book book' period period' hscope hscope' hother
  obtain rfl := hbook hscope
  obtain rfl := hbook hscope'
  obtain ⟨hkey, hreference⟩ := htexts period hscope.period_mem period' hscope'.period_mem
    fun hid => hother ⟨rfl, hid⟩
  exact ⟨fun hjoin => hkey ((join_eq_iff _ _ _ _ _).mpr hjoin),
    fun hjoin => hreference ((join_eq_iff _ _ _ _ _).mpr hjoin)⟩

/-! ## Two entities with a book of one name -/

def branchEntity : LegalEntityRecord := ⟨2, "urn:cwl:legal_entity:e2", "KRW", true⟩

def branchBook : AccountingBook := ⟨2, 2, "primary_ledger", "urn:cwl:book:b1", "KRW", true⟩

def branchCatalog : Catalog where
  tenantReference := "urn:cwl:tenant:t1"
  legalEntities := [sampleEntity, branchEntity]
  books := [sampleBook, branchBook]
  chartAccounts := sampleAccounts 1 ++ sampleAccounts 2
  roleMappings := sampleMappings 1 ++ sampleMappings 2
  calendars := [⟨1, "main"⟩]
  legalEntity_key := by decide
  book_key := by decide
  chartAccount_key := twinCatalog.chartAccount_key
  book_entity := by decide

def branchClose : CloseRequest :=
  ⟨"urn:cwl:legal_entity:e2", "urn:cwl:book:b1", "2024-01", "KRW", "hard_closed", ""⟩

/-- The first entity has hard-closed January; the other entity's hard close of January is
    refused by a unique key, though its own control row is open. -/
theorem branchClose_meets_otherEntity :
    let dep := sampleDeployment branchCatalog
    let t := ledgerAfter dep (defaultCloseCommands.take 3)
    closeError dep t branchClose = some uniqueViolation ∧
      ¬(IdentitiesDistinct dep t ∧ EveryStep (ClosesAlone dep)
        (defaultCloseCommands.take 3 ++ [.closeFiscalPeriod branchClose])) := by
  intro dep t
  have hfacts : closeError dep t branchClose = some uniqueViolation ∧
      dep.loadScope "urn:cwl:legal_entity:e2" "urn:cwl:book:b1" "the close" =
        .ok (branchEntity, branchBook) ∧
      (∃ p ∈ t.fiscalPeriods, p.periodCode = "2024-01") ∧ strip "" = "" ∧
      ∃ s ∈ t.snapshots, s.accountingBookId = 1 ∧
        s.closeIdempotencyKey = closeIdempotencyKey dep branchClose := by
    decide +kernel
  obtain ⟨hraised, hscope, ⟨p, hp, hcode⟩, hstrip, s, hs, hbook, hkey⟩ := hfacts
  refine ⟨hraised, fun ⟨_, hsteps⟩ => ?_⟩
  have hcloses : ClosesByDefault dep t branchClose branchBook p := by
    refine ⟨⟨branchEntity, hscope⟩, ?_, rfl, hstrip⟩
    show periodByCode dep t "2024-01" = some p
    rw [← hcode]
    exact (wellFormed_ledgerAfter _).periodByCode_of_mem hp
  refine (everyStep_concat_iff.mp hsteps).2 branchBook p hcloses (Or.inl ⟨s, hs, ?_, hkey⟩)
  rintro ⟨hid, -⟩
  rw [hbook] at hid
  exact absurd hid (by decide)

end AccountingPlatform.Postgres
