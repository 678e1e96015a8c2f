/-
  The journals of a period by their source.

  No row stores which command wrote a journal. The list recovers it from the lineage of
  reversals, the references of closing journals and the role `adjusting` of a line. The four
  filters always partition a period, and they name the command that wrote a journal exactly when
  no proposal brings a line of that role and every adjusting journal does
  (`journalSources_partition_iff`).
-/
import AccountingPlatform.Postgres.AccountLedger
import AccountingPlatform.Postgres.Postings
import AccountingPlatform.Postgres.RetainedEarnings

namespace AccountingPlatform.Postgres

open AccountingPlatform.Lib AccountingPlatform.Core

variable (dep : Deployment)

/-! ## Sources -/

/-- `journal_source_code`. -/
inductive JournalSource
  | billing | adjusting | periodClosing | reversal
  deriving DecidableEq

def JournalSource.code : JournalSource → String
  | .billing => "billing"
  | .adjusting => "adjusting"
  | .periodClosing => "period_closing"
  | .reversal => "reversal"

/-- The source that stands for a command; opening a period writes no journal. -/
def Command.journalSource : Command → Option JournalSource
  | .post _ _ | .postProposal _ => some .billing
  | .postAdjustingJournal _ => some .adjusting
  | .closeFiscalPeriod _ => some .periodClosing
  | .reverse _ _ => some .reversal
  | .openFiscalPeriod _ => none

/-- `journal_reversal.reversal_journal_id IS NOT NULL` after the join. -/
def isReversal (t : Tables) (journal : GeneralJournal) : Prop :=
  lineageOf? t journal.generalJournalId ≠ none

/-- A line of the journal has the role `adjusting`. -/
def hasAdjustingLine (journal : GeneralJournal) : Prop :=
  ∃ line ∈ journal.lines, line.accountRoleCode = "adjusting"

instance decIsReversal (t : Tables) (journal : GeneralJournal) : Decidable (isReversal t journal) :=
  inferInstanceAs (Decidable (lineageOf? t journal.generalJournalId ≠ none))

instance decHasAdjustingLine (journal : GeneralJournal) : Decidable (hasAdjustingLine journal) :=
  inferInstanceAs (Decidable (∃ line ∈ journal.lines, line.accountRoleCode = "adjusting"))

/-- The `WHERE` clause of the filter. -/
def selectedBy (t : Tables) (journalSourceCode : String) (journal : GeneralJournal) : Prop :=
  journalSourceCode = "" ∨
  (journalSourceCode = "reversal" ∧ isReversal t journal) ∨
  (journalSourceCode = "period_closing" ∧ isClosingReference journal.journalReference = true) ∨
  (journalSourceCode = "adjusting" ∧ ¬isReversal t journal ∧ hasAdjustingLine journal) ∨
  (journalSourceCode = "billing" ∧ ¬isReversal t journal ∧
    ¬isClosingReference journal.journalReference = true ∧ ¬hasAdjustingLine journal)

instance decSelectedBy (t : Tables) (journalSourceCode : String) (journal : GeneralJournal) :
    Decidable (selectedBy t journalSourceCode journal) := by
  unfold selectedBy
  infer_instance

/-! ## The list -/

/-- A journal joined with its record and the original it reverses. -/
structure PeriodJournalRow where
  journal : GeneralJournal
  record : ProposalRecord
  originalReference : Option String
  deriving DecidableEq

def periodJournalRows (t : Tables) (legalEntityId bookId fiscalPeriodId : ℕ) :
    List PeriodJournalRow :=
  (t.journals.filter fun journal => journal.legalEntityId = legalEntityId ∧
      journal.accountingBookId = bookId ∧ journal.fiscalPeriodId = fiscalPeriodId).filterMap
    fun journal => (t.proposalRecord? journal.sourceProposalRecordId).map fun record =>
      ⟨journal, record, (lineageOf? t journal.generalJournalId).bind fun lineage =>
        (t.journal? lineage.originalJournalId).map GeneralJournal.journalReference⟩

/-- What the list is ordered by. -/
structure JournalKey where
  accountingDate : Date
  journalReference : String
  deriving DecidableEq

def PeriodJournalRow.key (row : PeriodJournalRow) : JournalKey :=
  ⟨row.journal.accountingDate, row.journal.journalReference⟩

/-- `(accounting_date, journal_reference) < (…)`, a comparison of rows. -/
def journalBefore (a b : JournalKey) : Prop :=
  a.accountingDate < b.accountingDate ∨
    a.accountingDate = b.accountingDate ∧ textBefore dep a.journalReference b.journalReference

instance decJournalBefore (a b : JournalKey) : Decidable (journalBefore dep a b) :=
  inferInstanceAs (Decidable (a.accountingDate < b.accountingDate ∨
    a.accountingDate = b.accountingDate ∧
      dep.collation a.journalReference b.journalReference = true ∧
      a.journalReference ≠ b.journalReference))

/-- Rows beyond the cursor, in the order of their keys. -/
def journalRowsAfter (cursorAfter : Option JournalKey) (rows : List PeriodJournalRow) :
    List PeriodJournalRow :=
  (dep.rowOrder (rows.filter fun row => ∀ c ∈ cursorAfter, journalBefore dep c row.key)).insertionSort
    fun a b => ¬journalBefore dep b.key a.key

structure PeriodJournalEntry where
  journalReference : String
  idempotencyKey : String
  accountingDate : Date
  lineCount : ℕ
  reversalOfJournalReference : Option String
  deriving DecidableEq

def PeriodJournalRow.entry (row : PeriodJournalRow) : PeriodJournalEntry where
  journalReference := row.journal.journalReference
  idempotencyKey := row.record.idempotencyKey
  accountingDate := row.journal.accountingDate
  lineCount := row.journal.lines.length
  reversalOfJournalReference := row.originalReference

structure PeriodJournalsDocument where
  tenantReference : String
  legalEntityReference : String
  accountingBookReference : String
  fiscalPeriodReference : String
  periodCode : String
  journals : List PeriodJournalEntry
  nextCursor : Option String
  journalSourceCode : Option String
  deriving DecidableEq

/-- The text of a cursor. -/
def journalListCursor (row : PeriodJournalRow) : String :=
  isoformat row.journal.accountingDate ++ "|" ++ row.journal.journalReference

/-- `load_period_journals`. -/
def loadPeriodJournals (t : Tables) (legalEntityReference bookReference periodCode : String)
    (pageLimit : ℕ) (cursorAfter : Option JournalKey) (journalSourceCode : String) :
    Result PeriodJournalsDocument := do
  require (legalEntityReference ≠ "" ∧ bookReference ≠ "" ∧ periodCode ≠ "")
    (.validation ("legal_entity_reference, book_reference, and fiscal_period_reference are required. " ++
      "Supply those journal-list fields, then retry the journal list."))
  require (journalSourceCode = "" ∨
      journalSourceCode ∈ ["billing", "adjusting", "period_closing", "reversal"])
    (.validation ("journal_source_code must be billing, adjusting, period_closing, or reversal. " ++
      "Supply a known journal source, then retry the journal list."))
  let (entity, book) ← dep.loadScope legalEntityReference bookReference "the journal list"
  let period ← requireFiscalPeriod dep t periodCode "the journal list"
  let selected := (periodJournalRows t entity.legalEntityId book.accountingBookId
    period.fiscalPeriodId).filter fun row => selectedBy t journalSourceCode row.journal
  let rows := (journalRowsAfter dep cursorAfter selected).take (pageLimit + 1)
  let pageRows := rows.take pageLimit
  pure {
    tenantReference := dep.catalog.tenantReference
    legalEntityReference := legalEntityReference
    accountingBookReference := bookReference
    fiscalPeriodReference := "urn:cwl:accounting:fiscal_period:" ++ periodCode
    periodCode := periodCode
    journals := pageRows.map PeriodJournalRow.entry
    nextCursor := if pageLimit < rows.length then pageRows.getLast?.map journalListCursor else none
    journalSourceCode := if journalSourceCode = "" then none else some journalSourceCode }

def journalCursorError : LedgerError :=
  .validation ("cursor must be accounting_date|journal_reference. " ++
    "Supply a journal-list cursor, then retry the journal list.")

/-- `_parse_journal_list_cursor`, which splits at the first `|`. -/
def parseJournalListCursor (cursor : String) : Result (Option JournalKey) :=
  if cursor = "" then .ok none
  else do
    require ('|' ∈ cursor.toList) journalCursorError
    let dateText := cursor.toList.takeWhile (· ≠ '|')
    let journalReference := (cursor.toList.dropWhile (· ≠ '|')).drop 1
    require (dateText ≠ [] ∧ journalReference ≠ []) journalCursorError
    let accountingDate ← fetch (dateFromIsoformat (String.ofList dateText)) journalCursorError
    pure (some ⟨accountingDate, String.ofList journalReference⟩)

/-- The entries returned from a cursor on, page after page. -/
inductive PeriodJournalWalk (t : Tables) (legalEntityReference bookReference periodCode : String)
    (pageLimit : ℕ) (journalSourceCode : String) : String → List PeriodJournalEntry → Prop
  | last {cursor : String} {cursorAfter : Option JournalKey} {document : PeriodJournalsDocument}
      (hparse : parseJournalListCursor cursor = .ok cursorAfter)
      (hload : loadPeriodJournals dep t legalEntityReference bookReference periodCode pageLimit
        cursorAfter journalSourceCode = .ok document)
      (hnext : document.nextCursor = none) :
      PeriodJournalWalk t legalEntityReference bookReference periodCode pageLimit journalSourceCode
        cursor document.journals
  | more {cursor next : String} {cursorAfter : Option JournalKey}
      {document : PeriodJournalsDocument} {returned : List PeriodJournalEntry}
      (hparse : parseJournalListCursor cursor = .ok cursorAfter)
      (hload : loadPeriodJournals dep t legalEntityReference bookReference periodCode pageLimit
        cursorAfter journalSourceCode = .ok document)
      (hnext : document.nextCursor = some next)
      (hwalk : PeriodJournalWalk t legalEntityReference bookReference periodCode pageLimit
        journalSourceCode next returned) :
      PeriodJournalWalk t legalEntityReference bookReference periodCode pageLimit journalSourceCode
        cursor (document.journals ++ returned)

/-! ## What the filters are for -/

/-- The journal was written by `command`, after the commands `before`. -/
def Writes (before : List Command) (command : Command) (journal : GeneralJournal) : Prop :=
  journal ∉ (ledgerAfter dep before).journals ∧
    journal ∈ (execute dep (ledgerAfter dep before) command).journals

/-- Under every filter the pages of a period hold the journals it selects, each once. -/
def FiltersListed (t : Tables) : Prop :=
  ∀ (legalEntityReference bookReference periodCode : String) (pageLimit : ℕ)
    (entity : LegalEntityRecord) (book : AccountingBook) (period : FiscalPeriod)
    (source : JournalSource), legalEntityReference ≠ "" → bookReference ≠ "" → periodCode ≠ "" →
    dep.loadScope legalEntityReference bookReference "the journal list" = .ok (entity, book) →
    requireFiscalPeriod dep t periodCode "the journal list" = .ok period → 1 ≤ pageLimit →
    ∃ listed : List PeriodJournalEntry,
      PeriodJournalWalk dep t legalEntityReference bookReference periodCode pageLimit source.code ""
        listed ∧
      (listed.map PeriodJournalEntry.journalReference).Perm
        ((t.journals.filter fun journal => (journal.legalEntityId = entity.legalEntityId ∧
          journal.accountingBookId = book.accountingBookId ∧
          journal.fiscalPeriodId = period.fiscalPeriodId) ∧ selectedBy t source.code journal).map
            GeneralJournal.journalReference)

/-- One filter selects the journal: the one of the command that wrote it. -/
def FilterNamesWriter (commands : List Command) (journal : GeneralJournal) : Prop :=
  ∃ before command, before ++ [command] <+: commands ∧ Writes dep before command journal ∧
    ∀ source : JournalSource,
      selectedBy (ledgerAfter dep commands) source.code journal ↔ command.journalSource = some source

/-- No line of a proposal has the role `adjusting`; some line of an adjusting journal has it. -/
def Command.rolesNameSource : Command → Prop
  | .post proposal _ | .postProposal proposal =>
    ∀ line ∈ proposal.lines, line.accountRoleCode ≠ "adjusting"
  | .postAdjustingJournal request => ∃ line ∈ request.lines, line.accountRoleCode = "adjusting"
  | .reverse _ _ | .closeFiscalPeriod _ | .openFiscalPeriod _ => True

/-- The roles of the lines a command brings along. -/
def Command.lineRoles : Command → List String
  | .post proposal _ | .postProposal proposal =>
    proposal.lines.map JournalLineProposal.accountRoleCode
  | .postAdjustingJournal request => request.lines.map PostedJournalLine.accountRoleCode
  | .reverse _ _ | .closeFiscalPeriod _ | .openFiscalPeriod _ => []

/-- The command posts lines it brings along. -/
def Command.posts (command : Command) : Prop :=
  command.journalSource = some .billing ∨ command.journalSource = some .adjusting

/-- If the command writes a journal, its roles give the command away. -/
def RolesNameSource (before : List Command) (command : Command) : Prop :=
  (execute dep (ledgerAfter dep before) command).journals ≠ (ledgerAfter dep before).journals →
    command.rolesNameSource

variable {dep}

/-! ## Cursors -/

theorem journalBefore_irrefl (a : JournalKey) : ¬journalBefore dep a a := by
  intro h
  rcases h with h | h
  · exact lt_irrefl _ h
  · exact h.2.2 rfl

theorem journalBefore_trans (horder : OrdersTexts dep) (a b c : JournalKey)
    (hab : journalBefore dep a b) (hbc : journalBefore dep b c) : journalBefore dep a c := by
  unfold journalBefore at *
  rcases hab with hab | ⟨habd, hab⟩
  · rcases hbc with hbc | ⟨hbcd, -⟩
    · exact Or.inl (hab.trans hbc)
    · exact Or.inl (hbcd ▸ hab)
  · rcases hbc with hbc | ⟨hbcd, hbc⟩
    · exact Or.inl (habd ▸ hbc)
    · exact Or.inr ⟨habd.trans hbcd, textBefore_trans horder hab hbc⟩

theorem journalBefore_or (horder : OrdersTexts dep) (a b : JournalKey) (h : a ≠ b) :
    journalBefore dep a b ∨ journalBefore dep b a := by
  obtain ⟨date, reference⟩ := a
  obtain ⟨date', reference'⟩ := b
  rcases lt_trichotomy date date' with hlt | rfl | hlt
  · exact Or.inl (Or.inl hlt)
  · have hne : reference ≠ reference' := by
      intro heq
      exact h (by rw [heq])
    rcases textBefore_or horder hne with hab | hba
    · exact Or.inl (Or.inr ⟨rfl, hab⟩)
    · exact Or.inr (Or.inr ⟨rfl, hba⟩)
  · exact Or.inr (Or.inl hlt)

/-- The order of the list under a collation that orders all texts. -/
@[reducible] def journalKeyOrder (horder : OrdersTexts dep) : LinearOrder JournalKey :=
  orderOfBefore (journalBefore dep) journalBefore_irrefl (journalBefore_trans horder)
    (journalBefore_or horder)

/-- A date and a reference are read back, whatever characters the reference holds. -/
theorem parse_journalListCursor {row : PeriodJournalRow}
    (hdate : 1 ≤ row.journal.accountingDate ∧ row.journal.accountingDate ≤ maxOrdinal)
    (hreference : row.journal.journalReference ≠ "") :
    parseJournalListCursor (journalListCursor row) = .ok (some row.key) := by
  have hbar : "|".toList = ['|'] := by decide +kernel
  have htext : (journalListCursor row).toList = (isoformat row.journal.accountingDate).toList ++
      '|' :: row.journal.journalReference.toList := by
    simp only [journalListCursor, String.toList_append, hbar, List.append_assoc, List.cons_append,
      List.nil_append]
  have hnone : ∀ c ∈ (isoformat row.journal.accountingDate).toList, decide (c ≠ '|') = true := by
    intro c hc
    apply decide_eq_true
    rintro rfl
    rcases mem_isoformat hc with h | h
    · exact absurd h (by decide)
    · exact absurd h (by decide)
  have htake : (journalListCursor row).toList.takeWhile (· ≠ '|') =
      (isoformat row.journal.accountingDate).toList := by
    rw [htext, List.takeWhile_append_of_pos hnone, List.takeWhile_cons_of_neg (by simp),
      List.append_nil]
  have hdrop : ((journalListCursor row).toList.dropWhile (· ≠ '|')).drop 1 =
      row.journal.journalReference.toList := by
    rw [htext, List.dropWhile_append_of_pos hnone, List.dropWhile_cons_of_neg (by simp)]
    rfl
  have hnonempty : journalListCursor row ≠ "" := by
    intro hempty
    rw [hempty] at htext
    have hlength := congrArg List.length htext
    simp only [String.toList_empty, List.length_nil, List.length_append, List.length_cons] at hlength
    omega
  have hdateText : (isoformat row.journal.accountingDate).toList ≠ [] := by
    intro hnil
    have hread := dateFromIsoformat_isoformat hdate.1 hdate.2
    rw [String.toList_inj.mp (hnil.trans String.toList_empty.symm)] at hread
    cases hread
  have hreference' : row.journal.journalReference.toList ≠ [] := by
    intro hnil
    exact hreference (String.toList_inj.mp hnil)
  unfold parseJournalListCursor
  rw [if_neg hnonempty, require_of (by rw [htext]; simp), ok_bind]
  dsimp only
  rw [htake, hdrop, require_of ⟨hdateText, hreference'⟩, ok_bind, String.ofList_toList,
    dateFromIsoformat_isoformat hdate.1 hdate.2, String.ofList_toList]
  rfl

/-! ## Pages of a filter -/

/-- Rows of distinct keys that the database sorts are the rest of the table. -/
theorem journalRowsAfter_eq (horder : OrdersTexts dep) {rows : List PeriodJournalRow}
    (hn : (rows.map PeriodJournalRow.key).Nodup) (cursorAfter : Option JournalKey) :
    journalRowsAfter dep cursorAfter rows =
      @rest _ _ (journalKeyOrder horder) PeriodJournalRow.key cursorAfter rows :=
  @rowOrder_rest dep _ _ (journalKeyOrder horder) PeriodJournalRow.key rows hn cursorAfter

section Pages

variable {t : Tables} {legalEntityReference bookReference periodCode : String} {pageLimit : ℕ}
  {entity : LegalEntityRecord} {book : AccountingBook} {period : FiscalPeriod}
  {source : JournalSource} {rows : List PeriodJournalRow}

/-- Every journal has its record, so the join loses none. -/
theorem periodJournalRows_journal (hkept : PostingsKept t) (legalEntityId bookId fiscalPeriodId : ℕ) :
    (periodJournalRows t legalEntityId bookId fiscalPeriodId).map PeriodJournalRow.journal =
      t.journals.filter fun journal => journal.legalEntityId = legalEntityId ∧
        journal.accountingBookId = bookId ∧ journal.fiscalPeriodId = fiscalPeriodId := by
  unfold periodJournalRows
  rw [List.map_filterMap]
  refine Eq.trans (List.filterMap_congr (g := some) ?_) List.filterMap_some
  intro journal hjournal
  obtain ⟨record, hrecord, hid, -⟩ := hkept.provenance journal (List.mem_filter.mp hjournal).1
  have hfound : t.proposalRecord? journal.sourceProposalRecordId = some record := by
    rw [← hid]
    exact find?_of_nodup_map hkept.record_keys hrecord
  rw [hfound]
  rfl

/-- A resolved list answers at every cursor. -/
theorem loadPeriodJournals_ok (hentity : legalEntityReference ≠ "") (hbook : bookReference ≠ "")
    (hperiod : periodCode ≠ "")
    (hscope : dep.loadScope legalEntityReference bookReference "the journal list" =
      .ok (entity, book))
    (hfound : requireFiscalPeriod dep t periodCode "the journal list" = .ok period)
    (hrows : rows = (periodJournalRows t entity.legalEntityId book.accountingBookId
      period.fiscalPeriodId).filter fun row => selectedBy t source.code row.journal)
    (cursorAfter : Option JournalKey) :
    ∃ document, loadPeriodJournals dep t legalEntityReference bookReference periodCode pageLimit
        cursorAfter source.code = .ok document ∧
      document.journals =
        ((journalRowsAfter dep cursorAfter rows).take pageLimit).map PeriodJournalRow.entry ∧
      document.nextCursor = if pageLimit < (journalRowsAfter dep cursorAfter rows).length then
        ((journalRowsAfter dep cursorAfter rows).take pageLimit).getLast?.map journalListCursor
        else none := by
  obtain ⟨hpage, hmore⟩ := take_of_fetched pageLimit (journalRowsAfter dep cursorAfter rows)
  have hcode : source.code = "" ∨
      source.code ∈ ["billing", "adjusting", "period_closing", "reversal"] := by
    cases source <;> decide
  unfold loadPeriodJournals
  rw [require_of ⟨hentity, hbook, hperiod⟩, ok_bind, require_of hcode, ok_bind, hscope, ok_bind]
  dsimp only
  rw [hfound, ok_bind, ← hrows]
  refine ⟨_, rfl, ?_, ?_⟩
  · rw [hpage]
  · simp only [hpage, hmore]

/-- What a walk over keys returns is returned by following the texts. -/
theorem exists_periodJournalWalk (horder : OrdersTexts dep) (hentity : legalEntityReference ≠ "")
    (hbook : bookReference ≠ "") (hperiod : periodCode ≠ "")
    (hscope : dep.loadScope legalEntityReference bookReference "the journal list" =
      .ok (entity, book))
    (hfound : requireFiscalPeriod dep t periodCode "the journal list" = .ok period)
    (hrows : rows = (periodJournalRows t entity.legalEntityId book.accountingBookId
      period.fiscalPeriodId).filter fun row => selectedBy t source.code row.journal)
    (hn : (rows.map PeriodJournalRow.key).Nodup)
    (hcursors : ∀ row ∈ rows, parseJournalListCursor (journalListCursor row) = .ok (some row.key))
    {cursorAfter : Option JournalKey} {returned : List PeriodJournalRow}
    (h : @AcceptedWalk _ _ (journalKeyOrder horder) PeriodJournalRow.key (fun _ => True) pageLimit
      rows cursorAfter returned) {cursor : String}
    (hparse : parseJournalListCursor cursor = .ok cursorAfter) :
    PeriodJournalWalk dep t legalEntityReference bookReference periodCode pageLimit source.code cursor
      (returned.map PeriodJournalRow.entry) := by
  have hpage : ∀ cursorAfter, (journalRowsAfter dep cursorAfter rows).take pageLimit =
      @page _ _ (journalKeyOrder horder) PeriodJournalRow.key pageLimit cursorAfter rows :=
    fun cursorAfter => congrArg (List.take pageLimit) (journalRowsAfter_eq horder hn cursorAfter)
  induction h generalizing cursor with
  | @last cursorAfter hnext =>
    obtain ⟨document, hload, hjournals, hcursor⟩ := @loadPeriodJournals_ok dep t
      legalEntityReference bookReference periodCode pageLimit entity book period source rows hentity
      hbook hperiod hscope hfound hrows cursorAfter
    rw [hpage] at hjournals hcursor
    rw [← hjournals]
    refine .last hparse hload ?_
    rw [hcursor, journalRowsAfter_eq horder hn]
    unfold nextCursor at hnext
    split at hnext
    · next hlt =>
      rw [if_pos hlt, Option.map_eq_none_iff.mp hnext]
      rfl
    · next hle => exact if_neg hle
  | @more cursorAfter next returned hnext _ _ ih =>
    obtain ⟨document, hload, hjournals, hcursor⟩ := @loadPeriodJournals_ok dep t
      legalEntityReference bookReference periodCode pageLimit entity book period source rows hentity
      hbook hperiod hscope hfound hrows cursorAfter
    rw [hpage] at hjournals hcursor
    rw [List.map_append, ← hjournals]
    unfold nextCursor at hnext
    split at hnext
    · next hlt =>
      obtain ⟨last, hlast, rfl⟩ := Option.map_eq_some_iff.mp hnext
      have hmem : last ∈ rows :=
        (@mem_rest _ _ (journalKeyOrder horder) _ _ _ _).mp
          (List.mem_of_mem_take (List.mem_of_getLast? hlast)) |>.1
      refine .more hparse hload ?_ (ih (hcursors last hmem))
      rw [hcursor, journalRowsAfter_eq horder hn, if_pos hlt, hlast]
      rfl
    · cases hnext

end Pages

/-- The pages under every filter hold what it selects. -/
theorem filtersListed (horder : OrdersTexts dep) {t : Tables} (hwf : WellFormed dep t)
    (hkept : PostingsKept t)
    (hdates : ∀ j ∈ t.journals, 1 ≤ j.accountingDate ∧ j.accountingDate ≤ maxOrdinal) :
    FiltersListed dep t := by
  intro legalEntityReference bookReference periodCode pageLimit entity book period source hentity
    hbook hperiod hscope hfound hlimit
  generalize hrows : (periodJournalRows t entity.legalEntityId book.accountingBookId
    period.fiscalPeriodId).filter (fun row => selectedBy t source.code row.journal) = rows
  have hjournals : rows.map PeriodJournalRow.journal = t.journals.filter fun journal =>
      (journal.legalEntityId = entity.legalEntityId ∧
        journal.accountingBookId = book.accountingBookId ∧
        journal.fiscalPeriodId = period.fiscalPeriodId) ∧ selectedBy t source.code journal := by
    have hsplit : (fun row : PeriodJournalRow => decide (selectedBy t source.code row.journal)) =
        (fun journal => decide (selectedBy t source.code journal)) ∘ PeriodJournalRow.journal := rfl
    rw [← hrows, hsplit, ← List.filter_map, periodJournalRows_journal hkept, List.filter_filter]
    apply List.filter_congr
    intro journal _
    rw [Bool.and_comm, ← Bool.decide_and]
  have hmem : ∀ row ∈ rows, row.journal ∈ t.journals := by
    intro row hrow
    have hin := List.mem_map_of_mem (f := PeriodJournalRow.journal) hrow
    rw [hjournals] at hin
    exact (List.mem_filter.mp hin).1
  have hreferences : ((rows.map PeriodJournalRow.key).map JournalKey.journalReference).Nodup := by
    have hsame : (rows.map PeriodJournalRow.key).map JournalKey.journalReference =
        (rows.map PeriodJournalRow.journal).map GeneralJournal.journalReference := by
      rw [List.map_map, List.map_map]
      rfl
    rw [hsame, hjournals]
    exact hwf.reference_keys.sublist (List.filter_sublist.map _)
  have hn : (rows.map PeriodJournalRow.key).Nodup := hreferences.of_map
  have hcursors : ∀ row ∈ rows,
      parseJournalListCursor (journalListCursor row) = .ok (some row.key) := fun row hrow =>
    parse_journalListCursor (hdates _ (hmem row hrow)) (hwf.reference_ne_empty (hmem row hrow))
  have hwalk := (@acceptedWalk_iff _ _ (journalKeyOrder horder) PeriodJournalRow.key (fun _ => True)
    pageLimit hlimit rows hn _).mpr ⟨rfl, fun _ _ _ _ _ _ => trivial⟩
  refine ⟨_, exists_periodJournalWalk horder hentity hbook hperiod hscope hfound hrows.symm hn
    hcursors hwalk rfl, ?_⟩
  have hperm := @ordered_perm _ _ (journalKeyOrder horder) PeriodJournalRow.key rows
  rw [List.map_map]
  refine (hperm.map _).trans ?_
  have hsame : rows.map (PeriodJournalEntry.journalReference ∘ PeriodJournalRow.entry) =
      (rows.map PeriodJournalRow.journal).map GeneralJournal.journalReference := by
    rw [List.map_map]
    rfl
  rw [hsame, hjournals]

/-! ## Roles of written lines -/

/-- The lines of a posting keep the roles they were given. -/
theorem writePosting_roles {t t' : Tables} {record : NewProposalRecord} {new : ℕ → NewJournal}
    {receipt : PostingReceipt} (h : writePosting dep t record new receipt = .ok t')
    {journal : GeneralJournal} (hjournals : t'.journals = t.journals ++ [journal]) :
    journal.lines.map JournalEntryLine.accountRoleCode =
      (new t.nextId).lines.map PostedJournalLine.accountRoleCode := by
  obtain ⟨journal', t₁, hrecorded, rfl⟩ := writePosting_ok dep h
  have hsame : t.journals ++ [journal'] = t.journals ++ [journal] := by
    rw [← hjournals]
    exact (congrArg Tables.journals hrecorded.inserted.tables).symm
  obtain rfl : journal' = journal := List.singleton_inj.mp (List.append_cancel_left hsame)
  refine map_tryMap (fun line row hrow => ?_) hrecorded.inserted.lines
  obtain ⟨account, -, rfl, -⟩ := insertJournalLine_ok hrow
  rfl

theorem persistProposal_roles {t t' : Tables} {proposal : JournalProposal}
    {suppliedPolicy : Option AccountingPolicy} {receipt : PostingReceipt}
    (h : persistProposal dep t proposal suppliedPolicy = .ok (receipt, t'))
    {journal : GeneralJournal} (hjournals : t'.journals = t.journals ++ [journal]) :
    journal.lines.map JournalEntryLine.accountRoleCode =
      proposal.lines.map JournalLineProposal.accountRoleCode := by
  rcases persistProposal_ok dep h with ⟨-, -, -, -, rfl⟩ | ⟨-, hfresh⟩
  · exact absurd (List.append_right_eq_self.mp hjournals.symm) (List.cons_ne_nil _ _)
  · obtain ⟨policy, entity, book, period, lines, hposting, -, hwrite⟩ :=
      persistFreshProposal_ok dep hfresh
    refine (writePosting_roles hwrite hjournals).trans (map_tryMap (fun line row hrow => ?_)
      hposting.resolved)
    simp only [resolveLine, bind_eq_ok, pure_eq_ok] at hrow
    obtain ⟨code, -, rfl⟩ := hrow
    rfl

theorem postAdjustingJournal_roles {t t' : Tables} {request : AdjustingRequest}
    (h : postAdjustingJournal dep t request = .ok t') {journal : GeneralJournal}
    (hjournals : t'.journals = t.journals ++ [journal]) :
    journal.lines.map JournalEntryLine.accountRoleCode =
      request.lines.map PostedJournalLine.accountRoleCode := by
  rcases postAdjustingJournal_ok dep h with ⟨-, -, rfl⟩ | ⟨-, -, policy, entity, book, period, -, hwrite⟩
  · exact absurd (List.append_right_eq_self.mp hjournals.symm) (List.cons_ne_nil _ _)
  · exact writePosting_roles hwrite hjournals

theorem hasAdjustingLine_iff {journal : GeneralJournal} : hasAdjustingLine journal ↔
    "adjusting" ∈ journal.lines.map JournalEntryLine.accountRoleCode := by
  rw [List.mem_map]
  rfl

/-- No line of a closing journal has the role `adjusting`. -/
theorem closingLines_roles {t : Tables} {legalEntityId bookId : ℕ} {periodEndDate : Date}
    {line : PostedJournalLine} (hline : line ∈ closingLines dep t legalEntityId bookId periodEndDate) :
    line.accountRoleCode ≠ "adjusting" := by
  unfold closingLines at hline
  dsimp only at hline
  split at hline
  · cases hline
  · rcases List.mem_append.mp hline with hline | hline
    · rcases mem_clearingLines hline with hline | ⟨row, hrow, -, hrole⟩
      · cases hline
      · obtain ⟨-, -, -, -, hcleared⟩ := mem_closingIncome hrow
        intro heq
        rw [← hrole, heq] at hcleared
        exact absurd hcleared (by decide)
    · unfold retainedEarningsLine at hline
      split at hline
      · cases hline
      · rw [List.mem_singleton.mp hline]
        simp

/-- Closing journals have no line with the role `adjusting`. -/
def ClosingRolesKept (t : Tables) : Prop :=
  ∀ j ∈ t.journals, isClosingReference j.journalReference = true → ¬hasAdjustingLine j

theorem closingRolesKept_execute {t : Tables} (hwf : WellFormed dep t) (h : ClosingRolesKept t)
    (command : Command) : ClosingRolesKept (execute dep t command) := by
  rcases execute_effect hwf command with ⟨-, heq⟩ | ⟨-, he⟩
  · rw [heq]
    exact h
  · generalize execute dep t command = t' at he
    cases he with
    | @posted _ record journal t' hwritten hfrom _ =>
      intro j hj hclosing
      have hjournals : t'.journals = t.journals ++ [journal] := hwritten.journals
      rcases List.mem_append.mp (hjournals ▸ hj) with hj | hj
      · exact h j hj hclosing
      · rw [List.mem_singleton.mp hj, hfrom.not_closing] at hclosing
        cases hclosing
    | @hardClosed request entity book period _ posted t' _ _ _ _ hposted =>
      cases hposted with
      | nothing => exact h
      | @journal record journal _ _ hwritten _ _ _ hlines =>
        intro j hj hclosing
        have hjournals : t'.journals = t.journals ++ [journal] := hwritten.journals
        rcases List.mem_append.mp (hjournals ▸ hj) with hj | hj
        · exact h j hj hclosing
        · rw [List.mem_singleton.mp hj]
          intro hadjusting
          obtain ⟨row, hrow, hrole⟩ := hadjusting
          obtain ⟨line, hline, hinserted⟩ := mem_tryMap hlines hrow
          obtain ⟨account, -, rfl, -⟩ := insertJournalLine_ok hinserted
          exact closingLines_roles hline hrole
    | _ => exact h

/-! ## Sources of stored journals -/

/-- Posted journals are told apart by the role of their lines. -/
theorem selectedBy_posted {t : Tables} {journal : GeneralJournal} (hnot : ¬isReversal t journal)
    (hclosing : isClosingReference journal.journalReference = false) (source : JournalSource) :
    selectedBy t source.code journal ↔
      source = if hasAdjustingLine journal then .adjusting else .billing := by
  by_cases hadjusting : hasAdjustingLine journal
  · cases source <;>
      simp [selectedBy, JournalSource.code, hnot, hclosing, hadjusting]
  · cases source <;>
      simp [selectedBy, JournalSource.code, hnot, hclosing, hadjusting]

theorem selectedBy_reversal {t : Tables} {journal : GeneralJournal} (hreversal : isReversal t journal)
    (hclosing : isClosingReference journal.journalReference = false) (source : JournalSource) :
    selectedBy t source.code journal ↔ source = .reversal := by
  cases source <;> simp [selectedBy, JournalSource.code, hreversal, hclosing]

theorem selectedBy_closing {t : Tables} {journal : GeneralJournal} (hnot : ¬isReversal t journal)
    (hclosing : isClosingReference journal.journalReference = true)
    (hroles : ¬hasAdjustingLine journal) (source : JournalSource) :
    selectedBy t source.code journal ↔ source = .periodClosing := by
  cases source <;> simp [selectedBy, JournalSource.code, hnot, hclosing, hroles]

theorem isReversal_iff {t : Tables} {journal : GeneralJournal} :
    isReversal t journal ↔ ∃ r ∈ t.reversals, r.reversalJournalId = journal.generalJournalId := by
  simp [isReversal, lineageOf?]

/-- The lines of a posted journal have the roles the command brought along. -/
theorem Booked.lineRoles {t : Tables} {command : Command} {record : ProposalRecord}
    {journal : GeneralJournal} {lineage : Option JournalReversal} {receipt : Option PostingReceipt}
    (hb : Booked dep t command record journal lineage receipt (execute dep t command))
    (hposts : command.posts) :
    journal.lines.map JournalEntryLine.accountRoleCode = command.lineRoles := by
  have hjournals := hb.journals
  cases ha : attempt dep t command with
  | error e =>
    rw [execute_of_error dep ha] at hjournals
    exact absurd (List.append_right_eq_self.mp hjournals.symm) (List.cons_ne_nil _ _)
  | ok t' =>
    rw [execute_of_ok dep ha] at hjournals
    cases command with
    | post proposal policy =>
      obtain ⟨⟨receipt, t''⟩, hok, rfl⟩ := map_eq_ok.mp ha
      exact persistProposal_roles hok hjournals
    | postProposal proposal =>
      obtain ⟨⟨receipt, t''⟩, hok, rfl⟩ := map_eq_ok.mp ha
      exact persistProposal_roles hok hjournals
    | postAdjustingJournal request => exact postAdjustingJournal_roles ha hjournals
    | _ => simp [Command.posts, Command.journalSource] at hposts

/-- An adjusting line in the new journal gives an adjusting journal away exactly when the roles
    of the command do. -/
theorem Booked.roles {t : Tables} {command : Command} {record : ProposalRecord}
    {journal : GeneralJournal} {lineage : Option JournalReversal} {receipt : Option PostingReceipt}
    (hb : Booked dep t command record journal lineage receipt (execute dep t command))
    (hposts : command.posts) :
    command.rolesNameSource ↔
      (hasAdjustingLine journal ↔ command.journalSource = some .adjusting) := by
  rw [hasAdjustingLine_iff, hb.lineRoles hposts]
  cases command with
  | post proposal policy => simp [Command.rolesNameSource, Command.journalSource, Command.lineRoles]
  | postProposal proposal => simp [Command.rolesNameSource, Command.journalSource, Command.lineRoles]
  | postAdjustingJournal request =>
    simp [Command.rolesNameSource, Command.journalSource, Command.lineRoles]
  | _ => simp [Command.posts, Command.journalSource] at hposts

/-- A journal without lineage of its own is no reversal when it is new. -/
theorem Booked.not_reversal {t t' : Tables} (hwf : WellFormed dep t) (hkept : PostingsKept t)
    {command : Command} {record : ProposalRecord} {journal : GeneralJournal}
    {receipt : Option PostingReceipt} (hb : Booked dep t command record journal none receipt t') :
    ¬isReversal t' journal := by
  intro hreversal
  obtain ⟨r, hr, hof⟩ := isReversal_iff.mp hreversal
  rw [hb.reversals, Option.toList_none, List.append_nil] at hr
  obtain ⟨⟨j, hj, hid⟩, -⟩ := hkept.lineage r hr
  have hlt := hwf.journal_lt j hj
  have hnew := hb.journal_id
  omega

/-- The new journal is selected by the filter of its command exactly when the roles name it. -/
theorem Booked.named {t : Tables} (hwf : WellFormed dep t) (hkept : PostingsKept t)
    {command : Command} {record : ProposalRecord} {journal : GeneralJournal}
    {lineage : Option JournalReversal} {receipt : Option PostingReceipt}
    (hb : Booked dep t command record journal lineage receipt (execute dep t command))
    (hclosingRoles : ClosingRolesKept (execute dep t command)) :
    (∀ source : JournalSource, selectedBy (execute dep t command) source.code journal ↔
      command.journalSource = some source) ↔ command.rolesNameSource := by
  have hmem : journal ∈ (execute dep t command).journals := by
    rw [hb.journals]
    exact List.mem_append_right _ List.mem_cons_self
  have hfresh : lineage = none → ¬isReversal (execute dep t command) journal := by
    rintro rfl
    exact hb.not_reversal hwf hkept
  have hposted : ∀ {id : String}, lineage = none → matchesProposalId id = true →
      journal.journalReference = PostingLedger.generalJournalReference id →
      command.posts →
      ((∀ source : JournalSource, selectedBy (execute dep t command) source.code journal ↔
        command.journalSource = some source) ↔ command.rolesNameSource) := by
    intro id hlineage hid hreference hposts
    have hclosing : isClosingReference journal.journalReference = false := by
      rw [hreference]
      exact (fromProposal_reference hid).not_closing
    have hnames : ∀ s s' : JournalSource,
        (∀ source, source = s ↔ some s' = some source) ↔ s = s' := by
      intro s s'
      constructor
      · intro hall
        exact (Option.some.inj ((hall s).mp rfl)).symm
      · rintro rfl source
        rw [Option.some.injEq, eq_comm]
    rw [hb.roles hposts]
    simp only [selectedBy_posted (hfresh hlineage) hclosing]
    rcases hposts with hsource | hsource
    · rw [hsource, hnames]
      by_cases hadjusting : hasAdjustingLine journal
      · simp [hadjusting]
      · simp [hadjusting]
    · rw [hsource, hnames]
      by_cases hadjusting : hasAdjustingLine journal
      · simp [hadjusting]
      · simp [hadjusting]
  have hbooking := hb.booking
  cases hbooking with
  | @post proposal _ _ hreference =>
    exact hposted rfl proposal.proposalId_matches hreference (Or.inl rfl)
  | @postProposal proposal _ _ hreference =>
    exact hposted rfl proposal.proposalId_matches hreference (Or.inl rfl)
  | adjusting hid _ hreference => exact hposted rfl hid hreference (Or.inr rfl)
  | @reverse request policy original _ horiginal hfinal hnot _ _ _ hreference =>
    have hstored : original ∈ t.journals := List.mem_of_find?_eq_some horiginal
    obtain ⟨-, -, -, id, hid, horef, -, -⟩ := hkept.original_posted hstored hfinal hnot
    have hrequest : original.journalReference = request.journalReference := by
      simpa using List.find?_some horiginal
    have hclosing : isClosingReference journal.journalReference = false := by
      apply FromProposal.not_closing
      refine ⟨id, hid, ?_⟩
      rw [hreference, ← hrequest, horef, String.toList_append]
      exact List.prefix_append _ _
    have hreversal : isReversal (execute dep t (.reverse request policy)) journal := by
      rw [isReversal_iff, hb.reversals]
      exact ⟨_, List.mem_append_right _ List.mem_cons_self, rfl⟩
    refine iff_of_true (fun source => ?_) trivial
    rw [selectedBy_reversal hreversal hclosing]
    simp [Command.journalSource, eq_comm]
  | @close request _ _ hreference =>
    have hclosing : isClosingReference journal.journalReference = true :=
      hreference ▸ closingReference_closing request
    refine iff_of_true (fun source => ?_) trivial
    rw [selectedBy_closing (hfresh rfl) hclosing (hclosingRoles journal hmem hclosing)]
    simp [Command.journalSource, eq_comm]

/-! ## Later commands -/

/-- No later command turns an older journal into a reversal. -/
theorem isReversal_execute {t : Tables} (hwf : WellFormed dep t) {journal : GeneralJournal}
    (hmem : journal ∈ t.journals) (command : Command) :
    isReversal (execute dep t command) journal ↔ isReversal t journal := by
  rw [isReversal_iff, isReversal_iff]
  rcases execute_booked hwf command with hu | ⟨record, new, lineage, hb⟩
  · rw [hu.reversals]
  · rw [hb.reversals]
    constructor
    · intro h
      obtain ⟨r, hr, hof⟩ := h
      rcases List.mem_append.mp hr with hr | hr
      · exact ⟨r, hr, hof⟩
      · rw [Option.mem_toList] at hr
        have hlt := hwf.journal_lt journal hmem
        have hnew := hb.journal_id
        have hbooking := hb.booking
        generalize builtReceipt dep t command = receipt at hbooking
        cases hbooking with
        | reverse =>
          cases hr
          have hid : new.generalJournalId = journal.generalJournalId := hof
          omega
        | _ => cases hr
    · intro h
      obtain ⟨r, hr, hof⟩ := h
      exact ⟨r, List.mem_append_left _ hr, hof⟩

theorem isReversal_run {t : Tables} (hwf : WellFormed dep t) {journal : GeneralJournal}
    (hmem : journal ∈ t.journals) (commands : List Command) :
    isReversal (run (execute dep) t commands) journal ↔ isReversal t journal := by
  induction commands generalizing t with
  | nil => exact Iff.rfl
  | cons command commands ih =>
    rw [run_cons, ih (wellFormed_execute hwf command)
      ((extends_execute hwf command).journals.subset hmem)]
    exact isReversal_execute hwf hmem command

/-- What is executed later does not change which filter selects a journal. -/
theorem selectedBy_run {t : Tables} (hwf : WellFormed dep t) {journal : GeneralJournal}
    (hmem : journal ∈ t.journals) (commands : List Command) (code : String) :
    selectedBy (run (execute dep) t commands) code journal ↔ selectedBy t code journal := by
  unfold selectedBy
  rw [isReversal_run hwf hmem]

/-! ## Writers -/

theorem closingRolesKept_ledgerAfter (commands : List Command) :
    ClosingRolesKept (ledgerAfter dep commands) := by
  induction commands using List.reverseRecOn with
  | nil => exact fun _ h => nomatch h
  | append_singleton commands command ih =>
    rw [ledgerAfter_concat]
    exact closingRolesKept_execute (wellFormed_ledgerAfter commands) ih command

/-- A journal written by a command is the one that was booked. -/
theorem Writes.booked {before : List Command} {command : Command} {journal : GeneralJournal}
    (h : Writes dep before command journal) : ∃ record lineage,
      Booked dep (ledgerAfter dep before) command record journal lineage
        (builtReceipt dep (ledgerAfter dep before) command)
        (execute dep (ledgerAfter dep before) command) := by
  obtain ⟨hnot, hmem⟩ := h
  rcases execute_booked (wellFormed_ledgerAfter before) command with
    hu | ⟨record, journal', lineage, hb⟩
  · rw [hu.journals] at hmem
    exact absurd hmem hnot
  · have hjournals := hb.journals
    rw [hjournals] at hmem
    rcases List.mem_append.mp hmem with hmem | hmem
    · exact absurd hmem hnot
    · rw [List.mem_singleton.mp hmem]
      exact ⟨record, lineage, hb⟩

/-- A booked journal is written. -/
theorem Booked.writes {before : List Command} {command : Command} {record : ProposalRecord}
    {journal : GeneralJournal} {lineage : Option JournalReversal} {receipt : Option PostingReceipt}
    (hb : Booked dep (ledgerAfter dep before) command record journal lineage receipt
      (execute dep (ledgerAfter dep before) command)) : Writes dep before command journal := by
  refine ⟨fun hmem => ?_, ?_⟩
  · exact absurd rfl (hb.reference_fresh journal hmem)
  · rw [hb.journals]
    exact List.mem_append_right _ List.mem_cons_self

/-- Every stored journal was written by a command of the run. -/
theorem exists_writer {commands : List Command} {journal : GeneralJournal}
    (h : journal ∈ (ledgerAfter dep commands).journals) :
    ∃ before command, before ++ [command] <+: commands ∧ Writes dep before command journal := by
  induction commands using List.reverseRecOn with
  | nil => cases h
  | append_singleton commands command ih =>
    by_cases hold : journal ∈ (ledgerAfter dep commands).journals
    · obtain ⟨before, c, hc, hwrites⟩ := ih hold
      exact ⟨before, c, hc.trans (List.prefix_append _ _), hwrites⟩
    · rw [ledgerAfter_concat] at h
      exact ⟨commands, command, List.prefix_refl _, hold, h⟩

theorem journals_mono {before commands : List Command} (h : before <+: commands)
    {journal : GeneralJournal} (hmem : journal ∈ (ledgerAfter dep before).journals) :
    journal ∈ (ledgerAfter dep commands).journals := by
  obtain ⟨later, rfl⟩ := h
  rw [ledgerAfter, run_append]
  exact (extends_run (wellFormed_ledgerAfter before) later).journals.subset hmem

theorem Writes.mem {commands before : List Command} {command : Command} {journal : GeneralJournal}
    (h : Writes dep before command journal) (hc : before ++ [command] <+: commands) :
    journal ∈ (ledgerAfter dep commands).journals := by
  refine journals_mono hc ?_
  rw [ledgerAfter_concat]
  exact h.2

/-- One command of the run wrote the journal. -/
theorem Writes.unique {commands before before' : List Command} {command command' : Command}
    {journal : GeneralJournal} (h : Writes dep before command journal)
    (h' : Writes dep before' command' journal) (hc : before ++ [command] <+: commands)
    (hc' : before' ++ [command'] <+: commands) : before = before' ∧ command = command' := by
  have hearlier : ∀ {before before' : List Command} {command command' : Command},
      Writes dep before command journal → Writes dep before' command' journal →
      before ++ [command] <+: commands → before' ++ [command'] <+: commands →
      before'.length ≤ before.length := by
    intro before before' command command' h h' hc hc'
    by_contra hlt
    have hinitial : before ++ [command] <+: before' := by
      refine List.prefix_of_prefix_length_le hc ((List.prefix_append _ _).trans hc') ?_
      rw [List.length_append, List.length_singleton]
      omega
    refine h'.1 (journals_mono hinitial ?_)
    rw [ledgerAfter_concat]
    exact h.2
  have hlength : before.length = before'.length :=
    Nat.le_antisymm (hearlier h' h hc' hc) (hearlier h h' hc hc')
  have hinitial : before ++ [command] <+: before' ++ [command'] := by
    refine List.prefix_of_prefix_length_le hc hc' ?_
    rw [List.length_append, List.length_append, hlength]
    exact Nat.le_refl _
  have heq := hinitial.eq_of_length (by rw [List.length_append, List.length_append, hlength]; rfl)
  obtain ⟨hbefore, hcommand⟩ := List.append_inj heq hlength
  exact ⟨hbefore, List.singleton_inj.mp hcommand⟩

/-- The filter that selects a journal names its writer exactly when the writer's roles do. -/
theorem Writes.named_iff {commands before : List Command} {command : Command}
    {journal : GeneralJournal} (h : Writes dep before command journal)
    (hc : before ++ [command] <+: commands) :
    (∀ source : JournalSource, selectedBy (ledgerAfter dep commands) source.code journal ↔
      command.journalSource = some source) ↔ command.rolesNameSource := by
  obtain ⟨record, lineage, hb⟩ := h.booked
  have hwf := @wellFormed_ledgerAfter dep before
  have hroles := @closingRolesKept_ledgerAfter dep (before ++ [command])
  rw [ledgerAfter_concat] at hroles
  rw [← hb.named hwf (postingsKept_ledgerAfter before) hroles]
  obtain ⟨later, rfl⟩ := hc
  have hsame : ∀ source : JournalSource,
      selectedBy (ledgerAfter dep (before ++ [command] ++ later)) source.code journal ↔
        selectedBy (execute dep (ledgerAfter dep before) command) source.code journal := by
    intro source
    rw [ledgerAfter, run_append, ← ledgerAfter, ledgerAfter_concat]
    exact selectedBy_run (wellFormed_execute hwf command) h.2 later source.code
  simp only [hsame]

/-- The four filters list a period and name the command behind every journal exactly when no
    journal of a proposal has a line of the role `adjusting` and every adjusting journal has. -/
theorem journalSources_partition_iff (dep : Deployment) (commands : List Command)
    (horder : OrdersTexts dep) (hdates : ∀ j ∈ (ledgerAfter dep commands).journals,
      1 ≤ j.accountingDate ∧ j.accountingDate ≤ maxOrdinal) :
    (FiltersListed dep (ledgerAfter dep commands) ∧
      ∀ journal ∈ (ledgerAfter dep commands).journals, FilterNamesWriter dep commands journal) ↔
      EveryStep (RolesNameSource dep) commands := by
  have hwf := @wellFormed_ledgerAfter dep commands
  have hlisted := filtersListed horder hwf (postingsKept_ledgerAfter commands) hdates
  constructor
  · intro hall before command hc hchanged
    rcases execute_booked (wellFormed_ledgerAfter before) command with
      hu | ⟨record, journal, lineage, hb⟩
    · exact absurd hu.journals hchanged
    · have hwrites := hb.writes
      have hmem := hwrites.mem hc
      obtain ⟨before', command', hc', hwrites', hnamed⟩ := hall.2 journal hmem
      obtain ⟨rfl, rfl⟩ := hwrites.unique hwrites' hc hc'
      exact (hwrites.named_iff hc).mp hnamed
  · intro hroles
    refine ⟨hlisted, fun journal hmem => ?_⟩
    obtain ⟨before, command, hc, hwrites⟩ := exists_writer hmem
    refine ⟨before, command, hc, hwrites, (hwrites.named_iff hc).mpr (hroles before command hc ?_)⟩
    intro hsame
    exact hwrites.1 (hsame ▸ hwrites.2)

/-! ## An adjusting journal and two invoices -/

/-- The sample catalog with one more role, `adjusting`, on the revenue account. -/
def adjustingRoleCatalog : Catalog :=
  { sampleCatalog with
    roleMappings := sampleMappings 1 ++ [⟨1, "adjusting", 15, "v1", "v1", 0, none⟩] }

/-- One unit, accrued by hand. -/
def accrual : AdjustingRequest :=
  ⟨"urn:cwl:legal_entity:e1", "urn:cwl:book:b1", "2024-01", 738890, "accrual-1",
    "sha256:0000000000000000000000000000000000000000000000000000000000000000",
    "7c9e6679-7425-40de-944b-e07fc1f90ae7", "KRW",
    [⟨1, "110100", "adjusting", 1000000, 0⟩, ⟨2, "410100", "adjusting", 0, 1000000⟩]⟩

theorem invoice_accepted :
    (invoiceFields "0f8fad5b-d9cb-469f-a165-70867728950e" "invoice-1" 738890).postInit = .ok () := by
  decide +kernel

theorem adjustingRole_matches : matchesCode "adjusting" = true := by decide

/-- An invoice with the revenue on the role `adjusting`. -/
def adjustingRoleFields : JournalProposalFields :=
  { invoiceFields "0f8fad5b-d9cb-469f-a165-70867728950e" "invoice-1" 738890 with
    lines := [
      ⟨1, "accounts_receivable", 1000000, 0, firstLine_pos, receivableRole_matches,
        debitLine_oneSided⟩,
      ⟨2, "adjusting", 0, 1000000, secondLine_pos, adjustingRole_matches, creditLine_oneSided⟩] }

theorem adjustingRoleFields_accepted : adjustingRoleFields.postInit = .ok () := by decide +kernel

/-- January with a plain invoice and an accrual. -/
def accrualCommands : List Command := [
  samplePeriod "2024-01" "open-1" 738886 738916,
  .postProposal ⟨_, invoice_accepted⟩,
  .postAdjustingJournal accrual]

theorem accrual_listed :
    FiltersListed (sampleDeployment adjustingRoleCatalog)
        (ledgerAfter (sampleDeployment adjustingRoleCatalog) accrualCommands) ∧
      ∀ journal ∈ (ledgerAfter (sampleDeployment adjustingRoleCatalog) accrualCommands).journals,
        FilterNamesWriter (sampleDeployment adjustingRoleCatalog) accrualCommands journal :=
  (journalSources_partition_iff (sampleDeployment adjustingRoleCatalog) accrualCommands
    (sampleDeployment_ordersTexts _) (by decide +kernel)).mpr fun before command hc _ => by
      have hmem : command ∈ accrualCommands :=
        hc.subset (List.mem_append_right _ List.mem_cons_self)
      rcases List.mem_cons.mp hmem with rfl | hmem
      · trivial
      · rcases List.mem_cons.mp hmem with rfl | hmem
        · show ∀ line ∈ invoiceLines 1000000 oneUnit_pos, line.accountRoleCode ≠ "adjusting"
          decide +kernel
        · rw [List.mem_singleton.mp hmem]
          exact ⟨_, List.mem_cons_self, rfl⟩

/-- January with the invoice on the role `adjusting`. -/
def adjustingRoleCommands : List Command := [
  samplePeriod "2024-01" "open-1" 738886 738916,
  .postProposal ⟨_, adjustingRoleFields_accepted⟩]

/-- The invoice is missing under `billing` and stands under `adjusting`. -/
theorem adjustingRoleInvoice_misnamed :
    (loadPeriodJournals (sampleDeployment adjustingRoleCatalog)
        (ledgerAfter (sampleDeployment adjustingRoleCatalog) adjustingRoleCommands)
        "urn:cwl:legal_entity:e1" "urn:cwl:book:b1" "2024-01" 50 none "billing").map (fun document =>
          document.journals.map PeriodJournalEntry.idempotencyKey) = .ok [] ∧
    (loadPeriodJournals (sampleDeployment adjustingRoleCatalog)
        (ledgerAfter (sampleDeployment adjustingRoleCatalog) adjustingRoleCommands)
        "urn:cwl:legal_entity:e1" "urn:cwl:book:b1" "2024-01" 50 none "adjusting").map (fun document =>
          document.journals.map PeriodJournalEntry.idempotencyKey) = .ok ["invoice-1"] ∧
    ∀ journal ∈ (ledgerAfter (sampleDeployment adjustingRoleCatalog) adjustingRoleCommands).journals,
      ¬FilterNamesWriter (sampleDeployment adjustingRoleCatalog) adjustingRoleCommands journal := by
  refine ⟨by decide +kernel, by decide +kernel, ?_⟩
  intro journal _ hnames
  obtain ⟨before, command, hc, hwrites, hnamed⟩ := hnames
  have hroles := (hwrites.named_iff hc).mp hnamed
  have hmem : command ∈ adjustingRoleCommands :=
    hc.subset (List.mem_append_right _ List.mem_cons_self)
  rcases List.mem_cons.mp hmem with rfl | hmem
  · -- opening a period writes no journal
    obtain ⟨record, lineage, hb⟩ := hwrites.booked
    have hbooking := hb.booking
    generalize builtReceipt _ _ _ = receipt at hbooking
    cases hbooking
  · rw [List.mem_singleton.mp hmem] at hroles
    have hplain : ∀ line ∈ adjustingRoleFields.lines, line.accountRoleCode ≠ "adjusting" := hroles
    exact absurd hplain (by decide)

end AccountingPlatform.Postgres
