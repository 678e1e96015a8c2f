/-
  Whether hard closes move income to retained earnings once.

  A closing journal clears what the accounts with a cleared mapping carry through the period
  end, one row for each mapping, and puts the difference on 310100. Its journals balance, so a
  close moves the right amount exactly when the joined rows add up to what those accounts carry
  through the latest end the book has hard-closed, this close included.
-/
import AccountingPlatform.Postgres.AppendOnly
import AccountingPlatform.Postgres.Balances
import AccountingPlatform.Postgres.CloseSnapshots

namespace AccountingPlatform.Postgres

open AccountingPlatform.Lib AccountingPlatform.Core

variable (dep : Deployment)

/-! ## Income and retained earnings -/

/-- The line's account is mapped to a role that hard close clears. -/
def isIncomeLine (row : LedgerLine) : Bool :=
  clearedMappings dep row.account.chartAccountId ≠ []

/-- The line of a closing journal on 310100. -/
def isPlugLine (row : LedgerLine) : Bool :=
  isClosingReference row.journal.journalReference && row.code == "310100" &&
    row.line.accountRoleCode == "retained_earnings"

/-- The book has hard-closed a period that ends on or after the day. -/
def ClosedThrough (t : Tables) (bookId : ℕ) (date : Date) : Prop :=
  ∃ p ∈ t.fiscalPeriods, HardClosedFor t bookId p.fiscalPeriodId ∧ date ≤ p.periodEndDate

instance (t : Tables) (bookId : ℕ) (date : Date) : Decidable (ClosedThrough t bookId date) :=
  inferInstanceAs (Decidable (∃ p ∈ t.fiscalPeriods, _))

/-- What all closing journals of the book moved to 310100. -/
def movedToRetainedEarnings (t : Tables) (entity : LegalEntityRecord) (book : AccountingBook) : ℤ :=
  total lineNet ((bookLines dep t entity.legalEntityId book.accountingBookId).filter isPlugLine)

/-- Credit less debit of the income lines, closing journals left out, dated on or before the end
    of a period the book has hard-closed. -/
def earnedThroughClosed (t : Tables) (entity : LegalEntityRecord) (book : AccountingBook) : ℤ :=
  total lineNet ((bookLines dep t entity.legalEntityId book.accountingBookId).filter fun row =>
    isIncomeLine dep row = true ∧ isClosingReference row.journal.journalReference = false ∧
      ClosedThrough t book.accountingBookId row.journal.accountingDate)

/-- Closing journals balance and have moved the income of the closed range once. -/
structure IncomeMovedOnce (t : Tables) (entity : LegalEntityRecord) (book : AccountingBook) :
    Prop where
  balanced : ∀ j ∈ t.journals, isClosingReference j.journalReference = true →
    total JournalEntryLine.debitAmount j.lines = total JournalEntryLine.creditAmount j.lines
  moved : movedToRetainedEarnings dep t entity book = earnedThroughClosed dep t entity book

/-! ## A hard close -/

/-- The command commits a hard close of the book and period; replays excepted. -/
structure HardCloses (t : Tables) (request : CloseRequest) (entity : LegalEntityRecord)
    (book : AccountingBook) (period : FiscalPeriod) : Prop where
  status : request.periodStatusCode = "hard_closed"
  scope : dep.loadScope request.legalEntityReference request.accountingBookReference "the close" =
    .ok (entity, book)
  period_eq : periodByCode dep t request.periodCode = some period
  unlocked : t.bookPeriodStatus book.accountingBookId period ≠ .hardClosed
  commits : Succeeds (attempt dep t (.closeFiscalPeriod request))

/-- What a close through the period end puts on its clearing lines. -/
def clearedNet (t : Tables) (entity : LegalEntityRecord) (book : AccountingBook)
    (period : FiscalPeriod) : ℤ :=
  total (fun row => contextRound ((row.2.2.2 : ℤ) - row.2.2.1))
    (closingIncome dep t entity.legalEntityId book.accountingBookId period.periodEndDate)

/-- What the income accounts carry through the latest end closed after the close of `period`,
    with the clearing lines of earlier closing journals. -/
def carriedNet (t : Tables) (entity : LegalEntityRecord) (book : AccountingBook)
    (period : FiscalPeriod) : ℤ :=
  total lineNet ((bookLines dep t entity.legalEntityId book.accountingBookId).filter fun row =>
    isIncomeLine dep row = true ∧ isPlugLine row = false ∧
      (row.journal.accountingDate ≤ period.periodEndDate ∨
        ClosedThrough t book.accountingBookId row.journal.accountingDate))

/-- A hard close leaves the income moved once. -/
def MovesIncomeOnce (t : Tables) (command : Command) : Prop :=
  ∀ request entity book period, command = .closeFiscalPeriod request →
    HardCloses dep t request entity book period →
      IncomeMovedOnce dep (execute dep t command) entity book

/-- A hard close clears what the income accounts carry, no more and no less. -/
def ClearsCarriedIncome (t : Tables) (command : Command) : Prop :=
  ∀ request entity book period, command = .closeFiscalPeriod request →
    HardCloses dep t request entity book period →
      clearedNet dep t entity book period = carriedNet dep t entity book period

/-- A close in calendar order over accounts with one cleared mapping and sums of at most 28
    digits, 310100 not being one of them. -/
structure OrderlyClose (t : Tables) (entity : LegalEntityRecord) (book : AccountingBook)
    (period : FiscalPeriod) : Prop where
  in_order : ∀ p ∈ t.fiscalPeriods, HardClosedFor t book.accountingBookId p.fiscalPeriodId →
    p.periodEndDate ≤ period.periodEndDate
  one_mapping : ∀ account ∈ dep.catalog.chartAccounts,
    (clearedMappings dep account.chartAccountId).length ≤ 1
  plug_apart : ∀ account ∈ dep.catalog.chartAccounts, account.chartAccountCode = "310100" →
    clearedMappings dep account.chartAccountId = []
  fits : ∀ row ∈ closingIncome dep t entity.legalEntityId book.accountingBookId
    period.periodEndDate, |(row.2.2.2 : ℤ) - row.2.2.1| < 10 ^ contextPrecision

instance (t : Tables) (entity : LegalEntityRecord) (book : AccountingBook) (period : FiscalPeriod) :
    Decidable (OrderlyClose dep t entity book period) :=
  decidable_of_iff
    ((∀ p ∈ t.fiscalPeriods, HardClosedFor t book.accountingBookId p.fiscalPeriodId →
        p.periodEndDate ≤ period.periodEndDate) ∧
      (∀ account ∈ dep.catalog.chartAccounts,
        (clearedMappings dep account.chartAccountId).length ≤ 1) ∧
      (∀ account ∈ dep.catalog.chartAccounts, account.chartAccountCode = "310100" →
        clearedMappings dep account.chartAccountId = []) ∧
      ∀ row ∈ closingIncome dep t entity.legalEntityId book.accountingBookId
        period.periodEndDate, |(row.2.2.2 : ℤ) - row.2.2.1| < 10 ^ contextPrecision)
    ⟨fun h => ⟨h.1, h.2.1, h.2.2.1, h.2.2.2⟩,
      fun h => ⟨h.in_order, h.one_mapping, h.plug_apart, h.fits⟩⟩

variable {dep}

/-! ## The closing journal's lines -/

/-- The loop adds up the nets and writes each on the other side. -/
theorem clearingLines_net (rows : List (String × String × ℕ × ℕ)) (lines : List PostedJournalLine)
    (amount : ℤ) :
    total (fun line : PostedJournalLine => (line.creditAmount : ℤ) - line.debitAmount)
        (clearingLines rows lines amount).1 =
      total (fun line : PostedJournalLine => (line.creditAmount : ℤ) - line.debitAmount) lines -
        total (fun row : String × String × ℕ × ℕ => contextRound ((row.2.2.2 : ℤ) - row.2.2.1)) rows := by
  induction rows generalizing lines amount with
  | nil => simp [clearingLines]
  | cons row rows ih =>
    obtain ⟨code, role, debitTotal, creditTotal⟩ := row
    simp only [clearingLines, total_cons]
    split
    · next hzero => rw [ih, hzero, zero_add]
    · rw [ih, total_append, total_cons, total_nil]
      dsimp only
      rw [show ((-contextRound ((creditTotal : ℤ) - debitTotal)).toNat : ℤ) -
          (contextRound ((creditTotal : ℤ) - debitTotal)).toNat =
            -contextRound ((creditTotal : ℤ) - debitTotal) by omega]
      ring

/-- Every clearing line is of a row of the aggregate. -/
theorem mem_clearingLines {rows : List (String × String × ℕ × ℕ)} {lines : List PostedJournalLine}
    {amount : ℤ} {line : PostedJournalLine} (h : line ∈ (clearingLines rows lines amount).1) :
    line ∈ lines ∨ ∃ row ∈ rows, line.chartAccountCode = row.1 ∧ line.accountRoleCode = row.2.1 := by
  induction rows generalizing lines amount with
  | nil => exact Or.inl h
  | cons row rows ih =>
    obtain ⟨code, role, debitTotal, creditTotal⟩ := row
    simp only [clearingLines] at h
    split at h
    · rcases ih h with h | ⟨row, hrow, hcode⟩
      · exact Or.inl h
      · exact Or.inr ⟨row, List.mem_cons_of_mem _ hrow, hcode⟩
    · rcases ih h with h | ⟨row, hrow, hcode⟩
      · rcases List.mem_append.mp h with h | h
        · exact Or.inl h
        · rw [List.mem_singleton.mp h]
          exact Or.inr ⟨_, List.mem_cons_self, rfl, rfl⟩
      · exact Or.inr ⟨row, List.mem_cons_of_mem _ hrow, hcode⟩

theorem mem_closingIncome {t : Tables} {legalEntityId bookId : ℕ} {date : Date}
    {row : String × String × ℕ × ℕ} (h : row ∈ closingIncome dep t legalEntityId bookId date) :
    ∃ line ∈ bookLines dep t legalEntityId bookId, line.code = row.1 ∧
      isIncomeLine dep line = true ∧ isClearedRole row.2.1 = true := by
  obtain ⟨key, hkey, rfl⟩ := List.mem_map.mp h
  obtain ⟨⟨line, role⟩, hjoined, rfl⟩ := mem_groupKeys.mp hkey
  rw [(dep.rowOrder_perm _).mem_iff] at hjoined
  obtain ⟨line', hline, hmapped⟩ := List.mem_flatMap.mp hjoined
  obtain ⟨m, hm, heq⟩ := List.mem_map.mp hmapped
  obtain ⟨rfl, rfl⟩ := Prod.mk.inj heq
  rw [linesThrough_eq] at hline
  refine ⟨line', (List.mem_filter.mp hline).1, rfl, ?_, (List.mem_filter.mp hm).2⟩
  simpa [isIncomeLine] using List.ne_nil_of_mem hm

/-- A closing line that is not the plug. -/
def isClearingLine (line : PostedJournalLine) : Bool :=
  !(line.chartAccountCode == "310100" && line.accountRoleCode == "retained_earnings")

theorem isClearingLine_of_clearedRole {line : PostedJournalLine}
    (h : isClearedRole line.accountRoleCode = true) : isClearingLine line = true := by
  have hne : (line.accountRoleCode == "retained_earnings") = false := by
    by_contra hc
    rw [Bool.not_eq_false, beq_iff_eq] at hc
    rw [hc] at h
    revert h
    decide +kernel
  simp [isClearingLine, hne]

theorem retainedEarningsLine_plug {lineNumber : ℕ} {amount : ℤ} {line : PostedJournalLine}
    (h : line ∈ retainedEarningsLine lineNumber amount) : isClearingLine line = false := by
  unfold retainedEarningsLine at h
  split at h
  · cases h
  · rw [List.mem_singleton.mp h]
    simp [isClearingLine]

/-- The clearing lines take away what the close clears. -/
theorem closingLines_net (t : Tables) (entity : LegalEntityRecord) (book : AccountingBook)
    (period : FiscalPeriod) :
    total (fun line : PostedJournalLine => (line.creditAmount : ℤ) - line.debitAmount)
        ((closingLines dep t entity.legalEntityId book.accountingBookId
          period.periodEndDate).filter isClearingLine) =
      -clearedNet dep t entity book period := by
  have hnet := clearingLines_net (closingIncome dep t entity.legalEntityId book.accountingBookId
    period.periodEndDate) [] 0
  rw [total_nil, zero_sub] at hnet
  have hall : ∀ line ∈ (clearingLines (closingIncome dep t entity.legalEntityId
      book.accountingBookId period.periodEndDate) [] 0).1, isClearingLine line = true := by
    intro line hline
    rcases mem_clearingLines hline with hline | ⟨row, hrow, -, hrole⟩
    · cases hline
    · obtain ⟨-, -, -, -, hcleared⟩ := mem_closingIncome hrow
      exact isClearingLine_of_clearedRole (hrole ▸ hcleared)
  unfold closingLines
  dsimp only
  split
  · next hnil =>
    rw [hnil, total_nil] at hnet
    exact hnet
  · rw [List.filter_append, List.filter_eq_self.mpr hall,
      List.filter_eq_nil_iff.mpr fun line hline => by
        rw [retainedEarningsLine_plug hline]
        exact Bool.false_ne_true, List.append_nil]
    exact hnet

/-- Totals over a journal's joined lines are totals over the lines it was posted with. -/
theorem inserted_total {bookId : ℕ} {posted : List PostedJournalLine} {journal : GeneralJournal}
    (h : tryMap (insertJournalLine dep bookId) posted = .ok journal.lines) (f : LedgerLine → ℤ)
    (g : PostedJournalLine → ℤ)
    (hfg : ∀ line account, dep.chartAccountForCode bookId line.chartAccountCode = some account →
      f ⟨journal, ⟨line.lineNumber, account.chartAccountId, line.accountRoleCode, line.debitAmount,
        line.creditAmount⟩, account⟩ = g line) :
    total f (ledgerLines dep [journal]) = total g posted := by
  rw [ledgerLines, List.flatMap_cons, List.flatMap_nil, List.append_nil]
  have hall := tryMap_ok h
  clear h
  generalize journal.lines = lines at hall ⊢
  induction hall with
  | nil => rfl
  | @cons line row _ _ hrow _ ih =>
    obtain ⟨account, haccount, rfl, -⟩ := insertJournalLine_ok hrow
    have hid := dep.chartAccount?_of_mem (dep.chartAccountForCode_mem haccount).1
    rw [List.filterMap_cons]
    simp only [hid, Option.map_some, total_cons]
    rw [ih, hfg line account haccount]

/-! ## Closing journals -/

theorem hardClosedFor_iff {t : Tables} (h : WellFormed dep t) {bookId fiscalPeriodId : ℕ} :
    HardClosedFor t bookId fiscalPeriodId ↔
      ∃ s ∈ t.snapshots, s.accountingBookId = bookId ∧ s.fiscalPeriodId = fiscalPeriodId := by
  refine ⟨snapshot_of_hardClosed h, ?_⟩
  rintro ⟨s, hs, rfl, rfl⟩
  obtain ⟨c, hc, hfor, hhard⟩ := h.snapshots.locked s hs
  exact ⟨c, hc, hfor, hhard⟩

theorem ClosedThrough.mono {t t' : Tables} (hwf : WellFormed dep t) (hwf' : WellFormed dep t')
    (he : Extends t t') {bookId : ℕ} {date : Date} (h : ClosedThrough t bookId date) :
    ClosedThrough t' bookId date := by
  obtain ⟨p, hp, hhard, hdate⟩ := h
  obtain ⟨s, hs, hb, hid⟩ := (hardClosedFor_iff hwf).mp hhard
  obtain ⟨q, hq, hqid, -, -, hend⟩ := he.periods p hp
  exact ⟨q, hq, (hardClosedFor_iff hwf').mpr ⟨s, he.snapshots.subset hs, hb, hid.trans hqid.symm⟩,
    hend ▸ hdate⟩

variable (dep) in
/-- A closing journal lies in the closed range of its book and has the plug and lines of income
    accounts only. -/
structure ClosingFacts (t : Tables) (journal : GeneralJournal) : Prop where
  closed : ClosedThrough t journal.accountingBookId journal.accountingDate
  lines : ∀ row ∈ ledgerLines dep [journal], isPlugLine row = true ∨ isIncomeLine dep row = true

variable (dep) in
def ClosingJournalsKept (t : Tables) : Prop :=
  ∀ j ∈ t.journals, isClosingReference j.journalReference = true → ClosingFacts dep t j

theorem ClosingFacts.mono {t t' : Tables} (hwf : WellFormed dep t) (hwf' : WellFormed dep t')
    (he : Extends t t') {journal : GeneralJournal} (h : ClosingFacts dep t journal) :
    ClosingFacts dep t' journal :=
  ⟨h.closed.mono hwf hwf' he, h.lines⟩

/-- The lines of a closing journal that was just written. -/
theorem ClosingPosted.lines {t t' : Tables} (hwf : WellFormed dep t) {request : CloseRequest}
    {entity : LegalEntityRecord} {book : AccountingBook} {period : FiscalPeriod}
    {journal : GeneralJournal}
    (h : ClosingPosted dep t request entity book period (some journal) t') :
    isClosingReference journal.journalReference = true ∧
    (∀ row ∈ ledgerLines dep [journal], isPlugLine row = true ∨ isIncomeLine dep row = true) ∧
    total lineNet ((ledgerLines dep [journal]).filter fun row => !isPlugLine row) =
      -clearedNet dep t entity book period := by
  cases h with
  | journal hne hwritten hreference _ _ hlines =>
    have hclosing : isClosingReference journal.journalReference = true := by
      rw [hreference]
      exact closingReference_closing request
    have hplug : ∀ (line : JournalEntryLine) (account : ChartAccount),
        isPlugLine ⟨journal, line, account⟩ =
          (account.chartAccountCode == "310100" && line.accountRoleCode == "retained_earnings") := by
      intro line account
      simp only [isPlugLine, hclosing, Bool.true_and, LedgerLine.code]
    refine ⟨hclosing, ?_, ?_⟩
    · intro row hrow
      obtain ⟨hj, hline, haccount⟩ := mem_ledgerLines hrow
      rw [List.mem_singleton.mp hj] at hline
      obtain ⟨posted, hposted, hrow'⟩ := mem_tryMap hlines hline
      obtain ⟨account, hcode, heq, -⟩ := insertJournalLine_ok hrow'
      have hmem := dep.chartAccountForCode_mem hcode
      have hsame : row.account = account := by
        rw [heq, dep.chartAccount?_of_mem hmem.1] at haccount
        exact (Option.some.inj haccount).symm
      by_cases hclearing : isClearingLine posted = true
      · right
        have hin : posted ∈ (clearingLines (closingIncome dep t entity.legalEntityId
            book.accountingBookId period.periodEndDate) [] 0).1 := by
          unfold closingLines at hposted
          dsimp only at hposted
          split at hposted
          · cases hposted
          · rcases List.mem_append.mp hposted with hin | hin
            · exact hin
            · rw [retainedEarningsLine_plug hin] at hclearing
              cases hclearing
        rcases mem_clearingLines hin with hin | ⟨group, hgroup, hgcode, -⟩
        · cases hin
        · obtain ⟨line, hlmem, hlcode, hincome, -⟩ := mem_closingIncome hgroup
          have hlaccount := (hwf.line_facts hlmem).1
          rw [hlcode, ← hgcode, hcode] at hlaccount
          simp only [isIncomeLine, hsame, Option.some.inj hlaccount] at hincome ⊢
          exact hincome
      · left
        have hrowEq : isPlugLine row = isPlugLine ⟨journal, row.line, row.account⟩ := by
          rw [← List.mem_singleton.mp hj]
        rw [hrowEq, hplug, hsame, hmem.2.2.1, heq]
        simpa [isClearingLine] using hclearing
    · rw [← closingLines_net, total_filter, total_filter]
      refine inserted_total hlines _ _ fun line account haccount => ?_
      rw [hplug, (dep.chartAccountForCode_mem haccount).2.2.1]
      rfl

variable (dep) in
/-- The tables a hard close commits. -/
def hardClosedTables (t : Tables) (request : CloseRequest) (entity : LegalEntityRecord)
    (book : AccountingBook) (period : FiscalPeriod) (outbox : List OutboxEvent) : Tables :=
  { setBookPeriodClosed dep (withSnapshot dep t request entity book period)
      book.accountingBookId period.fiscalPeriodId .hardClosed with
    outboxEvents := outbox
    clock := t.clock + 1 }

/-- A hard close extends the closed range of its book to the period end. -/
theorem closedThrough_hardClosed {t t₂ : Tables} (hwf : WellFormed dep t) {request : CloseRequest}
    {entity : LegalEntityRecord} {book : AccountingBook} {period : FiscalPeriod}
    {outbox : List OutboxEvent} (hperiod : period ∈ t.fiscalPeriods)
    (hperiods : t₂.fiscalPeriods = t.fiscalPeriods) (hsnapshots : t₂.snapshots = t.snapshots)
    (hwf' : WellFormed dep (hardClosedTables dep t₂ request entity book period outbox)) (bookId : ℕ)
    (date : Date) :
    ClosedThrough (hardClosedTables dep t₂ request entity book period outbox) bookId date ↔
      (bookId = book.accountingBookId ∧ date ≤ period.periodEndDate) ∨
        ClosedThrough t bookId date := by
  obtain ⟨closedAt, hrefresh⟩ := setBookPeriodClosed_periods dep
    (withSnapshot dep t₂ request entity book period) book.accountingBookId period.fiscalPeriodId
    .hardClosed
  obtain ⟨status, hrefresh'⟩ : ∃ status,
      (hardClosedTables dep t₂ request entity book period outbox).fiscalPeriods =
        refreshStatus t.fiscalPeriods period.fiscalPeriodId status closedAt := by
    rw [show (withSnapshot dep t₂ request entity book period).fiscalPeriods = t.fiscalPeriods
      from hperiods] at hrefresh
    exact ⟨_, hrefresh⟩
  have hsnaps : (hardClosedTables dep t₂ request entity book period outbox).snapshots =
      t.snapshots ++ [newSnapshot dep t₂ request entity book period] := by
    rw [← hsnapshots]
    rfl
  constructor
  · rintro ⟨q, hq, hhard, hdate⟩
    obtain ⟨s, hs, hb, hid⟩ := (hardClosedFor_iff hwf').mp hhard
    rw [hrefresh'] at hq
    obtain ⟨p, hp, hpid, -, hend⟩ := refreshStatus_row hq
    rw [hsnaps] at hs
    rcases List.mem_append.mp hs with hs | hs
    · exact Or.inr ⟨p, hp, (hardClosedFor_iff hwf).mpr ⟨s, hs, hb, hid.trans hpid⟩, hend ▸ hdate⟩
    · rw [List.mem_singleton.mp hs] at hb hid
      rw [← period_of_id hwf.period_keys hperiod hp (hid.trans hpid)] at hend
      exact Or.inl ⟨hb.symm, hend ▸ hdate⟩
  · rintro (⟨rfl, hdate⟩ | ⟨p, hp, hhard, hdate⟩)
    · obtain ⟨q, hq, hqid, -, hend⟩ := refreshStatus_of_mem period.fiscalPeriodId
        status closedAt hperiod
      refine ⟨q, hrefresh' ▸ hq, (hardClosedFor_iff hwf').mpr ⟨newSnapshot dep t₂ request entity
        book period, ?_, rfl, hqid.symm⟩, hend ▸ hdate⟩
      rw [hsnaps]
      exact List.mem_append_right _ (List.mem_singleton.mpr rfl)
    · obtain ⟨s, hs, hb, hid⟩ := (hardClosedFor_iff hwf).mp hhard
      obtain ⟨q, hq, hqid, -, hend⟩ := refreshStatus_of_mem period.fiscalPeriodId
        status closedAt hp
      refine ⟨q, hrefresh' ▸ hq, (hardClosedFor_iff hwf').mpr ⟨s, ?_, hb, hid.trans hqid.symm⟩,
        hend ▸ hdate⟩
      rw [hsnaps]
      exact List.mem_append_left _ hs

theorem closingJournalsKept_effect {t t' : Tables} {command : Command} (hwf : WellFormed dep t)
    (h : ClosingJournalsKept dep t) (he : Effect dep t command t') : ClosingJournalsKept dep t' := by
  have hwf' := wellFormed_effect hwf he
  have hext := extends_effect he
  have hold : ∀ j ∈ t.journals, isClosingReference j.journalReference = true →
      ClosingFacts dep t' j := fun j hj hclosing => (h j hj hclosing).mono hwf hwf' hext
  cases he with
  | idle => exact hold
  | opened => exact hold
  | posted hwritten hfrom _ =>
    intro j hj hclosing
    rcases List.mem_append.mp (hwritten.journals ▸ hj) with hj | hj
    · exact hold j hj hclosing
    · rw [List.mem_singleton.mp hj, hfrom.not_closing] at hclosing
      cases hclosing
  | locked => exact hold
  | softClosed => exact hold
  | @hardClosed request entity book period _ posted t₂ hclosable _ _ _ hposted _ outbox =>
    obtain ⟨hperiods, -, hsnapshots, -, hjournals, -⟩ := hposted.keeps
    intro j hj hclosing
    have hj' : j ∈ t₂.journals := hj
    rw [hjournals] at hj'
    rcases List.mem_append.mp hj' with hj' | hj'
    · exact hold j hj' hclosing
    · rw [Option.mem_toList] at hj'
      obtain rfl := Option.mem_def.mp hj'
      have hlines := (hposted.lines (hwf.materialized hclosable.period_mem)).2.1
      cases hposted with
      | journal _ _ _ hdate hbook _ =>
        exact ⟨(closedThrough_hardClosed hwf hclosable.period_mem hperiods hsnapshots hwf' _ _).mpr
          (Or.inl ⟨hbook, Nat.le_of_eq hdate⟩), hlines⟩

theorem closingJournalsKept_execute {t : Tables} (hwf : WellFormed dep t)
    (h : ClosingJournalsKept dep t) (command : Command) :
    ClosingJournalsKept dep (execute dep t command) := by
  rcases execute_effect hwf command with ⟨-, heq⟩ | ⟨-, he⟩
  · rw [heq]
    exact h
  · exact closingJournalsKept_effect hwf h he

/-! ## Sums over the book -/

theorem isPlugLine_closing {row : LedgerLine} (h : isPlugLine row = true) :
    isClosingReference row.journal.journalReference = true := by
  simp only [isPlugLine, Bool.and_eq_true] at h
  exact h.1.1

/-- Closing journals balance, so 310100 gets what their other lines take. -/
theorem WellFormed.moved_eq {t : Tables} (h : WellFormed dep t) (entity : LegalEntityRecord)
    (book : AccountingBook) :
    movedToRetainedEarnings dep t entity book =
      -total lineNet ((bookLines dep t entity.legalEntityId book.accountingBookId).filter fun row =>
        isClosingReference row.journal.journalReference && !isPlugLine row) := by
  have hbalanced : total lineNet ((bookLines dep t entity.legalEntityId
      book.accountingBookId).filter fun row => isClosingReference row.journal.journalReference) =
        0 := by
    have hsub : ∀ j ∈ (bookJournals t entity.legalEntityId book.accountingBookId).filter
        (fun j => isClosingReference j.journalReference), j ∈ t.journals := fun j hj =>
      (List.mem_filter.mp (List.mem_filter.mp hj).1).1
    rw [bookLines, ← ledgerLines_filter dep fun j => isClosingReference j.journalReference,
      total_lineNet, h.ledgerLines_balanced hsub, sub_self]
  have hsplit := total_filter_add_not lineNet isPlugLine ((bookLines dep t entity.legalEntityId
    book.accountingBookId).filter fun row => isClosingReference row.journal.journalReference)
  have hplug : ∀ row : LedgerLine, (isPlugLine row && isClosingReference
      row.journal.journalReference) = isPlugLine row := by
    intro row
    cases hp : isPlugLine row with
    | false => rfl
    | true => rw [isPlugLine_closing hp, Bool.and_self]
  simp only [List.filter_filter, hbalanced, hplug] at hsplit
  rw [movedToRetainedEarnings, eq_neg_iff_add_eq_zero, ← hsplit]
  refine congrArg _ (congrArg _ (List.filter_congr fun row _ => ?_))
  exact Bool.and_comm _ _

/-- Income lines of the range a close of `period` brings to, closing journals left out. -/
theorem carriedNet_eq {t : Tables} (h : WellFormed dep t) (hkept : ClosingJournalsKept dep t)
    (entity : LegalEntityRecord) (book : AccountingBook) (period : FiscalPeriod) :
    carriedNet dep t entity book period =
      total lineNet ((bookLines dep t entity.legalEntityId book.accountingBookId).filter fun row =>
        isIncomeLine dep row = true ∧ isClosingReference row.journal.journalReference = false ∧
          (row.journal.accountingDate ≤ period.periodEndDate ∨
            ClosedThrough t book.accountingBookId row.journal.accountingDate)) -
        movedToRetainedEarnings dep t entity book := by
  rw [h.moved_eq, sub_neg_eq_add, carriedNet]
  simp only [total_filter, ← total_add]
  refine total_congr fun row hrow => ?_
  obtain ⟨hj, -, hbook⟩ := mem_bookLines hrow
  cases hclosing : isClosingReference row.journal.journalReference with
  | false =>
    have hnot : isPlugLine row = false := by
      cases hp : isPlugLine row with
      | false => rfl
      | true => rw [isPlugLine_closing hp] at hclosing; cases hclosing
    simp [hnot]
  | true =>
    have hfacts := hkept row.journal hj hclosing
    have hclosed := hfacts.closed
    rw [hbook] at hclosed
    have hlines := hfacts.lines row (mem_ledgerLines_singleton hrow)
    cases hp : isPlugLine row with
    | true => simp
    | false =>
      rw [hp] at hlines
      have hincome := hlines.resolve_left Bool.false_ne_true
      simp [hincome, hclosed]

/-! ## One close -/

theorem bookLines_append {t t' : Tables} {posted : List GeneralJournal}
    (hjournals : t'.journals = t.journals ++ posted) {legalEntityId bookId : ℕ}
    (hscope : ∀ j ∈ posted, j.legalEntityId = legalEntityId ∧ j.accountingBookId = bookId) :
    bookLines dep t' legalEntityId bookId =
      bookLines dep t legalEntityId bookId ++ ledgerLines dep posted := by
  rw [bookLines, bookJournals, hjournals, List.filter_append, List.filter_eq_self.mpr fun j hj =>
    decide_eq_true (hscope j hj), ledgerLines, List.flatMap_append]
  rfl

/-- What a hard close that commits leaves behind. -/
theorem HardCloses.committed {t : Tables} {request : CloseRequest} {entity : LegalEntityRecord}
    {book : AccountingBook} {period : FiscalPeriod} (hwf : WellFormed dep t)
    (h : HardCloses dep t request entity book period) :
    period ∈ t.fiscalPeriods ∧ book ∈ dep.catalog.books ∧
      book.legalEntityId = entity.legalEntityId ∧
      ∃ posted t₂ outbox, ClosingPosted dep (materialized dep t period) request entity book period
          posted t₂ ∧
        execute dep t (.closeFiscalPeriod request) =
          hardClosedTables dep t₂ request entity book period outbox := by
  obtain ⟨t', ha⟩ := h.commits
  rw [execute_of_ok dep ha]
  obtain ⟨⟨receipt, t''⟩, hok, rfl⟩ := map_eq_ok.mp ha
  obtain ⟨entity', book', period', control, t₁, hlocked, hcases⟩ := closeFiscalPeriod_ok dep hok
  have hscope := hlocked.scope
  rw [h.scope] at hscope
  cases hscope
  obtain ⟨hperiod, ht₁, hcontrol⟩ := lockBookPeriod_ok dep hlocked.lock
  rw [h.period_eq] at hperiod
  cases hperiod
  obtain ⟨-, -, hbook, hentity, -, -⟩ := dep.loadScope_ok h.scope
  have hpmem := (periodByCode_mem dep h.period_eq).1
  obtain ⟨hcmem, hcfor⟩ := find_control_mem hcontrol
  obtain rfl : t₁ = materialized dep t period := ht₁
  have hstatus := bookPeriodStatus_of_materialized hwf hpmem hcmem hcfor
  refine ⟨hpmem, hbook, hentity, ?_⟩
  rcases hcases with ⟨hreplay, -⟩ | ⟨-, hcode, -⟩ | ⟨-, -, -, hhard⟩
  · rcases hreplay with hhard | hcode
    · exact absurd (hstatus.trans hhard) h.unlocked
    · exact absurd h.status hcode
  · exact absurd h.status hcode
  · obtain ⟨posted, t₂, hposted, -, snapshotId, payloadHash, rfl⟩ := persistPeriodClose_ok dep hhard
    exact ⟨posted, t₂, _, postClosingJournal_posted hpmem hbook hentity hposted, rfl⟩

theorem ClosingPosted.scope {t t' : Tables} {request : CloseRequest} {entity : LegalEntityRecord}
    {book : AccountingBook} {period : FiscalPeriod} {posted : Option GeneralJournal}
    (hbook : book ∈ dep.catalog.books) (hentity : book.legalEntityId = entity.legalEntityId)
    (h : ClosingPosted dep t request entity book period posted t') :
    ∀ j ∈ posted.toList, j.legalEntityId = entity.legalEntityId ∧
      j.accountingBookId = book.accountingBookId := by
  intro j hj
  cases h with
  | nothing => cases hj
  | journal _ hwritten _ _ hjournal _ =>
    rw [Option.toList_some, List.mem_singleton] at hj
    subst hj
    obtain ⟨book', hbook', hid, hle⟩ := hwritten.admitted.facts.scope
    rw [book_of_id hbook' hbook (hid.trans hjournal)] at hle
    exact ⟨hle.symm.trans hentity, hjournal⟩

/-- A closing journal puts on 310100 what its other lines clear. -/
theorem ClosingPosted.plug {t t' : Tables} (hwf : WellFormed dep t) {request : CloseRequest}
    {entity : LegalEntityRecord} {book : AccountingBook} {period : FiscalPeriod}
    {posted : Option GeneralJournal}
    (h : ClosingPosted dep t request entity book period posted t') :
    total lineNet ((ledgerLines dep posted.toList).filter isPlugLine) =
      clearedNet dep t entity book period := by
  have hkeeps := h.keeps
  cases hposted : posted with
  | none =>
    subst hposted
    cases h with
    | nothing hnil =>
      have hnet := @closingLines_net dep t entity book period
      rw [hnil, List.filter_nil, total_nil] at hnet
      exact (neg_eq_zero.mp hnet.symm).symm
  | some journal =>
    subst hposted
    have hmem : journal ∈ t'.journals := by
      rw [hkeeps.2.2.2.2.1]
      exact List.mem_append_right _ (List.mem_singleton.mpr rfl)
    have hzero : total lineNet (ledgerLines dep [journal]) = 0 := by
      rw [total_lineNet, (hkeeps.2.2.2.2.2 hwf).ledgerLines_balanced fun j hj =>
        List.mem_singleton.mp hj ▸ hmem, sub_self]
    have hsplit := total_filter_add_not lineNet isPlugLine (ledgerLines dep [journal])
    rw [(h.lines hwf).2.2, hzero] at hsplit
    rw [Option.toList_some]
    linarith

/-- A hard close leaves the income moved once exactly when it clears what is carried. -/
theorem HardCloses.movedOnce_iff {t : Tables} {request : CloseRequest} {entity : LegalEntityRecord}
    {book : AccountingBook} {period : FiscalPeriod} (hwf : WellFormed dep t)
    (hkept : ClosingJournalsKept dep t) (h : HardCloses dep t request entity book period) :
    IncomeMovedOnce dep (execute dep t (.closeFiscalPeriod request)) entity book ↔
      clearedNet dep t entity book period = carriedNet dep t entity book period := by
  obtain ⟨hpmem, hbook, hentity, posted, t₂, outbox, hposted, hexec⟩ := h.committed hwf
  have hwf' := wellFormed_execute hwf (.closeFiscalPeriod request)
  rw [hexec] at hwf' ⊢
  have hmat := hwf.materialized hpmem
  obtain ⟨hperiods, -, hsnapshots, -, hjournals, -⟩ := hposted.keeps
  have hlines : bookLines dep (hardClosedTables dep t₂ request entity book period outbox)
      entity.legalEntityId book.accountingBookId =
        bookLines dep t entity.legalEntityId book.accountingBookId ++
          ledgerLines dep posted.toList :=
    bookLines_append (t := t) hjournals (hposted.scope hbook hentity)
  have hclosingRows : ∀ row ∈ ledgerLines dep posted.toList,
      isClosingReference row.journal.journalReference = true := by
    intro row hrow
    have hj := (mem_ledgerLines hrow).1
    rw [Option.mem_toList] at hj
    subst hj
    exact (hposted.lines hmat).1
  have hmoved : movedToRetainedEarnings dep (hardClosedTables dep t₂ request entity book period
      outbox) entity book = movedToRetainedEarnings dep t entity book +
        clearedNet dep t entity book period := by
    rw [movedToRetainedEarnings, hlines, List.filter_append, total_append, hposted.plug hmat]
    rfl
  have hearned : earnedThroughClosed dep (hardClosedTables dep t₂ request entity book period
      outbox) entity book = carriedNet dep t entity book period +
        movedToRetainedEarnings dep t entity book := by
    have hnone : (ledgerLines dep posted.toList).filter (fun row => isIncomeLine dep row = true ∧
        isClosingReference row.journal.journalReference = false ∧
          ClosedThrough (hardClosedTables dep t₂ request entity book period outbox)
            book.accountingBookId row.journal.accountingDate) = [] :=
      List.filter_eq_nil_iff.mpr fun row hrow => by simp [hclosingRows row hrow]
    rw [carriedNet_eq hwf hkept, sub_add_cancel, earnedThroughClosed, hlines, List.filter_append,
      hnone, List.append_nil]
    refine congrArg _ (List.filter_congr fun row _ => ?_)
    simp only [closedThrough_hardClosed hwf hpmem hperiods hsnapshots hwf', true_and]
  constructor
  · intro hmovedOnce
    have := hmovedOnce.moved
    rw [hmoved, hearned] at this
    linarith
  · intro hclears
    refine ⟨fun j hj _ => (hwf'.facts j hj).balanced, ?_⟩
    rw [hmoved, hearned, hclears]
    ring

/-! ## Orderly closes -/

/-- With one mapping an account and exact sums, a close clears the income lines through its
    period end. -/
theorem OrderlyClose.cleared {t : Tables} {entity : LegalEntityRecord} {book : AccountingBook}
    {period : FiscalPeriod} (hwf : WellFormed dep t) (h : OrderlyClose dep t entity book period) :
    clearedNet dep t entity book period =
      total lineNet ((bookLines dep t entity.legalEntityId book.accountingBookId).filter fun row =>
        isIncomeLine dep row = true ∧ row.journal.accountingDate ≤ period.periodEndDate) := by
  have hexact : clearedNet dep t entity book period =
      total (fun row : String × String × ℕ × ℕ => (row.2.2.2 : ℤ) - row.2.2.1)
        (closingIncome dep t entity.legalEntityId book.accountingBookId period.periodEndDate) :=
    total_congr fun row hrow => roundDec_of_abs_lt (by decide) (h.fits row hrow)
  have hgroups : total (fun row : String × String × ℕ × ℕ => (row.2.2.2 : ℤ) - row.2.2.1)
      (closingIncome dep t entity.legalEntityId book.accountingBookId period.periodEndDate) =
        total (fun row => lineNet row.1) (closingRows dep t entity.legalEntityId
          book.accountingBookId period.periodEndDate) := by
    unfold closingIncome
    rw [total_map]
    refine Eq.trans (total_congr fun key _ => ?_) (total_groups
      (fun row : LedgerLine × String => (row.1.code, row.2)) (fun row => lineNet row.1)
      (groupKeys_nodup _ _ _) fun row hrow =>
        mem_groupKeys.mpr ⟨row, (dep.rowOrder_perm _).mem_iff.mpr hrow, rfl⟩)
    dsimp only
    rw [natCast_total, natCast_total, ← total_sub]
    rfl
  rw [hexact, hgroups, closingRows, total_flatMap, linesThrough_eq]
  simp only [total_filter]
  refine total_congr fun row hrow => ?_
  by_cases hdate : row.journal.accountingDate ≤ period.periodEndDate
  · have hone := h.one_mapping row.account
      (dep.chartAccountForCode_mem (hwf.line_facts hrow).1).1
    match hm : clearedMappings dep row.account.chartAccountId, hone with
    | [], _ => simp [isIncomeLine, hm]
    | [m], _ => simp [isIncomeLine, hm, hdate]
  · simp [hdate]

theorem OrderlyClose.clearsCarried {t : Tables} {entity : LegalEntityRecord} {book : AccountingBook}
    {period : FiscalPeriod} (hwf : WellFormed dep t) (h : OrderlyClose dep t entity book period) :
    clearedNet dep t entity book period = carriedNet dep t entity book period := by
  rw [h.cleared hwf, carriedNet]
  refine congrArg _ (List.filter_congr fun row hrow => ?_)
  have haccount := dep.chartAccountForCode_mem (hwf.line_facts hrow).1
  have hplug : isIncomeLine dep row = true → isPlugLine row = false := by
    intro hincome
    cases hp : isPlugLine row with
    | false => rfl
    | true =>
      simp only [isPlugLine, Bool.and_eq_true, beq_iff_eq] at hp
      have hnone := h.plug_apart row.account haccount.1 hp.1.2
      simp [isIncomeLine, hnone] at hincome
  have horder : ClosedThrough t book.accountingBookId row.journal.accountingDate →
      row.journal.accountingDate ≤ period.periodEndDate := by
    rintro ⟨p, hp, hhard, hdate⟩
    exact hdate.trans (h.in_order p hp hhard)
  refine decide_eq_decide.mpr ⟨fun hrow => ⟨hrow.1, hplug hrow.1, Or.inl hrow.2⟩, ?_⟩
  rintro ⟨hincome, -, hdate | hclosed⟩
  · exact ⟨hincome, hdate⟩
  · exact ⟨hincome, horder hclosed⟩

/-! ## Runs -/

/-- An invoice in January, then February is hard-closed. -/
def februaryClosedCommands : List Command := [
  samplePeriod "2024-01" "open-1" 738886 738916,
  samplePeriod "2024-02" "open-2" 738917 738945,
  sampleInvoice "urn:cwl:book:b1" "2024-01" "0f8fad5b-d9cb-469f-a165-70867728950e" "invoice-1" 738900
    100000000,
  sampleClose "urn:cwl:book:b1" "2024-02" "hard_closed"]

def closeRequestOf (periodCode : String) : CloseRequest :=
  ⟨"urn:cwl:legal_entity:e1", "urn:cwl:book:b1", periodCode, "KRW", "hard_closed", ""⟩

end AccountingPlatform.Postgres
