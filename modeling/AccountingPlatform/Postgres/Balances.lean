/-
  What the aggregates of a report add up to.

  Every report sums lines of one book under some condition. `ledgerLines_filter` brings the
  condition to the lines, so two reports are compared line by line; the group sums of a
  snapshot or of a live aggregate are taken apart here once.
-/
import AccountingPlatform.Postgres.Effects

namespace AccountingPlatform.Postgres

open AccountingPlatform.Lib AccountingPlatform.Core

variable (dep : Deployment)

/-! ## Lines of a book -/

/-- All lines of a book. -/
def bookLines (t : Tables) (legalEntityId bookId : ℕ) : List LedgerLine :=
  ledgerLines dep (bookJournals t legalEntityId bookId)

theorem ledgerLines_filter (p : GeneralJournal → Bool) (journals : List GeneralJournal) :
    ledgerLines dep (journals.filter p) =
      (ledgerLines dep journals).filter fun row => p row.journal := by
  induction journals with
  | nil => rfl
  | cons j js ih =>
    have hrows : ∀ row ∈ j.lines.filterMap (fun line =>
        (dep.chartAccount? line.chartAccountId).map fun account => (⟨j, line, account⟩ : LedgerLine)),
        row.journal = j := by
      intro row hrow
      simp only [List.mem_filterMap, Option.map_eq_some_iff] at hrow
      obtain ⟨_, -, _, -, rfl⟩ := hrow
      rfl
    have hhead : (j.lines.filterMap fun line => (dep.chartAccount? line.chartAccountId).map
        fun account => (⟨j, line, account⟩ : LedgerLine)).filter (fun row => p row.journal) =
        if p j then j.lines.filterMap fun line => (dep.chartAccount? line.chartAccountId).map
          fun account => ⟨j, line, account⟩ else [] := by
      split
      · next hp => exact List.filter_eq_self.mpr fun row hrow => by rw [hrows row hrow, hp]
      · next hp => exact List.filter_eq_nil_iff.mpr fun row hrow => by rw [hrows row hrow]; exact hp
    rw [ledgerLines, ledgerLines, List.flatMap_cons, List.filter_append, hhead]
    split
    · next hp => rw [List.filter_cons_of_pos hp, List.flatMap_cons]; exact congrArg _ ih
    · next hp => rw [List.filter_cons_of_neg hp, List.nil_append]; exact ih

theorem linesThrough_eq (t : Tables) (legalEntityId bookId : ℕ) (throughDate : Date) :
    linesThrough dep t legalEntityId bookId throughDate =
      (bookLines dep t legalEntityId bookId).filter fun row =>
        row.journal.accountingDate ≤ throughDate :=
  ledgerLines_filter dep _ _

theorem linesOfPeriods_eq (t : Tables) (legalEntityId bookId : ℕ) (periodIds : List ℕ) :
    linesOfPeriods dep t legalEntityId bookId periodIds =
      (bookLines dep t legalEntityId bookId).filter fun row =>
        row.journal.fiscalPeriodId ∈ periodIds :=
  ledgerLines_filter dep _ _

theorem linesAsOf_eq (t : Tables) (legalEntityId bookId : ℕ) (throughDate : Date) (asOf : Timestamp) :
    ledgerLines dep (journalsAsOf t legalEntityId bookId throughDate asOf) =
      (bookLines dep t legalEntityId bookId).filter fun row =>
        row.journal.accountingDate ≤ throughDate ∧ row.journal.postedAt ≤ asOf :=
  ledgerLines_filter dep _ _

variable {dep}

theorem mem_ledgerLines {journals : List GeneralJournal} {row : LedgerLine}
    (h : row ∈ ledgerLines dep journals) :
    row.journal ∈ journals ∧ row.line ∈ row.journal.lines ∧
      dep.chartAccount? row.line.chartAccountId = some row.account := by
  simp only [ledgerLines, List.mem_flatMap, List.mem_filterMap, Option.map_eq_some_iff] at h
  obtain ⟨j, hj, line, hline, account, haccount, rfl⟩ := h
  exact ⟨hj, hline, haccount⟩

theorem mem_bookLines {t : Tables} {legalEntityId bookId : ℕ} {row : LedgerLine}
    (h : row ∈ bookLines dep t legalEntityId bookId) :
    row.journal ∈ t.journals ∧ row.journal.legalEntityId = legalEntityId ∧
      row.journal.accountingBookId = bookId := by
  simpa [bookJournals] using (mem_ledgerLines h).1

/-- The account of an inserted line is the one its code resolves to on the book. -/
theorem insertedLine {bookId : ℕ} {posted : List PostedJournalLine} {lines : List JournalEntryLine}
    (h : tryMap (insertJournalLine dep bookId) posted = .ok lines) {line : JournalEntryLine}
    (hline : line ∈ lines) :
    (∃ account, dep.chartAccountForCode bookId account.chartAccountCode = some account ∧
      dep.chartAccount? line.chartAccountId = some account) ∧
    ((0 < line.debitAmount ∧ line.creditAmount = 0) ∨
      (line.debitAmount = 0 ∧ 0 < line.creditAmount)) := by
  have hall := tryMap_ok h
  clear h
  induction hall with
  | nil => cases hline
  | cons hrow _ ih =>
    rcases List.mem_cons.mp hline with rfl | hline
    · obtain ⟨account, haccount, rfl, hside⟩ := insertJournalLine_ok hrow
      obtain ⟨hmem, -, hcode, -⟩ := dep.chartAccountForCode_mem haccount
      exact ⟨⟨account, hcode.symm ▸ haccount, dep.chartAccount?_of_mem hmem⟩, hside⟩
    · exact ih hline

theorem WellFormed.line_facts {t : Tables} (h : WellFormed dep t) {legalEntityId bookId : ℕ}
    {row : LedgerLine} (hrow : row ∈ bookLines dep t legalEntityId bookId) :
    dep.chartAccountForCode bookId row.code = some row.account ∧
    ((0 < row.debit ∧ row.credit = 0) ∨ (row.debit = 0 ∧ 0 < row.credit)) := by
  obtain ⟨hj, -, hbook⟩ := mem_bookLines hrow
  obtain ⟨-, hline, haccount⟩ := mem_ledgerLines hrow
  obtain ⟨posted, hposted⟩ := (h.facts _ hj).lines
  obtain ⟨⟨account, hcode, hid⟩, hside⟩ := insertedLine hposted hline
  rw [haccount] at hid
  cases hid
  exact ⟨hbook ▸ hcode, hside⟩

theorem ledgerLine_account {journals : List GeneralJournal} {row : LedgerLine}
    (h : row ∈ ledgerLines dep journals) :
    dep.chartAccount? row.account.chartAccountId = some row.account := by
  obtain ⟨-, -, haccount⟩ := mem_ledgerLines h
  have hid := List.find?_some haccount
  rw [decide_eq_true_eq] at hid
  rw [hid]
  exact haccount

theorem mem_ledgerLines_singleton {journals : List GeneralJournal} {row : LedgerLine}
    (h : row ∈ ledgerLines dep journals) : row ∈ ledgerLines dep [row.journal] := by
  obtain ⟨-, hline, haccount⟩ := mem_ledgerLines h
  simp only [ledgerLines, List.flatMap_cons, List.flatMap_nil, List.append_nil, List.mem_filterMap,
    Option.map_eq_some_iff]
  exact ⟨row.line, hline, row.account, haccount, rfl⟩

theorem total_lineNet (rows : List LedgerLine) :
    total lineNet rows =
      ((total LedgerLine.credit rows : ℕ) : ℤ) - (total LedgerLine.debit rows : ℕ) := by
  rw [natCast_total, natCast_total, ← total_sub]
  rfl

/-- Lines whose accounts exist are all joined. -/
theorem total_joined (f : LedgerLine → ℕ) (g : JournalEntryLine → ℕ) (journal : GeneralJournal)
    (hf : ∀ line account, f ⟨journal, line, account⟩ = g line) {lines : List JournalEntryLine}
    (h : ∀ line ∈ lines, ∃ account, dep.chartAccount? line.chartAccountId = some account) :
    total f (lines.filterMap fun line => (dep.chartAccount? line.chartAccountId).map
      fun account => (⟨journal, line, account⟩ : LedgerLine)) = total g lines := by
  induction lines with
  | nil => rfl
  | cons line lines ih =>
    obtain ⟨account, haccount⟩ := h line List.mem_cons_self
    have hrest := ih fun l hl => h l (List.mem_cons_of_mem line hl)
    rw [List.filterMap_cons, haccount, Option.map_some, total_cons, total_cons, hrest, hf]

/-- Balanced journals on existing accounts balance as the reports see them. -/
theorem ledgerLines_balanced {journals : List GeneralJournal}
    (haccounts : ∀ j ∈ journals, ∀ line ∈ j.lines, ∃ account,
      dep.chartAccount? line.chartAccountId = some account)
    (hbalanced : ∀ j ∈ journals, total JournalEntryLine.debitAmount j.lines =
      total JournalEntryLine.creditAmount j.lines) :
    total LedgerLine.debit (ledgerLines dep journals) =
      total LedgerLine.credit (ledgerLines dep journals) := by
  rw [ledgerLines, total_flatMap, total_flatMap]
  refine total_congr fun j hj => ?_
  rw [total_joined LedgerLine.debit JournalEntryLine.debitAmount j (fun _ _ => rfl) (haccounts j hj),
    total_joined LedgerLine.credit JournalEntryLine.creditAmount j (fun _ _ => rfl) (haccounts j hj)]
  exact hbalanced j hj

theorem WellFormed.line_account {t : Tables} (h : WellFormed dep t) {j : GeneralJournal}
    (hj : j ∈ t.journals) {line : JournalEntryLine} (hline : line ∈ j.lines) :
    ∃ account, dep.chartAccount? line.chartAccountId = some account := by
  obtain ⟨posted, hposted⟩ := (h.facts j hj).lines
  obtain ⟨⟨account, -, haccount⟩, -⟩ := insertedLine hposted hline
  exact ⟨account, haccount⟩

/-- Stored journals balance as the reports see them. -/
theorem WellFormed.ledgerLines_balanced {t : Tables} (h : WellFormed dep t)
    {journals : List GeneralJournal} (hsub : ∀ j ∈ journals, j ∈ t.journals) :
    total LedgerLine.debit (ledgerLines dep journals) =
      total LedgerLine.credit (ledgerLines dep journals) :=
  AccountingPlatform.Postgres.ledgerLines_balanced (fun j hj _ hline => h.line_account (hsub j hj) hline)
    fun j hj => (h.facts j (hsub j hj)).balanced

/-! ## Group sums -/

/-- Rows of an account in an aggregate. -/
def rowsOfCode (code : String) (rows : List BalanceRow) : List BalanceRow :=
  rows.filter fun row => row.chartAccountCode = code

variable (dep) in
/-- The groups of an aggregate add up to its lines, under any condition on the account. -/
theorem balanceRows_total {M : Type} [AddCommMonoid M] (f : LedgerLine → M) (g : BalanceRow → M)
    (rows : List LedgerLine) (p : ℕ × String → Bool)
    (hg : ∀ key : ℕ × String, ∀ group : List LedgerLine,
      g ⟨key.1, key.2, total LedgerLine.debit group, total LedgerLine.credit group⟩ = total f group) :
    total g ((balanceRows dep rows).filter fun row => p (row.chartAccountId, row.chartAccountCode)) =
      total f (rows.filter fun row => p (row.account.chartAccountId, row.code)) := by
  rw [total_filter, total_filter, balanceRows, total_map]
  set keyOf : LedgerLine → ℕ × String := fun row => (row.account.chartAccountId, row.code) with hkey
  have hkeys : ∀ row ∈ rows, keyOf row ∈ groupKeys (fun a b : ℕ × String => dep.collation a.2 b.2)
      keyOf (dep.rowOrder rows) := fun row hrow =>
    mem_groupKeys.mpr ⟨row, (dep.rowOrder_perm rows).mem_iff.mpr hrow, rfl⟩
  have hgroups := total_groups keyOf (fun row => if p (keyOf row) then f row else 0)
    (groupKeys_nodup _ _ _) hkeys
  refine Eq.trans (total_congr fun key _ => ?_) hgroups
  dsimp only
  rw [hg]
  have hin : ∀ row ∈ rows.filter (fun row => keyOf row = key), keyOf row = key := fun row hrow => by
    simpa using (List.mem_filter.mp hrow).2
  by_cases hp : p key = true
  · rw [if_pos hp]
    exact total_congr fun row hrow => by rw [hin row hrow, if_pos hp]
  · rw [if_neg hp]
    exact (total_eq_zero fun row hrow => by rw [hin row hrow, if_neg hp]).symm

variable (dep) in
theorem accountSides_of_rows (code : String) (rows : List LedgerLine) :
    (total BalanceRow.debitTotal (rowsOfCode code (balanceRows dep rows)),
      total BalanceRow.creditTotal (rowsOfCode code (balanceRows dep rows))) =
      accountSides code rows := by
  have hdebit := balanceRows_total dep LedgerLine.debit BalanceRow.debitTotal rows
    (fun key => key.2 = code) fun _ _ => rfl
  have hcredit := balanceRows_total dep LedgerLine.credit BalanceRow.creditTotal rows
    (fun key => key.2 = code) fun _ _ => rfl
  exact Prod.ext hdebit hcredit

/-- A group has lines, all of its account. -/
theorem mem_balanceRows {rows : List LedgerLine} {row : BalanceRow} (h : row ∈ balanceRows dep rows) :
    ∃ line ∈ rows, row.chartAccountId = line.account.chartAccountId ∧
      row.chartAccountCode = line.code := by
  obtain ⟨key, hkey, rfl⟩ := List.mem_map.mp h
  obtain ⟨line, hline, rfl⟩ := mem_groupKeys.mp hkey
  exact ⟨line, (dep.rowOrder_perm rows).mem_iff.mp hline, rfl, rfl⟩

theorem balanceRows_keys (rows : List LedgerLine) :
    ((balanceRows dep rows).map fun row => (row.chartAccountId, row.chartAccountCode)).Nodup := by
  have hkeys := groupKeys_nodup (fun a b : ℕ × String => dep.collation a.2 b.2)
    (fun row : LedgerLine => (row.account.chartAccountId, row.code)) (dep.rowOrder rows)
  simpa [balanceRows, Function.comp_def] using hkeys

theorem WellFormed.account_of_code {t : Tables} (h : WellFormed dep t) {legalEntityId bookId : ℕ}
    {row row' : LedgerLine} (hrow : row ∈ bookLines dep t legalEntityId bookId)
    (hrow' : row' ∈ bookLines dep t legalEntityId bookId) (hcode : row.code = row'.code) :
    row.account = row'.account := by
  have h₁ := (h.line_facts hrow).1
  have h₂ := (h.line_facts hrow').1
  rw [hcode, h₂] at h₁
  exact (Option.some.inj h₁).symm

/-- An aggregate of one book has at most one row of a code. -/
theorem WellFormed.rowsOfCode_single {t : Tables} (h : WellFormed dep t) {legalEntityId bookId : ℕ}
    {rows : List LedgerLine} (hsub : ∀ row ∈ rows, row ∈ bookLines dep t legalEntityId bookId)
    (code : String) : (rowsOfCode code (balanceRows dep rows)).length ≤ 1 := by
  have hnodup : (rowsOfCode code (balanceRows dep rows)).Nodup :=
    (List.Nodup.of_map _ (balanceRows_keys rows)).filter _
  have hall : ∀ r ∈ rowsOfCode code (balanceRows dep rows), ∀ r' ∈ rowsOfCode code
      (balanceRows dep rows), r = r' := by
    intro r hr r' hr'
    simp only [rowsOfCode, List.mem_filter, decide_eq_true_eq] at hr hr'
    obtain ⟨line, hline, hid, hcode⟩ := mem_balanceRows hr.1
    obtain ⟨line', hline', hid', hcode'⟩ := mem_balanceRows hr'.1
    have haccount := h.account_of_code (hsub _ hline) (hsub _ hline')
      (hcode.symm.trans (hr.2.trans (hr'.2.symm.trans hcode')))
    refine List.inj_on_of_nodup_map (balanceRows_keys rows) hr.1 hr'.1 (Prod.ext ?_ ?_)
    · rw [hid, hid', haccount]
    · rw [hr.2, hr'.2]
  match hrows : rowsOfCode code (balanceRows dep rows) with
  | [] => exact Nat.zero_le _
  | [_] => exact Nat.le_refl _
  | r :: r' :: rest =>
    rw [hrows] at hnodup hall
    have heq := hall r (by simp) r' (by simp)
    simp [heq] at hnodup

/-! ## Snapshots -/

/-- The account a snapshot line is joined with is that of its group. -/
theorem balanceRow_account {journals : List GeneralJournal} {rows : List LedgerLine}
    (hsub : ∀ row ∈ rows, row ∈ ledgerLines dep journals) {row : BalanceRow}
    (h : row ∈ balanceRows dep rows) :
    ∃ line ∈ rows, dep.chartAccount? row.chartAccountId = some line.account ∧
      row.chartAccountCode = line.code := by
  obtain ⟨line, hline, hid, hcode⟩ := mem_balanceRows h
  exact ⟨line, hline, hid ▸ ledgerLine_account (hsub line hline), hcode⟩

/-- Snapshot lines of a code are the lines of the code's rows. -/
theorem snapshotLines_of_code {journals : List GeneralJournal} {rows : List LedgerLine}
    (hsub : ∀ row ∈ rows, row ∈ ledgerLines dep journals) (code : String) :
    (((balanceRows dep rows).map snapshotLine).filter fun line =>
      (dep.chartAccount? line.chartAccountId).map ChartAccount.chartAccountCode = some code) =
      (rowsOfCode code (balanceRows dep rows)).map snapshotLine := by
  rw [List.filter_map, rowsOfCode]
  refine congrArg _ (List.filter_congr fun row hrow => ?_)
  obtain ⟨line, -, haccount, hcode⟩ := balanceRow_account hsub hrow
  simp only [Function.comp_apply, snapshotLine, haccount, Option.map_some, Option.some.injEq, hcode,
    LedgerLine.code]

/-- The lines of a snapshot of a book: those dated through the period end that it saw. -/
theorem WellFormed.snapshot_lines {t : Tables} (h : WellFormed dep t) {s : TrialBalanceSnapshot}
    (hs : s ∈ t.snapshots) {p : FiscalPeriod} (hp : p ∈ t.fiscalPeriods)
    (hid : p.fiscalPeriodId = s.fiscalPeriodId) :
    s.lines = (balanceRows dep ((bookLines dep t s.legalEntityId s.accountingBookId).filter fun row =>
      row.journal.accountingDate ≤ p.periodEndDate ∧
        row.journal.postedAt ≤ s.snapshotGeneratedAt)).map snapshotLine := by
  rw [(h.snapshots.frozen s hs p hp hid).1, snapshotRows, linesAsOf_eq]

/-- The one line a snapshot has of a code. -/
theorem WellFormed.snapshot_sides {t : Tables} (h : WellFormed dep t) {s : TrialBalanceSnapshot}
    (hs : s ∈ t.snapshots) {p : FiscalPeriod} (hp : p ∈ t.fiscalPeriods)
    (hid : p.fiscalPeriodId = s.fiscalPeriodId) (code : String) :
    (match dep.fetchone (s.lines.filter fun line =>
        (dep.chartAccount? line.chartAccountId).map ChartAccount.chartAccountCode = some code) with
      | none => (0, 0)
      | some line => (line.debitTotalAmount, line.creditTotalAmount)) =
      accountSides code ((bookLines dep t s.legalEntityId s.accountingBookId).filter fun row =>
        row.journal.accountingDate ≤ p.periodEndDate ∧
          row.journal.postedAt ≤ s.snapshotGeneratedAt) := by
  have hlines := h.snapshot_lines hs hp hid
  set rows := (bookLines dep t s.legalEntityId s.accountingBookId).filter fun row =>
    row.journal.accountingDate ≤ p.periodEndDate ∧ row.journal.postedAt ≤ s.snapshotGeneratedAt
    with hrows
  have hsub : ∀ row ∈ rows, row ∈ bookLines dep t s.legalEntityId s.accountingBookId :=
    fun row hrow => (List.mem_filter.mp hrow).1
  have hsingle := h.rowsOfCode_single hsub code
  rw [hlines, snapshotLines_of_code hsub, ← accountSides_of_rows dep code rows]
  match hmatch : rowsOfCode code (balanceRows dep rows), hsingle with
  | [], _ =>
    rw [List.map_nil, dep.fetchone_eq_none.mpr rfl]
    rfl
  | [row], _ =>
    have hone : dep.fetchone [snapshotLine row] = some (snapshotLine row) :=
      dep.fetchone_unique (List.mem_singleton.mpr rfl) fun _ hrow => List.mem_singleton.mp hrow
    rw [List.map_singleton, hone]
    simp [snapshotLine]

/-! ## Trial balances -/

variable (dep) in
/-- The lines a trial balance of a period reports on: those its snapshot saw when the calendar
    marks the period hard-closed, otherwise all lines through its end. -/
def reportedLines (t : Tables) (legalEntityId bookId : ℕ) (period : FiscalPeriod) : List LedgerLine :=
  match period.periodStatus, latestCloseSnapshot t legalEntityId bookId period.fiscalPeriodId with
  | .hardClosed, some snapshot => (bookLines dep t legalEntityId bookId).filter fun row =>
      row.journal.accountingDate ≤ period.periodEndDate ∧
        row.journal.postedAt ≤ snapshot.snapshotGeneratedAt
  | _, _ => linesThrough dep t legalEntityId bookId period.periodEndDate

theorem reportedLines_sub {t : Tables} {legalEntityId bookId : ℕ} {period : FiscalPeriod}
    {row : LedgerLine} (h : row ∈ reportedLines dep t legalEntityId bookId period) :
    row ∈ bookLines dep t legalEntityId bookId ∧
      row.journal.accountingDate ≤ period.periodEndDate := by
  unfold reportedLines at h
  split at h
  · simp only [List.mem_filter, decide_eq_true_eq] at h
    exact ⟨h.1, h.2.1⟩
  · rw [linesThrough_eq] at h
    simpa using h

/-- What a trial balance reports on balances. -/
theorem WellFormed.reportedLines_balanced {t : Tables} (h : WellFormed dep t)
    (legalEntityId bookId : ℕ) (period : FiscalPeriod) :
    total LedgerLine.debit (reportedLines dep t legalEntityId bookId period) =
      total LedgerLine.credit (reportedLines dep t legalEntityId bookId period) := by
  unfold reportedLines
  split
  · rw [← linesAsOf_eq]
    exact h.ledgerLines_balanced fun j hj => (List.mem_filter.mp (List.mem_filter.mp hj).1).1
  · exact h.ledgerLines_balanced fun j hj => (List.mem_filter.mp (List.mem_filter.mp hj).1).1

/-- The entry of one group. -/
def balanceEntry (row : BalanceRow) : TrialBalanceEntry := trialBalanceEntry (liveRow row)

theorem mem_of_latestCloseSnapshot {t : Tables} {legalEntityId bookId fiscalPeriodId : ℕ}
    {snapshot : TrialBalanceSnapshot}
    (h : latestCloseSnapshot t legalEntityId bookId fiscalPeriodId = some snapshot) :
    snapshot ∈ t.snapshots ∧ snapshot.legalEntityId = legalEntityId ∧
      snapshot.accountingBookId = bookId ∧ snapshot.fiscalPeriodId = fiscalPeriodId := by
  have hmem := List.mem_of_mem_head? h
  rw [(List.perm_insertionSort _ _).mem_iff] at hmem
  simpa using hmem

theorem snapshotBalanceLines_perm {journals : List GeneralJournal} {rows : List LedgerLine}
    (hsub : ∀ row ∈ rows, row ∈ ledgerLines dep journals) {snapshot : TrialBalanceSnapshot}
    (hlines : snapshot.lines = (balanceRows dep rows).map snapshotLine) :
    (snapshotBalanceLines dep snapshot).Perm ((balanceRows dep rows).map liveRow) := by
  refine (List.perm_insertionSort _ _).trans ((dep.rowOrder_perm _).trans (List.Perm.of_eq ?_))
  rw [hlines, List.filterMap_map, ← List.filterMap_eq_map]
  refine List.filterMap_congr fun row hrow => ?_
  obtain ⟨line, -, haccount, hcode⟩ := balanceRow_account hsub hrow
  simp only [Function.comp_apply, snapshotLine, haccount, Option.map_some, liveRow, hcode]
  rfl

/-- The action a read names only goes into its messages. -/
theorem loadScope_congr {legalEntityReference accountingBookReference nextAction : String}
    {scope : LegalEntityRecord × AccountingBook}
    (h : dep.loadScope legalEntityReference accountingBookReference nextAction = .ok scope)
    (other : String) :
    dep.loadScope legalEntityReference accountingBookReference other = .ok scope := by
  simp only [Deployment.loadScope, Deployment.loadLegalEntity, Deployment.requireBookForClose,
    bind_eq_ok, fetch_eq_ok, pure_eq_ok] at h ⊢
  exact h

variable (dep) in
/-- A trial balance that was read: its scope, its period and the groups it lists. -/
structure TrialBalanceRead (t : Tables)
    (legalEntityReference accountingBookReference periodCode : String)
    (entity : LegalEntityRecord) (book : AccountingBook) (period : FiscalPeriod)
    (document : TrialBalanceDocument) : Prop where
  scope : dep.loadScope legalEntityReference accountingBookReference "the trial-balance read" =
    .ok (entity, book)
  period_eq : periodByCode dep t periodCode = some period
  status : document.periodStatus = period.periodStatus
  lines : document.lines.Perm ((balanceRows dep
    (reportedLines dep t entity.legalEntityId book.accountingBookId period)).map balanceEntry)

theorem WellFormed.trialBalance_read {t : Tables} (h : WellFormed dep t)
    {legalEntityReference accountingBookReference periodCode : String}
    {document : TrialBalanceDocument}
    (hload : loadPeriodTrialBalance dep t legalEntityReference accountingBookReference periodCode "" =
      .ok document) :
    ∃ entity book period, TrialBalanceRead dep t legalEntityReference
      accountingBookReference periodCode entity book period document := by
  simp only [loadPeriodTrialBalance, requireFiscalPeriod, bind_eq_ok, fetch_eq_ok, pure_eq_ok] at hload
  obtain ⟨-, -, -, -, -, -, -, -, ⟨entity, book⟩, hscope, period, hperiod, ⟨rows, source, id⟩, hrows,
    rfl⟩ := hload
  have hpmem := (periodByCode_mem dep hperiod).1
  refine ⟨entity, book, period, hscope, hperiod, rfl, ?_⟩
  rw [show balanceEntry = trialBalanceEntry ∘ liveRow from rfl, ← List.map_map]
  refine List.Perm.map _ ?_
  unfold trialBalanceLines at hrows
  rw [if_neg (by decide), if_neg (by decide), if_neg (by decide)] at hrows
  split at hrows
  · next hhard =>
    simp only [bind_eq_ok, fetch_eq_ok, pure_eq_ok, Prod.mk.injEq] at hrows
    obtain ⟨snapshot, hlatest, rfl, -⟩ := hrows
    obtain ⟨hs, hle, hb, hid⟩ := mem_of_latestCloseSnapshot hlatest
    have hlines := h.snapshot_lines hs hpmem hid.symm
    rw [hle, hb] at hlines
    simp only [reportedLines, hhard, hlatest]
    exact snapshotBalanceLines_perm (fun row hrow => (List.mem_filter.mp hrow).1) hlines
  · next hnot =>
    simp only [pure_eq_ok, Prod.mk.injEq] at hrows
    obtain ⟨rfl, -⟩ := hrows
    refine List.Perm.of_eq ?_
    unfold reportedLines
    split
    · next hhard _ => exact absurd hhard hnot
    · rfl

/-- Both sides a trial balance reports for an account code. -/
def reportedSides (code : String) (lines : List TrialBalanceEntry) : ℕ × ℕ :=
  let selected := lines.filter fun line => line.chartAccountCode = code
  (total TrialBalanceEntry.debitAmount selected, total TrialBalanceEntry.creditAmount selected)

theorem reportedSides_eq {lines : List TrialBalanceEntry} {rows : List LedgerLine}
    (h : lines.Perm ((balanceRows dep rows).map balanceEntry)) (code : String) :
    reportedSides code lines = accountSides code rows := by
  have hfilter : ((balanceRows dep rows).map balanceEntry).filter
      (fun line => line.chartAccountCode = code) =
      (rowsOfCode code (balanceRows dep rows)).map balanceEntry := by
    rw [List.filter_map]
    rfl
  rw [← accountSides_of_rows dep code rows, reportedSides]
  refine Prod.ext ?_ ?_
  · exact (total_perm (h.filter _)).trans (by rw [hfilter, total_map]; rfl)
  · exact (total_perm (h.filter _)).trans (by rw [hfilter, total_map]; rfl)

end AccountingPlatform.Postgres
