/-
  The pages of the account balances.

  A page is cut out of the trial balance, whose rows stand in the order of the database's
  collation, while the cursor is compared as a plain string and the class of an account is
  looked up among the accounts that are active at the time of the read. All pages together
  are the trial balance exactly when each of its codes has an active account and every page
  break falls between codes that both orders agree on (`accountBalances_complete_iff`).
-/
import Mathlib.Data.String.Basic
import AccountingPlatform.Lib.Cursors
import AccountingPlatform.Postgres.Balances

namespace AccountingPlatform.Postgres

open AccountingPlatform.Lib AccountingPlatform.Core

variable (dep : Deployment)

/-! ## Stored lines and the catalog of the read -/

/-- What the tables promise of their lines, whichever accounts are active now: the accounts
    exist, and a posted journal and a snapshot balance. -/
structure LinesKept (t : Tables) : Prop where
  accounts : ∀ j ∈ t.journals, ∀ line ∈ j.lines,
    ∃ account, dep.chartAccount? line.chartAccountId = some account
  balanced : ∀ j ∈ t.journals,
    total JournalEntryLine.debitAmount j.lines = total JournalEntryLine.creditAmount j.lines
  snapshot_accounts : ∀ s ∈ t.snapshots, ∀ line ∈ s.lines,
    ∃ account, dep.chartAccount? line.chartAccountId = some account
  snapshot_balanced : ∀ s ∈ t.snapshots,
    total TrialBalanceLine.debitTotalAmount s.lines =
      total TrialBalanceLine.creditTotalAmount s.lines

/-- The collation orders all texts. -/
structure OrdersTexts : Prop where
  total : ∀ a b, dep.collation a b = true ∨ dep.collation b a = true
  trans : ∀ a b c, dep.collation a b = true → dep.collation b c = true → dep.collation a c = true
  antisymm : ∀ a b, dep.collation a b = true → dep.collation b a = true → a = b

/-- The book has an active account of the code. -/
def HasActiveAccount (bookId : ℕ) (code : String) : Prop :=
  ∃ account ∈ dep.catalog.chartAccounts, account.accountingBookId = bookId ∧
    account.chartAccountCode = code ∧ account.isCurrent = true

instance decHasActiveAccount (bookId : ℕ) (code : String) :
    Decidable (HasActiveAccount dep bookId code) :=
  inferInstanceAs (Decidable (∃ account ∈ dep.catalog.chartAccounts,
    account.accountingBookId = bookId ∧ account.chartAccountCode = code ∧ account.isCurrent = true))

/-! ## Following the cursors -/

def TrialBalanceEntry.balanceLine (entry : TrialBalanceEntry) : String × ℕ × ℕ :=
  (entry.chartAccountCode, entry.debitAmount, entry.creditAmount)

def AccountBalanceEntry.balanceLine (entry : AccountBalanceEntry) : String × ℕ × ℕ :=
  (entry.chartAccountCode, entry.debitAmount, entry.creditAmount)

/-- The balances returned from a cursor on, page after page, by calls none of which raises. -/
inductive AccountBalanceWalk (t : Tables)
    (legalEntityReference accountingBookReference periodCode : String) (pageLimit : ℕ) :
    String → List AccountBalanceEntry → Prop
  | last {cursor : String} {document : AccountBalancesDocument}
      (hload : loadAccountBalances dep t legalEntityReference accountingBookReference periodCode ""
        pageLimit cursor = .ok document)
      (hnext : document.nextCursor = none) :
      AccountBalanceWalk t legalEntityReference accountingBookReference periodCode pageLimit cursor
        document.accountBalances
  | more {cursor next : String} {document : AccountBalancesDocument}
      {returned : List AccountBalanceEntry}
      (hload : loadAccountBalances dep t legalEntityReference accountingBookReference periodCode ""
        pageLimit cursor = .ok document)
      (hnext : document.nextCursor = some next)
      (hwalk : AccountBalanceWalk t legalEntityReference accountingBookReference periodCode pageLimit
        next returned) :
      AccountBalanceWalk t legalEntityReference accountingBookReference periodCode pageLimit cursor
        (document.accountBalances ++ returned)

/-- Following the cursors from the empty one ends, without an error, after every line of the
    trial balance was returned once; debits and credits are then equal. -/
def CompletelyPaged (t : Tables)
    (legalEntityReference accountingBookReference periodCode : String) (pageLimit : ℕ)
    (trialBalance : TrialBalanceDocument) : Prop :=
  ∃ returned, AccountBalanceWalk dep t legalEntityReference accountingBookReference periodCode
      pageLimit "" returned ∧
    (returned.map AccountBalanceEntry.balanceLine).Perm
      (trialBalance.lines.map TrialBalanceEntry.balanceLine) ∧
    total AccountBalanceEntry.debitAmount returned = total AccountBalanceEntry.creditAmount returned

/-- Every code of the trial balance has an active account, and every page break falls after a
    nonempty code that is not below an earlier one and is below all later ones. -/
def PagesAgree (bookId pageLimit : ℕ) (trialBalance : TrialBalanceDocument) : Prop :=
  (∀ entry ∈ trialBalance.lines, HasActiveAccount dep bookId entry.chartAccountCode) ∧
    PagesSplit Prod.fst "" pageLimit [] (trialBalance.lines.map TrialBalanceEntry.balanceLine)

variable {dep}

/-! ## Kept lines -/

/-- An aggregate of balanced lines balances. -/
theorem balanceRows_balanced {rows : List LedgerLine}
    (h : total LedgerLine.debit rows = total LedgerLine.credit rows) :
    total BalanceRow.debitTotal (balanceRows dep rows) =
      total BalanceRow.creditTotal (balanceRows dep rows) := by
  have hdebit := balanceRows_total dep LedgerLine.debit BalanceRow.debitTotal rows
    (fun _ => true) fun _ _ => rfl
  have hcredit := balanceRows_total dep LedgerLine.credit BalanceRow.creditTotal rows
    (fun _ => true) fun _ _ => rfl
  rw [List.filter_true, List.filter_true] at hdebit hcredit
  exact hdebit.trans (h.trans hcredit.symm)

/-- Whatever the commands stored stays kept when accounts are retired or superseded later. -/
theorem WellFormed.linesKept {past : Deployment} {t : Tables} (h : WellFormed past t)
    (hkeep : ∀ chartAccountId account, past.chartAccount? chartAccountId = some account →
      ∃ account', dep.chartAccount? chartAccountId = some account') : LinesKept dep t := by
  have hsnapshot : ∀ s ∈ t.snapshots, ∃ journals : List GeneralJournal,
      (∀ j ∈ journals, j ∈ t.journals) ∧
      s.lines = (balanceRows past (ledgerLines past journals)).map snapshotLine := by
    intro s hs
    obtain ⟨c, hc, hfor, -⟩ := h.snapshots.locked s hs
    obtain ⟨p, hp, hid⟩ := h.controls.owned c hc
    refine ⟨_, ?_, (h.snapshots.frozen s hs p hp (hid.trans hfor.2)).1⟩
    exact fun j hj => (List.mem_filter.mp (List.mem_filter.mp hj).1).1
  constructor
  · intro j hj line hline
    obtain ⟨account, haccount⟩ := h.line_account hj hline
    exact hkeep _ account haccount
  · exact fun j hj => (h.facts j hj).balanced
  · intro s hs line hline
    obtain ⟨journals, -, hlines⟩ := hsnapshot s hs
    rw [hlines] at hline
    obtain ⟨row, hrow, rfl⟩ := List.mem_map.mp hline
    obtain ⟨ledgerLine, -, haccount, -⟩ := balanceRow_account (fun _ hrow => hrow) hrow
    exact hkeep _ _ haccount
  · intro s hs
    obtain ⟨journals, hsub, hlines⟩ := hsnapshot s hs
    rw [hlines, total_map, total_map]
    exact balanceRows_balanced (h.ledgerLines_balanced hsub)

/-! ## One page -/

theorem chartAccountClasses_isSome {book : AccountingBook} {code : String} :
    ((chartAccountClasses dep book).get? code).isSome ↔
      HasActiveAccount dep book.accountingBookId code := by
  have hrows : chartAccountClasses dep book = Dict.ofRows ChartAccount.chartAccountCode
      ChartAccount.accountClassCode (dep.rowOrder (dep.catalog.chartAccounts.filter fun account =>
        account.accountingBookId = book.accountingBookId ∧ account.isCurrent)) := rfl
  rw [Option.isSome_iff_exists, ← Dict.mem_keys_iff, hrows, Dict.mem_keys_ofRows]
  unfold HasActiveAccount
  simp only [(dep.rowOrder_perm _).mem_iff, List.mem_filter, decide_eq_true_eq]
  constructor
  · rintro ⟨account, ⟨hmem, hbook, hcurrent⟩, hcode⟩
    exact ⟨account, hmem, hbook, hcode, hcurrent⟩
  · rintro ⟨account, hmem, hbook, hcode, hcurrent⟩
    exact ⟨account, ⟨hmem, hbook, hcurrent⟩, hcode⟩

theorem accountBalanceEntry_ok {classes : Dict String AccountClass} {line : String × ℕ × ℕ}
    {entry : AccountBalanceEntry} (h : accountBalanceEntry classes line = .ok entry) :
    entry.balanceLine = line ∧ (classes.get? line.1).isSome := by
  simp only [accountBalanceEntry, bind_eq_ok, fetch_eq_ok, pure_eq_ok] at h
  obtain ⟨accountClass, hclass, rfl⟩ := h
  exact ⟨rfl, by rw [hclass]; rfl⟩

theorem accountBalanceEntries_ok {classes : Dict String AccountClass} {lines : List (String × ℕ × ℕ)}
    {entries : List AccountBalanceEntry} (h : tryMap (accountBalanceEntry classes) lines = .ok entries) :
    entries.map AccountBalanceEntry.balanceLine = lines :=
  (map_tryMap (fun _ _ hentry => (accountBalanceEntry_ok hentry).1) h).trans (List.map_id lines)

theorem exists_accountBalanceEntries {classes : Dict String AccountClass}
    {lines : List (String × ℕ × ℕ)} (h : ∀ line ∈ lines, (classes.get? line.1).isSome) :
    ∃ entries, tryMap (accountBalanceEntry classes) lines = .ok entries := by
  induction lines with
  | nil => exact ⟨[], rfl⟩
  | cons line lines ih =>
    obtain ⟨accountClass, hclass⟩ := Option.isSome_iff_exists.mp (h line List.mem_cons_self)
    obtain ⟨entries, hentries⟩ := ih fun l hl => h l (List.mem_cons_of_mem line hl)
    refine ⟨⟨line.1, accountClass, line.2.1, line.2.2⟩ :: entries, ?_⟩
    simp only [tryMap, accountBalanceEntry, bind_eq_ok, fetch_eq_ok, pure_eq_ok]
    exact ⟨_, ⟨accountClass, hclass, rfl⟩, entries, hentries, rfl⟩

section Pages

variable {t : Tables} {legalEntityReference accountingBookReference periodCode : String}
  {pageLimit : ℕ} {entity : LegalEntityRecord} {book : AccountingBook}
  {trialBalance : TrialBalanceDocument}

/-- The lines all pages are cut from. -/
theorem loadAccountBalances_ok
    (hscope : dep.loadScope legalEntityReference accountingBookReference
      "the account-balance read" = .ok (entity, book))
    (htrial : loadPeriodTrialBalance dep t legalEntityReference accountingBookReference periodCode "" =
      .ok trialBalance) {cursor : String} {document : AccountBalancesDocument} :
    loadAccountBalances dep t legalEntityReference accountingBookReference periodCode "" pageLimit
        cursor = .ok document ↔
      ∃ entries, tryMap (accountBalanceEntry (chartAccountClasses dep book))
          ((rowsAfter Prod.fst "" (trialBalance.lines.map TrialBalanceEntry.balanceLine) cursor).take
            pageLimit) = .ok entries ∧
        document = ⟨dep.catalog.tenantReference, legalEntityReference, accountingBookReference,
          trialBalance.fiscalPeriodReference, entries,
          cursorAfter Prod.fst "" pageLimit (trialBalance.lines.map TrialBalanceEntry.balanceLine)
            cursor⟩ := by
  have hstrip : strip "" = "" := by decide +kernel
  have hrows : (if cursor = "" then trialBalance.lines.map TrialBalanceEntry.balanceLine
      else (trialBalance.lines.map TrialBalanceEntry.balanceLine).filter fun line => cursor < line.1) =
      rowsAfter Prod.fst "" (trialBalance.lines.map TrialBalanceEntry.balanceLine) cursor := by
    unfold rowsAfter
    congr
  have hload : loadAccountBalances dep t legalEntityReference accountingBookReference periodCode ""
      pageLimit cursor = (tryMap (accountBalanceEntry (chartAccountClasses dep book))
        ((rowsAfter Prod.fst "" (trialBalance.lines.map TrialBalanceEntry.balanceLine) cursor).take
          pageLimit)).map fun entries => ⟨dep.catalog.tenantReference, legalEntityReference,
            accountingBookReference, trialBalance.fiscalPeriodReference, entries,
            cursorAfter Prod.fst "" pageLimit
              (trialBalance.lines.map TrialBalanceEntry.balanceLine) cursor⟩ := by
    unfold loadAccountBalances
    rw [htrial, hscope]
    simp only [ok_bind, hstrip]
    rw [require_of (Or.inl trivial), ok_bind, requestedLines, if_pos rfl]
    have hlines : (trialBalance.lines.map fun line =>
        (line.chartAccountCode, line.debitAmount, line.creditAmount)) =
        trialBalance.lines.map TrialBalanceEntry.balanceLine := rfl
    rw [hlines, hrows]
    cases tryMap (accountBalanceEntry (chartAccountClasses dep book))
      ((rowsAfter Prod.fst "" (trialBalance.lines.map TrialBalanceEntry.balanceLine) cursor).take
        pageLimit) with
    | error e => rfl
    | ok entries => rfl
  rw [hload, map_eq_ok]
  exact exists_congr fun entries => and_congr_right fun _ => eq_comm

/-! ## All pages -/

/-- Read as lines, the pages are those of a cursor over the trial balance. -/
theorem AccountBalanceWalk.cursorWalk
    (hscope : dep.loadScope legalEntityReference accountingBookReference
      "the account-balance read" = .ok (entity, book))
    (htrial : loadPeriodTrialBalance dep t legalEntityReference accountingBookReference periodCode "" =
      .ok trialBalance) {cursor : String} {returned : List AccountBalanceEntry}
    (h : AccountBalanceWalk dep t legalEntityReference accountingBookReference periodCode pageLimit
      cursor returned) :
    CursorWalk Prod.fst "" pageLimit (trialBalance.lines.map TrialBalanceEntry.balanceLine) cursor
        (returned.map AccountBalanceEntry.balanceLine) ∧
      ∀ entry ∈ returned, HasActiveAccount dep book.accountingBookId entry.chartAccountCode := by
  have hactive : ∀ {lines : List (String × ℕ × ℕ)} {entries : List AccountBalanceEntry},
      tryMap (accountBalanceEntry (chartAccountClasses dep book)) lines = .ok entries →
      ∀ entry ∈ entries, HasActiveAccount dep book.accountingBookId entry.chartAccountCode := by
    intro lines entries hentries entry hentry
    obtain ⟨line, -, hline⟩ := mem_tryMap hentries hentry
    obtain ⟨rfl, hclass⟩ := accountBalanceEntry_ok hline
    exact chartAccountClasses_isSome.mp hclass
  induction h with
  | last hload hnext =>
    obtain ⟨entries, hentries, rfl⟩ := (loadAccountBalances_ok hscope htrial).mp hload
    refine ⟨?_, hactive hentries⟩
    rw [accountBalanceEntries_ok hentries]
    exact .last hnext
  | more hload hnext _ ih =>
    obtain ⟨entries, hentries, rfl⟩ := (loadAccountBalances_ok hscope htrial).mp hload
    refine ⟨?_, ?_⟩
    · rw [List.map_append, accountBalanceEntries_ok hentries]
      exact .more hnext ih.1
    · intro entry hentry
      rcases List.mem_append.mp hentry with hentry | hentry
      · exact hactive hentries entry hentry
      · exact ih.2 entry hentry

/-- With an active account for every code no page raises. -/
theorem exists_accountBalanceWalk
    (hscope : dep.loadScope legalEntityReference accountingBookReference
      "the account-balance read" = .ok (entity, book))
    (htrial : loadPeriodTrialBalance dep t legalEntityReference accountingBookReference periodCode "" =
      .ok trialBalance)
    (hactive : ∀ entry ∈ trialBalance.lines,
      HasActiveAccount dep book.accountingBookId entry.chartAccountCode)
    {cursor : String} {lines : List (String × ℕ × ℕ)}
    (h : CursorWalk Prod.fst "" pageLimit (trialBalance.lines.map TrialBalanceEntry.balanceLine)
      cursor lines) :
    ∃ returned, AccountBalanceWalk dep t legalEntityReference accountingBookReference periodCode
        pageLimit cursor returned ∧ returned.map AccountBalanceEntry.balanceLine = lines := by
  have hpage : ∀ cursor : String, ∃ entries, tryMap (accountBalanceEntry (chartAccountClasses dep book))
      ((rowsAfter Prod.fst "" (trialBalance.lines.map TrialBalanceEntry.balanceLine) cursor).take
        pageLimit) = .ok entries := by
    intro cursor
    refine exists_accountBalanceEntries fun line hline => ?_
    have hmem : line ∈ trialBalance.lines.map TrialBalanceEntry.balanceLine := by
      have hrow := List.mem_of_mem_take hline
      unfold rowsAfter at hrow
      split at hrow
      · exact hrow
      · exact (List.mem_filter.mp hrow).1
    obtain ⟨entry, hentry, rfl⟩ := List.mem_map.mp hmem
    exact chartAccountClasses_isSome.mpr (hactive entry hentry)
  induction h with
  | @last cursor hnext =>
    obtain ⟨entries, hentries⟩ := hpage cursor
    exact ⟨entries, .last ((loadAccountBalances_ok hscope htrial).mpr ⟨entries, hentries, rfl⟩) hnext,
      accountBalanceEntries_ok hentries⟩
  | @more cursor next lines hnext _ ih =>
    obtain ⟨entries, hentries⟩ := hpage cursor
    obtain ⟨returned, hwalk, hlines⟩ := ih
    refine ⟨entries ++ returned,
      .more ((loadAccountBalances_ok hscope htrial).mpr ⟨entries, hentries, rfl⟩) hnext hwalk, ?_⟩
    rw [List.map_append, accountBalanceEntries_ok hentries, hlines]

/-! ## The lines of a trial balance -/

/-- A trial balance that loads resolved its scope and period, and has the rows of its basis. -/
theorem loadPeriodTrialBalance_rows {balanceBasisCode : String}
    (htrial : loadPeriodTrialBalance dep t legalEntityReference accountingBookReference periodCode
      balanceBasisCode = .ok trialBalance) :
    ∃ entity book period rows source id,
      dep.loadScope legalEntityReference accountingBookReference "the trial-balance read" =
        .ok (entity, book) ∧
      requireFiscalPeriod dep t periodCode "the trial-balance read" = .ok period ∧
      trialBalanceLines dep t entity book period balanceBasisCode = .ok (rows, source, id) ∧
      trialBalance.lines = rows.map trialBalanceEntry := by
  simp only [loadPeriodTrialBalance, bind_eq_ok, pure_eq_ok] at htrial
  obtain ⟨-, -, -, -, -, -, -, -, ⟨entity, book⟩, hscope, period, hperiod, ⟨rows, source, id⟩, hrows,
    rfl⟩ := htrial
  exact ⟨entity, book, period, rows, source, id, hscope, hperiod, hrows, rfl⟩

/-- The rows of a trial balance are those of a stored snapshot or of the stored journals. -/
theorem loadPeriodTrialBalance_lines
    (htrial : loadPeriodTrialBalance dep t legalEntityReference accountingBookReference periodCode "" =
      .ok trialBalance) :
    ∃ rows, trialBalance.lines = rows.map trialBalanceEntry ∧
      ((∃ snapshot ∈ t.snapshots, rows = snapshotBalanceLines dep snapshot) ∨
        ∃ legalEntityId bookId throughDate,
          rows = (aggregateTrialBalance dep t legalEntityId bookId throughDate).map liveRow) := by
  obtain ⟨entity, book, period, rows, source, id, -, -, hrows, hlines⟩ :=
    loadPeriodTrialBalance_rows htrial
  refine ⟨rows, hlines, ?_⟩
  unfold trialBalanceLines at hrows
  rw [if_neg (by decide), if_neg (by decide), if_neg (by decide)] at hrows
  split at hrows
  · simp only [bind_eq_ok, fetch_eq_ok, pure_eq_ok, Prod.mk.injEq] at hrows
    obtain ⟨snapshot, hlatest, rfl, -⟩ := hrows
    exact Or.inl ⟨snapshot, (mem_of_latestCloseSnapshot hlatest).1, rfl⟩
  · simp only [pure_eq_ok, Prod.mk.injEq] at hrows
    exact Or.inr ⟨_, _, _, hrows.1.symm⟩

/-- The lines stand in the order of the collation. -/
theorem trialBalance_ordered (horder : OrdersTexts dep)
    (htrial : loadPeriodTrialBalance dep t legalEntityReference accountingBookReference periodCode "" =
      .ok trialBalance) :
    (trialBalance.lines.map TrialBalanceEntry.balanceLine).Pairwise fun a b =>
      dep.collation a.1 b.1 = true := by
  obtain ⟨rows, hrows, hsource⟩ := loadPeriodTrialBalance_lines htrial
  have hlines : trialBalance.lines.map TrialBalanceEntry.balanceLine = rows := by
    rw [hrows, List.map_map]
    exact List.map_id rows
  rw [hlines]
  rcases hsource with ⟨snapshot, -, rfl⟩ | ⟨_, _, _, rfl⟩
  · have : Std.Total fun a b : String × ℕ × ℕ => dep.collation a.1 b.1 = true :=
      ⟨fun a b => horder.total a.1 b.1⟩
    have : IsTrans (String × ℕ × ℕ) fun a b => dep.collation a.1 b.1 = true :=
      ⟨fun a b c => horder.trans a.1 b.1 c.1⟩
    exact List.pairwise_insertionSort _ _
  · have : Std.Total fun a b : ℕ × String => dep.collation a.2 b.2 = true :=
      ⟨fun a b => horder.total a.2 b.2⟩
    have : IsTrans (ℕ × String) fun a b => dep.collation a.2 b.2 = true :=
      ⟨fun a b c => horder.trans a.2 b.2 c.2⟩
    rw [aggregateTrialBalance, balanceRows, List.pairwise_map, List.pairwise_map]
    exact List.pairwise_insertionSort (fun a b : ℕ × String => dep.collation a.2 b.2 = true) _

/-- A stored snapshot balances as it is read. -/
theorem snapshotBalanceLines_balanced (hkept : LinesKept dep t) {snapshot : TrialBalanceSnapshot}
    (hsnapshot : snapshot ∈ t.snapshots) :
    total (fun line : String × ℕ × ℕ => line.2.1) (snapshotBalanceLines dep snapshot) =
      total (fun line : String × ℕ × ℕ => line.2.2) (snapshotBalanceLines dep snapshot) := by
  have hsum : ∀ (f : String × ℕ × ℕ → ℕ) (g : TrialBalanceLine → ℕ),
      (∀ line account, dep.chartAccount? line.chartAccountId = some account →
        f (account.chartAccountCode, line.debitTotalAmount, line.creditTotalAmount) = g line) →
      total f (snapshotBalanceLines dep snapshot) = total g snapshot.lines := by
    intro f g hfg
    rw [snapshotBalanceLines, total_perm (List.perm_insertionSort _ _), total_perm (dep.rowOrder_perm _)]
    have haccounts := hkept.snapshot_accounts snapshot hsnapshot
    generalize snapshot.lines = lines at haccounts ⊢
    induction lines with
    | nil => rfl
    | cons line lines ih =>
      obtain ⟨account, haccount⟩ := haccounts line List.mem_cons_self
      rw [List.filterMap_cons, haccount, Option.map_some, total_cons, total_cons,
        hfg line account haccount, ih fun l hl => haccounts l (List.mem_cons_of_mem line hl)]
  rw [hsum _ TrialBalanceLine.debitTotalAmount fun _ _ _ => rfl,
    hsum _ TrialBalanceLine.creditTotalAmount fun _ _ _ => rfl]
  exact hkept.snapshot_balanced snapshot hsnapshot

/-- A trial balance of kept lines balances. -/
theorem trialBalance_balanced (hkept : LinesKept dep t)
    (htrial : loadPeriodTrialBalance dep t legalEntityReference accountingBookReference periodCode "" =
      .ok trialBalance) :
    total (fun line : String × ℕ × ℕ => line.2.1)
        (trialBalance.lines.map TrialBalanceEntry.balanceLine) =
      total (fun line : String × ℕ × ℕ => line.2.2)
        (trialBalance.lines.map TrialBalanceEntry.balanceLine) := by
  obtain ⟨rows, hrows, hsource⟩ := loadPeriodTrialBalance_lines htrial
  have hlines : trialBalance.lines.map TrialBalanceEntry.balanceLine = rows := by
    rw [hrows, List.map_map]
    exact List.map_id rows
  rw [hlines]
  rcases hsource with ⟨snapshot, hsnapshot, rfl⟩ | ⟨legalEntityId, bookId, throughDate, rfl⟩
  · exact snapshotBalanceLines_balanced hkept hsnapshot
  · have hstored : ∀ j ∈ (bookJournals t legalEntityId bookId).filter
        (fun journal => journal.accountingDate ≤ throughDate), j ∈ t.journals := fun j hj =>
      (List.mem_filter.mp (List.mem_filter.mp hj).1).1
    rw [total_map, total_map]
    exact balanceRows_balanced (ledgerLines_balanced
      (fun j hj => hkept.accounts j (hstored j hj)) fun j hj => hkept.balanced j (hstored j hj))

/-! ## Completeness -/

/-- The pages of the account balances are complete exactly when every code of the trial balance
    has an active account and the page breaks agree with the order of the cursor. -/
theorem accountBalances_complete_iff (dep : Deployment) (t : Tables)
    (legalEntityReference accountingBookReference periodCode : String) (pageLimit : ℕ)
    (entity : LegalEntityRecord) (book : AccountingBook) (trialBalance : TrialBalanceDocument)
    (horder : OrdersTexts dep) (hkept : LinesKept dep t) (hlimit : 1 ≤ pageLimit)
    (hscope : dep.loadScope legalEntityReference accountingBookReference
      "the account-balance read" = .ok (entity, book))
    (htrial : loadPeriodTrialBalance dep t legalEntityReference accountingBookReference periodCode "" =
      .ok trialBalance) :
    CompletelyPaged dep t legalEntityReference accountingBookReference periodCode pageLimit
        trialBalance ↔ PagesAgree dep book.accountingBookId pageLimit trialBalance := by
  have hstart : ∀ code : String, "" ≤ code := fun code =>
    String.le_iff_toList_le.mpr (not_lt.mp (List.not_lt_nil _))
  have hadjacent : KeysAdjacent Prod.fst (trialBalance.lines.map TrialBalanceEntry.balanceLine) :=
    keysAdjacent_of_pairwise horder.antisymm (trialBalance_ordered horder htrial)
  constructor
  · rintro ⟨returned, hwalk, hperm, -⟩
    obtain ⟨hcursors, hactive⟩ := hwalk.cursorWalk hscope htrial
    refine ⟨?_, (exists_cursorWalk_iff hlimit hstart hadjacent).mp ⟨_, hcursors, hperm⟩⟩
    intro entry hentry
    have hmem := hperm.mem_iff.mpr (List.mem_map_of_mem hentry)
    obtain ⟨entry', hentry', hline⟩ := List.mem_map.mp hmem
    have hcode : entry'.chartAccountCode = entry.chartAccountCode := congrArg Prod.fst hline
    rw [← hcode]
    exact hactive entry' hentry'
  · rintro ⟨hactive, hsplit⟩
    obtain ⟨lines, hcursors, hperm⟩ := (exists_cursorWalk_iff hlimit hstart hadjacent).mpr hsplit
    obtain ⟨returned, hwalk, rfl⟩ := exists_accountBalanceWalk hscope htrial hactive hcursors
    refine ⟨returned, hwalk, hperm, ?_⟩
    have hbalanced := trialBalance_balanced hkept htrial
    rw [← total_perm hperm, ← total_perm hperm, total_map, total_map] at hbalanced
    exact hbalanced

end Pages

/-! ## Retired accounts -/

/-- The sample catalog after an account was retired without a successor. -/
def catalogWithout (code : String) : Catalog where
  tenantReference := sampleCatalog.tenantReference
  legalEntities := sampleCatalog.legalEntities
  books := sampleCatalog.books
  chartAccounts := sampleCatalog.chartAccounts.map fun account =>
    { account with isCurrent := account.isCurrent && account.chartAccountCode ≠ code }
  roleMappings := sampleCatalog.roleMappings
  calendars := sampleCatalog.calendars
  legalEntity_key := sampleCatalog.legalEntity_key
  book_key := sampleCatalog.book_key
  chartAccount_key := by
    rw [List.map_map]
    exact sampleCatalog.chartAccount_key
  book_entity := sampleCatalog.book_entity

/-- One invoice on `110100` and `410100` in an open January. -/
def invoicedTables : Tables := ledgerAfter (sampleDeployment sampleCatalog) [
  samplePeriod "2024-01" "open-1" 738886 738916,
  sampleInvoice "urn:cwl:book:b1" "2024-01" "0f8fad5b-d9cb-469f-a165-70867728950e" "invoice-1" 738900
    1000000]

theorem invoicedTables_kept (code : String) :
    LinesKept (sampleDeployment (catalogWithout code)) invoicedTables := by
  refine (wellFormed_ledgerAfter _).linesKept fun chartAccountId account haccount => ?_
  have hmem := List.mem_of_find?_eq_some haccount
  have hid := List.find?_some haccount
  rw [decide_eq_true_eq] at hid
  refine ⟨{ account with isCurrent := account.isCurrent && account.chartAccountCode ≠ code }, ?_⟩
  have hretired := (sampleDeployment (catalogWithout code)).chartAccount?_of_mem
    (List.mem_map_of_mem hmem)
  rw [← hid]
  exact hretired

theorem sampleDeployment_ordersTexts (catalog : Catalog) : OrdersTexts (sampleDeployment catalog) where
  total := fun a b => by simpa [sampleDeployment] using le_total a b
  trans := fun a b c hab hbc => by
    simp only [sampleDeployment, decide_eq_true_eq] at hab hbc ⊢
    exact le_trans hab hbc
  antisymm := fun a b hab hba => by
    simp only [sampleDeployment, decide_eq_true_eq] at hab hba
    exact le_antisymm hab hba

def invoicedTrialBalance : TrialBalanceDocument where
  tenantReference := "urn:cwl:tenant:t1"
  legalEntityReference := "urn:cwl:legal_entity:e1"
  accountingBookReference := "urn:cwl:book:b1"
  fiscalPeriodReference := "urn:cwl:accounting:fiscal_period:2024-01"
  periodCode := "2024-01"
  periodStatus := .opened
  balanceSourceCode := "live"
  lines := [⟨"110100", 1000000, 0, 1000000⟩, ⟨"410100", 0, 1000000, -1000000⟩]
  snapshotRecordId := none
  balanceBasisCode := ""

/-- An account that nothing was posted to may be retired. -/
theorem retiredExpense_complete :
    CompletelyPaged (sampleDeployment (catalogWithout "510100")) invoicedTables
      "urn:cwl:legal_entity:e1" "urn:cwl:book:b1" "2024-01" 1 invoicedTrialBalance := by
  refine (accountBalances_complete_iff (sampleDeployment (catalogWithout "510100")) invoicedTables
    "urn:cwl:legal_entity:e1" "urn:cwl:book:b1" "2024-01" 1 sampleEntity sampleBook
    invoicedTrialBalance (sampleDeployment_ordersTexts _) (invoicedTables_kept _) (by decide)
    (by decide +kernel) (by decide +kernel)).mpr ⟨?_, ?_⟩
  · decide +kernel
  · refine pagesSplit_of_pairwise ?_ ?_
    · decide +kernel
    · decide +kernel

/-- A retired account with a balance takes the whole page with it. -/
theorem retiredRevenue_raises :
    loadPeriodTrialBalance (sampleDeployment (catalogWithout "410100")) invoicedTables
        "urn:cwl:legal_entity:e1" "urn:cwl:book:b1" "2024-01" "" = .ok invoicedTrialBalance ∧
      LinesKept (sampleDeployment (catalogWithout "410100")) invoicedTables ∧
      ¬CompletelyPaged (sampleDeployment (catalogWithout "410100")) invoicedTables
        "urn:cwl:legal_entity:e1" "urn:cwl:book:b1" "2024-01" 50 invoicedTrialBalance := by
  have hraises : loadAccountBalances (sampleDeployment (catalogWithout "410100")) invoicedTables
      "urn:cwl:legal_entity:e1" "urn:cwl:book:b1" "2024-01" "" 50 "" = .error .missingKey := by
    decide +kernel
  refine ⟨by decide +kernel, invoicedTables_kept _, ?_⟩
  rintro ⟨returned, hwalk, -⟩
  cases hwalk with
  | last hload _ =>
    rw [hraises] at hload
    cases hload
  | more hload _ _ =>
    rw [hraises] at hload
    cases hload

end AccountingPlatform.Postgres
