/-
  `PostgresPostingLedger.trial_balance` and the reference aggregate.

  The read takes whichever row the database returns first for the entity's code and for the
  book's name, superseded rows and rows of other entities included, and it rebuilds a dictionary
  by code from groups by account row. The reference adds up the lines of all journals of the
  entity and the book by code, whatever rows they were posted on.
-/
import AccountingPlatform.Postgres.BalanceSheet
import AccountingPlatform.Core.Integrity

namespace AccountingPlatform.Postgres

open AccountingPlatform.Lib AccountingPlatform.Core
open AccountingPlatform.Core.PostingLedger (AccountBalance)

variable (dep : Deployment)

/-! ## The read -/

/-- The entity's row: the code alone, `valid_to` unchecked. -/
def entityRow (legalEntityReference : String) : Option LegalEntityRecord :=
  dep.fetchone (dep.catalog.legalEntities.filter fun entity =>
    entity.legalEntityCode = legalEntityReference)

/-- The book's row: the name alone, of any entity. -/
def bookRow (accountingBookReference : String) : Option AccountingBook :=
  dep.fetchone (dep.catalog.books.filter fun book => book.bookName = accountingBookReference)

def accountBalance (row : BalanceRow) : AccountBalance :=
  ⟨row.chartAccountCode, row.debitTotal, row.creditTotal⟩

/-- `PostgresPostingLedger.trial_balance`. -/
def trialBalance (t : Tables)
    (tenantReference legalEntityReference accountingBookReference : String) (throughDate : Date) :
    Dict String AccountBalance :=
  if tenantReference ≠ dep.catalog.tenantReference then Dict.empty
  else
    match entityRow dep legalEntityReference, bookRow dep accountingBookReference with
    | some entity, some book => Dict.ofRows BalanceRow.chartAccountCode accountBalance
        (aggregateTrialBalance dep t entity.legalEntityId book.accountingBookId throughDate)
    | _, _ => Dict.empty

/-! ## The lines it is about -/

/-- The journal is of the entity and the book, on whichever of their rows, through the date. -/
def IsScoped (tenantReference legalEntityReference accountingBookReference : String)
    (throughDate : Date) (journal : GeneralJournal) : Prop :=
  dep.catalog.tenantReference = tenantReference ∧
    legalEntityCode? dep journal.legalEntityId = some legalEntityReference ∧
    bookName? dep journal.accountingBookId = some accountingBookReference ∧
    journal.accountingDate ≤ throughDate

instance (tenantReference legalEntityReference accountingBookReference : String)
    (throughDate : Date) : DecidablePred (IsScoped dep tenantReference legalEntityReference
      accountingBookReference throughDate) :=
  fun _ => inferInstanceAs (Decidable (_ ∧ _))

def scopedLines (t : Tables)
    (tenantReference legalEntityReference accountingBookReference : String) (throughDate : Date) :
    List LedgerLine :=
  ledgerLines dep (t.journals.filter fun journal =>
    IsScoped dep tenantReference legalEntityReference accountingBookReference throughDate journal)

/-- Exact totals of the lines of a code, none when it has no line. -/
def codeBalance (rows : List LedgerLine) (code : String) : Option AccountBalance :=
  if ∃ row ∈ rows, row.code = code then
    some ⟨code, (accountSides code rows).1, (accountSides code rows).2⟩
  else none

/-- Every code has the totals of its lines, and debits equal credits. -/
def TotalsExact (balances : Dict String AccountBalance) (rows : List LedgerLine) : Prop :=
  (∀ code, balances.get? code = codeBalance rows code) ∧
    total AccountBalance.debitTotal balances.values = total AccountBalance.creditTotal balances.values

/-- All lines were posted on the two rows the read resolves. -/
def OnResolvedRows (legalEntityReference accountingBookReference : String)
    (rows : List LedgerLine) : Prop :=
  ∀ row ∈ rows,
    (entityRow dep legalEntityReference).map LegalEntityRecord.legalEntityId =
      some row.journal.legalEntityId ∧
    (bookRow dep accountingBookReference).map AccountingBook.accountingBookId =
      some row.journal.accountingBookId

instance (legalEntityReference accountingBookReference : String) (rows : List LedgerLine) :
    Decidable (OnResolvedRows dep legalEntityReference accountingBookReference rows) :=
  inferInstanceAs (Decidable (∀ row ∈ rows, _ ∧ _))

/-- Lines of one code are on one version of its account. -/
def OneVersion (rows : List LedgerLine) : Prop :=
  ∀ row ∈ rows, ∀ row' ∈ rows, row.code = row'.code →
    row.account.chartAccountId = row'.account.chartAccountId

instance (rows : List LedgerLine) : Decidable (OneVersion rows) :=
  inferInstanceAs (Decidable (∀ row ∈ rows, ∀ row' ∈ rows, _ → _))

/-- What keys, checks and the balance trigger hold of every stored journal. -/
structure JournalStored (journal : GeneralJournal) : Prop where
  accounts : ∀ line ∈ journal.lines, ∃ account,
    dep.chartAccount? line.chartAccountId = some account
  sides : ∀ line ∈ journal.lines,
    (0 < line.debitAmount ∧ line.creditAmount = 0) ∨ (line.debitAmount = 0 ∧ 0 < line.creditAmount)
  balanced : total JournalEntryLine.debitAmount journal.lines =
    total JournalEntryLine.creditAmount journal.lines

/-! ## The same journals in the reference ledger -/

structure SameJournal (journal : GeneralJournal) (posted : PostedJournal) : Prop where
  tenant : posted.tenantReference = dep.catalog.tenantReference
  legalEntity : legalEntityCode? dep journal.legalEntityId = some posted.legalEntityReference
  book : bookName? dep journal.accountingBookId = some posted.accountingBookReference
  accountingDate : posted.accountingDate = journal.accountingDate
  lines : journal.lines.map (fun line =>
      ((dep.chartAccount? line.chartAccountId).map ChartAccount.chartAccountCode, line.debitAmount,
        line.creditAmount)) =
    posted.lines.map fun line => (some line.chartAccountCode, line.debitAmount, line.creditAmount)

def SameJournals (t : Tables) (ledger : PostingLedger) : Prop :=
  List.Forall₂ (SameJournal dep) t.journals ledger.journals.values

variable {dep}

/-! ## Which lines the read sees -/

theorem entityRow_some {legalEntityReference : String} {entity : LegalEntityRecord}
    (h : entityRow dep legalEntityReference = some entity) :
    legalEntityCode? dep entity.legalEntityId = some legalEntityReference := by
  have hmem := dep.fetchone_mem h
  rw [List.mem_filter, decide_eq_true_eq] at hmem
  rw [legalEntityCode?, find?_of_nodup_map dep.catalog.legalEntity_key hmem.1, Option.map_some,
    hmem.2]

theorem bookRow_some {accountingBookReference : String} {book : AccountingBook}
    (h : bookRow dep accountingBookReference = some book) :
    bookName? dep book.accountingBookId = some accountingBookReference := by
  have hmem := dep.fetchone_mem h
  rw [List.mem_filter, decide_eq_true_eq] at hmem
  rw [bookName?, book?, find?_of_nodup_map dep.catalog.book_key hmem.1, Option.map_some, hmem.2]

/-- The read sees the scoped lines posted on the two rows it resolved. -/
theorem linesThrough_resolved (t : Tables)
    {tenantReference legalEntityReference accountingBookReference : String} (throughDate : Date)
    (htenant : tenantReference = dep.catalog.tenantReference) {entity : LegalEntityRecord}
    {book : AccountingBook} (hentity : entityRow dep legalEntityReference = some entity)
    (hbook : bookRow dep accountingBookReference = some book) :
    linesThrough dep t entity.legalEntityId book.accountingBookId throughDate =
      (scopedLines dep t tenantReference legalEntityReference accountingBookReference
        throughDate).filter fun row =>
        row.journal.legalEntityId = entity.legalEntityId ∧
          row.journal.accountingBookId = book.accountingBookId := by
  unfold linesThrough bookJournals scopedLines
  rw [← ledgerLines_filter dep fun journal => journal.legalEntityId = entity.legalEntityId ∧
    journal.accountingBookId = book.accountingBookId, List.filter_filter, List.filter_filter]
  refine congrArg _ (List.filter_congr fun journal _ => ?_)
  rw [Bool.eq_iff_iff]
  simp only [Bool.and_eq_true, decide_eq_true_eq]
  constructor
  · rintro ⟨hdate, hle, hbk⟩
    exact ⟨⟨hle, hbk⟩, htenant.symm, hle.symm ▸ entityRow_some hentity,
      hbk.symm ▸ bookRow_some hbook, hdate⟩
  · rintro ⟨hrows, hscoped⟩
    exact ⟨hscoped.2.2.2, hrows⟩

theorem mem_scopedLines {t : Tables}
    {tenantReference legalEntityReference accountingBookReference : String} {throughDate : Date}
    {row : LedgerLine} (h : row ∈ scopedLines dep t tenantReference legalEntityReference
      accountingBookReference throughDate) :
    row.journal ∈ t.journals ∧ row.line ∈ row.journal.lines ∧
      dep.catalog.tenantReference = tenantReference := by
  obtain ⟨hj, hline, -⟩ := mem_ledgerLines h
  simp only [List.mem_filter, decide_eq_true_eq] at hj
  exact ⟨hj.1, hline, hj.2.1⟩

/-- The sides of a group are those of its lines. -/
theorem balanceRow_sides {rows : List LedgerLine} {r : BalanceRow} (h : r ∈ balanceRows dep rows) :
    let group := rows.filter fun row =>
      (row.account.chartAccountId, row.code) = (r.chartAccountId, r.chartAccountCode)
    r.debitTotal = total LedgerLine.debit group ∧ r.creditTotal = total LedgerLine.credit group := by
  obtain ⟨key, -, rfl⟩ := List.mem_map.mp h
  exact ⟨rfl, rfl⟩

/-- A code with a line has a group. -/
theorem rowsOfCode_ne_nil {rows : List LedgerLine} {row : LedgerLine} (h : row ∈ rows) :
    rowsOfCode row.code (balanceRows dep rows) ≠ [] := by
  have hkey : (row.account.chartAccountId, row.code) ∈
      groupKeys (fun a b : ℕ × String => dep.collation a.2 b.2)
        (fun row : LedgerLine => (row.account.chartAccountId, row.code)) (dep.rowOrder rows) :=
    mem_groupKeys.mpr ⟨row, (dep.rowOrder_perm rows).mem_iff.mpr h, rfl⟩
  have hmem : _ ∈ balanceRows dep rows := List.mem_map_of_mem hkey
  exact List.ne_nil_of_mem (List.mem_filter.mpr ⟨hmem, by simp⟩)

/-! ## The balance of a code -/

/-- What the dictionary holds for a code: the last group of it. -/
theorem get?_trialBalance (t : Tables)
    {tenantReference legalEntityReference accountingBookReference : String} (throughDate : Date)
    (htenant : tenantReference = dep.catalog.tenantReference) {entity : LegalEntityRecord}
    {book : AccountingBook} (hentity : entityRow dep legalEntityReference = some entity)
    (hbook : bookRow dep accountingBookReference = some book) (code : String) :
    (trialBalance dep t tenantReference legalEntityReference accountingBookReference
      throughDate).get? code =
      (rowsOfCode code (balanceRows dep (linesThrough dep t entity.legalEntityId
        book.accountingBookId throughDate))).getLast?.map accountBalance := by
  unfold trialBalance
  rw [if_neg (not_not.mpr htenant), hentity, hbook]
  exact Dict.get?_ofRows _ _ _ _

/-- The totals of a code are right exactly when all its scoped lines are on the resolved rows and
    on the account of the group that counts. -/
theorem group_exact_iff {rows : List LedgerLine} (hsides : ∀ row ∈ rows, 0 < row.debit + row.credit)
    (q : LedgerLine → Prop) [DecidablePred q] {r : BalanceRow}
    (hr : r ∈ balanceRows dep (rows.filter fun row => q row)) :
    (r.debitTotal, r.creditTotal) = accountSides r.chartAccountCode rows ↔
      ∀ row ∈ rows, row.code = r.chartAccountCode →
        q row ∧ row.account.chartAccountId = r.chartAccountId := by
  obtain ⟨hdebit, hcredit⟩ := balanceRow_sides hr
  have hgroup : (rows.filter fun row => q row).filter (fun row =>
      (row.account.chartAccountId, row.code) = (r.chartAccountId, r.chartAccountCode)) =
      rows.filter fun row => row.code = r.chartAccountCode ∧
        (q row ∧ row.account.chartAccountId = r.chartAccountId) := by
    rw [List.filter_filter]
    refine List.filter_congr fun row _ => ?_
    rw [Bool.eq_iff_iff]
    simp only [Bool.and_eq_true, decide_eq_true_eq, Prod.mk.injEq]
    tauto
  rw [hgroup] at hdebit hcredit
  unfold accountSides
  rw [hdebit, hcredit, Prod.mk.injEq, total_filter_and_eq_iff, total_filter_and_eq_iff]
  constructor
  · rintro ⟨hd, hc⟩ row hrow hcode
    by_contra hnot
    have hpos := hsides row hrow
    have hd0 := hd row hrow hcode hnot
    have hc0 := hc row hrow hcode hnot
    omega
  · intro h
    exact ⟨fun row hrow hcode hnot => absurd (h row hrow hcode) hnot,
      fun row hrow hcode hnot => absurd (h row hrow hcode) hnot⟩

theorem codeBalance_none {rows : List LedgerLine} {code : String}
    (h : ¬∃ row ∈ rows, row.code = code) : codeBalance rows code = none := if_neg h

theorem codeBalance_some {rows : List LedgerLine} {row : LedgerLine} (h : row ∈ rows) :
    codeBalance rows row.code = some ⟨row.code, (accountSides row.code rows).1,
      (accountSides row.code rows).2⟩ := if_pos ⟨row, h, rfl⟩

theorem accountBalance_eq_iff {r : BalanceRow} {code : String} {sides : ℕ × ℕ} :
    accountBalance r = ⟨code, sides.1, sides.2⟩ ↔
      r.chartAccountCode = code ∧ (r.debitTotal, r.creditTotal) = sides := by
  rw [accountBalance, AccountBalance.mk.injEq, Nat.cast_inj, Nat.cast_inj, Prod.ext_iff]

/-- A read that resolved nothing is empty. -/
theorem resolved_of_get? {t : Tables}
    {tenantReference legalEntityReference accountingBookReference code : String}
    {throughDate : Date} {balance : AccountBalance}
    (h : (trialBalance dep t tenantReference legalEntityReference accountingBookReference
      throughDate).get? code = some balance) :
    tenantReference = dep.catalog.tenantReference ∧
      ∃ entity book, entityRow dep legalEntityReference = some entity ∧
        bookRow dep accountingBookReference = some book := by
  unfold trialBalance at h
  split at h
  · cases h
  · next htenant =>
    split at h
    · next entity book hentity hbook => exact ⟨not_not.mp htenant, entity, book, hentity, hbook⟩
    · cases h

section
variable {t : Tables}
  {tenantReference legalEntityReference accountingBookReference : String} {throughDate : Date}
  {rows : List LedgerLine}
  (hrows : rows = scopedLines dep t tenantReference legalEntityReference accountingBookReference
    throughDate)
include hrows

/-- A code without lines has no balance. -/
theorem get?_trialBalance_none {code : String} (h : ¬∃ row ∈ rows, row.code = code) :
    (trialBalance dep t tenantReference legalEntityReference accountingBookReference
      throughDate).get? code = none := by
  cases hget : (trialBalance dep t tenantReference legalEntityReference accountingBookReference
    throughDate).get? code with
  | none => rfl
  | some balance =>
    obtain ⟨htenant, entity, book, hentity, hbook⟩ := resolved_of_get? hget
    rw [get?_trialBalance t throughDate htenant hentity hbook, linesThrough_resolved t throughDate
      htenant hentity hbook, ← hrows, Option.map_eq_some_iff] at hget
    obtain ⟨r, hr, -⟩ := hget
    have hmem := List.mem_of_getLast? hr
    simp only [rowsOfCode, List.mem_filter, decide_eq_true_eq] at hmem
    obtain ⟨line, hline, -, hcode⟩ := mem_balanceRows hmem.1
    exact absurd ⟨line, (List.mem_filter.mp hline).1, hcode.symm.trans hmem.2⟩ h

/-- A code with lines has their totals exactly when all of them are on the resolved rows and on
    one account. -/
theorem code_exact_iff (hsides : ∀ row ∈ rows, 0 < row.debit + row.credit) {row : LedgerLine}
    (hrow : row ∈ rows) :
    (trialBalance dep t tenantReference legalEntityReference accountingBookReference
      throughDate).get? row.code = codeBalance rows row.code ↔
    ∃ accountId, ∀ row' ∈ rows, row'.code = row.code →
      ((entityRow dep legalEntityReference).map LegalEntityRecord.legalEntityId =
          some row'.journal.legalEntityId ∧
        (bookRow dep accountingBookReference).map AccountingBook.accountingBookId =
          some row'.journal.accountingBookId) ∧
      row'.account.chartAccountId = accountId := by
  rw [codeBalance_some hrow]
  constructor
  · intro hget
    obtain ⟨htenant, entity, book, hentity, hbook⟩ := resolved_of_get? hget
    rw [get?_trialBalance t throughDate htenant hentity hbook, linesThrough_resolved t throughDate
      htenant hentity hbook, ← hrows, Option.map_eq_some_iff] at hget
    obtain ⟨r, hr, hbalance⟩ := hget
    obtain ⟨hcode, hexact⟩ := accountBalance_eq_iff.mp hbalance
    have hmem := (List.mem_filter.mp (List.mem_of_getLast? hr)).1
    rw [← hcode] at hexact
    have hall := (group_exact_iff hsides _ hmem).mp hexact
    refine ⟨r.chartAccountId, fun row' hrow' hcode' => ?_⟩
    obtain ⟨⟨hle, hbk⟩, haccount⟩ := hall row' hrow' (hcode'.trans hcode.symm)
    rw [hentity, hbook, hle, hbk]
    exact ⟨⟨rfl, rfl⟩, haccount⟩
  · rintro ⟨accountId, hall⟩
    obtain ⟨⟨hle, hbk⟩, -⟩ := hall row hrow rfl
    obtain ⟨entity, hentity, hleId⟩ := Option.map_eq_some_iff.mp hle
    obtain ⟨book, hbook, hbkId⟩ := Option.map_eq_some_iff.mp hbk
    have htenant := (mem_scopedLines (hrows ▸ hrow)).2.2.symm
    rw [get?_trialBalance t throughDate htenant hentity hbook, linesThrough_resolved t throughDate
      htenant hentity hbook, ← hrows, Option.map_eq_some_iff]
    have hresolved : ∀ row' ∈ rows, row'.code = row.code →
        (row'.journal.legalEntityId = entity.legalEntityId ∧
          row'.journal.accountingBookId = book.accountingBookId) ∧
        row'.account.chartAccountId = accountId := by
      intro row' hrow' hcode'
      obtain ⟨⟨hle', hbk'⟩, haccount⟩ := hall row' hrow' hcode'
      rw [hentity, Option.map_some, Option.some.injEq] at hle'
      rw [hbook, Option.map_some, Option.some.injEq] at hbk'
      exact ⟨⟨hle'.symm, hbk'.symm⟩, haccount⟩
    set seen := rows.filter fun row' => row'.journal.legalEntityId = entity.legalEntityId ∧
      row'.journal.accountingBookId = book.accountingBookId with hseen
    have hrowSeen : row ∈ seen :=
      List.mem_filter.mpr ⟨hrow, by simpa using (hresolved row hrow rfl).1⟩
    cases hlast : (rowsOfCode row.code (balanceRows dep seen)).getLast? with
    | none => exact absurd (List.getLast?_eq_none_iff.mp hlast) (rowsOfCode_ne_nil hrowSeen)
    | some r =>
      have hmem := List.mem_of_getLast? hlast
      simp only [rowsOfCode, List.mem_filter, decide_eq_true_eq] at hmem
      obtain ⟨hr, hcode⟩ := hmem
      -- the group that counts is of the one account
      obtain ⟨line, hline, hid, hlineCode⟩ := mem_balanceRows hr
      have haccount : r.chartAccountId = accountId := by
        rw [hid]
        exact (hresolved line (List.mem_filter.mp hline).1 (hlineCode.symm.trans hcode)).2
      refine ⟨r, rfl, accountBalance_eq_iff.mpr ⟨hcode, ?_⟩⟩
      rw [← hcode]
      refine (group_exact_iff hsides _ hr).mpr fun row' hrow' hcode' => ?_
      rw [haccount]
      exact hresolved row' hrow' (hcode'.trans hcode)

/-- Every code has exact totals when, and only when, all lines are on the resolved rows and each
    code is on one version of its account. -/
theorem codes_exact_iff (hsides : ∀ row ∈ rows, 0 < row.debit + row.credit) :
    (∀ code, (trialBalance dep t tenantReference legalEntityReference accountingBookReference
      throughDate).get? code = codeBalance rows code) ↔
      OnResolvedRows dep legalEntityReference accountingBookReference rows ∧ OneVersion rows := by
  constructor
  · intro h
    refine ⟨fun row hrow => ?_, fun row hrow row' hrow' hcode => ?_⟩
    · obtain ⟨_, hall⟩ := (code_exact_iff hrows hsides hrow).mp (h row.code)
      exact (hall row hrow rfl).1
    · obtain ⟨_, hall⟩ := (code_exact_iff hrows hsides hrow).mp (h row.code)
      rw [(hall row hrow rfl).2, (hall row' hrow' hcode.symm).2]
  · rintro ⟨hresolved, hversion⟩ code
    by_cases hcode : ∃ row ∈ rows, row.code = code
    · obtain ⟨row, hrow, rfl⟩ := hcode
      refine (code_exact_iff hrows hsides hrow).mpr ⟨row.account.chartAccountId, ?_⟩
      exact fun row' hrow' hcode' => ⟨hresolved row' hrow', hversion row' hrow' row hrow hcode'⟩
    · rw [get?_trialBalance_none hrows hcode, codeBalance_none hcode]

end

/-! ## Debits and credits -/

/-- Exact totals of balanced journals balance. -/
theorem exact_balances {balances : Dict String AccountBalance} {rows : List LedgerLine}
    (h : ∀ code, balances.get? code = codeBalance rows code) (side : LedgerLine → ℕ)
    (sideOf : AccountBalance → ℤ)
    (hside : ∀ code, sideOf ⟨code, (accountSides code rows).1, (accountSides code rows).2⟩ =
      (total side (rows.filter fun row => row.code = code) : ℕ)) :
    total sideOf balances.values = (total side rows : ℕ) := by
  have hentries : ∀ item ∈ balances.entries, sideOf item.2 =
      (total side (rows.filter fun row => row.code = item.1) : ℕ) := by
    intro item hitem
    have hget := (balances.get?_eq_some_iff item.1 item.2).mpr hitem
    rw [h, codeBalance] at hget
    split at hget
    · rw [← Option.some.inj hget, hside]
    · cases hget
  have hkeys : ∀ row ∈ rows, row.code ∈ balances.keys := fun row hrow =>
    (balances.mem_keys_iff _).mpr ⟨_, by rw [h, codeBalance_some hrow]⟩
  rw [Dict.values, total_map, natCast_total]
  refine PostingLedger.total_entries balances LedgerLine.code (fun row => (side row : ℤ)) _ hkeys
    fun item hitem => ?_
  rw [hentries item hitem, natCast_total]

theorem scopedLines_sides {t : Tables}
    {tenantReference legalEntityReference accountingBookReference : String} {throughDate : Date}
    (hstored : ∀ journal ∈ t.journals, JournalStored dep journal) :
    ∀ row ∈ scopedLines dep t tenantReference legalEntityReference accountingBookReference
      throughDate, 0 < row.debit + row.credit := by
  intro row hrow
  obtain ⟨hj, hline, -⟩ := mem_scopedLines hrow
  have hside := (hstored _ hj).sides _ hline
  unfold LedgerLine.debit LedgerLine.credit
  omega

theorem ledgerLines_stored {journals : List GeneralJournal}
    (h : ∀ journal ∈ journals, JournalStored dep journal) :
    total LedgerLine.debit (ledgerLines dep journals) =
      total LedgerLine.credit (ledgerLines dep journals) := by
  rw [ledgerLines, total_flatMap, total_flatMap]
  refine total_congr fun j hj => ?_
  have haccounts := (h j hj).accounts
  rw [total_joined LedgerLine.debit JournalEntryLine.debitAmount j (fun _ _ => rfl) haccounts,
    total_joined LedgerLine.credit JournalEntryLine.creditAmount j (fun _ _ => rfl) haccounts]
  exact (h j hj).balanced

/-! ## The reference -/

/-- A line as an aggregate sees it. -/
def lineFigures (row : LedgerLine) : String × ℕ × ℕ := (row.code, row.debit, row.credit)

def postedFigures (line : PostedJournalLine) : String × ℕ × ℕ :=
  (line.chartAccountCode, line.debitAmount, line.creditAmount)

theorem SameJournal.figures {journal : GeneralJournal} {posted : PostedJournal}
    (h : SameJournal dep journal posted) :
    (ledgerLines dep [journal]).map lineFigures = posted.lines.map postedFigures := by
  have hlines := h.lines
  rw [ledgerLines, List.flatMap_cons, List.flatMap_nil, List.append_nil]
  generalize journal.lines = stored at hlines
  generalize posted.lines = lines at hlines
  induction stored generalizing lines with
  | nil =>
    rw [List.map_nil] at hlines
    rw [List.map_eq_nil_iff.mp hlines.symm]
    rfl
  | cons line stored ih =>
    cases lines with
    | nil => cases hlines
    | cons first lines =>
      rw [List.map_cons, List.map_cons, List.cons.injEq, Prod.mk.injEq, Prod.mk.injEq,
        Option.map_eq_some_iff] at hlines
      obtain ⟨⟨⟨account, haccount, hcode⟩, hdebit, hcredit⟩, hrest⟩ := hlines
      rw [List.filterMap_cons, haccount, Option.map_some, List.map_cons, List.map_cons,
        ih lines hrest, lineFigures, postedFigures, ← hcode, ← hdebit, ← hcredit]
      rfl

/-- Both sides select the same journals. -/
theorem SameJournal.isScoped_iff {journal : GeneralJournal} {posted : PostedJournal}
    (h : SameJournal dep journal posted)
    (tenantReference legalEntityReference accountingBookReference : String) (throughDate : Date) :
    IsScoped dep tenantReference legalEntityReference accountingBookReference throughDate journal ↔
      posted.tenantReference = tenantReference ∧
        posted.legalEntityReference = legalEntityReference ∧
        posted.accountingBookReference = accountingBookReference ∧
        posted.accountingDate ≤ throughDate := by
  rw [IsScoped, h.legalEntity, h.book, h.tenant, h.accountingDate, Option.some.injEq,
    Option.some.injEq]

/-- The reference ledger adds up the same lines. -/
theorem sameJournals_figures {t : Tables} {ledger : PostingLedger} (h : SameJournals dep t ledger)
    (tenantReference legalEntityReference accountingBookReference : String) (throughDate : Date) :
    (scopedLines dep t tenantReference legalEntityReference accountingBookReference
      throughDate).map lineFigures =
      (ledger.linesThrough tenantReference legalEntityReference accountingBookReference
        throughDate).map postedFigures := by
  unfold SameJournals at h
  unfold scopedLines PostingLedger.linesThrough
  generalize t.journals = stored at h
  generalize ledger.journals.values = posted at h
  induction h with
  | nil => rfl
  | cons hsame _ ih =>
    have hiff := hsame.isScoped_iff tenantReference legalEntityReference accountingBookReference
      throughDate
    rw [List.filter_cons, List.filter_cons]
    simp only [hiff]
    split
    · have hfigures := hsame.figures
      rw [ledgerLines, List.flatMap_cons, List.flatMap_nil, List.append_nil] at hfigures
      rw [ledgerLines, List.flatMap_cons, List.flatMap_cons, List.map_append, List.map_append,
        hfigures]
      exact congrArg _ ih
    · exact ih

theorem total_figures {rows : List LedgerLine} {lines : List PostedJournalLine}
    (h : rows.map lineFigures = lines.map postedFigures) (side : ℕ × ℕ → ℕ) (code : String) :
    total (fun row => side (row.debit, row.credit)) (rows.filter fun row => row.code = code) =
      total (fun line => side (line.debitAmount, line.creditAmount))
        (lines.filter fun line => line.chartAccountCode = code) := by
  have hfigures := congrArg (fun figures : List (String × ℕ × ℕ) =>
    total (fun figure => side figure.2) (figures.filter fun figure => figure.1 = code)) h
  simp only [List.filter_map, total_map] at hfigures
  exact hfigures

/-- The figures alone determine the balance of a code. -/
theorem codeBalance_of_figures {rows : List LedgerLine} {lines : List PostedJournalLine}
    (h : rows.map lineFigures = lines.map postedFigures) (code : String) :
    codeBalance rows code = if ∃ line ∈ lines, line.chartAccountCode = code then
      some ⟨code, (PostingLedger.accountDebits lines code).sum,
        (PostingLedger.accountCredits lines code).sum⟩ else none := by
  have hiff : (∃ row ∈ rows, row.code = code) ↔ ∃ line ∈ lines, line.chartAccountCode = code := by
    have hfigures : (∃ figure ∈ rows.map lineFigures, figure.1 = code) ↔
        ∃ figure ∈ lines.map postedFigures, figure.1 = code := by rw [h]
    simpa [lineFigures, postedFigures] using hfigures
  have hdebit : (accountSides code rows).1 = (PostingLedger.accountDebits lines code).sum :=
    (congrArg Nat.cast (total_figures h Prod.fst code)).trans (natCast_total _ _)
  have hcredit : (accountSides code rows).2 = (PostingLedger.accountCredits lines code).sum :=
    (congrArg Nat.cast (total_figures h Prod.snd code)).trans (natCast_total _ _)
  unfold codeBalance
  rw [hdebit, hcredit]
  simp only [hiff]

/-- What the reference returns for the same journals while none of its sums rounds. -/
theorem reference_codes {t : Tables} {ledger : PostingLedger} (h : SameJournals dep t ledger)
    (tenantReference legalEntityReference accountingBookReference : String) (throughDate : Date)
    (hfit : ∀ code,
      SumsExactly 0 (PostingLedger.accountDebits (ledger.linesThrough tenantReference
        legalEntityReference accountingBookReference throughDate) code) ∧
      SumsExactly 0 (PostingLedger.accountCredits (ledger.linesThrough tenantReference
        legalEntityReference accountingBookReference throughDate) code)) :
    ∃ reference, ledger.trialBalance tenantReference legalEntityReference accountingBookReference
        throughDate = .ok reference ∧
      ∀ code, reference.find? (fun balance => balance.chartAccountCode = code) =
        codeBalance (scopedLines dep t tenantReference legalEntityReference
          accountingBookReference throughDate) code := by
  obtain ⟨totals, htotals, hcodes⟩ := PostingLedger.accumulate_codes
    (ledger.linesThrough tenantReference legalEntityReference accountingBookReference throughDate)
    Dict.empty (fun code => (hfit code).1) (fun code => (hfit code).2)
  refine ⟨_, by rw [PostingLedger.trialBalance, htotals, ok_bind]; rfl, fun code => ?_⟩
  have hsorted := List.perm_insertionSort (fun a b : String × ℤ × ℤ => a.1 ≤ b.1) totals.entries
  have hget : ((totals.entries.insertionSort fun a b => a.1 ≤ b.1).find? fun item =>
      item.1 = code).map Prod.snd = totals.get? code := by
    ext v
    rw [totals.get?_eq_some_iff, Dict.find?_eq_some_of_nodup
      ((hsorted.map Prod.fst).nodup_iff.mpr totals.nodup), hsorted.mem_iff]
  rw [codeBalance_of_figures (sameJournals_figures h tenantReference legalEntityReference
    accountingBookReference throughDate) code, List.find?_map]
  rw [hcodes, Dict.get?_empty, Option.getD_none, zero_add, zero_add] at hget
  cases hfind : (totals.entries.insertionSort fun a b => a.1 ≤ b.1).find? fun item =>
      item.1 = code with
  | none =>
    rw [hfind, Option.map_none] at hget
    have hnone : ((totals.entries.insertionSort fun a b => a.1 ≤ b.1).find?
      ((fun balance : AccountBalance => decide (balance.chartAccountCode = code)) ∘
        fun item => ⟨item.1, item.2.1, item.2.2⟩)) = none := hfind
    rw [hnone, Option.map_none]
    split at hget
    · cases hget
    · next hnot => rw [if_neg hnot]
  | some item =>
    rw [hfind, Option.map_some] at hget
    have hsome : ((totals.entries.insertionSort fun a b => a.1 ≤ b.1).find?
      ((fun balance : AccountBalance => decide (balance.chartAccountCode = code)) ∘
        fun item => ⟨item.1, item.2.1, item.2.2⟩)) = some item := hfind
    have hcode : item.1 = code := by simpa using List.find?_some hfind
    rw [hsome, Option.map_some]
    split at hget
    · next hline => rw [if_pos hline, Option.some.inj hget, hcode]
    · cases hget

/-! ## The trial balance -/

/-- The journals the commands write are stored as the database demands. -/
theorem stored_ledgerAfter (commands : List Command) :
    ∀ journal ∈ (ledgerAfter dep commands).journals, JournalStored dep journal := by
  intro journal hj
  have hfacts := (@wellFormed_ledgerAfter dep commands).facts journal hj
  obtain ⟨posted, hposted⟩ := hfacts.lines
  refine ⟨fun line hline => ?_, fun line hline => (insertedLine hposted hline).2, hfacts.balanced⟩
  obtain ⟨⟨account, -, haccount⟩, -⟩ := insertedLine hposted hline
  exact ⟨account, haccount⟩

variable (dep) in
/-- The trial balance has the exact totals of every code exactly when all lines of the entity and
    the book are on the rows the lookups return and each code is on one version of its account;
    it then agrees with the reference ledger, and otherwise it does not. -/
theorem trialBalance_exact_iff (t : Tables)
    (tenantReference legalEntityReference accountingBookReference : String) (throughDate : Date)
    (hstored : ∀ journal ∈ t.journals, JournalStored dep journal) :
    let rows := scopedLines dep t tenantReference legalEntityReference accountingBookReference
      throughDate
    let balances := trialBalance dep t tenantReference legalEntityReference
      accountingBookReference throughDate
    let Resolved := OnResolvedRows dep legalEntityReference accountingBookReference rows ∧
      OneVersion rows
    (TotalsExact balances rows ↔ Resolved) ∧
    ∀ ledger, SameJournals dep t ledger →
      (∀ code,
        SumsExactly 0 (PostingLedger.accountDebits (ledger.linesThrough tenantReference
          legalEntityReference accountingBookReference throughDate) code) ∧
        SumsExactly 0 (PostingLedger.accountCredits (ledger.linesThrough tenantReference
          legalEntityReference accountingBookReference throughDate) code)) →
      ∃ reference, ledger.trialBalance tenantReference legalEntityReference
          accountingBookReference throughDate = .ok reference ∧
        ((∀ code, balances.get? code =
          reference.find? fun balance => balance.chartAccountCode = code) ↔ Resolved) := by
  intro rows balances Resolved
  have hcodes : (∀ code, balances.get? code = codeBalance rows code) ↔ Resolved :=
    codes_exact_iff rfl (scopedLines_sides hstored)
  have hbalanced : total LedgerLine.debit rows = total LedgerLine.credit rows :=
    ledgerLines_stored fun journal hj => hstored journal (List.mem_filter.mp hj).1
  refine ⟨⟨fun h => hcodes.mp h.1, fun h => ⟨hcodes.mpr h, ?_⟩⟩, fun ledger hsame hfit => ?_⟩
  · have hexact := hcodes.mpr h
    rw [exact_balances hexact LedgerLine.debit AccountBalance.debitTotal fun _ => rfl,
      exact_balances hexact LedgerLine.credit AccountBalance.creditTotal fun _ => rfl, hbalanced]
  · obtain ⟨reference, hreference, hfind⟩ := reference_codes hsame tenantReference
      legalEntityReference accountingBookReference throughDate hfit
    refine ⟨reference, hreference, ?_⟩
    simp only [hfind]
    exact hcodes

/-- One entity and one book: the January invoice is in the trial balance. -/
theorem singleBook_trialBalance_exact :
    let dep := sampleDeployment sampleCatalog
    let t := ledgerAfter dep openJanuaryCommands
    TotalsExact
      (trialBalance dep t "urn:cwl:tenant:t1" "urn:cwl:legal_entity:e1" "urn:cwl:book:b1" 738916)
      (scopedLines dep t "urn:cwl:tenant:t1" "urn:cwl:legal_entity:e1" "urn:cwl:book:b1" 738916) :=
  (trialBalance_exact_iff (sampleDeployment sampleCatalog)
    (ledgerAfter (sampleDeployment sampleCatalog) openJanuaryCommands) "urn:cwl:tenant:t1"
    "urn:cwl:legal_entity:e1" "urn:cwl:book:b1" 738916
    (stored_ledgerAfter openJanuaryCommands)).1.mpr (by decide +kernel)

/-- A second entity whose book has the name of the sample book, recorded before it. -/
def sharedNameCatalog : Catalog where
  tenantReference := "urn:cwl:tenant:t1"
  legalEntities := [sampleEntity, ⟨2, "urn:cwl:legal_entity:e2", "KRW", true⟩]
  books := [⟨2, 2, "primary_ledger", "urn:cwl:book:b1", "KRW", true⟩, sampleBook]
  chartAccounts := sampleAccounts 1
  roleMappings := sampleMappings 1
  calendars := [⟨1, "main"⟩]
  legalEntity_key := by decide
  book_key := by decide
  chartAccount_key := sampleCatalog.chartAccount_key
  book_entity := by decide

/-- The name resolves to the book of the other entity: the posted invoice is missing. -/
theorem sharedName_hides_lines :
    let dep := sampleDeployment sharedNameCatalog
    let t := ledgerAfter dep openJanuaryCommands
    (∀ journal ∈ t.journals, JournalStored dep journal) ∧
    ¬TotalsExact
      (trialBalance dep t "urn:cwl:tenant:t1" "urn:cwl:legal_entity:e1" "urn:cwl:book:b1" 738916)
      (scopedLines dep t "urn:cwl:tenant:t1" "urn:cwl:legal_entity:e1" "urn:cwl:book:b1" 738916) := by
  intro dep t
  have hstored : ∀ journal ∈ t.journals, JournalStored dep journal :=
    stored_ledgerAfter openJanuaryCommands
  refine ⟨hstored, fun h => ?_⟩
  have hget := h.1 "410100"
  have hrun :
      (trialBalance dep t "urn:cwl:tenant:t1" "urn:cwl:legal_entity:e1" "urn:cwl:book:b1"
        738916).get? "410100" = none ∧
      codeBalance (scopedLines dep t "urn:cwl:tenant:t1" "urn:cwl:legal_entity:e1"
        "urn:cwl:book:b1" 738916) "410100" = some ⟨"410100", 0, 1000000⟩ := by
    decide +kernel
  rw [hrun.1, hrun.2] at hget
  cases hget

end AccountingPlatform.Postgres
