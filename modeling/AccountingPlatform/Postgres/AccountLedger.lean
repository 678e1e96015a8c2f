/-
  The account ledger and its pages.

  A cursor is the key of the last line of a page, written as one text with `|` between the
  parts. It is read back exactly when the journal reference holds no `|`, so the pages lead to
  the last line exactly when no page ends in a journal with such a reference
  (`accountLedger_complete_iff`).
-/
import Mathlib.Data.Int.Order.Basic
import AccountingPlatform.Lib.Pages
import AccountingPlatform.Core.IsoFormat
import AccountingPlatform.Core.Numerals
import AccountingPlatform.Postgres.BalancePages

namespace AccountingPlatform.Postgres

open AccountingPlatform.Lib AccountingPlatform.Core

variable (dep : Deployment)

/-! ## Keys -/

/-- What the lines are ordered by. -/
structure LedgerKey where
  postedAt : ℤ
  journalReference : String
  lineNumber : ℤ
  deriving DecidableEq

def LedgerLine.ledgerKey (row : LedgerLine) : LedgerKey :=
  ⟨row.journal.postedAt, row.journal.journalReference, row.line.lineNumber⟩

/-- `<` of texts under the collation. -/
def textBefore (a b : String) : Prop := dep.collation a b = true ∧ a ≠ b

/-- `(posted_at, journal_reference, line_number) < (…)`, a comparison of rows. -/
def keyBefore (a b : LedgerKey) : Prop :=
  a.postedAt < b.postedAt ∨ a.postedAt = b.postedAt ∧
    (textBefore dep a.journalReference b.journalReference ∨
      a.journalReference = b.journalReference ∧ a.lineNumber < b.lineNumber)

instance decKeyBefore (a b : LedgerKey) : Decidable (keyBefore dep a b) :=
  inferInstanceAs (Decidable (a.postedAt < b.postedAt ∨ a.postedAt = b.postedAt ∧
    ((dep.collation a.journalReference b.journalReference = true ∧
      a.journalReference ≠ b.journalReference) ∨
      a.journalReference = b.journalReference ∧ a.lineNumber < b.lineNumber)))

/-! ## Cursors -/

/-- The text of a cursor. -/
def accountLedgerCursor (row : LedgerLine) : String :=
  String.ofList (formatTimestamp row.journal.postedAt) ++ "|" ++ row.journal.journalReference ++
    "|" ++ toString row.line.lineNumber

def cursorError : LedgerError :=
  .validation ("cursor must be posted_at|journal_reference|line_number. " ++
    "Supply an account-ledger cursor, then retry the account-ledger read.")

/-- `_parse_account_ledger_cursor`. -/
def parseAccountLedgerCursor (cursor : String) : Result (Option LedgerKey) :=
  if cursor = "" then .ok none
  else
    match cursor.toList.splitOn '|' with
    | [postedAtText, journalReference, lineNumberText] => do
      require (postedAtText ≠ [] ∧ journalReference ≠ [] ∧ lineNumberText ≠ []) cursorError
      let postedAt ← fetch
        (datetimeFromIsoformat (replaceText ['Z'] ['+', '0', '0', ':', '0', '0'] postedAtText))
        (.validation ("cursor posted_at must be an ISO-8601 timestamp. " ++
          "Supply an account-ledger cursor, then retry the account-ledger read."))
      let utcOffset ← fetch postedAt.utcOffset
        (.validation ("cursor posted_at must include a UTC offset. " ++
          "Supply an account-ledger cursor, then retry the account-ledger read."))
      let lineNumber ← fetch (parseInt (String.ofList lineNumberText))
        (.validation ("cursor line_number must be an integer. " ++
          "Supply an account-ledger cursor, then retry the account-ledger read."))
      pure (some ⟨postedAt.clock - utcOffset, String.ofList journalReference, lineNumber⟩)
    | _ => .error cursorError

/-! ## The read -/

structure AccountLedgerEntry where
  lineNumber : ℕ
  chartAccountCode : String
  accountRoleCode : String
  debitAmount : ℕ
  creditAmount : ℕ
  journalReference : String
  postedAt : List Char
  deriving DecidableEq

structure AccountLedgerDocument where
  tenantReference : String
  legalEntityReference : String
  chartAccountCode : String
  fiscalPeriodReference : Option String
  ledgerLines : List AccountLedgerEntry
  periodDebitTotal : ℕ
  periodCreditTotal : ℕ
  nextCursor : Option String
  deriving DecidableEq

def accountLedgerEntry (row : LedgerLine) : AccountLedgerEntry where
  lineNumber := row.line.lineNumber
  chartAccountCode := row.code
  accountRoleCode := row.line.accountRoleCode
  debitAmount := row.debit
  creditAmount := row.credit
  journalReference := row.journal.journalReference
  postedAt := formatTimestamp row.journal.postedAt

/-- Lines of the accounts with a code, in journals of the entities with a code. -/
def accountLedgerLines (t : Tables) (legalEntityReference chartAccountCode : String)
    (fiscalPeriodId : Option ℕ) : List LedgerLine :=
  (ledgerLines dep t.journals).filter fun row =>
    (∃ entity ∈ dep.catalog.legalEntities, entity.legalEntityId = row.journal.legalEntityId ∧
      entity.legalEntityCode = legalEntityReference) ∧
    row.code = chartAccountCode ∧ ∀ id ∈ fiscalPeriodId, row.journal.fiscalPeriodId = id

/-- Rows beyond the cursor, in the order of their keys. -/
def ledgerRowsAfter (cursorAfter : Option LedgerKey) (rows : List LedgerLine) : List LedgerLine :=
  (dep.rowOrder (rows.filter fun row => ∀ c ∈ cursorAfter, keyBefore dep c row.ledgerKey)).insertionSort
    fun a b => ¬keyBefore dep b.ledgerKey a.ledgerKey

/-- The period code of a reference. -/
def periodCodeOf (fiscalPeriodReference : String) : String :=
  let pattern := "urn:cwl:accounting:fiscal_period:".toList
  if pattern.isPrefixOf fiscalPeriodReference.toList then
    String.ofList (fiscalPeriodReference.toList.drop pattern.length)
  else fiscalPeriodReference

/-- The period a ledger is asked for, if any. -/
def ledgerPeriod (t : Tables) (fiscalPeriodReference : String) : Result (Option FiscalPeriod) :=
  let periodCode := periodCodeOf fiscalPeriodReference
  if periodCode = "" then .ok none
  else (requireFiscalPeriod dep t periodCode "the account-ledger read").map some

/-- `load_account_ledger`. -/
def loadAccountLedger (t : Tables)
    (legalEntityReference chartAccountCode fiscalPeriodReference : String)
    (pageLimit : ℕ) (cursorAfter : Option LedgerKey) : Result AccountLedgerDocument := do
  require (legalEntityReference ≠ "")
    (.validation ("legal_entity_reference is required. " ++
      "Supply that ledger field, then retry the account-ledger read."))
  require (chartAccountCode ≠ "")
    (.validation ("chart_account_code is required. " ++
      "Supply that ledger field, then retry the account-ledger read."))
  let _ ← dep.loadLegalEntity legalEntityReference "the account-ledger read"
  let _ ← fetch (dep.fetchone (dep.catalog.chartAccounts.filter fun account =>
      account.chartAccountCode = chartAccountCode ∧ account.isCurrent))
    (.validation ("Chart account " ++ chartAccountCode ++ " is not recorded for this tenant. " ++
      "Create the chart_account row, then retry the account-ledger read."))
  let period ← ledgerPeriod dep t fiscalPeriodReference
  let lines := accountLedgerLines dep t legalEntityReference chartAccountCode
    (period.map FiscalPeriod.fiscalPeriodId)
  let rows := (ledgerRowsAfter dep cursorAfter lines).take (pageLimit + 1)
  let pageRows := rows.take pageLimit
  pure {
    tenantReference := dep.catalog.tenantReference
    legalEntityReference := legalEntityReference
    chartAccountCode := chartAccountCode
    fiscalPeriodReference := period.map fun period => Postgres.fiscalPeriodReference period.periodCode
    ledgerLines := pageRows.map accountLedgerEntry
    periodDebitTotal := total LedgerLine.debit lines
    periodCreditTotal := total LedgerLine.credit lines
    nextCursor := if pageLimit < rows.length then pageRows.getLast?.map accountLedgerCursor else none }

/-! ## Following the cursors -/

/-- The entries returned from a cursor on, page after page. Every cursor handed out is accepted
    and read back as the key of the line it was built from. -/
inductive AccountLedgerWalk (t : Tables)
    (legalEntityReference chartAccountCode fiscalPeriodReference : String) (pageLimit : ℕ)
    (lines : List LedgerLine) : String → List AccountLedgerEntry → Prop
  | last {cursor : String} {cursorAfter : Option LedgerKey} {document : AccountLedgerDocument}
      (hparse : parseAccountLedgerCursor cursor = .ok cursorAfter)
      (hload : loadAccountLedger dep t legalEntityReference chartAccountCode fiscalPeriodReference
        pageLimit cursorAfter = .ok document)
      (hnext : document.nextCursor = none) :
      AccountLedgerWalk t legalEntityReference chartAccountCode fiscalPeriodReference pageLimit lines
        cursor document.ledgerLines
  | more {cursor next : String} {cursorAfter : Option LedgerKey} {document : AccountLedgerDocument}
      {row : LedgerLine} {returned : List AccountLedgerEntry}
      (hparse : parseAccountLedgerCursor cursor = .ok cursorAfter)
      (hload : loadAccountLedger dep t legalEntityReference chartAccountCode fiscalPeriodReference
        pageLimit cursorAfter = .ok document)
      (hnext : document.nextCursor = some next)
      (hlast : ((ledgerRowsAfter dep cursorAfter lines).take pageLimit).getLast? = some row)
      (hback : parseAccountLedgerCursor next = .ok (some row.ledgerKey))
      (hwalk : AccountLedgerWalk t legalEntityReference chartAccountCode fiscalPeriodReference
        pageLimit lines next returned) :
      AccountLedgerWalk t legalEntityReference chartAccountCode fiscalPeriodReference pageLimit lines
        cursor (document.ledgerLines ++ returned)

/-- From the empty cursor the pages return every line once, in order, with the reported totals. -/
def LedgerCompletelyPaged (t : Tables)
    (legalEntityReference chartAccountCode fiscalPeriodReference : String) (pageLimit : ℕ)
    (lines : List LedgerLine) (document : AccountLedgerDocument) : Prop :=
  ∃ rows : List LedgerLine, rows.Perm lines ∧
    (rows.Pairwise fun a b => keyBefore dep a.ledgerKey b.ledgerKey) ∧
    AccountLedgerWalk dep t legalEntityReference chartAccountCode fiscalPeriodReference pageLimit
      lines "" (rows.map accountLedgerEntry) ∧
    total AccountLedgerEntry.debitAmount (rows.map accountLedgerEntry) = document.periodDebitTotal ∧
    total AccountLedgerEntry.creditAmount (rows.map accountLedgerEntry) = document.periodCreditTotal

/-- No page but the last one ends in a line whose journal reference holds the separator. -/
def PlainBreaks (pageLimit : ℕ) (lines : List LedgerLine) : Prop :=
  ∀ before last later, ledgerRowsAfter dep none lines = before ++ last :: later → later ≠ [] →
    pageLimit ∣ before.length + 1 → '|' ∉ last.journal.journalReference.toList

/-- The keys of stored lines: references and line numbers do not repeat, and every part is a
    value of its column. -/
structure LedgerKeysKept (t : Tables) : Prop where
  references : (t.journals.map GeneralJournal.journalReference).Nodup
  nonempty : ∀ j ∈ t.journals, j.journalReference ≠ ""
  lineNumbers : ∀ j ∈ t.journals, (j.lines.map JournalEntryLine.lineNumber).Nodup
  fits : ∀ j ∈ t.journals, ∀ line ∈ j.lines, fitsInt4 line.lineNumber
  postedAt : ∀ j ∈ t.journals, InDatetimeRange j.postedAt

variable {dep}

/-! ## The order of the keys -/

theorem textBefore_trans (horder : OrdersTexts dep) {a b c : String} (hab : textBefore dep a b)
    (hbc : textBefore dep b c) : textBefore dep a c := by
  refine ⟨horder.trans a b c hab.1 hbc.1, ?_⟩
  rintro rfl
  exact hab.2 (horder.antisymm a b hab.1 hbc.1)

theorem textBefore_or (horder : OrdersTexts dep) {a b : String} (h : a ≠ b) :
    textBefore dep a b ∨ textBefore dep b a := by
  rcases horder.total a b with hab | hba
  · exact Or.inl ⟨hab, h⟩
  · exact Or.inr ⟨hba, fun hsame => h hsame.symm⟩

theorem keyBefore_irrefl (a : LedgerKey) : ¬keyBefore dep a a := by
  rintro (h | ⟨-, h | ⟨-, h⟩⟩)
  · exact lt_irrefl _ h
  · exact h.2 rfl
  · exact lt_irrefl _ h

theorem keyBefore_trans (horder : OrdersTexts dep) {a b c : LedgerKey} (hab : keyBefore dep a b)
    (hbc : keyBefore dep b c) : keyBefore dep a c := by
  rcases hab with hab | ⟨habt, hab⟩
  · rcases hbc with hbc | ⟨hbct, -⟩
    · exact Or.inl (hab.trans hbc)
    · exact Or.inl (hbct ▸ hab)
  · rcases hbc with hbc | ⟨hbct, hbc⟩
    · exact Or.inl (habt ▸ hbc)
    · refine Or.inr ⟨habt.trans hbct, ?_⟩
      rcases hab with hab | ⟨habr, hab⟩
      · rcases hbc with hbc | ⟨hbcr, -⟩
        · exact Or.inl (textBefore_trans horder hab hbc)
        · exact Or.inl (hbcr ▸ hab)
      · rcases hbc with hbc | ⟨hbcr, hbc⟩
        · exact Or.inl (habr ▸ hbc)
        · exact Or.inr ⟨habr.trans hbcr, hab.trans hbc⟩

theorem keyBefore_or (horder : OrdersTexts dep) {a b : LedgerKey} (h : a ≠ b) :
    keyBefore dep a b ∨ keyBefore dep b a := by
  rcases lt_trichotomy a.postedAt b.postedAt with hlt | htime | hlt
  · exact Or.inl (Or.inl hlt)
  · by_cases href : a.journalReference = b.journalReference
    · rcases lt_trichotomy a.lineNumber b.lineNumber with hlt | hline | hlt
      · exact Or.inl (Or.inr ⟨htime, Or.inr ⟨href, hlt⟩⟩)
      · cases a
        cases b
        simp only at htime href hline
        subst htime href hline
        exact absurd rfl h
      · exact Or.inr (Or.inr ⟨htime.symm, Or.inr ⟨href.symm, hlt⟩⟩)
    · rcases textBefore_or horder href with hab | hba
      · exact Or.inl (Or.inr ⟨htime, Or.inl hab⟩)
      · exact Or.inr (Or.inr ⟨htime.symm, Or.inl hba⟩)
  · exact Or.inr (Or.inl hlt)

/-- The order of the keys under a collation that orders all texts. -/
@[reducible] def ledgerKeyOrder (horder : OrdersTexts dep) : LinearOrder LedgerKey where
  le a b := ¬keyBefore dep b a
  lt a b := keyBefore dep a b
  le_refl := keyBefore_irrefl
  le_trans a b c hab hbc hca := by
    by_cases hsame : a = b
    · exact hbc (hsame ▸ hca)
    · exact hbc (keyBefore_trans horder hca ((keyBefore_or horder hsame).resolve_right hab))
  lt_iff_le_not_ge a b := by
    constructor
    · intro h
      exact ⟨fun hba => keyBefore_irrefl a (keyBefore_trans horder h hba), fun hnot => hnot h⟩
    · rintro ⟨-, h⟩
      exact not_not.mp h
  le_antisymm a b hab hba := by
    by_contra hne
    rcases keyBefore_or horder hne with h | h
    · exact hba h
    · exact hab h
  le_total a b := by
    by_cases h : keyBefore dep b a
    · exact Or.inr fun hab => keyBefore_irrefl a (keyBefore_trans horder hab h)
    · exact Or.inl h
  toDecidableLE := fun a b => inferInstanceAs (Decidable (¬keyBefore dep b a))
  toDecidableLT := fun a b => decKeyBefore dep a b

/-! ## Reading a cursor back -/

theorem accountLedgerCursor_toList (row : LedgerLine) : (accountLedgerCursor row).toList =
    formatTimestamp row.journal.postedAt ++ '|' :: (row.journal.journalReference.toList ++
      '|' :: (toString row.line.lineNumber).toList) := by
  have hbar : "|".toList = ['|'] := by decide +kernel
  simp only [accountLedgerCursor, String.toList_append, String.toList_ofList, hbar,
    List.append_assoc, List.cons_append, List.nil_append]

/-- The parts of a cursor: the reference may fall apart, time and number do not. -/
theorem splitOn_accountLedgerCursor (row : LedgerLine) :
    (accountLedgerCursor row).toList.splitOn '|' =
      formatTimestamp row.journal.postedAt ::
        (row.journal.journalReference.toList.splitOn '|' ++ [(toString row.line.lineNumber).toList]) := by
  have hnumber : '|' ∉ (toString row.line.lineNumber).toList := by
    rw [Nat.toString_eq_repr, Nat.toList_repr]
    intro hmem
    have hdigit := Nat.isDigit_of_mem_toDigits (by decide) (by decide) hmem
    exact absurd hdigit (by decide)
  have htime : '|' ∉ formatTimestamp row.journal.postedAt := by
    rw [formatTimestamp_eq]
    intro hmem
    rcases List.mem_append.mp hmem with hmem | hmem
    · exact not_mem_utcClock (by decide) (by decide) hmem
    · exact absurd hmem (by decide)
  rw [accountLedgerCursor_toList, List.splitOn_append_cons_self_of_not_mem htime,
    List.splitOn_append_cons_self, List.splitOn_eq_singleton hnumber]

/-- A cursor is read back as the key of its line exactly when the reference holds no separator. -/
theorem parse_accountLedgerCursor {row : LedgerLine} (hreference : row.journal.journalReference ≠ "")
    (hfits : fitsInt4 row.line.lineNumber) (hpostedAt : InDatetimeRange row.journal.postedAt) :
    parseAccountLedgerCursor (accountLedgerCursor row) = .ok (some row.ledgerKey) ↔
      '|' ∉ row.journal.journalReference.toList := by
  have hnonempty : accountLedgerCursor row ≠ "" := by
    intro hempty
    have hlist := accountLedgerCursor_toList row
    rw [hempty] at hlist
    have hlength := congrArg List.length hlist
    simp only [String.toList_empty, List.length_nil, List.length_append, List.length_cons] at hlength
    omega
  unfold parseAccountLedgerCursor
  rw [if_neg hnonempty, splitOn_accountLedgerCursor]
  constructor
  · intro hparse hbar
    obtain ⟨before, after, hsplit⟩ := List.append_of_mem hbar
    rw [hsplit, List.splitOn_append_cons_self] at hparse
    have hbefore := List.length_pos_of_ne_nil (List.splitOn_ne_nil '|' before)
    have hafter := List.length_pos_of_ne_nil (List.splitOn_ne_nil '|' after)
    split at hparse
    · next hparts =>
      have hlength := congrArg List.length hparts
      simp only [List.length_cons, List.length_append, List.length_nil] at hlength
      omega
    · cases hparse
  · intro hplain
    have htime : formatTimestamp row.journal.postedAt ≠ [] := by
      rw [formatTimestamp_eq]
      exact List.append_ne_nil_of_right_ne_nil _ (List.cons_ne_nil _ _)
    have hreference' : row.journal.journalReference.toList ≠ [] := by
      intro hnil
      exact hreference (String.toList_inj.mp hnil)
    have hnumber : (toString row.line.lineNumber).toList ≠ [] := by
      rw [Nat.toString_eq_repr, Nat.toList_repr]
      exact Nat.toDigits_ne_nil
    have hline : row.line.lineNumber < 10 ^ maxIntDigits := by
      have hlt : row.line.lineNumber < 10 ^ 10 := by
        have := hfits.2
        omega
      exact Nat.lt_of_lt_of_le hlt (Nat.pow_le_pow_right (by decide) (by decide))
    rw [List.splitOn_eq_singleton hplain, List.singleton_append]
    dsimp only
    rw [require_of ⟨htime, hreference', hnumber⟩, ok_bind, fromisoformat_formatTimestamp hpostedAt,
      String.ofList_toList, parseInt_toString hline, String.ofList_toList]
    simp only [fetch, ok_bind, Int.sub_zero]
    rfl

/-! ## Pages -/

/-- The line numbers tell the lines of one journal apart. -/
theorem journalKeys_nodup (journal : GeneralJournal) {lines : List JournalEntryLine}
    (h : (lines.map JournalEntryLine.lineNumber).Nodup) :
    ((lines.filterMap fun line => (dep.chartAccount? line.chartAccountId).map
      fun account => (⟨journal, line, account⟩ : LedgerLine)).map LedgerLine.ledgerKey).Nodup := by
  induction lines with
  | nil => exact List.nodup_nil
  | cons line lines ih =>
    rw [List.map_cons, List.nodup_cons] at h
    rw [List.filterMap_cons]
    split
    · exact ih h.2
    · next row hrow =>
      obtain ⟨account, -, rfl⟩ := Option.map_eq_some_iff.mp hrow
      rw [List.map_cons, List.nodup_cons]
      refine ⟨?_, ih h.2⟩
      intro hmem
      obtain ⟨row, hrow', hkey⟩ := List.mem_map.mp hmem
      obtain ⟨line', hline', hmapped⟩ := List.mem_filterMap.mp hrow'
      obtain ⟨account', -, rfl⟩ := Option.map_eq_some_iff.mp hmapped
      have hnumber : (line'.lineNumber : ℤ) = line.lineNumber := congrArg LedgerKey.lineNumber hkey
      exact h.1 (List.mem_map.mpr ⟨line', hline', Int.natCast_inj.mp hnumber⟩)

/-- No two lines of stored journals share a key. -/
theorem ledgerKeys_nodup {journals : List GeneralJournal}
    (hreferences : (journals.map GeneralJournal.journalReference).Nodup)
    (hlines : ∀ j ∈ journals, (j.lines.map JournalEntryLine.lineNumber).Nodup) :
    ((ledgerLines dep journals).map LedgerLine.ledgerKey).Nodup := by
  induction journals with
  | nil => exact List.nodup_nil
  | cons journal journals ih =>
    rw [List.map_cons, List.nodup_cons] at hreferences
    rw [ledgerLines, List.flatMap_cons, List.map_append, List.nodup_append]
    refine ⟨journalKeys_nodup journal (hlines journal List.mem_cons_self),
      ih hreferences.2 fun j hj => hlines j (List.mem_cons_of_mem _ hj), ?_⟩
    intro a ha b hb hab
    obtain ⟨row, hrow, rfl⟩ := List.mem_map.mp ha
    obtain ⟨row', hrow', rfl⟩ := List.mem_map.mp hb
    obtain ⟨line, -, hmapped⟩ := List.mem_filterMap.mp hrow
    obtain ⟨account, -, rfl⟩ := Option.map_eq_some_iff.mp hmapped
    have hreference : journal.journalReference = row'.journal.journalReference :=
      congrArg LedgerKey.journalReference hab
    have hstored := (@mem_ledgerLines dep journals row' hrow').1
    exact hreferences.1 (List.mem_map.mpr ⟨row'.journal, hstored, hreference.symm⟩)

section Walks

variable {t : Tables} {legalEntityReference chartAccountCode fiscalPeriodReference : String}
  {pageLimit : ℕ} {period : Option FiscalPeriod} {lines : List LedgerLine}

/-- Rows of distinct keys that the database filters and sorts are the rest of the table. -/
theorem rowOrder_rest {α : Type} {κ : Type} [LinearOrder κ] {key : α → κ} {rows : List α}
    (hn : (rows.map key).Nodup) (cursor : Option κ) :
    (dep.rowOrder (rows.filter fun row => Beyond key cursor row)).insertionSort
      (fun a b => key a ≤ key b) = rest key cursor rows := by
  have hperm := dep.rowOrder_perm (rows.filter fun row => Beyond key cursor row)
  have hnodup : ((dep.rowOrder (rows.filter fun row => Beyond key cursor row)).map key).Nodup :=
    (hperm.map key).nodup_iff.mpr (hn.sublist (List.filter_sublist.map key))
  refine eq_of_increasing (fun row => ?_) (ordered_pairwise hnodup) (rest_pairwise hn)
  rw [(List.perm_insertionSort _ _).mem_iff, hperm.mem_iff, mem_rest, List.mem_filter,
    decide_eq_true_eq]

/-- The rows beyond a cursor, sorted by the database, are the rest of the table. -/
theorem ledgerRowsAfter_eq (horder : OrdersTexts dep)
    (hn : (lines.map LedgerLine.ledgerKey).Nodup) (cursorAfter : Option LedgerKey) :
    ledgerRowsAfter dep cursorAfter lines =
      @rest _ _ (ledgerKeyOrder horder) LedgerLine.ledgerKey cursorAfter lines :=
  @rowOrder_rest dep _ _ (ledgerKeyOrder horder) LedgerLine.ledgerKey lines hn cursorAfter

/-- The last row of a page that is not the last one. -/
def lastBeforeBreak (pageLimit : ℕ) (rows : List LedgerLine) : Option LedgerLine :=
  if pageLimit < rows.length then (rows.take pageLimit).getLast? else none

theorem nextCursor_eq_lastBeforeBreak (horder : OrdersTexts dep)
    (hn : (lines.map LedgerLine.ledgerKey).Nodup) (cursorAfter : Option LedgerKey) :
    @nextCursor _ _ (ledgerKeyOrder horder) LedgerLine.ledgerKey pageLimit cursorAfter lines =
      (lastBeforeBreak pageLimit (ledgerRowsAfter dep cursorAfter lines)).map LedgerLine.ledgerKey := by
  rw [ledgerRowsAfter_eq horder hn]
  unfold nextCursor lastBeforeBreak page
  split
  · rfl
  · rfl

/-- A read that succeeds does so at every cursor. -/
theorem loadAccountLedger_ok {document : AccountLedgerDocument} {cursor : Option LedgerKey}
    (hperiod : ledgerPeriod dep t fiscalPeriodReference = .ok period)
    (hload : loadAccountLedger dep t legalEntityReference chartAccountCode fiscalPeriodReference
      pageLimit cursor = .ok document)
    (hlines : lines = accountLedgerLines dep t legalEntityReference chartAccountCode
      (period.map FiscalPeriod.fiscalPeriodId)) (cursorAfter : Option LedgerKey) :
    loadAccountLedger dep t legalEntityReference chartAccountCode fiscalPeriodReference pageLimit
        cursorAfter = .ok {
      tenantReference := dep.catalog.tenantReference
      legalEntityReference := legalEntityReference
      chartAccountCode := chartAccountCode
      fiscalPeriodReference := period.map fun period => Postgres.fiscalPeriodReference period.periodCode
      ledgerLines := ((ledgerRowsAfter dep cursorAfter lines).take pageLimit).map accountLedgerEntry
      periodDebitTotal := total LedgerLine.debit lines
      periodCreditTotal := total LedgerLine.credit lines
      nextCursor := (lastBeforeBreak pageLimit (ledgerRowsAfter dep cursorAfter lines)).map
        accountLedgerCursor } := by
  obtain ⟨hpage, hmore⟩ := take_of_fetched pageLimit (ledgerRowsAfter dep cursorAfter lines)
  have hnext : (if pageLimit < ((ledgerRowsAfter dep cursorAfter lines).take (pageLimit + 1)).length then
      ((ledgerRowsAfter dep cursorAfter lines).take pageLimit).getLast?.map accountLedgerCursor else none) =
      (lastBeforeBreak pageLimit (ledgerRowsAfter dep cursorAfter lines)).map accountLedgerCursor := by
    rw [lastBeforeBreak]
    simp only [hmore]
    split
    · rfl
    · rfl
  unfold loadAccountLedger at hload ⊢
  simp only [bind_eq_ok, hperiod, pure_eq_ok] at hload ⊢
  obtain ⟨u, hentity, v, haccount, entity, hfound, account, hchart, _⟩ := hload
  refine ⟨u, hentity, v, haccount, entity, hfound, account, hchart, period, rfl, ?_⟩
  rw [← hlines, hpage, hnext]

/-- The keys a cursor can carry. -/
def PlainKey (key : LedgerKey) : Prop := '|' ∉ key.journalReference.toList

/-- The lines of a read have distinct keys, and their cursors are read back when they can be. -/
theorem LedgerKeysKept.read_lines (hkept : LedgerKeysKept t) {fiscalPeriodId : Option ℕ}
    (hlines : lines = accountLedgerLines dep t legalEntityReference chartAccountCode fiscalPeriodId) :
    (lines.map LedgerLine.ledgerKey).Nodup ∧
      ∀ row ∈ lines, parseAccountLedgerCursor (accountLedgerCursor row) = .ok (some row.ledgerKey) ↔
        PlainKey row.ledgerKey := by
  subst hlines
  refine ⟨(ledgerKeys_nodup hkept.references hkept.lineNumbers).sublist (List.filter_sublist.map _), ?_⟩
  intro row hrow
  obtain ⟨hjournal, hline, -⟩ := mem_ledgerLines (List.mem_filter.mp hrow).1
  exact parse_accountLedgerCursor (hkept.nonempty _ hjournal) (hkept.fits _ hjournal _ hline)
    (hkept.postedAt _ hjournal)

theorem mem_of_lastBeforeBreak {cursorAfter : Option LedgerKey} {row : LedgerLine}
    (h : lastBeforeBreak pageLimit (ledgerRowsAfter dep cursorAfter lines) = some row) :
    row ∈ lines ∧ ((ledgerRowsAfter dep cursorAfter lines).take pageLimit).getLast? = some row := by
  unfold lastBeforeBreak at h
  split at h
  · refine ⟨?_, h⟩
    have hmem := List.mem_of_mem_take (List.mem_of_getLast? h)
    rw [ledgerRowsAfter, (List.perm_insertionSort _ _).mem_iff, (dep.rowOrder_perm _).mem_iff] at hmem
    exact (List.mem_filter.mp hmem).1
  · cases h

/-- The walk over texts is one over keys whose cursors are accepted. -/
theorem AccountLedgerWalk.accepted (horder : OrdersTexts dep) (hkept : LedgerKeysKept t)
    {document : AccountLedgerDocument} {start : Option LedgerKey}
    (hperiod : ledgerPeriod dep t fiscalPeriodReference = .ok period)
    (hload : loadAccountLedger dep t legalEntityReference chartAccountCode fiscalPeriodReference
      pageLimit start = .ok document)
    (hlines : lines = accountLedgerLines dep t legalEntityReference chartAccountCode
      (period.map FiscalPeriod.fiscalPeriodId)) {cursor : String}
    {returned : List AccountLedgerEntry} (h : AccountLedgerWalk dep t legalEntityReference
      chartAccountCode fiscalPeriodReference pageLimit lines cursor returned) :
    ∃ cursorAfter rows, parseAccountLedgerCursor cursor = .ok cursorAfter ∧
      returned = rows.map accountLedgerEntry ∧
      @AcceptedWalk _ _ (ledgerKeyOrder horder) LedgerLine.ledgerKey PlainKey pageLimit lines
        cursorAfter rows := by
  obtain ⟨hn, hcursors⟩ := hkept.read_lines hlines
  have hpage : ∀ cursorAfter, (ledgerRowsAfter dep cursorAfter lines).take pageLimit =
      @page _ _ (ledgerKeyOrder horder) LedgerLine.ledgerKey pageLimit cursorAfter lines :=
    fun cursorAfter => congrArg (List.take pageLimit) (ledgerRowsAfter_eq horder hn cursorAfter)
  induction h with
  | @last cursor cursorAfter document' hparse hread hnext =>
    rw [loadAccountLedger_ok hperiod hload hlines] at hread
    cases hread
    refine ⟨cursorAfter, _, hparse, congrArg (List.map accountLedgerEntry) (hpage cursorAfter), ?_⟩
    refine @AcceptedWalk.last _ _ (ledgerKeyOrder horder) _ _ _ _ _ ?_
    rw [nextCursor_eq_lastBeforeBreak horder hn, Option.map_eq_none_iff]
    exact Option.map_eq_none_iff.mp hnext
  | @more cursor next cursorAfter document' row returned hparse hread hnext hlast hback _ ih =>
    rw [loadAccountLedger_ok hperiod hload hlines] at hread
    cases hread
    obtain ⟨row', hrow', rfl⟩ := Option.map_eq_some_iff.mp hnext
    obtain ⟨hmem, hlast'⟩ := mem_of_lastBeforeBreak hrow'
    obtain rfl : row' = row := Option.some.inj (hlast'.symm.trans hlast)
    obtain ⟨cursorAfter', rows, hparse', rfl, hwalk⟩ := ih
    rw [hback] at hparse'
    cases hparse'
    refine ⟨cursorAfter, _, hparse, ?_, @AcceptedWalk.more _ _ (ledgerKeyOrder horder) _ _ _ _ _ _ _ ?_
      ((hcursors row' hmem).mp hback) hwalk⟩
    · rw [List.map_append, ← hpage cursorAfter]
    · rw [nextCursor_eq_lastBeforeBreak horder hn, hrow', Option.map_some]

/-- Accepted cursors over keys are accepted texts. -/
theorem exists_accountLedgerWalk (horder : OrdersTexts dep) (hkept : LedgerKeysKept t)
    {document : AccountLedgerDocument} {start : Option LedgerKey}
    (hperiod : ledgerPeriod dep t fiscalPeriodReference = .ok period)
    (hload : loadAccountLedger dep t legalEntityReference chartAccountCode fiscalPeriodReference
      pageLimit start = .ok document)
    (hlines : lines = accountLedgerLines dep t legalEntityReference chartAccountCode
      (period.map FiscalPeriod.fiscalPeriodId)) {cursorAfter : Option LedgerKey}
    {rows : List LedgerLine}
    (h : @AcceptedWalk _ _ (ledgerKeyOrder horder) LedgerLine.ledgerKey PlainKey pageLimit lines
      cursorAfter rows) {cursor : String} (hparse : parseAccountLedgerCursor cursor = .ok cursorAfter) :
    AccountLedgerWalk dep t legalEntityReference chartAccountCode fiscalPeriodReference pageLimit
      lines cursor (rows.map accountLedgerEntry) := by
  obtain ⟨hn, hcursors⟩ := hkept.read_lines hlines
  have hpage : ∀ cursorAfter, (ledgerRowsAfter dep cursorAfter lines).take pageLimit =
      @page _ _ (ledgerKeyOrder horder) LedgerLine.ledgerKey pageLimit cursorAfter lines :=
    fun cursorAfter => congrArg (List.take pageLimit) (ledgerRowsAfter_eq horder hn cursorAfter)
  induction h generalizing cursor with
  | @last cursorAfter hnext =>
    rw [nextCursor_eq_lastBeforeBreak horder hn, Option.map_eq_none_iff] at hnext
    have hread := loadAccountLedger_ok hperiod hload hlines cursorAfter
    have hwalk : AccountLedgerWalk dep t legalEntityReference chartAccountCode fiscalPeriodReference
        pageLimit lines cursor _ := AccountLedgerWalk.last hparse hread (by rw [hnext]; rfl)
    rw [← hpage cursorAfter]
    exact hwalk
  | @more cursorAfter next returned hnext haccepted _ ih =>
    rw [nextCursor_eq_lastBeforeBreak horder hn, Option.map_eq_some_iff] at hnext
    obtain ⟨row, hrow, rfl⟩ := hnext
    obtain ⟨hmem, hlast⟩ := mem_of_lastBeforeBreak hrow
    have hback := (hcursors row hmem).mpr haccepted
    have hread := loadAccountLedger_ok hperiod hload hlines cursorAfter
    rw [List.map_append, ← hpage cursorAfter]
    exact AccountLedgerWalk.more hparse hread (by rw [hrow]; rfl) hlast hback (ih hback)

/-- The pages of an account ledger are complete exactly when none but the last one ends in a
    journal whose reference holds the separator of the cursors. -/
theorem accountLedger_complete_iff (dep : Deployment) (t : Tables)
    (legalEntityReference chartAccountCode fiscalPeriodReference : String) (pageLimit : ℕ)
    (period : Option FiscalPeriod) (document : AccountLedgerDocument) (horder : OrdersTexts dep)
    (hkept : LedgerKeysKept t) (hlimit : 1 ≤ pageLimit)
    (hperiod : ledgerPeriod dep t fiscalPeriodReference = .ok period)
    (hload : loadAccountLedger dep t legalEntityReference chartAccountCode fiscalPeriodReference
      pageLimit none = .ok document) :
    LedgerCompletelyPaged dep t legalEntityReference chartAccountCode fiscalPeriodReference pageLimit
        (accountLedgerLines dep t legalEntityReference chartAccountCode
          (period.map FiscalPeriod.fiscalPeriodId)) document ↔
      PlainBreaks dep pageLimit (accountLedgerLines dep t legalEntityReference chartAccountCode
        (period.map FiscalPeriod.fiscalPeriodId)) := by
  generalize hlines : accountLedgerLines dep t legalEntityReference chartAccountCode
    (period.map FiscalPeriod.fiscalPeriodId) = lines
  have hlines' := hlines.symm
  obtain ⟨hn, -⟩ := hkept.read_lines hlines'
  have hempty : parseAccountLedgerCursor "" = .ok none := rfl
  have hordered : ledgerRowsAfter dep none lines =
      @ordered _ _ (ledgerKeyOrder horder) LedgerLine.ledgerKey lines := by
    rw [ledgerRowsAfter_eq horder hn]
    unfold rest
    rw [@filter_beyond_none _ _ (ledgerKeyOrder horder)]
  have hbreaks : PlainBreaks dep pageLimit lines ↔ BreaksAccepted LedgerLine.ledgerKey PlainKey
      pageLimit [] (ledgerRowsAfter dep none lines) := by
    unfold PlainBreaks BreaksAccepted
    simp only [List.length_nil, Nat.zero_add]
    rfl
  rw [hbreaks]
  constructor
  · rintro ⟨rows, -, -, hwalk, -⟩
    obtain ⟨cursorAfter, rows', hparse, -, haccepted⟩ :=
      hwalk.accepted horder hkept hperiod hload hlines'
    rw [hempty] at hparse
    cases hparse
    rw [hordered]
    exact (@acceptedWalk_iff _ _ (ledgerKeyOrder horder) _ _ _ hlimit _ hn _).mp haccepted |>.2
  · intro hplain
    rw [hordered] at hplain
    have haccepted := (@acceptedWalk_iff _ _ (ledgerKeyOrder horder) _ _ _ hlimit _ hn _).mpr
      ⟨rfl, hplain⟩
    have hperm : (@ordered _ _ (ledgerKeyOrder horder) LedgerLine.ledgerKey lines).Perm lines :=
      @ordered_perm _ _ (ledgerKeyOrder horder) _ _
    have hread := loadAccountLedger_ok hperiod hload hlines' none
    rw [hload] at hread
    cases hread
    refine ⟨_, hperm, @ordered_pairwise _ _ (ledgerKeyOrder horder) _ _ hn,
      exists_accountLedgerWalk horder hkept hperiod hload hlines' haccepted hempty, ?_, ?_⟩
    · rw [total_map]
      exact total_perm hperm
    · rw [total_map]
      exact total_perm hperm

end Walks

/-- References without the separator never stop a walk. -/
theorem plainBreaks_of_plain {lines : List LedgerLine}
    (h : ∀ row ∈ lines, '|' ∉ row.journal.journalReference.toList) (pageLimit : ℕ) :
    PlainBreaks dep pageLimit lines := by
  intro before last later hrows _ _
  have hmem : last ∈ ledgerRowsAfter dep none lines := by
    rw [hrows]
    simp
  rw [ledgerRowsAfter, (List.perm_insertionSort _ _).mem_iff, (dep.rowOrder_perm _).mem_iff] at hmem
  exact h last (List.mem_filter.mp hmem).1

/-! ## A period code with the separator -/

theorem WellFormed.reference_ne_empty {t : Tables} (h : WellFormed dep t) {j : GeneralJournal}
    (hj : j ∈ t.journals) : j.journalReference ≠ "" := by
  intro hempty
  rcases h.referenced j hj with ⟨id, -, hinitial⟩ | hclosing
  · rw [hempty, String.toList_empty, List.prefix_nil, generalJournalReference_toList] at hinitial
    cases hinitial
  · rw [hempty] at hclosing
    exact absurd hclosing (by decide +kernel)

/-- What the commands stored keeps its keys, at moments a timestamp can hold. -/
theorem WellFormed.ledgerKeysKept {t : Tables} (h : WellFormed dep t)
    (hpostedAt : ∀ j ∈ t.journals, InDatetimeRange j.postedAt) : LedgerKeysKept t where
  references := h.reference_keys
  nonempty := fun _ hj => h.reference_ne_empty hj
  lineNumbers := fun j hj => (h.facts j hj).lineNumbers
  fits := by
    intro j hj line hline
    obtain ⟨posted, hposted⟩ := (h.facts j hj).lines
    obtain ⟨line', -, hinserted⟩ := mem_tryMap hposted hline
    simp only [insertJournalLine, bind_eq_ok, fetch_eq_ok, require_eq_ok, pure_eq_ok] at hinserted
    obtain ⟨account, -, -, hfits, -, -, -, -, -, -, rfl⟩ := hinserted
    exact hfits
  postedAt := hpostedAt

/-- January is called `2024|01`; it is closed between two invoices. -/
def barredPeriodCommands : List Command := [
  samplePeriod "2024|01" "open-1" 738886 738916,
  sampleInvoice "urn:cwl:book:b1" "2024|01" "0f8fad5b-d9cb-469f-a165-70867728950e" "invoice-1" 738900
    1000000,
  sampleClose "urn:cwl:book:b1" "2024|01" "hard_closed",
  samplePeriod "2024-02" "open-2" 738917 738945,
  sampleInvoice "urn:cwl:book:b1" "2024-02" "7c9e6679-7425-40de-944b-e07fc1f90ae7" "invoice-2" 738920
    2000000]

/-- A journal of the sample book with the amount on two accounts. -/
def storedJournal (id periodId : ℕ) (reference : String) (date : Date) (postedAt : Timestamp)
    (debited credited : ℕ × String) (amount : ℕ) (sources : List String) : GeneralJournal where
  generalJournalId := id
  legalEntityId := 1
  accountingBookId := 1
  fiscalPeriodId := periodId
  journalReference := reference
  transactionCurrencyCode := "KRW"
  functionalCurrencyCode := "KRW"
  transactionDate := date
  accountingDate := date
  sourceProposalRecordId := id - 1
  accountingPolicyVersion := "v1"
  postingRuleVersion := "v1"
  postedAt := postedAt
  lines := [⟨1, debited.1, debited.2, amount, 0⟩, ⟨2, credited.1, credited.2, 0, amount⟩]
  sourceReferences := sources

/-- The stored journals, on a clock that began in 2024. -/
def barredPeriodTables : Tables := { Tables.empty with
  journals := [
    storedJournal 3 1 "urn:cwl:accounting:general_journal:0f8fad5b-d9cb-469f-a165-70867728950e" 738900
      63839750400000002 (11, "accounts_receivable") (15, "usage_revenue") 1000000
      ["urn:cwl:accounting:adjusting_journal:0f8fad5b-d9cb-469f-a165-70867728950e"],
    storedJournal 5 1 "urn:cwl:accounting:general_journal:period_closing:2024|01:urn:cwl:book:b1" 738916
      63839750400000003 (15, "usage_revenue") (14, "retained_earnings") 1000000 [],
    storedJournal 9 7 "urn:cwl:accounting:general_journal:7c9e6679-7425-40de-944b-e07fc1f90ae7" 738920
      63839750400000005 (11, "accounts_receivable") (15, "usage_revenue") 2000000
      ["urn:cwl:accounting:adjusting_journal:7c9e6679-7425-40de-944b-e07fc1f90ae7"]] }

theorem barredPeriodTables_stored : barredPeriodTables.journals =
    (ledgerAfter (sampleDeployment sampleCatalog) barredPeriodCommands).journals.map fun journal =>
      { journal with postedAt := midnight 738886 + journal.postedAt } := by decide +kernel

theorem barredPeriodTables_kept : LedgerKeysKept barredPeriodTables where
  references := by decide +kernel
  nonempty := by decide +kernel
  lineNumbers := by decide +kernel
  fits := by decide +kernel
  postedAt := by
    unfold InDatetimeRange
    decide +kernel

/-- The receivables account, which no closing journal touches. -/
def receivableLedger : AccountLedgerDocument where
  tenantReference := "urn:cwl:tenant:t1"
  legalEntityReference := "urn:cwl:legal_entity:e1"
  chartAccountCode := "110100"
  fiscalPeriodReference := none
  ledgerLines := [⟨1, "110100", "accounts_receivable", 1000000, 0,
    "urn:cwl:accounting:general_journal:0f8fad5b-d9cb-469f-a165-70867728950e",
    "2024-01-01T00:00:00.000002Z".toList⟩]
  periodDebitTotal := 3000000
  periodCreditTotal := 0
  nextCursor := some ("2024-01-01T00:00:00.000002Z|" ++
    "urn:cwl:accounting:general_journal:0f8fad5b-d9cb-469f-a165-70867728950e|1")

theorem receivableLedger_complete :
    LedgerCompletelyPaged (sampleDeployment sampleCatalog) barredPeriodTables
      "urn:cwl:legal_entity:e1" "110100" "" 1
      (accountLedgerLines (sampleDeployment sampleCatalog) barredPeriodTables
        "urn:cwl:legal_entity:e1" "110100" none) receivableLedger :=
  (accountLedger_complete_iff (sampleDeployment sampleCatalog) barredPeriodTables
    "urn:cwl:legal_entity:e1" "110100" "" 1 none receivableLedger (sampleDeployment_ordersTexts _)
    barredPeriodTables_kept (by decide) (by decide +kernel) (by decide +kernel)).mpr
    (plainBreaks_of_plain (by decide +kernel) 1)

def barredCursor : String :=
  "2024-01-01T00:00:00.000003Z|urn:cwl:accounting:general_journal:period_closing:" ++
    "2024|01:urn:cwl:book:b1|1"

/-- The second page of the revenue account begins at a cursor that is refused. -/
theorem revenueLedger_stops :
    ∃ document, loadAccountLedger (sampleDeployment sampleCatalog) barredPeriodTables
        "urn:cwl:legal_entity:e1" "410100" "" 2 none = .ok document ∧
      document.nextCursor = some barredCursor ∧
      parseAccountLedgerCursor barredCursor = .error cursorError ∧
      ¬LedgerCompletelyPaged (sampleDeployment sampleCatalog) barredPeriodTables
        "urn:cwl:legal_entity:e1" "410100" "" 2
        (accountLedgerLines (sampleDeployment sampleCatalog) barredPeriodTables
          "urn:cwl:legal_entity:e1" "410100" none) document := by
  have hpage : (loadAccountLedger (sampleDeployment sampleCatalog) barredPeriodTables
      "urn:cwl:legal_entity:e1" "410100" "" 2 none).map AccountLedgerDocument.nextCursor =
      .ok (some barredCursor) := by decide +kernel
  have hrefused : parseAccountLedgerCursor barredCursor = .error cursorError := by decide +kernel
  obtain ⟨document, hload, hnext⟩ := map_eq_ok.mp hpage
  refine ⟨document, hload, hnext, hrefused, ?_⟩
  rintro ⟨rows, -, -, hwalk, -⟩
  have hempty : parseAccountLedgerCursor "" = .ok none := rfl
  generalize rows.map accountLedgerEntry = returned at hwalk
  cases hwalk with
  | last hparse hread hlast =>
    rw [hempty] at hparse
    cases hparse
    rw [hload] at hread
    cases hread
    rw [hnext] at hlast
    cases hlast
  | more hparse hread hmore _ hback _ =>
    rw [hempty] at hparse
    cases hparse
    rw [hload] at hread
    cases hread
    rw [hnext] at hmore
    cases hmore
    rw [hrefused] at hback
    cases hback

end AccountingPlatform.Postgres
