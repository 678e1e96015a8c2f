/-
  From the roles of a proposal to the accounts of the stored lines.

  A mapping row names an account, the policy keeps the code of that account, and every line
  looks its code up again. `postProposal_follows_catalog` says which rows a posting was
  resolved by, and when the stored accounts are those the mapping rows name.
-/
import AccountingPlatform.Postgres.Commands

namespace AccountingPlatform.Postgres

open AccountingPlatform.Lib AccountingPlatform.Core

variable (dep : Deployment)

/-! ## The rows of a role -/

/-- Effective mapping rows of one role, each with the account it names. -/
def mappingsOfRole (bookId : ℕ) (asOf : Timestamp) (roleCode : String) :
    List (AccountRoleMapping × ChartAccount) :=
  (dep.catalog.roleMappings.filter fun m =>
      m.accountingBookId = bookId ∧ m.accountRoleCode = roleCode ∧ m.effectiveAt asOf).filterMap
    fun m => (dep.chartAccount? m.chartAccountId).map fun account => (m, account)

/-- The rows of one role among those of several. -/
theorem filter_effectiveMappings (bookId : ℕ) {roleCodes : List String} (asOf : Timestamp)
    {roleCode : String} (h : roleCode ∈ roleCodes) :
    ((effectiveMappings dep bookId roleCodes asOf).filter fun r => r.1.accountRoleCode = roleCode).Perm
      (mappingsOfRole dep bookId asOf roleCode) := by
  refine ((dep.rowOrder_perm _).filter _).trans (List.Perm.of_eq ?_)
  rw [mappingsOfRole]
  induction dep.catalog.roleMappings with
  | nil => rfl
  | cons m ms ih =>
    by_cases hm : m.accountingBookId = bookId ∧ m.accountRoleCode ∈ roleCodes ∧ m.effectiveAt asOf
    · rw [List.filter_cons_of_pos (by simpa using hm)]
      cases haccount : dep.chartAccount? m.chartAccountId with
      | none =>
        rw [List.filterMap_cons_none (by rw [haccount, Option.map_none]), ih]
        by_cases hrole : m.accountRoleCode = roleCode
        · rw [List.filter_cons_of_pos (by simpa using ⟨hm.1, hrole, hm.2.2⟩),
            List.filterMap_cons_none (by rw [haccount, Option.map_none])]
        · rw [List.filter_cons_of_neg (by simp [hrole])]
      | some account =>
        rw [List.filterMap_cons_some (by rw [haccount, Option.map_some])]
        by_cases hrole : m.accountRoleCode = roleCode
        · rw [List.filter_cons_of_pos (by simpa using hrole), ih,
            List.filter_cons_of_pos (by simpa using ⟨hm.1, hrole, hm.2.2⟩),
            List.filterMap_cons_some (by rw [haccount, Option.map_some])]
        · rw [List.filter_cons_of_neg (by simpa using hrole), ih,
            List.filter_cons_of_neg (by simp [hrole])]
    · have hno : ¬(m.accountingBookId = bookId ∧ m.accountRoleCode = roleCode ∧ m.effectiveAt asOf) :=
        fun hrow => hm ⟨hrow.1, hrow.2.1 ▸ h, hrow.2.2⟩
      rw [List.filter_cons_of_neg (by simpa using hm), ih, List.filter_cons_of_neg (by simpa using hno)]

/-! ## The loop over the rows -/

variable {dep}

/-- What the loop leaves for a role: what was there, or its one row. -/
theorem seenRoles_ok {rows : List (AccountRoleMapping × ChartAccount)}
    {seen out : Dict String (String × String × String)} (h : seenRoles rows seen = .ok out)
    (roleCode : String) :
    ((rows.filter fun r => r.1.accountRoleCode = roleCode) = [] ∧
      out.get? roleCode = seen.get? roleCode) ∨
    (seen.get? roleCode = none ∧ ∃ m account,
      (rows.filter fun r => r.1.accountRoleCode = roleCode) = [(m, account)] ∧
      out.get? roleCode =
        some (account.chartAccountCode, m.accountingPolicyVersion, m.postingRuleVersion)) := by
  induction rows generalizing seen with
  | nil =>
    rw [← Except.ok.inj h]
    exact Or.inl ⟨rfl, rfl⟩
  | cons row rows ih =>
    obtain ⟨m, account⟩ := row
    simp only [seenRoles, bind_eq_ok, require_eq_ok] at h
    obtain ⟨-, hnone, h⟩ := h
    by_cases hrole : m.accountRoleCode = roleCode
    · subst hrole
      rw [List.filter_cons_of_pos (by simp)]
      rcases ih h with ⟨hrest, hout⟩ | ⟨hseen, -⟩
      · rw [hrest]
        rw [Dict.get?_set_self] at hout
        exact Or.inr ⟨hnone, m, account, rfl, hout⟩
      · rw [Dict.get?_set_self] at hseen
        cases hseen
    · rw [List.filter_cons_of_neg (by simpa using hrole)]
      have hrest := ih h
      rw [Dict.get?_set_of_ne _ hrole] at hrest
      exact hrest

/-- `{role: code for role, (code, _, _) in seen.items()}`. -/
theorem get?_codes (seen : Dict String (String × String × String)) (roleCode : String) :
    (seen.entries.foldl (fun mapping entry => mapping.set entry.1 entry.2.1) Dict.empty).get? roleCode =
      (seen.get? roleCode).map Prod.fst := by
  have hrows := Dict.get?_ofRows Prod.fst (fun e : String × String × String × String => e.2.1)
    seen.entries roleCode
  rw [Dict.ofRows] at hrows
  rw [hrows, Dict.get?]
  have hnodup := seen.nodup
  clear hrows
  generalize seen.entries = es at hnodup ⊢
  induction es with
  | nil => rfl
  | cons e es ih =>
    rw [List.map_cons, List.nodup_cons] at hnodup
    by_cases he : e.1 = roleCode
    · have hrest : (es.filter fun e => e.1 = roleCode) = [] := by
        rw [List.filter_eq_nil_iff]
        intro e' he' heq
        refine hnodup.1 (List.mem_map.mpr ⟨e', he', ?_⟩)
        rw [he]
        simpa using heq
      rw [List.filter_cons_of_pos (by simpa using he), hrest, List.find?_cons_of_pos (by simpa using he)]
      rfl
    · rw [List.filter_cons_of_neg (by simpa using he), List.find?_cons_of_neg (by simpa using he)]
      exact ih hnodup.2

/-- Every role of the proposal has one effective row, all rows carry one pair of versions, and
    the mapping keeps the code of the account the row names. -/
theorem loadRoleMapping_ok {bookId : ℕ} {proposal : JournalProposal} {mapping : Dict String String}
    {policyVersion ruleVersion : String}
    (h : loadRoleMapping dep bookId proposal = .ok (mapping, policyVersion, ruleVersion))
    {line : JournalLineProposal} (hline : line ∈ proposal.lines) :
    ∃ m account,
      mappingsOfRole dep bookId (midnight proposal.accountingDate) line.accountRoleCode =
        [(m, account)] ∧
      m.accountingPolicyVersion = policyVersion ∧ m.postingRuleVersion = ruleVersion ∧
      mapping.get? line.accountRoleCode = some account.chartAccountCode := by
  have hcode : line.accountRoleCode ∈
      (proposal.lines.map JournalLineProposal.accountRoleCode).eraseDups :=
    List.mem_eraseDups.mpr (List.mem_map_of_mem hline)
  simp only [loadRoleMapping, bind_eq_ok, require_eq_ok] at h
  obtain ⟨-, -, seen, hseen, h⟩ := h
  split at h
  · cases h
  · next hmissing =>
    split at h
    · next pv rv hversions =>
      obtain ⟨rfl, rfl, rfl⟩ := by simpa only [Except.ok.injEq, Prod.mk.injEq] using h
      rw [List.find?_eq_none] at hmissing
      have hpresent := hmissing _ hcode
      rcases seenRoles_ok hseen line.accountRoleCode with ⟨-, hout⟩ | ⟨-, m, account, hrow, hout⟩
      · rw [hout] at hpresent
        exact absurd rfl hpresent
      · have hperm := filter_effectiveMappings dep bookId (midnight proposal.accountingDate) hcode
        rw [hrow] at hperm
        have hpair : (m.accountingPolicyVersion, m.postingRuleVersion) ∈ [(pv, rv)] := by
          rw [← hversions, List.mem_dedup]
          exact List.mem_map.mpr ⟨_, (seen.mem_values_iff _).mpr ⟨_, hout⟩, rfl⟩
        rw [List.mem_singleton, Prod.mk.injEq] at hpair
        refine ⟨m, account, List.perm_singleton.mp hperm.symm, hpair.1, hpair.2, ?_⟩
        rw [get?_codes, hout]
        rfl
    · cases h

/-! ## Stored lines -/

variable (dep) in
/-- A stored line under the catalog: the one mapping row of its role carries the versions of the
    journal, and its account is found by the code of the account that row names. -/
def FollowsCatalog (bookId : ℕ) (asOf : Timestamp) (policyVersion ruleVersion : String)
    (line : JournalLineProposal) (row : JournalEntryLine) : Prop :=
  ∃ m mapped stored, mappingsOfRole dep bookId asOf line.accountRoleCode = [(m, mapped)] ∧
    m.accountingPolicyVersion = policyVersion ∧ m.postingRuleVersion = ruleVersion ∧
    dep.chartAccountForCode bookId mapped.chartAccountCode = some stored ∧
    row = ⟨line.lineNumber, stored.chartAccountId, line.accountRoleCode, line.debitAmount,
      line.creditAmount⟩

variable (dep) in
/-- The stored line is on the account its mapping row names. -/
def OnMappedAccount (bookId : ℕ) (asOf : Timestamp) (line : JournalLineProposal)
    (row : JournalEntryLine) : Prop :=
  ∀ r ∈ mappingsOfRole dep bookId asOf line.accountRoleCode,
    row.chartAccountId = r.1.chartAccountId

variable (dep) in
/-- The code of the mapped account leads back to that account. -/
def LeadsBack (bookId : ℕ) (asOf : Timestamp) (line : JournalLineProposal) : Prop :=
  ∀ r ∈ mappingsOfRole dep bookId asOf line.accountRoleCode,
    dep.chartAccountForCode bookId r.2.chartAccountCode = some r.2

/-- The account of a row is found by the key the row holds. -/
theorem mappingsOfRole_account {bookId : ℕ} {asOf : Timestamp} {roleCode : String}
    {r : AccountRoleMapping × ChartAccount} (h : r ∈ mappingsOfRole dep bookId asOf roleCode) :
    r.2 ∈ dep.catalog.chartAccounts ∧ r.2.chartAccountId = r.1.chartAccountId := by
  obtain ⟨m, -, hm⟩ := List.mem_filterMap.mp h
  obtain ⟨account, haccount, rfl⟩ := Option.map_eq_some_iff.mp hm
  exact ⟨List.mem_of_find?_eq_some haccount, by simpa using List.find?_some haccount⟩

/-- One account of the catalog for each key. -/
theorem account_eq_of_id {a b : ChartAccount} (ha : a ∈ dep.catalog.chartAccounts)
    (hb : b ∈ dep.catalog.chartAccounts) (h : a.chartAccountId = b.chartAccountId) : a = b :=
  List.inj_on_of_nodup_map dep.catalog.chartAccount_key ha hb h

theorem FollowsCatalog.onMappedAccount_iff {bookId : ℕ} {asOf : Timestamp}
    {policyVersion ruleVersion : String} {line : JournalLineProposal} {row : JournalEntryLine}
    (h : FollowsCatalog dep bookId asOf policyVersion ruleVersion line row) :
    OnMappedAccount dep bookId asOf line row ↔ LeadsBack dep bookId asOf line := by
  obtain ⟨m, mapped, stored, hrole, -, -, hstored, rfl⟩ := h
  obtain ⟨hmem, hid⟩ := mappingsOfRole_account (r := (m, mapped))
    (show (m, mapped) ∈ mappingsOfRole dep bookId asOf line.accountRoleCode by
      rw [hrole]; exact List.mem_cons_self)
  simp only [OnMappedAccount, LeadsBack, hrole, List.forall_mem_singleton, hstored, Option.some.injEq]
  constructor
  · intro heq
    exact account_eq_of_id (dep.chartAccountForCode_mem hstored).1 hmem (heq.trans hid.symm)
  · rintro rfl
    exact hid

/-- A mapped account of the book that is current and alone with its code leads back to itself. -/
theorem leadsBack_of_unique {bookId : ℕ} {asOf : Timestamp} {line : JournalLineProposal}
    (h : ∀ r ∈ mappingsOfRole dep bookId asOf line.accountRoleCode,
      r.2.accountingBookId = bookId ∧ r.2.isCurrent = true ∧
      ∀ account ∈ dep.catalog.chartAccounts, account.accountingBookId = bookId →
        account.chartAccountCode = r.2.chartAccountCode → account.isCurrent = true → account = r.2) :
    LeadsBack dep bookId asOf line := by
  intro r hr
  obtain ⟨hbook, hcurrent, hunique⟩ := h r hr
  refine dep.fetchone_unique ?_ fun account haccount => ?_
  · simpa using ⟨(mappingsOfRole_account hr).1, hbook, hcurrent⟩
  · simp only [List.mem_filter, decide_eq_true_eq] at haccount
    exact hunique account haccount.1 haccount.2.1 haccount.2.2.1 haccount.2.2.2

/-- Resolving a line and inserting it follows the catalog. -/
theorem followsCatalog_of_ok {bookId : ℕ} {proposal : JournalProposal} {policy : AccountingPolicy}
    {mapping : Dict String String}
    (hmapping : loadRoleMapping dep bookId proposal =
      .ok (mapping, policy.accountingPolicyVersion, policy.postingRuleVersion))
    (hpolicy : policy.chartAccountMapping = mapping) {line : JournalLineProposal}
    (hline : line ∈ proposal.lines) {posted : PostedJournalLine} {row : JournalEntryLine}
    (hposted : resolveLine policy line = .ok posted)
    (hrow : insertJournalLine dep bookId posted = .ok row) :
    FollowsCatalog dep bookId (midnight proposal.accountingDate) policy.accountingPolicyVersion
      policy.postingRuleVersion line row := by
  obtain ⟨m, mapped, hrole, hpv, hrv, hget⟩ := loadRoleMapping_ok hmapping hline
  obtain ⟨code, hcode, rfl⟩ := resolveLine_ok hposted
  rw [hpolicy, hget, Option.some.injEq] at hcode
  obtain ⟨stored, hstored, rfl, -⟩ := insertJournalLine_ok hrow
  rw [← hcode] at hstored
  exact ⟨m, mapped, stored, hrole, hpv, hrv, hstored, rfl⟩

/-- Two loops one after the other, line by line. -/
theorem forall₂_of_tryMap_tryMap {α β γ ε : Type} {f : α → Except ε β} {g : β → Except ε γ}
    {P : α → γ → Prop} {as : List α} {bs : List β} {cs : List γ} (hf : tryMap f as = .ok bs)
    (hg : tryMap g bs = .ok cs) (h : ∀ a ∈ as, ∀ b c, f a = .ok b → g b = .ok c → P a c) :
    List.Forall₂ P as cs := by
  induction as generalizing bs cs with
  | nil =>
    cases hf
    cases hg
    exact .nil
  | cons a as ih =>
    simp only [tryMap, bind_eq_ok, pure_eq_ok] at hf
    obtain ⟨b, hb, bs, hbs, rfl⟩ := hf
    simp only [tryMap, bind_eq_ok, pure_eq_ok] at hg
    obtain ⟨c, hc, cs, hcs, rfl⟩ := hg
    exact .cons (h a List.mem_cons_self b c hb hc)
      (ih hbs hcs fun a' ha' => h a' (List.mem_cons_of_mem a ha'))

theorem forall₂_congr_left {α γ : Type} {P Q : α → γ → Prop} {R : α → Prop} {as : List α}
    {cs : List γ} (h : List.Forall₂ P as cs) (hiff : ∀ a c, P a c → (Q a c ↔ R a)) :
    List.Forall₂ Q as cs ↔ ∀ a ∈ as, R a := by
  induction h with
  | nil => simp
  | cons hac _ ih => rw [List.forall₂_cons, List.forall_mem_cons, hiff _ _ hac, ih]

/-! ## Postings -/

/-- The policy of the catalog: the book of the proposal's role and the rows of its roles. -/
theorem resolveAccountingPolicy_ok {t : Tables} {proposal : JournalProposal}
    {policy : AccountingPolicy} (h : resolveAccountingPolicy dep t proposal = .ok policy) :
    ∃ entity book, dep.loadLegalEntity proposal.legalEntityReference "posting" = .ok entity ∧
      dep.requireBookForRole entity.legalEntityId proposal.intendedBookRoleCode = .ok book ∧
      policy.intendedBookRoleCode = proposal.intendedBookRoleCode ∧
      policy.accountingBookReference = book.bookName ∧
      loadRoleMapping dep book.accountingBookId proposal = .ok (policy.chartAccountMapping,
        policy.accountingPolicyVersion, policy.postingRuleVersion) := by
  simp only [resolveAccountingPolicy, bind_eq_ok] at h
  obtain ⟨_, -, entity, hentity, book, hbook, period, -, ⟨mapping, pv, rv⟩, hmapping, hbuild⟩ := h
  have hfields := AccountingPolicy.build_fields hbuild
  refine ⟨entity, book, hentity, hbook, ?_, ?_, ?_⟩
  · rw [hfields]
  · rw [hfields]
  · rw [hfields]
    exact hmapping

/-- Both lookups of the book run the same query. -/
theorem requireBook_eq {legalEntityId : ℕ} {bookRoleCode reference : String}
    {book book' : AccountingBook} (h : dep.requireBook legalEntityId bookRoleCode reference = .ok book)
    (h' : dep.requireBookForRole legalEntityId bookRoleCode = .ok book') : book = book' := by
  simp only [Deployment.requireBook, fetch_eq_ok] at h
  simp only [Deployment.requireBookForRole, fetch_eq_ok] at h'
  rw [h, Option.some.injEq] at h'
  exact h'

/-- A fresh proposal that is posted goes to the book of its role, under the one pair of versions
    of its effective mapping rows; the stored accounts are those the rows name exactly when the
    code of each named account leads back to it. -/
theorem postProposal_follows_catalog {t t' : Tables} {proposal : JournalProposal}
    {receipt : PostingReceipt} (hfresh : t.proposalRecordByKey proposal.idempotencyKey = none)
    (h : postProposal dep t proposal = .ok (receipt, t')) :
    ∃ book ∈ dep.catalog.books, ∃ journal, book.bookRoleCode = proposal.intendedBookRoleCode ∧
      book.isCurrent = true ∧ t'.journals = t.journals ++ [journal] ∧
      journal.accountingBookId = book.accountingBookId ∧
      receipt.accountingBookReference = book.bookName ∧
      receipt.accountingPolicyVersion = journal.accountingPolicyVersion ∧
      receipt.postingRuleVersion = journal.postingRuleVersion ∧
      List.Forall₂ (FollowsCatalog dep book.accountingBookId (midnight proposal.accountingDate)
        journal.accountingPolicyVersion journal.postingRuleVersion) proposal.lines journal.lines ∧
      (List.Forall₂ (OnMappedAccount dep book.accountingBookId (midnight proposal.accountingDate))
          proposal.lines journal.lines ↔
        ∀ line ∈ proposal.lines,
          LeadsBack dep book.accountingBookId (midnight proposal.accountingDate) line) := by
  rcases persistProposal_ok dep h with ⟨prior, hprior, -⟩ | ⟨-, hposted⟩
  · rw [hfresh] at hprior
    cases hprior
  obtain ⟨policy, entity, book, period, lines, hposting, rfl, hwrite⟩ :=
    persistFreshProposal_ok dep hposted
  obtain ⟨entity', book', hentity, hbook, hrole, hname, hmapping⟩ :=
    resolveAccountingPolicy_ok hposting.policy_eq
  obtain rfl : entity = entity' := Except.ok.inj (hposting.entity_eq.symm.trans hentity)
  obtain rfl : book = book' := requireBook_eq hposting.book_eq (hrole ▸ hbook)
  have hmem := dep.fetchone_mem (fetch_eq_ok.mp hbook)
  simp only [Deployment.booksForRole, List.mem_filter, decide_eq_true_eq] at hmem
  obtain ⟨journal, t₁, hrecorded, rfl⟩ := writePosting_ok dep hwrite
  have hrow := hrecorded.inserted.row
  have hpv : journal.accountingPolicyVersion = policy.accountingPolicyVersion := by
    rw [hrow]
    rfl
  have hrv : journal.postingRuleVersion = policy.postingRuleVersion := by
    rw [hrow]
    rfl
  have hfollows : List.Forall₂ (FollowsCatalog dep book.accountingBookId
      (midnight proposal.accountingDate) journal.accountingPolicyVersion journal.postingRuleVersion)
      proposal.lines journal.lines := by
    rw [hpv, hrv]
    refine forall₂_of_tryMap_tryMap hposting.resolved hrecorded.inserted.lines
      fun line hline posted row hposted hrow => ?_
    exact followsCatalog_of_ok hmapping rfl hline hposted hrow
  refine ⟨book, hmem.1, journal, hmem.2.2.1, hmem.2.2.2, ?_, ?_, hname, hpv.symm, hrv.symm, hfollows,
    forall₂_congr_left hfollows fun line row hline => hline.onMappedAccount_iff⟩
  · rw [hrecorded.inserted.tables]
    rfl
  · rw [hrow]
    rfl

/-- The sample catalog after account 11 has been replaced by account 19 under the same code; the
    mapping row of the role still names account 11. -/
def replacedAccountCatalog : Catalog :=
  { sampleCatalog with
    chartAccounts := ⟨11, 1, "110100", .asset, false⟩ :: ⟨19, 1, "110100", .asset, true⟩ ::
      (sampleAccounts 1).tail
    chartAccount_key := by decide }

theorem replacedAccount_invoice :
    (invoiceFields "0f8fad5b-d9cb-469f-a165-70867728950e" "invoice-1" 738890).postInit = .ok () := by
  decide +kernel

def replacedAccountTables : Tables :=
  ledgerAfter (sampleDeployment replacedAccountCatalog) [samplePeriod "2024-01" "open-1" 738886 738916]

/-- The invoice is posted, on the account that replaced the mapped one. -/
theorem postProposal_follows_replacedCatalog :
    ∃ receipt t' journal, postProposal (sampleDeployment replacedAccountCatalog)
        replacedAccountTables ⟨_, replacedAccount_invoice⟩ = .ok (receipt, t') ∧
      t'.journals = replacedAccountTables.journals ++ [journal] ∧
      List.Forall₂ (FollowsCatalog (sampleDeployment replacedAccountCatalog) 1 (midnight 738890)
        journal.accountingPolicyVersion journal.postingRuleVersion)
        (invoiceLines 1000000 oneUnit_pos) journal.lines ∧
      ¬List.Forall₂ (OnMappedAccount (sampleDeployment replacedAccountCatalog) 1 (midnight 738890))
        (invoiceLines 1000000 oneUnit_pos) journal.lines := by
  have hsucceeds : Succeeds (postProposal (sampleDeployment replacedAccountCatalog)
      replacedAccountTables ⟨_, replacedAccount_invoice⟩) := by
    decide +kernel
  obtain ⟨⟨receipt, t'⟩, hposted⟩ := hsucceeds
  obtain ⟨book, hbook, journal, -, -, hjournals, -, -, -, -, hfollows, honto⟩ :=
    postProposal_follows_catalog (by decide +kernel) hposted
  obtain rfl : book = sampleBook := List.mem_singleton.mp hbook
  refine ⟨receipt, t', journal, hposted, hjournals, hfollows, fun hon => ?_⟩
  have hleads := honto.mp hon
  have hnot : ¬∀ line ∈ invoiceLines 1000000 oneUnit_pos, ∀ r ∈ mappingsOfRole
      (sampleDeployment replacedAccountCatalog) 1 (midnight 738890) line.accountRoleCode,
      (sampleDeployment replacedAccountCatalog).chartAccountForCode 1 r.2.chartAccountCode =
        some r.2 := by
    decide +kernel
  exact hnot hleads

end AccountingPlatform.Postgres
