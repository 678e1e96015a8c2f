/-
  One binding of a bank account on a book at a time.

  The unique index sees rows without an end only, and nothing compares the windows of the
  others. So a command keeps the bindings apart exactly when its own window is proper and
  meets no stored one, or the index refuses it.
-/
import AccountingPlatform.Bank.Assignments
import AccountingPlatform.Postgres.Commands
import Mathlib.Data.List.TakeWhile

namespace AccountingPlatform.Bank

open AccountingPlatform.Lib AccountingPlatform.Core AccountingPlatform.Postgres

open LedgerError (isAccountingValidation)

variable {dep : Deployment} {digest : AssignmentDigest}

/-! ## Texts -/

theorem strip_eq_empty {text : String} (h : ∀ c ∈ text.toList, c = ' ') : strip text = "" := by
  have hdrop : text.toList.dropWhile isSpace = [] := by
    rw [List.dropWhile_eq_nil_iff]
    intro c hc
    rw [h c hc]
    decide
  unfold strip
  rw [hdrop]
  rfl

theorem isFilled_of_strip {text : String} (h : strip text ≠ "") : IsFilled text := by
  by_contra hnot
  apply h
  apply strip_eq_empty
  intro c hc
  by_contra hne
  exact hnot ⟨c, hc, hne⟩

theorem hash_leading (evidence : AssignmentEvidence) :
    (digest.hash evidence).toList.take 7 = "sha256:".toList := by
  have hmatches := digest.hash_matches evidence
  simp only [matchesHash, Bool.and_eq_true, beq_iff_eq] at hmatches
  exact hmatches.1.1

/-! ## What a command can do -/

variable (dep digest) in
/-- A command whose key is stored, answered from the row. -/
structure Reassigned (t : BankTables) (command : AssignmentCommand) (evidence : AssignmentEvidence)
    (document : AssignmentDocument) (row : BankAccountAssignment) : Prop where
  evidence_eq : command.readEvidence dep = .ok evidence
  found : t.assignmentByKey command.assignmentIdempotencyKey = some row
  hash : row.assignmentCommandHash = digest.hash evidence
  loaded : loadAssignmentDocument dep t row true = .ok document

variable (dep digest) in
/-- A command with a new key, recorded. -/
structure Assigned (t : BankTables) (command : AssignmentCommand) (evidence : AssignmentEvidence)
    (target : AssignmentTarget) (row : BankAccountAssignment) : Prop where
  evidence_eq : command.readEvidence dep = .ok evidence
  storable : requireStorable command.assignmentIdempotencyKey = .ok ()
  fresh : t.assignmentByKey command.assignmentIdempotencyKey = none
  target_eq : loadAssignmentTarget dep t evidence = .ok target
  row_eq : row = target.row evidence command.assignmentIdempotencyKey (digest.hash evidence) t.nextId
  proper : row.window.Proper
  key_fresh : ∀ r ∈ t.assignments, r.assignmentIdempotencyKey ≠ row.assignmentIdempotencyKey
  index : row.IsOpen → ∀ r ∈ t.assignments, r.scope = row.scope → ¬r.IsOpen

def BankTables.append (t : BankTables) (row : BankAccountAssignment) : BankTables :=
  { t with assignments := t.assignments ++ [row], nextId := t.nextId + 1 }

variable (dep) in
/-- The answer to a command that was recorded. -/
def recordedDocument (command : AssignmentCommand) (row : BankAccountAssignment) :
    AssignmentDocument where
  tenantReference := dep.catalog.tenantReference
  bankAccountReference := command.bankAccountReference
  legalEntityReference := command.legalEntityReference
  accountingBookReference := command.accountingBookReference
  chartAccountCode := command.chartAccountCode
  bankAccountAssignmentId := row.bankAccountAssignmentId
  replayed := false

theorem accept_cases {t t' : BankTables} {command : AssignmentCommand}
    {document : AssignmentDocument}
    (h : acceptBankAccountAssignment dep digest t command = .ok (document, t')) :
    ∃ evidence row,
      (Reassigned dep digest t command evidence document row ∧ t' = t) ∨
      ∃ target, Assigned dep digest t command evidence target row ∧ t' = t.append row ∧
        document = recordedDocument dep command row := by
  simp only [acceptBankAccountAssignment, bind_eq_ok] at h
  obtain ⟨evidence, hevidence, _, hstorable, h⟩ := h
  split at h
  · next prior hprior =>
    simp only [bind_eq_ok, require_eq_ok, pure_eq_ok, Prod.mk.injEq] at h
    obtain ⟨_, hhash, document', hload, rfl, rfl⟩ := h
    exact ⟨evidence, prior, Or.inl ⟨⟨hevidence, hprior, hhash, hload⟩, rfl⟩⟩
  · next hfresh =>
    simp only [bind_eq_ok, pure_eq_ok, Prod.mk.injEq, insertAssignment, require_eq_ok] at h
    obtain ⟨target, htarget, _, ⟨_, ⟨hproper, -, -⟩, _, ⟨hkey, hindex⟩, rfl⟩, rfl, rfl⟩ := h
    exact ⟨evidence, _, Or.inr ⟨target, ⟨hevidence, hstorable, hfresh, htarget, rfl, hproper, hkey,
      hindex⟩, rfl, rfl⟩⟩

theorem assign_of_ok {t t' : BankTables} {command : AssignmentCommand}
    {document : AssignmentDocument}
    (h : acceptBankAccountAssignment dep digest t command = .ok (document, t')) :
    assign dep digest t command = t' := by
  simp only [assign, h]

theorem assign_of_error {t : BankTables} {command : AssignmentCommand} {e : LedgerError}
    (h : acceptBankAccountAssignment dep digest t command = .error e) :
    assign dep digest t command = t := by
  simp only [assign, h]

/-- A command leaves the tables alone or appends one row. -/
theorem assign_cases (t : BankTables) (command : AssignmentCommand) :
    assign dep digest t command = t ∨
    ∃ evidence target row, Assigned dep digest t command evidence target row ∧
      assign dep digest t command = t.append row := by
  cases h : acceptBankAccountAssignment dep digest t command with
  | error e => exact Or.inl (assign_of_error h)
  | ok answer =>
    obtain ⟨evidence, row, ⟨-, hsame⟩ | ⟨target, hassigned, happended, -⟩⟩ := accept_cases h
    · exact Or.inl ((assign_of_ok h).trans hsame)
    · exact Or.inr ⟨evidence, target, row, hassigned, (assign_of_ok h).trans happended⟩

/-! ## Invariant -/

/-- Rows have proper windows and keys of their own. -/
structure AssignmentsKept (t : BankTables) : Prop where
  proper : ∀ row ∈ t.assignments, row.window.Proper
  keys : (t.assignments.map BankAccountAssignment.assignmentIdempotencyKey).Nodup

theorem AssignmentsKept.append {t : BankTables} (h : AssignmentsKept t) {command : AssignmentCommand}
    {evidence : AssignmentEvidence} {target : AssignmentTarget} {row : BankAccountAssignment}
    (hassigned : Assigned dep digest t command evidence target row) :
    AssignmentsKept (t.append row) where
  proper r hr := by
    rcases List.mem_append.mp hr with hr | hr
    · exact h.proper r hr
    · rw [List.mem_singleton.mp hr]
      exact hassigned.proper
  keys := nodup_map_concat h.keys hassigned.key_fresh

theorem assignmentsKept_assign {t : BankTables} (h : AssignmentsKept t)
    (command : AssignmentCommand) : AssignmentsKept (assign dep digest t command) := by
  rcases @assign_cases dep digest t command with
    hsame | ⟨_, _, _, hassigned, happended⟩
  · rw [hsame]
    exact h
  · rw [happended]
    exact h.append hassigned

/-- Later tables keep the accounts and the rows. -/
structure Grows (t t' : BankTables) : Prop where
  accounts : t'.accounts = t.accounts
  assignments : t.assignments <+: t'.assignments

theorem Grows.trans {t t' t'' : BankTables} (h : Grows t t') (h' : Grows t' t'') : Grows t t'' :=
  ⟨h'.accounts.trans h.accounts, h.assignments.trans h'.assignments⟩

theorem grows_assign (t : BankTables) (command : AssignmentCommand) :
    Grows t (assign dep digest t command) := by
  rcases @assign_cases dep digest t command with hsame | ⟨_, _, row, -, happended⟩
  · rw [hsame]
    exact ⟨rfl, List.prefix_refl _⟩
  · rw [happended]
    exact ⟨rfl, List.prefix_append _ _⟩

theorem grows_run (t : BankTables) (commands : List AssignmentCommand) :
    Grows t (run (assign dep digest) t commands) := by
  induction commands generalizing t with
  | nil => exact ⟨rfl, List.prefix_refl _⟩
  | cons command commands ih => exact (grows_assign t command).trans (ih _)

/-! ## Replays -/

variable (dep digest) in
/-- The row that answers a command, with the answer it gives. -/
structure AnsweredBy (t : BankTables) (key : String) (evidence : AssignmentEvidence)
    (document : AssignmentDocument) (row : BankAccountAssignment) : Prop where
  found : t.assignmentByKey key = some row
  hash : row.assignmentCommandHash = digest.hash evidence
  loaded : loadAssignmentDocument dep t row true = .ok { document with replayed := true }

theorem AnsweredBy.later {t t' : BankTables} {key : String} {evidence : AssignmentEvidence}
    {document : AssignmentDocument} {row : BankAccountAssignment}
    (h : AnsweredBy dep digest t key evidence document row) (hgrows : Grows t t') :
    AnsweredBy dep digest t' key evidence document row where
  found := hgrows.assignments.find?_eq_some h.found
  hash := h.hash
  loaded := by
    have hloaded := h.loaded
    unfold loadAssignmentDocument BankAccounts.account? at hloaded ⊢
    rw [hgrows.accounts]
    exact hloaded

theorem loadAssignmentTarget_ok {t : BankTables} {evidence : AssignmentEvidence}
    {target : AssignmentTarget} (h : loadAssignmentTarget dep t evidence = .ok target) :
    (target.account ∈ t.accounts ∧
      target.account.bankAccountReference = evidence.bankAccountReference) ∧
    (target.entity ∈ dep.catalog.legalEntities ∧
      target.entity.legalEntityCode = evidence.legalEntityReference) ∧
    (target.book ∈ dep.catalog.books ∧ target.book.bookName = evidence.accountingBookReference) ∧
    target.chartAccount ∈ dep.catalog.chartAccounts ∧
      target.chartAccount.chartAccountCode = evidence.chartAccountCode := by
  simp only [loadAssignmentTarget, BankAccounts.loadBankAccount, Deployment.loadLegalEntity,
    Deployment.requireBookForClose, bind_eq_ok, fetch_eq_ok, pure_eq_ok] at h
  obtain ⟨account, haccount, entity, hentity, book, hbook, _, -, chartAccount, hchart, rfl⟩ := h
  have hentity' := dep.fetchone_mem hentity
  have hbook' := dep.fetchone_mem hbook
  simp only [List.mem_filter, decide_eq_true_eq] at hentity' hbook'
  obtain ⟨hmem, -, hcode, -⟩ := dep.chartAccountForCode_mem hchart
  refine ⟨⟨List.mem_of_find?_eq_some haccount, by simpa using List.find?_some haccount⟩,
    ⟨hentity'.1, hentity'.2.1⟩, ⟨hbook'.1, hbook'.2.2.1⟩, hmem, hcode⟩

/-- A recorded row is loaded back as it was answered. -/
theorem Assigned.loaded {t : BankTables} {command : AssignmentCommand} {evidence : AssignmentEvidence}
    {target : AssignmentTarget} {row : BankAccountAssignment}
    (h : Assigned dep digest t command evidence target row) :
    loadAssignmentDocument dep (t.append row) row true =
      .ok { recordedDocument dep command row with replayed := true } := by
  obtain ⟨⟨haccount, hreference⟩, ⟨hentity, hcode⟩, ⟨hbook, hname⟩, hchart, hchartCode⟩ :=
    loadAssignmentTarget_ok h.target_eq
  have hevidence := h.evidence_eq
  simp only [AssignmentCommand.readEvidence, bind_eq_ok, pure_eq_ok] at hevidence
  obtain ⟨_, -, window, -, rfl⟩ := hevidence
  have hfoundAccount : (t.append row).account? target.account.bankAccountRecordId =
      some target.account :=
    find?_of_nodup_map t.account_key haccount
  have hfoundEntity : legalEntityCode? dep target.entity.legalEntityId =
      some target.entity.legalEntityCode := by
    unfold legalEntityCode?
    rw [find?_of_nodup_map dep.catalog.legalEntity_key hentity]
    rfl
  have hfoundBook : bookName? dep target.book.accountingBookId = some target.book.bookName := by
    unfold bookName? book?
    rw [find?_of_nodup_map dep.catalog.book_key hbook]
    rfl
  have hfoundChart := dep.chartAccount?_of_mem hchart
  have hrow := h.row_eq
  unfold loadAssignmentDocument
  rw [show row.bankAccountRecordId = target.account.bankAccountRecordId by rw [hrow]; rfl,
    show row.legalEntityId = target.entity.legalEntityId by rw [hrow]; rfl,
    show row.accountingBookId = target.book.accountingBookId by rw [hrow]; rfl,
    show row.chartAccountId = target.chartAccount.chartAccountId by rw [hrow]; rfl,
    hfoundAccount, hfoundEntity, hfoundBook, hfoundChart, hcode, hname]
  show Except.ok _ = Except.ok _
  rw [hreference, hchartCode]
  rfl

/-- Whatever answered a command answers it later. -/
theorem answeredBy_of_ok {t t' : BankTables} (hkept : AssignmentsKept t)
    {command : AssignmentCommand} {document : AssignmentDocument}
    (h : acceptBankAccountAssignment dep digest t command = .ok (document, t')) :
    ∃ evidence row, command.readEvidence dep = .ok evidence ∧
      AnsweredBy dep digest t' command.assignmentIdempotencyKey evidence document row := by
  obtain ⟨evidence, row, ⟨hre, rfl⟩ | ⟨target, hassigned, rfl, rfl⟩⟩ := accept_cases h
  · refine ⟨evidence, row, hre.evidence_eq, hre.found, hre.hash, ?_⟩
    have hreplayed : document.replayed = true := by
      have hload := hre.loaded
      simp only [loadAssignmentDocument, fetch_eq_ok, Option.bind_eq_bind, Option.bind_eq_some_iff,
        Option.pure_def, Option.some.injEq] at hload
      obtain ⟨_, -, _, -, _, -, _, -, rfl⟩ := hload
      rfl
    have hsame : { document with replayed := true } = document := by
      rw [← hreplayed]
    rw [hsame]
    exact hre.loaded
  · have hmem : row ∈ (t.append row).assignments :=
      List.mem_append_right _ (List.mem_singleton.mpr rfl)
    have hkey : row.assignmentIdempotencyKey = command.assignmentIdempotencyKey := by
      rw [hassigned.row_eq]
      rfl
    refine ⟨evidence, row, hassigned.evidence_eq, ?_, ?_, hassigned.loaded⟩
    · rw [← hkey]
      exact find?_of_nodup_map (hkept.append hassigned).keys hmem
    · rw [hassigned.row_eq]
      rfl

/-! ## Refusals -/

/-- Both timestamps lie in years 1 to 9999 of UTC. -/
def AssignmentCommand.TimesInRange (command : AssignmentCommand) : Prop :=
  ∀ start, command.validFrom = some start → IsRepresentable start.instant ∧
    ∀ finish, command.validTo = some (some finish) → IsRepresentable finish.instant

theorem refuses_parseTimestamp_iff {value : Option IsoTimestamp} {label : String} :
    Raises isAccountingValidation (parseTimestamp value label) ↔
      ∀ parsed, value = some parsed → IsRepresentable parsed.instant := by
  unfold parseTimestamp IsoTimestamp.astimezone
  rw [raises_bind_iff, and_iff_right (raises_fetch trivial)]
  simp only [fetch_eq_ok, raises_bind_iff, raises_require_iff]
  constructor
  · intro h parsed hparsed
    by_contra hnot
    exact (h parsed hparsed).1 hnot
  · intro h parsed hparsed
    exact ⟨fun hnot => absurd (h parsed hparsed) hnot, fun _ _ => raises_pure _⟩

theorem parseTimestamp_succeeds_iff {value : Option IsoTimestamp} {label : String} :
    Succeeds (parseTimestamp value label) ↔
      ∃ parsed, value = some parsed ∧ IsRepresentable parsed.instant := by
  simp only [Succeeds, parseTimestamp, IsoTimestamp.astimezone, bind_eq_ok, fetch_eq_ok,
    require_eq_ok, pure_eq_ok]
  constructor
  · rintro ⟨_, parsed, hparsed, _, hrange, -⟩
    exact ⟨parsed, hparsed, hrange⟩
  · rintro ⟨parsed, hparsed, hrange⟩
    exact ⟨_, parsed, hparsed, (), hrange, rfl⟩

theorem refuses_parseEnd_iff {value : Option (Option IsoTimestamp)} :
    Raises isAccountingValidation (parseEnd value) ↔
      ∀ finish, value = some (some finish) → IsRepresentable finish.instant := by
  cases value with
  | none => exact iff_of_true (raises_pure _) nofun
  | some raw =>
    have hmap : Raises isAccountingValidation (parseEnd (some raw)) ↔
        Raises isAccountingValidation (parseTimestamp raw "assignment valid_to") :=
      ⟨fun h e he => h e (map_eq_error.mpr he), raises_map⟩
    rw [hmap, refuses_parseTimestamp_iff]
    simp only [Option.some.injEq]

theorem refuses_readWindow_iff {command : AssignmentCommand} :
    Raises isAccountingValidation command.readWindow ↔ command.TimesInRange := by
  unfold AssignmentCommand.readWindow AssignmentCommand.TimesInRange
  rw [raises_bind_iff, refuses_parseTimestamp_iff]
  constructor
  · rintro ⟨hstart, hrest⟩ start hsome
    obtain ⟨instant, hok⟩ := parseTimestamp_succeeds_iff.mpr ⟨start, hsome, hstart start hsome⟩
    exact ⟨hstart start hsome, refuses_parseEnd_iff.mp (raises_bind_iff.mp (hrest instant hok)).1⟩
  · intro h
    refine ⟨fun start hsome => (h start hsome).1, fun instant hok => ?_⟩
    obtain ⟨start, hsome, -⟩ := parseTimestamp_succeeds_iff.mp ⟨instant, hok⟩
    exact raises_bind (refuses_parseEnd_iff.mpr (h start hsome).2) fun _ _ => raises_pure _

theorem refuses_requireFields (command : AssignmentCommand) :
    Raises isAccountingValidation (command.requireFields dep) := by
  unfold AssignmentCommand.requireFields requireCommand requireReference
  simp only [raises_bind_iff, raises_require_iff]
  exact ⟨fun _ => trivial, fun _ _ => ⟨fun _ => trivial, fun _ _ => ⟨fun _ => trivial, fun _ _ =>
    ⟨fun _ => trivial, fun _ _ => ⟨fun _ => trivial, fun _ _ _ => trivial⟩⟩⟩⟩⟩

theorem refuses_readEvidence_iff {command : AssignmentCommand} :
    Raises isAccountingValidation (command.readEvidence dep) ↔
      (Succeeds (command.requireFields dep) → command.TimesInRange) := by
  unfold AssignmentCommand.readEvidence
  rw [raises_bind_iff, and_iff_right (refuses_requireFields command)]
  simp only [raises_bind_iff, refuses_readWindow_iff]
  constructor
  · rintro h ⟨u, hu⟩
    exact (h u hu).1
  · exact fun h u hu => ⟨h ⟨u, hu⟩, fun _ _ => raises_pure _⟩

theorem refuses_requireStorable_iff {text : String} :
    Raises isAccountingValidation (requireStorable text) ↔ '\x00' ∉ text.toList := by
  unfold requireStorable
  rw [raises_require_iff]
  exact ⟨fun h => by_contra fun hnot => h hnot, fun h hnot => absurd h hnot⟩

variable (dep) in
/-- Account, entity and book of the evidence are found. -/
def Resolves (t : BankTables) (evidence : AssignmentEvidence) : Prop :=
  Succeeds (t.loadBankAccount evidence.bankAccountReference) ∧ ∃ entity book,
    dep.loadLegalEntity evidence.legalEntityReference "the bank-account assignment" = .ok entity ∧
    dep.requireBookForClose entity.legalEntityId evidence.accountingBookReference
      "the assignment" = .ok book

theorem refuses_loadAssignmentTarget_iff {t : BankTables} {evidence : AssignmentEvidence} :
    Raises isAccountingValidation (loadAssignmentTarget dep t evidence) ↔
      (Resolves dep t evidence → '\x00' ∉ evidence.chartAccountCode.toList) := by
  unfold loadAssignmentTarget BankAccounts.loadBankAccount Deployment.loadLegalEntity
    Deployment.requireBookForClose
  rw [raises_bind_iff, and_iff_right (raises_fetch trivial)]
  simp only [raises_bind_iff, refuses_requireStorable_iff]
  constructor
  · rintro h ⟨⟨account, haccount⟩, entity, book, hentity, hbook⟩
    exact ((h account haccount).2 entity hentity).2 book hbook |>.1
  · intro h account haccount
    refine ⟨raises_fetch trivial, fun entity hentity => ⟨raises_fetch trivial, fun book hbook =>
      ⟨h ⟨⟨account, haccount⟩, entity, book, hentity, hbook⟩, fun _ _ => ⟨raises_fetch trivial,
        fun _ _ => raises_pure _⟩⟩⟩⟩

theorem refuses_insertAssignment_iff {t : BankTables} {row : BankAccountAssignment}
    (hfilled : IsFilled row.assignmentIdempotencyKey)
    (hinitial : row.assignmentCommandHash.toList.take 7 = "sha256:".toList) :
    Raises isAccountingValidation (insertAssignment t row) ↔ row.window.Proper := by
  unfold insertAssignment
  rw [raises_bind_iff, raises_require_iff]
  constructor
  · intro h
    by_contra hnot
    exact h.1 fun hall => hnot hall.1
  · intro h
    exact ⟨fun hnot => absurd ⟨h, hfilled, hinitial⟩ hnot, fun _ _ =>
      raises_bind (raises_require trivial) fun _ _ => raises_pure _⟩

theorem readEvidence_filled {command : AssignmentCommand} {evidence : AssignmentEvidence}
    (h : command.readEvidence dep = .ok evidence) : IsFilled command.assignmentIdempotencyKey := by
  simp only [AssignmentCommand.readEvidence, AssignmentCommand.requireFields, bind_eq_ok,
    require_eq_ok] at h
  obtain ⟨-, ⟨-, -, -, -, -, -, -, -, -, -, hstrip⟩, -⟩ := h
  exact isFilled_of_strip hstrip

/-- The errors of the whole command are validation errors exactly when its timestamps and texts
    can be stored and a new row has a proper window. -/
theorem refuses_accept_iff {t : BankTables} {command : AssignmentCommand} :
    Raises isAccountingValidation (acceptBankAccountAssignment dep digest t command) ↔
      (Succeeds (command.requireFields dep) → command.TimesInRange) ∧
      ∀ evidence, command.readEvidence dep = .ok evidence →
        '\x00' ∉ command.assignmentIdempotencyKey.toList ∧
        (t.assignmentByKey command.assignmentIdempotencyKey = none →
          (Resolves dep t evidence → '\x00' ∉ evidence.chartAccountCode.toList) ∧
          ∀ target, loadAssignmentTarget dep t evidence = .ok target → evidence.window.Proper) := by
  unfold acceptBankAccountAssignment
  rw [raises_bind_iff, refuses_readEvidence_iff]
  refine and_congr_right fun _ => forall_congr' fun evidence => forall_congr' fun hevidence => ?_
  dsimp only
  rw [raises_bind_iff, refuses_requireStorable_iff]
  have hprior : ∀ u, requireStorable command.assignmentIdempotencyKey = .ok u ↔
      '\x00' ∉ command.assignmentIdempotencyKey.toList := fun u => require_eq_ok
  simp only [hprior]
  refine and_congr_right fun hstorable => ?_
  simp only [hstorable, not_false_eq_true, forall_const]
  cases t.assignmentByKey command.assignmentIdempotencyKey with
  | some prior =>
    refine iff_of_true (raises_bind (raises_require trivial) fun _ _ => ?_) fun hnone =>
      absurd hnone (Option.some_ne_none prior)
    exact raises_bind (raises_fetch trivial) fun _ _ => raises_pure _
  | none =>
    simp only [forall_const]
    rw [raises_bind_iff, refuses_loadAssignmentTarget_iff]
    refine and_congr_right fun _ => forall_congr' fun target => forall_congr' fun _ => ?_
    rw [raises_bind_iff, refuses_insertAssignment_iff (readEvidence_filled hevidence)
      (hash_leading evidence), and_iff_left fun _ _ => raises_pure _]
    rfl

/-! ## Windows -/

/-- At every instant a bank account has at most one binding on a book. -/
def OneBindingAtATime (t : BankTables) : Prop :=
  ∀ scope instant,
    (t.assignments.filter fun row => row.scope = scope ∧ row.window.Covers instant).length ≤ 1

/-- Account and book of a new row. -/
def AssignmentTarget.scope (target : AssignmentTarget) : ℕ × ℕ :=
  (target.account.bankAccountRecordId, target.book.accountingBookId)

/-- The window meets no stored one of its account and book, or the index refuses it: it has no
    end and neither has a stored one. -/
def KeepsApart (t : BankTables) (target : AssignmentTarget) (window : Window Timestamp) : Prop :=
  (window.finish = none ∧ ∃ r ∈ t.assignments, r.scope = target.scope ∧ r.IsOpen) ∨
    ∀ r ∈ t.assignments, r.scope = target.scope → ¬r.window.Meets window

theorem oneBindingAtATime_iff {t : BankTables} (hkept : AssignmentsKept t) :
    OneBindingAtATime t ↔
      t.assignments.Pairwise fun r r' => r.scope = r'.scope → ¬r.window.Meets r'.window :=
  one_at_a_time_iff hkept.proper

theorem oneBindingAtATime_append_iff {t : BankTables} (hkept : AssignmentsKept t)
    (hone : OneBindingAtATime t) {command : AssignmentCommand} {evidence : AssignmentEvidence}
    {target : AssignmentTarget} {row : BankAccountAssignment}
    (hassigned : Assigned dep digest t command evidence target row) :
    OneBindingAtATime (t.append row) ↔
      ∀ r ∈ t.assignments, r.scope = row.scope → ¬r.window.Meets row.window := by
  rw [oneBindingAtATime_iff (hkept.append hassigned)]
  show (t.assignments ++ [row]).Pairwise _ ↔ _
  rw [List.pairwise_append, and_iff_right ((oneBindingAtATime_iff hkept).mp hone),
    and_iff_right (List.pairwise_singleton _ _)]
  simp only [List.mem_singleton, forall_eq]

theorem Assigned.accept_eq {t : BankTables} {command : AssignmentCommand}
    {evidence : AssignmentEvidence} {target : AssignmentTarget} {row : BankAccountAssignment}
    (h : Assigned dep digest t command evidence target row) :
    acceptBankAccountAssignment dep digest t command =
      .ok (recordedDocument dep command row, t.append row) := by
  have hrow := h.row_eq
  have hfilled : IsFilled row.assignmentIdempotencyKey := by
    rw [hrow]
    exact readEvidence_filled h.evidence_eq
  have hinitial : row.assignmentCommandHash.toList.take 7 = "sha256:".toList := by
    rw [hrow]
    exact hash_leading evidence
  have hinsert : insertAssignment t row = .ok (row, t.append row) := by
    unfold insertAssignment
    rw [require_of ⟨h.proper, hfilled, hinitial⟩, ok_bind, require_of ⟨h.key_fresh, h.index⟩]
    rfl
  unfold acceptBankAccountAssignment
  rw [h.evidence_eq, ok_bind]
  dsimp only
  rw [h.storable, ok_bind, h.fresh]
  dsimp only
  rw [h.target_eq, ok_bind, ← hrow, hinsert]
  rfl

theorem AssignmentTarget.row_scope (target : AssignmentTarget) (evidence : AssignmentEvidence)
    (key commandHash : String) (id : ℕ) :
    (target.row evidence key commandHash id).scope = target.scope := rfl

/-- What a step does to the bindings. -/
theorem assign_oneBinding_iff {t : BankTables} (hkept : AssignmentsKept t)
    (hone : OneBindingAtATime t) (command : AssignmentCommand) :
    OneBindingAtATime (assign dep digest t command) ↔
      ∀ evidence target, command.readEvidence dep = .ok evidence →
        requireStorable command.assignmentIdempotencyKey = .ok () →
        t.assignmentByKey command.assignmentIdempotencyKey = none →
        loadAssignmentTarget dep t evidence = .ok target → evidence.window.Proper →
        KeepsApart t target evidence.window := by
  constructor
  · intro hafter evidence target hevidence hstorable hfresh htarget hproper
    by_cases hrefused : evidence.window.finish = none ∧
        ∃ r ∈ t.assignments, r.scope = target.scope ∧ r.IsOpen
    · exact Or.inl hrefused
    · right
      have hassigned : Assigned dep digest t command evidence target
          (target.row evidence command.assignmentIdempotencyKey (digest.hash evidence) t.nextId) := by
        refine ⟨hevidence, hstorable, hfresh, htarget, rfl, hproper, ?_, ?_⟩
        · intro r hr heq
          have := List.find?_eq_none.mp hfresh r hr
          exact this (decide_eq_true heq)
        · exact fun hopen r hr hscope hopen' => hrefused ⟨hopen, r, hr, hscope, hopen'⟩
      rw [assign_of_ok hassigned.accept_eq] at hafter
      exact (oneBindingAtATime_append_iff hkept hone hassigned).mp hafter
  · intro hall
    rcases @assign_cases dep digest t command with
      hsame | ⟨evidence, target, row, hassigned, happended⟩
    · rw [hsame]
      exact hone
    · rw [happended, oneBindingAtATime_append_iff hkept hone hassigned]
      have hrow := hassigned.row_eq
      have hproper : evidence.window.Proper := by
        have := hassigned.proper
        rw [hrow] at this
        exact this
      rcases hall evidence target hassigned.evidence_eq hassigned.storable hassigned.fresh
        hassigned.target_eq hproper with ⟨hopen, r, hr, hscope, hopen'⟩ | hapart
      · have hrefuses := hassigned.index (by rw [hrow]; exact hopen) r hr
        rw [hrow] at hrefuses
        exact absurd hopen' (hrefuses hscope)
      · rw [hrow]
        exact hapart

/-! ## The condition on a command -/

variable (dep) in
/-- A command the contract covers: its timestamps and texts can be stored, and if it is new and
    all it names is found, its window is proper and kept apart. -/
structure Admits (t : BankTables) (command : AssignmentCommand) : Prop where
  times : Succeeds (command.requireFields dep) → command.TimesInRange
  key : ∀ evidence, command.readEvidence dep = .ok evidence →
    '\x00' ∉ command.assignmentIdempotencyKey.toList
  code : ∀ evidence, command.readEvidence dep = .ok evidence →
    t.assignmentByKey command.assignmentIdempotencyKey = none → Resolves dep t evidence →
    '\x00' ∉ evidence.chartAccountCode.toList
  window : ∀ evidence target, command.readEvidence dep = .ok evidence →
    t.assignmentByKey command.assignmentIdempotencyKey = none →
    loadAssignmentTarget dep t evidence = .ok target →
    evidence.window.Proper ∧ KeepsApart t target evidence.window

theorem admits_iff {t : BankTables} (hkept : AssignmentsKept t) (hone : OneBindingAtATime t)
    (command : AssignmentCommand) :
    Raises isAccountingValidation (acceptBankAccountAssignment dep digest t command) ∧
      OneBindingAtATime (assign dep digest t command) ↔ Admits dep t command := by
  rw [refuses_accept_iff, assign_oneBinding_iff hkept hone]
  constructor
  · rintro ⟨⟨htimes, hread⟩, hapart⟩
    refine ⟨htimes, fun evidence h => (hread evidence h).1,
      fun evidence h hfresh => ((hread evidence h).2 hfresh).1, ?_⟩
    intro evidence target h hfresh htarget
    obtain ⟨hkey, hnew⟩ := hread evidence h
    have hproper := (hnew hfresh).2 target htarget
    exact ⟨hproper, hapart evidence target h (require_of hkey _) hfresh htarget hproper⟩
  · intro h
    refine ⟨⟨h.times, fun evidence hevidence => ⟨h.key evidence hevidence, fun hfresh =>
      ⟨h.code evidence hevidence hfresh, fun target htarget => ?_⟩⟩⟩, ?_⟩
    · exact (h.window evidence target hevidence hfresh htarget).1
    · intro evidence target hevidence _ hfresh htarget _
      exact (h.window evidence target hevidence hfresh htarget).2

/-! ## Runs -/

variable (dep digest) in
/-- An earlier command of the run and its answer. -/
def Answered (accounts : BankAccounts) (before : List AssignmentCommand)
    (first : AssignmentCommand) (document : AssignmentDocument) : Prop :=
  ∃ earlier later t', before = earlier ++ first :: later ∧
    acceptBankAccountAssignment dep digest (assignedAfter dep digest accounts earlier) first =
      .ok (document, t')

variable (dep digest) in
/-- What the contract promises the caller of one command. -/
structure AnswersKept (accounts : BankAccounts) (before : List AssignmentCommand)
    (command : AssignmentCommand) : Prop where
  retry : ∀ first document evidence, Answered dep digest accounts before first document →
    command.assignmentIdempotencyKey = first.assignmentIdempotencyKey →
    first.readEvidence dep = .ok evidence → command.readEvidence dep = .ok evidence →
    acceptBankAccountAssignment dep digest (assignedAfter dep digest accounts before) command =
      .ok ({ document with replayed := true }, assignedAfter dep digest accounts before)
  conflict : ∀ first document evidence evidence', Answered dep digest accounts before first document →
    command.assignmentIdempotencyKey = first.assignmentIdempotencyKey →
    first.readEvidence dep = .ok evidence → command.readEvidence dep = .ok evidence' →
    evidence' ≠ evidence → ∃ message,
    acceptBankAccountAssignment dep digest (assignedAfter dep digest accounts before) command =
      .error (.idempotencyConflict message)
  refused : ∀ e, acceptBankAccountAssignment dep digest (assignedAfter dep digest accounts before)
      command = .error e → e.isAccountingValidation ∧
    assign dep digest (assignedAfter dep digest accounts before) command =
      assignedAfter dep digest accounts before

variable (dep digest) in
/-- No two commands with different evidence have one hash. -/
def CollisionFree (commands : List AssignmentCommand) : Prop :=
  ∀ c ∈ commands, ∀ d ∈ commands, ∀ evidence evidence', c.readEvidence dep = .ok evidence →
    d.readEvidence dep = .ok evidence' → digest.hash evidence = digest.hash evidence' →
    evidence = evidence'

theorem assignmentsKept_after (accounts : BankAccounts) (commands : List AssignmentCommand) :
    AssignmentsKept (assignedAfter dep digest accounts commands) := by
  have hempty : AssignmentsKept accounts.unassigned := ⟨nofun, List.nodup_nil⟩
  exact run_monotone (P := AssignmentsKept) (fun _ c h => assignmentsKept_assign h c) hempty

/-- The row that answered a command earlier still answers its key. -/
theorem Answered.answeredBy {accounts : BankAccounts} {before : List AssignmentCommand}
    {first : AssignmentCommand} {document : AssignmentDocument}
    (h : Answered dep digest accounts before first document) :
    ∃ evidence row, first.readEvidence dep = .ok evidence ∧
      requireStorable first.assignmentIdempotencyKey = .ok () ∧
      AnsweredBy dep digest (assignedAfter dep digest accounts before)
        first.assignmentIdempotencyKey evidence document row := by
  obtain ⟨earlier, later, t', rfl, hok⟩ := h
  obtain ⟨evidence, row, hevidence, hanswered⟩ :=
    answeredBy_of_ok (assignmentsKept_after accounts earlier) hok
  have hstorable : requireStorable first.assignmentIdempotencyKey = .ok () := by
    simp only [acceptBankAccountAssignment, bind_eq_ok] at hok
    obtain ⟨_, -, _, hstorable, -⟩ := hok
    exact hstorable
  refine ⟨evidence, row, hevidence, hstorable, hanswered.later ?_⟩
  have hgrows : Grows t' (run (assign dep digest) t' later) := grows_run t' later
  have hafter : assignedAfter dep digest accounts (earlier ++ first :: later) =
      run (assign dep digest) t' later := by
    rw [assignedAfter, run_append, run_cons]
    exact congrArg (fun s => run (assign dep digest) s later) (assign_of_ok hok)
  rw [hafter]
  exact hgrows

/-- Whether a command's answer is kept depends only on the errors it can end with. -/
theorem answersKept_iff {accounts : BankAccounts} {before : List AssignmentCommand}
    {command : AssignmentCommand} (hfree : CollisionFree dep digest (before ++ [command])) :
    AnswersKept dep digest accounts before command ↔
      Raises isAccountingValidation
        (acceptBankAccountAssignment dep digest (assignedAfter dep digest accounts before) command) := by
  constructor
  · exact fun h e he => (h.refused e he).1
  · intro hraises
    refine ⟨?_, ?_, fun e he => ⟨hraises e he, assign_of_error he⟩⟩
    · intro first document evidence hfirst hkey hevidence hsame
      obtain ⟨evidence₁, row, hevidence₁, hstorable, hanswered⟩ := hfirst.answeredBy
      obtain rfl : evidence₁ = evidence := Except.ok.inj (hevidence₁.symm.trans hevidence)
      unfold acceptBankAccountAssignment
      rw [hsame, ok_bind]
      dsimp only
      rw [hkey, hstorable, ok_bind, hanswered.found]
      dsimp only
      rw [require_of hanswered.hash, ok_bind, hanswered.loaded]
      rfl
    · intro first document evidence evidence' hfirst hkey hevidence hother hne
      obtain ⟨evidence₁, row, hevidence₁, hstorable, hanswered⟩ := hfirst.answeredBy
      obtain rfl : evidence₁ = evidence := Except.ok.inj (hevidence₁.symm.trans hevidence)
      have hdiffers : row.assignmentCommandHash ≠ digest.hash evidence' := by
        rw [hanswered.hash]
        intro heq
        obtain ⟨earlier, later, -, rfl, -⟩ := hfirst
        exact hne (hfree first (by simp) command (by simp) _ _ hevidence hother heq).symm
      unfold acceptBankAccountAssignment
      rw [hother, ok_bind]
      dsimp only
      rw [hkey, hstorable, ok_bind, hanswered.found]
      dsimp only
      rw [require, if_neg hdiffers]
      exact ⟨_, rfl⟩

/-- Every answer is kept and no account is bound twice to a book, in every state of a run,
    exactly when every command of it is admitted in its turn. -/
theorem bindings_kept_iff {accounts : BankAccounts} {commands : List AssignmentCommand}
    (hfree : CollisionFree dep digest commands) :
    EveryStep (fun before command => AnswersKept dep digest accounts before command ∧
        OneBindingAtATime (assignedAfter dep digest accounts (before ++ [command]))) commands ↔
      EveryStep (fun before command =>
        Admits dep (assignedAfter dep digest accounts before) command) commands := by
  apply everyStep_iff_of_initial
  intro before command hinitial hbefore
  have hfreeHere : CollisionFree dep digest (before ++ [command]) :=
    fun c hc d hd => hfree c (hinitial.subset hc) d (hinitial.subset hd)
  have hone : OneBindingAtATime (assignedAfter dep digest accounts before) := by
    rcases List.eq_nil_or_concat' before with rfl | ⟨earlier, last, rfl⟩
    · exact fun scope instant => Nat.zero_le 1
    · exact (hbefore earlier last (List.prefix_refl _)).2
  have hstep : assignedAfter dep digest accounts (before ++ [command]) =
      assign dep digest (assignedAfter dep digest accounts before) command :=
    run_concat _ _ _ _
  rw [answersKept_iff hfreeHere, hstep]
  exact admits_iff (assignmentsKept_after accounts before) hone command

/-! ## Windows that overlap -/

/-- The evidence in one text. -/
def evidenceText (evidence : AssignmentEvidence) : String :=
  evidence.bankAccountReference ++ "|" ++ evidence.chartAccountCode ++ "|" ++
    toString evidence.window.start ++ "|" ++ toString (evidence.window.finish.getD 0)

/-- Stands for SHA-256 on the samples. -/
def sampleAssignmentDigest : AssignmentDigest where
  hash evidence := sampleDigest (.closing evidence.bankAccountReference (evidenceText evidence) [] "" "")
  hash_matches _ := sampleDigest_matches _

def sampleBankAccounts : BankAccounts where
  accounts := [⟨1, "urn:cwl:bank_account:a1", "KRW", "sha256:"⟩]
  account_key := by decide
  account_reference := by decide

/-- A binding of the account from one day to another. -/
def sampleAssignment (key : String) (start finish : Date) : AssignmentCommand where
  tenantReference := "urn:cwl:tenant:t1"
  bankAccountReference := "urn:cwl:bank_account:a1"
  legalEntityReference := "urn:cwl:legal_entity:e1"
  accountingBookReference := "urn:cwl:book:b1"
  chartAccountCode := "110100"
  assignmentIdempotencyKey := key
  validFrom := some ⟨midnight start, none⟩
  validTo := some (some ⟨midnight finish, none⟩)

/-- Two windows, the second from the day the first ends. -/
def adjacentAssignments : List AssignmentCommand :=
  [sampleAssignment "assign-1" 738886 738917, sampleAssignment "assign-2" 738917 738946]

theorem admits_of_evidence {t : BankTables} {command : AssignmentCommand}
    {evidence : AssignmentEvidence} (hread : command.readEvidence dep = .ok evidence)
    (htimes : command.TimesInRange) (hkey : '\x00' ∉ command.assignmentIdempotencyKey.toList)
    (hcode : '\x00' ∉ evidence.chartAccountCode.toList) (hproper : evidence.window.Proper)
    (hapart : ∀ r ∈ t.assignments, ¬r.window.Meets evidence.window) : Admits dep t command where
  times _ := htimes
  key _ _ := hkey
  code evidence' h _ _ := by
    obtain rfl : evidence' = evidence := Except.ok.inj (h.symm.trans hread)
    exact hcode
  window evidence' target h _ _ := by
    obtain rfl : evidence' = evidence := Except.ok.inj (h.symm.trans hread)
    exact ⟨hproper, Or.inr fun r hr _ => hapart r hr⟩

theorem timesInRange_sampleAssignment {key : String} {start finish : Date}
    (hstart : IsRepresentable (midnight start)) (hfinish : IsRepresentable (midnight finish)) :
    (sampleAssignment key start finish).TimesInRange := by
  intro first hfirst
  cases hfirst
  refine ⟨by simpa [IsoTimestamp.instant] using hstart, ?_⟩
  intro last hlast
  cases hlast
  simpa [IsoTimestamp.instant] using hfinish

/-- The evidence of a sample binding. -/
def sampleEvidence (start finish : Date) : AssignmentEvidence :=
  ⟨"urn:cwl:bank_account:a1", "urn:cwl:legal_entity:e1", "urn:cwl:book:b1", "110100",
    ⟨midnight start, some (midnight finish)⟩⟩

/-- Windows that touch keep the account bound once, and every answer is kept. -/
theorem adjacentAssignments_kept :
    let dep := sampleDeployment sampleCatalog
    (assignedAfter dep sampleAssignmentDigest sampleBankAccounts adjacentAssignments).assignments.length
        = 2 ∧
      EveryStep (fun before command =>
        AnswersKept dep sampleAssignmentDigest sampleBankAccounts before command ∧
          OneBindingAtATime (assignedAfter dep sampleAssignmentDigest sampleBankAccounts
            (before ++ [command]))) adjacentAssignments := by
  intro dep
  have hread₁ : (sampleAssignment "assign-1" 738886 738917).readEvidence dep =
      .ok (sampleEvidence 738886 738917) := by
    decide +kernel
  have hread₂ : (sampleAssignment "assign-2" 738917 738946).readEvidence dep =
      .ok (sampleEvidence 738917 738946) := by
    decide +kernel
  have hfree : CollisionFree dep sampleAssignmentDigest adjacentAssignments := by
    have hdiffer : sampleAssignmentDigest.hash (sampleEvidence 738886 738917) ≠
        sampleAssignmentDigest.hash (sampleEvidence 738917 738946) := by
      decide +kernel
    intro c hc d hd e e' he he' heq
    simp only [adjacentAssignments, List.mem_cons, List.not_mem_nil, or_false] at hc hd
    obtain rfl | rfl := hc <;> obtain rfl | rfl := hd <;> simp only [hread₁, hread₂, Except.ok.injEq] at he he' <;>
      subst he <;> subst he'
    · rfl
    · exact absurd heq hdiffer
    · exact absurd heq.symm hdiffer
    · rfl
  refine ⟨by decide +kernel, (bindings_kept_iff hfree).mpr ?_⟩
  have hfirst : Admits dep sampleBankAccounts.unassigned
      (sampleAssignment "assign-1" 738886 738917) :=
    admits_of_evidence hread₁ (timesInRange_sampleAssignment (by decide) (by decide))
      (by decide +kernel) (by decide +kernel) (by decide) nofun
  have hsecond : Admits dep (assignedAfter dep sampleAssignmentDigest sampleBankAccounts
      [sampleAssignment "assign-1" 738886 738917]) (sampleAssignment "assign-2" 738917 738946) :=
    admits_of_evidence hread₂ (timesInRange_sampleAssignment (by decide) (by decide))
      (by decide +kernel) (by decide +kernel) (by decide) (by decide +kernel)
  rw [adjacentAssignments, ← List.singleton_append, everyStep_concat_iff]
  refine ⟨?_, hsecond⟩
  rw [← List.nil_append [_], everyStep_concat_iff]
  exact ⟨fun before c hc => absurd (List.prefix_nil.mp hc) (by simp), hfirst⟩

/-- Two closed windows that overlap are both stored, and an inverted window ends in a raw error
    of the table. -/
theorem overlappingAssignments_stored :
    let dep := sampleDeployment sampleCatalog
    ¬OneBindingAtATime (assignedAfter dep sampleAssignmentDigest sampleBankAccounts
      [sampleAssignment "assign-1" 738886 738917, sampleAssignment "assign-2" 738900 738946]) ∧
    acceptBankAccountAssignment dep sampleAssignmentDigest sampleBankAccounts.unassigned
      (sampleAssignment "assign-1" 738917 738886) = .error checkViolation := by
  intro dep
  constructor
  · intro hone
    have htwo : ((assignedAfter dep sampleAssignmentDigest sampleBankAccounts
        [sampleAssignment "assign-1" 738886 738917, sampleAssignment "assign-2" 738900 738946]
        ).assignments.filter fun row => row.scope = (1, 1) ∧
          row.window.Covers (midnight 738905)).length = 2 := by
      decide +kernel
    have hle := hone (1, 1) (midnight 738905)
    omega
  · have hraised : (acceptBankAccountAssignment dep sampleAssignmentDigest
        sampleBankAccounts.unassigned (sampleAssignment "assign-1" 738917 738886)).map Prod.fst =
          .error checkViolation := by
      decide +kernel
    exact map_eq_error.mp hraised

end AccountingPlatform.Bank
