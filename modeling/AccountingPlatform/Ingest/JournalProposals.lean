/-
  Ingest of the journal proposals Billing publishes.

  A payload is what `json.loads` returns; `str` of a value that is not a text is a parameter.
  Ingest ends with a proposal, with a validation error or, on the text of a signaling NaN, with
  `InvalidOperation`. `ingest_faithful` says what an accepted proposal keeps of its payload and
  where an error comes from.
-/
import AccountingPlatform.Accept.ExactBalance
import AccountingPlatform.Core.IsoFormat
import AccountingPlatform.Ingest.DecimalForms

namespace AccountingPlatform.Ingest

open AccountingPlatform.Lib AccountingPlatform.Core

/-! ## Payloads -/

/-- What `json.loads` returns; a float stands as its text. -/
inductive Json
  | null
  | bool (value : Bool)
  | int (value : ℤ)
  | float (text : String)
  | text (value : String)
  | list (items : List Json)
  | object (members : List (String × Json))

abbrev Members := List (String × Json)

/-- `payload.get(name)`. -/
def lookup? (members : Members) (name : String) : Option Json :=
  (members.find? fun member => member.1 = name).map Prod.snd

/-- `payload[name]` of a name that is there. -/
def field (members : Members) (name : String) : Json := (lookup? members name).getD .null

/-- `value not in (None, "")`. -/
def Json.isGiven : Json → Bool
  | .null => false
  | .text value => value ≠ ""
  | _ => true

inductive IngestError
  | ledger (error : LedgerError)
  /-- `decimal.InvalidOperation`. -/
  | invalidOperation

abbrev IngestResult (α : Type) := Except IngestError α

def invalid (message : String) : IngestError := .ledger (.validation message)

/-- What the posting core raises. -/
def ofResult {α : Type} (result : Result α) : IngestResult α := result.mapError .ledger

/-! ## Fields -/

def requireFields (names : List String) (members : Members) : IngestResult Unit := do
  let _ ← tryMap (fun name => require (((lookup? members name).any Json.isGiven) = true)
    (invalid (name ++ " is required. Supply the Billing published " ++ name ++ ", then retry ingest.")))
    names
  pure ()

/-- `_require_contract_int`. -/
def requireContractInt (value : Json) (fieldName : String) : IngestResult ℤ :=
  match value with
  | .int n => .ok n
  | _ => .error (invalid (fieldName ++ " must be an integer. Supply the Billing published " ++ fieldName ++
      ", then retry ingest."))

/-- `_require_amount_string`. -/
def requireAmountString (value : Json) (fieldName : String) : IngestResult String :=
  match value with
  | .text text =>
    match decimalForm text with
    | none => .ok text
    | some .signaling => .error .invalidOperation
    | some .zero => do
      require (text = "0")
        (invalid (fieldName ++ " must use canonical zero '0'. " ++
          "Supply the Billing schema's literal zero representation, then retry ingest."))
      pure text
    | some .other => .ok text
  | _ => .error (invalid (fieldName ++ " must be a canonical decimal string. " ++
      "Supply exact decimal strings, not JSON numbers, then retry ingest."))

/-- `_require_iso_date`. -/
def requireIsoDate (value : Json) (fieldName : String) : IngestResult Date :=
  match value with
  | .text text =>
    fetch (dateFromIsoformat text)
      (invalid (fieldName ++ " must be an ISO date. Supply YYYY-MM-DD, then retry ingest."))
  | _ => .error (invalid (fieldName ++ " must be an ISO date. Supply YYYY-MM-DD, then retry ingest."))

/-- `_require_...` of an array; strings and objects are not sequences of JSON values. -/
def requireItems (value : Json) (message : String) : IngestResult (List Json) :=
  match value with
  | .list items => .ok items
  | _ => .error (invalid message)

/-! ## Lines and proposals -/

def requiredLineFields : List String := ["line_number", "account_role_code", "debit_amount", "credit_amount"]

def requiredContractFields : List String := [
  "proposal_id", "proposal_contract_version", "idempotency_key", "tenant_reference",
  "legal_entity_reference", "intended_book_role_code", "transaction_currency", "transaction_date",
  "accounting_date", "source_payload_hash", "proposed_at", "proposal_status",
  "source_event_references", "lines"]

variable (str : Json → String)

/-- `_journal_line_from_contract`. -/
def journalLineFromContract (line : Json) : IngestResult JournalLineProposal :=
  match line with
  | .object members => do
    requireFields requiredLineFields members
    let accountRoleCode := str (field members "account_role_code")
    require (accountRoleCode ≠ "retained_earnings")
      (invalid ("retained_earnings is reserved for AIS period-close. " ++
        "Post revenue and expense through Billing, then hard-close; " ++
        "do not send retained_earnings on a Billing proposal."))
    let lineNumber ← requireContractInt (field members "line_number") "line_number"
    let debitAmount ← requireAmountString (field members "debit_amount") "debit_amount"
    let creditAmount ← requireAmountString (field members "credit_amount") "credit_amount"
    ofResult (JournalLineProposal.build lineNumber accountRoleCode debitAmount creditAmount)
  | _ => .error (invalid ("each journal line must be a line object. " ++
      "Supply Billing line objects, then retry ingest."))

/-- `_journal_proposal_from_contract`. -/
def journalProposalFromContract (members : Members) : IngestResult JournalProposal := do
  requireFields requiredContractFields members
  let sourceEventReferences ← requireItems (field members "source_event_references")
    ("source_event_references must be an array of CWL URNs. " ++
      "Supply the Billing published references, then retry ingest.")
  let items ← requireItems (field members "lines")
    ("lines must be an array of journal line objects. " ++
      "Supply the Billing published lines, then retry ingest.")
  let version ← requireContractInt (field members "proposal_contract_version") "proposal_contract_version"
  let transactionDate ← requireIsoDate (field members "transaction_date") "transaction_date"
  let accountingDate ← requireIsoDate (field members "accounting_date") "accounting_date"
  let lines ← tryMap (journalLineFromContract str) items
  ofResult (JournalProposal.build {
    proposalId := str (field members "proposal_id")
    proposalContractVersion := version
    idempotencyKey := str (field members "idempotency_key")
    tenantReference := str (field members "tenant_reference")
    legalEntityReference := str (field members "legal_entity_reference")
    intendedBookRoleCode := str (field members "intended_book_role_code")
    transactionCurrency := str (field members "transaction_currency")
    transactionDate := transactionDate
    accountingDate := accountingDate
    sourcePayloadHash := str (field members "source_payload_hash")
    sourceEventReferences := sourceEventReferences.map str
    lines := lines })

/-- `_published_proposal_status`. -/
def publishedProposalStatus (members : Members) : IngestResult String :=
  match lookup? members "proposal_status" with
  | some status => .ok (str status)
  | none =>
    match lookup? members "proposal_status_code" with
    | some _ => .error (invalid ("published field is proposal_status, not proposal_status_code. " ++
        "Map the Billing contract field, then retry ingest."))
    | none => .error (invalid ("proposal_status is required. Supply the Billing published proposal_status, " ++
        "then retry ingest."))

/-- `payload.get("journal_proposal_outcome_code") == "rejected"`, or a reason is there. -/
def isRejectRow (members : Members) : Bool :=
  (match lookup? members "journal_proposal_outcome_code" with
    | some (.text code) => code = "rejected"
    | _ => false) || (lookup? members "rejection_reason_code").isSome

/-- `ingest_journal_proposal`. -/
def ingestJournalProposal (payload : Json) : IngestResult JournalProposal :=
  match payload with
  | .object members => do
    require (isRejectRow members = false)
      (invalid ("Billing operational reject rows are not schema-valid journal proposals. " ++
        "Correct the invoice draft or tenant named in rejection_reason_code, " ++
        "then retry propose_journal; do not ingest the reject row."))
    let proposalStatus ← publishedProposalStatus str members
    if proposalStatus = "validated" ∨ proposalStatus = "exported" then
      journalProposalFromContract str members
    else if proposalStatus = "draft" ∨ proposalStatus = "rejected" then
      .error (invalid ("proposal_status " ++ proposalStatus ++ " is not ingestible. " ++
        "Ask Billing to emit a validated proposal, then retry ingest."))
    else if proposalStatus = "posted" then
      .error (invalid ("proposal_status posted is not a Billing proposal state. " ++
        "Wait for the AIS posting_receipt; do not expect Billing to flip the proposal to posted."))
    else
      .error (invalid ("proposal_status " ++ proposalStatus ++ " is not ingestible. " ++
        "Supply validated or exported, then retry ingest."))
  | _ => .error (invalid ("journal proposal payload must be a JSON object. " ++
      "Supply a Billing accounting_journal_proposal, then retry ingest."))

/-! ## What an accepted payload keeps -/

/-- The amount of a canonical text, zero only as `0`. -/
def AmountKept (value : Json) (amount : ℕ) : Prop :=
  ∃ text, value = .text text ∧ matchesDecimal text = true ∧ decimalMillionths text = amount ∧
    (amount = 0 → text = "0")

structure LineKept (members : Members) (line : JournalLineProposal) : Prop where
  lineNumber : field members "line_number" = .int line.lineNumber
  accountRoleCode : str (field members "account_role_code") = line.accountRoleCode
  not_reserved : line.accountRoleCode ≠ "retained_earnings"
  debitAmount : AmountKept (field members "debit_amount") line.debitAmount
  creditAmount : AmountKept (field members "credit_amount") line.creditAmount

/-- The items of the array and the lines, in order. -/
def LinesKept (items : List Json) (lines : List JournalLineProposal) : Prop :=
  List.Forall₂ (fun item line => ∃ members, item = .object members ∧ LineKept str members line) items lines

structure ProposalKept (members : Members) (proposal : JournalProposal) : Prop where
  status : str (field members "proposal_status") = "validated" ∨
    str (field members "proposal_status") = "exported"
  proposalId : str (field members "proposal_id") = proposal.proposalId
  version : field members "proposal_contract_version" = .int proposal.proposalContractVersion
  idempotencyKey : str (field members "idempotency_key") = proposal.idempotencyKey
  tenantReference : str (field members "tenant_reference") = proposal.tenantReference
  legalEntityReference : str (field members "legal_entity_reference") = proposal.legalEntityReference
  bookRole : str (field members "intended_book_role_code") = proposal.intendedBookRoleCode
  currency : str (field members "transaction_currency") = proposal.transactionCurrency
  transactionDate : ∃ text, field members "transaction_date" = .text text ∧
    dateFromIsoformat text = some proposal.transactionDate
  accountingDate : ∃ text, field members "accounting_date" = .text text ∧
    dateFromIsoformat text = some proposal.accountingDate
  payloadHash : str (field members "source_payload_hash") = proposal.sourcePayloadHash
  references : ∃ items, field members "source_event_references" = .list items ∧
    items.map str = proposal.sourceEventReferences
  lines : ∃ items, field members "lines" = .list items ∧ LinesKept str items proposal.lines

variable {str}

theorem ofResult_eq_ok {α : Type} {result : Result α} {a : α} : ofResult result = .ok a ↔ result = .ok a := by
  cases result with
  | error e =>
    constructor
    · intro h
      cases h
    · intro h
      cases h
  | ok b => exact ⟨fun h => congrArg _ (Except.ok.inj h), fun h => congrArg _ (Except.ok.inj h)⟩

theorem ofResult_eq_error {α : Type} {result : Result α} {e : IngestError} :
    ofResult result = .error e ↔ ∃ error, result = .error error ∧ e = .ledger error := by
  cases result with
  | error e' =>
    constructor
    · intro h
      exact ⟨e', rfl, (Except.error.inj h).symm⟩
    · rintro ⟨error, h, rfl⟩
      rw [Except.error.inj h]
      rfl
  | ok b =>
    constructor
    · intro h
      cases h
    · rintro ⟨error, h, -⟩
      cases h

theorem requireContractInt_eq_ok {value : Json} {fieldName : String} {n : ℤ}
    (h : requireContractInt value fieldName = .ok n) : value = .int n := by
  cases value with
  | int m => exact congrArg _ (Except.ok.inj h)
  | _ => cases h

theorem requireIsoDate_eq_ok {value : Json} {fieldName : String} {date : Date}
    (h : requireIsoDate value fieldName = .ok date) :
    ∃ text, value = .text text ∧ dateFromIsoformat text = some date := by
  cases value with
  | text text => exact ⟨text, rfl, fetch_eq_ok.mp h⟩
  | _ => cases h

theorem requireItems_eq_ok {value : Json} {message : String} {items : List Json}
    (h : requireItems value message = .ok items) : value = .list items := by
  cases value with
  | list items' => exact congrArg _ (Except.ok.inj h)
  | _ => cases h

/-- A text goes through as it is, zero only as `0`. -/
theorem requireAmountString_eq_ok {value : Json} {fieldName text : String}
    (h : requireAmountString value fieldName = .ok text) :
    value = .text text ∧ (decimalForm text = some .zero → text = "0") := by
  cases value with
  | text text' =>
    unfold requireAmountString at h
    cases hform : decimalForm text' with
    | none =>
      simp only [hform, Except.ok.injEq] at h
      subst h
      exact ⟨rfl, fun hzero => by rw [hform] at hzero; cases hzero⟩
    | some form =>
      cases form with
      | zero =>
        simp only [hform, bind_eq_ok, require_eq_ok, pure_eq_ok] at h
        obtain ⟨-, hcanonical, rfl⟩ := h
        exact ⟨rfl, fun _ => hcanonical⟩
      | signaling =>
        simp only [hform] at h
        cases h
      | other =>
        simp only [hform, Except.ok.injEq] at h
        subst h
        exact ⟨rfl, fun hzero => by rw [hform] at hzero; cases hzero⟩
  | _ => cases h

theorem build_line_ok {lineNumber : ℤ} {accountRoleCode debitAmount creditAmount : String}
    {line : JournalLineProposal}
    (h : JournalLineProposal.build lineNumber accountRoleCode debitAmount creditAmount = .ok line) :
    lineNumber = line.lineNumber ∧ accountRoleCode = line.accountRoleCode ∧
      parseAmount debitAmount = .ok line.debitAmount ∧ parseAmount creditAmount = .ok line.creditAmount := by
  unfold JournalLineProposal.build at h
  split at h
  · cases h
  · next hpos =>
    split at h
    · simp only [bind_eq_ok] at h
      obtain ⟨debit, hdebit, credit, hcredit, h⟩ := h
      split at h
      · cases h
      · obtain rfl := Except.ok.inj h
        refine ⟨?_, rfl, hdebit, hcredit⟩
        show lineNumber = (lineNumber.toNat : ℤ)
        omega
    · cases h

theorem parseAmount_eq_ok {text : String} {amount : ℕ} (h : parseAmount text = .ok amount) :
    matchesDecimal text = true ∧ decimalMillionths text = amount := by
  simp only [parseAmount, bind_eq_ok, require_eq_ok, pure_eq_ok] at h
  obtain ⟨-, hmatches, hamount⟩ := h
  exact ⟨hmatches, hamount⟩

theorem amountKept_of_ok {value : Json} {fieldName text : String} {amount : ℕ}
    (h : requireAmountString value fieldName = .ok text) (hamount : parseAmount text = .ok amount) :
    AmountKept value amount := by
  obtain ⟨hvalue, hcanonical⟩ := requireAmountString_eq_ok h
  obtain ⟨hmatches, hmillionths⟩ := parseAmount_eq_ok hamount
  refine ⟨text, hvalue, hmatches, hmillionths, fun hzero => hcanonical ?_⟩
  rw [decimalForm_of_matches hmatches, if_pos (hmillionths.trans hzero)]

theorem lineKept_of_ok {item : Json} {line : JournalLineProposal}
    (h : journalLineFromContract str item = .ok line) :
    ∃ members, item = .object members ∧ LineKept str members line := by
  cases item with
  | object members =>
    simp only [journalLineFromContract, bind_eq_ok, require_eq_ok, ofResult_eq_ok] at h
    obtain ⟨-, -, -, hreserved, n, hnumber, debit, hdebit, credit, hcredit, hbuild⟩ := h
    obtain ⟨hn, hrole, hd, hc⟩ := build_line_ok hbuild
    refine ⟨members, rfl, ⟨?_, hrole, ?_, amountKept_of_ok hdebit hd, amountKept_of_ok hcredit hc⟩⟩
    · rw [requireContractInt_eq_ok hnumber, hn]
    · rw [← hrole]
      exact hreserved
  | _ => cases h

theorem linesKept_of_ok {items : List Json} {lines : List JournalLineProposal}
    (h : tryMap (journalLineFromContract str) items = .ok lines) : LinesKept str items lines :=
  (tryMap_ok h).imp fun _ _ hline => lineKept_of_ok hline

theorem build_proposal_ok {f : JournalProposalFields} {proposal : JournalProposal}
    (h : JournalProposal.build f = .ok proposal) : proposal.toJournalProposalFields = f := by
  unfold JournalProposal.build at h
  split at h
  · rw [← Except.ok.inj h]
  · cases h

theorem proposalKept_of_ok {members : Members} {proposal : JournalProposal}
    (hstatus : str (field members "proposal_status") = "validated" ∨
      str (field members "proposal_status") = "exported")
    (h : journalProposalFromContract str members = .ok proposal) : ProposalKept str members proposal := by
  simp only [journalProposalFromContract, bind_eq_ok, ofResult_eq_ok] at h
  obtain ⟨-, -, references, hreferences, items, hitems, version, hversion, transactionDate, htransaction,
    accountingDate, haccounting, lines, hlines, hbuild⟩ := h
  have hfields := build_proposal_ok hbuild
  exact {
    status := hstatus
    proposalId := by rw [hfields]
    version := by rw [hfields]; exact requireContractInt_eq_ok hversion
    idempotencyKey := by rw [hfields]
    tenantReference := by rw [hfields]
    legalEntityReference := by rw [hfields]
    bookRole := by rw [hfields]
    currency := by rw [hfields]
    transactionDate := by rw [hfields]; exact requireIsoDate_eq_ok htransaction
    accountingDate := by rw [hfields]; exact requireIsoDate_eq_ok haccounting
    payloadHash := by rw [hfields]
    references := by rw [hfields]; exact ⟨references, requireItems_eq_ok hreferences, rfl⟩
    lines := by rw [hfields]; exact ⟨items, requireItems_eq_ok hitems, linesKept_of_ok hlines⟩ }

theorem ingest_kept {payload : Json} {proposal : JournalProposal}
    (h : ingestJournalProposal str payload = .ok proposal) :
    ∃ members, payload = .object members ∧ ProposalKept str members proposal := by
  cases payload with
  | object members =>
    simp only [ingestJournalProposal, bind_eq_ok] at h
    obtain ⟨-, -, status, hstatus, h⟩ := h
    split_ifs at h with hingestible
    refine ⟨members, rfl, proposalKept_of_ok ?_ h⟩
    unfold publishedProposalStatus at hstatus
    split at hstatus
    · next value hvalue =>
      rw [field, hvalue, Option.getD_some]
      rw [← Except.ok.inj hstatus] at hingestible
      exact hingestible
    · split at hstatus
      · cases hstatus
      · cases hstatus
  | _ => cases h

/-! ## Where errors come from -/

def IngestError.isValidation : IngestError → Prop
  | .ledger error => error.isAccountingValidation
  | .invalidOperation => False

/-- The text of a signaling NaN. -/
def Signals (value : Json) : Prop := ∃ text, value = .text text ∧ decimalForm text = some .signaling

/-- A line with the text of a signaling NaN as an amount. -/
def SignalsAmount (item : Json) : Prop :=
  ∃ members, item = .object members ∧
    (Signals (field members "debit_amount") ∨ Signals (field members "credit_amount"))

/-- Sums beyond the exponents of the decimal context. -/
def Overflows (lines : List JournalLineProposal) : Prop :=
  ¬(Accept.WithinEmax 0 (debitAmounts lines) ∧ Accept.WithinEmax 0 (creditAmounts lines))

variable (str) in
/-- What can escape from ingest beside a validation error. -/
def Escapes (members : Members) (e : IngestError) : Prop :=
  ∃ items, field members "lines" = .list items ∧
    ((e = .invalidOperation ∧ ∃ item ∈ items, SignalsAmount item) ∨
      (e = .ledger .decimalOverflow ∧ ∃ lines, LinesKept str items lines ∧ Overflows lines))

theorem raises_ofResult {α : Type} {P : IngestError → Prop} {result : Result α}
    (h : Raises (fun e => P (.ledger e)) result) : Raises P (ofResult result) := by
  intro e he
  obtain ⟨error, herror, rfl⟩ := ofResult_eq_error.mp he
  exact h error herror

theorem raises_tryMap_mem {α β ε : Type} {P : ε → Prop} {f : α → Except ε β} {as : List α}
    (h : ∀ a ∈ as, Raises P (f a)) : Raises P (tryMap f as) := by
  induction as with
  | nil => exact raises_ok _
  | cons a as ih =>
    refine raises_bind (h a List.mem_cons_self) fun b _ => ?_
    exact raises_bind (ih fun a' ha' => h a' (List.mem_cons_of_mem a ha')) fun bs _ => raises_pure _

section
variable {P : IngestError → Prop} (hP : ∀ message, P (invalid message))
include hP

theorem raises_requireFields (names : List String) (members : Members) :
    Raises P (requireFields names members) :=
  raises_bind (raises_tryMap (fun _ => raises_require (hP _)) names) fun _ _ => raises_pure _

theorem raises_requireContractInt (value : Json) (fieldName : String) :
    Raises P (requireContractInt value fieldName) := by
  cases value with
  | int n => exact raises_ok n
  | _ => exact raises_error (hP _)

theorem raises_requireIsoDate (value : Json) (fieldName : String) :
    Raises P (requireIsoDate value fieldName) := by
  cases value with
  | text text => exact raises_fetch (hP _)
  | _ => exact raises_error (hP _)

theorem raises_requireItems (value : Json) (message : String) : Raises P (requireItems value message) := by
  cases value with
  | list items => exact raises_ok items
  | _ => exact raises_error (hP _)

theorem raises_requireAmountString (value : Json) (fieldName : String)
    (hsignal : Signals value → P .invalidOperation) : Raises P (requireAmountString value fieldName) := by
  cases value with
  | text text =>
    unfold requireAmountString
    dsimp only
    cases hform : decimalForm text with
    | none => exact raises_ok text
    | some form =>
      cases form with
      | zero => exact raises_bind (raises_require (hP _)) fun _ _ => raises_pure _
      | signaling => exact raises_error (hsignal ⟨text, rfl, hform⟩)
      | other => exact raises_ok text
  | _ => exact raises_error (hP _)

end

theorem raises_buildLine (lineNumber : ℤ) (accountRoleCode debitAmount creditAmount : String) :
    Raises LedgerError.isAccountingValidation
      (JournalLineProposal.build lineNumber accountRoleCode debitAmount creditAmount) := by
  have hparse : ∀ text, Raises LedgerError.isAccountingValidation (parseAmount text) :=
    fun text => raises_bind (raises_require trivial) fun _ _ => raises_pure _
  unfold JournalLineProposal.build
  split
  · exact raises_error trivial
  · split
    · refine raises_bind (hparse debitAmount) fun debit _ => ?_
      refine raises_bind (hparse creditAmount) fun credit _ => ?_
      split
      · exact raises_error trivial
      · exact raises_pure _
    · exact raises_error trivial

theorem raises_requireProposalShape (f : JournalProposalFields) :
    Raises LedgerError.isAccountingValidation (requireProposalShape f) := by
  have hid : Raises LedgerError.isAccountingValidation (requireProposalId f.proposalId) :=
    raises_bind (raises_require trivial) fun _ _ => raises_pure _
  have hreference : ∀ value label, Raises LedgerError.isAccountingValidation (requireReference value label) :=
    fun _ _ => raises_require trivial
  refine raises_bind (raises_require trivial) fun _ _ => raises_bind hid fun _ _ => ?_
  refine raises_bind (raises_require trivial) fun _ _ => raises_bind (hreference _ _) fun _ _ => ?_
  refine raises_bind (hreference _ _) fun _ _ => raises_bind (raises_require trivial) fun _ _ => ?_
  refine raises_bind (raises_require trivial) fun _ _ => raises_bind (raises_require trivial) fun _ _ => ?_
  refine raises_bind (raises_require trivial) fun _ _ => ?_
  refine raises_bind (raises_tryMap (fun _ => hreference _ _) _) fun _ _ => ?_
  exact raises_bind (raises_require trivial) fun _ _ => raises_require trivial

/-- A proposal is refused by a check, or its sums overflow. -/
theorem raises_buildProposal (f : JournalProposalFields) :
    Raises (fun e => e.isAccountingValidation ∨ (e = .decimalOverflow ∧ Overflows f.lines))
      (JournalProposal.build f) := by
  have hbalanced : Raises (fun e => e.isAccountingValidation ∨ (e = .decimalOverflow ∧ Overflows f.lines))
      (requireBalanced f.lines) := by
    by_cases hdebit : Accept.WithinEmax 0 (debitAmounts f.lines)
    · by_cases hcredit : Accept.WithinEmax 0 (creditAmounts f.lines)
      · rw [requireBalanced, Accept.contextSum_of_withinEmax hdebit,
          Accept.contextSum_of_withinEmax hcredit]
        exact raises_require (Or.inl trivial)
      · rw [requireBalanced, Accept.contextSum_of_withinEmax hdebit,
          Accept.contextSum_of_overflow hcredit]
        exact raises_error (Or.inr ⟨rfl, fun hwithin => hcredit hwithin.2⟩)
    · rw [requireBalanced, Accept.contextSum_of_overflow hdebit]
      exact raises_error (Or.inr ⟨rfl, fun hwithin => hdebit hwithin.1⟩)
  have hinit : Raises (fun e => e.isAccountingValidation ∨ (e = .decimalOverflow ∧ Overflows f.lines))
      f.postInit :=
    raises_bind (fun e he => Or.inl (raises_requireProposalShape f e he)) fun _ _ => hbalanced
  intro e he
  unfold JournalProposal.build at he
  split at he
  · cases he
  · next herror =>
    rw [← Except.error.inj he]
    exact hinit _ herror

theorem raises_journalLineFromContract (item : Json) :
    Raises (fun e => e.isValidation ∨ (e = .invalidOperation ∧ SignalsAmount item))
      (journalLineFromContract str item) := by
  cases item with
  | object members =>
    have hP : ∀ message, (invalid message).isValidation ∨
        (invalid message = .invalidOperation ∧ SignalsAmount (.object members)) :=
      fun _ => Or.inl trivial
    refine raises_bind (raises_requireFields hP _ _) fun _ _ => raises_bind (raises_require (hP _)) fun _ _ => ?_
    refine raises_bind (raises_requireContractInt hP _ _) fun _ _ => ?_
    refine raises_bind (raises_requireAmountString hP _ _ fun hsignal => ?_) fun _ _ => ?_
    · exact Or.inr ⟨rfl, members, rfl, Or.inl hsignal⟩
    refine raises_bind (raises_requireAmountString hP _ _ fun hsignal => ?_) fun _ _ => ?_
    · exact Or.inr ⟨rfl, members, rfl, Or.inr hsignal⟩
    exact raises_ofResult fun e he => Or.inl (raises_buildLine _ _ _ _ e he)
  | _ => exact raises_error (Or.inl trivial)

theorem raises_journalProposalFromContract (members : Members) :
    Raises (fun e => e.isValidation ∨ Escapes str members e) (journalProposalFromContract str members) := by
  have hP : ∀ message, (invalid message).isValidation ∨ Escapes str members (invalid message) :=
    fun _ => Or.inl trivial
  refine raises_bind (raises_requireFields hP _ _) fun _ _ => raises_bind (raises_requireItems hP _ _) fun _ _ => ?_
  refine raises_bind (raises_requireItems hP _ _) fun items hitems => ?_
  have hlist := requireItems_eq_ok hitems
  refine raises_bind (raises_requireContractInt hP _ _) fun _ _ => raises_bind (raises_requireIsoDate hP _ _) fun _ _ => ?_
  refine raises_bind (raises_requireIsoDate hP _ _) fun _ _ => raises_bind ?_ fun lines hlines => ?_
  · refine raises_tryMap_mem fun item hitem e he => ?_
    rcases raises_journalLineFromContract item e he with hvalid | ⟨rfl, hsignal⟩
    · exact Or.inl hvalid
    · exact Or.inr ⟨items, hlist, Or.inl ⟨rfl, item, hitem, hsignal⟩⟩
  · refine raises_ofResult fun e he => ?_
    rcases raises_buildProposal _ e he with hvalid | ⟨rfl, hover⟩
    · exact Or.inl hvalid
    · exact Or.inr ⟨items, hlist, Or.inr ⟨rfl, lines, linesKept_of_ok hlines, hover⟩⟩

theorem raises_ingest (members : Members) :
    Raises (fun e => e.isValidation ∨ Escapes str members e) (ingestJournalProposal str (.object members)) := by
  have hstatus : Raises (fun e => e.isValidation ∨ Escapes str members e)
      (publishedProposalStatus str members) := by
    unfold publishedProposalStatus
    split
    · exact raises_ok _
    · split
      · exact raises_error (Or.inl trivial)
      · exact raises_error (Or.inl trivial)
  refine raises_bind (raises_require (Or.inl trivial)) fun _ _ => raises_bind hstatus fun status _ => ?_
  split_ifs
  · exact raises_journalProposalFromContract members
  · exact raises_error (Or.inl trivial)
  · exact raises_error (Or.inl trivial)
  · exact raises_error (Or.inl trivial)

variable (str) in
/-- Whatever the payload is, an accepted proposal keeps it field by field and line by line, its
    amounts exactly and in canonical form; and beside a validation error nothing escapes but the
    signal of an `sNaN` amount and the overflow of a sum. -/
theorem ingest_faithful (payload : Json) :
    (∀ proposal, ingestJournalProposal str payload = .ok proposal →
      ∃ members, payload = .object members ∧ ProposalKept str members proposal) ∧
    (∀ e, ingestJournalProposal str payload = .error e →
      e.isValidation ∨ ∃ members, payload = .object members ∧ Escapes str members e) := by
  refine ⟨fun proposal h => ingest_kept h, fun e he => ?_⟩
  cases payload with
  | object members =>
    rcases raises_ingest members e he with hvalid | hescapes
    · exact Or.inl hvalid
    · exact Or.inr ⟨members, rfl, hescapes⟩
  | _ =>
    rw [← Except.error.inj he]
    exact Or.inl trivial

end AccountingPlatform.Ingest
