/-
  The commands of the ledger and its runs.

  A command either commits the tables it returns, and the clock has moved on, or raises and
  leaves the tables as they were. A state is reachable when some sequence of commands leads to
  it from the empty tables.
-/
import AccountingPlatform.Postgres.Closing

namespace AccountingPlatform.Postgres

open AccountingPlatform.Lib AccountingPlatform.Core

open PostingLedger (ReversalRequest)

variable (dep : Deployment)

/-! ## Commands -/

inductive Command
  | openFiscalPeriod (request : PeriodOpenRequest)
  | post (proposal : JournalProposal) (policy : AccountingPolicy)
  | postProposal (proposal : JournalProposal)
  | postAdjustingJournal (request : AdjustingRequest)
  | reverse (request : ReversalRequest) (policy : AccountingPolicy)
  | closeFiscalPeriod (request : CloseRequest)

/-- The tables a command leaves behind if it does not raise. -/
def attempt (t : Tables) : Command → Result Tables
  | .openFiscalPeriod request => (openFiscalPeriod dep t request).map Prod.snd
  | .post proposal policy => (post dep t proposal policy).map Prod.snd
  | .postProposal proposal => (postProposal dep t proposal).map Prod.snd
  | .postAdjustingJournal request => postAdjustingJournal dep t request
  | .reverse request policy => (reverse dep t request policy).map Prod.snd
  | .closeFiscalPeriod request => (closeFiscalPeriod dep t request).map Prod.snd

/-- Commit or roll back. -/
def execute (t : Tables) (command : Command) : Tables :=
  match attempt dep t command with
  | .ok t' => { t' with clock := t'.clock + 1 }
  | .error _ => t

/-- The tables after a sequence of commands. -/
def ledgerAfter (commands : List Command) : Tables := run (execute dep) Tables.empty commands

theorem execute_of_ok {t t' : Tables} {command : Command} (h : attempt dep t command = .ok t') :
    execute dep t command = { t' with clock := t'.clock + 1 } := by
  simp [execute, h]

theorem execute_of_error {t : Tables} {command : Command} {e : LedgerError}
    (h : attempt dep t command = .error e) : execute dep t command = t := by
  simp [execute, h]

theorem ledgerAfter_concat (commands : List Command) (command : Command) :
    ledgerAfter dep (commands ++ [command]) = execute dep (ledgerAfter dep commands) command :=
  run_concat (execute dep) Tables.empty commands command

theorem ledgerAfter_append (commands later : List Command) :
    ledgerAfter dep (commands ++ later) = run (execute dep) (ledgerAfter dep commands) later :=
  run_append (execute dep) Tables.empty commands later

/-! ## A deployment with one book -/

def sampleAccounts (bookId : ℕ) : List ChartAccount := [
  ⟨10 * bookId + 1, bookId, "110100", .asset, true⟩,
  ⟨10 * bookId + 2, bookId, "210100", .liability, true⟩,
  ⟨10 * bookId + 3, bookId, "210200", .liability, true⟩,
  ⟨10 * bookId + 4, bookId, "310100", .equity, true⟩,
  ⟨10 * bookId + 5, bookId, "410100", .revenue, true⟩,
  ⟨10 * bookId + 6, bookId, "510100", .expense, true⟩]

def sampleMappings (bookId : ℕ) : List AccountRoleMapping := [
  ⟨bookId, "accounts_receivable", 10 * bookId + 1, "v1", "v1", 0, none⟩,
  ⟨bookId, "tax_payable", 10 * bookId + 2, "v1", "v1", 0, none⟩,
  ⟨bookId, "unapplied_cash", 10 * bookId + 3, "v1", "v1", 0, none⟩,
  ⟨bookId, "retained_earnings", 10 * bookId + 4, "v1", "v1", 0, none⟩,
  ⟨bookId, "usage_revenue", 10 * bookId + 5, "v1", "v1", 0, none⟩,
  ⟨bookId, "write_off_expense", 10 * bookId + 6, "v1", "v1", 0, none⟩]

def sampleEntity : LegalEntityRecord := ⟨1, "urn:cwl:legal_entity:e1", "KRW", true⟩

def sampleBook : AccountingBook := ⟨1, 1, "primary_ledger", "urn:cwl:book:b1", "KRW", true⟩

def sampleCatalog : Catalog where
  tenantReference := "urn:cwl:tenant:t1"
  legalEntities := [sampleEntity]
  books := [sampleBook]
  chartAccounts := sampleAccounts 1
  roleMappings := sampleMappings 1
  calendars := [⟨1, "main"⟩]
  legalEntity_key := by decide
  book_key := by decide
  chartAccount_key := by decide
  book_entity := by decide

def textCodes (text : String) : List ℕ := text.toList.map Char.toNat ++ [0]

/-- The data of a payload, field after field. -/
def payloadCodes : DigestPayload → List ℕ
  | .reversalCommand p => 1 :: textCodes p.tenantReference ++ textCodes p.reversalIdempotencyKey ++
      textCodes p.originalJournalReference ++ p.reversalDate :: textCodes p.reversalReasonCode
  | .receipt journal lineCount status reference original hash proposal =>
      2 :: textCodes journal ++ lineCount :: textCodes status ++ textCodes reference ++
        textCodes (original.getD "") ++ textCodes hash ++ textCodes proposal
  | .snapshot book entity lines period currency count tenant =>
      3 :: textCodes book ++ textCodes entity ++
        lines.flatMap (fun line => textCodes line.1 ++ [line.2.1, line.2.2.1]) ++
        textCodes period ++ textCodes currency ++ count :: textCodes tenant
  | .closing book entity lines period tenant =>
      4 :: textCodes book ++ textCodes entity ++
        lines.flatMap (fun line => textCodes line.chartAccountCode ++
          [line.lineNumber, line.debitAmount, line.creditAmount]) ++
        textCodes period ++ textCodes tenant

def lowerHexDigit (n : ℕ) : Char := if n % 16 < 10 then Char.ofNat (48 + n % 16) else Char.ofNat (87 + n % 16)

/-- A digest of the right form for a deployment that can be evaluated. -/
def sampleDigest (payload : DigestPayload) : String :=
  let code := (payloadCodes payload).foldl (fun n d => (n * 1000003 + d + 1) % 16 ^ 64) 7
  String.ofList ("sha256:".toList ++ (List.range 64).map fun i => lowerHexDigit (code / 16 ^ i))

theorem lowerHexDigit_isLowerHex (n : ℕ) : isLowerHex (lowerHexDigit n) = true := by
  have h : ∀ d < 16, isLowerHex (lowerHexDigit d) = true := by decide
  have hmod : lowerHexDigit n = lowerHexDigit (n % 16) := by simp [lowerHexDigit]
  rw [hmod]
  exact h _ (Nat.mod_lt _ (by decide))

theorem matchesHash_of_digits {digits : List Char} (hlength : digits.length = 64)
    (hhex : digits.all isLowerHex = true) :
    matchesHash (String.ofList ("sha256:".toList ++ digits)) = true := by
  have hinitial : "sha256:".toList.length = 7 := by decide +kernel
  rw [matchesHash, String.toList_ofList, List.take_left' hinitial, List.drop_left' hinitial, hlength, hhex]
  simp only [beq_self_eq_true, Bool.and_self]

theorem sampleDigest_matches (payload : DigestPayload) : matchesHash (sampleDigest payload) = true := by
  refine matchesHash_of_digits (by simp only [List.length_map, List.length_range]) ?_
  simp only [List.all_map, List.all_eq_true, Function.comp_apply]
  exact fun i _ => lowerHexDigit_isLowerHex _

/-- Rows in insertion order, byte-wise collation. -/
def sampleDeployment (catalog : Catalog) : Deployment where
  catalog := catalog
  rowOrder := fun rows => rows
  rowOrder_perm := fun _ => List.Perm.refl _
  collation := fun a b => decide (a ≤ b)
  digest := sampleDigest
  digest_matches := sampleDigest_matches
  uuidText := fun n => "00000000-0000-4000-8000-" ++ String.ofList ((List.range 12).reverse.map
    fun i => lowerHexDigit (n / 16 ^ i))
  isClosingWriter := true

def samplePeriod (periodCode key : String) (start finish : Date) : Command :=
  .openFiscalPeriod ⟨"urn:cwl:legal_entity:e1", periodCode, some start, some finish, key,
    "sha256:0000000000000000000000000000000000000000000000000000000000000000"⟩

/-- The row of a period that was opened. -/
def openMonth (id : ℕ) (periodCode : String) (start finish : Date) (h : start ≤ finish) :
    FiscalPeriod :=
  ⟨id, 1, periodCode, start, finish, .opened, none, h⟩

/-- An invoice on `110100` and `410100`, entered as an adjusting journal. -/
def sampleInvoice (bookReference periodCode proposalId key : String) (date : Date) (amount : ℕ) :
    Command :=
  .postAdjustingJournal ⟨"urn:cwl:legal_entity:e1", bookReference, periodCode, date, key,
    "sha256:0000000000000000000000000000000000000000000000000000000000000000", proposalId, "KRW",
    [⟨1, "110100", "accounts_receivable", amount, 0⟩, ⟨2, "410100", "usage_revenue", 0, amount⟩]⟩

def sampleClose (bookReference periodCode periodStatusCode : String) : Command :=
  .closeFiscalPeriod ⟨"urn:cwl:legal_entity:e1", bookReference, periodCode, "KRW", periodStatusCode, ""⟩

/-- One unit invoiced to the sample entity. -/
def invoiceFields (proposalId key : String) (date : Date) : JournalProposalFields where
  proposalId := proposalId
  proposalContractVersion := 1
  idempotencyKey := key
  tenantReference := "urn:cwl:tenant:t1"
  legalEntityReference := "urn:cwl:legal_entity:e1"
  intendedBookRoleCode := "primary_ledger"
  transactionCurrency := "KRW"
  transactionDate := date
  accountingDate := date
  sourcePayloadHash := "sha256:0000000000000000000000000000000000000000000000000000000000000000"
  sourceEventReferences := ["urn:cwl:event:1"]
  lines := invoiceLines 1000000 oneUnit_pos

theorem debitLine_oneSided : ¬((0 < 1000000) ↔ (0 < 0)) := by decide

theorem creditLine_oneSided : ¬((0 < 0) ↔ (0 < 1000000)) := by decide

/-- One unit from a credit role to a debit role. -/
def unitFields (key debitRole creditRole : String) (hdebit : matchesCode debitRole = true)
    (hcredit : matchesCode creditRole = true) : JournalProposalFields :=
  { invoiceFields "0f8fad5b-d9cb-469f-a165-70867728950e" key 738890 with
    lines := [
      ⟨1, debitRole, 1000000, 0, firstLine_pos, hdebit, debitLine_oneSided⟩,
      ⟨2, creditRole, 0, 1000000, secondLine_pos, hcredit, creditLine_oneSided⟩] }

/-- A policy over the sample book for 2024, which maps no role. -/
def samplePolicy : AccountingPolicy where
  tenantReference := "urn:cwl:tenant:t1"
  legalEntityReference := "urn:cwl:legal_entity:e1"
  accountingBookReference := "urn:cwl:book:b1"
  intendedBookRoleCode := "primary_ledger"
  transactionCurrency := "KRW"
  functionalCurrency := "KRW"
  openPeriodStart := 738886
  openPeriodEnd := 739251
  chartAccountMapping := Dict.empty
  accountingPolicyVersion := "v1"
  postingRuleVersion := "v1"
  accepted := by decide +kernel

/-- A reversal of the journal of a proposal. -/
def sampleReversal (proposalId : String) (date : Date) (key : Option String) : ReversalRequest :=
  ⟨PostingLedger.generalJournalReference proposalId, date, "billing_error", key⟩

end AccountingPlatform.Postgres
