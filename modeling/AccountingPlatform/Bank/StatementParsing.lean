/-
  Parsing of a camt.053.001.14 statement (`parse_bank_statement_payload`).

  SHA-256 over bytes and expat are parameters: `sha256` and what expat delivers for the payload.
  The pinned package files are taken to be unchanged, so that `load_adapter_manifest` passes.
  Amounts are millionths of a unit, timestamps microseconds in UTC.
-/
import AccountingPlatform.Bank.Matching
import AccountingPlatform.Bank.StatementXml
import AccountingPlatform.Core.IsoFormat
import AccountingPlatform.Lib.JsonTree
import Mathlib.Data.List.DropRight

namespace AccountingPlatform.Bank.Camt

open AccountingPlatform.Lib AccountingPlatform.Lib.Xml AccountingPlatform.Core
  AccountingPlatform.Postgres

open Json (Tree)

/-! ## Statements -/

structure NormalizedEntryDetail where
  detailSequenceNumber : ℕ
  sourceLocatorPath : String
  detailAmount : ℕ
  detailCurrencyCode : String
  creditDebitCode : CreditDebitCode
  endToEndReference : Option String
  accountServicerReference : Option String
  remittanceEvidenceText : Option String
  sourceDetailHash : String
  deriving DecidableEq

structure NormalizedStatementEntry where
  sourceEntryIdentity : Option String
  entrySequenceNumber : ℕ
  sourceLocatorPath : String
  bookingOccurredAt : Option Timestamp
  valueOccurredAt : Option Timestamp
  entryAmount : ℕ
  entryCurrencyCode : String
  creditDebitCode : CreditDebitCode
  reversalIndicator : Bool
  bankTransactionDomainCode : Option String
  bankTransactionFamilyCode : Option String
  bankTransactionSubfamilyCode : Option String
  endToEndReference : Option String
  accountServicerReference : Option String
  mandateReference : Option String
  chequeReference : Option String
  remittanceEvidenceText : Option String
  counterpartyEvidenceHash : Option String
  sourceEntryHash : String
  entryDetails : List NormalizedEntryDetail
  deriving DecidableEq

structure NormalizedBankStatement where
  messageDefinitionIdentifier : String
  statementIdentityReference : String
  electronicSequenceNumber : Option String
  legalSequenceNumber : Option String
  periodStartAt : Option Timestamp
  periodEndAt : Option Timestamp
  openingBalanceHash : Option String
  closingBalanceHash : Option String
  accountCurrencyCode : String
  accountIdentifierHash : String
  sourceArtifactHash : String
  normalizedPayloadHash : String
  entries : List NormalizedStatementEntry
  deriving DecidableEq

/-! ## Lookups by local name -/

/-- `_direct_children`. -/
def directChildren (parent : Element) (name : String) : List Element := named name parent.children

/-- `_child_elements`. -/
def childElements (parent : Element) (path : List String) : List Element :=
  path.foldl (fun nodes name => nodes.flatMap fun node => directChildren node name) [parent]

/-- The first child of the first child and so on. -/
def firstNode : List String → Element → Option Element
  | [], node => some node
  | name :: path, node => (directChildren node name).head?.bind (firstNode path)

/-- `text or None`. -/
def textOrNone (text : String) : Option String := if text = "" then none else some text

/-- `_first_text`. -/
def firstText (parent : Element) (path : List String) : Option String :=
  (firstNode path parent).bind fun node => textOrNone (strip node.text)

/-- `_find_path`. -/
def findPath : List String → Element → Option Element
  | [], element => some element
  | [name], element => if element.localName = name then some element else none
  | name :: next :: parts, element =>
    if element.localName = name then element.children.findSome? (findPath (next :: parts)) else none

/-- `_required_child`. -/
def requiredChild (parent : Element) (name label : String) : Result Element :=
  fetch (directChildren parent name).head?
    (.validation (label ++ " is missing. Supply " ++ name ++ ", then retry ingest."))

/-- `_required_text`. -/
def requiredText (parent : Element) (path : List String) (label : String) : Result String :=
  fetch (firstText parent path)
    (.validation (label ++ " is missing. Supply " ++ "/".intercalate path ++ ", then retry ingest."))

/-! ## Values -/

/-- `except AccountingValidationError`, answered with another text. -/
def onValidation {α : Type} (x : Result α) (message : String) : Result α :=
  match x with
  | .error (.validation _) => .error (.validation message)
  | .error (.idempotencyConflict _) => .error (.validation message)
  | result => result

/-- `_amount_from_element`. -/
def amountFromElement (amountNode : Element) (label : String) (allowZero : Bool) :
    Result (ℕ × String) := do
  let currency := (amountNode.attributes.get? "Ccy").getD ""
  onValidation (requireCurrency currency)
    (label ++ " currency is missing or invalid. Supply a three-letter Ccy, then retry ingest.")
  let amount ← onValidation (parseAmount (strip amountNode.text))
    (label ++ " must be an exact decimal with at most six fractional digits. " ++
      "Correct the amount, then retry ingest.")
  require (amount ≠ 0 ∨ allowZero = true)
    (.validation (label ++ " must be greater than zero. Correct the amount, then retry ingest."))
  pure (amount, currency)

/-- `_required_amount`. -/
def requiredAmount (parent : Element) (label : String) (allowZero : Bool) : Result (ℕ × String) := do
  let amountNode ← fetch (directChildren parent "Amt").head?
    (.validation (label ++ " is missing. Supply Amt and Ccy, then retry ingest."))
  amountFromElement amountNode label allowZero

/-- Membership in `{"CRDT", "DBIT"}`. -/
def readCreditDebit (text : String) : Result CreditDebitCode :=
  fetch (if text = "CRDT" then some .crdt else if text = "DBIT" then some .dbit else none)
    (.validation ("credit/debit indicator must be CRDT or DBIT. " ++
      "Correct CdtDbtInd, then retry ingest."))

def creditDebitText : CreditDebitCode → String
  | .crdt => "CRDT"
  | .dbit => "DBIT"

/-- `_parse_reversal`. No other letters than the ASCII ones become those of the four words. -/
def parseReversal (value : Option String) : Result Bool :=
  match value with
  | none => .ok false
  | some text =>
    let lowered := String.ofList ((strip text).toList.map Char.toLower)
    if lowered ∈ ["true", "1"] then .ok true
    else if lowered ∈ ["false", "0"] then .ok false
    else .error (.validation ("reversal indicator must be true or false. " ++
      "Correct RvslInd, then retry ingest."))

def maxRemittanceChars : ℕ := 256

/-- `_bound_text`. -/
def boundText (value : Option String) : Option String :=
  value.map fun text => String.ofList (text.toList.take maxRemittanceChars)

/-- `datetime.fromisoformat(value.replace("Z", "+00:00"))`. -/
def isoTimestamp? (value : String) : Option IsoTimestamp :=
  (datetimeFromIsoformat (replaceText ['Z'] ['+', '0', '0', ':', '0', '0'] value.toList)).map
    fun parsed => ⟨parsed.clock, parsed.utcOffset⟩

/-- `_optional_timestamp`. -/
def optionalTimestamp (value : Option String) : Result (Option Timestamp) :=
  match value with
  | none => .ok none
  | some text => (parseTimestamp (isoTimestamp? text) "statement timestamp").map some

/-- `_decimal_text`: the fraction without trailing zeros. -/
def decimalText (millionths : ℕ) : List Char :=
  let fraction := (padded 6 (millionths % unitScale)).toList.rdropWhile fun c => c == '0'
  Nat.toDigits 10 (millionths / unitScale) ++ if fraction = [] then [] else '.' :: fraction

/-! ## Canonical payloads -/

def textTree (text : String) : Tree := .text text.toList

def optionalText (text : Option String) : Tree := Tree.optional textTree text

def optionalTime (moment : Option Timestamp) : Tree :=
  Tree.optional (fun m => .text (formatTimestamp m)) moment

/-- What the hash of a detail covers. -/
def detailHashPayload (detail : NormalizedEntryDetail) : Tree := Tree.sorted [
  ("locator", textTree detail.sourceLocatorPath),
  ("amount", .text (decimalText detail.detailAmount)),
  ("currency", textTree detail.detailCurrencyCode),
  ("credit_debit", textTree (creditDebitText detail.creditDebitCode)),
  ("end_to_end", optionalText detail.endToEndReference),
  ("remittance", optionalText detail.remittanceEvidenceText)]

/-- A detail within the payload of its entry. -/
def detailPayload (detail : NormalizedEntryDetail) : Tree := Tree.sorted [
  ("detail_sequence_number", .number detail.detailSequenceNumber),
  ("source_locator_path", textTree detail.sourceLocatorPath),
  ("detail_amount", .text (decimalText detail.detailAmount)),
  ("detail_currency_code", textTree detail.detailCurrencyCode),
  ("credit_debit_code", textTree (creditDebitText detail.creditDebitCode)),
  ("end_to_end_reference", optionalText detail.endToEndReference),
  ("remittance_evidence_text", optionalText detail.remittanceEvidenceText)]

/-- `_entry_payload`. -/
def entryPayload (entry : NormalizedStatementEntry) : Tree := Tree.sorted [
  ("source_entry_identity", optionalText entry.sourceEntryIdentity),
  ("entry_sequence_number", .number entry.entrySequenceNumber),
  ("source_locator_path", textTree entry.sourceLocatorPath),
  ("booking_occurred_at", optionalTime entry.bookingOccurredAt),
  ("value_occurred_at", optionalTime entry.valueOccurredAt),
  ("entry_amount", .text (decimalText entry.entryAmount)),
  ("entry_currency_code", textTree entry.entryCurrencyCode),
  ("credit_debit_code", textTree (creditDebitText entry.creditDebitCode)),
  ("reversal_indicator", .flag entry.reversalIndicator),
  ("bank_transaction_domain_code", optionalText entry.bankTransactionDomainCode),
  ("bank_transaction_family_code", optionalText entry.bankTransactionFamilyCode),
  ("bank_transaction_subfamily_code", optionalText entry.bankTransactionSubfamilyCode),
  ("end_to_end_reference", optionalText entry.endToEndReference),
  ("account_servicer_reference", optionalText entry.accountServicerReference),
  ("mandate_reference", optionalText entry.mandateReference),
  ("cheque_reference", optionalText entry.chequeReference),
  ("remittance_evidence_text", optionalText entry.remittanceEvidenceText),
  ("counterparty_evidence_hash", optionalText entry.counterpartyEvidenceHash),
  ("details", .array (entry.entryDetails.map detailPayload))]

/-- `_normalized_payload`. -/
def normalizedPayload (statement : NormalizedBankStatement) : Tree := Tree.sorted [
  ("message_definition_identifier", textTree statement.messageDefinitionIdentifier),
  ("statement_identity_reference", textTree statement.statementIdentityReference),
  ("electronic_sequence_number", optionalText statement.electronicSequenceNumber),
  ("legal_sequence_number", optionalText statement.legalSequenceNumber),
  ("period_start_at", optionalTime statement.periodStartAt),
  ("period_end_at", optionalTime statement.periodEndAt),
  ("opening_balance_hash", optionalText statement.openingBalanceHash),
  ("closing_balance_hash", optionalText statement.closingBalanceHash),
  ("account_currency_code", textTree statement.accountCurrencyCode),
  ("entries", .array (statement.entries.map entryPayload))]

variable (sha256 : ByteArray → String)

/-- `_sha256_digest` of the canonical text of a payload. -/
def payloadHash (payload : Tree) : String := sha256 (String.ofList payload.write).toUTF8

/-! ## Details and entries -/

def entryLocator (sequence : ℕ) : String :=
  "Document/BkToCstmrStmt/Stmt/Ntry[" ++ toString sequence ++ "]"

def detailLocator (entrySequence detailSequence : ℕ) : String :=
  "Document/BkToCstmrStmt/Stmt/Ntry[" ++ toString entrySequence ++ "]/NtryDtls/TxDtls[" ++
    toString detailSequence ++ "]"

/-- The record of a detail. -/
def detailRecord (detailNode : Element) (entrySequence detailSequence : ℕ) (amount : ℕ × String)
    (creditDebitCode : CreditDebitCode) : NormalizedEntryDetail :=
  let detail : NormalizedEntryDetail := {
    detailSequenceNumber := detailSequence
    sourceLocatorPath := detailLocator entrySequence detailSequence
    detailAmount := amount.1
    detailCurrencyCode := amount.2
    creditDebitCode := creditDebitCode
    endToEndReference := firstText detailNode ["Refs", "EndToEndId"]
    accountServicerReference := firstText detailNode ["Refs", "AcctSvcrRef"]
    remittanceEvidenceText := boundText (firstText detailNode ["RmtInf", "Ustrd"])
    sourceDetailHash := "" }
  { detail with sourceDetailHash := payloadHash sha256 (detailHashPayload detail) }

/-- The direction of a detail, or that of its entry. -/
def detailCreditDebit (detailNode : Element) (fallbackCreditDebit : CreditDebitCode) :
    Result CreditDebitCode :=
  match firstText detailNode ["CdtDbtInd"] with
  | none => .ok fallbackCreditDebit
  | some text => readCreditDebit text

/-- `_normalize_detail`. -/
def normalizeDetail (detailNode : Element) (entrySequence detailSequence : ℕ)
    (fallbackCreditDebit : CreditDebitCode) : Result NormalizedEntryDetail := do
  let amountNode ← fetch (findPath ["TxDtls", "AmtDtls", "TxAmt", "Amt"] detailNode)
    (.validation ("transaction detail is missing an exact amount. " ++
      "Supply TxDtls/AmtDtls/TxAmt/Amt, then retry ingest."))
  let amount ← amountFromElement amountNode "TxDtls/AmtDtls/TxAmt/Amt" false
  let creditDebitCode ← detailCreditDebit detailNode fallbackCreditDebit
  pure (detailRecord sha256 detailNode entrySequence detailSequence amount creditDebitCode)

/-- The party on the other side: the payer of a credit, the payee of a debit. -/
def counterparty (creditDebitCode : CreditDebitCode) (debtorName creditorName : Option String) :
    Option String :=
  match creditDebitCode with
  | .crdt => debtorName <|> creditorName
  | .dbit => creditorName <|> debtorName

/-- What an entry reads of its direction, its dates and its reversal indicator. -/
structure EntryReading where
  amount : ℕ × String
  creditDebitCode : CreditDebitCode
  entryDetails : List NormalizedEntryDetail
  bookingOccurredAt : Option Timestamp
  valueOccurredAt : Option Timestamp
  reversalIndicator : Bool

/-- The record of an entry. -/
def entryRecord (entryNode : Element) (sequence : ℕ) (reading : EntryReading) :
    NormalizedStatementEntry :=
  let party := counterparty reading.creditDebitCode
    (firstText entryNode ["NtryDtls", "TxDtls", "RltdPties", "Dbtr", "Pty", "Nm"])
    (firstText entryNode ["NtryDtls", "TxDtls", "RltdPties", "Cdtr", "Pty", "Nm"])
  let entry : NormalizedStatementEntry := {
    sourceEntryIdentity := firstText entryNode ["NtryRef"]
    entrySequenceNumber := sequence
    sourceLocatorPath := entryLocator sequence
    bookingOccurredAt := reading.bookingOccurredAt
    valueOccurredAt := reading.valueOccurredAt
    entryAmount := reading.amount.1
    entryCurrencyCode := reading.amount.2
    creditDebitCode := reading.creditDebitCode
    reversalIndicator := reading.reversalIndicator
    bankTransactionDomainCode := firstText entryNode ["BkTxCd", "Domn", "Cd"]
    bankTransactionFamilyCode := firstText entryNode ["BkTxCd", "Domn", "Fmly", "Cd"]
    bankTransactionSubfamilyCode := firstText entryNode ["BkTxCd", "Domn", "Fmly", "SubFmlyCd"]
    endToEndReference := firstText entryNode ["NtryDtls", "TxDtls", "Refs", "EndToEndId"]
    accountServicerReference := firstText entryNode ["AcctSvcrRef"]
    mandateReference := firstText entryNode ["NtryDtls", "TxDtls", "Refs", "MndtId"]
    chequeReference := firstText entryNode ["NtryDtls", "TxDtls", "Refs", "ChqNb"]
    remittanceEvidenceText :=
      boundText (firstText entryNode ["NtryDtls", "TxDtls", "RmtInf", "Ustrd"])
    counterpartyEvidenceHash := party.map fun name => sha256 name.toUTF8
    sourceEntryHash := ""
    entryDetails := reading.entryDetails }
  { entry with sourceEntryHash := payloadHash sha256 (entryPayload entry) }

/-- The time of booking, else its day; `ValDt` likewise. -/
def dateText (entryNode : Element) (name : String) : Option String :=
  firstText entryNode [name, "DtTm"] <|> firstText entryNode [name, "Dt"]

/-- `_normalize_entry`. -/
def normalizeEntry (entryNode : Element) (sequence : ℕ) : Result NormalizedStatementEntry := do
  let amount ← requiredAmount entryNode "Ntry/Amt" false
  let indicator ← requiredText entryNode ["CdtDbtInd"] "credit/debit indicator"
  let creditDebitCode ← readCreditDebit indicator
  let details ← tryMap
    (fun numbered => normalizeDetail sha256 numbered.1 sequence numbered.2 creditDebitCode)
    ((childElements entryNode ["NtryDtls", "TxDtls"]).zipIdx 1)
  let bookingOccurredAt ← optionalTimestamp (dateText entryNode "BookgDt")
  let valueOccurredAt ← optionalTimestamp (dateText entryNode "ValDt")
  let reversalIndicator ← parseReversal (firstText entryNode ["RvslInd"])
  pure (entryRecord sha256 entryNode sequence
    ⟨amount, creditDebitCode, details, bookingOccurredAt, valueOccurredAt, reversalIndicator⟩)

/-! ## Statements -/

/-- `_normalize_balance`: the code of the balance and the hash of its evidence. -/
def normalizeBalance (node : Element) : Result (Option String × String) := do
  let code := firstText node ["Tp", "CdOrPrtry", "Cd"]
  let amount ← requiredAmount node "Bal/Amt" true
  let indicator ← requiredText node ["CdtDbtInd"] "balance credit/debit indicator"
  pure (code, payloadHash sha256 (Tree.sorted [
    ("code", optionalText code),
    ("amount", .text (decimalText amount.1)),
    ("currency", textTree amount.2),
    ("credit_debit", textTree indicator)]))

/-- The hash of the first balance of a code. -/
def balanceHash (balances : List (Option String × String)) (code : String) : Option String :=
  (balances.find? fun balance => balance.1 = some code).map Prod.snd

def maxEntryCount : ℕ := 500

/-- One turn of the loop over the `Ntry` elements. -/
def normalizeNumberedEntry (numbered : Element × ℕ) : Result NormalizedStatementEntry := do
  require (numbered.2 ≤ maxEntryCount)
    (.validation ("statement entry count exceeds the adapter bound. " ++
      "Send fewer entries, then retry ingest."))
  normalizeEntry sha256 numbered.1 numbered.2

def camt053MessageDefinition : String := "camt.053.001.14"

/-- What a statement reads of its account, its entries, its balances and its period. -/
structure StatementReading where
  identity : String
  currency : String
  accountIdText : String
  entries : List NormalizedStatementEntry
  balances : List (Option String × String)
  periodStartAt : Option Timestamp
  periodEndAt : Option Timestamp

/-- The record of a statement. -/
def statementRecord (statement : Element) (payload : ByteArray) (reading : StatementReading) :
    NormalizedBankStatement :=
  let normalized : NormalizedBankStatement := {
    messageDefinitionIdentifier := camt053MessageDefinition
    statementIdentityReference := reading.identity
    electronicSequenceNumber := firstText statement ["ElctrncSeqNb"]
    legalSequenceNumber := firstText statement ["LglSeqNb"]
    periodStartAt := reading.periodStartAt
    periodEndAt := reading.periodEndAt
    openingBalanceHash := balanceHash reading.balances "OPBD"
    closingBalanceHash := balanceHash reading.balances "CLBD"
    accountCurrencyCode := reading.currency
    accountIdentifierHash := sha256 reading.accountIdText.toUTF8
    sourceArtifactHash := sha256 payload
    normalizedPayloadHash := ""
    entries := reading.entries }
  { normalized with normalizedPayloadHash := payloadHash sha256 (normalizedPayload normalized) }

/-- A bound of the period, if there is one. -/
def periodText (statement : Element) (name : String) : Option String :=
  (directChildren statement "FrToDt").head?.bind fun period => firstText period [name]

/-- `_normalize_statement`. -/
def normalizeStatement (statement : Element) (payload : ByteArray) : Result NormalizedBankStatement := do
  let identity ← requiredText statement ["Id"] "statement identity"
  let account ← requiredChild statement "Acct" "statement account"
  let currency ← requiredText account ["Ccy"] "account currency"
  requireCurrency currency
  let accountIdText ← fetch (firstText account ["Id", "IBAN"] <|> firstText account ["Id", "Othr", "Id"])
    (.validation ("statement account identifier is missing. " ++
      "Supply Acct/Id, then retry ingest."))
  let entries ← tryMap (normalizeNumberedEntry sha256) ((directChildren statement "Ntry").zipIdx 1)
  require (entries ≠ [])
    (.validation ("statement contains no Ntry elements. " ++
      "Supply at least one entry, then retry ingest."))
  let balances ← tryMap (normalizeBalance sha256) (directChildren statement "Bal")
  let periodStartAt ← optionalTimestamp (periodText statement "FrDtTm")
  let periodEndAt ← optionalTimestamp (periodText statement "ToDtTm")
  pure (statementRecord sha256 statement payload
    ⟨identity, currency, accountIdText, entries, balances, periodStartAt, periodEndAt⟩)

def camt053Namespace : String := "urn:iso:std:iso:20022:tech:xsd:camt.053.001.14"

/-- `_reject_revision_mismatch`. -/
def rejectRevisionMismatch (document : Element) : Result Unit :=
  require (document.localName = "Document" ∧ document.namespaceName = camt053Namespace)
    (.validation ("message-definition revision is not camt.053.001.14. " ++
      "Send BankToCustomerStatementV14, then retry ingest."))

/-- `required_paths` of the structural profile. -/
def requiredPaths : List (List String) := [
  ["Document", "BkToCstmrStmt", "GrpHdr", "MsgId"],
  ["Document", "BkToCstmrStmt", "Stmt", "Id"],
  ["Document", "BkToCstmrStmt", "Stmt", "Acct"]]

/-- `_require_structural_paths`. -/
def requireStructuralPaths (document : Element) : Result Unit :=
  require (∀ path ∈ requiredPaths, (findPath path document).isSome = true)
    (.validation ("statement is missing a required camt.053.001.14 path. " ++
      "Supply a complete BankToCustomerStatementV14 document, then retry ingest."))

/-- The only element of a list. -/
def theOnly {α : Type} : List α → Option α
  | [a] => some a
  | _ => none

/-- What follows the reading of the XML. -/
def parseDocument (document : Element) (payload : ByteArray) : Result NormalizedBankStatement := do
  rejectRevisionMismatch document
  requireStructuralPaths document
  let statement ← fetch (theOnly (childElements document ["BkToCstmrStmt", "Stmt"]))
    (.validation ("this adapter accepts exactly one Stmt per command. " ++
      "Send one statement, then retry ingest."))
  normalizeStatement sha256 statement payload

def maxStatementBytes : ℕ := 1048576

/-- `parse_bank_statement_payload` of a payload for which expat delivers `expat`. -/
def parseBankStatementPayload (expat : ExpatStream 0) (payload : ByteArray)
    (messageDefinitionIdentifier : String) : Result NormalizedBankStatement := do
  require (messageDefinitionIdentifier = camt053MessageDefinition)
    (.validation ("message-definition identifier is not the pinned camt.053.001.14 adapter. " ++
      "Send BankToCustomerStatementV14, then retry ingest."))
  require (payload.size ≠ 0)
    (.validation ("statement payload is empty. " ++
      "Supply the original camt.053.001.14 bytes, then retry ingest."))
  require (payload.size ≤ maxStatementBytes)
    (.validation ("statement payload exceeds the 1 MiB adapter bound. " ++
      "Split the statement file, then retry ingest."))
  let document ← parseBoundedXml expat
  parseDocument sha256 document payload

variable {sha256} in
theorem parsePayload_eq {expat : ExpatStream 0} {document : Element} {payload : ByteArray}
    (hread : parseBoundedXml expat = .ok document) (hempty : payload.size ≠ 0)
    (hsize : payload.size ≤ maxStatementBytes) :
    parseBankStatementPayload sha256 expat payload camt053MessageDefinition =
      parseDocument sha256 document payload := by
  unfold parseBankStatementPayload
  rw [require_of rfl, ok_bind, require_of hempty, ok_bind, require_of hsize, ok_bind, hread, ok_bind]

example : decimalText 25000500000 = "25000.5".toList := by decide

end AccountingPlatform.Bank.Camt
