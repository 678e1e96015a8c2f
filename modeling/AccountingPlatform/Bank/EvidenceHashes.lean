/-
  What the hashes of a parsed statement cover.

  The payload of an entry and the payload of a detail are written by hand next to the records.
  Both leave out the account servicer's reference of a detail (`detailPayload_eq_iff`), so
  the hashes tell two statements apart up to that field.
-/
import AccountingPlatform.Bank.SourceLocators
import AccountingPlatform.Lib.FixedText

namespace AccountingPlatform.Bank.Camt

open AccountingPlatform.Lib AccountingPlatform.Lib.Xml AccountingPlatform.Core
  AccountingPlatform.Postgres

open Json (Tree)

variable {sha256 : ByteArray → String}

/-! ## Canonical texts -/

theorem digitsValue_eq (chars : List Char) : digitsValue chars = Nat.ofDigitChars 10 chars 0 := by
  rw [Nat.ofDigitChars_eq_foldl]
  rfl

theorem ofDigitChars_padded (width n : ℕ) : Nat.ofDigitChars 10 (padded width n).toList 0 = n := by
  rw [padded_toList, Nat.ofDigitChars_append, Nat.ofDigitChars_replicate_zero, Nat.mul_zero,
    Nat.ofDigitChars_ten_toDigits]

/-- The fraction of an amount is a fraction of the same value. -/
theorem ofDigitChars_fraction {n : ℕ} (h : n < unitScale) :
    Nat.ofDigitChars 10 (significantDigits (padded 6 n).toList) 0 *
      10 ^ (6 - (significantDigits (padded 6 n).toList).length) = n := by
  have hvalue := ofDigitChars_significantDigits [] (padded 6 n).toList
  rw [List.nil_append, List.nil_append] at hvalue
  rwa [padded_length (by decide) h, ofDigitChars_padded] at hvalue

theorem isDigit_eq (c : Char) : Core.isDigit c = c.isDigit := by
  rw [Bool.eq_iff_iff]
  simp only [Core.isDigit, Char.isDigit, Bool.and_eq_true, decide_eq_true_eq, ge_iff_le]
  exact Iff.rfl

/-- A canonical amount text denotes its amount. -/
theorem decimalMillionths_decimalText (millionths : ℕ) :
    decimalMillionths (String.ofList (decimalText millionths)) = millionths := by
  have hdigits : ∀ c ∈ Nat.toDigits 10 (millionths / unitScale), Core.isDigit c = true := by
    intro c hc
    rw [isDigit_eq]
    exact Nat.isDigit_of_mem_toDigits (by decide) (by decide) hc
  have hpoint : Core.isDigit '.' = false := by decide
  have hfraction := ofDigitChars_fraction (Nat.mod_lt millionths (by decide : 0 < unitScale))
  unfold decimalMillionths decimalText
  dsimp only
  rw [String.toList_ofList, List.takeWhile_append_of_pos hdigits, List.dropWhile_append_of_pos hdigits]
  unfold significantDigits at hfraction
  generalize (padded 6 (millionths % unitScale)).toList.rdropWhile (fun c => c == '0') = fraction at hfraction ⊢
  by_cases hnone : fraction = []
  · rw [if_pos hnone, List.takeWhile_nil, List.dropWhile_nil, List.append_nil, List.drop_nil]
    rw [hnone] at hfraction
    rw [digitsValue_eq, digitsValue_eq, Nat.ofDigitChars_ten_toDigits, hfraction,
      Nat.mul_comm, Nat.div_add_mod]
  · rw [if_neg hnone, List.takeWhile_cons, List.dropWhile_cons, hpoint]
    simp only [Bool.false_eq_true, if_false, List.append_nil, List.drop_succ_cons, List.drop_zero]
    rw [digitsValue_eq, digitsValue_eq, Nat.ofDigitChars_ten_toDigits, hfraction, Nat.mul_comm,
      Nat.div_add_mod]

theorem decimalText_injective : Function.Injective decimalText := by
  intro m n h
  rw [← decimalMillionths_decimalText m, h, decimalMillionths_decimalText]

theorem textTree_injective : Function.Injective textTree := fun _ _ h =>
  String.toList_inj.mp (Tree.text.inj h)

theorem optionalText_injective : Function.Injective optionalText :=
  Tree.optional_injective textTree_injective fun _ => nofun

theorem creditDebitText_injective : Function.Injective creditDebitText := by
  intro a b h
  cases a <;> cases b
  · rfl
  · exact absurd h (by decide)
  · exact absurd h (by decide)
  · rfl

/-- Times that `datetime` can hold are told by their texts. -/
theorem formatTimestamp_inj {m n : ℕ} (hm : InDatetimeRange m) (hn : InDatetimeRange n)
    (h : formatTimestamp m = formatTimestamp n) : m = n := by
  have hread := fromisoformat_formatTimestamp hm
  rw [h, fromisoformat_formatTimestamp hn] at hread
  exact (IsoDatetime.mk.inj (Option.some.inj hread)).1.symm

theorem optionalTime_inj {a b : Option Timestamp} (ha : ∀ m ∈ a, InDatetimeRange m)
    (hb : ∀ m ∈ b, InDatetimeRange m) (h : optionalTime a = optionalTime b) : a = b := by
  cases a with
  | none =>
    cases b with
    | none => rfl
    | some n => nomatch h
  | some m =>
    cases b with
    | none => nomatch h
    | some n => rw [formatTimestamp_inj (ha m rfl) (hb n rfl) (Tree.text.inj h)]

theorem payloadHash_inj (hcollision : Function.Injective sha256) {payload other : Tree}
    (h : payloadHash sha256 payload = payloadHash sha256 other) : payload = other :=
  Tree.write_injective (String.ofList_injective (String.toByteArray_inj.mp (hcollision h)))

/-! ## Details -/

/-- The details agree in everything that their entry's payload says of them. -/
structure SameHashedDetail (detail other : NormalizedEntryDetail) : Prop where
  number : detail.detailSequenceNumber = other.detailSequenceNumber
  locator : detail.sourceLocatorPath = other.sourceLocatorPath
  amount : detail.detailAmount = other.detailAmount
  currency : detail.detailCurrencyCode = other.detailCurrencyCode
  creditDebit : detail.creditDebitCode = other.creditDebitCode
  endToEnd : detail.endToEndReference = other.endToEndReference
  remittance : detail.remittanceEvidenceText = other.remittanceEvidenceText

theorem detailHashPayload_inj {detail other : NormalizedEntryDetail}
    (h : detailHashPayload detail = detailHashPayload other) :
    detail.sourceLocatorPath = other.sourceLocatorPath ∧ detail.detailAmount = other.detailAmount ∧
      detail.detailCurrencyCode = other.detailCurrencyCode ∧
      detail.creditDebitCode = other.creditDebitCode ∧
      detail.endToEndReference = other.endToEndReference ∧
      detail.remittanceEvidenceText = other.remittanceEvidenceText := by
  have hkeys : ["locator", "amount", "currency", "credit_debit", "end_to_end", "remittance"].Nodup := by
    decide +kernel
  have hmembers := Tree.sorted_inj (by rfl) (by exact hkeys) h
  simp only [List.cons.injEq, Prod.mk.injEq, true_and, and_true, Tree.text.injEq,
    textTree_injective.eq_iff, decimalText_injective.eq_iff, creditDebitText_injective.eq_iff,
    optionalText_injective.eq_iff] at hmembers
  exact hmembers

theorem detailPayload_inj {detail other : NormalizedEntryDetail}
    (h : detailPayload detail = detailPayload other) : SameHashedDetail detail other := by
  have hkeys : ["detail_sequence_number", "source_locator_path", "detail_amount",
      "detail_currency_code", "credit_debit_code", "end_to_end_reference",
      "remittance_evidence_text"].Nodup := by decide +kernel
  have hmembers := Tree.sorted_inj (by rfl) (by exact hkeys) h
  simp only [List.cons.injEq, Prod.mk.injEq, true_and, and_true, Tree.text.injEq, Tree.number.injEq,
    textTree_injective.eq_iff, decimalText_injective.eq_iff, creditDebitText_injective.eq_iff,
    optionalText_injective.eq_iff] at hmembers
  obtain ⟨hnumber, hlocator, hamount, hcurrency, hcode, hend, hremittance⟩ := hmembers
  exact ⟨hnumber, hlocator, hamount, hcurrency, hcode, hend, hremittance⟩

/-! ## Entries and statements -/

/-- Times that `datetime` can hold. -/
def NormalizedStatementEntry.TimesInRange (entry : NormalizedStatementEntry) : Prop :=
  (∀ m ∈ entry.bookingOccurredAt, InDatetimeRange m) ∧ ∀ m ∈ entry.valueOccurredAt, InDatetimeRange m

/-- The entry but for its hash and its details. -/
def NormalizedStatementEntry.header (entry : NormalizedStatementEntry) : NormalizedStatementEntry :=
  { entry with sourceEntryHash := "", entryDetails := [] }

theorem entryPayload_inj {entry other : NormalizedStatementEntry} (ht : entry.TimesInRange)
    (ht' : other.TimesInRange) (h : entryPayload entry = entryPayload other) :
    entry.header = other.header ∧
      entry.entryDetails.map detailPayload = other.entryDetails.map detailPayload := by
  have hkeys : ["source_entry_identity", "entry_sequence_number", "source_locator_path",
      "booking_occurred_at", "value_occurred_at", "entry_amount", "entry_currency_code",
      "credit_debit_code", "reversal_indicator", "bank_transaction_domain_code",
      "bank_transaction_family_code", "bank_transaction_subfamily_code", "end_to_end_reference",
      "account_servicer_reference", "mandate_reference", "cheque_reference",
      "remittance_evidence_text", "counterparty_evidence_hash", "details"].Nodup := by
    decide +kernel
  have hmembers := Tree.sorted_inj (by rfl) (by exact hkeys) h
  simp only [List.cons.injEq, Prod.mk.injEq, true_and, and_true, Tree.text.injEq, Tree.number.injEq,
    Tree.flag.injEq, Tree.array.injEq, textTree_injective.eq_iff, decimalText_injective.eq_iff,
    creditDebitText_injective.eq_iff, optionalText_injective.eq_iff] at hmembers
  obtain ⟨h1, h2, h3, hbooking, hvalue, h4, h5, h6, h7, h8, h9, h10, h11, h12, h13, h14, h15, h16,
    hdetails⟩ := hmembers
  have hbooking' := optionalTime_inj ht.1 ht'.1 hbooking
  have hvalue' := optionalTime_inj ht.2 ht'.2 hvalue
  refine ⟨?_, hdetails⟩
  unfold NormalizedStatementEntry.header
  rw [h1, h2, h3, hbooking', hvalue', h4, h5, h6, h7, h8, h9, h10, h11, h12, h13, h14, h15, h16]

/-- What a statement says of itself besides its hashes and its entries. -/
structure SameHeader (statement other : NormalizedBankStatement) : Prop where
  identity : statement.statementIdentityReference = other.statementIdentityReference
  electronicSequence : statement.electronicSequenceNumber = other.electronicSequenceNumber
  legalSequence : statement.legalSequenceNumber = other.legalSequenceNumber
  periodStart : statement.periodStartAt = other.periodStartAt
  periodEnd : statement.periodEndAt = other.periodEndAt
  openingBalance : statement.openingBalanceHash = other.openingBalanceHash
  closingBalance : statement.closingBalanceHash = other.closingBalanceHash
  currency : statement.accountCurrencyCode = other.accountCurrencyCode

def NormalizedBankStatement.PeriodInRange (statement : NormalizedBankStatement) : Prop :=
  (∀ m ∈ statement.periodStartAt, InDatetimeRange m) ∧ ∀ m ∈ statement.periodEndAt, InDatetimeRange m

theorem normalizedPayload_inj {statement other : NormalizedBankStatement} (ht : statement.PeriodInRange)
    (ht' : other.PeriodInRange) (h : normalizedPayload statement = normalizedPayload other) :
    SameHeader statement other ∧
      statement.entries.map entryPayload = other.entries.map entryPayload := by
  have hkeys : ["message_definition_identifier", "statement_identity_reference",
      "electronic_sequence_number", "legal_sequence_number", "period_start_at", "period_end_at",
      "opening_balance_hash", "closing_balance_hash", "account_currency_code", "entries"].Nodup := by
    decide +kernel
  have hmembers := Tree.sorted_inj (by rfl) (by exact hkeys) h
  simp only [List.cons.injEq, Prod.mk.injEq, true_and, and_true, Tree.array.injEq,
    textTree_injective.eq_iff, optionalText_injective.eq_iff] at hmembers
  obtain ⟨-, hidentity, helectronic, hlegal, hstart, hend, hopening, hclosing, hcurrency, hentries⟩ :=
    hmembers
  exact ⟨⟨hidentity, helectronic, hlegal, optionalTime_inj ht.1 ht'.1 hstart,
    optionalTime_inj ht.2 ht'.2 hend, hopening, hclosing, hcurrency⟩, hentries⟩

/-! ## What parsing guarantees -/

theorem optionalTimestamp_inRange {text : Option String} {moment : Option Timestamp}
    (h : optionalTimestamp text = .ok moment) : ∀ m ∈ moment, InDatetimeRange m := by
  cases text with
  | none => cases h; nofun
  | some text =>
    simp only [optionalTimestamp, map_eq_ok, parseTimestamp, IsoTimestamp.astimezone, bind_eq_ok,
      require_eq_ok, pure_eq_ok] at h
    obtain ⟨instant, ⟨parsed, -, _, ⟨hmin, hmax⟩, rfl⟩, rfl⟩ := h
    intro m hm
    cases hm
    have hmin' : (86400000000 : ℤ) ≤ parsed.instant := hmin
    have hmax' : parsed.instant < (315537984000000000 : ℤ) := hmax
    unfold InDatetimeRange
    have hlast : (maxOrdinal + 1) * 86400000000 = 315537984000000000 := by decide
    rw [hlast]
    omega

theorem readCreditDebit_eq_ok {text : String} {code : CreditDebitCode} :
    readCreditDebit text = .ok code ↔ text = creditDebitText code := by
  unfold readCreditDebit
  rw [fetch_eq_ok]
  cases code with
  | crdt =>
    unfold creditDebitText
    split_ifs with h1 h2 <;> simp_all
  | dbit =>
    unfold creditDebitText
    split_ifs with h1 h2 <;> simp_all

/-- An entry that was parsed. -/
structure ParsedEntry (sha256 : ByteArray → String) (entryNode : Element)
    (entry : NormalizedStatementEntry) : Prop where
  times : entry.TimesInRange
  hash : entry.sourceEntryHash = payloadHash sha256 (entryPayload entry)
  direction : firstText entryNode ["CdtDbtInd"] = some (creditDebitText entry.creditDebitCode)

theorem parsedEntry {entryNode : Element} {sequence : ℕ} {entry : NormalizedStatementEntry}
    (h : normalizeEntry sha256 entryNode sequence = .ok entry) : ParsedEntry sha256 entryNode entry := by
  unfold normalizeEntry requiredText at h
  simp only [bind_eq_ok, pure_eq_ok, fetch_eq_ok, readCreditDebit_eq_ok] at h
  obtain ⟨amount, -, indicator, hindicator, code, hcode, details, -, booking, hbooking, value, hvalue,
    reversal, -, rfl⟩ := h
  exact ⟨⟨optionalTimestamp_inRange hbooking, optionalTimestamp_inRange hvalue⟩, rfl, hcode ▸ hindicator⟩

/-- What the hash of a detail reads of its element and of its entry. -/
structure DetailReading where
  amount : Option (ℕ × String)
  direction : Option String
  endToEnd : Option String
  remittance : Option String
  deriving DecidableEq

def detailReading (entryNode detailNode : Element) : DetailReading where
  amount := (findPath ["TxDtls", "AmtDtls", "TxAmt", "Amt"] detailNode).map fun node =>
    (decimalMillionths (strip node.text), (node.attributes.get? "Ccy").getD "")
  direction := firstText detailNode ["CdtDbtInd"] <|> firstText entryNode ["CdtDbtInd"]
  endToEnd := firstText detailNode ["Refs", "EndToEndId"]
  remittance := boundText (firstText detailNode ["RmtInf", "Ustrd"])

/-- The account servicer's reference of a detail. -/
def servicerReference (detailNode : Element) : Option String := firstText detailNode ["Refs", "AcctSvcrRef"]

def readingOf (detail : NormalizedEntryDetail) : DetailReading where
  amount := some (detail.detailAmount, detail.detailCurrencyCode)
  direction := some (creditDebitText detail.creditDebitCode)
  endToEnd := detail.endToEndReference
  remittance := detail.remittanceEvidenceText

/-- A detail that was parsed. -/
structure ParsedDetail (sha256 : ByteArray → String) (entryNode detailNode : Element)
    (detail : NormalizedEntryDetail) : Prop where
  hash : detail.sourceDetailHash = payloadHash sha256 (detailHashPayload detail)
  reading : detailReading entryNode detailNode = readingOf detail
  servicer : servicerReference detailNode = detail.accountServicerReference

theorem onValidation_eq_ok {α : Type} {x : Result α} {message : String} {a : α} :
    onValidation x message = .ok a ↔ x = .ok a := by
  unfold onValidation
  split <;> simp

theorem amountFromElement_ok {node : Element} {label : String} {allowZero : Bool} {amount : ℕ × String}
    (h : amountFromElement node label allowZero = .ok amount) :
    amount = (decimalMillionths (strip node.text), (node.attributes.get? "Ccy").getD "") ∧
      (amount.1 ≠ 0 ∨ allowZero = true) := by
  unfold amountFromElement parseAmount at h
  simp only [bind_eq_ok, onValidation_eq_ok, require_eq_ok, pure_eq_ok] at h
  obtain ⟨_, -, value, ⟨_, -, rfl⟩, _, hzero, rfl⟩ := h
  exact ⟨rfl, hzero⟩

theorem parsedDetail {entryNode detailNode : Element} {entrySequence detailSequence : ℕ}
    {fallback : CreditDebitCode} {detail : NormalizedEntryDetail}
    (hentry : firstText entryNode ["CdtDbtInd"] = some (creditDebitText fallback))
    (h : normalizeDetail sha256 detailNode entrySequence detailSequence fallback = .ok detail) :
    ParsedDetail sha256 entryNode detailNode detail := by
  unfold normalizeDetail at h
  simp only [bind_eq_ok, pure_eq_ok, fetch_eq_ok] at h
  obtain ⟨amountNode, hnode, amount, hamount, code, hcode, rfl⟩ := h
  refine ⟨rfl, ?_, rfl⟩
  have hdirection : (firstText detailNode ["CdtDbtInd"] <|> firstText entryNode ["CdtDbtInd"]) =
      some (creditDebitText code) := by
    unfold detailCreditDebit at hcode
    cases htext : firstText detailNode ["CdtDbtInd"] with
    | none =>
      rw [htext] at hcode
      cases hcode
      exact hentry
    | some text =>
      rw [htext] at hcode
      exact congrArg some (readCreditDebit_eq_ok.mp hcode)
  unfold detailReading readingOf
  rw [hnode, hdirection, Option.map_some, ← (amountFromElement_ok hamount).1]
  rfl

/-! ## Places of details -/

/-- The detail element of a place, within its entry element. -/
def DetailAt (document : Element) (i k : ℕ) (entryNode detailNode : Element) : Prop :=
  (sourceEntries document)[i]? = some entryNode ∧ (sourceDetails entryNode)[k]? = some detailNode

/-- Details at one place that read the same otherwise have the same servicer's reference. -/
def ReferencesTold (document other : Element) : Prop :=
  ∀ i k entryNode detailNode entryNode' detailNode',
    DetailAt document i k entryNode detailNode → DetailAt other i k entryNode' detailNode' →
    detailReading entryNode detailNode = detailReading entryNode' detailNode' →
    servicerReference detailNode = servicerReference detailNode'

/-- The record of a place. -/
structure RecordedAt (statement : NormalizedBankStatement) (i k : ℕ) (detail : NormalizedEntryDetail) :
    Prop where
  recorded : ∃ entry, statement.entries[i]? = some entry ∧ entry.entryDetails[k]? = some detail
  number : detail.detailSequenceNumber = k + 1
  locator : detail.sourceLocatorPath = detailLocator (i + 1) (k + 1)

section Places

variable {document : Element} {statement : NormalizedBankStatement}
  (h : @ParsedFrom sha256 document statement)

include h

theorem ParsedFrom.detail {i k : ℕ} {entry : NormalizedStatementEntry} {detail : NormalizedEntryDetail}
    (hentry : statement.entries[i]? = some entry) (hdetail : entry.entryDetails[k]? = some detail) :
    RecordedAt statement i k detail ∧ ∃ entryNode detailNode,
      DetailAt document i k entryNode detailNode ∧ ParsedDetail sha256 entryNode detailNode detail := by
  obtain ⟨entryNode, hnode, hok⟩ := h.source hentry
  obtain ⟨-, -, hloop⟩ := normalizeEntry_locator hok
  obtain ⟨detailNode, hdetailNode, hdetailOk⟩ := tryMap_zipIdx_getElem? hloop hdetail
  obtain ⟨hnumber, hlocator⟩ := normalizeDetail_locator hdetailOk
  exact ⟨⟨⟨entry, hentry, hdetail⟩, hnumber, hlocator⟩, entryNode, detailNode, ⟨hnode, hdetailNode⟩,
    parsedDetail (parsedEntry hok).direction hdetailOk⟩

theorem ParsedFrom.detail_of_place {i k : ℕ} {entryNode detailNode : Element}
    (hplace : DetailAt document i k entryNode detailNode) : ∃ detail,
      RecordedAt statement i k detail ∧ ParsedDetail sha256 entryNode detailNode detail := by
  obtain ⟨hnode, hdetailNode⟩ := hplace
  obtain ⟨hi, -⟩ := List.getElem?_eq_some_iff.mp hnode
  have hentries : statement.entries.length = (sourceEntries document).length :=
    tryMap_zipIdx_length h.entries
  have hentry := List.getElem?_eq_getElem (hentries ▸ hi : i < statement.entries.length)
  obtain ⟨other, hother, hok⟩ := h.source hentry
  rw [hnode, Option.some.injEq] at hother
  subst hother
  obtain ⟨-, -, hloop⟩ := normalizeEntry_locator hok
  obtain ⟨hk, -⟩ := List.getElem?_eq_some_iff.mp hdetailNode
  have hlength := tryMap_zipIdx_length hloop
  obtain ⟨hrecorded, entryNode', detailNode', ⟨hnode', hdetailNode'⟩, hparsed⟩ :=
    h.detail hentry (List.getElem?_eq_getElem (hlength ▸ hk))
  rw [hnode, Option.some.injEq] at hnode'
  subst hnode'
  rw [hdetailNode, Option.some.injEq] at hdetailNode'
  subst hdetailNode'
  exact ⟨_, hrecorded, hparsed⟩

end Places

theorem detail_eq {detail other : NormalizedEntryDetail}
    (hnumber : detail.detailSequenceNumber = other.detailSequenceNumber)
    (hlocator : detail.sourceLocatorPath = other.sourceLocatorPath)
    (hreading : readingOf detail = readingOf other)
    (hservicer : detail.accountServicerReference = other.accountServicerReference)
    (hhash : detail.sourceDetailHash = other.sourceDetailHash) : detail = other := by
  obtain ⟨hamount, hdirection, hend, hremittance⟩ := DetailReading.mk.inj hreading
  obtain ⟨hvalue, hcurrency⟩ := Prod.mk.inj (Option.some.inj hamount)
  have hcode := creditDebitText_injective (Option.some.inj hdirection)
  cases detail
  cases other
  simp only [NormalizedEntryDetail.mk.injEq]
  exact ⟨hnumber, hlocator, hvalue, hcurrency, hcode, hend, hservicer, hremittance, hhash⟩

/-- What the hash of a detail covers is its place and its reading. -/
theorem detailHashPayload_eq_iff {detail other : NormalizedEntryDetail} :
    detailHashPayload detail = detailHashPayload other ↔
      detail.sourceLocatorPath = other.sourceLocatorPath ∧ readingOf detail = readingOf other := by
  constructor
  · intro h
    obtain ⟨hlocator, hamount, hcurrency, hcode, hend, hremittance⟩ := detailHashPayload_inj h
    refine ⟨hlocator, ?_⟩
    unfold readingOf
    rw [hamount, hcurrency, hcode, hend, hremittance]
  · rintro ⟨hlocator, hreading⟩
    obtain ⟨hamount, hdirection, hend, hremittance⟩ := DetailReading.mk.inj hreading
    obtain ⟨hvalue, hcurrency⟩ := Prod.mk.inj (Option.some.inj hamount)
    have hcode := creditDebitText_injective (Option.some.inj hdirection)
    unfold detailHashPayload
    rw [hlocator, hvalue, hcurrency, hcode, hend, hremittance]

/-- Lists are told by a rendering that tells the members of each place. -/
theorem eq_of_map_eq {α γ : Type} {f : α → γ} {as bs : List α} (h : as.map f = bs.map f)
    (htold : ∀ (i : ℕ) a b, as[i]? = some a → bs[i]? = some b → f a = f b → a = b) : as = bs := by
  refine List.ext_getElem? fun i => ?_
  have hi := congrArg (fun rendered => rendered[i]?) h
  simp only [List.getElem?_map] at hi
  cases ha : as[i]? with
  | none =>
    rw [ha, Option.map_none, eq_comm, Option.map_eq_none_iff] at hi
    exact hi.symm
  | some a =>
    rw [ha, Option.map_some, eq_comm, Option.map_eq_some_iff] at hi
    obtain ⟨b, hb, hsame⟩ := hi
    rw [hb, htold i a b ha hb hsame.symm]

/-! ## What the hashes cover -/

/-- Equal hashes mean equal evidence. -/
structure HashesCover (statement other : NormalizedBankStatement) : Prop where
  statement_hash : statement.normalizedPayloadHash = other.normalizedPayloadHash →
    SameHeader statement other ∧ statement.entries = other.entries
  entry_hash : ∀ entry ∈ statement.entries, ∀ entry' ∈ other.entries,
    entry.sourceEntryHash = entry'.sourceEntryHash → entry = entry'
  detail_hash : ∀ entry ∈ statement.entries, ∀ entry' ∈ other.entries,
    ∀ detail ∈ entry.entryDetails, ∀ detail' ∈ entry'.entryDetails,
      detail.sourceDetailHash = detail'.sourceDetailHash → detail = detail'

section Cover

variable {document document' : Element} {statement other : NormalizedBankStatement}
  (h : @ParsedFrom sha256 document statement)
  (h' : @ParsedFrom sha256 document' other)

include h h'

/-- Details at one place that read the same are the same. -/
theorem detail_told (htold : ReferencesTold document document') {i k : ℕ}
    {entry entry' : NormalizedStatementEntry} {detail detail' : NormalizedEntryDetail}
    (hentry : statement.entries[i]? = some entry) (hdetail : entry.entryDetails[k]? = some detail)
    (hentry' : other.entries[i]? = some entry') (hdetail' : entry'.entryDetails[k]? = some detail')
    (hreading : readingOf detail = readingOf detail') : detail = detail' := by
  obtain ⟨hat, entryNode, detailNode, hplace, hparsed⟩ := h.detail hentry hdetail
  obtain ⟨hat', entryNode', detailNode', hplace', hparsed'⟩ := h'.detail hentry' hdetail'
  have hlocator : detail.sourceLocatorPath = detail'.sourceLocatorPath := hat.locator.trans hat'.locator.symm
  have hservicer := htold i k _ _ _ _ hplace hplace' (by rw [hparsed.reading, hparsed'.reading, hreading])
  rw [hparsed.servicer, hparsed'.servicer] at hservicer
  refine detail_eq (hat.number.trans hat'.number.symm) hlocator hreading hservicer ?_
  rw [hparsed.hash, hparsed'.hash, detailHashPayload_eq_iff.mpr ⟨hlocator, hreading⟩]

/-- Entries with one payload are the same. -/
theorem entry_told (htold : ReferencesTold document document') {i j : ℕ}
    {entry entry' : NormalizedStatementEntry} (hentry : statement.entries[i]? = some entry)
    (hentry' : other.entries[j]? = some entry') (hpayload : entryPayload entry = entryPayload entry') :
    entry = entry' := by
  obtain ⟨entryNode, -, hok⟩ := h.source hentry
  obtain ⟨entryNode', -, hok'⟩ := h'.source hentry'
  have hparsed := parsedEntry hok
  have hparsed' := parsedEntry hok'
  obtain ⟨hheader, hdetails⟩ := entryPayload_inj hparsed.times hparsed'.times hpayload
  have hnumber := congrArg NormalizedStatementEntry.entrySequenceNumber hheader
  change entry.entrySequenceNumber = entry'.entrySequenceNumber at hnumber
  rw [(normalizeEntry_locator hok).1, (normalizeEntry_locator hok').1] at hnumber
  obtain rfl := Nat.succ.inj hnumber
  have hsame : entry.entryDetails = entry'.entryDetails := by
    refine eq_of_map_eq hdetails fun k detail detail' hdetail hdetail' hk => ?_
    obtain ⟨-, -, hamount, hcurrency, hcode, hend, hremittance⟩ := detailPayload_inj hk
    have hreading : readingOf detail = readingOf detail' := by
      unfold readingOf
      rw [hamount, hcurrency, hcode, hend, hremittance]
    exact detail_told h h' htold hentry hdetail hentry' hdetail' hreading
  have hhash : entry.sourceEntryHash = entry'.sourceEntryHash := by
    rw [hparsed.hash, hparsed'.hash, hpayload]
  calc entry
      _ = { entry.header with
            sourceEntryHash := entry.sourceEntryHash
            entryDetails := entry.entryDetails } := rfl
      _ = { entry'.header with
            sourceEntryHash := entry'.sourceEntryHash
            entryDetails := entry'.entryDetails } := by rw [hheader, hhash, hsame]
      _ = entry' := rfl

end Cover

/-- A statement that was parsed. -/
structure ParsedStatement (sha256 : ByteArray → String) (statement : NormalizedBankStatement) : Prop where
  period : statement.PeriodInRange
  hash : statement.normalizedPayloadHash = payloadHash sha256 (normalizedPayload statement)

theorem parsedStatement {document : Element} {payload : ByteArray} {statement : NormalizedBankStatement}
    (h : parseDocument sha256 document payload = .ok statement) : ParsedStatement sha256 statement := by
  unfold parseDocument normalizeStatement at h
  simp only [bind_eq_ok, pure_eq_ok] at h
  obtain ⟨_, -, _, -, node, -, _, -, _, -, _, -, _, -, _, -, _, -, _, -, _, -, start, hstart, finish,
    hfinish, rfl⟩ := h
  exact ⟨⟨optionalTimestamp_inRange hstart, optionalTimestamp_inRange hfinish⟩, rfl⟩

/-- The hashes cover the evidence exactly when they need not tell servicer's references apart. -/
theorem hashesCover_iff (hcollision : Function.Injective sha256) {document document' : Element}
    {payload payload' : ByteArray} {statement other : NormalizedBankStatement}
    (hparse : parseDocument sha256 document payload = .ok statement)
    (hparse' : parseDocument sha256 document' payload' = .ok other) :
    HashesCover statement other ↔ ReferencesTold document document' := by
  have h := parsedFrom hparse
  have h' := parsedFrom hparse'
  constructor
  · intro hcover i k entryNode detailNode entryNode' detailNode' hplace hplace' hreading
    obtain ⟨detail, ⟨⟨entry, hentry, hdetail⟩, -, hlocator⟩, hparsed⟩ := h.detail_of_place hplace
    obtain ⟨detail', ⟨⟨entry', hentry', hdetail'⟩, -, hlocator'⟩, hparsed'⟩ := h'.detail_of_place hplace'
    rw [hparsed.reading, hparsed'.reading] at hreading
    have hpayload := detailHashPayload_eq_iff.mpr ⟨hlocator.trans hlocator'.symm, hreading⟩
    have hsame : detail = detail' := hcover.detail_hash entry (List.mem_of_getElem? hentry) entry'
      (List.mem_of_getElem? hentry') detail (List.mem_of_getElem? hdetail) detail'
      (List.mem_of_getElem? hdetail') (by rw [hparsed.hash, hparsed'.hash, hpayload])
    rw [hparsed.servicer, hparsed'.servicer, hsame]
  · intro htold
    have hentries : ∀ i j entry entry', statement.entries[i]? = some entry →
        other.entries[j]? = some entry' → entryPayload entry = entryPayload entry' → entry = entry' :=
      fun i j entry entry' => entry_told h h' htold
    refine ⟨fun hhash => ?_, fun entry hentry entry' hentry' hhash => ?_,
      fun entry hentry entry' hentry' detail hdetail detail' hdetail' hhash => ?_⟩
    · have hs := parsedStatement hparse
      have hs' := parsedStatement hparse'
      rw [hs.hash, hs'.hash] at hhash
      obtain ⟨hheader, hpayloads⟩ :=
        normalizedPayload_inj hs.period hs'.period (payloadHash_inj hcollision hhash)
      exact ⟨hheader, eq_of_map_eq hpayloads fun i => hentries i i⟩
    · obtain ⟨i, hi⟩ := List.getElem?_of_mem hentry
      obtain ⟨j, hj⟩ := List.getElem?_of_mem hentry'
      obtain ⟨_, -, hok⟩ := h.source hi
      obtain ⟨_, -, hok'⟩ := h'.source hj
      rw [(parsedEntry hok).hash, (parsedEntry hok').hash] at hhash
      exact hentries i j entry entry' hi hj (payloadHash_inj hcollision hhash)
    · obtain ⟨i, hi⟩ := List.getElem?_of_mem hentry
      obtain ⟨j, hj⟩ := List.getElem?_of_mem hentry'
      obtain ⟨k, hk⟩ := List.getElem?_of_mem hdetail
      obtain ⟨l, hl⟩ := List.getElem?_of_mem hdetail'
      obtain ⟨hat, _, _, -, hparsed⟩ := h.detail hi hk
      obtain ⟨hat', _, _, -, hparsed'⟩ := h'.detail hj hl
      rw [hparsed.hash, hparsed'.hash] at hhash
      obtain ⟨hlocator, hreading⟩ := detailHashPayload_eq_iff.mp (payloadHash_inj hcollision hhash)
      rw [hat.locator, hat'.locator] at hlocator
      obtain ⟨hij, hkl⟩ := detailLocator_inj hlocator
      obtain rfl := Nat.succ.inj hij
      obtain rfl := Nat.succ.inj hkl
      exact detail_told h h' htold hi hk hj hl hreading

theorem parseDocument_payload {expat : ExpatStream 0} {payload : ByteArray}
    {messageDefinitionIdentifier : String} {document : Element} {statement : NormalizedBankStatement}
    (hdocument : parseBoundedXml expat = .ok document)
    (h : parseBankStatementPayload sha256 expat payload messageDefinitionIdentifier = .ok statement) :
    parseDocument sha256 document payload = .ok statement := by
  unfold parseBankStatementPayload at h
  simp only [bind_eq_ok, hdocument, Except.ok.injEq, exists_eq_left'] at h
  obtain ⟨_, -, _, -, _, -, hparsed⟩ := h
  exact hparsed

/-- A digest without collisions: the bytes themselves. -/
def byteText (bytes : ByteArray) : String :=
  String.ofList (bytes.data.toList.map fun b => Char.ofNat b.toNat)

theorem byteText_injective : Function.Injective byteText := by
  intro a b h
  have hbyte : Function.Injective fun b : UInt8 => Char.ofNat b.toNat := by
    intro x y hxy
    have hx : ∀ z : UInt8, (Char.ofNat z.toNat).toNat = z.toNat := by
      intro z
      have hz := z.toNat_lt
      have hvalid : z.toNat.isValidChar := .inl (by omega)
      rw [Char.ofNat, dif_pos hvalid]
      rfl
    have hnat := congrArg Char.toNat hxy
    simp only [hx] at hnat
    exact UInt8.toNat_inj.mp hnat
  have hlist := List.map_injective_iff.mpr hbyte (String.ofList_injective h)
  exact ByteArray.ext (Array.toList_inj.mp hlist)

/-- A detail with the reference of its account servicer. -/
def referencedDetail (reference : String) : Element :=
  detailTag "10" [tag "Refs" "" [tag "AcctSvcrRef" reference []]]

def referencedEntry (reference : String) : Element :=
  entryTag "10" [tag "NtryDtls" "" [referencedDetail reference]]

def referenceDocument (reference : String) : Element := documentTag [referencedEntry reference]

theorem referenceDocument_read : ∀ reference ∈ ["A", "B"],
    parseBoundedXml (documentEvents (referenceDocument reference)) = .ok (referenceDocument reference) := by
  intro reference hreference
  refine parseBoundedXml_documentEvents ?_ ?_
  · revert hreference reference
    decide +kernel
  · revert hreference reference
    decide +kernel

theorem referenceDocument_accepted : ∀ reference ∈ ["A", "B"], Succeeds (parseBankStatementPayload byteText
    (documentEvents (referenceDocument reference)) ⟨#[60]⟩ "camt.053.001.14") := by
  decide +kernel

/-- One place holds one detail. -/
theorem referencesTold_self (document : Element) : ReferencesTold document document := by
  rintro i k entryNode detailNode entryNode' detailNode' ⟨hentry, hdetail⟩ ⟨hentry', hdetail'⟩ -
  rw [hentry, Option.some.injEq] at hentry'
  subst hentry'
  rw [hdetail, Option.some.injEq] at hdetail'
  rw [hdetail']

end AccountingPlatform.Bank.Camt
