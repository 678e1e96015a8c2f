/-
  What parsing a statement can end with.

  Every check raises a validation error, and what is returned is well formed. Two steps raise
  something else: expat on a declared encoding that Python does not know, and the conversion
  to UTC of a timestamp close to the ends of the calendar. `StaysClosed` says when neither is
  reached.
-/
import AccountingPlatform.Bank.Bindings
import AccountingPlatform.Bank.EvidenceHashes

namespace AccountingPlatform.Bank.Camt

open AccountingPlatform.Lib AccountingPlatform.Lib.Xml AccountingPlatform.Core
  AccountingPlatform.Postgres

open LedgerError (isAccountingValidation)

variable {sha256 : ByteArray → String}

/-! ## Loops -/

/-- A loop raises what its turns raise after earlier turns that succeed. -/
theorem raises_tryMap_iff {α β : Type} {P : LedgerError → Prop} {f : α → Result β} {as : List α} :
    Raises P (tryMap f as) ↔
      ∀ front a rest, as = front ++ a :: rest → (∀ b ∈ front, Succeeds (f b)) → Raises P (f a) := by
  induction as with
  | nil =>
    refine iff_of_true (raises_ok _) fun front a rest h => ?_
    exact absurd h (by simp)
  | cons a as ih =>
    rw [tryMap, raises_bind_iff]
    constructor
    · rintro ⟨hfirst, hrest⟩ front a' rest hsplit hfront
      cases front with
      | nil =>
        obtain ⟨rfl, -⟩ := List.cons.inj hsplit
        exact hfirst
      | cons b front =>
        obtain ⟨rfl, htail⟩ := List.cons.inj hsplit
        obtain ⟨value, hvalue⟩ := hfront a List.mem_cons_self
        exact ih.mp (raises_bind_iff.mp (hrest value hvalue)).1 front a' rest htail
          fun c hc => hfront c (List.mem_cons_of_mem a hc)
    · intro h
      refine ⟨h [] a as rfl fun _ hb => absurd hb List.not_mem_nil, fun value hvalue => raises_bind (ih.mpr ?_) fun _ _ => raises_pure _⟩
      intro front a' rest hsplit hfront
      refine h (a :: front) a' rest (by rw [hsplit]; rfl) fun c hc => ?_
      rcases List.mem_cons.mp hc with rfl | hc
      · exact ⟨value, hvalue⟩
      · exact hfront c hc

/-! ## Checks -/

theorem refuses_onValidation {α : Type} {x : Result α} {message : String}
    (h : Raises isAccountingValidation x) : Raises isAccountingValidation (onValidation x message) := by
  intro e he
  unfold onValidation at he
  split at he
  · cases he; trivial
  · cases he; trivial
  · exact h e he

theorem refuses_amountFromElement (node : Element) (label : String) (allowZero : Bool) :
    Raises isAccountingValidation (amountFromElement node label allowZero) := by
  have hcurrency : ∀ text, Raises isAccountingValidation (requireCurrency text) := fun _ =>
    raises_require trivial
  have hamount : ∀ text, Raises isAccountingValidation (parseAmount text) := fun _ =>
    raises_bind (raises_require trivial) fun _ _ => raises_pure _
  unfold amountFromElement
  exact raises_bind (refuses_onValidation (hcurrency _)) fun _ _ =>
    raises_bind (refuses_onValidation (hamount _)) fun _ _ =>
      raises_bind (raises_require trivial) fun _ _ => raises_pure _

theorem refuses_requiredAmount (parent : Element) (label : String) (allowZero : Bool) :
    Raises isAccountingValidation (requiredAmount parent label allowZero) :=
  raises_bind (raises_fetch trivial) fun _ _ => refuses_amountFromElement _ _ _

theorem refuses_detail (detailNode : Element) (entrySequence detailSequence : ℕ)
    (fallback : CreditDebitCode) :
    Raises isAccountingValidation (normalizeDetail sha256 detailNode entrySequence detailSequence fallback) := by
  unfold normalizeDetail
  refine raises_bind (raises_fetch trivial) fun _ _ =>
    raises_bind (refuses_amountFromElement _ _ _) fun _ _ => raises_bind ?_ fun _ _ => raises_pure _
  unfold detailCreditDebit
  split
  · exact raises_ok _
  · exact raises_fetch trivial

theorem refuses_parseReversal (value : Option String) :
    Raises isAccountingValidation (parseReversal value) := by
  unfold parseReversal
  split
  · exact raises_ok _
  · dsimp only
    split
    · exact raises_ok _
    · split
      · exact raises_ok _
      · exact raises_error trivial

theorem refuses_balance (node : Element) : Raises isAccountingValidation (normalizeBalance sha256 node) :=
  raises_bind (refuses_requiredAmount _ _ _) fun _ _ =>
    raises_bind (raises_fetch trivial) fun _ _ => raises_pure _

/-! ## Timestamps -/

/-- No timestamp the text denotes leaves the years 1 to 9999 in UTC. -/
def FitsInUtc (text : Option String) : Prop :=
  ∀ t ∈ text, ∀ parsed, isoTimestamp? t = some parsed → IsRepresentable parsed.instant

theorem refuses_optionalTimestamp_iff {text : Option String} :
    Raises isAccountingValidation (optionalTimestamp text) ↔ FitsInUtc text := by
  cases text with
  | none => exact iff_of_true (raises_ok _) nofun
  | some text =>
    have hmap : Raises isAccountingValidation (optionalTimestamp (some text)) ↔
        Raises isAccountingValidation (parseTimestamp (isoTimestamp? text) "statement timestamp") :=
      ⟨fun h e he => h e (map_eq_error.mpr he), raises_map⟩
    rw [hmap, refuses_parseTimestamp_iff]
    unfold FitsInUtc
    simp only [Option.mem_some_iff, forall_eq']

/-- The first text fits, and the second does if the first is a timestamp at all. -/
def FitInUtc (first second : Option String) : Prop :=
  FitsInUtc first ∧ ((∀ t ∈ first, (isoTimestamp? t).isSome = true) → FitsInUtc second)

/-- A text that fits is read when it is a timestamp. -/
theorem optionalTimestamp_succeeds_iff {text : Option String} (h : FitsInUtc text) :
    Succeeds (optionalTimestamp text) ↔ ∀ t ∈ text, (isoTimestamp? t).isSome = true := by
  cases text with
  | none => exact iff_of_true ⟨none, rfl⟩ fun t ht => absurd ht (Option.not_mem_none t)
  | some text =>
    rw [optionalTimestamp, succeeds_map, parseTimestamp_succeeds_iff]
    simp only [Option.mem_some_iff, forall_eq', Option.isSome_iff_exists]
    constructor
    · rintro ⟨parsed, hparsed, -⟩
      exact ⟨parsed, hparsed⟩
    · rintro ⟨parsed, hparsed⟩
      exact ⟨parsed, hparsed, h text rfl parsed hparsed⟩

/-- Two timestamps read one after the other, before what raises nothing else. -/
theorem refuses_timestamps_iff {γ : Type} {first second : Option String}
    {f : Option Timestamp → Option Timestamp → Result γ}
    (hf : ∀ a b, Raises isAccountingValidation (f a b)) :
    Raises isAccountingValidation (do
      let a ← optionalTimestamp first
      let b ← optionalTimestamp second
      f a b) ↔ FitInUtc first second := by
  rw [raises_bind_iff, refuses_optionalTimestamp_iff]
  unfold FitInUtc
  refine and_congr_right fun hfirst => ?_
  rw [← optionalTimestamp_succeeds_iff hfirst]
  constructor
  · rintro h ⟨a, ha⟩
    exact refuses_optionalTimestamp_iff.mp (raises_bind_iff.mp (h a ha)).1
  · intro h a ha
    exact raises_bind (refuses_optionalTimestamp_iff.mpr (h ⟨a, ha⟩)) fun b _ => hf a b

/-! ## Entries, statements, documents -/

/-- The amount, the direction and the details of an entry are read before its timestamps. -/
def EntryReaches (sha256 : ByteArray → String) (entryNode : Element) (sequence : ℕ) : Prop :=
  ∃ code, Succeeds (requiredAmount entryNode "Ntry/Amt" false) ∧
    firstText entryNode ["CdtDbtInd"] = some (creditDebitText code) ∧
    Succeeds (tryMap (fun numbered => normalizeDetail sha256 numbered.1 sequence numbered.2 code)
      ((sourceDetails entryNode).zipIdx 1))

/-- The times of an entry stay in range if they are reached. -/
def EntryStaysClosed (sha256 : ByteArray → String) (entryNode : Element) (sequence : ℕ) : Prop :=
  EntryReaches sha256 entryNode sequence →
    FitInUtc (dateText entryNode "BookgDt") (dateText entryNode "ValDt")

theorem refuses_entry_iff {entryNode : Element} {sequence : ℕ} :
    Raises isAccountingValidation (normalizeEntry sha256 entryNode sequence) ↔
      EntryStaysClosed sha256 entryNode sequence := by
  have hlast : ∀ amount code details booking value,
      Raises isAccountingValidation (do
        let reversal ← parseReversal (firstText entryNode ["RvslInd"])
        pure (entryRecord sha256 entryNode sequence ⟨amount, code, details, booking, value, reversal⟩)) :=
    fun _ _ _ _ _ => raises_bind (refuses_parseReversal _) fun _ _ => raises_pure _
  unfold normalizeEntry requiredText EntryStaysClosed EntryReaches sourceDetails
  constructor
  · rintro h ⟨code, ⟨amount, hamount⟩, hindicator, details, hdetails⟩
    rw [hamount, ok_bind, hindicator, fetch, ok_bind, readCreditDebit_eq_ok.mpr rfl, ok_bind, hdetails,
      ok_bind] at h
    exact (refuses_timestamps_iff (hlast amount code details)).mp h
  · intro h
    refine raises_bind (refuses_requiredAmount _ _ _) fun amount hamount =>
      raises_bind (raises_fetch trivial) fun indicator hindicator =>
        raises_bind (raises_fetch trivial) fun code hcode =>
          raises_bind (raises_tryMap (fun _ => refuses_detail _ _ _ _) _) fun details hdetails => ?_
    rw [fetch_eq_ok] at hindicator
    rw [readCreditDebit_eq_ok] at hcode
    exact (refuses_timestamps_iff (hlast amount code details)).mpr
      (h ⟨code, ⟨amount, hamount⟩, hcode ▸ hindicator, details, hdetails⟩)

/-- The identity and the account of a statement are read before its entries. -/
def HeaderReads (statement : Element) : Prop :=
  (firstText statement ["Id"]).isSome = true ∧
    ∃ account, (directChildren statement "Acct").head? = some account ∧
      (∃ currency, firstText account ["Ccy"] = some currency ∧ matchesCurrency currency = true) ∧
      (firstText account ["Id", "IBAN"] <|> firstText account ["Id", "Othr", "Id"]).isSome = true

/-- The times of the entries stay in range as far as they are reached, and so do those of the
    period behind entries and balances that are accepted. -/
def StatementStaysClosed (sha256 : ByteArray → String) (statement : Element) : Prop :=
  HeaderReads statement →
    (∀ front numbered rest, (directChildren statement "Ntry").zipIdx 1 = front ++ numbered :: rest →
      (∀ earlier ∈ front, Succeeds (normalizeNumberedEntry sha256 earlier)) →
      numbered.2 ≤ maxEntryCount → EntryStaysClosed sha256 numbered.1 numbered.2) ∧
    (Succeeds (tryMap (normalizeNumberedEntry sha256) ((directChildren statement "Ntry").zipIdx 1)) →
      directChildren statement "Ntry" ≠ [] →
      Succeeds (tryMap (normalizeBalance sha256) (directChildren statement "Bal")) →
      FitInUtc (periodText statement "FrDtTm") (periodText statement "ToDtTm"))

theorem refuses_numberedEntry_iff {numbered : Element × ℕ} :
    Raises isAccountingValidation (normalizeNumberedEntry sha256 numbered) ↔
      (numbered.2 ≤ maxEntryCount → EntryStaysClosed sha256 numbered.1 numbered.2) := by
  unfold normalizeNumberedEntry
  rw [raises_bind_iff, and_iff_right (raises_require trivial)]
  simp only [require_eq_ok, refuses_entry_iff]
  exact ⟨fun h hcount => h () hcount, fun h _ hcount => h hcount⟩

theorem refuses_statement_iff {statement : Element} {payload : ByteArray} :
    Raises isAccountingValidation (normalizeStatement sha256 statement payload) ↔
      StatementStaysClosed sha256 statement := by
  have hlast : ∀ identity currency accountIdText entries balances start finish,
      Raises isAccountingValidation (pure (statementRecord sha256 statement payload
        ⟨identity, currency, accountIdText, entries, balances, start, finish⟩) :
          Result NormalizedBankStatement) := fun _ _ _ _ _ _ _ => raises_pure _
  unfold normalizeStatement requiredText requiredChild requireCurrency StatementStaysClosed HeaderReads
  constructor
  · rintro h ⟨hidentity, account, haccount, ⟨currency, hcurrency, hmatches⟩, haccountId⟩
    obtain ⟨identity, hidentity⟩ := Option.isSome_iff_exists.mp hidentity
    obtain ⟨accountIdText, haccountId⟩ := Option.isSome_iff_exists.mp haccountId
    rw [hidentity, fetch, ok_bind, haccount, fetch, ok_bind, hcurrency, fetch, ok_bind,
      require_of hmatches, ok_bind, haccountId, fetch, ok_bind, raises_bind_iff] at h
    refine ⟨fun front numbered rest hsplit hfront =>
      refuses_numberedEntry_iff.mp (raises_tryMap_iff.mp h.1 front numbered rest hsplit hfront), ?_⟩
    rintro ⟨entries, hentries⟩ hne ⟨balances, hbalances⟩
    have hfilled : entries ≠ [] := by
      intro hnil
      have hlength := tryMap_zipIdx_length hentries
      rw [hnil] at hlength
      exact hne (List.length_eq_zero_iff.mp hlength.symm)
    have hrest := h.2 entries hentries
    rw [require_of hfilled, ok_bind, hbalances, ok_bind] at hrest
    exact (refuses_timestamps_iff (hlast identity currency accountIdText entries balances)).mp hrest
  · intro h
    refine raises_bind (raises_fetch trivial) fun identity hidentity =>
      raises_bind (raises_fetch trivial) fun account haccount =>
        raises_bind (raises_fetch trivial) fun currency hcurrency =>
          raises_bind (raises_require trivial) fun _ hmatches =>
            raises_bind (raises_fetch trivial) fun accountIdText haccountId => ?_
    rw [fetch_eq_ok] at hidentity haccount hcurrency haccountId
    rw [require_eq_ok] at hmatches
    obtain ⟨hentries, hperiod⟩ := h ⟨Option.isSome_iff_exists.mpr ⟨identity, hidentity⟩, account, haccount,
      ⟨currency, hcurrency, hmatches⟩, Option.isSome_iff_exists.mpr ⟨accountIdText, haccountId⟩⟩
    refine raises_bind (raises_tryMap_iff.mpr fun front numbered rest hsplit hfront =>
      refuses_numberedEntry_iff.mpr (hentries front numbered rest hsplit hfront)) fun entries hok =>
        raises_bind (raises_require trivial) fun _ hfilled =>
          raises_bind (raises_tryMap refuses_balance _) fun balances hbalances => ?_
    rw [require_eq_ok] at hfilled
    have hne : directChildren statement "Ntry" ≠ [] := by
      intro hnil
      rw [hnil] at hok
      cases hok
      exact hfilled rfl
    exact (refuses_timestamps_iff (hlast identity currency accountIdText entries balances)).mpr
      (hperiod ⟨entries, hok⟩ hne ⟨balances, hbalances⟩)

/-- The only statement of a document that is accepted as a revision stays closed. -/
def DocumentStaysClosed (sha256 : ByteArray → String) (document : Element) : Prop :=
  document.localName = "Document" → document.namespaceName = camt053Namespace →
    (∀ path ∈ requiredPaths, (findPath path document).isSome = true) →
    ∀ statement, childElements document ["BkToCstmrStmt", "Stmt"] = [statement] →
      StatementStaysClosed sha256 statement

theorem refuses_document_iff {document : Element} {payload : ByteArray} :
    Raises isAccountingValidation (parseDocument sha256 document payload) ↔
      DocumentStaysClosed sha256 document := by
  unfold parseDocument rejectRevisionMismatch requireStructuralPaths DocumentStaysClosed
  rw [raises_bind_iff, and_iff_right (raises_require trivial)]
  simp only [raises_bind_iff, require_eq_ok, fetch_eq_ok, theOnly_eq_some, refuses_statement_iff]
  constructor
  · intro h hname hnamespace hpaths statement hstatement
    exact ((h () ⟨hname, hnamespace⟩).2 () hpaths).2 statement hstatement
  · intro h _ hroot
    exact ⟨raises_require trivial, fun _ hpaths => ⟨raises_fetch trivial, fun statement hstatement =>
      h hroot.1 hroot.2 hpaths statement hstatement⟩⟩

/-- expat knows the encoding, and every timestamp that is reached stays in the calendar. -/
def StaysClosed (sha256 : ByteArray → String) (expat : ExpatStream 0) (payload : ByteArray)
    (messageDefinitionIdentifier : String) : Prop :=
  messageDefinitionIdentifier = camt053MessageDefinition → payload.size ≠ 0 →
    payload.size ≤ maxStatementBytes →
    ¬expat.RaisesLookupError ∧
      ∀ document, parseBoundedXml expat = .ok document → DocumentStaysClosed sha256 document

theorem refuses_payload_iff {expat : ExpatStream 0} {payload : ByteArray}
    {messageDefinitionIdentifier : String} :
    Raises isAccountingValidation
        (parseBankStatementPayload sha256 expat payload messageDefinitionIdentifier) ↔
      StaysClosed sha256 expat payload messageDefinitionIdentifier := by
  unfold parseBankStatementPayload StaysClosed
  rw [raises_bind_iff, and_iff_right (raises_require trivial)]
  simp only [raises_bind_iff, require_eq_ok, parseBoundedXml_raises_iff, refuses_document_iff]
  constructor
  · intro h hdefinition hsize hbound
    exact ((h () hdefinition).2 () hsize).2 () hbound
  · intro h _ hdefinition
    exact ⟨raises_require trivial, fun _ hsize => ⟨raises_require trivial, fun _ hbound =>
      h hdefinition hsize hbound⟩⟩

/-! ## What is returned -/

/-- An accepted entry: positive amounts and times of UTC. -/
structure EntryIsSound (entry : NormalizedStatementEntry) : Prop where
  amount : 0 < entry.entryAmount
  details : ∀ detail ∈ entry.entryDetails, 0 < detail.detailAmount
  times : entry.TimesInRange

/-- An accepted statement. The directions are `CRDT` or `DBIT` by their type. -/
structure IsSound (statement : NormalizedBankStatement) : Prop where
  entries : statement.entries ≠ []
  sound : ∀ entry ∈ statement.entries, EntryIsSound entry
  period : statement.PeriodInRange

theorem positive_of_amountFromElement {node : Element} {label : String} {amount : ℕ × String}
    (h : amountFromElement node label false = .ok amount) : 0 < amount.1 := by
  rcases (amountFromElement_ok h).2 with hne | hzero
  · exact Nat.pos_of_ne_zero hne
  · nomatch hzero

theorem detail_positive {detailNode : Element} {entrySequence detailSequence : ℕ}
    {fallback : CreditDebitCode} {detail : NormalizedEntryDetail}
    (h : normalizeDetail sha256 detailNode entrySequence detailSequence fallback = .ok detail) :
    0 < detail.detailAmount := by
  unfold normalizeDetail at h
  simp only [bind_eq_ok, pure_eq_ok] at h
  obtain ⟨_, -, amount, hamount, _, -, rfl⟩ := h
  exact positive_of_amountFromElement hamount

theorem entryIsSound {entryNode : Element} {sequence : ℕ} {entry : NormalizedStatementEntry}
    (h : normalizeEntry sha256 entryNode sequence = .ok entry) : EntryIsSound entry := by
  have hparsed := parsedEntry h
  obtain ⟨-, -, hdetails⟩ := normalizeEntry_locator h
  refine ⟨?_, fun detail hdetail => ?_, hparsed.times⟩
  · unfold normalizeEntry requiredAmount at h
    simp only [bind_eq_ok, pure_eq_ok] at h
    obtain ⟨amount, ⟨_, -, hamount⟩, _, -, _, -, _, -, _, -, _, -, _, -, rfl⟩ := h
    exact positive_of_amountFromElement hamount
  · obtain ⟨numbered, -, hok⟩ := mem_tryMap hdetails hdetail
    exact detail_positive hok

theorem isSound {document : Element} {payload : ByteArray} {statement : NormalizedBankStatement}
    (h : parseDocument sha256 document payload = .ok statement) : IsSound statement := by
  have hparsed := parsedFrom h
  refine ⟨hparsed.not_empty, fun entry hentry => ?_, (parsedStatement h).period⟩
  obtain ⟨numbered, -, hok⟩ := mem_tryMap hparsed.entries hentry
  exact entryIsSound (normalizeNumberedEntry_ok hok)

/-- Parsing returns a sound statement or raises a validation error. -/
structure ParsesClosed (sha256 : ByteArray → String) (expat : ExpatStream 0) (payload : ByteArray)
    (messageDefinitionIdentifier : String) : Prop where
  returns : ∀ statement, parseBankStatementPayload sha256 expat payload messageDefinitionIdentifier =
    .ok statement → IsSound statement
  raises : Raises isAccountingValidation
    (parseBankStatementPayload sha256 expat payload messageDefinitionIdentifier)

/-- The first day of the calendar, an hour ahead of UTC. -/
def earlyDocument : Element :=
  documentTag [entryTag "10" [tag "BookgDt" "" [tag "DtTm" "0001-01-01T00:00:00+01:00" []]]]

/-- Whether parsing ends with the `OverflowError` of date arithmetic. -/
def overflows (result : Result NormalizedBankStatement) : Bool :=
  match result with
  | .error .dateOverflow => true
  | _ => false

end AccountingPlatform.Bank.Camt
