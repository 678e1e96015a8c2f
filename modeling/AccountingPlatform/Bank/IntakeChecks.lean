/-
  Parsed statements meet the checks of their tables.

  What the parser accepts passes every CHECK and fits every `integer` column
  (`parsed_storable`); an amount may still exceed `numeric(38, 6)`. The digest is taken to
  have the form of SHA-256 digests.
-/
import AccountingPlatform.Bank.ParsingClosure
import AccountingPlatform.Bank.StatementIntake

namespace AccountingPlatform.Bank.Camt

open AccountingPlatform.Lib AccountingPlatform.Lib.Xml AccountingPlatform.Core
  AccountingPlatform.Postgres

variable {sha256 : ByteArray → String}

/-! ## Texts -/

theorem isFilled_of_mem {text : String} {c : Char} (hc : c ∈ text.toList) (hspace : c ≠ ' ') :
    IsFilled text := ⟨c, hc, hspace⟩

theorem isFilled_entryLocator (sequence : ℕ) : IsFilled (entryLocator sequence) := by
  refine isFilled_of_mem (c := 'D') ?_ (by decide)
  unfold entryLocator
  rw [String.toList_append, String.toList_append, List.append_assoc]
  exact List.mem_append_left _ (by decide +kernel)

theorem isFilled_detailLocator (entrySequence detailSequence : ℕ) :
    IsFilled (detailLocator entrySequence detailSequence) := by
  refine isFilled_of_mem (c := 'D') ?_ (by decide)
  unfold detailLocator
  rw [String.toList_append, String.toList_append, String.toList_append, String.toList_append,
    List.append_assoc, List.append_assoc, List.append_assoc]
  exact List.mem_append_left _ (by decide +kernel)

theorem isFilled_putArtifact (hash : String) : IsFilled (putArtifact hash) := by
  refine isFilled_of_mem (c := 'm') ?_ (by decide)
  unfold putArtifact
  rw [String.toList_append]
  exact List.mem_append_left _ (by decide +kernel)

/-- A text that is stripped and not empty has a character that is no space. -/
theorem isFilled_strip {text : String} (h : strip text ≠ "") : IsFilled (strip text) := by
  unfold strip at h ⊢
  rw [ne_eq, ← String.toList_inj, String.toList_ofList] at h
  obtain ⟨front, last, hsplit⟩ : ∃ front last,
      ((text.toList.dropWhile isSpace).reverse.dropWhile isSpace) = last :: front := by
    cases hlist : (text.toList.dropWhile isSpace).reverse.dropWhile isSpace with
    | nil => exact absurd (by rw [hlist]; rfl) h
    | cons last front => exact ⟨front, last, rfl⟩
  have hlast : isSpace last = false := by
    have hhead := List.head?_dropWhile_not isSpace (text.toList.dropWhile isSpace).reverse
    rw [hsplit, List.head?_cons] at hhead
    simpa using hhead
  refine isFilled_of_mem (c := last) ?_ fun hspace => ?_
  · rw [String.toList_ofList, hsplit]
    simp
  · rw [hspace] at hlast
    exact absurd hlast (by decide)

theorem isFilled_firstText {parent : Element} {path : List String} {text : String}
    (h : firstText parent path = some text) : IsFilled text := by
  unfold firstText textOrNone at h
  rw [Option.bind_eq_some_iff] at h
  obtain ⟨node, -, htext⟩ := h
  split at htext
  · nomatch htext
  · next hne =>
    rw [Option.some.injEq] at htext
    exact htext ▸ isFilled_strip hne

/-! ## Currencies -/

theorem currency_of_amountFromElement {node : Element} {label : String} {allowZero : Bool}
    {amount : ℕ × String} (h : amountFromElement node label allowZero = .ok amount) :
    matchesCurrency amount.2 = true := by
  unfold amountFromElement requireCurrency at h
  simp only [bind_eq_ok, onValidation_eq_ok, require_eq_ok, pure_eq_ok] at h
  obtain ⟨_, hcurrency, _, -, _, -, rfl⟩ := h
  exact hcurrency

/-! ## Numbers -/

theorem length_named_le (name : String) (elements : List Element) :
    weighAll (fun _ => 1) (named name elements) ≤ weighAll (fun _ => 1) elements := by
  unfold named
  induction elements with
  | nil => exact Nat.le_refl _
  | cons element elements ih =>
    rw [List.filter_cons]
    split
    · rw [weighAll, weighAll]
      exact Nat.add_le_add_left ih _
    · rw [weighAll]
      exact ih.trans (Nat.le_add_left _ _)

/-- Elements further down are no more than those they stand in. -/
theorem weighAll_children_le (name : String) (nodes : List Element) :
    weighAll (fun _ => 1) (nodes.flatMap fun node => directChildren node name) ≤
      weighAll (fun _ => 1) nodes := by
  induction nodes with
  | nil => exact Nat.le_refl _
  | cons node nodes ih =>
    rw [List.flatMap_cons, weighAll_append, weighAll, weigh_one]
    have hnamed := length_named_le name node.children
    unfold directChildren
    unfold directChildren at ih
    omega

theorem length_le_weighAll (elements : List Element) :
    elements.length ≤ weighAll (fun _ => 1) elements := by
  induction elements with
  | nil => exact Nat.le_refl _
  | cons element elements ih =>
    rw [List.length_cons, weighAll, weigh_one]
    omega

theorem weighAll_childElements_le (path : List String) (parent : Element) :
    weighAll (fun _ => 1) (childElements parent path) ≤ weigh (fun _ => 1) parent := by
  have hfold : ∀ nodes : List Element, weighAll (fun _ => 1)
      (path.foldl (fun nodes name => nodes.flatMap fun node => directChildren node name) nodes) ≤
        weighAll (fun _ => 1) nodes := by
    induction path with
    | nil => exact fun nodes => Nat.le_refl _
    | cons name path ih => exact fun nodes => (ih _).trans (weighAll_children_le name nodes)
  have hparent := hfold [parent]
  rw [weighAll, weighAll, Nat.add_zero] at hparent
  exact hparent

theorem weigh_le_of_mem {element : Element} {elements : List Element} (h : element ∈ elements) :
    weigh (fun _ => 1) element ≤ weighAll (fun _ => 1) elements := by
  induction elements with
  | nil => nomatch h
  | cons other elements ih =>
    rw [weighAll]
    rcases List.mem_cons.mp h with rfl | h
    · exact Nat.le_add_right _ _
    · exact (ih h).trans (Nat.le_add_left _ _)

/-- No entry of a document has more details than the document may have elements. -/
theorem sourceDetails_length_le {document entryNode : Element}
    (hbound : weigh (fun _ => 1) document ≤ maxElementCount) (hentry : entryNode ∈ sourceEntries document) :
    (sourceDetails entryNode).length ≤ maxElementCount :=
  calc (sourceDetails entryNode).length
    _ ≤ weighAll (fun _ => 1) (sourceDetails entryNode) := length_le_weighAll _
    _ ≤ weigh (fun _ => 1) entryNode := weighAll_childElements_le _ _
    _ ≤ weighAll (fun _ => 1) (sourceEntries document) := weigh_le_of_mem hentry
    _ ≤ weigh (fun _ => 1) document := weighAll_childElements_le _ _
    _ ≤ maxElementCount := hbound

theorem fitsInt4_of_le {n m : ℕ} (h : n ≤ m) (hm : m < 2 ^ 31) : fitsInt4 n := by
  unfold fitsInt4
  omega

/-! ## Rows of parsed records -/

section Rows

variable (hdigest : ∀ bytes, matchesHash (sha256 bytes) = true)

include hdigest

theorem detailRow_passes {detailNode : Element} {entrySequence k : ℕ} {fallback : CreditDebitCode}
    {detail : NormalizedEntryDetail}
    (h : normalizeDetail sha256 detailNode entrySequence (k + 1) fallback = .ok detail) (entryId : ℕ) :
    (detailRow entryId detail).Passes := by
  obtain ⟨hnumber, hlocator⟩ := normalizeDetail_locator h
  have hamount := detail_positive h
  unfold normalizeDetail at h
  simp only [bind_eq_ok, pure_eq_ok] at h
  obtain ⟨_, -, amount, hread, _, -, rfl⟩ := h
  exact ⟨Nat.succ_pos k, isFilled_detailLocator entrySequence (k + 1), hamount,
    currency_of_amountFromElement hread, hdigest _⟩

theorem entryRow_passes {entryNode : Element} {i : ℕ} {entry : NormalizedStatementEntry}
    (h : normalizeEntry sha256 entryNode (i + 1) = .ok entry) (statementId entryId : ℕ) :
    (entryRow statementId entryId entry).Passes := by
  have hamount := (entryIsSound h).amount
  unfold normalizeEntry requiredAmount at h
  simp only [bind_eq_ok, pure_eq_ok] at h
  obtain ⟨amount, ⟨_, -, hread⟩, _, -, _, -, _, -, _, -, _, -, _, -, rfl⟩ := h
  refine ⟨Nat.succ_pos i, isFilled_entryLocator (i + 1), hamount, currency_of_amountFromElement hread,
    ?_, hdigest _⟩
  intro hash hhash
  obtain ⟨name, -, rfl⟩ := Option.mem_map.mp hhash
  exact hdigest _

/-- The hash of a balance is a digest. -/
theorem balanceHash_matches {nodes : List Element} {balances : List (Option String × String)}
    (h : tryMap (normalizeBalance sha256) nodes = .ok balances) (code : String) :
    MatchesHashOrNull (balanceHash balances code) := by
  intro hash hhash
  unfold balanceHash at hhash
  obtain ⟨balance, hfound, rfl⟩ := Option.mem_map.mp hhash
  obtain ⟨node, -, hok⟩ := mem_tryMap h (List.mem_of_find?_eq_some hfound)
  unfold normalizeBalance at hok
  simp only [bind_eq_ok, pure_eq_ok] at hok
  obtain ⟨_, -, _, -, rfl⟩ := hok
  exact hdigest _

/-- The row of a parsed statement passes its checks if its key does. -/
theorem recordRow_passes {document : Element} {payload : ByteArray} {statement : NormalizedBankStatement}
    (h : parseDocument sha256 document payload = .ok statement) (account : BankAccountRecord)
    {key : String} (hkey : IsFilled key) (statementId artifactId : ℕ) :
    passesRecord (recordRow statement account key statementId artifactId) := by
  unfold parseDocument normalizeStatement requiredText at h
  simp only [bind_eq_ok, pure_eq_ok, fetch_eq_ok] at h
  obtain ⟨_, -, _, -, node, -, identity, hidentity, _, -, _, -, _, -, _, -, _, -, _, -, balances, hbalances,
    _, -, _, -, rfl⟩ := h
  exact ⟨rfl, isFilled_firstText hidentity, balanceHash_matches hdigest hbalances "OPBD",
    balanceHash_matches hdigest hbalances "CLBD", hdigest _, hdigest _, hkey⟩

end Rows

/-! ## Statements -/

/-- Everything of a statement but its amounts can be stored. -/
structure Storable (statement : NormalizedBankStatement) : Prop where
  numbers : statement.entries.map NormalizedStatementEntry.entrySequenceNumber =
    List.range' 1 statement.entries.length
  entries : ∀ entry ∈ statement.entries, fitsInt4 entry.entrySequenceNumber ∧
    ∀ statementId entryId, (entryRow statementId entryId entry).Passes
  detail_numbers : ∀ entry ∈ statement.entries,
    entry.entryDetails.map NormalizedEntryDetail.detailSequenceNumber =
      List.range' 1 entry.entryDetails.length
  details : ∀ entry ∈ statement.entries, ∀ detail ∈ entry.entryDetails,
    fitsInt4 detail.detailSequenceNumber ∧ ∀ entryId, (detailRow entryId detail).Passes
  record : ∀ account key, IsFilled key → ∀ statementId artifactId,
    passesRecord (recordRow statement account key statementId artifactId)

/-- What a turn keeps of its number counts from one. -/
theorem map_numbers {α β : Type} {f : α × ℕ → Result β} {number : β → ℕ}
    (hnumber : ∀ numbered b, f numbered = .ok b → number b = numbered.2) {as : List α} {bs : List β}
    (h : tryMap f (as.zipIdx 1) = .ok bs) : bs.map number = List.range' 1 bs.length := by
  rw [map_tryMap hnumber h, List.zipIdx_map_snd, tryMap_zipIdx_length h]

theorem parsed_storable (hdigest : ∀ bytes, matchesHash (sha256 bytes) = true) {expat : ExpatStream 0}
    {document : Element} {payload : ByteArray} {statement : NormalizedBankStatement}
    (hread : parseBoundedXml expat = .ok document)
    (h : parseDocument sha256 document payload = .ok statement) : Storable statement := by
  have hparsed := parsedFrom h
  have hbound := parseBoundedXml_count hread
  -- the element and the number of an entry
  have hentry : ∀ entry ∈ statement.entries, ∃ i entryNode, entryNode ∈ sourceEntries document ∧
      i + 1 ≤ maxEntryCount ∧ normalizeEntry sha256 entryNode (i + 1) = .ok entry := by
    intro entry hmem
    obtain ⟨i, hi⟩ := List.mem_iff_getElem?.mp hmem
    obtain ⟨entryNode, hnode, hok⟩ := tryMap_zipIdx_getElem? hparsed.entries hi
    refine ⟨i, entryNode, List.mem_of_getElem? hnode, ?_, normalizeNumberedEntry_ok hok⟩
    unfold normalizeNumberedEntry at hok
    simp only [bind_eq_ok, require_eq_ok] at hok
    obtain ⟨_, hcount, -⟩ := hok
    exact hcount
  have hdetail : ∀ entry ∈ statement.entries, ∀ detail ∈ entry.entryDetails, ∃ k detailNode sequence,
      k + 1 ≤ maxElementCount ∧
      normalizeDetail sha256 detailNode sequence (k + 1) entry.creditDebitCode = .ok detail := by
    intro entry hmem detail hdetail
    obtain ⟨i, entryNode, hnode, -, hok⟩ := hentry entry hmem
    obtain ⟨-, -, hdetails⟩ := normalizeEntry_locator hok
    obtain ⟨k, hk⟩ := List.mem_iff_getElem?.mp hdetail
    obtain ⟨detailNode, hdetailNode, hdetailOk⟩ := tryMap_zipIdx_getElem? hdetails hk
    obtain ⟨hlt, -⟩ := List.getElem?_eq_some_iff.mp hdetailNode
    exact ⟨k, detailNode, i + 1, hlt.trans_le (sourceDetails_length_le hbound hnode), hdetailOk⟩
  constructor
  · exact map_numbers (fun _ _ hok => (normalizeEntry_locator (normalizeNumberedEntry_ok hok)).1)
      hparsed.entries
  · intro entry hmem
    obtain ⟨i, entryNode, -, hcount, hok⟩ := hentry entry hmem
    refine ⟨?_, entryRow_passes hdigest hok⟩
    rw [(normalizeEntry_locator hok).1]
    exact fitsInt4_of_le hcount (by decide)
  · intro entry hmem
    obtain ⟨i, entryNode, -, -, hok⟩ := hentry entry hmem
    obtain ⟨-, -, hdetails⟩ := normalizeEntry_locator hok
    exact map_numbers (fun _ _ hok => (normalizeDetail_locator hok).1) hdetails
  · intro entry hmem detail hdetailMem
    obtain ⟨k, detailNode, sequence, hcount, hok⟩ := hdetail entry hmem detail hdetailMem
    refine ⟨?_, detailRow_passes hdigest hok⟩
    rw [(normalizeDetail_locator hok).1]
    exact fitsInt4_of_le hcount (by decide)
  · intro account key hkey
    exact recordRow_passes hdigest h account hkey

end AccountingPlatform.Bank.Camt
