/-
  Where the source locators of a parsed statement lead.

  Details are numbered over all `NtryDtls` blocks of their entry, while a locator names the
  first block. `sourceEntries` and `sourceDetails` are the elements the loops of the parser go
  through; `LeadsFirst` says when every locator leads to its element.
-/
import AccountingPlatform.Bank.StatementParsing
import Mathlib.Data.List.Nodup

namespace AccountingPlatform.Bank.Camt

open AccountingPlatform.Lib AccountingPlatform.Lib.Xml AccountingPlatform.Core
  AccountingPlatform.Postgres

variable {sha256 : ByteArray → String}

/-! ## Loops with a counter -/

/-- The result of a turn comes from the element of that turn. -/
theorem tryMap_getElem? {α β : Type} {f : α → Result β} {as : List α} {bs : List β}
    (h : tryMap f as = .ok bs) {i : ℕ} {b : β} (hb : bs[i]? = some b) :
    ∃ a, as[i]? = some a ∧ f a = .ok b := by
  have hall := tryMap_ok h
  clear h
  induction hall generalizing i with
  | nil => nomatch hb
  | @cons a b' as bs hfirst _ ih =>
    cases i with
    | zero =>
      rw [List.getElem?_cons_zero, Option.some.injEq] at hb
      exact ⟨a, rfl, hb ▸ hfirst⟩
    | succ i => exact ih hb

/-- Elements numbered from one. -/
theorem tryMap_zipIdx_getElem? {α β : Type} {f : α × ℕ → Result β} {as : List α} {bs : List β}
    (h : tryMap f (as.zipIdx 1) = .ok bs) {i : ℕ} {b : β} (hb : bs[i]? = some b) :
    ∃ a, as[i]? = some a ∧ f (a, i + 1) = .ok b := by
  obtain ⟨⟨a, n⟩, hnumbered, hok⟩ := tryMap_getElem? h hb
  rw [List.getElem?_zipIdx, Option.map_eq_some_iff] at hnumbered
  obtain ⟨a', ha', hpair⟩ := hnumbered
  obtain ⟨rfl, rfl⟩ := Prod.mk.inj hpair
  exact ⟨a', ha', Nat.add_comm 1 i ▸ hok⟩

theorem tryMap_zipIdx_length {α β : Type} {f : α × ℕ → Result β} {as : List α} {bs : List β}
    (h : tryMap f (as.zipIdx 1) = .ok bs) : bs.length = as.length := by
  rw [tryMap_length h, List.length_zipIdx]

/-- What a turn keeps of its number is a numbering. -/
theorem map_tryMap_zipIdx {α β : Type} {f : α × ℕ → Result β} {number : β → ℕ}
    (hnumber : ∀ numbered b, f numbered = .ok b → number b = numbered.2) {as : List α} {bs : List β}
    (h : tryMap f (as.zipIdx 1) = .ok bs) : (bs.map number).Nodup := by
  rw [map_tryMap hnumber h, List.zipIdx_map_snd]
  exact List.nodup_range'

/-! ## What parsing says of its records -/

theorem normalizeDetail_locator {detailNode : Element} {entrySequence detailSequence : ℕ}
    {fallback : CreditDebitCode} {detail : NormalizedEntryDetail}
    (h : normalizeDetail sha256 detailNode entrySequence detailSequence fallback = .ok detail) :
    detail.detailSequenceNumber = detailSequence ∧
      detail.sourceLocatorPath = detailLocator entrySequence detailSequence := by
  unfold normalizeDetail at h
  simp only [bind_eq_ok, pure_eq_ok] at h
  obtain ⟨_, -, _, -, _, -, rfl⟩ := h
  exact ⟨rfl, rfl⟩

/-- The elements an entry takes its details from. -/
def sourceDetails (entryNode : Element) : List Element := childElements entryNode ["NtryDtls", "TxDtls"]

theorem normalizeEntry_locator {entryNode : Element} {sequence : ℕ} {entry : NormalizedStatementEntry}
    (h : normalizeEntry sha256 entryNode sequence = .ok entry) :
    entry.entrySequenceNumber = sequence ∧ entry.sourceLocatorPath = entryLocator sequence ∧
      tryMap (fun numbered =>
        normalizeDetail sha256 numbered.1 sequence numbered.2 entry.creditDebitCode)
        ((sourceDetails entryNode).zipIdx 1) = .ok entry.entryDetails := by
  unfold normalizeEntry at h
  simp only [bind_eq_ok, pure_eq_ok] at h
  obtain ⟨_, -, _, -, code, -, details, hdetails, _, -, _, -, _, -, rfl⟩ := h
  exact ⟨rfl, rfl, hdetails⟩

theorem normalizeNumberedEntry_ok {numbered : Element × ℕ} {entry : NormalizedStatementEntry}
    (h : normalizeNumberedEntry sha256 numbered = .ok entry) :
    normalizeEntry sha256 numbered.1 numbered.2 = .ok entry := by
  unfold normalizeNumberedEntry at h
  simp only [bind_eq_ok] at h
  obtain ⟨_, -, hentry⟩ := h
  exact hentry

/-- The elements the entries of a document are taken from. -/
def sourceEntries (document : Element) : List Element :=
  childElements document ["BkToCstmrStmt", "Stmt", "Ntry"]

/-- What a parsed document has. -/
structure ParsedFrom (document : Element) (statement : NormalizedBankStatement) : Prop where
  root : document.localName = "Document"
  one_statement : ∃ node, childElements document ["BkToCstmrStmt", "Stmt"] = [node]
  entries : tryMap (normalizeNumberedEntry sha256) ((sourceEntries document).zipIdx 1) =
    .ok statement.entries
  not_empty : statement.entries ≠ []

theorem normalizeStatement_entries {node : Element} {payload : ByteArray}
    {statement : NormalizedBankStatement} (h : normalizeStatement sha256 node payload = .ok statement) :
    tryMap (normalizeNumberedEntry sha256) ((directChildren node "Ntry").zipIdx 1) =
      .ok statement.entries ∧ statement.entries ≠ [] := by
  unfold normalizeStatement at h
  simp only [bind_eq_ok, pure_eq_ok, require_eq_ok] at h
  obtain ⟨_, -, _, -, _, -, _, -, _, -, entries, hentries, _, hne, _, -, _, -, _, -, rfl⟩ := h
  exact ⟨hentries, hne⟩

theorem theOnly_eq_some {α : Type} {as : List α} {a : α} : theOnly as = some a ↔ as = [a] := by
  unfold theOnly
  split
  · simp
  · next hne =>
    constructor
    · nofun
    · intro h
      exact absurd h (hne a)

theorem childElements_append (parent : Element) (path : List String) (name : String) :
    childElements parent (path ++ [name]) =
      (childElements parent path).flatMap fun node => directChildren node name := by
  unfold childElements
  rw [List.foldl_append]
  rfl

theorem parsedFrom {document : Element} {payload : ByteArray} {statement : NormalizedBankStatement}
    (h : parseDocument sha256 document payload = .ok statement) :
    @ParsedFrom sha256 document statement := by
  unfold parseDocument rejectRevisionMismatch at h
  simp only [bind_eq_ok, require_eq_ok, fetch_eq_ok, theOnly_eq_some] at h
  obtain ⟨_, ⟨hroot, -⟩, _, -, node, hnode, hstatement⟩ := h
  obtain ⟨hentries, hne⟩ := normalizeStatement_entries hstatement
  have hsource : sourceEntries document = directChildren node "Ntry" := by
    have happend := childElements_append document ["BkToCstmrStmt", "Stmt"] "Ntry"
    rw [hnode, List.flatMap_singleton] at happend
    exact happend
  exact ⟨hroot, ⟨node, hnode⟩, hsource ▸ hentries, hne⟩

/-! ## Locators as paths -/

def entryPath (sequence : ℕ) : List Step :=
  [⟨"Document", none⟩, ⟨"BkToCstmrStmt", none⟩, ⟨"Stmt", none⟩, ⟨"Ntry", some sequence⟩]

def detailPath (entrySequence detailSequence : ℕ) : List Step :=
  entryPath entrySequence ++ [⟨"NtryDtls", none⟩, ⟨"TxDtls", some detailSequence⟩]

theorem toString_chars (n : ℕ) : (toString n).toList = Nat.toDigits 10 n := by
  rw [Nat.toString_eq_repr, Nat.toList_repr]

/-- What stands before the place of an entry. -/
theorem entryLocator_front : "Document/BkToCstmrStmt/Stmt/Ntry[".toList = "Document".toList ++ '/' ::
    ("BkToCstmrStmt".toList ++ '/' :: ("Stmt".toList ++ '/' :: ("Ntry".toList ++ ['[']))) := by
  decide +kernel

theorem bracket_chars : "]".toList = [']'] := by decide +kernel

theorem entryLocator_eq (sequence : ℕ) : entryLocator sequence = pathText (entryPath sequence) := by
  rw [← String.toList_inj]
  unfold entryLocator pathText entryPath Step.chars
  rw [String.toList_ofList, String.toList_append, String.toList_append, toString_chars,
    entryLocator_front, bracket_chars]
  simp only [List.map_cons, List.map_nil, List.intercalate_cons_cons, List.intercalate_singleton,
    List.append_nil, List.append_assoc, List.cons_append, List.nil_append]

theorem detailLocator_eq (entrySequence detailSequence : ℕ) :
    detailLocator entrySequence detailSequence = pathText (detailPath entrySequence detailSequence) := by
  have hmiddle : "]/NtryDtls/TxDtls[".toList =
      ']' :: '/' :: ("NtryDtls".toList ++ '/' :: ("TxDtls".toList ++ ['['])) := by decide +kernel
  rw [← String.toList_inj]
  unfold detailLocator pathText detailPath entryPath Step.chars
  rw [String.toList_ofList, String.toList_append, String.toList_append, String.toList_append,
    String.toList_append, toString_chars, toString_chars, entryLocator_front, hmiddle, bracket_chars]
  simp only [List.cons_append, List.nil_append, List.map_cons, List.map_nil,
    List.intercalate_cons_cons, List.intercalate_singleton, List.append_nil, List.append_assoc]

/-- Element names of the message have no marks of a path. -/
theorem plain_names : ∀ name ∈ ["Document", "BkToCstmrStmt", "Stmt", "Ntry", "NtryDtls", "TxDtls"],
    '/' ∉ name.toList ∧ '[' ∉ name.toList := by
  decide +kernel

theorem detailPath_plain (entrySequence detailSequence : ℕ) :
    ∀ step ∈ detailPath entrySequence detailSequence, step.IsPlain := by
  intro step hstep
  simp only [detailPath, entryPath, List.cons_append, List.nil_append, List.mem_cons,
    List.not_mem_nil, or_false] at hstep
  rcases hstep with rfl | rfl | rfl | rfl | rfl | rfl
  all_goals exact plain_names _ (by simp)

theorem entryPath_plain (sequence : ℕ) : ∀ step ∈ entryPath sequence, step.IsPlain := fun step hstep =>
  detailPath_plain sequence 0 step (List.mem_append_left _ hstep)

theorem entryPath_ne_nil (sequence : ℕ) : entryPath sequence ≠ [] := List.cons_ne_nil _ _

theorem detailPath_ne_nil (entrySequence detailSequence : ℕ) :
    detailPath entrySequence detailSequence ≠ [] := List.cons_ne_nil _ _

theorem resolve_entryLocator (document : Element) (sequence : ℕ) :
    document.resolve (entryLocator sequence) = follow (entryPath sequence) [document] := by
  rw [Element.resolve, entryLocator_eq, readPath_pathText (entryPath_ne_nil _) (entryPath_plain sequence)]
  rfl

theorem resolve_detailLocator (document : Element) (entrySequence detailSequence : ℕ) :
    document.resolve (detailLocator entrySequence detailSequence) =
      follow (detailPath entrySequence detailSequence) [document] := by
  rw [Element.resolve, detailLocator_eq,
    readPath_pathText (detailPath_ne_nil _ _) (detailPath_plain entrySequence detailSequence)]
  rfl

/-! ## Distinct locators -/

theorem entryLocator_inj {i j : ℕ} (h : entryLocator i = entryLocator j) : i = j := by
  rw [entryLocator_eq, entryLocator_eq] at h
  have hpath := pathText_injective (entryPath_ne_nil i) (entryPath_ne_nil j) (entryPath_plain i)
    (entryPath_plain j) h
  simpa [entryPath] using hpath

theorem detailLocator_inj {i k j l : ℕ} (h : detailLocator i k = detailLocator j l) : i = j ∧ k = l := by
  rw [detailLocator_eq, detailLocator_eq] at h
  have hpath := pathText_injective (detailPath_ne_nil i k) (detailPath_ne_nil j l) (detailPath_plain i k)
    (detailPath_plain j l) h
  simpa [detailPath, entryPath] using hpath

theorem entryLocator_ne_detailLocator (i j k : ℕ) : entryLocator i ≠ detailLocator j k := by
  intro h
  rw [entryLocator_eq, detailLocator_eq] at h
  have hpath := pathText_injective (entryPath_ne_nil i) (detailPath_ne_nil j k) (entryPath_plain i)
    (detailPath_plain j k) h
  exact absurd (congrArg List.length hpath) (show (4 : ℕ) ≠ 6 by decide)

/-- The locators of an entry and of its details. -/
def entryLocators (entry : NormalizedStatementEntry) : List String :=
  entry.sourceLocatorPath :: entry.entryDetails.map NormalizedEntryDetail.sourceLocatorPath

def locators (statement : NormalizedBankStatement) : List String :=
  statement.entries.flatMap entryLocators

/-- The locators of the entry of a number. -/
theorem mem_entryLocators {entryNode : Element} {sequence : ℕ} {entry : NormalizedStatementEntry}
    (h : normalizeEntry sha256 entryNode sequence = .ok entry) {locator : String}
    (hlocator : locator ∈ entryLocators entry) :
    locator = entryLocator sequence ∨ ∃ k, locator = detailLocator sequence k := by
  obtain ⟨-, hpath, hdetails⟩ := normalizeEntry_locator h
  rcases List.mem_cons.mp hlocator with rfl | hlocator
  · exact .inl hpath
  · obtain ⟨detail, hdetail, rfl⟩ := List.mem_map.mp hlocator
    obtain ⟨numbered, -, hok⟩ := mem_tryMap hdetails hdetail
    exact .inr ⟨_, (normalizeDetail_locator hok).2⟩

theorem entryLocators_nodup {entryNode : Element} {sequence : ℕ} {entry : NormalizedStatementEntry}
    (h : normalizeEntry sha256 entryNode sequence = .ok entry) : (entryLocators entry).Nodup := by
  obtain ⟨-, hpath, hdetails⟩ := normalizeEntry_locator h
  have hnumbers : (entry.entryDetails.map NormalizedEntryDetail.detailSequenceNumber).Nodup :=
    map_tryMap_zipIdx (fun _ _ hok => (normalizeDetail_locator hok).1) hdetails
  have hlocator : ∀ detail ∈ entry.entryDetails,
      detail.sourceLocatorPath = detailLocator sequence detail.detailSequenceNumber := by
    intro detail hdetail
    obtain ⟨numbered, -, hok⟩ := mem_tryMap hdetails hdetail
    obtain ⟨hnumber, hdetailPath⟩ := normalizeDetail_locator hok
    rw [hnumber, hdetailPath]
  rw [entryLocators, List.nodup_cons]
  constructor
  · intro hmem
    obtain ⟨detail, hdetail, hsame⟩ := List.mem_map.mp hmem
    rw [hlocator detail hdetail, hpath] at hsame
    exact entryLocator_ne_detailLocator _ _ _ hsame.symm
  · rw [List.map_congr_left hlocator]
    have hmap : entry.entryDetails.map (fun detail => detailLocator sequence detail.detailSequenceNumber) =
        (entry.entryDetails.map NormalizedEntryDetail.detailSequenceNumber).map
          (detailLocator sequence) := by rw [List.map_map]; rfl
    rw [hmap]
    exact hnumbers.map fun k l hsame => (detailLocator_inj hsame).2

theorem locators_nodup {document : Element} {statement : NormalizedBankStatement}
    (h : @ParsedFrom sha256 document statement) : (locators statement).Nodup := by
  have hentry : ∀ entry ∈ statement.entries, ∃ entryNode,
      normalizeEntry sha256 entryNode entry.entrySequenceNumber = .ok entry := by
    intro entry hmem
    obtain ⟨numbered, -, hok⟩ := mem_tryMap h.entries hmem
    have hnormal := normalizeNumberedEntry_ok hok
    exact ⟨numbered.1, (normalizeEntry_locator hnormal).1 ▸ hnormal⟩
  have hnumbers : (statement.entries.map NormalizedStatementEntry.entrySequenceNumber).Nodup :=
    map_tryMap_zipIdx (fun _ _ hok => (normalizeEntry_locator (normalizeNumberedEntry_ok hok)).1) h.entries
  unfold locators
  rw [List.nodup_flatMap]
  constructor
  · intro entry hmem
    obtain ⟨entryNode, hok⟩ := hentry entry hmem
    exact entryLocators_nodup hok
  · rw [List.nodup_iff_pairwise_ne, List.pairwise_map] at hnumbers
    refine hnumbers.imp_of_mem fun {a b} ha hb hne => ?_
    intro locator hina hinb
    obtain ⟨nodeA, hokA⟩ := hentry a ha
    obtain ⟨nodeB, hokB⟩ := hentry b hb
    rcases mem_entryLocators hokA hina with rfl | ⟨k, rfl⟩
    · rcases mem_entryLocators hokB hinb with hsame | ⟨l, hsame⟩
      · exact hne (entryLocator_inj hsame)
      · exact entryLocator_ne_detailLocator _ _ _ hsame
    · rcases mem_entryLocators hokB hinb with hsame | ⟨l, hsame⟩
      · exact entryLocator_ne_detailLocator _ _ _ hsame.symm
      · exact hne (detailLocator_inj hsame).1

/-! ## Where locators lead -/

/-- Every record comes from the element its locator leads to, and no locator occurs twice. -/
structure LocatorsLead (sha256 : ByteArray → String) (document : Element)
    (statement : NormalizedBankStatement) : Prop where
  distinct : (locators statement).Nodup
  lead : ∀ i entry, statement.entries[i]? = some entry → ∃ entryNode,
    (sourceEntries document)[i]? = some entryNode ∧
    normalizeEntry sha256 entryNode (i + 1) = .ok entry ∧
    document.resolve entry.sourceLocatorPath = some entryNode ∧
    ∀ k detail, entry.entryDetails[k]? = some detail → ∃ detailNode,
      (sourceDetails entryNode)[k]? = some detailNode ∧
      normalizeDetail sha256 detailNode (i + 1) (k + 1) entry.creditDebitCode = .ok detail ∧
      document.resolve detail.sourceLocatorPath = some detailNode

/-- The first message holds the statement, and only the first block of an entry holds details. -/
structure LeadsFirst (document : Element) : Prop where
  message : ∀ message ∈ (directChildren document "BkToCstmrStmt").head?,
    directChildren message "Stmt" ≠ []
  block : ∀ entryNode ∈ sourceEntries document, ∀ block ∈ (directChildren entryNode "NtryDtls").tail,
    directChildren block "TxDtls" = []

instance decLeadsFirst (document : Element) : Decidable (LeadsFirst document) :=
  decidable_of_iff ((∀ message ∈ (directChildren document "BkToCstmrStmt").head?,
      directChildren message "Stmt" ≠ []) ∧
      ∀ entryNode ∈ sourceEntries document, ∀ block ∈ (directChildren entryNode "NtryDtls").tail,
        directChildren block "TxDtls" = [])
    ⟨fun h => ⟨h.1, h.2⟩, fun h => ⟨h.message, h.block⟩⟩

section FirstPart

variable {α β : Type} {f : α → List β} {as : List α}

/-- What the parts hold together is found in the first part exactly when it holds all. -/
theorem first_getElem?_iff :
    (∀ (k : ℕ) b, (as.flatMap f)[k]? = some b → (as.head?.bind fun a => (f a)[k]?) = some b) ↔
      ∀ a ∈ as.tail, f a = [] := by
  cases as with
  | nil => exact iff_of_true (fun k b h => nomatch h) (fun a h => nomatch h)
  | cons a as =>
    rw [List.flatMap_cons, List.tail_cons, ← List.flatMap_eq_nil_iff]
    simp only [List.head?_cons, Option.bind_some]
    constructor
    · intro h
      by_contra hne
      obtain ⟨b, rest, hrest⟩ := List.exists_cons_of_ne_nil hne
      have hbeyond := h (f a).length b (by rw [hrest, List.getElem?_append_right (Nat.le_refl _),
        Nat.sub_self, List.getElem?_cons_zero])
      rw [List.getElem?_eq_none (Nat.le_refl _)] at hbeyond
      nomatch hbeyond
    · intro h k b hb
      rwa [h, List.append_nil] at hb

/-- A single thing among the parts is the first of the first part, unless that is empty. -/
theorem first_head?_iff {b : β} (h : as.flatMap f = [b]) :
    (as.head?.bind fun a => (f a).head?) = some b ↔ ∀ a ∈ as.head?, f a ≠ [] := by
  cases as with
  | nil => nomatch h
  | cons a as =>
    simp only [List.head?_cons, Option.bind_some, Option.mem_some_iff, forall_eq']
    cases hfirst : f a with
    | nil => exact iff_of_false nofun (absurd rfl)
    | cons b' rest =>
      rw [List.flatMap_cons, hfirst, List.cons_append, List.cons.injEq] at h
      rw [h.1, List.head?_cons]
      exact iff_of_true rfl (List.cons_ne_nil _ _)

end FirstPart

/-- The statement that paths of the first children lead to. -/
def firstStatement (document : Element) : Option Element :=
  (directChildren document "BkToCstmrStmt").head?.bind fun message => (directChildren message "Stmt").head?

theorem follow_entryPath {document : Element} (hroot : document.localName = "Document") (i : ℕ) :
    follow (entryPath (i + 1)) [document] =
      (firstStatement document).bind fun statement => (directChildren statement "Ntry")[i]? := by
  have hself : named "Document" [document] = [document] := by
    rw [named, List.filter_cons_of_pos (by rw [hroot]; decide), List.filter_nil]
  simp only [entryPath, follow, Step.pick, hself, List.head?_cons, Option.bind_eq_bind,
    Option.bind_some, firstStatement, directChildren, Option.bind_assoc]

theorem follow_detailPath (document : Element) (i k : ℕ) :
    follow (detailPath (i + 1) (k + 1)) [document] =
      (follow (entryPath (i + 1)) [document]).bind fun entryNode =>
        (directChildren entryNode "NtryDtls").head?.bind fun block =>
          (directChildren block "TxDtls")[k]? := by
  simp only [detailPath, entryPath, List.cons_append, List.nil_append, follow, Step.pick,
    Option.bind_eq_bind, directChildren, Option.bind_assoc]

theorem sourceDetails_eq (entryNode : Element) :
    sourceDetails entryNode = (directChildren entryNode "NtryDtls").flatMap fun block =>
      directChildren block "TxDtls" := by
  simp [sourceDetails, childElements]

theorem childElements_statement (document : Element) :
    childElements document ["BkToCstmrStmt", "Stmt"] =
      (directChildren document "BkToCstmrStmt").flatMap fun message => directChildren message "Stmt" := by
  simp [childElements]

/-- The records come from the elements of the loops. -/
theorem ParsedFrom.source {document : Element} {statement : NormalizedBankStatement}
    (h : @ParsedFrom sha256 document statement) {i : ℕ} {entry : NormalizedStatementEntry}
    (hentry : statement.entries[i]? = some entry) : ∃ entryNode,
      (sourceEntries document)[i]? = some entryNode ∧
      normalizeEntry sha256 entryNode (i + 1) = .ok entry := by
  obtain ⟨entryNode, hnode, hok⟩ := tryMap_zipIdx_getElem? h.entries hentry
  exact ⟨entryNode, hnode, normalizeNumberedEntry_ok hok⟩

/-- The path of a detail goes on from its entry. -/
theorem resolve_detail {document entryNode : Element} {i k : ℕ}
    (h : document.resolve (entryLocator (i + 1)) = some entryNode) :
    document.resolve (detailLocator (i + 1) (k + 1)) =
      (directChildren entryNode "NtryDtls").head?.bind fun block => (directChildren block "TxDtls")[k]? := by
  rw [resolve_entryLocator] at h
  rw [resolve_detailLocator, follow_detailPath, h, Option.bind_some]

/-- All details are in the first block when each is found there. -/
theorem details_in_first_block {document entryNode : Element} {i : ℕ} {entry : NormalizedStatementEntry}
    (hok : normalizeEntry sha256 entryNode (i + 1) = .ok entry)
    (hresolve : document.resolve entry.sourceLocatorPath = some entryNode)
    (hdetails : ∀ (k : ℕ) (detail : NormalizedEntryDetail), entry.entryDetails[k]? = some detail → ∃ detailNode,
      (sourceDetails entryNode)[k]? = some detailNode ∧
      document.resolve detail.sourceLocatorPath = some detailNode) :
    ∀ block ∈ (directChildren entryNode "NtryDtls").tail, directChildren block "TxDtls" = [] := by
  obtain ⟨-, hpath, hloop⟩ := normalizeEntry_locator hok
  rw [hpath] at hresolve
  refine first_getElem?_iff.mp fun k detailNode hnode => ?_
  rw [← sourceDetails_eq] at hnode
  have hlength : entry.entryDetails.length = (sourceDetails entryNode).length := tryMap_zipIdx_length hloop
  obtain ⟨hk, -⟩ := List.getElem?_eq_some_iff.mp hnode
  obtain ⟨other, hother, hfound⟩ := hdetails k _ (List.getElem?_eq_getElem (hlength ▸ hk))
  obtain ⟨numbered, -, hdetail⟩ := tryMap_zipIdx_getElem? hloop
    (List.getElem?_eq_getElem (hlength ▸ hk))
  rw [hnode, Option.some.injEq] at hother
  rw [(normalizeDetail_locator hdetail).2, resolve_detail hresolve, ← hother] at hfound
  exact hfound

/-- Locators lead to their elements exactly when the first parts hold them all. -/
theorem locatorsLead_iff {document : Element} {statement : NormalizedBankStatement}
    (h : @ParsedFrom sha256 document statement) :
    LocatorsLead sha256 document statement ↔ LeadsFirst document := by
  obtain ⟨node, hnode⟩ := h.one_statement
  have hsource : sourceEntries document = directChildren node "Ntry" := by
    have happend := childElements_append document ["BkToCstmrStmt", "Stmt"] "Ntry"
    rw [hnode, List.flatMap_singleton] at happend
    exact happend
  have hmessage := first_head?_iff (childElements_statement document ▸ hnode)
  constructor
  · rintro ⟨-, hlead⟩
    refine ⟨fun message hfirst => ?_, fun entryNode hentryNode => ?_⟩
    · -- the path of the first entry leads through the first message
      obtain ⟨entry, rest, hentries⟩ := List.exists_cons_of_ne_nil h.not_empty
      obtain ⟨entryNode, -, hok, hresolve, -⟩ := hlead 0 entry (by rw [hentries]; rfl)
      rw [(normalizeEntry_locator hok).2.1, resolve_entryLocator, follow_entryPath h.root] at hresolve
      obtain ⟨statementNode, hstatement, -⟩ := Option.bind_eq_some_iff.mp hresolve
      rw [firstStatement, Option.mem_def.mp hfirst, Option.bind_some] at hstatement
      intro hnone
      rw [hnone] at hstatement
      nomatch hstatement
    · obtain ⟨i, hi, hget⟩ := List.getElem_of_mem hentryNode
      have hlength : statement.entries.length = (sourceEntries document).length :=
        tryMap_zipIdx_length h.entries
      obtain ⟨other, hother, hok, hresolve, hdetails⟩ := hlead i _
        (List.getElem?_eq_getElem (hlength ▸ hi))
      rw [List.getElem?_eq_getElem hi, Option.some.injEq, hget] at hother
      subst hother
      refine details_in_first_block hok hresolve fun k detail hdetail => ?_
      obtain ⟨detailNode, hdetailNode, -, hfound⟩ := hdetails k detail hdetail
      exact ⟨detailNode, hdetailNode, hfound⟩
  · rintro ⟨hfirst, hblocks⟩
    have hstatement : firstStatement document = some node := hmessage.mpr hfirst
    refine ⟨locators_nodup h, fun i entry hentry => ?_⟩
    obtain ⟨entryNode, hentryNode, hok⟩ := h.source hentry
    obtain ⟨-, hpath, hloop⟩ := normalizeEntry_locator hok
    have hresolve : document.resolve (entryLocator (i + 1)) = some entryNode := by
      rw [resolve_entryLocator, follow_entryPath h.root, hstatement, Option.bind_some, ← hsource, hentryNode]
    refine ⟨entryNode, hentryNode, hok, hpath ▸ hresolve, fun k detail hdetail => ?_⟩
    obtain ⟨detailNode, hdetailNode, hdetailOk⟩ := tryMap_zipIdx_getElem? hloop hdetail
    refine ⟨detailNode, hdetailNode, hdetailOk, ?_⟩
    rw [(normalizeDetail_locator hdetailOk).2, resolve_detail hresolve]
    exact first_getElem?_iff.mpr (hblocks entryNode (List.mem_of_getElem? hentryNode)) k detailNode
      (sourceDetails_eq entryNode ▸ hdetailNode)

theorem parsedFrom_payload {expat : ExpatStream 0} {payload : ByteArray}
    {messageDefinitionIdentifier : String} {document : Element} {statement : NormalizedBankStatement}
    (hdocument : parseBoundedXml expat = .ok document)
    (h : parseBankStatementPayload sha256 expat payload messageDefinitionIdentifier = .ok statement) :
    @ParsedFrom sha256 document statement := by
  unfold parseBankStatementPayload at h
  simp only [bind_eq_ok, hdocument, Except.ok.injEq, exists_eq_left'] at h
  obtain ⟨_, -, _, -, _, -, hparsed⟩ := h
  exact parsedFrom hparsed

/-- Of an accepted document every locator leads to the element its record was taken from
    exactly when the first `BkToCstmrStmt` holds the `Stmt` and no later `NtryDtls` of an entry
    holds a `TxDtls`. -/
theorem locators_lead_iff {expat : ExpatStream 0} {payload : ByteArray}
    {messageDefinitionIdentifier : String} {document : Element} {statement : NormalizedBankStatement}
    (hdocument : parseBoundedXml expat = .ok document)
    (h : parseBankStatementPayload sha256 expat payload messageDefinitionIdentifier = .ok statement) :
    LocatorsLead sha256 document statement ↔ LeadsFirst document :=
  locatorsLead_iff (parsedFrom_payload hdocument h)

/-! ## A batch entry in two blocks -/

def tag (name text : String) (children : List Element) : Element where
  localName := name
  namespaceName := camt053Namespace
  attributes := Dict.empty
  text := text
  children := children

def amountTag (text : String) : Element :=
  { tag "Amt" text [] with attributes := Dict.empty.set "Ccy" "USD" }

/-- A detail of an amount, with what else it holds. -/
def detailTag (amount : String) (children : List Element) : Element :=
  tag "TxDtls" "" (tag "AmtDtls" "" [tag "TxAmt" "" [amountTag amount]] :: children)

/-- A credit of an amount, with what else it holds. -/
def entryTag (amount : String) (children : List Element) : Element :=
  tag "Ntry" "" (amountTag amount :: tag "CdtDbtInd" "CRDT" [] :: children)

/-- A document of one statement. -/
def documentTag (entries : List Element) : Element :=
  tag "Document" "" [tag "BkToCstmrStmt" "" [tag "GrpHdr" "" [tag "MsgId" "M1" []],
    tag "Stmt" "" (tag "Id" "S1" [] ::
      tag "Acct" "" [tag "Id" "" [tag "IBAN" "DE1" []], tag "Ccy" "USD" []] :: entries)]]

def batchDocument : Element :=
  documentTag [entryTag "30" [tag "NtryDtls" "" [detailTag "10" []], tag "NtryDtls" "" [detailTag "20" []]]]

/-- The document is read from its events. -/
theorem batchDocument_read : parseBoundedXml (documentEvents batchDocument) = .ok batchDocument :=
  parseBoundedXml_documentEvents (by decide +kernel) (by decide +kernel)

theorem batchDocument_accepted : Succeeds (parseBankStatementPayload (fun _ => "")
    (documentEvents batchDocument) ⟨#[60]⟩ "camt.053.001.14") := by
  decide +kernel

/-- The locator of the second detail names a `TxDtls` that its block does not have. -/
theorem batchDocument_not_led : ¬∀ statement,
    parseBankStatementPayload (fun _ => "") (documentEvents batchDocument) ⟨#[60]⟩ "camt.053.001.14" =
      .ok statement → LocatorsLead (fun _ => "") batchDocument statement := by
  intro h
  obtain ⟨statement, hok⟩ := batchDocument_accepted
  have hfirst := (locatorsLead_iff (parsedFrom_payload batchDocument_read hok)).mp (h statement hok)
  exact absurd hfirst (by decide +kernel)

/-- The two details in one block. -/
def blockDocument : Element :=
  documentTag [entryTag "30" [tag "NtryDtls" "" [detailTag "10" [], detailTag "20" []]]]

theorem blockDocument_read : parseBoundedXml (documentEvents blockDocument) = .ok blockDocument :=
  parseBoundedXml_documentEvents (by decide +kernel) (by decide +kernel)

theorem blockDocument_accepted : Succeeds (parseBankStatementPayload (fun _ => "")
    (documentEvents blockDocument) ⟨#[60]⟩ "camt.053.001.14") := by
  decide +kernel

theorem blockDocument_led : ∃ statement,
    parseBankStatementPayload (fun _ => "") (documentEvents blockDocument) ⟨#[60]⟩ "camt.053.001.14" =
      .ok statement ∧ LocatorsLead (fun _ => "") blockDocument statement := by
  obtain ⟨statement, hok⟩ := blockDocument_accepted
  exact ⟨statement, hok, (locators_lead_iff blockDocument_read hok).mpr (by decide +kernel)⟩

end AccountingPlatform.Bank.Camt
