/-
  What intake stores is what was parsed.

  A statement not seen before is stored with all its entries and details or not at all, and its
  pages return them as they were parsed (`storedAs_of_accepted`). A call can end with another
  exception than a validation error at four places (`IntakeStaysClosed`).
-/
import AccountingPlatform.Bank.IntakeChecks
import AccountingPlatform.Bank.SourceLocators
import AccountingPlatform.Lib.Runs

namespace AccountingPlatform.Bank.Camt

open AccountingPlatform.Lib AccountingPlatform.Lib.Xml AccountingPlatform.Core
  AccountingPlatform.Postgres

open Json (Tree)

variable {dep : Deployment} {sha256 : ByteArray → String} {expat : ByteArray → ExpatStream 0}

/-! ## Insertion -/

/-- The amounts of an entry and of its details are below 10^32 units. -/
def AmountsFit (entry : NormalizedStatementEntry) : Prop :=
  fitsNumeric entry.entryAmount ∧ ∀ detail ∈ entry.entryDetails, fitsNumeric detail.detailAmount

instance decAmountsFit (entry : NormalizedStatementEntry) : Decidable (AmountsFit entry) :=
  inferInstanceAs (Decidable (_ ∧ ∀ detail ∈ entry.entryDetails, fitsNumeric detail.detailAmount))

theorem tryMap_of_ok {α β : Type} {f : α → Result β} {g : α → β} {as : List α}
    (h : ∀ a ∈ as, f a = .ok (g a)) : tryMap f as = .ok (as.map g) := by
  induction as with
  | nil => rfl
  | cons a as ih =>
    rw [tryMap, h a List.mem_cons_self, ok_bind, ih fun b hb => h b (List.mem_cons_of_mem a hb), ok_bind]
    rfl

/-- A loop whose turns succeed or end with the one error ends likewise. -/
theorem tryMap_of_error {α β : Type} {f : α → Result β} {p : α → Prop} {e : LedgerError}
    {as : List α} (hok : ∀ a ∈ as, p a → Succeeds (f a)) (herror : ∀ a ∈ as, ¬p a → f a = .error e)
    (h : ∃ a ∈ as, ¬p a) : tryMap f as = .error e := by
  induction as with
  | nil =>
    obtain ⟨a, ha, -⟩ := h
    nomatch ha
  | cons a as ih =>
    by_cases ha : p a
    · obtain ⟨b, hb⟩ := hok a List.mem_cons_self ha
      have hrest : ∃ a ∈ as, ¬p a := by
        obtain ⟨c, hc, hnot⟩ := h
        rcases List.mem_cons.mp hc with rfl | hc
        · exact absurd ha hnot
        · exact ⟨c, hc, hnot⟩
      rw [tryMap, hb, ok_bind, ih (fun c hc => hok c (List.mem_cons_of_mem a hc))
        (fun c hc => herror c (List.mem_cons_of_mem a hc)) hrest, error_bind]
    · rw [tryMap, herror a List.mem_cons_self ha, error_bind]

/-- The rows of an entry. -/
def storedEntry (statementId : ℕ) (numbered : NormalizedStatementEntry × ℕ) :
    EntryRow × List DetailRow :=
  (entryRow statementId numbered.2 numbered.1, numbered.1.entryDetails.map (detailRow numbered.2))

theorem detailNumbers_detailRow (entryId : ℕ) (details : List NormalizedEntryDetail) :
    (details.map (detailRow entryId)).map DetailRow.detailSequenceNumber =
      details.map NormalizedEntryDetail.detailSequenceNumber := by
  rw [List.map_map]
  rfl

section Insertion

variable {statement : NormalizedBankStatement} (hstorable : Storable statement)
  {numbered : NormalizedStatementEntry × ℕ} (hentry : numbered.1 ∈ statement.entries) (statementId : ℕ)

include hstorable hentry

theorem insertEntry_of_fit (hfit : AmountsFit numbered.1) :
    insertEntry statementId numbered = .ok (storedEntry statementId numbered) := by
  obtain ⟨hint, hpasses⟩ := hstorable.entries _ hentry
  have hdetails : tryMap (insertDetail numbered.2) numbered.1.entryDetails =
      .ok (numbered.1.entryDetails.map (detailRow numbered.2)) := by
    refine tryMap_of_ok fun detail hdetail => ?_
    obtain ⟨hnumber, hpass⟩ := hstorable.details _ hentry detail hdetail
    have hfits : (detailRow numbered.2 detail).Fits := ⟨hnumber, hfit.2 detail hdetail⟩
    unfold insertDetail
    dsimp only
    rw [require_of hfits, ok_bind, require_of (hpass numbered.2), ok_bind]
    rfl
  have hfits : (entryRow statementId numbered.2 numbered.1).Fits := ⟨hint, hfit.1⟩
  have hnodup : ((numbered.1.entryDetails.map (detailRow numbered.2)).map
      DetailRow.detailSequenceNumber).Nodup := by
    rw [detailNumbers_detailRow, hstorable.detail_numbers _ hentry]
    exact List.nodup_range'
  unfold insertEntry
  dsimp only
  rw [require_of hfits, ok_bind, require_of (hpasses statementId numbered.2), ok_bind, hdetails, ok_bind,
    require_of hnodup, ok_bind]
  rfl

theorem insertEntry_of_not_fit (hfit : ¬AmountsFit numbered.1) :
    insertEntry statementId numbered = .error outOfRange := by
  obtain ⟨hint, hpasses⟩ := hstorable.entries _ hentry
  unfold insertEntry
  dsimp only
  by_cases hamount : fitsNumeric numbered.1.entryAmount
  · have hfits : (entryRow statementId numbered.2 numbered.1).Fits := ⟨hint, hamount⟩
    have hdetails : tryMap (insertDetail numbered.2) numbered.1.entryDetails = .error outOfRange := by
      have hexists : ∃ detail ∈ numbered.1.entryDetails, ¬fitsNumeric detail.detailAmount := by
        by_contra hall
        push Not at hall
        exact hfit ⟨hamount, hall⟩
      refine tryMap_of_error (p := fun detail => fitsNumeric detail.detailAmount) ?_ ?_ hexists
      · intro detail hdetail hnumeric
        obtain ⟨hnumber, hpass⟩ := hstorable.details _ hentry detail hdetail
        have hfits : (detailRow numbered.2 detail).Fits := ⟨hnumber, hnumeric⟩
        refine ⟨detailRow numbered.2 detail, ?_⟩
        unfold insertDetail
        dsimp only
        rw [require_of hfits, ok_bind, require_of (hpass numbered.2), ok_bind]
        rfl
      · intro detail _ hnumeric
        have hnot : ¬(detailRow numbered.2 detail).Fits := fun hfits => hnumeric hfits.2
        unfold insertDetail
        dsimp only
        rw [require, if_neg hnot]
        rfl
    rw [require_of hfits, ok_bind, require_of (hpasses statementId numbered.2), ok_bind, hdetails,
      error_bind]
  · have hnot : ¬(entryRow statementId numbered.2 numbered.1).Fits := fun hfits => hamount hfits.2
    rw [require, if_neg hnot]
    rfl

end Insertion

/-- The entries of a statement with the keys they get. -/
def numberedEntries (t : IntakeTables) (statement : NormalizedBankStatement) :
    List (NormalizedStatementEntry × ℕ) := statement.entries.zipIdx (t.nextId + 2)

/-- The tables with a statement that was stored. -/
def withStatement (t : IntakeTables) (statement : NormalizedBankStatement) (account : BankAccountRecord)
    (payload : ByteArray) (key : String) : IntakeTables :=
  { t with
    artifacts := t.artifacts ++ [⟨t.nextId, statement.sourceArtifactHash,
      putArtifact statement.sourceArtifactHash, payload.size⟩]
    statements := t.statements ++ [recordRow statement account key (t.nextId + 1) t.nextId]
    entries := t.entries ++ (numberedEntries t statement).map fun numbered =>
      (storedEntry (t.nextId + 1) numbered).1
    details := t.details ++ (numberedEntries t statement).flatMap fun numbered =>
      (storedEntry (t.nextId + 1) numbered).2
    nextId := t.nextId + 2 + statement.entries.length }

/-- No row has the key, the artifact or the identity of a statement. -/
structure IsNew (t : IntakeTables) (statement : NormalizedBankStatement) (account : BankAccountRecord)
    (key : String) : Prop where
  key : ∀ row ∈ t.statements, row.ingestionIdempotencyKey ≠ key
  artifact : ∀ row ∈ t.statements, row.sourceArtifactHash ≠ statement.sourceArtifactHash
  stored : ∀ artifact ∈ t.artifacts, artifact.sourceArtifactHash ≠ statement.sourceArtifactHash
  identity : ∀ row ∈ t.statements, ¬(row.bankAccountRecordId = account.bankAccountRecordId ∧
    row.statementIdentityReference = statement.statementIdentityReference)

/-- A payload whose size the adapter accepts. -/
def SizeAccepted (payload : ByteArray) : Prop := payload.size ≠ 0 ∧ payload.size ≤ maxStatementBytes

theorem passesArtifact_of {hash : String} {payload : ByteArray} (hsize : SizeAccepted payload)
    (hhash : matchesHash hash = true) (id : ℕ) :
    passesArtifact ⟨id, hash, putArtifact hash, payload.size⟩ :=
  ⟨hhash, isFilled_putArtifact hash, Nat.pos_of_ne_zero hsize.1⟩

/-- The unique indexes of the statements hold. -/
theorem unique_of_new {t : IntakeTables} {statement : NormalizedBankStatement}
    {account : BankAccountRecord} {key : String} (hnew : IsNew t statement account key)
    {statementId artifactId : ℕ} :
    ∀ other ∈ t.statements, other.ingestionIdempotencyKey ≠ key ∧
      other.sourceArtifactHash ≠
        (recordRow statement account key statementId artifactId).sourceArtifactHash ∧
      ¬(other.bankAccountRecordId =
          (recordRow statement account key statementId artifactId).bankAccountRecordId ∧
        other.statementIdentityReference =
          (recordRow statement account key statementId artifactId).statementIdentityReference) :=
  fun other hother => ⟨hnew.key other hother, hnew.artifact other hother, hnew.identity other hother⟩

section Insert

variable {t : IntakeTables} {statement : NormalizedBankStatement} {account : BankAccountRecord}
  {payload : ByteArray} {key : String} (hstorable : Storable statement) (hsize : SizeAccepted payload)
  (hnew : IsNew t statement account key)

include hstorable hsize hnew

theorem insertStatement_of_fit (hkey : IsFilled key) (hfit : ∀ entry ∈ statement.entries, AmountsFit entry)
    (hhash : matchesHash statement.sourceArtifactHash = true) :
    insertStatement t statement account payload key =
      .ok (recordRow statement account key (t.nextId + 1) t.nextId,
        withStatement t statement account payload key) := by
  have hint : fitsInt4 payload.size := fitsInt4_of_le hsize.2 (by decide)
  have hentries : tryMap (insertEntry (t.nextId + 1)) (numberedEntries t statement) =
      .ok ((numberedEntries t statement).map (storedEntry (t.nextId + 1))) :=
    tryMap_of_ok fun numbered hnumbered => by
      have hmem : numbered.1 ∈ statement.entries := List.fst_mem_of_mem_zipIdx hnumbered
      exact insertEntry_of_fit hstorable hmem (t.nextId + 1) (hfit _ hmem)
  have hnumbers : ((((numberedEntries t statement).map (storedEntry (t.nextId + 1))).map Prod.fst).map
      EntryRow.entrySequenceNumber).Nodup := by
    rw [List.map_map, List.map_map]
    show ((numberedEntries t statement).map
      (NormalizedStatementEntry.entrySequenceNumber ∘ Prod.fst)).Nodup
    rw [← List.map_map, numberedEntries, List.zipIdx_map_fst, hstorable.numbers]
    exact List.nodup_range'
  unfold insertStatement
  dsimp only
  rw [require_of hint, ok_bind, require_of (passesArtifact_of hsize hhash t.nextId), ok_bind, require_of hnew.stored, ok_bind,
    require_of (hstorable.record account key hkey _ _), ok_bind, require_of (unique_of_new hnew), ok_bind,
    ← numberedEntries, hentries, ok_bind, require_of hnumbers, ok_bind]
  unfold withStatement
  rw [List.map_map, List.flatMap_map]
  rfl

/-- A key of spaces or an amount beyond the column is refused by the database. -/
theorem insertStatement_of_not_fit (h : ¬(IsFilled key ∧ ∀ entry ∈ statement.entries, AmountsFit entry))
    (hhash : matchesHash statement.sourceArtifactHash = true) :
    ∃ kind, insertStatement t statement account payload key = .error (.database kind) := by
  have hint : fitsInt4 payload.size := fitsInt4_of_le hsize.2 (by decide)
  unfold insertStatement
  dsimp only
  rw [require_of hint, ok_bind, require_of (passesArtifact_of hsize hhash t.nextId), ok_bind, require_of hnew.stored, ok_bind]
  by_cases hkey : IsFilled key
  · have hexists : ∃ numbered ∈ numberedEntries t statement, ¬AmountsFit numbered.1 := by
      by_contra hall
      push Not at hall
      refine h ⟨hkey, fun entry hentry => ?_⟩
      rw [← List.zipIdx_map_fst (t.nextId + 2) statement.entries] at hentry
      obtain ⟨numbered, hnumbered, rfl⟩ := List.mem_map.mp hentry
      exact hall numbered hnumbered
    have hentries : tryMap (insertEntry (t.nextId + 1)) (numberedEntries t statement) =
        .error outOfRange := by
      refine tryMap_of_error (p := fun numbered => AmountsFit numbered.1) ?_ ?_ hexists
      · intro numbered hnumbered hfit
        exact ⟨_, insertEntry_of_fit hstorable (List.fst_mem_of_mem_zipIdx hnumbered) _ hfit⟩
      · intro numbered hnumbered hfit
        exact insertEntry_of_not_fit hstorable (List.fst_mem_of_mem_zipIdx hnumbered) _ hfit
    rw [require_of (hstorable.record account key hkey _ _), ok_bind, require_of (unique_of_new hnew), ok_bind,
      ← numberedEntries, hentries, error_bind]
    exact ⟨_, rfl⟩
  · have hnot : ¬passesRecord (recordRow statement account key (t.nextId + 1) t.nextId) := fun hpasses =>
      hkey hpasses.2.2.2.2.2.2
    rw [require, if_neg hnot]
    exact ⟨_, rfl⟩

end Insert

/-! ## Keys of the rows -/

/-- Generated keys are below the next one. -/
structure IdsBelow (t : IntakeTables) : Prop where
  artifacts : ∀ artifact ∈ t.artifacts, artifact.bankStatementArtifactId < t.nextId
  statements : ∀ row ∈ t.statements, row.bankStatementRecordId < t.nextId
  entries : ∀ row ∈ t.entries, row.bankStatementRecordId < t.nextId
  details : ∀ row ∈ t.details, row.bankStatementEntryId < t.nextId

theorem insertEntry_ok {statementId : ℕ} {numbered : NormalizedStatementEntry × ℕ}
    {inserted : EntryRow × List DetailRow} (h : insertEntry statementId numbered = .ok inserted) :
    inserted.1 = entryRow statementId numbered.2 numbered.1 ∧
      ∀ row ∈ inserted.2, row.bankStatementEntryId = numbered.2 := by
  unfold insertEntry at h
  simp only [bind_eq_ok, pure_eq_ok] at h
  obtain ⟨_, -, _, -, details, hdetails, _, -, rfl⟩ := h
  refine ⟨rfl, fun row hrow => ?_⟩
  obtain ⟨detail, -, hok⟩ := mem_tryMap hdetails hrow
  unfold insertDetail at hok
  simp only [bind_eq_ok, pure_eq_ok] at hok
  obtain ⟨_, -, _, -, rfl⟩ := hok
  rfl

/-- A statement that is stored uses the next keys. -/
theorem insertStatement_idsBelow {t t' : IntakeTables} (h : IdsBelow t)
    {statement : NormalizedBankStatement} {account : BankAccountRecord} {payload : ByteArray}
    {key : String} {row : BankStatementRecord}
    (hok : insertStatement t statement account payload key = .ok (row, t')) : IdsBelow t' := by
  unfold insertStatement at hok
  simp only [bind_eq_ok, pure_eq_ok, Prod.mk.injEq] at hok
  obtain ⟨_, -, _, -, _, -, _, -, _, -, inserted, hinserted, _, -, -, rfl⟩ := hok
  have hnumber : ∀ rows ∈ inserted, rows.1.bankStatementRecordId = t.nextId + 1 ∧
      ∀ detail ∈ rows.2, detail.bankStatementEntryId < t.nextId + 2 + statement.entries.length := by
    intro rows hrows
    obtain ⟨numbered, hnumbered, hentry⟩ := mem_tryMap hinserted hrows
    obtain ⟨hrow, hdetails⟩ := insertEntry_ok hentry
    refine ⟨by rw [hrow]; rfl, fun detail hdetail => ?_⟩
    rw [hdetails detail hdetail]
    exact List.snd_lt_add_of_mem_zipIdx hnumbered
  constructor
  · intro artifact hartifact
    rcases List.mem_append.mp hartifact with hartifact | hartifact
    · have := h.artifacts artifact hartifact
      show artifact.bankStatementArtifactId < t.nextId + 2 + statement.entries.length
      omega
    · rw [List.mem_singleton.mp hartifact]
      show t.nextId < t.nextId + 2 + statement.entries.length
      omega
  · intro other hother
    rcases List.mem_append.mp hother with hother | hother
    · have := h.statements other hother
      show other.bankStatementRecordId < t.nextId + 2 + statement.entries.length
      omega
    · rw [List.mem_singleton.mp hother]
      show t.nextId + 1 < t.nextId + 2 + statement.entries.length
      omega
  · intro entry hentry
    show entry.bankStatementRecordId < t.nextId + 2 + statement.entries.length
    rcases List.mem_append.mp hentry with hentry | hentry
    · have := h.entries entry hentry
      omega
    · obtain ⟨rows, hrows, rfl⟩ := List.mem_map.mp hentry
      rw [(hnumber rows hrows).1]
      omega
  · intro detail hdetail
    show detail.bankStatementEntryId < t.nextId + 2 + statement.entries.length
    rcases List.mem_append.mp hdetail with hdetail | hdetail
    · have := h.details detail hdetail
      omega
    · obtain ⟨rows, hrows, hmem⟩ := List.mem_flatMap.mp hdetail
      exact (hnumber rows hrows).2 detail hmem

theorem accept_idsBelow {t t' : IntakeTables} (h : IdsBelow t) {command : StatementCommand}
    {document : IntakeDocument}
    (hok : acceptBankStatementEvidence dep sha256 expat t command = .ok (document, t')) : IdsBelow t' := by
  unfold acceptBankStatementEvidence at hok
  simp only [bind_eq_ok] at hok
  obtain ⟨payload, -, statement, -, key, -, account, -, prior, -, hok⟩ := hok
  cases prior with
  | some prior =>
    simp only [bind_eq_ok, pure_eq_ok, Prod.mk.injEq] at hok
    obtain ⟨_, -, -, rfl⟩ := hok
    exact h
  | none =>
    simp only [bind_eq_ok, pure_eq_ok, Prod.mk.injEq] at hok
    obtain ⟨⟨row, t''⟩, hinsert, _, -, -, rfl⟩ := hok
    exact insertStatement_idsBelow h hinsert

theorem idsBelow_noEvidence (accounts : BankAccounts) : IdsBelow (noEvidence accounts) :=
  ⟨fun _ h => absurd h List.not_mem_nil, fun _ h => absurd h List.not_mem_nil,
    fun _ h => absurd h List.not_mem_nil, fun _ h => absurd h List.not_mem_nil⟩

theorem intakeAfter_idsBelow (accounts : BankAccounts) (commands : List StatementCommand) :
    IdsBelow (intakeAfter dep sha256 expat accounts commands) := by
  have hadm : ∀ c ∈ commands, (fun _ : StatementCommand => True) c := fun _ _ => trivial
  refine run_invariant (fun t command _ h => ?_) hadm (idsBelow_noEvidence accounts)
  unfold intake
  split
  · next document t' hok => exact accept_idsBelow h hok
  · exact h

/-! ## Rows read back -/

theorem filter_append_new {α : Type} {p : α → Bool} {old new : List α} (hold : ∀ a ∈ old, p a = false)
    (hnew : ∀ a ∈ new, p a = true) : (old ++ new).filter p = new := by
  rw [List.filter_append, List.filter_eq_self.mpr hnew, List.filter_eq_nil_iff.mpr, List.nil_append]
  intro a ha
  rw [hold a ha]
  exact Bool.false_ne_true

/-- Of parts with different keys only the one of its key is left. -/
theorem filter_flatMap_of_key {α β : Type} {f : α × ℕ → List β} {key : β → ℕ}
    (hkey : ∀ numbered, ∀ b ∈ f numbered, key b = numbered.2) {as : List (α × ℕ)}
    (hn : (as.map Prod.snd).Nodup) {numbered : α × ℕ} (hmem : numbered ∈ as) :
    (as.flatMap f).filter (fun b => key b = numbered.2) = f numbered := by
  induction as with
  | nil => nomatch hmem
  | cons a as ih =>
    rw [List.map_cons, List.nodup_cons] at hn
    rw [List.flatMap_cons, List.filter_append]
    have hothers : ∀ {as : List (α × ℕ)}, numbered.2 ∉ as.map Prod.snd →
        (as.flatMap f).filter (fun b => key b = numbered.2) = [] := by
      intro as hnot
      rw [List.filter_eq_nil_iff]
      intro b hb hsame
      obtain ⟨other, hother, hbother⟩ := List.mem_flatMap.mp hb
      rw [decide_eq_true_eq, hkey other b hbother] at hsame
      exact hnot (hsame ▸ List.mem_map_of_mem hother)
    rcases List.mem_cons.mp hmem with rfl | hmem
    · rw [hothers hn.1, List.append_nil, List.filter_eq_self]
      exact fun b hb => decide_eq_true (hkey numbered b hb)
    · have hne : a.2 ≠ numbered.2 := fun hsame => hn.1 (hsame ▸ List.mem_map_of_mem hmem)
      rw [ih hn.2 hmem, List.filter_eq_nil_iff.mpr, List.nil_append]
      intro b hb
      rw [decide_eq_true_eq, hkey a b hb]
      exact hne

theorem ordered_of_increasing {α : Type} {key : α → ℕ} {rows : List α}
    (h : rows.Pairwise fun a b => key a < key b) : ordered key rows = rows :=
  List.Pairwise.insertionSort_eq (h.imp fun hlt => Nat.le_of_lt hlt)

theorem increasing_of_numbers {α : Type} {key : α → ℕ} {rows : List α} {n : ℕ}
    (h : rows.map key = List.range' 1 n) : rows.Pairwise fun a b => key a < key b := by
  rw [← List.pairwise_map, h]
  exact List.pairwise_lt_range'

section Stored

variable {t : IntakeTables} (hbelow : IdsBelow t) (statement : NormalizedBankStatement)
  (account : BankAccountRecord) (payload : ByteArray) (key : String)

include hbelow

theorem entriesOf_withStatement :
    (withStatement t statement account payload key).entriesOf (t.nextId + 1) =
      (numberedEntries t statement).map fun numbered => entryRow (t.nextId + 1) numbered.2 numbered.1 := by
  unfold IntakeTables.entriesOf withStatement
  dsimp only
  refine filter_append_new (fun row hrow => decide_eq_false ?_) fun row hrow => decide_eq_true ?_
  · have := hbelow.entries row hrow
    omega
  · obtain ⟨numbered, -, rfl⟩ := List.mem_map.mp hrow
    rfl

theorem detailsOf_withStatement (hstorable : Storable statement)
    {numbered : NormalizedStatementEntry × ℕ} (hnumbered : numbered ∈ numberedEntries t statement) :
    (withStatement t statement account payload key).detailsOf numbered.2 =
      numbered.1.entryDetails.map (detailRow numbered.2) := by
  have hid : t.nextId + 2 ≤ numbered.2 := List.le_snd_of_mem_zipIdx hnumbered
  have hold : ∀ row ∈ t.details, decide (row.bankStatementEntryId = numbered.2) = false := by
    intro row hrow
    have := hbelow.details row hrow
    exact decide_eq_false (by omega)
  have hids : ((numberedEntries t statement).map Prod.snd).Nodup := by
    rw [numberedEntries, List.zipIdx_map_snd]
    exact List.nodup_range'
  have hkey : ∀ numbered : NormalizedStatementEntry × ℕ,
      ∀ row ∈ (storedEntry (t.nextId + 1) numbered).2, row.bankStatementEntryId = numbered.2 := by
    intro numbered row hrow
    obtain ⟨detail, -, rfl⟩ := List.mem_map.mp hrow
    rfl
  have hnumbers := hstorable.detail_numbers _ (List.fst_mem_of_mem_zipIdx hnumbered)
  unfold IntakeTables.detailsOf withStatement
  dsimp only
  rw [List.filter_append, List.filter_eq_nil_iff.mpr fun row hrow => by rw [hold row hrow]; exact Bool.false_ne_true,
    List.nil_append, filter_flatMap_of_key hkey hids hnumbered]
  refine ordered_of_increasing (increasing_of_numbers (n := numbered.1.entryDetails.length) ?_)
  rw [← hnumbers]
  exact detailNumbers_detailRow numbered.2 numbered.1.entryDetails

end Stored

/-! ## Pages -/

/-- The pages of a statement return its entries in the order of their numbers. -/
theorem entryPages_of_walk {t : IntakeTables} {statementId limit : ℕ} (hlimit : 1 ≤ limit ∧ limit ≤ 100)
    (hrecorded : (t.statements.find? fun row => row.bankStatementRecordId = statementId).isSome = true)
    (hpositive : ∀ row ∈ t.entriesOf statementId, 0 < row.entrySequenceNumber)
    {cursor : Option ℕ} {rows : List EntryRow}
    (h : AcceptedWalk EntryRow.entrySequenceNumber (fun _ => True) limit (t.entriesOf statementId)
      cursor rows) :
    EntryPages t statementId limit (cursor.getD 0) (rows.map (entryDocument t)) := by
  obtain ⟨record, hrecord⟩ := Option.isSome_iff_exists.mp hrecorded
  -- no cursor is the number zero, below every row
  have hrows : ∀ cursor : Option ℕ, entryRowsAfter t statementId limit (cursor.getD 0) =
      (rest EntryRow.entrySequenceNumber cursor (t.entriesOf statementId)).take (limit + 1) := by
    intro cursor
    unfold entryRowsAfter rest
    congr 2
    refine List.filter_congr fun row hrow => ?_
    cases cursor with
    | none => exact decide_eq_decide.mpr (iff_of_true (hpositive row hrow) nofun)
    | some c =>
      refine decide_eq_decide.mpr ⟨fun hlt c' hc => ?_, fun hbeyond => hbeyond c rfl⟩
      cases hc
      exact hlt
  have hpage : ∀ cursor : Option ℕ, lookupBankStatementEntries t statementId limit (cursor.getD 0) =
      .ok ((page EntryRow.entrySequenceNumber limit cursor (t.entriesOf statementId)).map (entryDocument t),
        nextCursor EntryRow.entrySequenceNumber limit cursor (t.entriesOf statementId)) := by
    intro cursor
    obtain ⟨htake, hlonger⟩ := take_of_fetched limit
      (rest EntryRow.entrySequenceNumber cursor (t.entriesOf statementId))
    unfold lookupBankStatementEntries
    rw [require_of hlimit, ok_bind, hrecord, fetch, ok_bind, hrows cursor]
    dsimp only
    rw [htake]
    unfold page nextCursor page
    by_cases hmore : limit < (rest EntryRow.entrySequenceNumber cursor (t.entriesOf statementId)).length
    · rw [if_pos hmore, if_neg (Nat.not_le.mpr (hlonger.mpr hmore))]
      rfl
    · rw [if_neg hmore, if_pos (Nat.not_lt.mp (mt hlonger.mp hmore))]
      rfl
  induction h with
  | @last cursor hnext =>
    refine .last ?_
    rw [hpage, hnext]
  | @more cursor next returned hnext _ _ ih =>
    rw [List.map_append]
    refine @EntryPages.more t statementId limit _ next _ _ ?_ ih
    rw [hpage, hnext]

/-! ## Documents of entries -/

/-- The canonical payload of an entry that was returned. -/
def documentDetailPayload (document : DetailDocument) : Tree := Tree.sorted [
  ("detail_sequence_number", .number document.detailSequenceNumber),
  ("source_locator_path", textTree document.sourceLocatorPath),
  ("detail_amount", .text document.detailAmount),
  ("detail_currency_code", textTree document.detailCurrencyCode),
  ("credit_debit_code", textTree document.creditDebitCode),
  ("end_to_end_reference", optionalText document.endToEndReference),
  ("remittance_evidence_text", optionalText document.remittanceEvidenceText)]

def documentPayload (document : EntryDocument) : Tree := Tree.sorted [
  ("source_entry_identity", optionalText document.sourceEntryIdentity),
  ("entry_sequence_number", .number document.entrySequenceNumber),
  ("source_locator_path", textTree document.sourceLocatorPath),
  ("booking_occurred_at", Tree.optional Tree.text document.bookingOccurredAt),
  ("value_occurred_at", Tree.optional Tree.text document.valueOccurredAt),
  ("entry_amount", .text document.entryAmount),
  ("entry_currency_code", textTree document.entryCurrencyCode),
  ("credit_debit_code", textTree document.creditDebitCode),
  ("reversal_indicator", .flag document.reversalIndicator),
  ("bank_transaction_domain_code", optionalText document.bankTransactionDomainCode),
  ("bank_transaction_family_code", optionalText document.bankTransactionFamilyCode),
  ("bank_transaction_subfamily_code", optionalText document.bankTransactionSubfamilyCode),
  ("end_to_end_reference", optionalText document.endToEndReference),
  ("account_servicer_reference", optionalText document.accountServicerReference),
  ("mandate_reference", optionalText document.mandateReference),
  ("cheque_reference", optionalText document.chequeReference),
  ("remittance_evidence_text", optionalText document.remittanceEvidenceText),
  ("counterparty_evidence_hash", optionalText document.counterpartyEvidenceHash),
  ("details", .array (document.entryDetails.map documentDetailPayload))]

/-- A detail as it was parsed. -/
structure DetailReturned (detail : NormalizedEntryDetail) (document : DetailDocument) : Prop where
  number : document.detailSequenceNumber = detail.detailSequenceNumber
  locator : document.sourceLocatorPath = detail.sourceLocatorPath
  amount : decimalMillionths (String.ofList document.detailAmount) = detail.detailAmount
  currency : document.detailCurrencyCode = detail.detailCurrencyCode
  direction : document.creditDebitCode = creditDebitText detail.creditDebitCode
  endToEnd : document.endToEndReference = detail.endToEndReference
  remittance : document.remittanceEvidenceText = detail.remittanceEvidenceText
  hash : document.sourceDetailHash = detail.sourceDetailHash

/-- The instant of a returned timestamp. -/
def readInstant (text : List Char) : Option ℤ := (isoTimestamp? (String.ofList text)).map IsoTimestamp.instant

/-- An entry as it was parsed: amounts as numbers, timestamps as instants, the details in order,
    and a hash that can be computed again. -/
structure EntryReturned (sha256 : ByteArray → String) (entry : NormalizedStatementEntry)
    (document : EntryDocument) : Prop where
  identity : document.sourceEntryIdentity = entry.sourceEntryIdentity
  number : document.entrySequenceNumber = entry.entrySequenceNumber
  locator : document.sourceLocatorPath = entry.sourceLocatorPath
  booking : document.bookingOccurredAt.map readInstant = entry.bookingOccurredAt.map fun m => some (m : ℤ)
  value : document.valueOccurredAt.map readInstant = entry.valueOccurredAt.map fun m => some (m : ℤ)
  amount : decimalMillionths (String.ofList document.entryAmount) = entry.entryAmount
  currency : document.entryCurrencyCode = entry.entryCurrencyCode
  direction : document.creditDebitCode = creditDebitText entry.creditDebitCode
  reversal : document.reversalIndicator = entry.reversalIndicator
  domain : document.bankTransactionDomainCode = entry.bankTransactionDomainCode
  family : document.bankTransactionFamilyCode = entry.bankTransactionFamilyCode
  subfamily : document.bankTransactionSubfamilyCode = entry.bankTransactionSubfamilyCode
  endToEnd : document.endToEndReference = entry.endToEndReference
  servicer : document.accountServicerReference = entry.accountServicerReference
  mandate : document.mandateReference = entry.mandateReference
  cheque : document.chequeReference = entry.chequeReference
  remittance : document.remittanceEvidenceText = entry.remittanceEvidenceText
  counterparty : document.counterpartyEvidenceHash = entry.counterpartyEvidenceHash
  hash : document.sourceEntryHash = entry.sourceEntryHash
  recomputed : payloadHash sha256 (documentPayload document) = document.sourceEntryHash
  details : List.Forall₂ DetailReturned entry.entryDetails document.entryDetails

theorem readInstant_formatTimestamp {moment : ℕ} (h : InDatetimeRange moment) :
    readInstant (formatTimestamp moment) = some (moment : ℤ) := by
  unfold readInstant isoTimestamp?
  rw [String.toList_ofList, fromisoformat_formatTimestamp h, Option.map_some, Option.map_some]
  exact congrArg some (Int.sub_zero _)

theorem readInstants {moment : Option Timestamp} (h : ∀ m ∈ moment, InDatetimeRange m) :
    (moment.map formatTimestamp).map readInstant = moment.map fun m => some (m : ℤ) := by
  cases moment with
  | none => rfl
  | some m => exact congrArg some (readInstant_formatTimestamp (h m rfl))

theorem optional_formatTimestamp (moment : Option Timestamp) :
    Tree.optional Tree.text (moment.map formatTimestamp) = optionalTime moment := by
  cases moment with
  | none => rfl
  | some m => rfl

/-- A stored entry is returned as it was parsed. -/
theorem entryReturned {t : IntakeTables} {entry : NormalizedStatementEntry} {statementId entryId : ℕ}
    (htimes : entry.TimesInRange) (hhash : entry.sourceEntryHash = payloadHash sha256 (entryPayload entry))
    (hdetails : t.detailsOf entryId = entry.entryDetails.map (detailRow entryId)) :
    EntryReturned sha256 entry (entryDocument t (entryRow statementId entryId entry)) := by
  have hrows : (entryDocument t (entryRow statementId entryId entry)).entryDetails =
      (entry.entryDetails.map (detailRow entryId)).map detailDocument :=
    congrArg (List.map detailDocument) hdetails
  have hpayload : documentPayload (entryDocument t (entryRow statementId entryId entry)) =
      entryPayload entry := by
    unfold documentPayload entryPayload
    rw [hrows, List.map_map, List.map_map]
    unfold entryDocument entryRow
    dsimp only
    rw [optional_formatTimestamp, optional_formatTimestamp]
    rfl
  refine ⟨rfl, rfl, rfl, readInstants htimes.1, readInstants htimes.2, decimalMillionths_decimalText _, rfl,
    rfl, rfl, rfl, rfl, rfl, rfl, rfl, rfl, rfl, rfl, rfl, rfl, ?_, ?_⟩
  · rw [hpayload]
    exact hhash.symm
  · rw [hrows, List.map_map, List.forall₂_map_right_iff, List.forall₂_same]
    intro detail _
    exact ⟨rfl, rfl, decimalMillionths_decimalText _, rfl, rfl, rfl, rfl, rfl⟩

/-! ## Statements that are stored -/

/-- The exact sum of the entries of a direction. -/
def parsedTotal (entries : List NormalizedStatementEntry) (code : CreditDebitCode) : ℕ :=
  total NormalizedStatementEntry.entryAmount (entries.filter fun entry => entry.creditDebitCode = code)

/-- The pages of a stored statement return what was parsed, and its document counts it. -/
structure StoredAs (sha256 : ByteArray → String) (t : IntakeTables) (document : IntakeDocument)
    (statement : NormalizedBankStatement) : Prop where
  pages : ∀ limit, 1 ≤ limit → limit ≤ 100 → ∃ documents,
    EntryPages t document.bankStatementRecordId limit 0 documents ∧
      List.Forall₂ (EntryReturned sha256) statement.entries documents
  count : document.entryCount = statement.entries.length
  credits : decimalMillionths (String.ofList document.creditTotalAmount) =
    parsedTotal statement.entries .crdt
  debits : decimalMillionths (String.ofList document.debitTotalAmount) =
    parsedTotal statement.entries .dbit

theorem directionTotal_numbered (statementId : ℕ) (numbered : List (NormalizedStatementEntry × ℕ))
    (code : CreditDebitCode) :
    directionTotal (numbered.map fun n => entryRow statementId n.2 n.1) code =
      parsedTotal (numbered.map Prod.fst) code := by
  unfold directionTotal parsedTotal
  rw [List.filter_map, List.filter_map]
  unfold total
  rw [List.map_map, List.map_map]
  rfl

section Loaded

variable {t : IntakeTables} (hbelow : IdsBelow t) {statement : NormalizedBankStatement}
  {account : BankAccountRecord} (haccount : account ∈ t.accounts) (payload : ByteArray) (key : String)

include hbelow

theorem record_withStatement :
    (withStatement t statement account payload key).statements.find?
      (fun row => row.bankStatementRecordId = t.nextId + 1) =
        some (recordRow statement account key (t.nextId + 1) t.nextId) := by
  unfold withStatement
  dsimp only
  rw [List.find?_append, List.find?_eq_none.mpr, Option.none_or]
  · exact List.find?_cons_of_pos (decide_eq_true rfl)
  · intro row hrow
    have := hbelow.statements row hrow
    rw [decide_eq_true_eq]
    omega

include haccount

/-- The document of a statement that was stored. -/
theorem loadStatementDocument_withStatement : ∃ document,
    loadStatementDocument dep (withStatement t statement account payload key) (t.nextId + 1) false =
      .ok document ∧
    document.bankStatementRecordId = t.nextId + 1 ∧
    document.entryCount = statement.entries.length ∧
    document.creditTotalAmount = decimalText (parsedTotal statement.entries .crdt) ∧
    document.debitTotalAmount = decimalText (parsedTotal statement.entries .dbit) := by
  have hartifact : (withStatement t statement account payload key).artifacts.find?
      (fun artifact => artifact.bankStatementArtifactId = t.nextId) =
        some ⟨t.nextId, statement.sourceArtifactHash, putArtifact statement.sourceArtifactHash,
          payload.size⟩ := by
    unfold withStatement
    dsimp only
    rw [List.find?_append, List.find?_eq_none.mpr, Option.none_or]
    · exact List.find?_cons_of_pos (decide_eq_true rfl)
    · intro artifact hmem
      have := hbelow.artifacts artifact hmem
      rw [decide_eq_true_eq]
      omega
  have hfound : (withStatement t statement account payload key).account? account.bankAccountRecordId =
      some account := find?_of_nodup_map t.account_key haccount
  have hentries := entriesOf_withStatement hbelow statement account payload key
  have hnumbered : (numberedEntries t statement).map Prod.fst = statement.entries :=
    List.zipIdx_map_fst _ _
  unfold loadStatementDocument
  rw [record_withStatement hbelow payload key]
  simp only [Option.bind_eq_bind, Option.bind_some]
  show ∃ document, fetch (((withStatement t statement account payload key).artifacts.find?
      fun artifact => artifact.bankStatementArtifactId = t.nextId).bind _) _ = .ok document ∧ _
  rw [hartifact, Option.bind_some]
  show ∃ document, fetch (((withStatement t statement account payload key).account?
      account.bankAccountRecordId).bind _) _ = .ok document ∧ _
  rw [hfound, Option.bind_some]
  refine ⟨_, rfl, rfl, ?_, ?_, ?_⟩
  · show ((withStatement t statement account payload key).entriesOf (t.nextId + 1)).length = _
    rw [hentries, List.length_map, numberedEntries, List.length_zipIdx]
  · show decimalText (directionTotal ((withStatement t statement account payload key).entriesOf
      (t.nextId + 1)) .crdt) = _
    rw [hentries, directionTotal_numbered, hnumbered]
  · show decimalText (directionTotal ((withStatement t statement account payload key).entriesOf
      (t.nextId + 1)) .dbit) = _
    rw [hentries, directionTotal_numbered, hnumbered]

end Loaded

/-- What was stored of a parsed statement is what is read back. -/
theorem storedAs_of_inserted {t : IntakeTables} (hbelow : IdsBelow t)
    {statement : NormalizedBankStatement} (hstorable : Storable statement)
    (hparsed : ∀ entry ∈ statement.entries, entry.TimesInRange ∧
      entry.sourceEntryHash = payloadHash sha256 (entryPayload entry))
    (account : BankAccountRecord) (payload : ByteArray) (key : String) {document : IntakeDocument}
    (hid : document.bankStatementRecordId = t.nextId + 1)
    (hcount : document.entryCount = statement.entries.length)
    (hcredits : document.creditTotalAmount = decimalText (parsedTotal statement.entries .crdt))
    (hdebits : document.debitTotalAmount = decimalText (parsedTotal statement.entries .dbit)) :
    StoredAs sha256 (withStatement t statement account payload key) document statement := by
  have hentries := entriesOf_withStatement hbelow statement account payload key
  have hnumbers : ((withStatement t statement account payload key).entriesOf (t.nextId + 1)).map
      EntryRow.entrySequenceNumber = List.range' 1 statement.entries.length := by
    rw [hentries, List.map_map, ← hstorable.numbers]
    show (numberedEntries t statement).map (NormalizedStatementEntry.entrySequenceNumber ∘ Prod.fst) = _
    rw [← List.map_map, numberedEntries, List.zipIdx_map_fst]
  refine ⟨fun limit hmin hmax => ?_, hcount, ?_, ?_⟩
  · refine ⟨((withStatement t statement account payload key).entriesOf (t.nextId + 1)).map
      (entryDocument (withStatement t statement account payload key)), ?_, ?_⟩
    · rw [hid]
      have hnodup : (((withStatement t statement account payload key).entriesOf (t.nextId + 1)).map
          EntryRow.entrySequenceNumber).Nodup := by
        rw [hnumbers]
        exact List.nodup_range'
      have hpositive : ∀ row ∈ (withStatement t statement account payload key).entriesOf (t.nextId + 1),
          0 < row.entrySequenceNumber := by
        intro row hrow
        have hmem := List.mem_map_of_mem (f := EntryRow.entrySequenceNumber) hrow
        rw [hnumbers, List.mem_range'_1] at hmem
        exact hmem.1
      have hrecorded : ((withStatement t statement account payload key).statements.find?
          fun row => row.bankStatementRecordId = t.nextId + 1).isSome = true := by
        rw [record_withStatement hbelow payload key]
        rfl
      have hwalk := (@acceptedWalk_iff _ _ _ _ (fun _ => True) _ hmin _ hnodup _).mpr
        ⟨rfl, fun _ _ _ _ _ _ => trivial⟩
      rw [ordered_of_increasing (increasing_of_numbers hnumbers)] at hwalk
      exact entryPages_of_walk ⟨hmin, hmax⟩ hrecorded hpositive hwalk
    · rw [hentries, List.map_map]
      have hfirst : statement.entries = (numberedEntries t statement).map Prod.fst :=
        (List.zipIdx_map_fst _ _).symm
      rw [hfirst, List.forall₂_map_left_iff, List.forall₂_map_right_iff, List.forall₂_same]
      intro numbered hnumbered
      obtain ⟨htimes, hhash⟩ := hparsed _ (List.fst_mem_of_mem_zipIdx hnumbered)
      exact entryReturned htimes hhash
        (detailsOf_withStatement hbelow statement account payload key hstorable hnumbered)
  · rw [hcredits, decimalMillionths_decimalText]
  · rw [hdebits, decimalMillionths_decimalText]

/-! ## New statements -/

/-- Key, artifact and identity of a command were not seen before. -/
structure Unseen (dep : Deployment) (sha256 : ByteArray → String) (expat : ByteArray → ExpatStream 0)
    (t : IntakeTables) (command : StatementCommand) : Prop where
  key : ∀ row ∈ t.statements, command.ingestionIdempotencyKey ≠ .unicode row.ingestionIdempotencyKey
  artifact : ∀ payload, command.readPayload dep sha256 = .ok payload →
    (∀ row ∈ t.statements, row.sourceArtifactHash ≠ sha256 payload) ∧
      ∀ artifact ∈ t.artifacts, artifact.sourceArtifactHash ≠ sha256 payload
  identity : ∀ payload statement account, command.readPayload dep sha256 = .ok payload →
    command.parse sha256 expat payload = .ok statement →
    matchAccount t.toBankAccounts command.bankAccountReference statement = .ok account →
    ∀ row ∈ t.statements, ¬(row.bankAccountRecordId = account.bankAccountRecordId ∧
      row.statementIdentityReference = statement.statementIdentityReference)

/-- What parsing and the tables make of a new statement. -/
structure Prepared (dep : Deployment) (sha256 : ByteArray → String) (expat : ByteArray → ExpatStream 0)
    (t : IntakeTables) (command : StatementCommand) (payload : ByteArray)
    (statement : NormalizedBankStatement) (account : BankAccountRecord) : Prop where
  read : command.readPayload dep sha256 = .ok payload
  parsed : command.parse sha256 expat payload = .ok statement
  account : matchAccount t.toBankAccounts command.bankAccountReference statement = .ok account

theorem parsed_document {command : StatementCommand} {payload : ByteArray}
    {statement : NormalizedBankStatement} (h : command.parse sha256 expat payload = .ok statement) :
    SizeAccepted payload ∧ ∃ document, parseBoundedXml (expat payload) = .ok document ∧
      parseDocument sha256 document payload = .ok statement := by
  unfold StatementCommand.parse parseBankStatementPayload at h
  simp only [bind_eq_ok, require_eq_ok] at h
  obtain ⟨_, -, _, hempty, _, hsize, document, hread, hdocument⟩ := h
  exact ⟨⟨hempty, hsize⟩, document, hread, hdocument⟩

theorem artifactHash_of_parsed {document : Element} {payload : ByteArray}
    {statement : NormalizedBankStatement} (h : parseDocument sha256 document payload = .ok statement) :
    statement.sourceArtifactHash = sha256 payload := by
  unfold parseDocument normalizeStatement at h
  simp only [bind_eq_ok, pure_eq_ok] at h
  obtain ⟨_, -, _, -, node, -, _, -, _, -, _, -, _, -, _, -, _, -, _, -, _, -, _, -, _, -, rfl⟩ := h
  rfl

theorem entries_parsed {document : Element} {payload : ByteArray} {statement : NormalizedBankStatement}
    (h : parseDocument sha256 document payload = .ok statement) :
    ∀ entry ∈ statement.entries, entry.TimesInRange ∧
      entry.sourceEntryHash = payloadHash sha256 (entryPayload entry) := by
  intro entry hentry
  obtain ⟨numbered, -, hok⟩ := mem_tryMap (parsedFrom h).entries hentry
  have hparsed := parsedEntry (normalizeNumberedEntry_ok hok)
  exact ⟨hparsed.times, hparsed.hash⟩

theorem mem_of_matchAccount {accounts : BankAccounts} {reference : String}
    {statement : NormalizedBankStatement} {account : BankAccountRecord}
    (h : matchAccount accounts reference statement = .ok account) : account ∈ accounts.accounts := by
  unfold matchAccount BankAccounts.loadBankAccount at h
  simp only [bind_eq_ok, fetch_eq_ok, pure_eq_ok] at h
  obtain ⟨found, hfound, _, -, _, -, _, -, rfl⟩ := h
  exact List.mem_of_find?_eq_some hfound

theorem findStatement_of_new {t : IntakeTables} {statement : NormalizedBankStatement}
    {account : BankAccountRecord} {key : String} (h : IsNew t statement account key) :
    findStatement t statement account key = .ok none := by
  have hkey : t.statements.find? (fun row => row.ingestionIdempotencyKey = key) = none :=
    List.find?_eq_none.mpr fun row hrow => by simpa using h.key row hrow
  have hartifact : t.statements.find?
      (fun row => row.sourceArtifactHash = statement.sourceArtifactHash) = none :=
    List.find?_eq_none.mpr fun row hrow => by simpa using h.artifact row hrow
  have hidentity : t.statements.find? (fun row =>
      row.bankAccountRecordId = account.bankAccountRecordId ∧
        row.statementIdentityReference = statement.statementIdentityReference) = none :=
    List.find?_eq_none.mpr fun row hrow => by
      rw [decide_eq_true_eq]
      exact h.identity row hrow
  unfold findStatement
  rw [hkey, hartifact, hidentity]
  rfl

theorem Unseen.isNew {t : IntakeTables} {command : StatementCommand}
    (h : Unseen dep sha256 expat t command) {payload : ByteArray} {statement : NormalizedBankStatement}
    {account : BankAccountRecord} (hprepared : Prepared dep sha256 expat t command payload statement account)
    {key : String} (hkey : command.ingestionIdempotencyKey = .unicode key) :
    IsNew t statement account key := by
  obtain ⟨-, document, -, hdocument⟩ := parsed_document hprepared.parsed
  have hhash := artifactHash_of_parsed hdocument
  obtain ⟨hstatements, hartifacts⟩ := h.artifact payload hprepared.read
  refine ⟨fun row hrow hsame => ?_, ?_, ?_, h.identity payload statement account hprepared.read
    hprepared.parsed hprepared.account⟩
  · exact h.key row hrow (hkey.trans (congrArg CommandText.unicode hsame.symm))
  · rw [hhash]
    exact hstatements
  · rw [hhash]
    exact hartifacts

/-- The key and the amounts of a new statement can be stored. -/
def Storage (command : StatementCommand) (statement : NormalizedBankStatement) : Prop :=
  (∃ key, command.ingestionIdempotencyKey = .unicode key ∧ IsFilled key) ∧
    ∀ entry ∈ statement.entries, AmountsFit entry

section Accept

variable (hdigest : ∀ bytes, matchesHash (sha256 bytes) = true) {t : IntakeTables}
  (hbelow : IdsBelow t) {command : StatementCommand} (hunseen : Unseen dep sha256 expat t command)
  {payload : ByteArray} {statement : NormalizedBankStatement} {account : BankAccountRecord}
  (hprepared : Prepared dep sha256 expat t command payload statement account)
  {key : String} (hkey : command.ingestionIdempotencyKey = .unicode key)

include hdigest hbelow hunseen hprepared hkey

/-- What follows the lookups: the statement is stored and read back, or the database refuses it. -/
theorem insert_of_prepared :
    (IsFilled key ∧ (∀ entry ∈ statement.entries, AmountsFit entry) ∧ ∃ document,
      insertStatement t statement account payload key =
        .ok (recordRow statement account key (t.nextId + 1) t.nextId,
          withStatement t statement account payload key) ∧
      loadStatementDocument dep (withStatement t statement account payload key) (t.nextId + 1) false =
        .ok document ∧
      StoredAs sha256 (withStatement t statement account payload key) document statement) ∨
    (¬(IsFilled key ∧ ∀ entry ∈ statement.entries, AmountsFit entry) ∧ ∃ kind,
      insertStatement t statement account payload key = .error (.database kind)) := by
  obtain ⟨hsize, parsed, hread, hdocument⟩ := parsed_document hprepared.parsed
  have hstorable := parsed_storable hdigest hread hdocument
  have hnew := hunseen.isNew hprepared hkey
  have hhash : matchesHash statement.sourceArtifactHash = true := by
    rw [artifactHash_of_parsed hdocument]
    exact hdigest payload
  by_cases hfit : IsFilled key ∧ ∀ entry ∈ statement.entries, AmountsFit entry
  · obtain ⟨document, hload, hid, hcount, hcredits, hdebits⟩ :=
      @loadStatementDocument_withStatement dep t hbelow statement account
        (mem_of_matchAccount hprepared.account) payload key
    exact .inl ⟨hfit.1, hfit.2, document, insertStatement_of_fit hstorable hsize hnew hfit.1 hfit.2 hhash,
      hload, storedAs_of_inserted hbelow hstorable (entries_parsed hdocument) account payload key hid hcount
        hcredits hdebits⟩
  · exact .inr ⟨hfit, insertStatement_of_not_fit hstorable hsize hnew hfit hhash⟩

end Accept

/-! ## When intake is closed -/

/-- Nothing ends intake but a validation error. -/
structure IntakeStaysClosed (dep : Deployment) (sha256 : ByteArray → String)
    (expat : ByteArray → ExpatStream 0) (t : IntakeTables) (command : StatementCommand) : Prop where
  /-- The text of the statement has a UTF-8 form. -/
  text : command.readText dep ≠ .ok .surrogate
  /-- Parsing it stays closed. -/
  parse : ∀ payload, command.readPayload dep sha256 = .ok payload →
    StaysClosed sha256 (expat payload) payload command.messageDefinitionIdentifier
  /-- The key behind it can be sent to the database. -/
  key : ∀ payload, command.readPayload dep sha256 = .ok payload →
    Succeeds (command.parse sha256 expat payload) →
    ∃ key, command.ingestionIdempotencyKey = .unicode key ∧ '\x00' ∉ key.toList
  /-- With an account it is for, it is not made of spaces, and the amounts fit. -/
  storage : ∀ payload statement account, Prepared dep sha256 expat t command payload statement account →
    Storage command statement

theorem refuses_readText (command : StatementCommand) :
    Raises LedgerError.isAccountingValidation (command.readText dep) :=
  raises_bind (raises_require trivial) fun _ _ => raises_bind (raises_require trivial) fun _ _ =>
    raises_bind (raises_require trivial) fun _ _ => raises_fetch trivial

theorem refuses_readPayload_iff {command : StatementCommand} :
    Raises LedgerError.isAccountingValidation (command.readPayload dep sha256) ↔
      command.readText dep ≠ .ok .surrogate := by
  unfold StatementCommand.readPayload
  rw [raises_bind_iff, and_iff_right (refuses_readText command)]
  constructor
  · intro h hsurrogate
    exact (h .surrogate hsurrogate .encodeError rfl).elim
  · intro h text htext
    cases text with
    | surrogate => exact absurd htext h
    | unicode text =>
      exact raises_bind (raises_ok _) fun _ _ => raises_bind (raises_require trivial) fun _ _ =>
        raises_bind (raises_require trivial) fun _ _ => raises_pure _

theorem refuses_store_iff {text : CommandText} :
    Raises LedgerError.isAccountingValidation text.store ↔
      ∃ key, text = .unicode key ∧ '\x00' ∉ key.toList := by
  cases text with
  | surrogate =>
    refine iff_of_false (fun h => (h .encodeError rfl).elim) ?_
    rintro ⟨key, hkey, -⟩
    nomatch hkey
  | unicode key =>
    unfold CommandText.store requireStorable
    rw [raises_bind_iff, raises_require_iff]
    constructor
    · intro h
      exact ⟨key, rfl, not_not.mp fun hnul => (h.1 (fun hplain => hnul hplain)).elim⟩
    · rintro ⟨key', hkey, hplain⟩
      cases hkey
      exact ⟨fun hnul => absurd hplain hnul, fun _ _ => raises_pure _⟩

theorem store_eq_ok {text : CommandText} {key : String} (h : text.store = .ok key) :
    text = .unicode key := by
  cases text with
  | surrogate => nomatch h
  | unicode other =>
    unfold CommandText.store at h
    simp only [bind_eq_ok, pure_eq_ok] at h
    obtain ⟨_, -, rfl⟩ := h
    rfl

theorem refuses_requireEntryCurrencies (statement : NormalizedBankStatement) :
    Raises LedgerError.isAccountingValidation (requireEntryCurrencies statement) :=
  raises_bind (raises_tryMap (fun _ => raises_require trivial) _) fun _ _ => raises_pure _

theorem refuses_matchAccount (accounts : BankAccounts) (reference : String)
    (statement : NormalizedBankStatement) :
    Raises LedgerError.isAccountingValidation (matchAccount accounts reference statement) :=
  raises_bind (raises_fetch trivial) fun _ _ => raises_bind (raises_require trivial) fun _ _ =>
    raises_bind (raises_require trivial) fun _ _ =>
      raises_bind (refuses_requireEntryCurrencies statement) fun _ _ => raises_pure _

/-- What is left of a call once its statement is prepared. -/
theorem refuses_insert_iff (hdigest : ∀ bytes, matchesHash (sha256 bytes) = true) {t : IntakeTables}
    (hbelow : IdsBelow t) {command : StatementCommand} (hunseen : Unseen dep sha256 expat t command)
    {payload : ByteArray} {statement : NormalizedBankStatement} {account : BankAccountRecord}
    (hprepared : Prepared dep sha256 expat t command payload statement account)
    {key : String} (hkey : command.ingestionIdempotencyKey = .unicode key) :
    Raises LedgerError.isAccountingValidation (do
      let inserted ← insertStatement t statement account payload key
      let document ← loadStatementDocument dep inserted.2 inserted.1.bankStatementRecordId false
      pure (document, inserted.2)) ↔ Storage command statement := by
  have hstorage : Storage command statement ↔
      IsFilled key ∧ ∀ entry ∈ statement.entries, AmountsFit entry := by
    unfold Storage
    rw [hkey]
    refine and_congr_left' ⟨?_, fun hfilled => ⟨key, rfl, hfilled⟩⟩
    rintro ⟨key', hsame, hfilled⟩
    cases hsame
    exact hfilled
  rw [hstorage]
  rcases insert_of_prepared hdigest hbelow hunseen hprepared hkey with
    ⟨hfilled, hfit, document, hinsert, hload, -⟩ | ⟨hnot, kind, hinsert⟩
  · refine iff_of_true ?_ ⟨hfilled, hfit⟩
    rw [hinsert, ok_bind]
    dsimp only [recordRow]
    rw [hload, ok_bind]
    exact raises_pure _
  · rw [hinsert, error_bind]
    exact iff_of_false (fun h => (h _ rfl).elim) hnot

theorem refuses_accept_iff (hdigest : ∀ bytes, matchesHash (sha256 bytes) = true) {t : IntakeTables}
    (hbelow : IdsBelow t) {command : StatementCommand} (hunseen : Unseen dep sha256 expat t command) :
    Raises LedgerError.isAccountingValidation (acceptBankStatementEvidence dep sha256 expat t command) ↔
      IntakeStaysClosed dep sha256 expat t command := by
  have hlast : ∀ payload statement account key
      (answer : Option BankStatementRecord → Result (IntakeDocument × IntakeTables)),
      Prepared dep sha256 expat t command payload statement account →
      command.ingestionIdempotencyKey = .unicode key →
      answer none = (do
        let inserted ← insertStatement t statement account payload key
        let document ← loadStatementDocument dep inserted.2 inserted.1.bankStatementRecordId false
        pure (document, inserted.2)) →
      (Raises LedgerError.isAccountingValidation (findStatement t statement account key >>= answer) ↔
        Storage command statement) := by
    intro payload statement account key answer hprepared hkey hanswer
    rw [findStatement_of_new (hunseen.isNew hprepared hkey), ok_bind, hanswer]
    exact refuses_insert_iff hdigest hbelow hunseen hprepared hkey
  unfold acceptBankStatementEvidence
  simp only [raises_bind_iff (x := command.readPayload dep sha256), refuses_readPayload_iff]
  constructor
  · rintro ⟨htext, h⟩
    refine ⟨htext, fun payload hpayload => ?_, ?_, ?_⟩
    · exact refuses_payload_iff.mp (raises_bind_iff.mp (h payload hpayload)).1
    · rintro payload hpayload ⟨statement, hparsed⟩
      have hstore := (raises_bind_iff.mp (h payload hpayload)).2 statement hparsed
      exact refuses_store_iff.mp (raises_bind_iff.mp hstore).1
    · intro payload statement account hprepared
      have hstore := (raises_bind_iff.mp (h payload hprepared.read)).2 statement hprepared.parsed
      obtain ⟨key, hkey, hplain⟩ := refuses_store_iff.mp (raises_bind_iff.mp hstore).1
      have hok : command.ingestionIdempotencyKey.store = .ok key := by
        rw [hkey]
        unfold CommandText.store requireStorable
        dsimp only
        rw [require_of hplain, ok_bind]
        rfl
      have haccount := (raises_bind_iff.mp hstore).2 key hok
      exact (hlast payload statement account key _ hprepared hkey (by rfl)).mp
        ((raises_bind_iff.mp haccount).2 account hprepared.account)
  · intro h
    refine ⟨h.text, fun payload hpayload => ?_⟩
    refine raises_bind (refuses_payload_iff.mpr (h.parse payload hpayload)) fun statement hparsed => ?_
    refine raises_bind (refuses_store_iff.mpr (h.key payload hpayload ⟨statement, hparsed⟩)) fun key hok => ?_
    refine raises_bind (refuses_matchAccount _ _ _) fun account haccount => ?_
    have hprepared : Prepared dep sha256 expat t command payload statement account :=
      ⟨hpayload, hparsed, haccount⟩
    exact (hlast payload statement account key _ hprepared (store_eq_ok hok) (by rfl)).mpr
      (h.storage payload statement account hprepared)

/-! ## Intake as a whole -/

/-- A new statement is refused and leaves no row, or is stored as it was parsed. -/
structure IntakeKept (dep : Deployment) (sha256 : ByteArray → String)
    (expat : ByteArray → ExpatStream 0) (t : IntakeTables) (command : StatementCommand) : Prop where
  refused : ∀ e, acceptBankStatementEvidence dep sha256 expat t command = .error e →
    e.isAccountingValidation ∧ intake dep sha256 expat t command = t
  stored : ∀ document t', acceptBankStatementEvidence dep sha256 expat t command = .ok (document, t') →
    intake dep sha256 expat t command = t' ∧ ∃ payload statement,
      command.readPayload dep sha256 = .ok payload ∧
      command.parse sha256 expat payload = .ok statement ∧ StoredAs sha256 t' document statement

theorem stored_of_accepted (hdigest : ∀ bytes, matchesHash (sha256 bytes) = true) {t t' : IntakeTables}
    (hbelow : IdsBelow t) {command : StatementCommand} (hunseen : Unseen dep sha256 expat t command)
    {document : IntakeDocument}
    (h : acceptBankStatementEvidence dep sha256 expat t command = .ok (document, t')) :
    ∃ payload statement, command.readPayload dep sha256 = .ok payload ∧
      command.parse sha256 expat payload = .ok statement ∧ StoredAs sha256 t' document statement := by
  unfold acceptBankStatementEvidence at h
  simp only [bind_eq_ok] at h
  obtain ⟨payload, hpayload, statement, hparsed, key, hstore, account, haccount, prior, hprior, h⟩ := h
  have hkey := store_eq_ok hstore
  have hprepared : Prepared dep sha256 expat t command payload statement account :=
    ⟨hpayload, hparsed, haccount⟩
  rw [findStatement_of_new (hunseen.isNew hprepared hkey), Except.ok.injEq] at hprior
  subst hprior
  dsimp only at h
  rcases insert_of_prepared hdigest hbelow hunseen hprepared hkey with
    ⟨-, -, document', hinsert, hload, hstored⟩ | ⟨-, kind, hinsert⟩
  · rw [hinsert, ok_bind] at h
    dsimp only [recordRow] at h
    rw [hload, ok_bind, pure_eq_ok, Prod.mk.injEq] at h
    obtain ⟨rfl, rfl⟩ := h
    exact ⟨payload, statement, hpayload, hparsed, hstored⟩
  · rw [hinsert, error_bind] at h
    cases h

theorem intakeKept_iff (hdigest : ∀ bytes, matchesHash (sha256 bytes) = true) {t : IntakeTables}
    (hbelow : IdsBelow t) {command : StatementCommand} (hunseen : Unseen dep sha256 expat t command) :
    IntakeKept dep sha256 expat t command ↔ IntakeStaysClosed dep sha256 expat t command := by
  rw [← refuses_accept_iff hdigest hbelow hunseen]
  constructor
  · exact fun h e he => (h.refused e he).1
  · intro h
    refine ⟨fun e he => ⟨h e he, ?_⟩, fun document t' hok => ⟨?_, stored_of_accepted hdigest hbelow hunseen hok⟩⟩
    · unfold intake
      rw [he]
    · unfold intake
      rw [hok]

/-- Stands for SHA-256 where no two digests are compared. -/
def oneDigest : ByteArray → String :=
  fun _ => "sha256:0000000000000000000000000000000000000000000000000000000000000000"

theorem oneDigest_matches (bytes : ByteArray) : matchesHash (oneDigest bytes) = true := by
  show matchesHash "sha256:0000000000000000000000000000000000000000000000000000000000000000" = true
  decide +kernel

/-- The account of the statement. -/
def batchAccounts : BankAccounts where
  accounts := [⟨1, "urn:cwl:bank_account:a1", "USD", oneDigest ⟨#[]⟩⟩]
  account_key := List.nodup_singleton _
  account_reference := List.nodup_singleton _

/-- Intake of the statement under a key. -/
def batchCommand (key : String) : StatementCommand where
  tenantReference := "urn:cwl:tenant:t1"
  bankAccountReference := "urn:cwl:bank_account:a1"
  ingestionIdempotencyKey := .unicode key
  messageDefinitionIdentifier := camt053MessageDefinition
  statementPayload := some (.unicode "<")
  sourceArtifactHash := none

theorem batchCommand_read : ∀ key ∈ ["ingest-1", " "],
    (batchCommand key).readText (sampleDeployment sampleCatalog) = .ok (.unicode "<") ∧
      (batchCommand key).readPayload (sampleDeployment sampleCatalog) oneDigest = .ok "<".toUTF8 := by
  decide +kernel

theorem batchDocument_matches :
    ∃ statement account, parseDocument oneDigest batchDocument "<".toUTF8 = .ok statement ∧
      matchAccount batchAccounts "urn:cwl:bank_account:a1" statement = .ok account ∧
      ∀ entry ∈ statement.entries, AmountsFit entry := by
  have hmatched : Succeeds (do
      let statement ← parseDocument oneDigest batchDocument "<".toUTF8
      matchAccount batchAccounts "urn:cwl:bank_account:a1" statement) := by decide +kernel
  have hfit : ∀ statement ∈ (parseDocument oneDigest batchDocument "<".toUTF8).toOption,
      ∀ entry ∈ statement.entries, AmountsFit entry := by decide +kernel
  obtain ⟨account, haccount⟩ := hmatched
  rw [bind_eq_ok] at haccount
  obtain ⟨statement, hparsed, haccount⟩ := haccount
  refine ⟨statement, account, hparsed, haccount, hfit statement ?_⟩
  rw [hparsed]
  rfl

/-- The statement under a key, up to the first insert. -/
theorem batchCommand_prepared {key : String} (hkey : key ∈ ["ingest-1", " "]) :
    ∃ statement account, Prepared (sampleDeployment sampleCatalog) oneDigest
        (fun _ => documentEvents batchDocument) (noEvidence batchAccounts) (batchCommand key) "<".toUTF8
        statement account ∧
      ∀ entry ∈ statement.entries, AmountsFit entry := by
  obtain ⟨statement, account, hparsed, haccount, hfit⟩ := batchDocument_matches
  have hsize : "<".toUTF8.size ≠ 0 ∧ "<".toUTF8.size ≤ maxStatementBytes := by decide +kernel
  exact ⟨statement, account, ⟨(batchCommand_read key hkey).2,
    (parsePayload_eq batchDocument_read hsize.1 hsize.2).trans hparsed, haccount⟩, hfit⟩

theorem unseen_noEvidence (accounts : BankAccounts) (command : StatementCommand) :
    Unseen dep sha256 expat (noEvidence accounts) command where
  key _ hrow := absurd hrow List.not_mem_nil
  artifact _ _ := ⟨fun _ hrow => absurd hrow List.not_mem_nil, fun _ hrow => absurd hrow List.not_mem_nil⟩
  identity _ _ _ _ _ _ _ hrow := absurd hrow List.not_mem_nil

end AccountingPlatform.Bank.Camt
