/-
  The bases of a trial balance.

  The unadjusted basis leaves out single lines by their role, the closing pattern whole
  journals. Every basis balances, and the adjusting journals are the difference between the
  unadjusted and the adjusted one, as long as proposals keep off the role `adjusting` and
  adjusting journals use no other (`balanceBases_nested_iff`).
-/
import AccountingPlatform.Postgres.JournalSources

namespace AccountingPlatform.Postgres

open AccountingPlatform.Lib AccountingPlatform.Core

variable (dep : Deployment)

/-! ## Writers -/

/-- The first command after which the journal is stored. -/
def journalWriter (journal : GeneralJournal) (t : Tables) : List Command → Option Command
  | [] => none
  | command :: commands =>
    if journal ∈ (execute dep t command).journals then some command
    else journalWriter journal (execute dep t command) commands

def writerSource (commands : List Command) (journal : GeneralJournal) : Option JournalSource :=
  (journalWriter dep journal Tables.empty commands).bind Command.journalSource

/-- The journal was posted by `post_adjusting_journal`, or reverses one that was. -/
def FromAdjusting (commands : List Command) (journal : GeneralJournal) : Prop :=
  writerSource dep commands journal = some .adjusting ∨
    ∃ lineage ∈ (ledgerAfter dep commands).reversals,
      lineage.reversalJournalId = journal.generalJournalId ∧
      ∃ original ∈ (ledgerAfter dep commands).journals,
        original.generalJournalId = lineage.originalJournalId ∧
        writerSource dep commands original = some .adjusting

instance decFromAdjusting (commands : List Command) (journal : GeneralJournal) :
    Decidable (FromAdjusting dep commands journal) :=
  inferInstanceAs (Decidable (_ ∨ _))

/-! ## Bases -/

def TrialBalanceDocument.debitOf (document : TrialBalanceDocument) (code : String) : ℕ :=
  total TrialBalanceEntry.debitAmount (document.lines.filter fun line => line.chartAccountCode = code)

def TrialBalanceDocument.creditOf (document : TrialBalanceDocument) (code : String) : ℕ :=
  total TrialBalanceEntry.creditAmount (document.lines.filter fun line => line.chartAccountCode = code)

/-- Lines of the adjusting journals of a book through the end of a period. -/
def adjustingLines (commands : List Command) (entity : LegalEntityRecord) (book : AccountingBook)
    (period : FiscalPeriod) : List LedgerLine :=
  (linesThrough dep (ledgerAfter dep commands) entity.legalEntityId book.accountingBookId
    period.periodEndDate).filter fun row => FromAdjusting dep commands row.journal

/-- All lines of a journal, or none of them, are adjusting, as its origin says. -/
def Whole (commands : List Command) (journal : GeneralJournal) : Prop :=
  (FromAdjusting dep commands journal ∧
    ∀ line ∈ journal.lines, line.accountRoleCode = "adjusting") ∨
  (¬FromAdjusting dep commands journal ∧
    ∀ line ∈ journal.lines, line.accountRoleCode ≠ "adjusting")

/-- Every basis balances, the adjusted one is the unadjusted one with the adjusting journals,
    and no journal is split between them. -/
structure BasesNested (commands : List Command) : Prop where
  balanced : ∀ (legalEntityReference accountingBookReference periodCode balanceBasisCode : String)
    (document : TrialBalanceDocument),
    loadPeriodTrialBalance dep (ledgerAfter dep commands) legalEntityReference
      accountingBookReference periodCode balanceBasisCode = .ok document →
    total TrialBalanceEntry.debitAmount document.lines =
      total TrialBalanceEntry.creditAmount document.lines
  nested : ∀ (legalEntityReference accountingBookReference periodCode : String)
    (entity : LegalEntityRecord) (book : AccountingBook) (period : FiscalPeriod)
    (unadjusted adjusted : TrialBalanceDocument),
    dep.loadScope legalEntityReference accountingBookReference "the trial-balance read" =
      .ok (entity, book) →
    requireFiscalPeriod dep (ledgerAfter dep commands) periodCode "the trial-balance read" =
      .ok period →
    loadPeriodTrialBalance dep (ledgerAfter dep commands) legalEntityReference
      accountingBookReference periodCode "unadjusted" = .ok unadjusted →
    loadPeriodTrialBalance dep (ledgerAfter dep commands) legalEntityReference
      accountingBookReference periodCode "adjusted" = .ok adjusted →
    ∀ code, adjusted.debitOf code = unadjusted.debitOf code + total LedgerLine.debit
        ((adjustingLines dep commands entity book period).filter fun row => row.code = code) ∧
      adjusted.creditOf code = unadjusted.creditOf code + total LedgerLine.credit
        ((adjustingLines dep commands entity book period).filter fun row => row.code = code)
  whole : ∀ journal ∈ (ledgerAfter dep commands).journals, Whole dep commands journal

/-- No line of a proposal has the role `adjusting`; every line of an adjusting journal has it. -/
def Command.rolesKeepBases : Command → Prop
  | .post proposal _ | .postProposal proposal =>
    ∀ line ∈ proposal.lines, line.accountRoleCode ≠ "adjusting"
  | .postAdjustingJournal request => ∀ line ∈ request.lines, line.accountRoleCode = "adjusting"
  | .reverse _ _ | .closeFiscalPeriod _ | .openFiscalPeriod _ => True

/-- If the command writes a journal, its roles keep the bases apart. -/
def RolesKeepBases (before : List Command) (command : Command) : Prop :=
  (execute dep (ledgerAfter dep before) command).journals ≠ (ledgerAfter dep before).journals →
    command.rolesKeepBases

variable {dep}

/-! ## The writer of a journal -/

theorem journalWriter_of_run {t : Tables} (hwf : WellFormed dep t) {before commands : List Command}
    {command : Command} {journal : GeneralJournal}
    (hnot : journal ∉ (run (execute dep) t before).journals)
    (hmem : journal ∈ (execute dep (run (execute dep) t before) command).journals)
    (hc : before ++ [command] <+: commands) : journalWriter dep journal t commands = some command := by
  induction before generalizing t commands with
  | nil =>
    obtain ⟨later, rfl⟩ := hc
    exact if_pos hmem
  | cons first before ih =>
    obtain ⟨later, rfl⟩ := hc
    have hwf' := wellFormed_execute hwf first
    have hearly : journal ∉ (execute dep t first).journals := fun h =>
      hnot ((extends_run hwf' before).journals.subset h)
    rw [List.cons_append, List.cons_append, journalWriter, if_neg hearly]
    exact ih hwf' hnot hmem (List.prefix_append _ _)

theorem Writes.writerSource {commands before : List Command} {command : Command}
    {journal : GeneralJournal} (h : Writes dep before command journal)
    (hc : before ++ [command] <+: commands) :
    writerSource dep commands journal = command.journalSource := by
  unfold Postgres.writerSource
  rw [journalWriter_of_run wellFormed_empty h.1 h.2 hc]
  rfl

/-! ## Journals inside and outside -/

section Writer

variable {commands before : List Command} {command : Command} {journal : GeneralJournal}

/-- A journal that is no reversal is an adjusting one when its own command was. -/
theorem fromAdjusting_iff (hnot : ¬isReversal (ledgerAfter dep commands) journal) :
    FromAdjusting dep commands journal ↔ writerSource dep commands journal = some .adjusting := by
  constructor
  · intro h
    rcases h with h | ⟨lineage, hlineage, hof, -⟩
    · exact h
    · exact absurd (isReversal_iff.mpr ⟨lineage, hlineage, hof⟩) hnot
  · exact Or.inl

/-- What was no reversal when it was written is none later. -/
theorem Writes.not_reversal (h : Writes dep before command journal)
    (hc : before ++ [command] <+: commands)
    (hnot : ¬isReversal (execute dep (ledgerAfter dep before) command) journal) :
    ¬isReversal (ledgerAfter dep commands) journal := by
  obtain ⟨later, rfl⟩ := hc
  rw [ledgerAfter, run_append, ← ledgerAfter, ledgerAfter_concat,
    isReversal_run (wellFormed_execute (wellFormed_ledgerAfter before) command) h.2]
  exact hnot

/-- A posted journal is whole exactly when the roles of its command keep the bases apart. -/
theorem Writes.whole_iff (h : Writes dep before command journal)
    (hc : before ++ [command] <+: commands) (hposts : command.posts)
    (hnot : ¬isReversal (ledgerAfter dep commands) journal) :
    Whole dep commands journal ↔ command.rolesKeepBases := by
  obtain ⟨record, lineage, hb⟩ := h.booked
  have hgiven : ∃ line, line ∈ journal.lines := by
    have hmem : journal ∈ (ledgerAfter dep (before ++ [command])).journals := by
      rw [ledgerAfter_concat]
      exact h.2
    exact List.exists_mem_of_ne_nil _ ((wellFormed_ledgerAfter _).facts journal hmem).given
  have hall : ∀ p : String → Prop, (∀ line ∈ journal.lines, p line.accountRoleCode) ↔
      ∀ role ∈ command.lineRoles, p role := by
    intro p
    rw [← hb.lineRoles hposts, List.forall_mem_map]
  unfold Whole
  rw [fromAdjusting_iff hnot, h.writerSource hc, hall (· = "adjusting"), hall (· ≠ "adjusting")]
  cases command with
  | post proposal policy =>
    simp [Command.journalSource, Command.rolesKeepBases, Command.lineRoles]
  | postProposal proposal =>
    simp [Command.journalSource, Command.rolesKeepBases, Command.lineRoles]
  | postAdjustingJournal request =>
    simp [Command.journalSource, Command.rolesKeepBases, Command.lineRoles]
  | _ => simp [Command.posts, Command.journalSource] at hposts

/-- A command that books a journal without lineage posts it or closes a period. -/
theorem Booked.posts_or_closes {t t' : Tables} {record : ProposalRecord}
    {lineage : Option JournalReversal} {receipt : Option PostingReceipt}
    (hb : Booked dep t command record journal lineage receipt t') :
    (command.posts ∧ lineage = none) ∨
      (∃ request, command = .closeFiscalPeriod request ∧ lineage = none ∧
        isClosingReference journal.journalReference = true) ∨
      ∃ request policy, command = .reverse request policy := by
  have hbooking := hb.booking
  cases hbooking with
  | post => exact Or.inl ⟨Or.inl rfl, rfl⟩
  | postProposal => exact Or.inl ⟨Or.inl rfl, rfl⟩
  | adjusting => exact Or.inl ⟨Or.inr rfl, rfl⟩
  | reverse => exact Or.inr (Or.inr ⟨_, _, rfl⟩)
  | @close request _ _ hreference =>
    exact Or.inr (Or.inl ⟨request, rfl, rfl, hreference ▸ closingReference_closing request⟩)

end Writer

/-- The original of a reversal was posted by a command of the run before it. -/
theorem PostingsKept.original_writer {commands : List Command} {original : GeneralJournal}
    (hmem : original ∈ (ledgerAfter dep commands).journals)
    (hfinal : ∃ r ∈ (ledgerAfter dep commands).postingReceipts,
      r.generalJournalId = original.generalJournalId)
    (hnot : lineageOf? (ledgerAfter dep commands) original.generalJournalId = none) :
    ∃ before command, before ++ [command] <+: commands ∧ Writes dep before command original ∧
      command.posts := by
  obtain ⟨-, -, -, id, hid, hreference, -, -⟩ :=
    (postingsKept_ledgerAfter commands).original_posted hmem hfinal hnot
  obtain ⟨before, command, hc, hwrites⟩ := exists_writer hmem
  obtain ⟨record, lineage, hb⟩ := hwrites.booked
  refine ⟨before, command, hc, hwrites, ?_⟩
  rcases hb.posts_or_closes with ⟨hposts, -⟩ | ⟨request, -, -, hclosing⟩ | ⟨request, policy, rfl⟩
  · exact hposts
  · rw [hreference, (fromProposal_reference hid).not_closing] at hclosing
    cases hclosing
  · -- a reversal has a lineage row, then as now
    have hbooking := hb.booking
    generalize builtReceipt _ _ _ = receipt at hbooking
    cases hbooking with
    | reverse =>
      have hreversal : isReversal (execute dep (ledgerAfter dep before) (.reverse request policy))
          original := by
        rw [isReversal_iff, hb.reversals]
        exact ⟨_, List.mem_append_right _ List.mem_cons_self, rfl⟩
      obtain ⟨later, rfl⟩ := hc
      rw [← isReversal_run (wellFormed_execute (wellFormed_ledgerAfter before) _) hwrites.2 later,
        ← ledgerAfter_concat, ← ledgerAfter_append] at hreversal
      exact absurd hnot hreversal

/-- A reversal of a whole journal is whole. -/
theorem Whole.reversed {commands : List Command} {lineage : JournalReversal}
    {original journal : GeneralJournal} (h : Whole dep commands original)
    (hsource : writerSource dep commands journal ≠ some .adjusting)
    (hnot : ¬isReversal (ledgerAfter dep commands) original)
    (hmem : original ∈ (ledgerAfter dep commands).journals)
    (hlineage : lineage ∈ (ledgerAfter dep commands).reversals)
    (hof : lineage.reversalJournalId = journal.generalJournalId)
    (hfrom : lineage.originalJournalId = original.generalJournalId)
    (hrows : journal.lines = original.orderedLines.map JournalEntryLine.opposite) :
    Whole dep commands journal := by
  have hkept := @postingsKept_ledgerAfter dep commands
  have hwf := @wellFormed_ledgerAfter dep commands
  have hsame : FromAdjusting dep commands journal ↔ FromAdjusting dep commands original := by
    rw [fromAdjusting_iff hnot]
    constructor
    · intro hadjusting
      rcases hadjusting with hadjusting | ⟨lineage', hlineage', hof', original', horiginal', hid,
        hadjusting⟩
      · exact absurd hadjusting hsource
      · obtain rfl : lineage' = lineage :=
          List.inj_on_of_nodup_map hkept.reversal_keys hlineage' hlineage (hof'.trans hof.symm)
        obtain rfl : original' = original :=
          List.inj_on_of_nodup_map hwf.journal_keys horiginal' hmem (hid.trans hfrom)
        exact hadjusting
    · intro hadjusting
      exact Or.inr ⟨lineage, hlineage, hof, original, hmem, hfrom.symm, hadjusting⟩
  have hroles : ∀ p : String → Prop, (∀ line ∈ original.lines, p line.accountRoleCode) →
      ∀ line ∈ journal.lines, p line.accountRoleCode := by
    intro p hall line hline
    rw [hrows] at hline
    obtain ⟨row, hrow, rfl⟩ := List.mem_map.mp hline
    exact hall row ((List.mem_insertionSort _).mp hrow)
  unfold Whole at h ⊢
  rw [hsame]
  exact h.imp (And.imp_right (hroles (· = "adjusting"))) (And.imp_right (hroles (· ≠ "adjusting")))

/-- Every journal is whole exactly when every command that writes one keeps the bases apart. -/
theorem whole_iff (commands : List Command) :
    (∀ journal ∈ (ledgerAfter dep commands).journals, Whole dep commands journal) ↔
      EveryStep (RolesKeepBases dep) commands := by
  have hposted : ∀ {before command journal record receipt}, before ++ [command] <+: commands →
      Writes dep before command journal → command.posts →
      Booked dep (ledgerAfter dep before) command record journal none receipt
        (execute dep (ledgerAfter dep before) command) →
      (Whole dep commands journal ↔ command.rolesKeepBases) := by
    intro before command journal record receipt hc hwrites hposts hb
    exact hwrites.whole_iff hc hposts (hwrites.not_reversal hc
      (hb.not_reversal (wellFormed_ledgerAfter before) (postingsKept_ledgerAfter before)))
  constructor
  · intro hwhole before command hc hchanged
    rcases execute_booked (@wellFormed_ledgerAfter dep before) command with
      hu | ⟨record, journal, lineage, hb⟩
    · exact absurd hu.journals hchanged
    · have hmem := hb.writes.mem hc
      rcases hb.posts_or_closes with ⟨hposts, rfl⟩ | ⟨request, rfl, -, -⟩ | ⟨request, policy, rfl⟩
      · exact (hposted hc hb.writes hposts hb).mp (hwhole journal hmem)
      · trivial
      · trivial
  · intro hroles
    have hkeeps : ∀ {before command journal}, before ++ [command] <+: commands →
        Writes dep before command journal → command.rolesKeepBases := by
      intro before command journal hc hwrites
      refine hroles before command hc fun hsame => ?_
      exact hwrites.1 (hsame ▸ hwrites.2)
    intro journal hmem
    obtain ⟨before, command, hc, hwrites⟩ := exists_writer hmem
    obtain ⟨record, lineage, hb⟩ := hwrites.booked
    rcases hb.posts_or_closes with ⟨hposts, rfl⟩ | ⟨request, rfl, rfl, hclosing⟩ |
      ⟨request, policy, rfl⟩
    · exact (hposted hc hwrites hposts hb).mpr (hkeeps hc hwrites)
    · have hnot := hwrites.not_reversal hc
        (hb.not_reversal (wellFormed_ledgerAfter before) (postingsKept_ledgerAfter before))
      refine Or.inr ⟨?_, fun line hline heq => ?_⟩
      · rw [fromAdjusting_iff hnot, hwrites.writerSource hc]
        simp [Command.journalSource]
      · exact closingRolesKept_ledgerAfter commands journal hmem hclosing ⟨line, hline, heq⟩
    · have hbooking := hb.booking
      generalize builtReceipt _ _ _ = receipt at hbooking
      cases hbooking with
      | @reverse _ _ original _ horiginal hfinal hnot _ _ _ _ _ _ _ hrows =>
        have hstored : original ∈ (ledgerAfter dep before).journals :=
          List.mem_of_find?_eq_some horiginal
        obtain ⟨before', command', hc', hwrites', hposts⟩ :=
          PostingsKept.original_writer hstored hfinal hnot
        have hc'' := hc'.trans ((List.prefix_append _ _).trans hc)
        have hplain : ¬isReversal (ledgerAfter dep commands) original := by
          obtain ⟨later, rfl⟩ := (List.prefix_append before [_]).trans hc
          rw [ledgerAfter_append, isReversal_run (wellFormed_ledgerAfter before) hstored]
          exact not_not_intro hnot
        have hwhole := (hwrites'.whole_iff hc'' hposts hplain).mpr (hkeeps hc'' hwrites')
        refine @Whole.reversed dep _ ⟨original.generalJournalId, journal.generalJournalId,
          request.reversalReasonCode⟩ _ _ hwhole ?_ hplain (hwrites'.mem hc'') ?_ rfl rfl hrows
        · rw [hwrites.writerSource hc]
          simp [Command.journalSource]
        · obtain ⟨later, rfl⟩ := hc
          rw [ledgerAfter_append, ledgerAfter_concat]
          refine (extends_run (wellFormed_execute (wellFormed_ledgerAfter before) _)
            later).reversals.subset ?_
          rw [hb.reversals]
          exact List.mem_append_right _ List.mem_cons_self

/-! ## Sums of a basis -/

/-- One side of one account in an aggregate is that side of its lines. -/
theorem worksheet_side (rows : List LedgerLine) (code : String) (side : TrialBalanceEntry → ℕ)
    (f : LedgerLine → ℕ) (g : BalanceRow → ℕ) (hside : ∀ row, side (trialBalanceEntry (liveRow row)) = g row)
    (hg : ∀ key : ℕ × String, ∀ group : List LedgerLine,
      g ⟨key.1, key.2, total LedgerLine.debit group, total LedgerLine.credit group⟩ = total f group) :
    total side ((((balanceRows dep rows).map liveRow).map trialBalanceEntry).filter fun line =>
        line.chartAccountCode = code) =
      total f (rows.filter fun row => row.code = code) := by
  have hrows := balanceRows_total dep f g rows (fun key => key.2 = code) hg
  rw [total_filter, total_map, total_map]
  rw [total_filter] at hrows
  refine Eq.trans (total_congr fun row _ => ?_) hrows
  rw [hside]
  rfl

section Bases

variable {commands : List Command} {entity : LegalEntityRecord} {book : AccountingBook}
  {period : FiscalPeriod} {rows : List (String × ℕ × ℕ)} {source : String} {id : Option ℕ}

theorem mem_linesThrough {t : Tables} {legalEntityId bookId : ℕ} {throughDate : Date}
    {row : LedgerLine} (h : row ∈ linesThrough dep t legalEntityId bookId throughDate) :
    row.journal ∈ t.journals ∧ row.line ∈ row.journal.lines := by
  obtain ⟨hjournal, hline, -⟩ := mem_ledgerLines h
  exact ⟨(List.mem_filter.mp (List.mem_filter.mp hjournal).1).1, hline⟩

/-- Where journals are whole, the role of a line is that of its journal. -/
theorem adjusting_iff (hwhole : ∀ journal ∈ (ledgerAfter dep commands).journals,
      Whole dep commands journal) {legalEntityId bookId : ℕ} {throughDate : Date} {row : LedgerLine}
    (hrow : row ∈ linesThrough dep (ledgerAfter dep commands) legalEntityId bookId throughDate) :
    row.line.accountRoleCode = "adjusting" ↔ FromAdjusting dep commands row.journal := by
  obtain ⟨hjournal, hline⟩ := mem_linesThrough hrow
  rcases hwhole _ hjournal with ⟨hfrom, hall⟩ | ⟨hnot, hall⟩
  · exact iff_of_true (hall _ hline) hfrom
  · exact iff_of_false (hall _ hline) hnot

/-- A worksheet basis is made of whole journals, so it balances. -/
theorem worksheet_balanced (hwhole : ∀ journal ∈ (ledgerAfter dep commands).journals,
      Whole dep commands journal) (legalEntityId bookId : ℕ) (throughDate : Date)
    (excludeAdjusting : Bool) :
    total BalanceRow.debitTotal (aggregateWorksheetTrialBalance dep (ledgerAfter dep commands)
        legalEntityId bookId throughDate excludeAdjusting) =
      total BalanceRow.creditTotal (aggregateWorksheetTrialBalance dep (ledgerAfter dep commands)
        legalEntityId bookId throughDate excludeAdjusting) := by
  have hjournals : (linesThrough dep (ledgerAfter dep commands) legalEntityId bookId
      throughDate).filter (fun row => ¬isClosingReference row.journal.journalReference ∧
        (excludeAdjusting = false ∨ row.line.accountRoleCode ≠ "adjusting")) =
      ledgerLines dep (((bookJournals (ledgerAfter dep commands) legalEntityId bookId).filter
        fun journal => journal.accountingDate ≤ throughDate).filter fun journal =>
          ¬isClosingReference journal.journalReference ∧
            (excludeAdjusting = false ∨ ¬FromAdjusting dep commands journal)) := by
    rw [ledgerLines_filter]
    refine List.filter_congr fun row hrow => ?_
    rw [decide_eq_decide, Ne, adjusting_iff hwhole hrow]
  unfold aggregateWorksheetTrialBalance
  rw [hjournals]
  refine balanceRows_balanced ((wellFormed_ledgerAfter commands).ledgerLines_balanced fun j hj => ?_)
  exact (List.mem_filter.mp (List.mem_filter.mp (List.mem_filter.mp hj).1).1).1

theorem trialBalanceLines_balanced (hwhole : ∀ journal ∈ (ledgerAfter dep commands).journals,
      Whole dep commands journal) {balanceBasisCode : String}
    (h : trialBalanceLines dep (ledgerAfter dep commands) entity book period balanceBasisCode =
      .ok (rows, source, id)) :
    total (fun row : String × ℕ × ℕ => row.2.1) rows =
      total (fun row : String × ℕ × ℕ => row.2.2) rows := by
  have hwf := @wellFormed_ledgerAfter dep commands
  have hkept : LinesKept dep (ledgerAfter dep commands) :=
    hwf.linesKept fun _ account haccount => ⟨account, haccount⟩
  have hsnapshot : ∀ {snapshot}, latestCloseSnapshot (ledgerAfter dep commands) entity.legalEntityId
      book.accountingBookId period.fiscalPeriodId = some snapshot →
      total (fun row : String × ℕ × ℕ => row.2.1) (snapshotBalanceLines dep snapshot) =
        total (fun row : String × ℕ × ℕ => row.2.2) (snapshotBalanceLines dep snapshot) :=
    fun hlatest => snapshotBalanceLines_balanced hkept (mem_of_latestCloseSnapshot hlatest).1
  unfold trialBalanceLines at h
  dsimp only at h
  split at h
  · simp only [bind_eq_ok, fetch_eq_ok, pure_eq_ok, Prod.mk.injEq] at h
    obtain ⟨snapshot, hlatest, rfl, -⟩ := h
    exact hsnapshot hlatest
  · split at h
    · simp only [pure_eq_ok, Prod.mk.injEq] at h
      rw [← h.1, total_map, total_map]
      exact worksheet_balanced hwhole _ _ _ true
    · split at h
      · simp only [pure_eq_ok, Prod.mk.injEq] at h
        rw [← h.1, total_map, total_map]
        exact worksheet_balanced hwhole _ _ _ false
      · split at h
        · simp only [bind_eq_ok, fetch_eq_ok, pure_eq_ok, Prod.mk.injEq] at h
          obtain ⟨snapshot, hlatest, rfl, -⟩ := h
          exact hsnapshot hlatest
        · simp only [pure_eq_ok, Prod.mk.injEq] at h
          rw [← h.1, total_map, total_map]
          refine balanceRows_balanced (hwf.ledgerLines_balanced fun j hj => ?_)
          exact (List.mem_filter.mp (List.mem_filter.mp hj).1).1

/-- The lines of the adjusted basis are those of the unadjusted one and the adjusting journals. -/
theorem worksheet_nested (hwhole : ∀ journal ∈ (ledgerAfter dep commands).journals,
      Whole dep commands journal) (f : LedgerLine → ℕ) (code : String) :
    total f (((linesThrough dep (ledgerAfter dep commands) entity.legalEntityId book.accountingBookId
        period.periodEndDate).filter fun row => ¬isClosingReference row.journal.journalReference ∧
          (false = false ∨ row.line.accountRoleCode ≠ "adjusting")).filter fun row => row.code = code) =
      total f (((linesThrough dep (ledgerAfter dep commands) entity.legalEntityId
        book.accountingBookId period.periodEndDate).filter fun row =>
          ¬isClosingReference row.journal.journalReference ∧
            (true = false ∨ row.line.accountRoleCode ≠ "adjusting")).filter fun row => row.code = code) +
        total f ((adjustingLines dep commands entity book period).filter fun row => row.code = code) := by
  unfold adjustingLines
  simp only [total_filter]
  rw [← total_add]
  refine total_congr fun row hrow => ?_
  have hadjusting := adjusting_iff hwhole hrow
  have hclosing : isClosingReference row.journal.journalReference = true →
      row.line.accountRoleCode ≠ "adjusting" := by
    intro hclosing heq
    obtain ⟨hjournal, hline⟩ := mem_linesThrough hrow
    exact closingRolesKept_ledgerAfter commands _ hjournal hclosing ⟨_, hline, heq⟩
  by_cases hrole : row.line.accountRoleCode = "adjusting"
  · have hopen : isClosingReference row.journal.journalReference = false := by
      rw [← Bool.not_eq_true]
      exact fun hc => hclosing hc hrole
    simp [hrole, hopen, hadjusting.mp hrole]
  · have hnot : ¬FromAdjusting dep commands row.journal := fun h => hrole (hadjusting.mpr h)
    simp [hrole, hnot]

end Bases

/-- The bases are nested exactly when every command that writes a journal keeps them apart. -/
theorem balanceBases_nested_iff (dep : Deployment) (commands : List Command) :
    BasesNested dep commands ↔ EveryStep (RolesKeepBases dep) commands := by
  rw [← whole_iff]
  constructor
  · exact BasesNested.whole
  · intro hwhole
    refine ⟨?_, ?_, hwhole⟩
    · intro legalEntityReference accountingBookReference periodCode balanceBasisCode document hload
      obtain ⟨entity, book, period, rows, source, id, -, -, hrows, hlines⟩ :=
        loadPeriodTrialBalance_rows hload
      rw [hlines, total_map, total_map]
      exact trialBalanceLines_balanced hwhole hrows
    · intro legalEntityReference accountingBookReference periodCode entity book period unadjusted
        adjusted hscope hperiod hunadjusted hadjusted code
      have hlines : ∀ {basis document}, loadPeriodTrialBalance dep (ledgerAfter dep commands)
          legalEntityReference accountingBookReference periodCode basis = .ok document →
          ∃ rows source id, trialBalanceLines dep (ledgerAfter dep commands) entity book period basis =
            .ok (rows, source, id) ∧ document.lines = rows.map trialBalanceEntry := by
        intro basis document hload
        obtain ⟨entity', book', period', rows, source, id, hscope', hperiod', hrows, hlines⟩ :=
          loadPeriodTrialBalance_rows hload
        rw [hscope, Except.ok.injEq, Prod.mk.injEq] at hscope'
        rw [hperiod, Except.ok.injEq] at hperiod'
        obtain ⟨rfl, rfl⟩ := hscope'
        subst hperiod'
        exact ⟨rows, source, id, hrows, hlines⟩
      obtain ⟨rows, source, id, hrows, hdocument⟩ := hlines hunadjusted
      obtain ⟨rows', source', id', hrows', hdocument'⟩ := hlines hadjusted
      unfold trialBalanceLines at hrows hrows'
      dsimp only at hrows hrows'
      rw [if_neg (by decide), if_pos rfl, pure_eq_ok, Prod.mk.injEq] at hrows
      rw [if_neg (by decide), if_neg (by decide), if_pos rfl, pure_eq_ok, Prod.mk.injEq] at hrows'
      unfold TrialBalanceDocument.debitOf TrialBalanceDocument.creditOf
      rw [hdocument, hdocument', ← hrows.1, ← hrows'.1]
      unfold aggregateWorksheetTrialBalance
      rw [worksheet_side _ code TrialBalanceEntry.debitAmount LedgerLine.debit BalanceRow.debitTotal
          (fun _ => rfl) fun _ _ => rfl,
        worksheet_side _ code TrialBalanceEntry.debitAmount LedgerLine.debit BalanceRow.debitTotal
          (fun _ => rfl) fun _ _ => rfl,
        worksheet_side _ code TrialBalanceEntry.creditAmount LedgerLine.credit BalanceRow.creditTotal
          (fun _ => rfl) fun _ _ => rfl,
        worksheet_side _ code TrialBalanceEntry.creditAmount LedgerLine.credit BalanceRow.creditTotal
          (fun _ => rfl) fun _ _ => rfl]
      exact ⟨worksheet_nested hwhole LedgerLine.debit code,
        worksheet_nested hwhole LedgerLine.credit code⟩

/-- The invoice with its revenue on the role `adjusting` leaves half of itself in the unadjusted
    basis. -/
theorem adjustingRoleInvoice_unbalanced :
    (loadPeriodTrialBalance (sampleDeployment adjustingRoleCatalog)
        (ledgerAfter (sampleDeployment adjustingRoleCatalog) adjustingRoleCommands)
        "urn:cwl:legal_entity:e1" "urn:cwl:book:b1" "2024-01" "unadjusted").map (fun document =>
          (total TrialBalanceEntry.debitAmount document.lines,
            total TrialBalanceEntry.creditAmount document.lines)) = .ok (1000000, 0) ∧
    ¬BasesNested (sampleDeployment adjustingRoleCatalog) adjustingRoleCommands := by
  have hload : (loadPeriodTrialBalance (sampleDeployment adjustingRoleCatalog)
      (ledgerAfter (sampleDeployment adjustingRoleCatalog) adjustingRoleCommands)
      "urn:cwl:legal_entity:e1" "urn:cwl:book:b1" "2024-01" "unadjusted").map (fun document =>
        (total TrialBalanceEntry.debitAmount document.lines,
          total TrialBalanceEntry.creditAmount document.lines)) = .ok (1000000, 0) := by
    decide +kernel
  refine ⟨hload, fun hnested => ?_⟩
  obtain ⟨document, hdocument, htotals⟩ := map_eq_ok.mp hload
  have hbalanced := hnested.balanced _ _ _ _ document hdocument
  rw [Prod.mk.injEq] at htotals
  omega

end AccountingPlatform.Postgres
