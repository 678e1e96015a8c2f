/-
  Integrity of the in-memory ledger over whole runs.

  The four dictionaries move together: `WellFormed` says what each of them holds of the
  others, one lemma per command says what the command can do, and everything else is read off
  the invariant of the final ledger.
-/
import AccountingPlatform.Core.PostingLedger
import Mathlib.Data.Set.Function

namespace AccountingPlatform.Core

open AccountingPlatform.Lib

namespace PostingLedger

variable (digest : ReversalCommandPayload → String)

/-! ## What a command can do -/

/-- A new journal and its receipt, nothing else. -/
structure Posted (ledger : PostingLedger) (proposal : JournalProposal) (policy : AccountingPolicy)
    (lines : List PostedJournalLine) (after : PostingLedger) : Prop where
  resolved : tryMap (resolveLine policy) proposal.lines = .ok lines
  fresh : ledger.journals.get? (proposal.tenantReference,
    generalJournalReference proposal.proposalId) = none
  uncached : ledger.cachedIdempotencyReceipt proposal.tenantReference proposal.idempotencyKey
    proposal.sourcePayloadHash = .ok none
  after_eq : after = { ledger with
    journals := ledger.journals.set (proposal.tenantReference,
      generalJournalReference proposal.proposalId) (postedJournal proposal policy lines)
    receiptsByIdempotency := ledger.receiptsByIdempotency.set
      (proposal.tenantReference, proposal.idempotencyKey)
      (proposal.sourcePayloadHash, postingReceipt proposal policy lines) }

/-- A new opposite journal with its receipt and evidence, nothing else. -/
structure Reversed (ledger : PostingLedger) (request : ReversalRequest) (policy : AccountingPolicy)
    (original : PostedJournal) (after : PostingLedger) : Prop where
  stored : ledger.journals.get? (policy.tenantReference, request.journalReference) = some original
  not_reversal : original.reversalOfJournalReference = none
  fresh : ledger.journals.get? (original.tenantReference,
    request.journalReference ++ ":reversal") = none
  after_eq : after = recordReversal
    { ledger with
      journals := ledger.journals.set (original.tenantReference,
        request.journalReference ++ ":reversal") (reversalJournal digest original request policy) }
    (policy.tenantReference, request.journalReference)
    (receiptForPostedJournal (reversalJournal digest original request policy))
    (request.commandKey, request.journalReference, request.commandHash digest policy)

/-- The receipt of a reversal that is already stored, recorded again. -/
structure Rerecorded (ledger : PostingLedger) (request : ReversalRequest)
    (policy : AccountingPolicy) (occupant : PostedJournal) (after : PostingLedger) : Prop where
  original : ∃ original, ledger.journals.get? (policy.tenantReference, request.journalReference) =
    some original ∧ ledger.journals.get? (original.tenantReference,
      request.journalReference ++ ":reversal") = some occupant
  reversal_of : occupant.reversalOfJournalReference = some request.journalReference
  after_eq : after = ledger.recordReversal (policy.tenantReference, request.journalReference)
    (receiptForPostedJournal occupant)
    (request.commandKey, request.journalReference, request.commandHash digest policy)

theorem resolveProposal_ok {proposal : JournalProposal} {policy : AccountingPolicy}
    {lines : List PostedJournalLine} (h : resolveProposal proposal policy = .ok lines) :
    tryMap (resolveLine policy) proposal.lines = .ok lines := by
  simp only [resolveProposal, bind_eq_ok] at h
  obtain ⟨-, -, h⟩ := h
  exact h

theorem post_cases (ledger : PostingLedger) (proposal : JournalProposal) (policy : AccountingPolicy) :
    (ledger.post proposal policy).2 = ledger ∨
    ∃ lines, (ledger.post proposal policy).1 = .ok (postingReceipt proposal policy lines) ∧
      Posted ledger proposal policy lines (ledger.post proposal policy).2 := by
  unfold post
  split
  · exact Or.inl rfl
  · exact Or.inl rfl
  · next huncached =>
    split
    · exact Or.inl rfl
    · next lines hlines =>
      dsimp only
      split
      · exact Or.inl rfl
      · next hfresh =>
        exact Or.inr ⟨lines, rfl, resolveProposal_ok hlines, hfresh, huncached, rfl⟩

theorem reversibleOriginal_ok {ledger : PostingLedger} {request : ReversalRequest}
    {policy : AccountingPolicy} {original : PostedJournal}
    (h : ledger.reversibleOriginal request policy = .ok original) :
    ledger.journals.get? (policy.tenantReference, request.journalReference) = some original ∧
      original.reversalOfJournalReference = none := by
  simp only [reversibleOriginal, bind_eq_ok, fetch_eq_ok, require_eq_ok, pure_eq_ok] at h
  obtain ⟨original', hstored, -, hnot, -, -, rfl⟩ := h
  exact ⟨hstored, hnot⟩

theorem reverse_cases (ledger : PostingLedger) (request : ReversalRequest)
    (policy : AccountingPolicy) :
    (ledger.reverse digest request policy).2 = ledger ∨
    (∃ occupant, (ledger.reverse digest request policy).1 = .ok (receiptForPostedJournal occupant) ∧
      Rerecorded digest ledger request policy occupant (ledger.reverse digest request policy).2) ∨
    ∃ original, (ledger.reverse digest request policy).1 =
        .ok (receiptForPostedJournal (reversalJournal digest original request policy)) ∧
      Reversed digest ledger request policy original (ledger.reverse digest request policy).2 := by
  unfold reverse
  dsimp only
  split
  · exact Or.inl rfl
  split
  · exact Or.inl rfl
  · exact Or.inl rfl
  split
  · exact Or.inl rfl
  next original horiginal =>
  obtain ⟨hstored, hnot⟩ := reversibleOriginal_ok horiginal
  split
  · next occupant hoccupant =>
    split
    · exact Or.inl rfl
    · next hsame =>
      simp only [requireSameReversal, bind_eq_ok, require_eq_ok] at hsame
      exact Or.inr (Or.inl ⟨occupant, rfl, ⟨original, hstored, hoccupant⟩, hsame.choose_spec.1, rfl⟩)
  · next hfresh =>
    split
    · exact Or.inl rfl
    · exact Or.inr (Or.inr ⟨original, rfl, hstored, hnot, hfresh, rfl⟩)

/-- (e) A call that raises leaves every table as it was. -/
theorem execute_error {ledger : PostingLedger} {command : Command} {e : LedgerError}
    (h : (ledger.execute digest command).1 = .error e) :
    (ledger.execute digest command).2 = ledger := by
  cases command with
  | post proposal policy =>
    rcases ledger.post_cases proposal policy with hsame | ⟨lines, hok, -⟩
    · exact hsame
    · exact absurd (hok.symm.trans h) (by simp)
  | reverse request policy =>
    rcases ledger.reverse_cases digest request policy with hsame | ⟨_, hok, -⟩ | ⟨_, hok, -⟩
    · exact hsame
    · exact absurd (hok.symm.trans h) (by simp)
    · exact absurd (hok.symm.trans h) (by simp)

/-- (b) A stored journal stays as it is. -/
theorem execute_keeps_journal (ledger : PostingLedger) (command : Command) {key : String × String}
    {journal : PostedJournal} (h : ledger.journals.get? key = some journal) :
    (ledger.execute digest command).2.journals.get? key = some journal := by
  have hset : ∀ {k j}, ledger.journals.get? k = none →
      (ledger.journals.set k j).get? key = some journal := by
    intro k j hnone
    rw [Dict.get?_set_of_ne _ (by rintro rfl; rw [hnone] at h; cases h)]
    exact h
  cases command with
  | post proposal policy =>
    rcases ledger.post_cases proposal policy with hsame | ⟨lines, -, hposted⟩
    · exact hsame.symm ▸ h
    · change (ledger.post proposal policy).2.journals.get? key = some journal
      rw [hposted.after_eq]
      exact hset hposted.fresh
  | reverse request policy =>
    change (ledger.reverse digest request policy).2.journals.get? key = some journal
    rcases ledger.reverse_cases digest request policy with hsame | ⟨_, -, hre⟩ | ⟨_, -, hrev⟩
    · exact hsame.symm ▸ h
    · rw [hre.after_eq]; exact h
    · rw [hrev.after_eq]; exact hset hrev.fresh

/-! ## Invariant -/

/-- The receipt `post` returned for a stored journal. -/
def postingReceiptOf (journal : PostedJournal) : PostingReceipt :=
  { receiptForPostedJournal journal with
    receiptReference := "urn:cwl:accounting:posting_receipt:" ++ journal.sourceProposalId }

theorem postingReceipt_eq (proposal : JournalProposal) (policy : AccountingPolicy)
    (lines : List PostedJournalLine) :
    postingReceipt proposal policy lines = postingReceiptOf (postedJournal proposal policy lines) :=
  rfl

/-- What a reversal journal is: the opposite of a stored journal that is itself none. -/
structure OppositeOf (reversal original : PostedJournal) : Prop where
  not_reversal : original.reversalOfJournalReference = none
  lines : reversal.lines = original.lines.map PostedJournalLine.opposite
  tenant : reversal.tenantReference = original.tenantReference
  legalEntity : reversal.legalEntityReference = original.legalEntityReference
  book : reversal.accountingBookReference = original.accountingBookReference

/-- How the four tables hang together. -/
structure WellFormed (ledger : PostingLedger) : Prop where
  keyed : ∀ {tenant reference journal},
    ledger.journals.get? (tenant, reference) = some journal →
      journal.tenantReference = tenant ∧ journal.journalReference = reference
  balanced : ∀ {key journal}, ledger.journals.get? key = some journal →
    debitTotal journal.lines = creditTotal journal.lines
  opposite : ∀ {tenant reference journal original},
    ledger.journals.get? (tenant, reference) = some journal →
    journal.reversalOfJournalReference = some original →
      reference = original ++ ":reversal" ∧
        ∃ o, ledger.journals.get? (tenant, original) = some o ∧ OppositeOf journal o
  posting_receipt : ∀ {tenant key hash receipt},
    ledger.receiptsByIdempotency.get? (tenant, key) = some (hash, receipt) →
      ∃ journal, ledger.journals.get? (tenant, receipt.journalReference) = some journal ∧
        journal.reversalOfJournalReference = none ∧ receipt = postingReceiptOf journal
  reversal_receipt : ∀ {tenant original receipt},
    ledger.reversalReceipts.get? (tenant, original) = some receipt →
      ∃ journal, ledger.journals.get? (tenant, original ++ ":reversal") = some journal ∧
        journal.reversalOfJournalReference = some original ∧
        receipt = receiptForPostedJournal journal
  posted_has_receipt : ∀ {tenant reference journal},
    ledger.journals.get? (tenant, reference) = some journal →
    journal.reversalOfJournalReference = none →
      ∃ key hash, ledger.receiptsByIdempotency.get? (tenant, key) =
        some (hash, postingReceiptOf journal)
  reversal_has_receipt : ∀ {tenant reference journal original},
    ledger.journals.get? (tenant, reference) = some journal →
    journal.reversalOfJournalReference = some original →
      ledger.reversalReceipts.get? (tenant, original) = some (receiptForPostedJournal journal)

theorem wellFormed_empty : WellFormed empty where
  keyed h := by simp [empty] at h
  balanced h := by simp [empty] at h
  opposite h := by simp [empty] at h
  posting_receipt h := by simp [empty] at h
  reversal_receipt h := by simp [empty] at h
  posted_has_receipt h := by simp [empty] at h
  reversal_has_receipt h := by simp [empty] at h

/-- Amounts and running totals of the proposal fit in the context. -/
def Fits (proposal : JournalProposal) : Prop :=
  SumsExactly 0 (debitAmounts proposal.lines) ∧ SumsExactly 0 (creditAmounts proposal.lines)

theorem JournalProposal_exact_balance {proposal : JournalProposal} (h : Fits proposal) :
    (debitAmounts proposal.lines).sum = (creditAmounts proposal.lines).sum := by
  have hacc := proposal.accepted
  simp only [JournalProposalFields.postInit, requireBalanced, contextSum_of_sumsExactly h.1,
    contextSum_of_sumsExactly h.2, bind_eq_ok, require_eq_ok] at hacc
  obtain ⟨-, -, _, hd, _, hc, heq⟩ := hacc
  cases hd; cases hc
  simpa using heq

theorem natCast_debitTotal (lines : List PostedJournalLine) :
    (debitTotal lines : ℤ) = (lines.map fun line => (line.debitAmount : ℤ)).sum :=
  natCast_total PostedJournalLine.debitAmount lines

theorem natCast_creditTotal (lines : List PostedJournalLine) :
    (creditTotal lines : ℤ) = (lines.map fun line => (line.creditAmount : ℤ)).sum :=
  natCast_total PostedJournalLine.creditAmount lines

/-- Resolved lines of a proposal that fits are balanced exactly. -/
theorem resolved_balanced {proposal : JournalProposal} {policy : AccountingPolicy}
    {lines : List PostedJournalLine} (hfit : Fits proposal)
    (h : tryMap (resolveLine policy) proposal.lines = .ok lines) :
    debitTotal lines = creditTotal lines := by
  obtain ⟨hd, hc⟩ := resolved_amounts h
  have hbal := JournalProposal_exact_balance hfit
  rw [← hd, ← hc, ← natCast_debitTotal, ← natCast_creditTotal] at hbal
  exact_mod_cast hbal

/-- A tenant's cached lookup misses only when its key is new. -/
theorem WellFormed.key_fresh {ledger : PostingLedger} (hwf : WellFormed ledger)
    {tenant key hash : String}
    (h : ledger.cachedIdempotencyReceipt tenant key hash = .ok none) :
    ledger.receiptsByIdempotency.get? (tenant, key) = none := by
  unfold cachedIdempotencyReceipt at h
  split at h
  · assumption
  · next priorHash priorReceipt hprior =>
    exfalso
    obtain ⟨journal, hj, -, hr⟩ := hwf.posting_receipt hprior
    have ht : priorReceipt.tenantReference = tenant := by
      rw [hr]; exact (hwf.keyed hj).1
    split at h
    · next hne => exact hne ht
    · split at h <;> cases h

theorem wellFormed_posted {ledger : PostingLedger} (hwf : WellFormed ledger)
    {proposal : JournalProposal} {policy : AccountingPolicy} {lines : List PostedJournalLine}
    {after : PostingLedger} (hfit : Fits proposal)
    (h : Posted ledger proposal policy lines after) : WellFormed after := by
  obtain ⟨hresolved, hfresh, huncached, rfl⟩ := h
  have hkey := hwf.key_fresh huncached
  have hold : ∀ {key journal}, ledger.journals.get? key = some journal →
      ¬(proposal.tenantReference, generalJournalReference proposal.proposalId) = key := by
    rintro key journal hj rfl
    rw [hfresh] at hj; cases hj
  have hlift : ∀ {key journal}, ledger.journals.get? key = some journal →
      (ledger.journals.set (proposal.tenantReference, generalJournalReference proposal.proposalId)
        (postedJournal proposal policy lines)).get? key = some journal := by
    intro key journal hj
    rw [Dict.get?_set_of_ne _ (hold hj)]; exact hj
  refine ⟨?_, ?_, ?_, ?_, ?_, ?_, ?_⟩
  · intro tenant reference journal hj
    rw [Dict.get?_set] at hj
    split at hj
    · next heq => cases hj; cases heq; exact ⟨rfl, rfl⟩
    · exact hwf.keyed hj
  · intro key journal hj
    rw [Dict.get?_set] at hj
    split at hj
    · cases hj; exact resolved_balanced hfit hresolved
    · exact hwf.balanced hj
  · intro tenant reference journal original hj hof
    rw [Dict.get?_set] at hj
    split at hj
    · cases hj; cases hof
    · obtain ⟨href, o, ho, hopp⟩ := hwf.opposite hj hof
      exact ⟨href, o, hlift ho, hopp⟩
  · intro tenant key hash receipt hr
    rw [Dict.get?_set] at hr
    split at hr
    · next heq =>
      cases hr; cases heq
      exact ⟨postedJournal proposal policy lines, Dict.get?_set_self _ _ _, rfl, rfl⟩
    · obtain ⟨journal, hj, hrest⟩ := hwf.posting_receipt hr
      exact ⟨journal, hlift hj, hrest⟩
  · intro tenant original receipt hr
    obtain ⟨journal, hj, hrest⟩ := hwf.reversal_receipt hr
    exact ⟨journal, hlift hj, hrest⟩
  · intro tenant reference journal hj hnone
    rw [Dict.get?_set] at hj
    split at hj
    · next heq =>
      cases hj; cases heq
      exact ⟨proposal.idempotencyKey, proposal.sourcePayloadHash, Dict.get?_set_self _ _ _⟩
    · obtain ⟨key, hash, hr⟩ := hwf.posted_has_receipt hj hnone
      refine ⟨key, hash, ?_⟩
      rw [Dict.get?_set_of_ne _ (by intro heq; rw [← heq, hkey] at hr; cases hr)]
      exact hr
  · intro tenant reference journal original hj hof
    rw [Dict.get?_set] at hj
    split at hj
    · cases hj; cases hof
    · exact hwf.reversal_has_receipt hj hof

theorem wellFormed_reversed {ledger : PostingLedger} (hwf : WellFormed ledger)
    {request : ReversalRequest} {policy : AccountingPolicy} {original : PostedJournal}
    {after : PostingLedger} (h : Reversed digest ledger request policy original after) :
    WellFormed after := by
  obtain ⟨hstored, hnot, hfresh, rfl⟩ := h
  obtain ⟨htenant, href⟩ := hwf.keyed hstored
  rw [htenant] at hfresh ⊢
  have hlift : ∀ {key journal}, ledger.journals.get? key = some journal →
      (ledger.journals.set (policy.tenantReference, request.journalReference ++ ":reversal")
        (reversalJournal digest original request policy)).get? key = some journal := by
    intro key journal hj
    rw [Dict.get?_set_of_ne _ (by rintro rfl; rw [hfresh] at hj; cases hj)]
    exact hj
  have hopp : OppositeOf (reversalJournal digest original request policy) original :=
    ⟨hnot, rfl, rfl, rfl, rfl⟩
  refine ⟨?_, ?_, ?_, ?_, ?_, ?_, ?_⟩
  · intro tenant reference journal hj
    simp only [recordReversal, Dict.get?_set] at hj
    split at hj
    · next heq => cases hj; cases heq; exact ⟨htenant, rfl⟩
    · exact hwf.keyed hj
  · intro key journal hj
    simp only [recordReversal, Dict.get?_set] at hj
    split at hj
    · cases hj
      calc debitTotal (original.lines.map PostedJournalLine.opposite)
          = creditTotal original.lines := debitTotal_opposite _
        _ = debitTotal original.lines := (hwf.balanced hstored).symm
        _ = creditTotal (original.lines.map PostedJournalLine.opposite) :=
          (creditTotal_opposite _).symm
    · exact hwf.balanced hj
  · intro tenant reference journal o hj hof
    simp only [recordReversal, Dict.get?_set] at hj
    split at hj
    · next heq =>
      cases hj; cases heq; cases hof
      exact ⟨rfl, original, hlift hstored, hopp⟩
    · obtain ⟨hr, o', ho', hopp'⟩ := hwf.opposite hj hof
      exact ⟨hr, o', hlift ho', hopp'⟩
  · intro tenant key hash receipt hr
    obtain ⟨journal, hj, hrest⟩ := hwf.posting_receipt hr
    exact ⟨journal, hlift hj, hrest⟩
  · intro tenant o receipt hr
    simp only [recordReversal, Dict.get?_set] at hr
    split at hr
    · next heq =>
      cases hr; cases heq
      exact ⟨_, Dict.get?_set_self _ _ _, rfl, rfl⟩
    · obtain ⟨journal, hj, hrest⟩ := hwf.reversal_receipt hr
      exact ⟨journal, hlift hj, hrest⟩
  · intro tenant reference journal hj hnone
    simp only [recordReversal, Dict.get?_set] at hj
    split at hj
    · cases hj; cases hnone
    · exact hwf.posted_has_receipt hj hnone
  · intro tenant reference journal o hj hof
    simp only [recordReversal, Dict.get?_set] at hj ⊢
    split at hj
    · next heq =>
      cases hj; cases heq; cases hof
      exact if_pos rfl
    · next hne =>
      -- another reversal of the same original would sit at the new journal's key
      rw [if_neg]
      · exact hwf.reversal_has_receipt hj hof
      · intro heq
        cases heq
        exact hne (by rw [(hwf.opposite hj hof).1])

theorem wellFormed_rerecorded {ledger : PostingLedger} (hwf : WellFormed ledger)
    {request : ReversalRequest} {policy : AccountingPolicy} {occupant : PostedJournal}
    {after : PostingLedger} (h : Rerecorded digest ledger request policy occupant after) :
    WellFormed after := by
  obtain ⟨⟨original, hstored, hoccupant⟩, hof, rfl⟩ := h
  rw [(hwf.keyed hstored).1] at hoccupant
  refine ⟨hwf.keyed, hwf.balanced, hwf.opposite, hwf.posting_receipt, ?_, hwf.posted_has_receipt, ?_⟩
  · intro tenant o receipt hr
    simp only [recordReversal, Dict.get?_set] at hr
    split at hr
    · next heq =>
      cases hr; cases heq
      exact ⟨occupant, hoccupant, hof, rfl⟩
    · exact hwf.reversal_receipt hr
  · intro tenant reference journal o hj hjof
    simp only [recordReversal, Dict.get?_set]
    split
    · next heq =>
      cases heq
      have := (hwf.opposite hj hjof).1
      subst this
      cases hoccupant.symm.trans hj
      rfl
    · exact hwf.reversal_has_receipt hj hjof

/-- The commands of the run post only proposals whose sums are exact. -/
def Command.Fits : Command → Prop
  | .post proposal _ => PostingLedger.Fits proposal
  | .reverse _ _ => True

theorem wellFormed_execute (ledger : PostingLedger) (command : Command) (hfit : command.Fits)
    (hwf : WellFormed ledger) : WellFormed (ledger.execute digest command).2 := by
  cases command with
  | post proposal policy =>
    change WellFormed (ledger.post proposal policy).2
    rcases ledger.post_cases proposal policy with hsame | ⟨lines, -, hposted⟩
    · rw [hsame]; exact hwf
    · exact wellFormed_posted hwf hfit hposted
  | reverse request policy =>
    change WellFormed (ledger.reverse digest request policy).2
    rcases ledger.reverse_cases digest request policy with hsame | ⟨_, -, hre⟩ | ⟨_, -, hrev⟩
    · rw [hsame]; exact hwf
    · exact wellFormed_rerecorded digest hwf hre
    · exact wellFormed_reversed digest hwf hrev

theorem wellFormed_run (commands : List Command) (hfit : ∀ c ∈ commands, c.Fits) :
    WellFormed (runCommands digest empty commands) :=
  run_invariant (fun ledger c hc => wellFormed_execute digest ledger c hc) hfit wellFormed_empty

/-! ## Trial balance -/

/-- When every entry holds the total of its group, the entries add up to the rows. -/
theorem total_entries {α κ ν M : Type} [DecidableEq κ] [AddCommMonoid M] (d : Dict κ ν)
    (key : α → κ) (f : α → M) (g : κ × ν → M) {rows : List α} (hkeys : ∀ row ∈ rows, key row ∈ d.keys)
    (hg : ∀ item ∈ d.entries, g item = total f (rows.filter fun row => key row = item.1)) :
    total g d.entries = total f rows := by
  calc total g d.entries
      = total (fun item => total f (rows.filter fun row => key row = item.1)) d.entries :=
        total_congr hg
    _ = total (fun k => total f (rows.filter fun row => key row = k)) d.keys :=
        (total_map (fun k => total f (rows.filter fun row => key row = k)) Prod.fst d.entries).symm
    _ = total f rows := total_groups key f d.nodup hkeys

/-- Debit and credit amounts of one account's lines. -/
def accountDebits (lines : List PostedJournalLine) (code : String) : List ℤ :=
  (lines.filter fun line => line.chartAccountCode = code).map fun line => (line.debitAmount : ℤ)

def accountCredits (lines : List PostedJournalLine) (code : String) : List ℤ :=
  (lines.filter fun line => line.chartAccountCode = code).map fun line => (line.creditAmount : ℤ)

theorem accountDebits_of_not {lines : List PostedJournalLine} {code : String}
    (h : ¬∃ line ∈ lines, line.chartAccountCode = code) :
    accountDebits lines code = [] ∧ accountCredits lines code = [] := by
  have hnone : lines.filter (fun line => line.chartAccountCode = code) = [] :=
    List.filter_eq_nil_iff.mpr fun line hline => by simpa using fun heq => h ⟨line, hline, heq⟩
  unfold accountDebits accountCredits
  rw [hnone]
  exact ⟨rfl, rfl⟩

/-- When no account's running totals are rounded, every code has the totals of its lines. -/
theorem accumulate_codes (lines : List PostedJournalLine) (totals : Dict String (ℤ × ℤ))
    (hd : ∀ code, SumsExactly ((totals.get? code).getD (0, 0)).1 (accountDebits lines code))
    (hc : ∀ code, SumsExactly ((totals.get? code).getD (0, 0)).2 (accountCredits lines code)) :
    ∃ after, accumulate lines totals = .ok after ∧ ∀ code, after.get? code =
      if ∃ line ∈ lines, line.chartAccountCode = code then
        some (((totals.get? code).getD (0, 0)).1 + (accountDebits lines code).sum,
          ((totals.get? code).getD (0, 0)).2 + (accountCredits lines code).sum)
      else totals.get? code := by
  induction lines generalizing totals with
  | nil => exact ⟨totals, rfl, fun code => by simp⟩
  | cons line lines ih =>
    have hd0 := hd line.chartAccountCode
    have hc0 := hc line.chartAccountCode
    simp only [accountDebits, accountCredits, List.filter_cons, decide_true, if_true,
      List.map_cons, SumsExactly] at hd0 hc0
    generalize hold : (totals.get? line.chartAccountCode).getD (0, 0) = old at hd0 hc0
    obtain ⟨d, c⟩ := old
    dsimp only at hd0 hc0
    obtain ⟨after, hafter, hcodes⟩ := ih
      (totals.set line.chartAccountCode (d + line.debitAmount, c + line.creditAmount)) (by
        intro code
        rw [Dict.get?_set]
        split
        · next heq => subst heq; exact hd0.2
        · next hne => simpa [accountDebits, List.filter_cons, hne] using hd code) (by
        intro code
        rw [Dict.get?_set]
        split
        · next heq => subst heq; exact hc0.2
        · next hne => simpa [accountCredits, List.filter_cons, hne] using hc code)
    refine ⟨after, ?_, fun code => ?_⟩
    · rw [accumulate, hold]
      dsimp only
      rw [hd0.1, ok_bind, hc0.1, ok_bind, hafter]
    rw [hcodes, Dict.get?_set]
    by_cases hcode : line.chartAccountCode = code
    · subst hcode
      have hfirst : ∃ l ∈ line :: lines, l.chartAccountCode = line.chartAccountCode :=
        ⟨line, List.mem_cons_self, rfl⟩
      rw [if_pos rfl, if_pos hfirst, hold]
      simp only [accountDebits, accountCredits, List.filter_cons, decide_true, if_true,
        List.map_cons, List.sum_cons, Option.getD_some, ← add_assoc]
      split
      · rfl
      · next hnone =>
        obtain ⟨hdebits, hcredits⟩ := accountDebits_of_not hnone
        unfold accountDebits at hdebits
        unfold accountCredits at hcredits
        rw [hdebits, hcredits, List.sum_nil, add_zero, add_zero]
    · have hdebits : accountDebits (line :: lines) code = accountDebits lines code := by
        simp [accountDebits, hcode]
      have hcredits : accountCredits (line :: lines) code = accountCredits lines code := by
        simp [accountCredits, hcode]
      have hiff : (∃ l ∈ line :: lines, l.chartAccountCode = code) ↔
          ∃ l ∈ lines, l.chartAccountCode = code := by
        rw [List.exists_mem_cons_iff, or_iff_right hcode]
      simp only [if_neg hcode, hdebits, hcredits, hiff]

/-- The totals of the accounts add up to the lines. -/
theorem accumulate_exact {lines : List PostedJournalLine}
    (hfit : ∀ code, SumsExactly 0 (accountDebits lines code) ∧
      SumsExactly 0 (accountCredits lines code)) :
    ∃ totals, accumulate lines Dict.empty = .ok totals ∧
      total (fun item => item.2.1) totals.entries = debitTotal lines ∧
      total (fun item => item.2.2) totals.entries = creditTotal lines := by
  obtain ⟨totals, htotals, hcodes⟩ := accumulate_codes lines Dict.empty
    (fun code => (hfit code).1) (fun code => (hfit code).2)
  have hkeys : ∀ line ∈ lines, line.chartAccountCode ∈ totals.keys := fun line hline =>
    (totals.mem_keys_iff _).mpr ⟨_, by rw [hcodes, if_pos ⟨line, hline, rfl⟩]⟩
  have hitems : ∀ item ∈ totals.entries, item.2 =
      ((accountDebits lines item.1).sum, (accountCredits lines item.1).sum) := by
    intro item hitem
    have hget := (totals.get?_eq_some_iff item.1 item.2).mpr hitem
    rw [hcodes] at hget
    split at hget
    · rw [← Option.some.inj hget, Dict.get?_empty, Option.getD_none, zero_add, zero_add]
    · cases hget
  refine ⟨totals, htotals, ?_, ?_⟩
  · rw [total_entries totals PostedJournalLine.chartAccountCode
      (fun line => (line.debitAmount : ℤ)) _ hkeys fun item hitem => by rw [hitems item hitem]; rfl]
    exact (natCast_total _ _).symm
  · rw [total_entries totals PostedJournalLine.chartAccountCode
      (fun line => (line.creditAmount : ℤ)) _ hkeys fun item hitem => by rw [hitems item hitem]; rfl]
    exact (natCast_total _ _).symm

theorem linesThrough_balanced {ledger : PostingLedger} (hwf : WellFormed ledger)
    (tenant legalEntity book : String) (throughDate : Date) :
    debitTotal (ledger.linesThrough tenant legalEntity book throughDate) =
      creditTotal (ledger.linesThrough tenant legalEntity book throughDate) := by
  change total PostedJournalLine.debitAmount _ = total PostedJournalLine.creditAmount _
  rw [linesThrough, total_flatMap, total_flatMap]
  refine total_congr fun journal hj => ?_
  obtain ⟨key, hkey⟩ := (Dict.mem_values_iff _ _).mp (List.mem_of_mem_filter hj)
  exact hwf.balanced hkey

/-- Total debits and credits of the returned balances agree, to the millionth. -/
theorem trialBalance_balanced {ledger : PostingLedger} (hwf : WellFormed ledger)
    (tenant legalEntity book : String) (throughDate : Date)
    (hfit : ∀ code,
      SumsExactly 0 (accountDebits (ledger.linesThrough tenant legalEntity book throughDate) code) ∧
      SumsExactly 0 (accountCredits (ledger.linesThrough tenant legalEntity book throughDate) code)) :
    ∃ balances, ledger.trialBalance tenant legalEntity book throughDate = .ok balances ∧
      total AccountBalance.debitTotal balances = total AccountBalance.creditTotal balances := by
  obtain ⟨totals, htotals, hd, hc⟩ := accumulate_exact hfit
  refine ⟨_, by rw [trialBalance, htotals, ok_bind]; rfl, ?_⟩
  have hperm := List.perm_insertionSort
    (fun a b : String × ℤ × ℤ => a.1 ≤ b.1) totals.entries
  calc total AccountBalance.debitTotal _
      = total (fun item => item.2.1) totals.entries := by
        rw [total_map]; exact total_perm hperm
    _ = debitTotal (ledger.linesThrough tenant legalEntity book throughDate) := by
        rw [hd]
    _ = creditTotal (ledger.linesThrough tenant legalEntity book throughDate) := by
        rw [linesThrough_balanced hwf]
    _ = total (fun item => item.2.2) totals.entries := by rw [hc]
    _ = total AccountBalance.creditTotal _ := by
        rw [total_map]; exact (total_perm hperm).symm

/-! ## Receipts -/

/-- Every receipt the ledger holds. -/
def receipts (ledger : PostingLedger) : Set PostingReceipt :=
  {receipt | (∃ key hash, ledger.receiptsByIdempotency.get? key = some (hash, receipt)) ∨
    ∃ key, ledger.reversalReceipts.get? key = some receipt}

/-- Every journal the ledger holds. -/
def storedJournals (ledger : PostingLedger) : Set PostedJournal :=
  {journal | ∃ key, ledger.journals.get? key = some journal}

/-- The receipt issued for a journal. -/
def issuedReceipt (journal : PostedJournal) : PostingReceipt :=
  match journal.reversalOfJournalReference with
  | none => postingReceiptOf journal
  | some _ => receiptForPostedJournal journal

theorem issuedReceipt_key (journal : PostedJournal) :
    (issuedReceipt journal).tenantReference = journal.tenantReference ∧
      (issuedReceipt journal).journalReference = journal.journalReference := by
  unfold issuedReceipt
  split <;> exact ⟨rfl, rfl⟩

theorem storedJournal_ext {ledger : PostingLedger} (hwf : WellFormed ledger)
    {j j' : PostedJournal} (hj : j ∈ ledger.storedJournals) (hj' : j' ∈ ledger.storedJournals)
    (ht : j.tenantReference = j'.tenantReference) (hr : j.journalReference = j'.journalReference) :
    j = j' := by
  obtain ⟨⟨t, r⟩, hj⟩ := hj
  obtain ⟨⟨t', r'⟩, hj'⟩ := hj'
  obtain ⟨rfl, rfl⟩ := hwf.keyed hj
  obtain ⟨rfl, rfl⟩ := hwf.keyed hj'
  rw [ht, hr] at hj
  exact Option.some.inj (hj.symm.trans hj')

/-- (d) Journals and receipts correspond one to one. -/
theorem issuedReceipt_bijOn {ledger : PostingLedger} (hwf : WellFormed ledger) :
    Set.BijOn issuedReceipt ledger.storedJournals ledger.receipts := by
  refine ⟨?_, ?_, ?_⟩
  · rintro journal ⟨⟨tenant, reference⟩, hj⟩
    unfold issuedReceipt
    split
    · next hnone =>
      obtain ⟨key, hash, hr⟩ := hwf.posted_has_receipt hj hnone
      exact Or.inl ⟨_, hash, hr⟩
    · next original hof => exact Or.inr ⟨_, hwf.reversal_has_receipt hj hof⟩
  · intro j hj j' hj' heq
    have hk := issuedReceipt_key j
    have hk' := issuedReceipt_key j'
    rw [heq] at hk
    exact storedJournal_ext hwf hj hj' (hk.1.symm.trans hk'.1) (hk.2.symm.trans hk'.2)
  · rintro receipt (⟨⟨tenant, key⟩, hash, hr⟩ | ⟨⟨tenant, original⟩, hr⟩)
    · obtain ⟨journal, hj, hnone, rfl⟩ := hwf.posting_receipt hr
      exact ⟨journal, ⟨_, hj⟩, by unfold issuedReceipt; rw [hnone]⟩
    · obtain ⟨journal, hj, hof, rfl⟩ := hwf.reversal_receipt hr
      exact ⟨journal, ⟨_, hj⟩, by unfold issuedReceipt; rw [hof]⟩

/-! ## Integrity -/

/-- (c) for one reversal journal: one stored original, reversed by this journal alone. -/
theorem reversal_unique_original {ledger : PostingLedger} (hwf : WellFormed ledger)
    {journal : PostedJournal} {reference : String} (hj : journal ∈ ledger.storedJournals)
    (hof : journal.reversalOfJournalReference = some reference) :
    (∃! original, original ∈ ledger.storedJournals ∧
      original.tenantReference = journal.tenantReference ∧
      original.journalReference = reference ∧ OppositeOf journal original) ∧
    ∀ other ∈ ledger.storedJournals, other.tenantReference = journal.tenantReference →
      other.reversalOfJournalReference = some reference → other = journal := by
  obtain ⟨⟨tenant, r⟩, hj⟩ := hj
  obtain ⟨hr, o, ho, hopp⟩ := hwf.opposite hj hof
  obtain ⟨ht, hjr⟩ := hwf.keyed hj
  obtain ⟨hot, hor⟩ := hwf.keyed ho
  refine ⟨⟨o, ⟨⟨_, ho⟩, by rw [hot, ht], hor, hopp⟩, ?_⟩, ?_⟩
  · rintro o' ⟨ho', hot', hor', -⟩
    exact storedJournal_ext hwf ho' ⟨_, ho⟩ (by rw [hot', hot, ht]) (by rw [hor', hor])
  · rintro other ⟨⟨tenant', r'⟩, hother⟩ htother hofother
    obtain ⟨ht', hjr'⟩ := hwf.keyed hother
    refine storedJournal_ext hwf ⟨_, hother⟩ ⟨_, hj⟩ htother ?_
    rw [hjr', hjr, (hwf.opposite hother hofother).1, hr]

/-- Integrity of the ledger after any sequence of calls over proposals whose sums fit. -/
theorem postingLedger_integrity (commands : List Command) (hfit : ∀ c ∈ commands, c.Fits) :
    let ledger := runCommands digest empty commands
    (∀ journal ∈ ledger.storedJournals, debitTotal journal.lines = creditTotal journal.lines) ∧
    (∀ later key journal, ledger.journals.get? key = some journal →
      (runCommands digest ledger later).journals.get? key = some journal) ∧
    (∀ journal ∈ ledger.storedJournals, ∀ reference,
      journal.reversalOfJournalReference = some reference →
      (∃! original, original ∈ ledger.storedJournals ∧
        original.tenantReference = journal.tenantReference ∧
        original.journalReference = reference ∧ OppositeOf journal original) ∧
      ∀ other ∈ ledger.storedJournals, other.tenantReference = journal.tenantReference →
        other.reversalOfJournalReference = some reference → other = journal) ∧
    Set.BijOn issuedReceipt ledger.storedJournals ledger.receipts ∧
    (∀ command e, (ledger.execute digest command).1 = .error e →
      (ledger.execute digest command).2 = ledger) ∧
    (∀ tenant legalEntity book throughDate,
      (∀ code,
        SumsExactly 0 (accountDebits (ledger.linesThrough tenant legalEntity book throughDate) code) ∧
        SumsExactly 0
          (accountCredits (ledger.linesThrough tenant legalEntity book throughDate) code)) →
      ∃ balances, ledger.trialBalance tenant legalEntity book throughDate = .ok balances ∧
        total AccountBalance.debitTotal balances = total AccountBalance.creditTotal balances) := by
  intro ledger
  have hwf : WellFormed ledger := wellFormed_run digest commands hfit
  refine ⟨?_, ?_, ?_, issuedReceipt_bijOn hwf, ?_, trialBalance_balanced hwf⟩
  · rintro journal ⟨key, hj⟩
    exact hwf.balanced hj
  · intro later key journal hj
    exact run_monotone (P := fun l => l.journals.get? key = some journal)
      (fun l c hl => execute_keeps_journal digest l c hl) hj
  · intro journal hj reference hof
    exact reversal_unique_original hwf hj hof
  · intro command e he
    exact execute_error digest he

/-! ## A run with a posting, its reversal and a replay -/

def invoiceProposal : JournalProposal where
  proposalId := "0f8fad5b-d9cb-469f-a165-70867728950e"
  proposalContractVersion := 1
  idempotencyKey := "invoice-1"
  tenantReference := "urn:cwl:tenant:t1"
  legalEntityReference := "urn:cwl:legal_entity:e1"
  intendedBookRoleCode := "primary_ledger"
  transactionCurrency := "KRW"
  transactionDate := 10
  accountingDate := 10
  sourcePayloadHash := "sha256:0000000000000000000000000000000000000000000000000000000000000000"
  sourceEventReferences := ["urn:cwl:event:1"]
  lines := invoiceLines 1000000 (by decide)
  accepted := by decide +kernel

def invoicePolicy : AccountingPolicy where
  tenantReference := "urn:cwl:tenant:t1"
  legalEntityReference := "urn:cwl:legal_entity:e1"
  accountingBookReference := "urn:cwl:book:b1"
  intendedBookRoleCode := "primary_ledger"
  transactionCurrency := "KRW"
  functionalCurrency := "KRW"
  openPeriodStart := 1
  openPeriodEnd := 31
  chartAccountMapping :=
    (Dict.empty.set "accounts_receivable" "110100").set "usage_revenue" "410100"
  accountingPolicyVersion := "v1"
  postingRuleVersion := "v1"
  accepted := by decide +kernel

def invoiceReversal : ReversalRequest where
  journalReference := "urn:cwl:accounting:general_journal:0f8fad5b-d9cb-469f-a165-70867728950e"
  reversalDate := 20
  reversalReasonCode := "billing_error"
  reversalIdempotencyKey := none

def invoiceCommands : List Command := [
  .post invoiceProposal invoicePolicy,
  .reverse invoiceReversal invoicePolicy,
  .post invoiceProposal invoicePolicy]

theorem invoiceCommands_integrity :
    (runCommands (fun _ => "sha256:1") empty invoiceCommands).journals.values.length = 2 ∧
    Set.BijOn issuedReceipt (runCommands (fun _ => "sha256:1") empty invoiceCommands).storedJournals
      (runCommands (fun _ => "sha256:1") empty invoiceCommands).receipts :=
  ⟨by decide +kernel, (postingLedger_integrity (fun _ => "sha256:1") invoiceCommands (by
    intro c hc
    simp only [invoiceCommands, List.mem_cons, List.not_mem_nil, or_false] at hc
    rcases hc with rfl | rfl | rfl
    · exact ⟨by decide, by decide⟩
    · trivial
    · exact ⟨by decide, by decide⟩)).2.2.2.1⟩

end PostingLedger

end AccountingPlatform.Core
