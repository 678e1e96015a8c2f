/-
  Tenants of the in-memory ledger do not interfere.

  Every key of the four dictionaries starts with the tenant, and a journal is stored under its
  own tenant. So a tenant's view is the restriction of each dictionary to its keys; commands of
  other tenants leave it alone and its own commands read nothing else.
-/
import AccountingPlatform.Core.Integrity
import AccountingPlatform.Lib.Purge

namespace AccountingPlatform.Core

open AccountingPlatform.Lib

namespace PostingLedger

variable (digest : ReversalCommandPayload → String)

/-! ## Views -/

/-- The tenant a command is bound to. -/
def Command.tenantReference : Command → String
  | .post proposal _ => proposal.tenantReference
  | .reverse _ policy => policy.tenantReference

/-- Keys of one tenant. -/
def ofTenant (tenantReference : String) (key : String × String) : Bool := key.1 = tenantReference

/-- What a tenant sees of the ledger. -/
def view (tenantReference : String) (ledger : PostingLedger) : PostingLedger where
  journals := ledger.journals.restrict (ofTenant tenantReference)
  receiptsByIdempotency := ledger.receiptsByIdempotency.restrict (ofTenant tenantReference)
  reversalReceipts := ledger.reversalReceipts.restrict (ofTenant tenantReference)
  reversalCommandEvidence := ledger.reversalCommandEvidence.restrict (ofTenant tenantReference)

/-- A journal is stored under its own tenant. -/
def TenantKeyed (ledger : PostingLedger) : Prop :=
  ∀ {key journal}, ledger.journals.get? key = some journal → journal.tenantReference = key.1

theorem tenantKeyed_empty : TenantKeyed empty := by
  intro key journal h
  cases h

theorem TenantKeyed.set {ledger : PostingLedger} (h : TenantKeyed ledger) {key : String × String}
    {journal : PostedJournal} (hkey : journal.tenantReference = key.1) {key' : String × String}
    {journal' : PostedJournal} (hget : (ledger.journals.set key journal).get? key' = some journal') :
    journal'.tenantReference = key'.1 := by
  rw [Dict.get?_set] at hget
  split at hget
  · next heq =>
    cases hget
    exact heq ▸ hkey
  · exact h hget

theorem tenantKeyed_execute {ledger : PostingLedger} (h : TenantKeyed ledger) (command : Command) :
    TenantKeyed (ledger.execute digest command).2 := by
  cases command with
  | post proposal policy =>
    show TenantKeyed (ledger.post proposal policy).2
    rcases ledger.post_cases proposal policy with hsame | ⟨lines, -, hposted⟩
    · rw [hsame]
      exact h
    · rw [hposted.after_eq]
      intro key journal hget
      exact h.set rfl hget
  | reverse request policy =>
    show TenantKeyed (ledger.reverse digest request policy).2
    rcases ledger.reverse_cases digest request policy with hsame | ⟨_, -, hre⟩ | ⟨original, -, hrev⟩
    · rw [hsame]
      exact h
    · rw [hre.after_eq]
      exact h
    · rw [hrev.after_eq]
      intro key journal hget
      exact h.set rfl hget

/-! ## Own commands -/

variable {digest}

theorem ofTenant_self (tenantReference key : String) :
    ofTenant tenantReference (tenantReference, key) = true := decide_eq_true rfl

theorem ofTenant_of_ne {tenantReference : String} {key : String × String}
    (h : key.1 ≠ tenantReference) : ofTenant tenantReference key = false := decide_eq_false h

@[simp] theorem journals_view (tenantReference reference : String) (ledger : PostingLedger) :
    (view tenantReference ledger).journals.get? (tenantReference, reference) =
      ledger.journals.get? (tenantReference, reference) :=
  Dict.get?_restrict (ofTenant_self tenantReference reference) ledger.journals

theorem cachedIdempotencyReceipt_view (tenantReference key hash : String) (ledger : PostingLedger) :
    (view tenantReference ledger).cachedIdempotencyReceipt tenantReference key hash =
      ledger.cachedIdempotencyReceipt tenantReference key hash := by
  unfold cachedIdempotencyReceipt view
  rw [Dict.get?_restrict (ofTenant_self tenantReference key)]

theorem cachedReversalReceipt_view (tenantReference reference key hash : String)
    (ledger : PostingLedger) :
    (view tenantReference ledger).cachedReversalReceipt tenantReference reference key hash =
      ledger.cachedReversalReceipt tenantReference reference key hash := by
  unfold cachedReversalReceipt view
  rw [Dict.get?_restrict (ofTenant_self tenantReference reference),
    Dict.get?_restrict (ofTenant_self tenantReference reference)]

theorem reversibleOriginal_view (request : ReversalRequest) (policy : AccountingPolicy)
    (ledger : PostingLedger) :
    (view policy.tenantReference ledger).reversibleOriginal request policy =
      ledger.reversibleOriginal request policy := by
  unfold reversibleOriginal
  rw [journals_view]

theorem view_recordReversal (tenantReference reference : String) (receipt : PostingReceipt)
    (evidence : String × String × String) (ledger : PostingLedger) :
    view tenantReference (ledger.recordReversal (tenantReference, reference) receipt evidence) =
      (view tenantReference ledger).recordReversal (tenantReference, reference) receipt evidence := by
  have hkeep := ofTenant_self tenantReference reference
  simp only [view, recordReversal, Dict.restrict_set_of_kept hkeep]

theorem view_setJournal (tenantReference reference : String) (journal : PostedJournal)
    (ledger : PostingLedger) :
    view tenantReference
        { ledger with journals := ledger.journals.set (tenantReference, reference) journal } =
      { view tenantReference ledger with
        journals := (view tenantReference ledger).journals.set (tenantReference, reference) journal } := by
  have hkeep := ofTenant_self tenantReference reference
  simp only [view, Dict.restrict_set_of_kept hkeep]

/-- A posting reads and writes its tenant's view. -/
theorem post_view (ledger : PostingLedger) (proposal : JournalProposal) (policy : AccountingPolicy) :
    (view proposal.tenantReference ledger).post proposal policy =
      ((ledger.post proposal policy).1,
        view proposal.tenantReference (ledger.post proposal policy).2) := by
  unfold post
  rw [cachedIdempotencyReceipt_view]
  split
  · rfl
  · rfl
  split
  · rfl
  next lines hlines =>
  dsimp only
  rw [journals_view]
  split
  · rfl
  · have hkey := ofTenant_self proposal.tenantReference proposal.idempotencyKey
    have hjournal := ofTenant_self proposal.tenantReference
      (generalJournalReference proposal.proposalId)
    simp only [view, Dict.restrict_set_of_kept hkey, Dict.restrict_set_of_kept hjournal]

/-- A reversal reads and writes its tenant's view. -/
theorem reverse_view {ledger : PostingLedger} (h : TenantKeyed ledger) (request : ReversalRequest)
    (policy : AccountingPolicy) :
    (view policy.tenantReference ledger).reverse digest request policy =
      ((ledger.reverse digest request policy).1,
        view policy.tenantReference (ledger.reverse digest request policy).2) := by
  unfold reverse
  dsimp only
  rw [cachedReversalReceipt_view, reversibleOriginal_view]
  split
  · rfl
  split
  · rfl
  · rfl
  split
  · rfl
  next original horiginal =>
  -- the original is stored under the policy's tenant, so its reversal is too
  have htenant : original.tenantReference = policy.tenantReference :=
    h (reversibleOriginal_ok horiginal).1
  rw [htenant, journals_view]
  split
  · split
    · rfl
    · rw [view_recordReversal]
  · split
    · rfl
    · rw [view_recordReversal, view_setJournal]

/-! ## Commands of other tenants -/

theorem post_foreign {ledger : PostingLedger} {proposal : JournalProposal}
    (policy : AccountingPolicy) {tenantReference : String}
    (hne : proposal.tenantReference ≠ tenantReference) :
    view tenantReference (ledger.post proposal policy).2 = view tenantReference ledger := by
  rcases ledger.post_cases proposal policy with hsame | ⟨lines, -, hposted⟩
  · rw [hsame]
  · have hdrop : ∀ key, ofTenant tenantReference (proposal.tenantReference, key) = false :=
      fun key => ofTenant_of_ne hne
    rw [hposted.after_eq]
    simp only [view, Dict.restrict_set_of_dropped (hdrop _)]

theorem view_recordReversal_foreign {tenantReference : String} {key : String × String}
    (hne : key.1 ≠ tenantReference) (receipt : PostingReceipt)
    (evidence : String × String × String) (ledger : PostingLedger) :
    view tenantReference (ledger.recordReversal key receipt evidence) =
      view tenantReference ledger := by
  have hdrop := ofTenant_of_ne hne
  simp only [view, recordReversal, Dict.restrict_set_of_dropped hdrop]

theorem reverse_foreign {ledger : PostingLedger} (h : TenantKeyed ledger) (request : ReversalRequest)
    {policy : AccountingPolicy} {tenantReference : String}
    (hne : policy.tenantReference ≠ tenantReference) :
    view tenantReference (ledger.reverse digest request policy).2 = view tenantReference ledger := by
  rcases ledger.reverse_cases digest request policy with hsame | ⟨_, -, hre⟩ | ⟨original, -, hrev⟩
  · rw [hsame]
  · rw [hre.after_eq, view_recordReversal_foreign hne]
  · have htenant : original.tenantReference = policy.tenantReference := h hrev.stored
    have hdrop : ofTenant tenantReference
        (original.tenantReference, request.journalReference ++ ":reversal") = false :=
      ofTenant_of_ne (htenant ▸ hne)
    rw [hrev.after_eq, view_recordReversal_foreign hne]
    simp only [view, Dict.restrict_set_of_dropped hdrop]

/-- Tenants are isolated. -/
theorem tenants_isolated (digest : ReversalCommandPayload → String) :
    Isolates (execute digest) Command.tenantReference TenantKeyed view where
  kept command h := tenantKeyed_execute digest h command
  foreign {_ _} command h hne := by
    cases command with
    | post proposal policy => exact post_foreign policy hne
    | reverse request policy => exact reverse_foreign h request hne
  own {ledger} command h := by
    cases command with
    | post proposal policy => exact post_view ledger proposal policy
    | reverse request policy => exact reverse_view h request policy

/-! ## Trial balances -/

/-- A tenant's lines are read off its view. -/
theorem linesThrough_view {ledger : PostingLedger} (h : TenantKeyed ledger)
    (tenantReference legalEntityReference accountingBookReference : String) (throughDate : Date) :
    (view tenantReference ledger).linesThrough tenantReference legalEntityReference
        accountingBookReference throughDate =
      ledger.linesThrough tenantReference legalEntityReference accountingBookReference throughDate := by
  unfold linesThrough
  congr 1
  show ((ledger.journals.entries.filter _).map Prod.snd).filter _ =
    (ledger.journals.entries.map Prod.snd).filter _
  rw [List.filter_map, List.filter_map, List.filter_filter]
  congr 1
  apply List.filter_congr
  intro e he
  have hkey : e.2.tenantReference = e.1.1 :=
    h ((ledger.journals.get?_eq_some_iff e.1 e.2).mpr he)
  simp only [ofTenant, Function.comp, hkey]
  by_cases htenant : e.1.1 = tenantReference
  · simp [htenant]
  · simp [htenant]

theorem trialBalance_view {ledger : PostingLedger} (h : TenantKeyed ledger)
    (tenantReference legalEntityReference accountingBookReference : String) (throughDate : Date) :
    (view tenantReference ledger).trialBalance tenantReference legalEntityReference
        accountingBookReference throughDate =
      ledger.trialBalance tenantReference legalEntityReference accountingBookReference throughDate := by
  unfold trialBalance
  rw [linesThrough_view h]

/-- Whatever other tenants run in between, a tenant gets the answers and the trial balances of
    the run of its own commands alone. -/
theorem tenant_runs_alone (digest : ReversalCommandPayload → String) (commands : List Command)
    (tenantReference : String) :
    let own := commands.filter fun command => command.tenantReference = tenantReference
    (answers (execute digest) empty commands).filter
        (fun answer => answer.1.tenantReference = tenantReference) =
      answers (execute digest) empty own ∧
    ∀ legalEntityReference accountingBookReference throughDate,
      (runCommands digest empty commands).trialBalance tenantReference legalEntityReference
          accountingBookReference throughDate =
        (runCommands digest empty own).trialBalance tenantReference legalEntityReference
          accountingBookReference throughDate := by
  intro own
  have hisolated := tenants_isolated digest
  constructor
  · exact hisolated.answers_own tenantReference tenantKeyed_empty commands
  · intro legalEntityReference accountingBookReference throughDate
    have hkeyed : TenantKeyed (runCommands digest empty commands) :=
      run_monotone (P := TenantKeyed) (fun _ command h => hisolated.kept command h) tenantKeyed_empty
    have hview : view tenantReference (runCommands digest empty commands) =
        runCommands digest empty own :=
      hisolated.view_after tenantReference tenantKeyed_empty commands
    rw [← hview, trialBalance_view hkeyed]

end PostingLedger

end AccountingPlatform.Core
