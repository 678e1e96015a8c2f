/-
  Command keys of the in-memory ledger: which command a key was accepted for first, and what a
  later command under the same key is answered.

  A posting key is looked up among posting keys, a reversal key in the evidence of the journal
  that is being reversed. No table holds both, and none holds the keys of two originals.
-/
import AccountingPlatform.Core.PostingLedger

namespace AccountingPlatform.Core

open AccountingPlatform.Lib

namespace PostingLedger

variable (digest : ReversalCommandPayload → String)

/-! ## Keys and acceptance -/

/-- Tenant and key of a command. -/
def Command.key : Command → String × String
  | .post proposal _ => (proposal.tenantReference, proposal.idempotencyKey)
  | .reverse request policy => (policy.tenantReference, request.commandKey)

/-- The same kind of command, the same payload hash, and for a reversal the same original, date
    and reason. -/
def Command.identical : Command → Command → Prop
  | .post proposal _, .post first _ => proposal.sourcePayloadHash = first.sourcePayloadHash
  | .reverse request policy, .reverse first firstPolicy =>
    request.commandHash digest policy = first.commandHash digest firstPolicy ∧
      request.journalReference = first.journalReference ∧
      request.reversalDate = first.reversalDate ∧
      request.reversalReasonCode = first.reversalReasonCode
  | _, _ => False

/-- The command with its receipt, if it carries the key and is accepted. -/
def accepted (key : String × String) (ledger : PostingLedger) (command : Command) :
    Option (Command × PostingReceipt) :=
  if command.key = key then
    (ledger.execute digest command).1.toOption.map fun receipt => (command, receipt)
  else none

/-- The first command that was accepted under the key, with its receipt. -/
def firstAccepted (key : String × String) (ledger : PostingLedger) :
    List Command → Option (Command × PostingReceipt)
  | [] => none
  | command :: commands => (accepted digest key ledger command).or
      (firstAccepted key (ledger.execute digest command).2 commands)

/-- After the commands `before`, a command whose key was accepted earlier is the identical one
    and is answered by the first receipt, or is refused. Nothing changes either way. -/
def NamesItsCommand (before : List Command) (command : Command) : Prop :=
  let ledger := runCommands digest empty before
  ∀ first receipt, firstAccepted digest command.key empty before = some (first, receipt) →
    (command.identical digest first ∧ ledger.execute digest command = (.ok receipt, ledger)) ∨
    ∃ e, ledger.execute digest command = (.error e, ledger) ∧ e.isAccountingValidation

/-! ## When a key is free -/

/-- Nothing but its key stands in the way of a command. -/
def Command.writable (ledger : PostingLedger) : Command → Prop
  | .post proposal policy => Succeeds (resolveProposal proposal policy) ∧
      ledger.journals.get? (proposal.tenantReference,
        generalJournalReference proposal.proposalId) = none
  | .reverse request policy => Succeeds (requireReversalCommand request) ∧
      ∃ original, ledger.reversibleOriginal request policy = .ok original ∧
        ledger.journals.get? (policy.tenantReference, request.journalReference ++ ":reversal") =
          none ∧
        Succeeds (requireReversalDate original request policy)

/-- The key was accepted for a command of the same kind and, for a reversal, of the same
    original, without a digest collision; or something else stands in the way. -/
def Command.sameKeySpace (ledger : PostingLedger) : Command → Command → Prop
  | .post _ _, .post _ _ => True
  | .reverse request policy, .reverse first firstPolicy =>
    if request.journalReference = first.journalReference then
      Succeeds (requireReversalCommand request) →
        request.commandHash digest policy = first.commandHash digest firstPolicy →
          request.reversalDate = first.reversalDate ∧
            request.reversalReasonCode = first.reversalReasonCode
    else ¬(Command.reverse request policy).writable ledger
  | command, _ => ¬command.writable ledger

/-- The command is in the key space of the command its key was first accepted for. -/
def KeyFree (before : List Command) (command : Command) : Prop :=
  ∀ first receipt, firstAccepted digest command.key empty before = some (first, receipt) →
    command.sameKeySpace digest (runCommands digest empty before) first

variable {digest}

theorem accepted_eq_some {key : String × String} {ledger : PostingLedger} {command first : Command}
    {receipt : PostingReceipt} :
    accepted digest key ledger command = some (first, receipt) ↔
      command.key = key ∧ command = first ∧ (ledger.execute digest command).1 = .ok receipt := by
  unfold accepted
  split
  · next hkey =>
    rw [Option.map_eq_some_iff]
    constructor
    · rintro ⟨receipt', hok, h⟩
      cases h
      exact ⟨hkey, rfl, toOption_eq_some.mp hok⟩
    · rintro ⟨-, rfl, hok⟩
      exact ⟨receipt, toOption_eq_some.mpr hok, rfl⟩
  · next hkey =>
    refine iff_of_false (fun h => by cases h) (fun h => hkey h.1)

theorem firstAccepted_concat (key : String × String) (ledger : PostingLedger)
    (commands : List Command) (command : Command) :
    firstAccepted digest key ledger (commands ++ [command]) =
      (firstAccepted digest key ledger commands).or
        (accepted digest key (runCommands digest ledger commands) command) := by
  induction commands generalizing ledger with
  | nil =>
    show (accepted digest key ledger command).or none = none.or _
    rw [Option.or_none, Option.none_or]
    rfl
  | cons c commands ih =>
    rw [List.cons_append, firstAccepted, ih, firstAccepted, Option.or_assoc]
    rfl

theorem firstAccepted_key {key : String × String} {ledger : PostingLedger}
    {commands : List Command} {first : Command} {receipt : PostingReceipt}
    (h : firstAccepted digest key ledger commands = some (first, receipt)) : first.key = key := by
  induction commands generalizing ledger with
  | nil => cases h
  | cons c commands ih =>
    rw [firstAccepted, Option.or_eq_some_iff] at h
    rcases h with h | ⟨-, h⟩
    · obtain ⟨hkey, rfl, -⟩ := accepted_eq_some.mp h
      exact hkey
    · exact ih h

/-! ## The caches and the journals -/

/-- How the caches and the reversal journals hang together. -/
structure CachesKept (ledger : PostingLedger) : Prop where
  keyed : ∀ {tenant reference journal},
    ledger.journals.get? (tenant, reference) = some journal → journal.tenantReference = tenant
  receipt_tenant : ∀ {tenant key hash receipt},
    ledger.receiptsByIdempotency.get? (tenant, key) = some (hash, receipt) →
      receipt.tenantReference = tenant
  reversal_tenant : ∀ {tenant reference receipt},
    ledger.reversalReceipts.get? (tenant, reference) = some receipt →
      receipt.tenantReference = tenant
  receipt_evidence : ∀ {tenant reference receipt},
    ledger.reversalReceipts.get? (tenant, reference) = some receipt →
      ∃ evidence, ledger.reversalCommandEvidence.get? (tenant, reference) = some evidence
  evidence_receipt : ∀ {tenant reference evidence},
    ledger.reversalCommandEvidence.get? (tenant, reference) = some evidence →
      evidence.2.1 = reference ∧
        ∃ receipt, ledger.reversalReceipts.get? (tenant, reference) = some receipt
  evidence_journal : ∀ {tenant reference evidence},
    ledger.reversalCommandEvidence.get? (tenant, reference) = some evidence →
      ∃ journal, ledger.journals.get? (tenant, reference ++ ":reversal") = some journal ∧
        journal.reversalOfJournalReference = some reference ∧
        journal.reversalIdempotencyKey = some evidence.1
  journal_evidence : ∀ {tenant reference journal},
    ledger.journals.get? (tenant, reference ++ ":reversal") = some journal →
      journal.reversalOfJournalReference = some reference →
      ∃ evidence, ledger.reversalCommandEvidence.get? (tenant, reference) = some evidence

theorem cachesKept_empty : CachesKept empty where
  keyed := fun h => nomatch h
  receipt_tenant := fun h => nomatch h
  reversal_tenant := fun h => nomatch h
  receipt_evidence := fun h => nomatch h
  evidence_receipt := fun h => nomatch h
  evidence_journal := fun h => nomatch h
  journal_evidence := fun h => nomatch h

/-! ## Errors of the checks -/

theorem resolveProposal_raises (proposal : JournalProposal) (policy : AccountingPolicy) :
    Raises LedgerError.isAccountingValidation (resolveProposal proposal policy) := by
  unfold resolveProposal validatePolicyScope
  refine raises_bind ?_ fun _ _ => raises_tryMap (fun line => ?_) _
  · refine raises_bind (raises_require trivial) fun _ _ => ?_
    refine raises_bind (raises_require trivial) fun _ _ => ?_
    refine raises_bind (raises_require trivial) fun _ _ => ?_
    refine raises_bind (raises_require trivial) fun _ _ => ?_
    refine raises_bind (raises_require trivial) fun _ _ => ?_
    exact raises_require trivial
  · unfold resolveLine
    exact raises_bind (raises_fetch trivial) fun _ _ => raises_pure _

theorem requireReversalCommand_raises (request : ReversalRequest) :
    Raises LedgerError.isAccountingValidation (requireReversalCommand request) := by
  unfold requireReversalCommand requireCode
  exact raises_bind (raises_require trivial) fun _ _ => raises_require trivial

theorem reversibleOriginal_raises (ledger : PostingLedger) (request : ReversalRequest)
    (policy : AccountingPolicy) :
    Raises LedgerError.isAccountingValidation (ledger.reversibleOriginal request policy) := by
  unfold reversibleOriginal
  refine raises_bind (raises_fetch trivial) fun _ _ => ?_
  refine raises_bind (raises_require trivial) fun _ _ => ?_
  exact raises_bind (raises_require trivial) fun _ _ => raises_pure _

theorem requireReversalDate_raises (original : PostedJournal) (request : ReversalRequest)
    (policy : AccountingPolicy) :
    Raises LedgerError.isAccountingValidation (requireReversalDate original request policy) := by
  unfold requireReversalDate
  exact raises_bind (raises_require trivial) fun _ _ => raises_require trivial

theorem requireSameReversal_raises (occupant : PostedJournal)
    (journalReference commandKey commandHash : String) :
    Raises LedgerError.isAccountingValidation
      (requireSameReversal occupant journalReference commandKey commandHash) := by
  unfold requireSameReversal
  refine raises_bind (raises_require trivial) fun _ _ => ?_
  exact raises_bind (raises_require trivial) fun _ _ => raises_require trivial

/-! ## Answers -/

section
variable {ledger : PostingLedger} (h : CachesKept ledger)

include h

theorem cachedIdempotencyReceipt_of_some {tenant key hash sourcePayloadHash : String}
    {receipt : PostingReceipt}
    (hcached : ledger.receiptsByIdempotency.get? (tenant, key) = some (hash, receipt)) :
    ledger.cachedIdempotencyReceipt tenant key sourcePayloadHash =
      if hash = sourcePayloadHash then .ok (some receipt)
      else .error (.idempotencyConflict "idempotency key was already used with a different payload") := by
  have htenant := h.receipt_tenant hcached
  unfold cachedIdempotencyReceipt
  rw [hcached]
  show (if receipt.tenantReference ≠ tenant then _ else if hash ≠ sourcePayloadHash then _ else _) = _
  rw [if_neg (not_not_intro htenant), ite_not]

/-- A posting whose key is cached is answered from the cache. -/
theorem post_of_cached {proposal : JournalProposal} (policy : AccountingPolicy) {hash : String}
    {receipt : PostingReceipt}
    (hcached : ledger.receiptsByIdempotency.get?
      (proposal.tenantReference, proposal.idempotencyKey) = some (hash, receipt)) :
    (hash = proposal.sourcePayloadHash ∧ ledger.post proposal policy = (.ok receipt, ledger)) ∨
    (hash ≠ proposal.sourcePayloadHash ∧
      ∃ e, ledger.post proposal policy = (.error e, ledger) ∧ e.isAccountingValidation) := by
  unfold post
  rw [cachedIdempotencyReceipt_of_some h hcached]
  by_cases hhash : hash = proposal.sourcePayloadHash
  · rw [if_pos hhash]
    exact Or.inl ⟨hhash, rfl⟩
  · rw [if_neg hhash]
    exact Or.inr ⟨hhash, _, rfl, trivial⟩

omit h in
/-- A posting under a new key is written exactly when nothing else stands in its way. -/
theorem post_of_uncached {proposal : JournalProposal} (policy : AccountingPolicy)
    (hcached : ledger.receiptsByIdempotency.get?
      (proposal.tenantReference, proposal.idempotencyKey) = none) :
    ((Command.post proposal policy).writable ledger ∧ ∃ lines,
      ledger.post proposal policy = (.ok (postingReceipt proposal policy lines), { ledger with
        journals := ledger.journals.set (proposal.tenantReference,
          generalJournalReference proposal.proposalId) (postedJournal proposal policy lines)
        receiptsByIdempotency := ledger.receiptsByIdempotency.set
          (proposal.tenantReference, proposal.idempotencyKey)
          (proposal.sourcePayloadHash, postingReceipt proposal policy lines) })) ∨
    (¬(Command.post proposal policy).writable ledger ∧
      ∃ e, ledger.post proposal policy = (.error e, ledger) ∧ e.isAccountingValidation) := by
  have hnone : ledger.cachedIdempotencyReceipt proposal.tenantReference proposal.idempotencyKey
      proposal.sourcePayloadHash = .ok none := by
    unfold cachedIdempotencyReceipt
    rw [hcached]
  unfold post
  rw [hnone]
  cases hlines : resolveProposal proposal policy with
  | error e =>
    refine Or.inr ⟨fun hwritable => ?_, e, rfl, resolveProposal_raises proposal policy e hlines⟩
    obtain ⟨lines, hok⟩ := hwritable.1
    rw [hlines] at hok
    cases hok
  | ok lines =>
    cases hoccupied : ledger.journals.get? (proposal.tenantReference,
        generalJournalReference proposal.proposalId) with
    | some occupant =>
      simp only [hoccupied]
      refine Or.inr ⟨fun hwritable => ?_, _, rfl, trivial⟩
      rw [hwritable.2] at hoccupied
      cases hoccupied
    | none =>
      simp only [hoccupied]
      exact Or.inl ⟨⟨⟨lines, hlines⟩, hoccupied⟩, lines, rfl⟩

/-- A reversal of a journal that is already reversed is answered from the evidence. -/
theorem reverse_of_cached {request : ReversalRequest} {policy : AccountingPolicy}
    (hcommand : Succeeds (requireReversalCommand request)) {evidence : String × String × String}
    (hevidence : ledger.reversalCommandEvidence.get?
      (policy.tenantReference, request.journalReference) = some evidence) {receipt : PostingReceipt}
    (hreceipt : ledger.reversalReceipts.get?
      (policy.tenantReference, request.journalReference) = some receipt) :
    (evidence.1 = request.commandKey ∧ evidence.2.2 = request.commandHash digest policy ∧
      ledger.reverse digest request policy = (.ok receipt, ledger)) ∨
    ((evidence.1 = request.commandKey → evidence.2.2 ≠ request.commandHash digest policy) ∧
      ∃ e, ledger.reverse digest request policy = (.error e, ledger) ∧
        e.isAccountingValidation) := by
  obtain ⟨key, reference, hash⟩ := evidence
  obtain ⟨href, -⟩ := h.evidence_receipt hevidence
  obtain ⟨journal, hjournal, -, hkey⟩ := h.evidence_journal hevidence
  obtain ⟨⟨⟩, hcommand⟩ := hcommand
  have hcache : ledger.cachedReversalReceipt policy.tenantReference request.journalReference
      request.commandKey (request.commandHash digest policy) =
      if key ≠ request.commandKey then .ok none
      else if hash ≠ request.commandHash digest policy then .error reversalKeyConflict
      else .ok (some receipt) := by
    have htenant := h.reversal_tenant hreceipt
    unfold cachedReversalReceipt
    rw [hreceipt, hevidence]
    simp only [htenant, ne_eq, not_true_eq_false, if_false, show reference = request.journalReference
      from href, or_false]
  unfold reverse
  simp only [hcommand, hcache]
  by_cases hsame : key = request.commandKey
  · by_cases hhash : hash = request.commandHash digest policy
    · rw [if_neg (not_not_intro hsame), if_neg (not_not_intro hhash)]
      exact Or.inl ⟨hsame, hhash, rfl⟩
    · rw [if_neg (not_not_intro hsame), if_pos hhash]
      exact Or.inr ⟨fun _ => hhash, _, rfl, trivial⟩
  · rw [if_pos hsame]
    refine Or.inr ⟨fun hkey' => absurd hkey' hsame, ?_⟩
    cases horiginal : ledger.reversibleOriginal request policy with
    | error e => exact ⟨e, rfl, reversibleOriginal_raises ledger request policy e horiginal⟩
    | ok original =>
      have htenant : original.tenantReference = policy.tenantReference := by
        simp only [reversibleOriginal, bind_eq_ok, fetch_eq_ok, require_eq_ok, pure_eq_ok] at horiginal
        obtain ⟨_, hstored, -, -, -, -, rfl⟩ := horiginal
        exact h.keyed hstored
      have hoccupied : ledger.journals.get? (original.tenantReference,
          request.journalReference ++ ":reversal") = some journal := by
        rw [htenant]
        exact hjournal
      have hnot : ¬Succeeds (requireSameReversal journal request.journalReference
          request.commandKey (request.commandHash digest policy)) := by
        rintro ⟨⟨⟩, hok⟩
        simp only [requireSameReversal, bind_eq_ok, require_eq_ok] at hok
        obtain ⟨-, -, -, hsame', -⟩ := hok
        rw [hkey, Option.some.injEq] at hsame'
        exact hsame hsame'
      obtain ⟨e, he, hvalid⟩ := (requireSameReversal_raises _ _ _ _).error_of_not hnot
      simp only [hoccupied, he]
      exact ⟨e, rfl, hvalid⟩

/-- A reversal of a journal without evidence is written exactly when nothing stands in its
    way. -/
theorem reverse_of_uncached {request : ReversalRequest} {policy : AccountingPolicy}
    (hevidence : ledger.reversalCommandEvidence.get?
      (policy.tenantReference, request.journalReference) = none) :
    ((Command.reverse request policy).writable ledger ∧ ∃ original,
      ledger.journals.get? (policy.tenantReference, request.journalReference) = some original ∧
      ledger.reverse digest request policy =
        (.ok (receiptForPostedJournal (reversalJournal digest original request policy)),
          recordReversal { ledger with
            journals := ledger.journals.set (policy.tenantReference,
              request.journalReference ++ ":reversal") (reversalJournal digest original request policy) }
            (policy.tenantReference, request.journalReference)
            (receiptForPostedJournal (reversalJournal digest original request policy))
            (request.commandKey, request.journalReference, request.commandHash digest policy))) ∨
    (¬(Command.reverse request policy).writable ledger ∧
      ∃ e, ledger.reverse digest request policy = (.error e, ledger) ∧
        e.isAccountingValidation) := by
  have hcache : ledger.cachedReversalReceipt policy.tenantReference request.journalReference
      request.commandKey (request.commandHash digest policy) = .ok none := by
    unfold cachedReversalReceipt
    cases hreceipt : ledger.reversalReceipts.get? (policy.tenantReference,
        request.journalReference) with
    | none => rfl
    | some receipt =>
      obtain ⟨evidence, hsome⟩ := h.receipt_evidence hreceipt
      rw [hevidence] at hsome
      cases hsome
  unfold reverse
  cases hcommand : requireReversalCommand request with
  | error e =>
    refine Or.inr ⟨fun hwritable => ?_, e, rfl, requireReversalCommand_raises request e hcommand⟩
    obtain ⟨⟨⟨⟩, hok⟩, -⟩ := hwritable
    rw [hcommand] at hok
    cases hok
  | ok _ =>
  simp only [hcache]
  cases horiginal : ledger.reversibleOriginal request policy with
  | error e =>
    refine Or.inr ⟨fun hwritable => ?_, e, rfl, reversibleOriginal_raises ledger request policy e
      horiginal⟩
    obtain ⟨-, original, hok, -⟩ := hwritable
    rw [horiginal] at hok
    cases hok
  | ok original =>
  have hstored : ledger.journals.get? (policy.tenantReference, request.journalReference) =
      some original := by
    simp only [reversibleOriginal, bind_eq_ok, fetch_eq_ok, require_eq_ok, pure_eq_ok] at horiginal
    obtain ⟨_, hstored, -, -, -, -, rfl⟩ := horiginal
    exact hstored
  have htenant : original.tenantReference = policy.tenantReference := h.keyed hstored
  simp only [htenant]
  cases hoccupied : ledger.journals.get? (policy.tenantReference,
      request.journalReference ++ ":reversal") with
  | some occupant =>
    have hnot : ¬Succeeds (requireSameReversal occupant request.journalReference
        request.commandKey (request.commandHash digest policy)) := by
      rintro ⟨⟨⟩, hok⟩
      simp only [requireSameReversal, bind_eq_ok, require_eq_ok] at hok
      obtain ⟨-, hof, -⟩ := hok
      obtain ⟨evidence, hsome⟩ := h.journal_evidence hoccupied hof
      rw [hevidence] at hsome
      cases hsome
    obtain ⟨e, he, hvalid⟩ := (requireSameReversal_raises _ _ _ _).error_of_not hnot
    simp only [he]
    refine Or.inr ⟨fun hwritable => ?_, e, rfl, hvalid⟩
    obtain ⟨-, _, -, hfree, -⟩ := hwritable
    rw [hoccupied] at hfree
    cases hfree
  | none =>
    cases hdate : requireReversalDate original request policy with
    | error e =>
      refine Or.inr ⟨fun hwritable => ?_, e, rfl, requireReversalDate_raises original request policy e
        hdate⟩
      obtain ⟨-, original', hok, -, ⟨⟨⟩, hok'⟩⟩ := hwritable
      rw [horiginal, Except.ok.injEq] at hok
      rw [← hok, hdate] at hok'
      cases hok'
    | ok _ =>
      refine Or.inl ⟨⟨⟨(), hcommand⟩, original, horiginal, hoccupied, ⟨(), hdate⟩⟩, original, hstored,
        ?_⟩
      rfl

end

theorem reverse_of_invalid {ledger : PostingLedger} {request : ReversalRequest}
    {policy : AccountingPolicy} (hcommand : ¬Succeeds (requireReversalCommand request)) :
    ∃ e, ledger.reverse digest request policy = (.error e, ledger) ∧ e.isAccountingValidation := by
  obtain ⟨e, he, hvalid⟩ := (requireReversalCommand_raises request).error_of_not hcommand
  refine ⟨e, ?_, hvalid⟩
  unfold reverse
  simp only [he]

/-! ## The caches along a run -/

theorem CachesKept.posted {ledger : PostingLedger} (h : CachesKept ledger)
    {proposal : JournalProposal} {policy : AccountingPolicy} (lines : List PostedJournalLine)
    (hfree : ledger.journals.get? (proposal.tenantReference,
      generalJournalReference proposal.proposalId) = none) :
    CachesKept { ledger with
      journals := ledger.journals.set (proposal.tenantReference,
        generalJournalReference proposal.proposalId) (postedJournal proposal policy lines)
      receiptsByIdempotency := ledger.receiptsByIdempotency.set
        (proposal.tenantReference, proposal.idempotencyKey)
        (proposal.sourcePayloadHash, postingReceipt proposal policy lines) } where
  keyed := by
    intro tenant reference journal hget
    rw [Dict.get?_set] at hget
    split at hget
    · next hkey =>
      cases hget
      exact congrArg Prod.fst hkey
    · exact h.keyed hget
  receipt_tenant := by
    intro tenant key hash receipt hget
    rw [Dict.get?_set] at hget
    split at hget
    · next hkey =>
      cases hget
      exact congrArg Prod.fst hkey
    · exact h.receipt_tenant hget
  reversal_tenant := h.reversal_tenant
  receipt_evidence := h.receipt_evidence
  evidence_receipt := h.evidence_receipt
  evidence_journal := by
    intro tenant reference evidence hget
    obtain ⟨journal, hjournal, hof, hkey⟩ := h.evidence_journal hget
    refine ⟨journal, ?_, hof, hkey⟩
    rw [Dict.get?_set_of_ne _ (fun heq => by rw [heq, hjournal] at hfree; cases hfree)]
    exact hjournal
  journal_evidence := by
    intro tenant reference journal hget hof
    rw [Dict.get?_set] at hget
    split at hget
    · cases hget
      cases hof
    · exact h.journal_evidence hget hof

theorem CachesKept.reversed {ledger : PostingLedger} (h : CachesKept ledger)
    {request : ReversalRequest} {policy : AccountingPolicy} {original : PostedJournal}
    (horiginal : ledger.journals.get? (policy.tenantReference, request.journalReference) =
      some original)
    (hfree : ledger.journals.get? (policy.tenantReference,
      request.journalReference ++ ":reversal") = none) :
    CachesKept (recordReversal { ledger with
      journals := ledger.journals.set (policy.tenantReference,
        request.journalReference ++ ":reversal") (reversalJournal digest original request policy) }
      (policy.tenantReference, request.journalReference)
      (receiptForPostedJournal (reversalJournal digest original request policy))
      (request.commandKey, request.journalReference, request.commandHash digest policy)) where
  keyed := by
    intro tenant reference journal hget
    simp only [recordReversal, Dict.get?_set] at hget
    split at hget
    · next hkey =>
      cases hget
      exact (h.keyed horiginal).trans (congrArg Prod.fst hkey)
    · exact h.keyed hget
  receipt_tenant := h.receipt_tenant
  reversal_tenant := by
    intro tenant reference receipt hget
    simp only [recordReversal, Dict.get?_set] at hget
    split at hget
    · next hkey =>
      cases hget
      exact (h.keyed horiginal).trans (congrArg Prod.fst hkey)
    · exact h.reversal_tenant hget
  receipt_evidence := by
    intro tenant reference receipt hget
    simp only [recordReversal, Dict.get?_set] at hget ⊢
    split at hget
    · next hkey => exact ⟨_, if_pos hkey⟩
    · next hkey =>
      rw [if_neg hkey]
      exact h.receipt_evidence hget
  evidence_receipt := by
    intro tenant reference evidence hget
    simp only [recordReversal, Dict.get?_set] at hget ⊢
    split at hget
    · next hkey =>
      cases hget
      exact ⟨congrArg Prod.snd hkey, _, if_pos hkey⟩
    · next hkey =>
      rw [if_neg hkey]
      exact h.evidence_receipt hget
  evidence_journal := by
    intro tenant reference evidence hget
    simp only [recordReversal, Dict.get?_set] at hget ⊢
    split at hget
    · next hkey =>
      cases hget
      cases hkey
      exact ⟨_, if_pos rfl, rfl, rfl⟩
    · obtain ⟨journal, hjournal, hof⟩ := h.evidence_journal hget
      refine ⟨journal, ?_, hof⟩
      rw [if_neg (fun heq => by rw [heq, hjournal] at hfree; cases hfree)]
      exact hjournal
  journal_evidence := by
    intro tenant reference journal hget hof
    simp only [recordReversal, Dict.get?_set] at hget ⊢
    split at hget
    · next hkey =>
      have hreference : request.journalReference = reference :=
        (String.append_left_inj _).mp (congrArg Prod.snd hkey)
      have htenant : policy.tenantReference = tenant := congrArg Prod.fst hkey
      exact ⟨_, if_pos (Prod.ext htenant hreference)⟩
    · obtain ⟨evidence, hevidence⟩ := h.journal_evidence hget hof
      split
      · exact ⟨_, rfl⟩
      · exact ⟨evidence, hevidence⟩

/-! ## First acceptances and caches -/

variable (digest) in
/-- The ledger and its first acceptances tell the same story. -/
structure KeysKept (before : List Command) (ledger : PostingLedger) : Prop where
  caches : CachesKept ledger
  posted : ∀ {key proposal policy receipt},
    firstAccepted digest key empty before = some (.post proposal policy, receipt) →
      ledger.receiptsByIdempotency.get? key = some (proposal.sourcePayloadHash, receipt)
  reversed : ∀ {key request policy receipt},
    firstAccepted digest key empty before = some (.reverse request policy, receipt) →
      ledger.reversalCommandEvidence.get? (key.1, request.journalReference) =
          some (key.2, request.journalReference, request.commandHash digest policy) ∧
        ledger.reversalReceipts.get? (key.1, request.journalReference) = some receipt
  posting_first : ∀ {key hash receipt},
    ledger.receiptsByIdempotency.get? key = some (hash, receipt) →
      ∃ proposal policy, firstAccepted digest key empty before = some (.post proposal policy, receipt)
  reversal_first : ∀ {tenant reference evidence},
    ledger.reversalCommandEvidence.get? (tenant, reference) = some evidence →
      ∃ request policy receipt, firstAccepted digest (tenant, evidence.1) empty before =
        some (.reverse request policy, receipt) ∧ request.journalReference = reference

theorem keysKept_nil : KeysKept digest [] empty where
  caches := cachesKept_empty
  posted := fun h => nomatch h
  reversed := fun h => nomatch h
  posting_first := fun h => nomatch h
  reversal_first := fun h => nomatch h

section
variable {before : List Command} {command : Command}

/-- A step that accepts nothing new leaves the first acceptances as they are. -/
theorem firstAccepted_step
    (h : ∀ receipt, ((runCommands digest empty before).execute digest command).1 = .ok receipt →
      ∃ first, firstAccepted digest command.key empty before = some first)
    (key : String × String) : firstAccepted digest key empty (before ++ [command]) =
      firstAccepted digest key empty before := by
  rw [firstAccepted_concat]
  cases hnew : accepted digest key (runCommands digest empty before) command with
  | none => rw [Option.or_none]
  | some accepted =>
    obtain ⟨rfl, -, hok⟩ := accepted_eq_some.mp hnew
    obtain ⟨first, hfirst⟩ := h _ hok
    rw [hfirst, Option.some_or]

/-- A step that is accepted under a new key becomes its first acceptance. -/
theorem firstAccepted_new {receipt : PostingReceipt}
    (hok : ((runCommands digest empty before).execute digest command).1 = .ok receipt)
    (hnone : firstAccepted digest command.key empty before = none) (key : String × String) :
    firstAccepted digest key empty (before ++ [command]) =
      if command.key = key then some (command, receipt)
      else firstAccepted digest key empty before := by
  rw [firstAccepted_concat]
  split
  · next hkey =>
    subst hkey
    rw [hnone, Option.none_or]
    exact accepted_eq_some.mpr ⟨rfl, rfl, hok⟩
  · next hkey =>
    cases hnew : accepted digest key (runCommands digest empty before) command with
    | none => rw [Option.or_none]
    | some accepted => exact absurd (accepted_eq_some.mp hnew).1 hkey

theorem KeysKept.unchanged {ledger : PostingLedger} (h : KeysKept digest before ledger)
    (hsame : ∀ key, firstAccepted digest key empty (before ++ [command]) =
      firstAccepted digest key empty before) : KeysKept digest (before ++ [command]) ledger where
  caches := h.caches
  posted := fun hfirst => h.posted ((hsame _).symm.trans hfirst)
  reversed := fun hfirst => h.reversed ((hsame _).symm.trans hfirst)
  posting_first := by
    intro key hash receipt hget
    rw [hsame]
    exact h.posting_first hget
  reversal_first := by
    intro tenant reference evidence hget
    rw [hsame]
    exact h.reversal_first hget

/-- A key that was accepted before is not written again. -/
theorem NamesItsCommand.not_accepted (hnames : NamesItsCommand digest before command)
    {answer : PostingReceipt} {after : PostingLedger}
    (hexec : (runCommands digest empty before).execute digest command = (.ok answer, after))
    (hwrites : after ≠ runCommands digest empty before) :
    firstAccepted digest command.key empty before = none := by
  cases hfirst : firstAccepted digest command.key empty before with
  | none => rfl
  | some first =>
    rcases hnames first.1 first.2 hfirst with ⟨-, hsame⟩ | ⟨e, herror, -⟩
    · rw [hexec] at hsame
      exact absurd (congrArg Prod.snd hsame) hwrites
    · rw [hexec] at herror
      cases congrArg Prod.fst herror

theorem KeysKept.wrote_posting {ledger : PostingLedger} (h : KeysKept digest before ledger)
    {proposal : JournalProposal} {policy : AccountingPolicy} (lines : List PostedJournalLine)
    (hfree : ledger.journals.get? (proposal.tenantReference,
      generalJournalReference proposal.proposalId) = none)
    (hnone : firstAccepted digest (proposal.tenantReference, proposal.idempotencyKey) empty before =
      none)
    (hnew : ∀ key, firstAccepted digest key empty (before ++ [.post proposal policy]) =
      if (proposal.tenantReference, proposal.idempotencyKey) = key then
        some (.post proposal policy, postingReceipt proposal policy lines)
      else firstAccepted digest key empty before) :
    KeysKept digest (before ++ [.post proposal policy]) { ledger with
      journals := ledger.journals.set (proposal.tenantReference,
        generalJournalReference proposal.proposalId) (postedJournal proposal policy lines)
      receiptsByIdempotency := ledger.receiptsByIdempotency.set
        (proposal.tenantReference, proposal.idempotencyKey)
        (proposal.sourcePayloadHash, postingReceipt proposal policy lines) } where
  caches := h.caches.posted lines hfree
  posted := by
    intro key proposal' policy' receipt hfirst
    rw [hnew] at hfirst
    rw [Dict.get?_set]
    split at hfirst
    · next hkey =>
      cases hfirst
      exact if_pos hkey
    · next hkey =>
      rw [if_neg hkey]
      exact h.posted hfirst
  reversed := by
    intro key request policy' receipt hfirst
    rw [hnew] at hfirst
    split at hfirst
    · cases hfirst
    · exact h.reversed hfirst
  posting_first := by
    intro key hash receipt hget
    rw [Dict.get?_set] at hget
    rw [hnew]
    split at hget
    · next hkey =>
      cases hget
      exact ⟨proposal, policy, if_pos hkey⟩
    · next hkey =>
      rw [if_neg hkey]
      exact h.posting_first hget
  reversal_first := by
    intro tenant reference evidence hget
    obtain ⟨request, policy', receipt, hfirst, href⟩ := h.reversal_first hget
    refine ⟨request, policy', receipt, ?_, href⟩
    rw [hnew, if_neg (fun hkey => by rw [← hkey, hnone] at hfirst; cases hfirst)]
    exact hfirst

theorem KeysKept.wrote_reversal {ledger : PostingLedger} (h : KeysKept digest before ledger)
    {request : ReversalRequest} {policy : AccountingPolicy} {original : PostedJournal}
    (horiginal : ledger.journals.get? (policy.tenantReference, request.journalReference) =
      some original)
    (hfree : ledger.journals.get? (policy.tenantReference,
      request.journalReference ++ ":reversal") = none)
    (hevidence : ledger.reversalCommandEvidence.get?
      (policy.tenantReference, request.journalReference) = none)
    (hnone : firstAccepted digest (policy.tenantReference, request.commandKey) empty before = none)
    (hnew : ∀ key, firstAccepted digest key empty (before ++ [.reverse request policy]) =
      if (policy.tenantReference, request.commandKey) = key then
        some (.reverse request policy,
          receiptForPostedJournal (reversalJournal digest original request policy))
      else firstAccepted digest key empty before) :
    KeysKept digest (before ++ [.reverse request policy]) (recordReversal { ledger with
        journals := ledger.journals.set (policy.tenantReference,
          request.journalReference ++ ":reversal") (reversalJournal digest original request policy) }
      (policy.tenantReference, request.journalReference)
      (receiptForPostedJournal (reversalJournal digest original request policy))
      (request.commandKey, request.journalReference, request.commandHash digest policy)) where
  caches := h.caches.reversed horiginal hfree
  posted := by
    intro key proposal policy' receipt hfirst
    rw [hnew] at hfirst
    split at hfirst
    · cases hfirst
    · exact h.posted hfirst
  reversed := by
    intro key request' policy' receipt hfirst
    rw [hnew] at hfirst
    simp only [recordReversal, Dict.get?_set]
    split at hfirst
    · next hkey =>
      cases hfirst
      cases hkey
      exact ⟨if_pos rfl, if_pos rfl⟩
    · obtain ⟨hev, hreceipt⟩ := h.reversed hfirst
      -- another original: this one had no evidence yet
      have hne : (policy.tenantReference, request.journalReference) ≠
          (key.1, request'.journalReference) := by
        intro heq
        rw [← heq, hevidence] at hev
        cases hev
      rw [if_neg hne, if_neg hne]
      exact ⟨hev, hreceipt⟩
  posting_first := by
    intro key hash receipt hget
    obtain ⟨proposal, policy', hfirst⟩ := h.posting_first hget
    refine ⟨proposal, policy', ?_⟩
    rw [hnew, if_neg (fun hkey => by rw [← hkey, hnone] at hfirst; cases hfirst)]
    exact hfirst
  reversal_first := by
    intro tenant reference evidence hget
    simp only [recordReversal, Dict.get?_set] at hget
    rw [hnew]
    split at hget
    · next hkey =>
      cases hget
      cases hkey
      exact ⟨request, policy, _, if_pos rfl, rfl⟩
    · obtain ⟨request', policy', receipt, hfirst, href⟩ := h.reversal_first hget
      refine ⟨request', policy', receipt, ?_, href⟩
      rw [if_neg (fun hkey => by rw [← hkey, hnone] at hfirst; cases hfirst)]
      exact hfirst

/-- A step that answers its key rightly keeps the two in line. -/
theorem KeysKept.step (h : KeysKept digest before (runCommands digest empty before))
    (hnames : NamesItsCommand digest before command) :
    KeysKept digest (before ++ [command]) (runCommands digest empty (before ++ [command])) := by
  have hrun : runCommands digest empty (before ++ [command]) =
      ((runCommands digest empty before).execute digest command).2 := run_concat _ _ _ _
  rw [hrun]
  have herror : (∃ e, (runCommands digest empty before).execute digest command =
      (.error e, runCommands digest empty before) ∧ e.isAccountingValidation) →
      KeysKept digest (before ++ [command])
        ((runCommands digest empty before).execute digest command).2 := by
    rintro ⟨e, hexec, -⟩
    rw [hexec]
    refine h.unchanged (firstAccepted_step fun receipt hok => ?_)
    rw [hexec] at hok
    cases hok
  cases command with
  | post proposal policy =>
    cases hget : (runCommands digest empty before).receiptsByIdempotency.get?
        (proposal.tenantReference, proposal.idempotencyKey) with
    | some cached =>
      rcases post_of_cached h.caches policy hget with ⟨-, hexec⟩ | ⟨-, hexec⟩
      · rw [show (runCommands digest empty before).execute digest (.post proposal policy) = _ from
          hexec]
        obtain ⟨first, firstPolicy, hfirst⟩ := h.posting_first hget
        exact h.unchanged (firstAccepted_step fun _ _ => ⟨_, hfirst⟩)
      · exact herror hexec
    | none =>
      rcases post_of_uncached policy hget with ⟨hwritable, lines, hexec⟩ | ⟨-, hexec⟩
      · replace hexec : (runCommands digest empty before).execute digest (.post proposal policy) =
          _ := hexec
        have hnone := hnames.not_accepted hexec (fun heq => by
          have hsame := congrArg (fun l => l.receiptsByIdempotency.get?
            (proposal.tenantReference, proposal.idempotencyKey)) heq
          rw [hget, Dict.get?_set_self] at hsame
          cases hsame)
        rw [hexec]
        exact h.wrote_posting lines hwritable.2 hnone
          (firstAccepted_new (congrArg Prod.fst hexec) hnone)
      · exact herror hexec
  | reverse request policy =>
    by_cases hcommand : Succeeds (requireReversalCommand request)
    · cases hget : (runCommands digest empty before).reversalCommandEvidence.get?
          (policy.tenantReference, request.journalReference) with
      | some evidence =>
        obtain ⟨-, receipt, hreceipt⟩ := h.caches.evidence_receipt hget
        rcases reverse_of_cached h.caches hcommand hget hreceipt with ⟨hkey, -, hexec⟩ | ⟨-, hexec⟩
        · rw [show (runCommands digest empty before).execute digest (.reverse request policy) = _
            from hexec]
          obtain ⟨first, firstPolicy, _, hfirst, -⟩ := h.reversal_first hget
          rw [hkey] at hfirst
          exact h.unchanged (firstAccepted_step fun _ _ => ⟨_, hfirst⟩)
        · exact herror hexec
      | none =>
        rcases reverse_of_uncached h.caches hget with ⟨hwritable, original, horiginal, hexec⟩ |
          ⟨-, hexec⟩
        · obtain ⟨-, _, -, hfree, -⟩ := hwritable
          replace hexec : (runCommands digest empty before).execute digest
            (.reverse request policy) = _ := hexec
          have hnone := hnames.not_accepted hexec (fun heq => by
            have hsame := congrArg (fun l => l.reversalCommandEvidence.get?
              (policy.tenantReference, request.journalReference)) heq
            rw [hget] at hsame
            simp only [recordReversal, Dict.get?_set_self] at hsame
            cases hsame)
          rw [hexec]
          exact h.wrote_reversal horiginal hfree hget hnone
            (firstAccepted_new (congrArg Prod.fst hexec) hnone)
        · exact herror hexec
    · exact herror (reverse_of_invalid hcommand)

theorem keysKept_run (before : List Command) (h : EveryStep (NamesItsCommand digest) before) :
    KeysKept digest before (runCommands digest empty before) := by
  induction before using List.reverseRecOn with
  | nil => exact keysKept_nil
  | append_singleton before command ih =>
    rw [everyStep_concat_iff] at h
    exact (ih h.1).step h.2

/-! ## A key that names its command -/

/-- Under a key of another key space, a posting is refused exactly when it cannot be written. -/
theorem KeysKept.post_refused_iff
    (h : KeysKept digest before (runCommands digest empty before)) {proposal : JournalProposal}
    {policy : AccountingPolicy}
    (hother : ∀ first firstPolicy receipt, firstAccepted digest
      (proposal.tenantReference, proposal.idempotencyKey) empty before ≠
        some (.post first firstPolicy, receipt)) :
    (∃ e, (runCommands digest empty before).execute digest (.post proposal policy) =
      (.error e, runCommands digest empty before) ∧ e.isAccountingValidation) ↔
    ¬(Command.post proposal policy).writable (runCommands digest empty before) := by
  cases hget : (runCommands digest empty before).receiptsByIdempotency.get?
      (proposal.tenantReference, proposal.idempotencyKey) with
  | some cached =>
    obtain ⟨first, firstPolicy, hfirst⟩ := h.posting_first hget
    exact absurd hfirst (hother _ _ _)
  | none =>
    rcases post_of_uncached policy hget with ⟨hwritable, lines, hexec⟩ | ⟨hnot, hexec⟩
    · refine iff_of_false ?_ (not_not_intro hwritable)
      rintro ⟨e, herror, -⟩
      cases (congrArg Prod.fst herror).symm.trans (congrArg Prod.fst hexec)
    · exact iff_of_true hexec hnot

theorem KeysKept.reverse_refused_iff
    (h : KeysKept digest before (runCommands digest empty before)) {request : ReversalRequest}
    {policy : AccountingPolicy}
    (hother : ∀ first firstPolicy receipt, firstAccepted digest
      (policy.tenantReference, request.commandKey) empty before =
        some (.reverse first firstPolicy, receipt) →
      first.journalReference ≠ request.journalReference) :
    (∃ e, (runCommands digest empty before).execute digest (.reverse request policy) =
      (.error e, runCommands digest empty before) ∧ e.isAccountingValidation) ↔
    ¬(Command.reverse request policy).writable (runCommands digest empty before) := by
  by_cases hcommand : Succeeds (requireReversalCommand request)
  · cases hget : (runCommands digest empty before).reversalCommandEvidence.get?
        (policy.tenantReference, request.journalReference) with
    | some evidence =>
      obtain ⟨-, receipt, hreceipt⟩ := h.caches.evidence_receipt hget
      obtain ⟨journal, hjournal, -⟩ := h.caches.evidence_journal hget
      have hnot : ¬(Command.reverse request policy).writable (runCommands digest empty before) := by
        rintro ⟨-, _, -, hfree, -⟩
        rw [hjournal] at hfree
        cases hfree
      rcases reverse_of_cached h.caches hcommand hget hreceipt with ⟨hkey, -, -⟩ | ⟨-, hexec⟩
      · obtain ⟨first, firstPolicy, _, hfirst, href⟩ := h.reversal_first hget
        rw [hkey] at hfirst
        exact absurd href (hother _ _ _ hfirst)
      · exact iff_of_true hexec hnot
    | none =>
      rcases reverse_of_uncached h.caches hget with ⟨hwritable, _, -, hexec⟩ | ⟨hnot, hexec⟩
      · refine iff_of_false ?_ (not_not_intro hwritable)
        rintro ⟨e, herror, -⟩
        cases (congrArg Prod.fst herror).symm.trans (congrArg Prod.fst hexec)
      · exact iff_of_true hexec hnot
  · exact iff_of_true (reverse_of_invalid hcommand) (fun hwritable => hcommand hwritable.1)

/-- A second reversal of the same original under the same key is answered by the first receipt,
    or refused, unless its payload only collides with the first. -/
theorem KeysKept.reverse_same_iff
    (h : KeysKept digest before (runCommands digest empty before))
    {request first : ReversalRequest} {policy firstPolicy : AccountingPolicy}
    {receipt : PostingReceipt}
    (hfirst : firstAccepted digest (policy.tenantReference, request.commandKey) empty before =
      some (.reverse first firstPolicy, receipt))
    (href : request.journalReference = first.journalReference) :
    ((Command.reverse request policy).identical digest (.reverse first firstPolicy) ∧
        (runCommands digest empty before).execute digest (.reverse request policy) =
          (.ok receipt, runCommands digest empty before)) ∨
      (∃ e, (runCommands digest empty before).execute digest (.reverse request policy) =
        (.error e, runCommands digest empty before) ∧ e.isAccountingValidation) ↔
    (Succeeds (requireReversalCommand request) →
      request.commandHash digest policy = first.commandHash digest firstPolicy →
        request.reversalDate = first.reversalDate ∧
          request.reversalReasonCode = first.reversalReasonCode) := by
  obtain ⟨hevidence, hreceipt⟩ := h.reversed hfirst
  rw [← href] at hevidence hreceipt
  by_cases hcommand : Succeeds (requireReversalCommand request)
  · rcases reverse_of_cached h.caches hcommand hevidence hreceipt with ⟨-, hhash, hexec⟩ |
      ⟨hhash, hexec⟩
    · constructor
      · rintro (⟨⟨-, -, hdate, hreason⟩, -⟩ | ⟨e, herror, -⟩) - -
        · exact ⟨hdate, hreason⟩
        · cases (congrArg Prod.fst herror).symm.trans (congrArg Prod.fst hexec)
      · intro hsame
        obtain ⟨hdate, hreason⟩ := hsame hcommand hhash.symm
        exact Or.inl ⟨⟨hhash.symm, href, hdate, hreason⟩, hexec⟩
    · exact iff_of_true (Or.inr hexec) (fun _ heq => absurd heq.symm (hhash rfl))
  · exact iff_of_true (Or.inr (reverse_of_invalid hcommand)) (fun hok => absurd hok hcommand)

theorem namesItsCommand_iff (h : KeysKept digest before (runCommands digest empty before))
    (command : Command) :
    NamesItsCommand digest before command ↔ KeyFree digest before command := by
  refine forall_congr' fun first => forall_congr' fun receipt => imp_congr_right fun hfirst => ?_
  cases command with
  | post proposal policy =>
    cases first with
    | post first firstPolicy =>
      refine iff_of_true ?_ trivial
      rcases post_of_cached h.caches policy (h.posted hfirst) with ⟨hhash, hexec⟩ |
        ⟨-, hexec⟩
      · exact Or.inl ⟨hhash.symm, hexec⟩
      · exact Or.inr hexec
    | reverse first firstPolicy =>
      refine Iff.trans (or_iff_right fun hidentical => hidentical.1) (h.post_refused_iff ?_)
      intro first' firstPolicy' receipt' hfirst'
      cases hfirst.symm.trans hfirst'
  | reverse request policy =>
    cases first with
    | post first firstPolicy =>
      refine Iff.trans (or_iff_right fun hidentical => hidentical.1) (h.reverse_refused_iff ?_)
      intro first' firstPolicy' receipt' hfirst'
      cases hfirst.symm.trans hfirst'
    | reverse first firstPolicy =>
      show _ ↔ if request.journalReference = first.journalReference then _ else _
      by_cases href : request.journalReference = first.journalReference
      · rw [if_pos href]
        exact h.reverse_same_iff hfirst href
      · rw [if_neg href]
        refine Iff.trans (or_iff_right fun hidentical => href hidentical.1.2.1)
          (h.reverse_refused_iff ?_)
        intro first' firstPolicy' receipt' hfirst'
        cases hfirst.symm.trans hfirst'
        exact fun heq => href heq.symm

/-- Every key of a run names one command exactly when every step finds its key free. -/
theorem namesItsCommand_run_iff (commands : List Command) :
    EveryStep (NamesItsCommand digest) commands ↔ EveryStep (KeyFree digest) commands :=
  everyStep_iff (fun before command h => namesItsCommand_iff (keysKept_run before h) command)
    commands

end

end PostingLedger

end AccountingPlatform.Core
