/-
  Replays over whole runs of the HTTP surface.

  A payload that is accepted commits one command of the ledger; one that is refused commits
  nothing. So a run of payloads is a run of the ledger, and every invariant of its runs holds.
  A reversal is the only command whose replay the ledger can refuse.
-/
import AccountingPlatform.Accept.Replays

namespace AccountingPlatform.Accept

open AccountingPlatform.Lib AccountingPlatform.Core AccountingPlatform.Postgres

open PostingLedger (ReversalRequest)

variable (dep : Deployment)

/-! ## Runs of payloads -/

/-- Commit what was accepted. -/
def perform (t : Tables) (command : AcceptCommand) : Tables :=
  match accept dep t command with
  | .ok (_, t') => { t' with clock := t'.clock + 1 }
  | .error _ => t

/-- The tables after a sequence of payloads. -/
def acceptedAfter (commands : List AcceptCommand) : Tables :=
  run (perform dep) Tables.empty commands

variable {dep}

/-- A payload that is accepted is one command of the ledger. -/
theorem accept_attempt {t t₁ : Tables} {command : AcceptCommand} {answer : AcceptAnswer}
    (h : accept dep t command = .ok (answer, t₁)) : ∃ c, attempt dep t c = .ok t₁ := by
  cases command with
  | journalProposal proposal =>
    simp only [accept, acceptJournalProposal, bind_eq_ok, pure_eq_ok, Prod.mk.injEq] at h
    obtain ⟨_, -, posted, hposted, _, -, -, rfl⟩ := h
    exact ⟨.postProposal proposal, by simp only [attempt, hposted, Except.map]⟩
  | adjustingJournal request =>
    simp only [accept, acceptAdjustingJournal, bind_eq_ok, pure_eq_ok, Prod.mk.injEq] at h
    obtain ⟨_, -, _, -, posted, hposted, _, -, -, rfl⟩ := h
    exact ⟨.postAdjustingJournal request, hposted⟩
  | journalReversal payload =>
    simp only [accept, acceptJournalReversal, bind_eq_ok, pure_eq_ok, Prod.mk.injEq] at h
    obtain ⟨_, -, _, -, journalReference, -, policy, -, reversed, hreversed, _, -, -, rfl⟩ := h
    exact ⟨.reverse (payload.request journalReference) policy,
      by simp only [attempt, hreversed, Except.map]⟩
  | periodOpen request =>
    simp only [accept, acceptPeriodOpen, bind_eq_ok, pure_eq_ok, Prod.mk.injEq] at h
    obtain ⟨opened, hopened, -, rfl⟩ := h
    exact ⟨.openFiscalPeriod request, by simp only [attempt, hopened, Except.map]⟩
  | periodClose request =>
    simp only [accept, acceptPeriodClose, bind_eq_ok, pure_eq_ok, Prod.mk.injEq] at h
    obtain ⟨_, -, _, -, _, -, closed, hclosed, -, rfl⟩ := h
    exact ⟨.closeFiscalPeriod request, by simp only [attempt, hclosed, Except.map]⟩

theorem perform_of_ok {t t₁ : Tables} {command : AcceptCommand} {answer : AcceptAnswer}
    (h : accept dep t command = .ok (answer, t₁)) :
    perform dep t command = { t₁ with clock := t₁.clock + 1 } := by
  simp only [perform, h]

theorem perform_execute (t : Tables) (command : AcceptCommand) :
    perform dep t command = t ∨ ∃ c, perform dep t command = execute dep t c := by
  cases h : accept dep t command with
  | error e =>
    left
    simp only [perform, h]
  | ok result =>
    right
    obtain ⟨c, hc⟩ := accept_attempt h
    exact ⟨c, (perform_of_ok h).trans (execute_of_ok dep hc).symm⟩

/-- A run of payloads is a run of the ledger. -/
theorem run_perform (t : Tables) (commands : List AcceptCommand) :
    ∃ cs, run (perform dep) t commands = run (execute dep) t cs := by
  induction commands generalizing t with
  | nil => exact ⟨[], rfl⟩
  | cons command commands ih =>
    obtain ⟨cs, hcs⟩ := ih (perform dep t command)
    rcases perform_execute t command with hsame | ⟨c, hc⟩
    · refine ⟨cs, ?_⟩
      rw [run_cons, hcs, hsame]
    · refine ⟨c :: cs, ?_⟩
      rw [run_cons, hcs, hc, run_cons]

/-! ## Invariants of runs -/

theorem closedRowsKept_run (t : Tables) (commands : List Postgres.Command) :
    ClosedRowsKept t (run (execute dep) t commands) := by
  induction commands generalizing t with
  | nil => exact ClosedRowsKept.refl t
  | cons command commands ih =>
    have hstep : ClosedRowsKept t (execute dep t command) := (stateStep_execute t command).closedRows
    exact hstep.trans (ih (execute dep t command))

theorem evidenceDated_ledgerAfter (commands : List Postgres.Command) :
    EvidenceDated (ledgerAfter dep commands) := by
  have hstep : ∀ t c, EvidenceDated t → EvidenceDated (execute dep t c) :=
    fun t c h => h.step (stateStep_execute t c)
  apply run_monotone hstep
  intro c hc
  cases hc

variable (dep) in
/-- What holds between the tables before a payload, those it leaves and those of a replay. -/
structure AcceptedOnce (t t₁ t₂ : Tables) : Prop where
  wellFormed : WellFormed dep t
  kept : PostingsKept t
  dated : EvidenceDated t
  accepted : Retains t t₁
  later : Later dep t₁ t₂
  closedRows : ClosedRowsKept t₁ t₂

theorem acceptedOnce {before : List AcceptCommand} {command : AcceptCommand}
    {answer : AcceptAnswer} {t₁ : Tables} (later : List AcceptCommand)
    (h : accept dep (acceptedAfter dep before) command = .ok (answer, t₁)) :
    AcceptedOnce dep (acceptedAfter dep before) t₁
      (acceptedAfter dep (before ++ command :: later)) := by
  obtain ⟨cs, hbefore⟩ := @run_perform dep Tables.empty before
  obtain ⟨c, hc⟩ := accept_attempt h
  obtain ⟨ds, hafter⟩ := @run_perform dep (perform dep (acceptedAfter dep before) command) later
  have hstart : acceptedAfter dep before = ledgerAfter dep cs := hbefore
  have hcommit : perform dep (acceptedAfter dep before) command =
      execute dep (ledgerAfter dep cs) c := by
    rw [perform_of_ok h, ← hstart, execute_of_ok dep hc]
  have hend : acceptedAfter dep (before ++ command :: later) =
      run (execute dep) (execute dep (ledgerAfter dep cs) c) ds := by
    rw [acceptedAfter, run_append, run_cons, ← hcommit]
    exact hafter
  have hledger : acceptedAfter dep (before ++ command :: later) = ledgerAfter dep (cs ++ c :: ds) := by
    rw [hend, ledgerAfter_append, run_cons]
  have hwf : WellFormed dep (ledgerAfter dep cs) := wellFormed_ledgerAfter cs
  -- only the clock moves between the commit and the rows it leaves
  have hcommitted : execute dep (ledgerAfter dep cs) c = { t₁ with clock := t₁.clock + 1 } := by
    rw [← hcommit, perform_of_ok h]
  have hticked : Retains t₁ (execute dep (ledgerAfter dep cs) c) := by
    rw [hcommitted]
    exact { Retains.refl t₁ with }
  have hretained : Retains (ledgerAfter dep cs) t₁ := by
    have hexec : Retains (ledgerAfter dep cs) (execute dep (ledgerAfter dep cs) c) :=
      retains_execute hwf c
    rw [hcommitted] at hexec
    exact { hexec with }
  have hrows : ClosedRowsKept t₁ (execute dep (ledgerAfter dep cs) c) := by
    rw [hcommitted]
    exact ClosedRowsKept.refl t₁
  constructor
  · exact hstart ▸ hwf
  · exact hstart ▸ postingsKept_ledgerAfter cs
  · exact hstart ▸ evidenceDated_ledgerAfter cs
  · exact hstart ▸ hretained
  · refine ⟨hledger ▸ wellFormed_ledgerAfter _, hledger ▸ postingsKept_ledgerAfter _, ?_⟩
    rw [hend]
    exact hticked.trans (retains_run (wellFormed_execute hwf c) ds)
  · rw [hend]
    exact hrows.trans (closedRowsKept_run _ ds)

/-- After any later payloads an accepted one is answered as it was and changes nothing, unless
    it is a reversal whose date lies in a period the calendar has hard-closed by then. -/
theorem replays_iff_dateNotHardClosed {before later : List AcceptCommand} {command : AcceptCommand}
    {answer : AcceptAnswer} {t₁ : Tables}
    (h : accept dep (acceptedAfter dep before) command = .ok (answer, t₁))
    (hstands : ¬Superseded dep (acceptedAfter dep (before ++ command :: later)) command) :
    Replays dep (acceptedAfter dep (before ++ command :: later)) command answer ↔
      DateNotHardClosed dep (acceptedAfter dep (before ++ command :: later)) command := by
  have honce := acceptedOnce later h
  cases command with
  | journalProposal proposal => exact iff_of_true (journalProposal_replays h honce.later) trivial
  | adjustingJournal request => exact iff_of_true (adjustingJournal_replays h honce.later) trivial
  | journalReversal payload =>
    exact journalReversal_replays_iff honce.wellFormed honce.kept honce.accepted h honce.later
  | periodOpen request =>
    exact iff_of_true (periodOpen_replays honce.wellFormed h honce.later) trivial
  | periodClose request =>
    exact iff_of_true (periodClose_replays honce.dated honce.accepted.toExtends h honce.later
      honce.closedRows hstands) trivial

/-! ## A reversal resent after a close of its month -/

/-- January with one invoice. -/
def invoicedMonth : List AcceptCommand := [
  .periodOpen ⟨"urn:cwl:legal_entity:e1", "2024-01", some 738886, some 738916, "open-1",
    "sha256:0000000000000000000000000000000000000000000000000000000000000000"⟩,
  .adjustingJournal ⟨"urn:cwl:legal_entity:e1", "urn:cwl:book:b1", "2024-01", 738890, "invoice-1",
    "sha256:0000000000000000000000000000000000000000000000000000000000000000",
    "0f8fad5b-d9cb-469f-a165-70867728950e", "KRW",
    [⟨1, "110100", "accounts_receivable", 1000000, 0⟩, ⟨2, "410100", "usage_revenue", 0, 1000000⟩]⟩]

/-- The invoice is named by its own key. -/
def invoiceReversalPayload : ReversalPayload := ⟨"", "invoice-1", "", "billing_error", 738900⟩

def monthClose (periodStatusCode : String) : AcceptCommand :=
  .periodClose ⟨"urn:cwl:legal_entity:e1", "urn:cwl:book:b1", "2024-01", "KRW", periodStatusCode,
    "close-1"⟩

theorem invoiceReversal_accepted :
    ∃ answer t₁, accept (sampleDeployment sampleCatalog)
      (acceptedAfter (sampleDeployment sampleCatalog) invoicedMonth)
      (.journalReversal invoiceReversalPayload) = .ok (answer, t₁) := by
  have hok : (accept (sampleDeployment sampleCatalog)
      (acceptedAfter (sampleDeployment sampleCatalog) invoicedMonth)
      (.journalReversal invoiceReversalPayload)).isOk = true := by
    decide +kernel
  revert hok
  cases accept (sampleDeployment sampleCatalog)
      (acceptedAfter (sampleDeployment sampleCatalog) invoicedMonth)
      (.journalReversal invoiceReversalPayload) with
  | error e => exact nofun
  | ok result => exact fun _ => ⟨result.1, result.2, rfl⟩

/-- After a soft close the reversal is answered as before. -/
theorem invoiceReversal_replays_after_softClose :
    let dep := sampleDeployment sampleCatalog
    let t := acceptedAfter dep (invoicedMonth ++
      [.journalReversal invoiceReversalPayload, monthClose "soft_closed"])
    ∃ answer, t.journals.length = 2 ∧ Replays dep t (.journalReversal invoiceReversalPayload) answer := by
  intro dep t
  obtain ⟨answer, t₁, haccepted⟩ := invoiceReversal_accepted
  have hfacts : t.journals.length = 2 ∧
      (coveringPeriod dep t invoiceReversalPayload.reversalDate).any
        (fun period => period.periodStatus = .softClosed) = true := by
    decide +kernel
  obtain ⟨hlength, hdate⟩ := hfacts
  obtain ⟨period, hcover, hsoft⟩ := (Option.any_eq_true _ _).mp hdate
  refine ⟨answer, hlength, (replays_iff_dateNotHardClosed haccepted id).mpr ⟨period, hcover, ?_⟩⟩
  rw [of_decide_eq_true hsoft]
  decide

/-- After the hard close it is refused. -/
theorem invoiceReversal_refused_after_hardClose :
    let dep := sampleDeployment sampleCatalog
    ∃ before later command answer t₁,
      accept dep (acceptedAfter dep before) command = .ok (answer, t₁) ∧
      ¬Superseded dep (acceptedAfter dep (before ++ command :: later)) command ∧
      ¬Replays dep (acceptedAfter dep (before ++ command :: later)) command answer := by
  intro dep
  obtain ⟨answer, t₁, haccepted⟩ := invoiceReversal_accepted
  have hrefused : (accept dep (acceptedAfter dep (invoicedMonth ++
      [.journalReversal invoiceReversalPayload, monthClose "hard_closed"]))
      (.journalReversal invoiceReversalPayload)).isOk = false := by
    decide +kernel
  refine ⟨invoicedMonth, [monthClose "hard_closed"], .journalReversal invoiceReversalPayload,
    answer, t₁, haccepted, id, ?_⟩
  rintro ⟨again, hagain, -⟩
  rw [hagain] at hrefused
  cases hrefused

end AccountingPlatform.Accept
