/-
  Deterministic matching of a statement entry to posted journals (`reconciliation.py`).

  Evidence carries a positive amount and one of the two directions, as its `__post_init__`
  checks them; a decision carries the checks of its own `__post_init__`. Dates are day
  numbers. `GoverningRule` and `checks` say what the matching is for; the functions above
  them follow the source.
-/
import AccountingPlatform.Core.PostingLedger
import AccountingPlatform.Lib.Decimals
import AccountingPlatform.Lib.Outcome

namespace AccountingPlatform.Bank

open AccountingPlatform.Lib AccountingPlatform.Core

/-! ## Evidence -/

/-- What evidence arithmetic and its checks raise. -/
inductive EvidenceError where
  | valueError (message : String)
  | decimalOverflow
  deriving DecidableEq

inductive CreditDebitCode where
  | crdt
  | dbit
  deriving DecidableEq

/-- Identities strong enough to govern a match. -/
inductive StrongReference where
  | providerReference
  | endToEndReference
  | accountServicerReference
  deriving DecidableEq

structure StatementEntryEvidence where
  statementEntryReference : String
  providerReference : Option String
  endToEndReference : Option String
  accountServicerReference : Option String
  amount : Decimal
  currencyCode : String
  creditDebitCode : CreditDebitCode
  bookingDate : Date
  valueDate : Date
  amount_pos : 0 < amount.value

structure BookJournalEvidence where
  journalReference : String
  providerReference : Option String
  endToEndReference : Option String
  accountServicerReference : Option String
  amount : Decimal
  currencyCode : String
  creditDebitCode : CreditDebitCode
  accountingDate : Date
  amount_pos : 0 < amount.value

structure DeterministicMatchPolicy where
  dateWindowDays : ℕ

def StatementEntryEvidence.reference (statement : StatementEntryEvidence) :
    StrongReference → Option String
  | .providerReference => statement.providerReference
  | .endToEndReference => statement.endToEndReference
  | .accountServicerReference => statement.accountServicerReference

def BookJournalEvidence.reference (candidate : BookJournalEvidence) :
    StrongReference → Option String
  | .providerReference => candidate.providerReference
  | .endToEndReference => candidate.endToEndReference
  | .accountServicerReference => candidate.accountServicerReference

/-! ## Decisions -/

inductive DecisionCode where
  | matched
  | abstain
  deriving DecidableEq

structure DecisionFields where
  statementEntryReference : String
  decisionCode : DecisionCode
  ruleCode : Option String
  matchedJournalReferences : List String
  allocatedAmount : Number
  exceptionCode : Option String
  nextAction : String
  deriving DecidableEq

/-- `_require_positive_exact_decimal` passes. -/
def IsPositiveExact : Number → Prop
  | .finite d => 0 < d.value
  | _ => False

def IsZero : Number → Prop
  | .finite d => d.value = 0
  | _ => False

instance : DecidablePred IsPositiveExact
  | .finite d => inferInstanceAs (Decidable (0 < d.value))
  | .infinite _ => isFalse id
  | .nan => isFalse id

instance : DecidablePred IsZero
  | .finite d => inferInstanceAs (Decidable (d.value = 0))
  | .infinite _ => isFalse id
  | .nan => isFalse id

/-- `ReconciliationDecision.__post_init__`. -/
def DecisionFields.postInit (decision : DecisionFields) : Except EvidenceError Unit :=
  match decision.decisionCode with
  | .matched => do
    require (decision.matchedJournalReferences.length = 1)
      (.valueError ("match decision must reference exactly one journal. " ++
        "Rebuild the deterministic proposal from source evidence."))
    require (IsPositiveExact decision.allocatedAmount)
      (.valueError ("match decision allocated_amount must be a positive exact Decimal. " ++
        "Rebuild the deterministic proposal from source evidence."))
    require (decision.exceptionCode = none)
      (.valueError ("match decision cannot carry an exception_code. " ++
        "Rebuild the deterministic proposal from source evidence."))
  | .abstain => do
    require (decision.matchedJournalReferences = [])
      (.valueError ("abstain decision cannot reference a matched journal. " ++
        "Review unmatched evidence and record an explicit exception."))
    require (IsZero decision.allocatedAmount)
      (.valueError ("abstain decision allocated_amount must be exactly zero Decimal. " ++
        "Review unmatched evidence and record an explicit exception."))
    require (∃ code ∈ decision.exceptionCode, strip code ≠ "")
      (.valueError ("abstain decision requires an exception_code. " ++
        "Review unmatched evidence and record an explicit exception."))

/-- A decision that passed its checks. -/
@[ext] structure ReconciliationDecision extends DecisionFields where
  checked : toDecisionFields.postInit = .ok ()

inductive ExceptionCode where
  | noCandidate
  | ambiguousReference
  | currencyMismatch
  | amountMismatch
  | directionMismatch
  | dateWindowMismatch
  deriving DecidableEq

def ExceptionCode.text : ExceptionCode → String
  | .noCandidate => "no_candidate"
  | .ambiguousReference => "ambiguous_reference"
  | .currencyMismatch => "currency_mismatch"
  | .amountMismatch => "amount_mismatch"
  | .directionMismatch => "direction_mismatch"
  | .dateWindowMismatch => "date_window_mismatch"

/-- Every abstention of the matching passes the code check. -/
theorem ExceptionCode.strip_text_ne (code : ExceptionCode) : strip code.text ≠ "" := by
  cases code <;> decide +kernel

/-- `_STRONG_REFERENCE_RULES`. -/
def strongReferenceRules : List (StrongReference × String) :=
  [(.providerReference, "provider_reference"), (.endToEndReference, "end_to_end_reference"),
    (.accountServicerReference, "account_servicer_reference")]

/-- A reference that is given and not empty. -/
def present (reference : Option String) : Option String := reference.filter (· ≠ "")

def strongReference (statement : StatementEntryEvidence) :
    Option (StrongReference × String × String) :=
  strongReferenceRules.findSome? fun (fieldName, ruleCode) =>
    (present (statement.reference fieldName)).map fun value => (fieldName, ruleCode, value)

def abstain (statement : StatementEntryEvidence) (exceptionCode : ExceptionCode)
    (nextAction : String) : ReconciliationDecision where
  statementEntryReference := statement.statementEntryReference
  decisionCode := .abstain
  ruleCode := none
  matchedJournalReferences := []
  allocatedAmount := .finite .zero
  exceptionCode := some exceptionCode.text
  nextAction := nextAction
  checked := by
    have hcode := exceptionCode.strip_text_ne
    simp [DecisionFields.postInit, require, IsZero, hcode]

def matchDecision (statement : StatementEntryEvidence) (candidate : BookJournalEvidence)
    (ruleCode : String) : ReconciliationDecision where
  statementEntryReference := statement.statementEntryReference
  decisionCode := .matched
  ruleCode := some ruleCode
  matchedJournalReferences := [candidate.journalReference]
  allocatedAmount := .finite statement.amount
  exceptionCode := none
  nextAction := "Review and record this deterministic reconciliation proposal; " ++
    "do not post a journal from it."
  checked := by
    have hpos := statement.amount_pos
    simp [DecisionFields.postInit, require, IsPositiveExact, hpos]

/-! ## Matching -/

variable (statement : StatementEntryEvidence) (policy : DeterministicMatchPolicy)
  (candidate : BookJournalEvidence)

/-- Numerically equal amounts of one currency. -/
def SameMoney : Prop :=
  candidate.currencyCode = statement.currencyCode ∧ candidate.amount.value = statement.amount.value

def SameDirection : Prop := candidate.creditDebitCode = statement.creditDebitCode

def InWindow : Prop :=
  ((candidate.accountingDate : ℤ) - (statement.bookingDate : ℤ)).natAbs ≤ policy.dateWindowDays

instance : DecidablePred (SameMoney statement) := fun _ => inferInstanceAs (Decidable (_ ∧ _))
instance : DecidablePred (SameDirection statement) := fun _ => inferInstanceAs (Decidable (_ = _))
instance : DecidablePred (InWindow statement policy) := fun _ => inferInstanceAs (Decidable (_ ≤ _))

def noCandidateAction : String :=
  "Review unmatched statement evidence and create an authorized exception or " ++
    "adjusting-journal proposal if required."

def competingAction : String :=
  "Review the competing book candidates and record an explicit reconciliation decision."

/-- `_DIRECTION_MISMATCH_ACTION`. -/
def directionMismatchAction : String :=
  "Verify whether the bank movement is a credit or debit before recording a " ++
    "reconciliation decision."

/-- Verdict on the candidates that carry the strong reference. -/
def strongVerdict (ruleCode : String) : List BookJournalEvidence → ReconciliationDecision
  | [] => abstain statement .noCandidate noCandidateAction
  | [candidate] =>
    if candidate.currencyCode ≠ statement.currencyCode then
      abstain statement .currencyMismatch
        "Verify the statement and book currencies before recording a reconciliation decision."
    else if candidate.amount.value ≠ statement.amount.value then
      abstain statement .amountMismatch
        "Verify the exact statement and journal amounts before recording a reconciliation decision."
    else if candidate.creditDebitCode ≠ statement.creditDebitCode then
      abstain statement .directionMismatch directionMismatchAction
    else matchDecision statement candidate ruleCode
  | _ :: _ :: _ => abstain statement .ambiguousReference competingAction

/-- Verdict on the candidates of the exact money. -/
def moneyVerdict (exactMoneyCandidates : List BookJournalEvidence) : ReconciliationDecision :=
  let sameDirectionCandidates := exactMoneyCandidates.filter (SameDirection statement ·)
  match sameDirectionCandidates.filter (InWindow statement policy ·) with
  | [candidate] => matchDecision statement candidate "exact_money_bounded_date"
  | _ :: _ :: _ => abstain statement .ambiguousReference competingAction
  | [] =>
    if sameDirectionCandidates ≠ [] then
      abstain statement .dateWindowMismatch
        ("Review the statement and journal dates or document an explicit " ++
          "reconciliation exception.")
    else if exactMoneyCandidates ≠ [] then
      abstain statement .directionMismatch directionMismatchAction
    else abstain statement .noCandidate noCandidateAction

def proposeDeterministicMatch (candidates : List BookJournalEvidence) : ReconciliationDecision :=
  match strongReference statement with
  | some (fieldName, ruleCode, referenceValue) =>
    strongVerdict statement ruleCode
      (candidates.filter fun candidate => candidate.reference fieldName = some referenceValue)
  | none => moneyVerdict statement policy (candidates.filter (SameMoney statement ·))

/-! ## The governing rule -/

/-- What decides over an entry: its first strong identity, or else money, direction and date. -/
inductive GoverningRule where
  | strong (identity : StrongReference) (value : String)
  | money
  deriving DecidableEq

def governingRule : GoverningRule :=
  match present statement.providerReference, present statement.endToEndReference,
    present statement.accountServicerReference with
  | some value, _, _ => .strong .providerReference value
  | none, some value, _ => .strong .endToEndReference value
  | none, none, some value => .strong .accountServicerReference value
  | none, none, none => .money

/-- Candidates a rule takes into account at all. -/
def GoverningRule.LooksAt : GoverningRule → Prop
  | .strong identity value => candidate.reference identity = some value
  | .money => SameMoney statement candidate

/-- Candidates a rule proposes. -/
def GoverningRule.Selects : GoverningRule → Prop
  | .strong identity value => candidate.reference identity = some value
  | .money => SameMoney statement candidate ∧ SameDirection statement candidate ∧
      InWindow statement policy candidate

instance (rule : GoverningRule) : DecidablePred (rule.LooksAt statement) := fun _ =>
  match rule with
  | .strong _ _ => inferInstanceAs (Decidable (_ = _))
  | .money => inferInstanceAs (Decidable (SameMoney _ _))

instance (rule : GoverningRule) : DecidablePred (rule.Selects statement policy) := fun _ =>
  match rule with
  | .strong _ _ => inferInstanceAs (Decidable (_ = _))
  | .money => inferInstanceAs (Decidable (SameMoney _ _ ∧ SameDirection _ _ ∧ InWindow _ _ _))

/-- Amount, currency and direction agree. -/
def Agrees : Prop := SameMoney statement candidate ∧ SameDirection statement candidate

/-- Checks on the candidates of a strong identity, each with the code of its failure. -/
def strongChecks (found : List BookJournalEvidence) : List (Bool × ExceptionCode) :=
  [(found ≠ [], .noCandidate),
    (found.length ≤ 1, .ambiguousReference),
    (∀ candidate ∈ found, candidate.currencyCode = statement.currencyCode, .currencyMismatch),
    (∀ candidate ∈ found, candidate.amount.value = statement.amount.value, .amountMismatch),
    (∀ candidate ∈ found, SameDirection statement candidate, .directionMismatch)]

/-- Checks on the candidates of the exact money, each with the code of its failure. -/
def moneyChecks (found : List BookJournalEvidence) : List (Bool × ExceptionCode) :=
  [(found ≠ [], .noCandidate),
    (found.filter (SameDirection statement ·) ≠ [], .directionMismatch),
    ((found.filter (SameDirection statement ·)).filter (InWindow statement policy ·) ≠ [],
      .dateWindowMismatch),
    (((found.filter (SameDirection statement ·)).filter (InWindow statement policy ·)).length ≤ 1,
      .ambiguousReference)]

/-- The checks of a rule in their precedence. -/
def GoverningRule.checks (candidates : List BookJournalEvidence) :
    GoverningRule → List (Bool × ExceptionCode)
  | .strong identity value =>
    strongChecks statement
      (candidates.filter fun candidate => candidate.reference identity = some value)
  | .money => moneyChecks statement policy (candidates.filter (SameMoney statement ·))

/-- Code of the first check that fails. -/
def firstFailure (checks : List (Bool × ExceptionCode)) : Option ExceptionCode :=
  (checks.find? fun check => !check.1).map Prod.snd

def GoverningRule.ruleCode : GoverningRule → String
  | .strong .providerReference _ => "provider_reference"
  | .strong .endToEndReference _ => "end_to_end_reference"
  | .strong .accountServicerReference _ => "account_servicer_reference"
  | .money => "exact_money_bounded_date"

variable {statement policy candidate}

/-- The table of strong rules finds the governing rule. -/
theorem strongReference_eq :
    strongReference statement =
      match governingRule statement with
      | .strong identity value => some (identity, (governingRule statement).ruleCode, value)
      | .money => none := by
  unfold strongReference governingRule strongReferenceRules
  simp only [List.findSome?, StatementEntryEvidence.reference]
  cases present statement.providerReference with
  | some value => rfl
  | none =>
    cases present statement.endToEndReference with
    | some value => rfl
    | none =>
      cases present statement.accountServicerReference with
      | some value => rfl
      | none => rfl

/-- A strong identity decides alone, over the candidates that carry it. -/
theorem propose_strong {candidates : List BookJournalEvidence} {identity : StrongReference}
    {value : String} (h : governingRule statement = .strong identity value) :
    proposeDeterministicMatch statement policy candidates =
      strongVerdict statement (governingRule statement).ruleCode
        (candidates.filter fun candidate => candidate.reference identity = some value) := by
  have hstrong := @strongReference_eq statement
  rw [h] at hstrong
  unfold proposeDeterministicMatch
  rw [hstrong, h]

theorem propose_money {candidates : List BookJournalEvidence}
    (h : governingRule statement = .money) :
    proposeDeterministicMatch statement policy candidates =
      moneyVerdict statement policy (candidates.filter (SameMoney statement ·)) := by
  have hstrong := @strongReference_eq statement
  rw [h] at hstrong
  unfold proposeDeterministicMatch
  rw [hstrong]

/-- Lists of one content are the same list, or both have two entries or more. -/
theorem eq_or_long_of_perm {α : Type*} {found others : List α} (h : found.Perm others) :
    found = others ∨ (∃ a b rest, found = a :: b :: rest) ∧ ∃ a b rest, others = a :: b :: rest := by
  rcases found with _ | ⟨a, _ | ⟨b, rest⟩⟩
  · exact .inl (List.nil_perm.mp h).symm
  · exact .inl (List.perm_singleton.mp h.symm).symm
  · rcases others with _ | ⟨c, _ | ⟨d, more⟩⟩
    · exact absurd h.length_eq (by simp)
    · exact absurd h.length_eq (by simp)
    · exact .inr ⟨⟨a, b, rest, rfl⟩, c, d, more, rfl⟩

theorem strongVerdict_perm {ruleCode : String} {found others : List BookJournalEvidence}
    (h : found.Perm others) :
    strongVerdict statement ruleCode found = strongVerdict statement ruleCode others := by
  rcases eq_or_long_of_perm h with heq | ⟨⟨a, b, rest, rfl⟩, c, d, more, rfl⟩
  · rw [heq]
  · rfl

theorem moneyVerdict_perm {found others : List BookJournalEvidence} (h : found.Perm others) :
    moneyVerdict statement policy found = moneyVerdict statement policy others := by
  have hdirection := h.filter (SameDirection statement ·)
  have hwindow := hdirection.filter (InWindow statement policy ·)
  have hnone : (found.filter (SameDirection statement ·) ≠ []) ↔
      (others.filter (SameDirection statement ·) ≠ []) :=
    not_congr ⟨fun e => List.perm_nil.mp (e ▸ hdirection.symm),
      fun e => List.perm_nil.mp (e ▸ hdirection)⟩
  have hempty : (found ≠ []) ↔ (others ≠ []) :=
    not_congr ⟨fun e => List.perm_nil.mp (e ▸ h.symm), fun e => List.perm_nil.mp (e ▸ h)⟩
  unfold moneyVerdict
  dsimp only
  rcases eq_or_long_of_perm hwindow with heq | ⟨⟨a, b, rest, hfound⟩, c, d, more, hothers⟩
  · rw [heq]
    simp only [hnone, hempty]
  · rw [hfound, hothers]

/-- The proposal depends only on the candidates that the rule looks at, in any order. -/
theorem propose_congr_perm {candidates others : List BookJournalEvidence}
    (h : (candidates.filter ((governingRule statement).LooksAt statement ·)).Perm
      (others.filter ((governingRule statement).LooksAt statement ·))) :
    proposeDeterministicMatch statement policy candidates =
      proposeDeterministicMatch statement policy others := by
  cases hrule : governingRule statement with
  | strong identity value =>
    rw [hrule] at h
    rw [propose_strong hrule, propose_strong hrule]
    exact strongVerdict_perm h
  | money =>
    rw [hrule] at h
    rw [propose_money hrule, propose_money hrule]
    exact moneyVerdict_perm h

/-! ## Verdicts -/

/-- What a rule does with the candidates: one agreeing journal, or the first failing check. -/
inductive Verdict (statement : StatementEntryEvidence) (policy : DeterministicMatchPolicy)
    (rule : GoverningRule) (candidates : List BookJournalEvidence) :
    ReconciliationDecision → Prop
  | proposes (journal : BookJournalEvidence)
      (only : candidates.filter (rule.Selects statement policy ·) = [journal])
      (agrees : Agrees statement journal)
      (inWindow : rule = .money → InWindow statement policy journal)
      (passes : firstFailure (rule.checks statement policy candidates) = none) :
      Verdict statement policy rule candidates (matchDecision statement journal rule.ruleCode)
  | abstains (code : ExceptionCode) (nextAction : String)
      (fails : firstFailure (rule.checks statement policy candidates) = some code)
      (unproposed : ∀ journal, candidates.filter (rule.Selects statement policy ·) = [journal] →
        ¬Agrees statement journal) :
      Verdict statement policy rule candidates (abstain statement code nextAction)

theorem verdict_strong (candidates : List BookJournalEvidence) (identity : StrongReference)
    (value : String) :
    Verdict statement policy (.strong identity value) candidates
      (strongVerdict statement (GoverningRule.strong identity value).ruleCode
        (candidates.filter fun candidate => candidate.reference identity = some value)) := by
  have hselects : candidates.filter
      ((GoverningRule.strong identity value).Selects statement policy ·) =
      candidates.filter fun candidate => candidate.reference identity = some value := rfl
  have hchecks : (GoverningRule.strong identity value).checks statement policy candidates =
    strongChecks statement
      (candidates.filter fun candidate => candidate.reference identity = some value) := rfl
  generalize candidates.filter (fun candidate => candidate.reference identity = some value) = found
    at hselects hchecks
  rcases found with _ | ⟨journal, _ | ⟨second, rest⟩⟩
  · refine .abstains _ _ (by rw [hchecks]; rfl) fun journal h => ?_
    rw [hselects] at h
    nomatch h
  · have hjournal {other : BookJournalEvidence} (h : candidates.filter
        ((GoverningRule.strong identity value).Selects statement policy ·) = [other]) :
        journal = other := by
      rw [hselects] at h
      exact List.singleton_inj.mp h
    simp only [strongChecks, List.mem_singleton, forall_eq] at hchecks
    dsimp only [strongVerdict]
    split_ifs with hcurrency hamount hdirection
    · refine .abstains _ _ (by simp [hchecks, firstFailure, hcurrency]) fun other h hagrees => ?_
      exact hcurrency (hjournal h ▸ hagrees.1.1)
    · refine .abstains _ _ (by simp_all [firstFailure]) fun other h hagrees => ?_
      exact hamount (hjournal h ▸ hagrees.1.2)
    · refine .abstains _ _ (by simp_all [firstFailure, SameDirection]) fun other h hagrees => ?_
      exact hdirection (hjournal h ▸ hagrees.2)
    · rw [not_not] at hcurrency hamount hdirection
      refine .proposes journal hselects ⟨⟨hcurrency, hamount⟩, hdirection⟩ nofun ?_
      simp [hchecks, firstFailure, hcurrency, hamount, SameDirection, hdirection]
  · refine .abstains _ _ (by simp [hchecks, strongChecks, firstFailure]) fun journal h => ?_
    rw [hselects] at h
    nomatch h

theorem verdict_money (candidates : List BookJournalEvidence) :
    Verdict statement policy .money candidates
      (moneyVerdict statement policy (candidates.filter (SameMoney statement ·))) := by
  have hselects : candidates.filter (GoverningRule.money.Selects statement policy ·) =
      ((candidates.filter (SameMoney statement ·)).filter
        (SameDirection statement ·)).filter (InWindow statement policy ·) := by
    rw [List.filter_filter, List.filter_filter]
    refine List.filter_congr fun candidate _ => ?_
    rw [← Bool.decide_and, ← Bool.decide_and]
    exact decide_eq_decide.mpr ⟨fun ⟨hmoney, hdirection, hwindow⟩ => ⟨⟨hwindow, hdirection⟩, hmoney⟩,
      fun ⟨⟨hwindow, hdirection⟩, hmoney⟩ => ⟨hmoney, hdirection, hwindow⟩⟩
  have hchecks : GoverningRule.money.checks statement policy candidates =
    moneyChecks statement policy (candidates.filter (SameMoney statement ·)) := rfl
  generalize hfound : candidates.filter (SameMoney statement ·) = found at hselects hchecks
  simp only [moneyChecks] at hchecks
  unfold moneyVerdict
  dsimp only
  generalize hin : (found.filter (SameDirection statement ·)).filter
    (InWindow statement policy ·) = selected at hselects hchecks
  have hfull (hsome : selected ≠ []) :
      found ≠ [] ∧ found.filter (SameDirection statement ·) ≠ [] := by
    have hdirection : found.filter (SameDirection statement ·) ≠ [] := fun e => hsome (by rw [← hin, e]; rfl)
    exact ⟨fun e => hdirection (by rw [e]; rfl), hdirection⟩
  rcases selected with _ | ⟨journal, _ | ⟨second, rest⟩⟩
  · have hunproposed (journal : BookJournalEvidence) (h : candidates.filter
        (GoverningRule.money.Selects statement policy ·) = [journal]) :
        ¬Agrees statement journal := by
      rw [hselects] at h
      nomatch h
    dsimp only
    split_ifs with hdirection hmoney
    · have hmoney : found ≠ [] := fun e => hdirection (by rw [e]; rfl)
      exact .abstains _ _ (by simp_all [firstFailure]) hunproposed
    · exact .abstains _ _ (by simp_all [firstFailure]) hunproposed
    · exact .abstains _ _ (by simp_all [firstFailure]) hunproposed
  · have hmem : journal ∈ candidates.filter (GoverningRule.money.Selects statement policy ·) := by
      rw [hselects]
      exact List.mem_singleton_self journal
    have hselected := of_decide_eq_true (List.mem_filter.mp hmem).2
    obtain ⟨hmoney, hdirection⟩ := hfull (by simp)
    refine .proposes journal hselects ⟨hselected.1, hselected.2.1⟩ (fun _ => hselected.2.2) ?_
    simp [hchecks, firstFailure, hmoney, hdirection]
  · obtain ⟨hmoney, hdirection⟩ := hfull (by simp)
    refine .abstains _ _ ?_ fun journal h => ?_
    · simp [hchecks, firstFailure, hmoney, hdirection]
    · rw [hselects] at h
      nomatch h

/-- A proposal is the verdict of the governing rule. -/
theorem proposal_verdict (statement : StatementEntryEvidence) (policy : DeterministicMatchPolicy)
    (candidates : List BookJournalEvidence) :
    Verdict statement policy (governingRule statement) candidates
      (proposeDeterministicMatch statement policy candidates) := by
  cases hrule : governingRule statement with
  | strong identity value =>
    rw [propose_strong hrule, hrule]
    exact verdict_strong candidates identity value
  | money =>
    rw [propose_money hrule]
    exact verdict_money candidates

/-- A match is the one candidate the governing rule selects, when it agrees; every other case
    abstains with the first failing check; the proposal is a function of the candidates the
    rule looks at, in any order. -/
theorem proposal_sound_complete (statement : StatementEntryEvidence)
    (policy : DeterministicMatchPolicy) (candidates : List BookJournalEvidence) :
    (∀ reference,
      ((proposeDeterministicMatch statement policy candidates).decisionCode = .matched ∧
        (proposeDeterministicMatch statement policy candidates).matchedJournalReferences =
          [reference]) ↔
      ∃ journal, candidates.filter ((governingRule statement).Selects statement policy ·) =
          [journal] ∧
        Agrees statement journal ∧
        (governingRule statement = .money → InWindow statement policy journal) ∧
        journal.journalReference = reference) ∧
    ((proposeDeterministicMatch statement policy candidates).decisionCode = .matched →
      (proposeDeterministicMatch statement policy candidates).allocatedAmount =
          .finite statement.amount ∧
        (proposeDeterministicMatch statement policy candidates).ruleCode =
          some (governingRule statement).ruleCode ∧
        (proposeDeterministicMatch statement policy candidates).exceptionCode = none) ∧
    ((proposeDeterministicMatch statement policy candidates).decisionCode ≠ .matched →
      ∃ code, firstFailure ((governingRule statement).checks statement policy candidates) =
          some code ∧
        (proposeDeterministicMatch statement policy candidates).exceptionCode = some code.text ∧
        (proposeDeterministicMatch statement policy candidates).matchedJournalReferences = []) ∧
    (∀ others, others.Perm candidates →
      proposeDeterministicMatch statement policy others =
        proposeDeterministicMatch statement policy candidates) ∧
    ∀ added, (∀ candidate ∈ added, ¬(governingRule statement).LooksAt statement candidate) →
      proposeDeterministicMatch statement policy (candidates ++ added) =
        proposeDeterministicMatch statement policy candidates := by
  have hverdict := proposal_verdict statement policy candidates
  refine ⟨fun reference => ?_, ?_, ?_, fun others hperm => ?_, fun added hadded => ?_⟩
  · generalize proposeDeterministicMatch statement policy candidates = decision at hverdict
    cases hverdict with
    | proposes journal only agrees inWindow passes =>
      constructor
      · rintro ⟨-, hreference⟩
        exact ⟨journal, only, agrees, inWindow, List.singleton_inj.mp hreference⟩
      · rintro ⟨other, honly, -, -, hreference⟩
        have hsame : journal = other := List.singleton_inj.mp (only.symm.trans honly)
        exact ⟨rfl, by rw [← hreference, ← hsame]; rfl⟩
    | abstains code nextAction fails unproposed =>
      constructor
      · rintro ⟨hcode, -⟩
        nomatch hcode
      · rintro ⟨other, honly, hagrees, -, -⟩
        exact absurd hagrees (unproposed other honly)
  · generalize proposeDeterministicMatch statement policy candidates = decision at hverdict
    cases hverdict with
    | proposes journal only agrees inWindow passes => exact fun _ => ⟨rfl, rfl, rfl⟩
    | abstains code nextAction fails unproposed => exact fun hcode => nomatch hcode
  · generalize proposeDeterministicMatch statement policy candidates = decision at hverdict
    cases hverdict with
    | proposes journal only agrees inWindow passes => exact fun hcode => absurd rfl hcode
    | abstains code nextAction fails unproposed => exact fun _ => ⟨code, fails, rfl, rfl⟩
  · exact propose_congr_perm (hperm.filter _)
  · apply propose_congr_perm
    have hnone : added.filter ((governingRule statement).LooksAt statement ·) = [] :=
      List.filter_eq_nil_iff.mpr fun candidate hmem => by simpa using hadded candidate hmem
    rw [List.filter_append, hnone, List.append_nil]

end AccountingPlatform.Bank
