/-
  Split and aggregate allocations (`allocation.py`).

  Both functions walk a list, check each entry, add its amount to a running total in the
  default context and draft one allocation; the walk is `planAllocations`. An allocation
  carries the checks of its `__post_init__`.
-/
import AccountingPlatform.Bank.Bridge

namespace AccountingPlatform.Bank

open AccountingPlatform.Lib AccountingPlatform.Core

/-! ## Allocations -/

/-- `_require_exact_positive`. -/
def requireExactPositive (value : Number) (fieldName : String) : Except EvidenceError Decimal :=
  match value with
  | .finite d =>
    if 0 < d.value then pure d
    else .error (.valueError (fieldName ++ " must be a positive exact Decimal. Supply a finite " ++
      "Decimal greater than zero before reconciliation."))
  | _ => .error (.valueError (fieldName ++ " must be a positive exact Decimal. Supply a finite " ++
      "Decimal greater than zero before reconciliation."))

/-- `_require_identity`. -/
def requireIdentity (value fieldName : String) : Except EvidenceError Unit :=
  require (strip value ≠ "") (.valueError (fieldName ++ " must be a non-empty identity"))

structure AllocationFields where
  tenantAccountReference : String
  reconciliationRunReference : String
  statementEntryReference : String
  journalReference : String
  allocatedAmount : Decimal
  currencyCode : String
  deriving DecidableEq

/-- `ReconciliationAllocation.__post_init__`. -/
def AllocationFields.postInit (allocation : AllocationFields) : Except EvidenceError Unit := do
  requireIdentity allocation.tenantAccountReference "tenant_account_reference"
  requireIdentity allocation.reconciliationRunReference "reconciliation_run_reference"
  requireIdentity allocation.statementEntryReference "statement_entry_reference"
  requireIdentity allocation.journalReference "journal_reference"
  requireIdentity allocation.currencyCode "currency_code"
  let _ ← requireExactPositive (.finite allocation.allocatedAmount) "allocated_amount"
  pure ()

/-- An allocation that passed its checks. -/
structure ReconciliationAllocation extends AllocationFields where
  checked : toAllocationFields.postInit = .ok ()

def AllocationFields.create (allocation : AllocationFields) :
    Except EvidenceError ReconciliationAllocation :=
  match h : allocation.postInit with
  | .ok () => .ok ⟨allocation, h⟩
  | .error e => .error e

/-! ## Planning -/

/-- The walk over the entries: what each admits, the running total and one draft for each. -/
def planAllocations {α : Type} (read : α → Except EvidenceError Decimal)
    (draft : α → Decimal → AllocationFields) :
    Decimal → List α → Except EvidenceError (Decimal × List ReconciliationAllocation)
  | plannedTotal, [] => pure (plannedTotal, [])
  | plannedTotal, entry :: rest => do
    let amount ← read entry
    let nextTotal ← plus plannedTotal amount
    let allocation ← (draft entry amount).create
    let planned ← planAllocations read draft nextTotal rest
    pure (planned.1, allocation :: planned.2)

def admitJournal (currencyCode : String) (journal : BookJournalEvidence) :
    Except EvidenceError Decimal := do
  let amount ← requireExactPositive (.finite journal.amount)
    ("candidate " ++ journal.journalReference ++ " amount")
  require (journal.currencyCode = currencyCode)
    (.valueError ("split candidates must share one currency. Supply same-currency " ++
      "journal evidence before planning a split."))
  pure amount

def proposeSplitAllocations (statementEntryReference : String) (statementAmount : Number)
    (candidateJournals : List BookJournalEvidence)
    (reconciliationRunReference tenantAccountReference : String) :
    Except EvidenceError (List ReconciliationAllocation) := do
  requireIdentity statementEntryReference "statement_entry_reference"
  let statementTotal ← requireExactPositive statementAmount "statement_amount"
  let first ← fetch candidateJournals.head?
    (.valueError "at least one candidate journal is required for a split allocation")
  let planned ← planAllocations (admitJournal first.currencyCode)
    (fun journal amount => ⟨tenantAccountReference, reconciliationRunReference,
      statementEntryReference, journal.journalReference, amount, first.currencyCode⟩)
    .zero candidateJournals
  require (planned.1.value = statementTotal.value)
    (.valueError ("split allocations must conserve the exact statement amount: the " ++
      "candidate total may not exceed the statement amount. Re-select " ++
      "candidates whose exact total equals the statement, then retry."))
  pure planned.2

def admitItem (item : String × Number) : Except EvidenceError Decimal := do
  requireIdentity item.1 "statement_entry_reference"
  requireExactPositive item.2 ("statement " ++ item.1 ++ " amount")

def aggregateAllocations (statementItems : List (String × Number)) (journalTotal : Number)
    (reconciliationRunReference tenantAccountReference : String)
    (journalReference : String := "journal-aggregate") (currencyCode : String := "KRW") :
    Except EvidenceError (List ReconciliationAllocation) := do
  let total ← requireExactPositive journalTotal "journal_total"
  requireIdentity journalReference "journal_reference"
  requireIdentity currencyCode "currency_code"
  require (statementItems ≠ [])
    (.valueError "at least one statement item is required for an aggregate allocation")
  let planned ← planAllocations admitItem
    (fun item amount => ⟨tenantAccountReference, reconciliationRunReference, item.1,
      journalReference, amount, currencyCode⟩)
    .zero statementItems
  require (planned.1.value = total.value)
    (.valueError ("aggregation sides must agree: the statement-side total must equal " ++
      "the journal-side total exactly. Investigate the unmatched evidence " ++
      "before recording allocations."))
  pure planned.2

/-! ## What planning does -/

theorem requireExactPositive_ok {value : Number} {fieldName : String} {d : Decimal} :
    requireExactPositive value fieldName = .ok d ↔ value = .finite d ∧ 0 < d.value := by
  unfold requireExactPositive
  cases value with
  | finite e =>
    dsimp only
    split_ifs with h
    · rw [pure_eq_ok, Number.finite.injEq]
      exact ⟨fun heq => ⟨heq, heq ▸ h⟩, fun heq => heq.1⟩
    · refine iff_of_false nofun fun heq => ?_
      rw [Number.finite.injEq] at heq
      exact h (heq.1 ▸ heq.2)
  | infinite negative => exact iff_of_false nofun fun heq => nomatch heq.1
  | nan => exact iff_of_false nofun fun heq => nomatch heq.1

theorem requireIdentity_ok {value fieldName : String} {u : Unit} :
    requireIdentity value fieldName = .ok u ↔ strip value ≠ "" := require_eq_ok

/-- Every identity of a draft is given and its amount positive. -/
structure AllocationFields.Valid (allocation : AllocationFields) : Prop where
  tenant : strip allocation.tenantAccountReference ≠ ""
  run : strip allocation.reconciliationRunReference ≠ ""
  statement : strip allocation.statementEntryReference ≠ ""
  journal : strip allocation.journalReference ≠ ""
  currency : strip allocation.currencyCode ≠ ""
  amount : 0 < allocation.allocatedAmount.value

theorem AllocationFields.postInit_ok {allocation : AllocationFields} :
    allocation.postInit = .ok () ↔ allocation.Valid := by
  simp only [postInit, bind_eq_ok, requireIdentity_ok, requireExactPositive_ok, pure_eq_ok,
    Number.finite.injEq]
  constructor
  · rintro ⟨_, htenant, _, hrun, _, hstatement, _, hjournal, _, hcurrency, _, ⟨rfl, hpos⟩, -⟩
    exact ⟨htenant, hrun, hstatement, hjournal, hcurrency, hpos⟩
  · rintro ⟨htenant, hrun, hstatement, hjournal, hcurrency, hpos⟩
    exact ⟨(), htenant, (), hrun, (), hstatement, (), hjournal, (), hcurrency, _, ⟨rfl, hpos⟩, trivial⟩

theorem AllocationFields.create_ok {fields : AllocationFields} {allocation : ReconciliationAllocation} :
    fields.create = .ok allocation ↔ allocation.toAllocationFields = fields := by
  unfold create
  constructor
  · intro h
    split at h
    · rw [Except.ok.injEq] at h
      rw [← h]
    · nomatch h
  · rintro rfl
    have hchecked := allocation.checked
    split
    · rfl
    · next e he =>
      rw [hchecked] at he
      nomatch he

/-- The walk succeeds when every entry is admitted with a valid draft and the running total
    stays in range; it drafts one allocation for each entry, in order. -/
theorem planAllocations_ok {α : Type} {read : α → Except EvidenceError Decimal}
    {draft : α → Decimal → AllocationFields} {Admits : α → Prop} {amount : α → Decimal}
    (hread : ∀ entry d, read entry = .ok d ↔ Admits entry ∧ amount entry = d)
    {plannedTotal total : Decimal} {entries : List α} {allocations : List ReconciliationAllocation} :
    planAllocations read draft plannedTotal entries = .ok (total, allocations) ↔
      (∀ entry ∈ entries, Admits entry ∧ (draft entry (amount entry)).Valid) ∧
        context.accumulate plannedTotal (entries.map amount) = some total ∧
        allocations.map (·.toAllocationFields) =
          entries.map fun entry => draft entry (amount entry) := by
  induction entries generalizing plannedTotal total allocations with
  | nil =>
    simp only [planAllocations, pure_eq_ok, Prod.mk.injEq, List.map_nil, List.map_eq_nil_iff,
      Context.accumulate, Option.some.injEq, List.not_mem_nil, false_imp_iff, implies_true, true_and]
    exact and_congr_right fun _ => eq_comm
  | cons entry entries ih =>
    simp only [planAllocations, bind_eq_ok, hread, pure_eq_ok, Prod.exists, Prod.mk.injEq, ih,
      AllocationFields.create_ok, List.forall_mem_cons, List.map_cons, Context.accumulate,
      Option.bind_eq_some_iff]
    constructor
    · rintro ⟨d, ⟨hentry, rfl⟩, next, hnext, allocation, hdraft, _, _,
        ⟨hrest, htotal, hallocations⟩, rfl, rfl⟩
      refine ⟨⟨⟨hentry, ?_⟩, hrest⟩, ⟨next, ?_, htotal⟩, ?_⟩
      · rw [← hdraft]
        exact AllocationFields.postInit_ok.mp allocation.checked
      · exact fetch_eq_ok.mp hnext
      · rw [List.map_cons, hdraft, hallocations]
    · rintro ⟨⟨⟨hentry, hvalid⟩, hrest⟩, ⟨next, hnext, htotal⟩, hallocations⟩
      cases allocations with
      | nil => cases hallocations
      | cons allocation allocations =>
        rw [List.map_cons, List.cons.injEq] at hallocations
        exact ⟨_, ⟨hentry, rfl⟩, next, fetch_eq_ok.mpr hnext, allocation, hallocations.1, _, _,
          ⟨hrest, htotal, hallocations.2⟩, rfl, rfl⟩

/-! ## Conservation -/

/-- The target is finite and equal to the exact sum. -/
def Balances (target : Number) (amounts : List ℚ) : Prop :=
  ∃ t, target = .finite t ∧ amounts.sum = t.value

/-- The target is finite and equal to the rounded running sum. -/
def RoundedBalances (target : Number) (amounts : List ℚ) : Prop :=
  ∃ t, target = .finite t ∧ context.SumsInRange 0 amounts ∧
    amounts.sum + context.sumGain 0 amounts = t.value

section Conservation

variable {α : Type} (plan : List α → Except EvidenceError (List ReconciliationAllocation))
  (amount : α → Decimal) (references : α → String × String) (target : Number) (entries : List α)

/-- Exact amounts of the entries. -/
def amounts : List ℚ := entries.map fun entry => (amount entry).value

/-- A plan succeeds exactly when the entries balance, whatever their order, and then allocates
    each entry in its place. -/
structure Conserves : Prop where
  succeeds : Succeeds (plan entries) ↔ Balances target (amounts amount entries)
  order : ∀ others, others.Perm entries → (Succeeds (plan others) ↔ Succeeds (plan entries))
  allocations : ∀ result, plan entries = .ok result →
    result.map (fun a => ((a.statementEntryReference, a.journalReference), a.allocatedAmount)) =
        entries.map (fun entry => (references entry, amount entry)) ∧
      Balances target (result.map fun a => a.allocatedAmount.value)

/-- In every order of the entries the roundings of the running total cancel, or, when the entries
    do not balance, never add just what is missing. -/
structure RoundingHidden : Prop where
  ties : Balances target (amounts amount entries) → ∀ others, others.Perm entries →
    context.SumsInRange 0 (amounts amount others) ∧ context.sumGain 0 (amounts amount others) = 0
  differs : ¬Balances target (amounts amount entries) → ∀ others, others.Perm entries →
    ∀ t, target = .finite t → context.SumsInRange 0 (amounts amount others) →
      context.sumGain 0 (amounts amount others) ≠ t.value - (amounts amount entries).sum

/-- Admitted entries have their rounding hidden, and entries refused for another reason do not
    balance. -/
def ConservesWhen (Admitted : Prop) : Prop :=
  (Admitted → RoundingHidden amount target entries) ∧
    (¬Admitted → ¬Balances target (amounts amount entries))

variable {plan amount references target entries}

theorem amounts_sum_perm {others : List α} (h : others.Perm entries) :
    (amounts amount others).sum = (amounts amount entries).sum := (h.map _).sum_eq

/-- Entries that balance do so in the rounded sum when its roundings cancel. -/
theorem roundedBalances_of_balances (h : Balances target (amounts amount entries)) {others : List α}
    (hperm : others.Perm entries) :
    RoundedBalances target (amounts amount others) ↔
      context.SumsInRange 0 (amounts amount others) ∧
        context.sumGain 0 (amounts amount others) = 0 := by
  obtain ⟨t, rfl, hsum⟩ := h
  rw [← amounts_sum_perm hperm] at hsum
  unfold RoundedBalances
  constructor
  · rintro ⟨t', ht, hrange, hrounded⟩
    rw [Number.finite.injEq] at ht
    rw [← ht, ← hsum] at hrounded
    exact ⟨hrange, add_eq_left.mp hrounded⟩
  · rintro ⟨hrange, hgain⟩
    exact ⟨t, rfl, hrange, by rw [hgain, add_zero, hsum]⟩

/-- Entries that do not balance do so in the rounded sum when its roundings add what is missing. -/
theorem not_roundedBalances_iff {others : List α} (hperm : others.Perm entries) :
    ¬RoundedBalances target (amounts amount others) ↔
      ∀ t, target = .finite t → context.SumsInRange 0 (amounts amount others) →
        context.sumGain 0 (amounts amount others) ≠ t.value - (amounts amount entries).sum := by
  rw [← amounts_sum_perm hperm]
  unfold RoundedBalances
  push Not
  refine forall_congr' fun t => imp_congr_right fun _ => imp_congr_right fun _ => not_congr ?_
  exact eq_sub_iff_add_eq'.symm

/-- A plan that follows the rounded running sum conserves exactly when the rounding is hidden. -/
theorem conserves_iff {Admitted : Prop}
    (hplan : ∀ others, others.Perm entries →
      (Succeeds (plan others) ↔ Admitted ∧ RoundedBalances target (amounts amount others)))
    (hresult : ∀ result, plan entries = .ok result →
      result.map (fun a => ((a.statementEntryReference, a.journalReference), a.allocatedAmount)) =
        entries.map (fun entry => (references entry, amount entry))) :
    Conserves plan amount references target entries ↔
      ConservesWhen amount target entries Admitted := by
  constructor
  · intro h
    have hverdict {others : List α} (hperm : others.Perm entries) (hadmitted : Admitted) :
        RoundedBalances target (amounts amount others) ↔ Balances target (amounts amount entries) := by
      rw [← h.succeeds, ← h.order others hperm, hplan others hperm, and_iff_right hadmitted]
    refine ⟨fun hadmitted => ⟨fun hties others hperm => ?_, fun hdiffers others hperm => ?_⟩,
      fun hrefused hties => ?_⟩
    · rw [← roundedBalances_of_balances hties hperm, hverdict hperm hadmitted]
      exact hties
    · rw [← not_roundedBalances_iff hperm, hverdict hperm hadmitted]
      exact hdiffers
    · exact hrefused ((hplan entries (.refl _)).mp (h.succeeds.mpr hties)).1
  · intro h
    have hverdict {others : List α} (hperm : others.Perm entries) :
        Succeeds (plan others) ↔ Balances target (amounts amount entries) := by
      rw [hplan others hperm]
      by_cases hadmitted : Admitted
      · rw [and_iff_right hadmitted]
        obtain ⟨hties, hdiffers⟩ := h.1 hadmitted
        by_cases hbalances : Balances target (amounts amount entries)
        · rw [roundedBalances_of_balances hbalances hperm]
          exact iff_of_true (hties hbalances others hperm) hbalances
        · exact iff_of_false ((not_roundedBalances_iff hperm).mpr (hdiffers hbalances others hperm))
            hbalances
      · exact iff_of_false (fun hboth => hadmitted hboth.1) (h.2 hadmitted)
    refine ⟨hverdict (.refl _), fun others hperm => ?_, fun result hplanned => ?_⟩
    · rw [hverdict hperm, hverdict (.refl _)]
    · have hnamed := hresult result hplanned
      refine ⟨hnamed, ?_⟩
      have hvalues : (result.map fun a => a.allocatedAmount.value) = amounts amount entries := by
        have h := congrArg (List.map fun named : (String × String) × Decimal => named.2.value) hnamed
        rw [List.map_map, List.map_map] at h
        exact h
      rw [hvalues]
      exact (hverdict (.refl _)).mp ⟨result, hplanned⟩

end Conservation

/-! ## Split and aggregate -/

/-- What a split needs besides a total that balances. -/
structure SplitAdmitted (statementEntryReference : String) (target : Number)
    (reconciliationRunReference tenantAccountReference : String)
    (journals : List BookJournalEvidence) : Prop where
  statement : strip statementEntryReference ≠ ""
  target : ∃ t, target = .finite t ∧ 0 < t.value
  some : journals ≠ []
  oneCurrency : ∀ j ∈ journals, ∀ k ∈ journals, j.currencyCode = k.currencyCode
  currency : ∀ j ∈ journals, strip j.currencyCode ≠ ""
  journal : ∀ j ∈ journals, strip j.journalReference ≠ ""
  tenant : strip tenantAccountReference ≠ ""
  run : strip reconciliationRunReference ≠ ""

/-- What an aggregate needs besides a total that balances. -/
structure AggregateAdmitted (items : List (String × Number)) (target : Number)
    (reconciliationRunReference tenantAccountReference journalReference currencyCode : String) :
    Prop where
  target : ∃ t, target = .finite t ∧ 0 < t.value
  some : items ≠ []
  statement : ∀ item ∈ items, strip item.1 ≠ ""
  journal : strip journalReference ≠ ""
  currency : strip currencyCode ≠ ""
  tenant : strip tenantAccountReference ≠ ""
  run : strip reconciliationRunReference ≠ ""

theorem admitJournal_ok {currencyCode : String} {journal : BookJournalEvidence} {d : Decimal} :
    admitJournal currencyCode journal = .ok d ↔
      journal.currencyCode = currencyCode ∧ journal.amount = d := by
  simp only [admitJournal, bind_eq_ok, requireExactPositive_ok, require_eq_ok, pure_eq_ok,
    Number.finite.injEq]
  constructor
  · rintro ⟨_, ⟨rfl, -⟩, _, hcurrency, rfl⟩
    exact ⟨hcurrency, rfl⟩
  · rintro ⟨hcurrency, rfl⟩
    exact ⟨_, ⟨rfl, journal.amount_pos⟩, (), hcurrency, rfl⟩

/-- Amount of an item whose amount is finite. -/
def itemAmount (item : String × Number) : Decimal :=
  match item.2 with
  | .finite d => d
  | _ => .zero

theorem admitItem_ok {item : String × Number} {d : Decimal} :
    admitItem item = .ok d ↔
      (strip item.1 ≠ "" ∧ item.2 = .finite (itemAmount item) ∧ 0 < (itemAmount item).value) ∧
        itemAmount item = d := by
  obtain ⟨reference, amount⟩ := item
  simp only [admitItem, bind_eq_ok, requireIdentity_ok, requireExactPositive_ok]
  constructor
  · rintro ⟨_, hreference, rfl, hpos⟩
    exact ⟨⟨hreference, rfl, hpos⟩, rfl⟩
  · rintro ⟨⟨hreference, hfinite, hpos⟩, rfl⟩
    exact ⟨(), hreference, hfinite, hpos⟩

/-- A total accumulated from zero, compared with the target. -/
theorem accumulate_balances {α : Type} {amount : α → Decimal} {entries : List α} {t : Decimal} :
    (∃ total, context.accumulate .zero (entries.map amount) = some total ∧
      total.value = t.value) ↔
      context.SumsInRange 0 (amounts amount entries) ∧
        (amounts amount entries).sum + context.sumGain 0 (amounts amount entries) = t.value := by
  have hmap : (entries.map amount).map Decimal.value = amounts amount entries := List.map_map
  rw [Context.accumulate_value_iff, hmap, Decimal.value_zero, zero_add]

theorem proposeSplitAllocations_ok {statementEntryReference : String} {target : Number}
    {journals : List BookJournalEvidence} {run tenant : String}
    {result : List ReconciliationAllocation} :
    proposeSplitAllocations statementEntryReference target journals run tenant = .ok result ↔
      SplitAdmitted statementEntryReference target run tenant journals ∧
        RoundedBalances target (amounts (·.amount) journals) ∧
        ∀ first ∈ journals.head?, result.map (·.toAllocationFields) =
          journals.map fun journal => ⟨tenant, run, statementEntryReference,
            journal.journalReference, journal.amount, first.currencyCode⟩ := by
  cases journals with
  | nil =>
    refine iff_of_false (fun h => ?_) fun h => h.1.some rfl
    simp only [proposeSplitAllocations, bind_eq_ok, fetch_eq_ok, List.head?_nil] at h
    obtain ⟨-, -, -, -, first, hfirst, -⟩ := h
    cases hfirst
  | cons first rest =>
    simp only [proposeSplitAllocations, bind_eq_ok, fetch_eq_ok, List.head?_cons, Option.some.injEq,
      requireIdentity_ok, requireExactPositive_ok, require_eq_ok, pure_eq_ok, Prod.exists,
      planAllocations_ok (fun _ _ => admitJournal_ok)]
    constructor
    · rintro ⟨_, hstatement, t, ⟨rfl, hpos⟩, _, rfl, total, _, ⟨hentries, htotal, hresult⟩, _,
        hvalue, rfl⟩
      obtain ⟨hrange, hsum⟩ := accumulate_balances.mp ⟨total, htotal, hvalue⟩
      have hfirst := (hentries first List.mem_cons_self).2
      refine ⟨⟨hstatement, ⟨t, rfl, hpos⟩, List.cons_ne_nil _ _, fun j hj k hk => ?_, fun j hj => ?_,
        fun j hj => (hentries j hj).2.journal, hfirst.tenant, hfirst.run⟩, ⟨t, rfl, hrange, hsum⟩,
        fun other hother => ?_⟩
      · rw [(hentries j hj).1, (hentries k hk).1]
      · rw [(hentries j hj).1]
        exact hfirst.currency
      · obtain rfl := Option.some.inj hother
        exact hresult
    · rintro ⟨hadmitted, ⟨t, rfl, hrange, hsum⟩, hresult⟩
      obtain ⟨_, ht, hpos⟩ := hadmitted.target
      obtain rfl := Number.finite.inj ht
      obtain ⟨total, htotal, hvalue⟩ := accumulate_balances.mpr ⟨hrange, hsum⟩
      refine ⟨(), hadmitted.statement, t, ⟨rfl, hpos⟩, first, rfl, total, result,
        ⟨fun j hj => ⟨hadmitted.oneCurrency j hj first List.mem_cons_self, ?_⟩, htotal,
          hresult first rfl⟩, (), hvalue, rfl⟩
      exact ⟨hadmitted.tenant, hadmitted.run, hadmitted.statement, hadmitted.journal j hj,
        hadmitted.currency first List.mem_cons_self, j.amount_pos⟩

theorem aggregateAllocations_ok {items : List (String × Number)} {target : Number}
    {run tenant journalReference currencyCode : String} {result : List ReconciliationAllocation} :
    aggregateAllocations items target run tenant journalReference currencyCode = .ok result ↔
      AggregateAdmitted items target run tenant journalReference currencyCode ∧
        (∀ item ∈ items, item.2 = .finite (itemAmount item) ∧ 0 < (itemAmount item).value) ∧
        RoundedBalances target (amounts itemAmount items) ∧
        result.map (·.toAllocationFields) =
          items.map fun item => ⟨tenant, run, item.1, journalReference, itemAmount item,
            currencyCode⟩ := by
  simp only [aggregateAllocations, bind_eq_ok, requireIdentity_ok, requireExactPositive_ok,
    require_eq_ok, pure_eq_ok, Prod.exists, planAllocations_ok (fun _ _ => admitItem_ok)]
  constructor
  · rintro ⟨t, ⟨rfl, hpos⟩, _, hjournal, _, hcurrency, _, hsome, total, _,
      ⟨hitems, htotal, hresult⟩, _, hvalue, rfl⟩
    obtain ⟨hrange, hsum⟩ := accumulate_balances.mp ⟨total, htotal, hvalue⟩
    obtain ⟨item, hitem⟩ := List.exists_mem_of_ne_nil items hsome
    have hvalid := (hitems item hitem).2
    exact ⟨⟨⟨t, rfl, hpos⟩, hsome, fun item hitem => (hitems item hitem).1.1, hjournal, hcurrency,
      hvalid.tenant, hvalid.run⟩, fun item hitem => (hitems item hitem).1.2, ⟨t, rfl, hrange, hsum⟩,
      hresult⟩
  · rintro ⟨hadmitted, hamounts, ⟨t, rfl, hrange, hsum⟩, hresult⟩
    obtain ⟨_, ht, hpos⟩ := hadmitted.target
    obtain rfl := Number.finite.inj ht
    obtain ⟨total, htotal, hvalue⟩ := accumulate_balances.mpr ⟨hrange, hsum⟩
    refine ⟨t, ⟨rfl, hpos⟩, (), hadmitted.journal, (), hadmitted.currency, (), hadmitted.some, total,
      result, ⟨fun item hitem => ⟨⟨hadmitted.statement item hitem, hamounts item hitem⟩, ?_⟩, htotal,
        hresult⟩, (), hvalue, rfl⟩
    exact ⟨hadmitted.tenant, hadmitted.run, hadmitted.statement item hitem, hadmitted.journal,
      hadmitted.currency, (hamounts item hitem).2⟩

/-- Valid drafts are the fields of allocations. -/
theorem exists_allocations {drafts : List AllocationFields} (h : ∀ draft ∈ drafts, draft.Valid) :
    ∃ result : List ReconciliationAllocation, result.map (·.toAllocationFields) = drafts := by
  induction drafts with
  | nil => exact ⟨[], rfl⟩
  | cons draft drafts ih =>
    obtain ⟨hdraft, hdrafts⟩ := List.forall_mem_cons.mp h
    obtain ⟨result, hresult⟩ := ih hdrafts
    exact ⟨⟨draft, AllocationFields.postInit_ok.mpr hdraft⟩ :: result, by rw [List.map_cons, hresult]⟩

theorem SplitAdmitted.perm {statementEntryReference : String} {target : Number} {run tenant : String}
    {journals others : List BookJournalEvidence}
    (h : SplitAdmitted statementEntryReference target run tenant journals)
    (hperm : others.Perm journals) : SplitAdmitted statementEntryReference target run tenant others where
  statement := h.statement
  target := h.target
  some := fun hnil => h.some (List.nil_perm.mp (hnil ▸ hperm))
  oneCurrency := fun j hj k hk => h.oneCurrency j (hperm.mem_iff.mp hj) k (hperm.mem_iff.mp hk)
  currency := fun j hj => h.currency j (hperm.mem_iff.mp hj)
  journal := fun j hj => h.journal j (hperm.mem_iff.mp hj)
  tenant := h.tenant
  run := h.run

theorem AggregateAdmitted.perm {items others : List (String × Number)} {target : Number}
    {run tenant journalReference currencyCode : String}
    (h : AggregateAdmitted items target run tenant journalReference currencyCode)
    (hperm : others.Perm items) :
    AggregateAdmitted others target run tenant journalReference currencyCode where
  target := h.target
  some := fun hnil => h.some (List.nil_perm.mp (hnil ▸ hperm))
  statement := fun item hitem => h.statement item (hperm.mem_iff.mp hitem)
  journal := h.journal
  currency := h.currency
  tenant := h.tenant
  run := h.run

/-- A split succeeds when admitted entries balance in the rounded sum. -/
theorem proposeSplitAllocations_succeeds {statementEntryReference : String} {target : Number}
    {journals : List BookJournalEvidence} {run tenant : String} :
    Succeeds (proposeSplitAllocations statementEntryReference target journals run tenant) ↔
      SplitAdmitted statementEntryReference target run tenant journals ∧
        RoundedBalances target (amounts (·.amount) journals) := by
  constructor
  · rintro ⟨result, h⟩
    obtain ⟨hadmitted, hbalances, -⟩ := proposeSplitAllocations_ok.mp h
    exact ⟨hadmitted, hbalances⟩
  · rintro ⟨hadmitted, hbalances⟩
    obtain ⟨first, hfirst⟩ : ∃ first, journals.head? = some first :=
      Option.ne_none_iff_exists'.mp fun hnone => hadmitted.some (List.head?_eq_none_iff.mp hnone)
    have hmem := List.mem_of_mem_head? hfirst
    obtain ⟨result, hresult⟩ := @exists_allocations
      (journals.map fun journal => ⟨tenant, run, statementEntryReference,
        journal.journalReference, journal.amount, first.currencyCode⟩) (by
      simp only [List.forall_mem_map]
      exact fun j hj => ⟨hadmitted.tenant, hadmitted.run, hadmitted.statement,
        hadmitted.journal j hj, hadmitted.currency first hmem, j.amount_pos⟩)
    refine ⟨result, proposeSplitAllocations_ok.mpr ⟨hadmitted, hbalances, fun other hother => ?_⟩⟩
    obtain rfl := Option.some.inj (hfirst.symm.trans hother)
    exact hresult

/-- An aggregate succeeds when admitted items balance in the rounded sum. -/
theorem aggregateAllocations_succeeds {items : List (String × Number)} {target : Number}
    {run tenant journalReference currencyCode : String}
    (hamounts : ∀ item ∈ items, item.2 = .finite (itemAmount item) ∧ 0 < (itemAmount item).value) :
    Succeeds (aggregateAllocations items target run tenant journalReference currencyCode) ↔
      AggregateAdmitted items target run tenant journalReference currencyCode ∧
        RoundedBalances target (amounts itemAmount items) := by
  constructor
  · rintro ⟨result, h⟩
    obtain ⟨hadmitted, -, hbalances, -⟩ := aggregateAllocations_ok.mp h
    exact ⟨hadmitted, hbalances⟩
  · rintro ⟨hadmitted, hbalances⟩
    obtain ⟨result, hresult⟩ := @exists_allocations
      (items.map fun item => ⟨tenant, run, item.1, journalReference, itemAmount item,
        currencyCode⟩) (by
      simp only [List.forall_mem_map]
      exact fun item hitem => ⟨hadmitted.tenant, hadmitted.run, hadmitted.statement item hitem,
        hadmitted.journal, hadmitted.currency, (hamounts item hitem).2⟩)
    exact ⟨result, aggregateAllocations_ok.mpr ⟨hadmitted, hamounts, hbalances, hresult⟩⟩

/-! ## When allocations conserve -/

/-- A finite positive amount. -/
abbrev PositiveDecimal := {d : Decimal // 0 < d.value}

/-- A statement item as the command receives it. -/
def statementItem (item : String × PositiveDecimal) : String × Number := (item.1, .finite item.2.1)

/-- Journal evidence of an amount with 29 digits. -/
def longJournal : BookJournalEvidence where
  journalReference := "journal-1"
  providerReference := none
  endToEndReference := none
  accountServicerReference := none
  amount := ⟨false, 10 ^ 28, 0⟩
  currencyCode := "KRW"
  creditDebitCode := .crdt
  accountingDate := 1
  amount_pos := by decide +kernel

def unitJournal : BookJournalEvidence where
  journalReference := "journal-2"
  providerReference := none
  endToEndReference := none
  accountServicerReference := none
  amount := ⟨false, 1, 0⟩
  currencyCode := "KRW"
  creditDebitCode := .crdt
  accountingDate := 1
  amount_pos := by decide +kernel

end AccountingPlatform.Bank
