/-
  What no command takes back: proposal records, journals, reversals, snapshots and the dates of
  a period.
-/
import AccountingPlatform.Postgres.Effects

namespace AccountingPlatform.Postgres

open AccountingPlatform.Lib AccountingPlatform.Core

variable {dep : Deployment}

/-- Every row is still there, in its place; a period keeps its code and dates. -/
structure Extends (t t' : Tables) : Prop where
  proposalRecords : t.proposalRecords <+: t'.proposalRecords
  journals : t.journals <+: t'.journals
  reversals : t.reversals <+: t'.reversals
  snapshots : t.snapshots <+: t'.snapshots
  periods : ∀ p ∈ t.fiscalPeriods, ∃ q ∈ t'.fiscalPeriods, q.fiscalPeriodId = p.fiscalPeriodId ∧
    q.periodCode = p.periodCode ∧ q.periodStartDate = p.periodStartDate ∧
    q.periodEndDate = p.periodEndDate

theorem Extends.refl (t : Tables) : Extends t t where
  proposalRecords := List.prefix_refl _
  journals := List.prefix_refl _
  reversals := List.prefix_refl _
  snapshots := List.prefix_refl _
  periods p hp := ⟨p, hp, rfl, rfl, rfl, rfl⟩

theorem Extends.trans {t t' t'' : Tables} (h : Extends t t') (h' : Extends t' t'') :
    Extends t t'' where
  proposalRecords := h.proposalRecords.trans h'.proposalRecords
  journals := h.journals.trans h'.journals
  reversals := h.reversals.trans h'.reversals
  snapshots := h.snapshots.trans h'.snapshots
  periods p hp := by
    obtain ⟨q, hq, hid, hcode, hstart, hend⟩ := h.periods p hp
    obtain ⟨r, hr, hid', hcode', hstart', hend'⟩ := h'.periods q hq
    exact ⟨r, hr, hid'.trans hid, hcode'.trans hcode, hstart'.trans hstart, hend'.trans hend⟩

theorem Written.extends {t t' : Tables} {record : ProposalRecord} {journal : GeneralJournal}
    (h : Written dep t record journal t') : Extends t t' where
  proposalRecords := h.records ▸ List.prefix_append _ _
  journals := h.journals ▸ List.prefix_append _ _
  reversals := h.reversals
  snapshots := h.snapshots ▸ List.prefix_refl _
  periods p hp := ⟨p, h.fiscalPeriods ▸ hp, rfl, rfl, rfl, rfl⟩

theorem refreshStatus_keeps {periods : List FiscalPeriod} (fiscalPeriodId : ℕ)
    (status : PeriodStatus) (closedAt : Option Timestamp) {p : FiscalPeriod} (hp : p ∈ periods) :
    ∃ q ∈ refreshStatus periods fiscalPeriodId status closedAt,
      q.fiscalPeriodId = p.fiscalPeriodId ∧ q.periodCode = p.periodCode ∧
        q.periodStartDate = p.periodStartDate ∧ q.periodEndDate = p.periodEndDate := by
  refine ⟨_, List.mem_map.mpr ⟨p, hp, rfl⟩, ?_⟩
  split <;> exact ⟨rfl, rfl, rfl, rfl⟩

variable (dep) in
/-- Closing a control row changes statuses only. -/
theorem setBookPeriodClosed_extends (t : Tables) (bookId fiscalPeriodId : ℕ)
    (status : PeriodStatus) : Extends t (setBookPeriodClosed dep t bookId fiscalPeriodId status) where
  proposalRecords := List.prefix_refl _
  journals := List.prefix_refl _
  reversals := List.prefix_refl _
  snapshots := List.prefix_refl _
  periods _ hp := refreshStatus_keeps _ _ _ hp

theorem ClosingPosted.extends {t t' : Tables} {request : CloseRequest} {entity : LegalEntityRecord}
    {book : AccountingBook} {period : FiscalPeriod} {posted : Option GeneralJournal}
    (h : ClosingPosted dep t request entity book period posted t') : Extends t t' := by
  cases h with
  | nothing => exact Extends.refl t
  | journal _ hwritten => exact hwritten.extends

variable (dep) in
theorem withSnapshot_extends (t : Tables) (request : CloseRequest) (entity : LegalEntityRecord)
    (book : AccountingBook) (period : FiscalPeriod) :
    Extends t (withSnapshot dep t request entity book period) :=
  { Extends.refl t with snapshots := List.prefix_append _ _ }

theorem extends_effect {t t' : Tables} {command : Command} (he : Effect dep t command t') :
    Extends t t' := by
  cases he with
  | idle => exact { Extends.refl t with }
  | opened period commands hid hopen hcode =>
    exact { Extends.refl t with
      periods := fun p hp => ⟨p, List.mem_append_left _ hp, rfl, rfl, rfl, rfl⟩ }
  | posted hwritten _ _ => exact { hwritten.extends with }
  | locked period _ _ _ => exact { Extends.refl t with }
  | @softClosed _ _ book period _ hclosable _ _ evidence outbox =>
    exact { setBookPeriodClosed_extends dep (materialized dep t period) book.accountingBookId
      period.fiscalPeriodId .softClosed with }
  | @hardClosed request entity book period _ posted t₂ _ _ _ _ hposted _ outbox =>
    have hjournal : Extends t t₂ := { hposted.extends with }
    have hclosed := (hjournal.trans (withSnapshot_extends dep t₂ request entity book
      period)).trans (setBookPeriodClosed_extends dep _ book.accountingBookId
        period.fiscalPeriodId .hardClosed)
    exact { hclosed with }

theorem extends_execute {t : Tables} (h : WellFormed dep t) (command : Command) :
    Extends t (execute dep t command) := by
  rcases execute_effect h command with ⟨-, heq⟩ | ⟨-, he⟩
  · rw [heq]
    exact Extends.refl t
  · exact extends_effect he

/-- Whatever is executed later, nothing of this is lost. -/
theorem extends_run {t : Tables} (h : WellFormed dep t) (commands : List Command) :
    Extends t (run (execute dep) t commands) := by
  induction commands generalizing t with
  | nil => exact Extends.refl t
  | cons command commands ih =>
    exact (extends_execute h command).trans (ih (wellFormed_execute h command))

end AccountingPlatform.Postgres
