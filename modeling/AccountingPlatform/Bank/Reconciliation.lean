/-
  What persisted reconciliation conserves.

  The constraints keep keys unique, rows in runs of their own tenant and one approved match a
  run. Conservation (`Conserved`) is a relation of the five tables that no constraint states:
  it holds along a sequence of writes exactly when every write of it is `Checked`.
-/
import AccountingPlatform.Bank.ReconciliationTables

namespace AccountingPlatform.Bank

open AccountingPlatform.Lib AccountingPlatform.Core

/-! ## What the constraints keep -/

/-- Keys are unique and every reference is to a recorded row. -/
structure ReconciliationTables.Consistent (t : ReconciliationTables) : Prop where
  candidate_key : (t.candidates.map ReconciliationCandidate.reconciliationCandidateId).Nodup
  match_key : (t.matched.map ReconciliationMatch.reconciliationMatchId).Nodup
  match_evaluation : (t.matched.map ReconciliationMatch.evaluation).Nodup
  approved_single : ∀ row ∈ t.matched, ∀ other ∈ t.matched, row.IsApproved → other.IsApproved →
    other.toRunKey = row.toRunKey → other.reconciliationMatchId = row.reconciliationMatchId
  candidate_run : ∀ row ∈ t.candidates, ∃ run ∈ t.runs, run.key = row.toRunKey
  match_run : ∀ row ∈ t.matched, ∃ run ∈ t.runs, run.key = row.toRunKey
  allocation_run : ∀ side, ∀ row ∈ t.allocations side, ∃ run ∈ t.runs, run.key = row.toRunKey
  match_candidate : ∀ row ∈ t.matched, ∃ candidate ∈ t.candidates,
    candidate.reconciliationCandidateId = row.reconciliationCandidateId
  allocation_match : ∀ side, ∀ row ∈ t.allocations side, ∃ found ∈ t.matched,
    found.reconciliationMatchId = row.reconciliationMatchId

theorem ReconciliationTables.consistent_empty : ReconciliationTables.empty.Consistent := by
  constructor <;> simp [ReconciliationTables.empty]

/-! ## What each write does -/

variable {scopes : BankScopes} {t t' : ReconciliationTables}

theorem insertRun_eq_ok {row : ReconciliationRun} (h : insertRun scopes t row = .ok t') :
    t' = { t with runs := t.runs ++ [row] } := by
  simp only [insertRun, bind_eq_ok, pure_eq_ok] at h
  obtain ⟨_, _, _, _, h⟩ := h
  exact h.symm

/-- A status update keeps the keys of the runs: the trigger refuses another scope. -/
theorem updateRun_eq_ok {reconciliationRunId : ℕ} {scope : RunScope} {status : RunStatus}
    (h : updateRun t reconciliationRunId scope status = .ok t') :
    ∃ runs, t' = { t with runs := runs } ∧ runs.map ReconciliationRun.key =
      t.runs.map ReconciliationRun.key := by
  unfold updateRun at h
  split at h
  · exact ⟨t.runs, (pure_eq_ok.mp h).symm, rfl⟩
  · simp only [bind_eq_ok, pure_eq_ok] at h
    obtain ⟨_, _, h⟩ := h
    refine ⟨_, h.symm, ?_⟩
    rw [List.map_map]
    apply List.map_congr_left
    intro row _
    show ReconciliationRun.key (if _ then _ else _) = row.key
    split <;> rfl

theorem insertCandidate_eq_ok {row : ReconciliationCandidate}
    (h : insertCandidate t row = .ok t') :
    t' = { t with candidates := t.candidates ++ [row] } ∧
      (∀ other ∈ t.candidates,
        other.reconciliationCandidateId ≠ row.reconciliationCandidateId) ∧
      ∃ run ∈ t.runs, run.key = row.toRunKey := by
  simp only [insertCandidate, requireRun, bind_eq_ok, pure_eq_ok, require_eq_ok] at h
  obtain ⟨_, _, _, _, _, _, _, _, _, _, _, hkey, _, _, _, hrun, h⟩ := h
  exact ⟨h.symm, hkey, hrun⟩

theorem insertMatch_eq_ok {row : ReconciliationMatch} (h : insertMatch t row = .ok t') :
    t' = { t with matched := t.matched ++ [row] } ∧
      (∀ other ∈ t.matched, other.reconciliationMatchId ≠ row.reconciliationMatchId) ∧
      (∀ other ∈ t.matched, other.evaluation ≠ row.evaluation) ∧
      (row.IsApproved → ∀ other ∈ t.matched, other.IsApproved →
        other.toRunKey ≠ row.toRunKey) ∧
      (∃ run ∈ t.runs, run.key = row.toRunKey) ∧
      ∃ candidate ∈ t.candidates,
        candidate.reconciliationCandidateId = row.reconciliationCandidateId := by
  simp only [insertMatch, requireRun, requireApprovedSingle, bind_eq_ok, pure_eq_ok,
    require_eq_ok] at h
  obtain ⟨_, hkey, _, heval, _, hsingle, _, hrun, _, hcandidate, h⟩ := h
  exact ⟨h.symm, hkey, heval, hsingle, hrun, hcandidate⟩

/-- The matches after a status update. -/
def updatedMatches (matched : List ReconciliationMatch) (reconciliationMatchId : ℕ)
    (status : MatchStatus) : List ReconciliationMatch :=
  matched.map fun row =>
    if row.reconciliationMatchId = reconciliationMatchId then row.withStatus status else row

theorem mem_updatedMatches {matched : List ReconciliationMatch} {reconciliationMatchId : ℕ}
    {status : MatchStatus} {row : ReconciliationMatch} :
    row ∈ updatedMatches matched reconciliationMatchId status ↔
      (row ∈ matched ∧ row.reconciliationMatchId ≠ reconciliationMatchId) ∨
        ∃ old ∈ matched, old.reconciliationMatchId = reconciliationMatchId ∧
          old.withStatus status = row := by
  unfold updatedMatches
  rw [List.mem_map]
  constructor
  · rintro ⟨old, hold, heq⟩
    split at heq
    · next hid => exact Or.inr ⟨old, hold, hid, heq⟩
    · next hid => subst heq; exact Or.inl ⟨hold, hid⟩
  · rintro (⟨hrow, hid⟩ | ⟨old, hold, hid, heq⟩)
    · exact ⟨row, hrow, if_neg hid⟩
    · exact ⟨old, hold, by rw [if_pos hid]; exact heq⟩

/-- A status update changes nothing else of a match. -/
theorem map_updatedMatches {β : Type} (f : ReconciliationMatch → β)
    (hf : ∀ row status, f (row.withStatus status) = f row) (matched : List ReconciliationMatch)
    (reconciliationMatchId : ℕ) (status : MatchStatus) :
    (updatedMatches matched reconciliationMatchId status).map f = matched.map f := by
  unfold updatedMatches
  rw [List.map_map]
  apply List.map_congr_left
  intro row _
  show f (if _ then _ else _) = f row
  split
  · exact hf row status
  · rfl

theorem updateMatch_eq_ok {reconciliationMatchId : ℕ} {status : MatchStatus}
    (h : updateMatch t reconciliationMatchId status = .ok t') :
    t' = { t with matched := updatedMatches t.matched reconciliationMatchId status } ∧
      (status = .approved → ∀ old ∈ t.matched.find? (fun row =>
        row.reconciliationMatchId = reconciliationMatchId), ∀ other ∈ t.matched,
          other.reconciliationMatchId ≠ reconciliationMatchId → other.IsApproved →
            other.toRunKey ≠ old.toRunKey) := by
  unfold updateMatch at h
  split at h
  · next hnone =>
    refine ⟨?_, fun _ old hold => by rw [hnone] at hold; cases hold⟩
    rw [← pure_eq_ok.mp h]
    have hsame : updatedMatches t.matched reconciliationMatchId status = t.matched := by
      unfold updatedMatches
      conv_rhs => rw [← List.map_id t.matched]
      apply List.map_congr_left
      intro row hrow
      exact if_neg (by simpa using List.find?_eq_none.mp hnone row hrow)
    rw [hsame]
  · next old hold =>
    simp only [requireApprovedSingle, bind_eq_ok, pure_eq_ok, require_eq_ok] at h
    obtain ⟨_, hsingle, h⟩ := h
    refine ⟨h.symm, fun hstatus old' hold' other hother hid happroved => ?_⟩
    rw [hold, Option.mem_some_iff] at hold'
    subst hold'
    exact hsingle hstatus other (List.mem_filter.mpr ⟨hother, by simpa using hid⟩) happroved

theorem insertAllocation_eq_ok {side : AllocationSide} {row : MatchAllocation}
    (h : insertAllocation t side row = .ok t') :
    t' = { t with
      allocations := Function.update t.allocations side (t.allocations side ++ [row]) } ∧
      0 < row.allocatedAmount ∧ (∃ run ∈ t.runs, run.key = row.toRunKey) ∧
      ∃ found ∈ t.matched, found.reconciliationMatchId = row.reconciliationMatchId := by
  simp only [insertAllocation, requireAmount, requireRun, bind_eq_ok, pure_eq_ok,
    require_eq_ok] at h
  obtain ⟨_, ⟨_, _, hamount⟩, _, _, _, _, _, hrun, _, hmatch, h⟩ := h
  exact ⟨h.symm, hamount, hrun, hmatch⟩

/-! ## The constraints hold in every reachable state -/

/-- Rows of the runs a table refers to are never lost. -/
theorem run_of_map_key {runs runs' : List ReconciliationRun}
    (hkeys : runs'.map ReconciliationRun.key = runs.map ReconciliationRun.key) {key : RunKey}
    (h : ∃ run ∈ runs, run.key = key) : ∃ run ∈ runs', run.key = key := by
  rw [← List.mem_map, hkeys]
  exact List.mem_map.mpr h

namespace ReconciliationTables.Consistent

/-- Runs added or updated in place. -/
theorem withRuns (hc : t.Consistent) {runs : List ReconciliationRun}
    (hruns : ∀ key, (∃ run ∈ t.runs, run.key = key) → ∃ run ∈ runs, run.key = key) :
    Consistent { t with runs := runs } where
  candidate_key := hc.candidate_key
  match_key := hc.match_key
  match_evaluation := hc.match_evaluation
  approved_single := hc.approved_single
  candidate_run := fun row hrow => hruns _ (hc.candidate_run row hrow)
  match_run := fun row hrow => hruns _ (hc.match_run row hrow)
  allocation_run := fun side row hrow => hruns _ (hc.allocation_run side row hrow)
  match_candidate := hc.match_candidate
  allocation_match := hc.allocation_match

theorem insertCandidate (hc : t.Consistent) {row : ReconciliationCandidate}
    (hkey : ∀ other ∈ t.candidates,
      other.reconciliationCandidateId ≠ row.reconciliationCandidateId)
    (hrun : ∃ run ∈ t.runs, run.key = row.toRunKey) :
    Consistent { t with candidates := t.candidates ++ [row] } where
  candidate_key := nodup_map_concat hc.candidate_key hkey
  match_key := hc.match_key
  match_evaluation := hc.match_evaluation
  approved_single := hc.approved_single
  candidate_run := by
    intro other hother
    rcases List.mem_append.mp hother with hother | hother
    · exact hc.candidate_run other hother
    · rw [List.mem_singleton.mp hother]
      exact hrun
  match_run := hc.match_run
  allocation_run := hc.allocation_run
  match_candidate := fun other hother => exists_mem_append_left _ (hc.match_candidate other hother)
  allocation_match := hc.allocation_match

theorem insertMatch (hc : t.Consistent) {row : ReconciliationMatch}
    (h : Bank.insertMatch t row = .ok t') : t'.Consistent := by
  obtain ⟨rfl, hkey, heval, hsingle, hrun, hcandidate⟩ := insertMatch_eq_ok h
  constructor
  case candidate_key => exact hc.candidate_key
  case match_key => exact nodup_map_concat hc.match_key hkey
  case match_evaluation => exact nodup_map_concat hc.match_evaluation heval
  case approved_single =>
    intro a ha b hb happroved hother hscope
    rcases List.mem_append.mp ha with ha | ha
    · rcases List.mem_append.mp hb with hb | hb
      · exact hc.approved_single a ha b hb happroved hother hscope
      · rw [List.mem_singleton.mp hb] at hother hscope
        exact absurd hscope.symm (hsingle hother a ha happroved)
    · rw [List.mem_singleton.mp ha] at happroved hscope ⊢
      rcases List.mem_append.mp hb with hb | hb
      · exact absurd hscope (hsingle happroved b hb hother)
      · rw [List.mem_singleton.mp hb]
  case candidate_run => exact hc.candidate_run
  case match_run =>
    intro other hother
    rcases List.mem_append.mp hother with hother | hother
    · exact hc.match_run other hother
    · rw [List.mem_singleton.mp hother]
      exact hrun
  case allocation_run => exact hc.allocation_run
  case match_candidate =>
    intro other hother
    rcases List.mem_append.mp hother with hother | hother
    · exact hc.match_candidate other hother
    · rw [List.mem_singleton.mp hother]
      exact hcandidate
  case allocation_match =>
    intro side other hother
    exact exists_mem_append_left _ (hc.allocation_match side other hother)

/-- A fact about the parts of a match that no update touches. -/
theorem forall_updated {P : ReconciliationMatch → Prop} {id : ℕ} {status : MatchStatus}
    (hP : ∀ row, P row → P (row.withStatus status)) (h : ∀ row ∈ t.matched, P row) :
    ∀ row ∈ updatedMatches t.matched id status, P row := by
  intro row hrow
  rcases mem_updatedMatches.mp hrow with ⟨hrow, _⟩ | ⟨old, hold, _, rfl⟩
  · exact h row hrow
  · exact hP old (h old hold)

theorem updateMatch (hc : t.Consistent) {id : ℕ} {status : MatchStatus}
    (h : Bank.updateMatch t id status = .ok t') : t'.Consistent := by
  obtain ⟨rfl, hsingle⟩ := updateMatch_eq_ok h
  -- An approved row is an old one, or the one the index admits now.
  have hfind : ∀ old ∈ t.matched, old.reconciliationMatchId = id →
      t.matched.find? (fun row => row.reconciliationMatchId = id) = some old := by
    intro old hold hid
    subst hid
    exact find?_of_nodup_map hc.match_key hold
  constructor
  case candidate_key => exact hc.candidate_key
  case match_key =>
    show ((updatedMatches t.matched id status).map _).Nodup
    rw [map_updatedMatches _ fun _ _ => rfl]
    exact hc.match_key
  case match_evaluation =>
    show ((updatedMatches t.matched id status).map _).Nodup
    rw [map_updatedMatches _ fun _ _ => rfl]
    exact hc.match_evaluation
  case approved_single =>
    intro a ha b hb happroved hother hscope
    rcases mem_updatedMatches.mp ha with ⟨ha, haid⟩ | ⟨old, hold, haid, rfl⟩
    · rcases mem_updatedMatches.mp hb with ⟨hb, _⟩ | ⟨old, hold, hbid, rfl⟩
      · exact hc.approved_single a ha b hb happroved hother hscope
      · exact absurd hscope.symm (hsingle hother old (hfind old hold hbid) a ha haid happroved)
    · rcases mem_updatedMatches.mp hb with ⟨hb, hbid⟩ | ⟨old', _, hbid, rfl⟩
      · exact absurd hscope (hsingle happroved old (hfind old hold haid) b hb hbid hother)
      · exact hbid.trans haid.symm
  case candidate_run => exact hc.candidate_run
  case match_run => exact forall_updated (fun _ h => h) hc.match_run
  case allocation_run => exact hc.allocation_run
  case match_candidate => exact forall_updated (fun _ h => h) hc.match_candidate
  case allocation_match =>
    intro side row hrow
    have hids : ((updatedMatches t.matched id status).map
        ReconciliationMatch.reconciliationMatchId) = t.matched.map _ :=
      map_updatedMatches _ (fun _ _ => rfl) _ _ _
    have hold := List.mem_map.mpr (hc.allocation_match side row hrow)
    rw [← hids] at hold
    exact List.mem_map.mp hold

theorem insertAllocation (hc : t.Consistent) {side : AllocationSide} {row : MatchAllocation}
    (h : Bank.insertAllocation t side row = .ok t') : t'.Consistent := by
  obtain ⟨rfl, _, hrun, hmatch⟩ := insertAllocation_eq_ok h
  -- A row of either table is an old one or the new one.
  have hrows : ∀ s, ∀ other ∈ Function.update t.allocations side
      (t.allocations side ++ [row]) s, other ∈ t.allocations s ∨ other = row := by
    intro s other hother
    by_cases hs : s = side
    · subst hs
      rw [Function.update_self] at hother
      simpa using hother
    · rw [Function.update_of_ne hs] at hother
      exact Or.inl hother
  constructor
  case candidate_key => exact hc.candidate_key
  case match_key => exact hc.match_key
  case match_evaluation => exact hc.match_evaluation
  case approved_single => exact hc.approved_single
  case candidate_run => exact hc.candidate_run
  case match_run => exact hc.match_run
  case allocation_run =>
    intro s other hother
    rcases hrows s other hother with hother | rfl
    · exact hc.allocation_run s other hother
    · exact hrun
  case match_candidate => exact hc.match_candidate
  case allocation_match =>
    intro s other hother
    rcases hrows s other hother with hother | rfl
    · exact hc.allocation_match s other hother
    · exact hmatch

end ReconciliationTables.Consistent

/-- Every write keeps the constraints. -/
theorem ReconciliationTables.Consistent.write (hc : t.Consistent) (w : ReconciliationWrite) :
    (write scopes t w).Consistent := by
  unfold Bank.write
  split
  · next t' h =>
    cases w with
    | insertRun row =>
      rw [insertRun_eq_ok h]
      exact hc.withRuns fun key => exists_mem_append_left _
    | updateRun id scope status =>
      obtain ⟨runs, rfl, hkeys⟩ := updateRun_eq_ok h
      exact hc.withRuns fun key => run_of_map_key hkeys
    | insertCandidate row =>
      obtain ⟨rfl, hkey, hrun⟩ := insertCandidate_eq_ok h
      exact hc.insertCandidate hkey hrun
    | insertMatch row => exact hc.insertMatch h
    | updateMatch id status => exact hc.updateMatch h
    | insertAllocation side row => exact hc.insertAllocation h
  · exact hc

/-! ## Conservation -/

/-- An approved match has the identifier. -/
def ReconciliationTables.Approves (t : ReconciliationTables) (reconciliationMatchId : ℕ) : Prop :=
  ∃ row ∈ t.matched, row.reconciliationMatchId = reconciliationMatchId ∧ row.IsApproved

instance (t : ReconciliationTables) (id : ℕ) : Decidable (t.Approves id) :=
  inferInstanceAs (Decidable (∃ row ∈ t.matched, _ ∧ _))

/-- Side of a match. -/
def ReconciliationTables.allocatedBy (t : ReconciliationTables) (side : AllocationSide)
    (reconciliationMatchId : ℕ) : ℕ :=
  total MatchAllocation.allocatedAmount
    ((t.allocations side).filter fun row => row.reconciliationMatchId = reconciliationMatchId)

/-- A statement entry or a journal: tenant and reference. -/
def MatchAllocation.source (row : MatchAllocation) : ℕ × String :=
  (row.tenantAccountId, row.sourceReference)

/-- What one match allocates of a source. -/
def ReconciliationTables.allocatedOf (t : ReconciliationTables) (side : AllocationSide)
    (reconciliationMatchId : ℕ) (source : ℕ × String) : ℕ :=
  total MatchAllocation.allocatedAmount
    ((t.allocations side).filter fun row =>
      row.source = source ∧ row.reconciliationMatchId = reconciliationMatchId)

/-- What the approved matches of all runs allocate of a source. -/
def ReconciliationTables.consumed (t : ReconciliationTables) (side : AllocationSide)
    (source : ℕ × String) : ℕ :=
  total MatchAllocation.allocatedAmount
    ((t.allocations side).filter fun row =>
      row.source = source ∧ t.Approves row.reconciliationMatchId)

/-- Own amounts of the statement entries and the journals. -/
abbrev SourceAmounts := AllocationSide → ℕ × String → Option ℕ

/-- No source is consumed twice. -/
structure Conserved (amounts : SourceAmounts) (t : ReconciliationTables) : Prop where
  match_of_candidate : ∀ row ∈ t.matched, ∀ candidate ∈ t.candidates,
    candidate.reconciliationCandidateId = row.reconciliationCandidateId →
      row.toRunKey = candidate.toRunKey
  allocation_of_match : ∀ side, ∀ row ∈ t.allocations side, ∀ found ∈ t.matched,
    found.reconciliationMatchId = row.reconciliationMatchId → row.toRunKey = found.toRunKey
  balanced : ∀ row ∈ t.matched, row.IsApproved →
    t.allocatedBy .statement row.reconciliationMatchId =
      t.allocatedBy .journal row.reconciliationMatchId
  within_amount : ∀ side source, ∀ amount ∈ amounts side source, t.consumed side source ≤ amount

theorem conserved_empty (amounts : SourceAmounts) : Conserved amounts .empty := by
  constructor <;> simp [ReconciliationTables.empty, ReconciliationTables.consumed]

/-- What a write has to meet beyond the constraints. -/
def MeetsConservation (amounts : SourceAmounts) (t : ReconciliationTables) :
    ReconciliationWrite → Prop
  | .insertMatch row => ∀ candidate ∈ t.candidates,
      candidate.reconciliationCandidateId = row.reconciliationCandidateId →
        row.toRunKey = candidate.toRunKey
  | .insertAllocation _ row => ∀ found ∈ t.matched,
      found.reconciliationMatchId = row.reconciliationMatchId →
        row.toRunKey = found.toRunKey ∧ ¬found.IsApproved
  | .updateMatch id .approved => ∀ old ∈ t.matched, old.reconciliationMatchId = id →
      ¬old.IsApproved → t.allocatedBy .statement id = t.allocatedBy .journal id ∧
        ∀ side source, ∀ amount ∈ amounts side source,
          t.consumed side source + t.allocatedOf side id source ≤ amount
  | _ => True

/-- The constraints refuse the write, or it meets conservation. -/
def Checked (scopes : BankScopes) (amounts : SourceAmounts) (t : ReconciliationTables)
    (w : ReconciliationWrite) : Prop :=
  Succeeds (applyWrite scopes t w) → MeetsConservation amounts t w

variable {amounts : SourceAmounts}

/-! ## One write -/

/-- The same matches and allocations, and no other candidate that a match refers to. -/
theorem Conserved.of_same (h : Conserved amounts t) (hmatched : t'.matched = t.matched)
    (hallocations : t'.allocations = t.allocations)
    (hcandidates : ∀ row ∈ t.matched, ∀ candidate ∈ t'.candidates,
      candidate.reconciliationCandidateId = row.reconciliationCandidateId →
        candidate ∈ t.candidates) : Conserved amounts t' := by
  constructor
  · intro row hrow candidate hcandidate hid
    rw [hmatched] at hrow
    exact h.match_of_candidate row hrow candidate (hcandidates row hrow candidate hcandidate hid)
      hid
  · intro side row hrow found hfound
    rw [hallocations] at hrow
    rw [hmatched] at hfound
    exact h.allocation_of_match side row hrow found hfound
  · intro row hrow happroved
    rw [hmatched] at hrow
    unfold ReconciliationTables.allocatedBy
    rw [hallocations]
    exact h.balanced row hrow happroved
  · intro side source amount hamount
    unfold ReconciliationTables.consumed ReconciliationTables.Approves
    simp only [hallocations, hmatched]
    exact h.within_amount side source amount hamount

/-- A new match has no allocations. -/
theorem conserved_insertMatch_iff (hc : t.Consistent) (h : Conserved amounts t)
    {row : ReconciliationMatch} (hok : insertMatch t row = .ok t') :
    Conserved amounts t' ↔ MeetsConservation amounts t (.insertMatch row) := by
  obtain ⟨rfl, hkey, _, _, _, _⟩ := insertMatch_eq_ok hok
  have hfresh : ∀ side, ∀ a ∈ t.allocations side,
      a.reconciliationMatchId ≠ row.reconciliationMatchId := by
    intro side a ha hid
    obtain ⟨found, hfound, hfid⟩ := hc.allocation_match side a ha
    exact hkey found hfound (hfid.trans hid)
  constructor
  · intro h' candidate hcandidate
    exact h'.match_of_candidate row (List.mem_append_right _ List.mem_cons_self) candidate
      hcandidate
  · intro hmeets
    constructor
    · intro other hother
      rcases List.mem_append.mp hother with hother | hother
      · exact h.match_of_candidate other hother
      · rw [List.mem_singleton.mp hother]
        exact hmeets
    · intro side a ha found hfound hid
      rcases List.mem_append.mp hfound with hfound | hfound
      · exact h.allocation_of_match side a ha found hfound hid
      · rw [List.mem_singleton.mp hfound] at hid
        exact absurd hid.symm (hfresh side a ha)
    · intro other hother happroved
      rcases List.mem_append.mp hother with hother | hother
      · exact h.balanced other hother happroved
      · rw [List.mem_singleton.mp hother]
        have hzero : ∀ side, t.allocatedBy side row.reconciliationMatchId = 0 := by
          intro side
          apply total_eq_zero
          intro a ha
          rw [List.mem_filter, decide_eq_true_eq] at ha
          exact absurd ha.2 (hfresh side a ha.1)
        exact (hzero .statement).trans (hzero .journal).symm
    · intro side source amount hamount
      refine le_trans (le_of_eq ?_) (h.within_amount side source amount hamount)
      unfold ReconciliationTables.consumed
      apply congrArg
      apply List.filter_congr
      intro a ha
      simp only [decide_eq_decide]
      apply and_congr_right
      intro _
      show (∃ r ∈ t.matched ++ [row], _) ↔ ∃ r ∈ t.matched, _
      constructor
      · rintro ⟨r, hr, hid, happroved⟩
        rcases List.mem_append.mp hr with hr | hr
        · exact ⟨r, hr, hid, happroved⟩
        · rw [List.mem_singleton.mp hr] at hid
          exact absurd hid.symm (hfresh side a ha)
      · exact exists_mem_append_left _

theorem update_allocations (side s : AllocationSide) (row : MatchAllocation) :
    Function.update t.allocations side (t.allocations side ++ [row]) s =
      t.allocations s ++ if s = side then [row] else [] := by
  by_cases hs : s = side
  · subst hs
    rw [Function.update_self, if_pos rfl]
  · rw [Function.update_of_ne hs, if_neg hs, List.append_nil]

/-- An allocation of a match that is not approved counts for nothing yet; one of an approved
    match unbalances it. -/
theorem conserved_insertAllocation_iff (h : Conserved amounts t)
    {side : AllocationSide} {row : MatchAllocation} (hok : insertAllocation t side row = .ok t') :
    Conserved amounts t' ↔ MeetsConservation amounts t (.insertAllocation side row) := by
  obtain ⟨rfl, hamount, _, _⟩ := insertAllocation_eq_ok hok
  constructor
  · intro h' found hfound hid
    refine ⟨h'.allocation_of_match side row ?_ found hfound hid, ?_⟩
    · show row ∈ Function.update t.allocations side _ side
      rw [update_allocations, if_pos rfl]
      exact List.mem_append_right _ List.mem_cons_self
    · intro happroved
      have hbefore := h.balanced found hfound happroved
      have hafter := h'.balanced found hfound happroved
      simp only [ReconciliationTables.allocatedBy, update_allocations, List.filter_append,
        total_append] at hbefore hafter
      have hone : total MatchAllocation.allocatedAmount ([row].filter fun a =>
          a.reconciliationMatchId = found.reconciliationMatchId) = row.allocatedAmount := by
        rw [List.filter_cons_of_pos (by simp [hid])]
        simp
      cases side
      · simp only [if_true, hone, reduceCtorEq, if_false, List.filter_nil, total_nil] at hafter
        omega
      · simp only [if_true, hone, reduceCtorEq, if_false, List.filter_nil, total_nil] at hafter
        omega
  · intro hmeets
    have hpending : ¬t.Approves row.reconciliationMatchId := by
      rintro ⟨found, hfound, hid, happroved⟩
      exact (hmeets found hfound hid).2 happroved
    have hadded : ∀ s (p : MatchAllocation → Prop) [DecidablePred p], ¬p row →
        total MatchAllocation.allocatedAmount
          ((Function.update t.allocations side (t.allocations side ++ [row]) s).filter
            fun a => p a) =
        total MatchAllocation.allocatedAmount ((t.allocations s).filter fun a => p a) := by
      intro s p _ hp
      rw [update_allocations, List.filter_append, total_append]
      by_cases hs : s = side
      · simp [hs, hp]
      · simp [hs]
    constructor
    · exact h.match_of_candidate
    · intro s a ha found hfound hid
      dsimp only at ha
      rw [update_allocations] at ha
      rcases List.mem_append.mp ha with ha | ha
      · exact h.allocation_of_match s a ha found hfound hid
      · have hrow : a = row := by
          by_cases hs : s = side
          · simpa [hs] using ha
          · simp [hs] at ha
        subst hrow
        exact (hmeets found hfound hid).1
    · intro other hother happroved
      have hne : ¬row.reconciliationMatchId = other.reconciliationMatchId := fun hid =>
        hpending ⟨other, hother, hid.symm, happroved⟩
      have hsame : ∀ s, total MatchAllocation.allocatedAmount
          ((Function.update t.allocations side (t.allocations side ++ [row]) s).filter
            fun a => a.reconciliationMatchId = other.reconciliationMatchId) =
          t.allocatedBy s other.reconciliationMatchId := fun s => hadded s _ hne
      exact (hsame .statement).trans ((h.balanced other hother happroved).trans
        (hsame .journal).symm)
    · intro s source amount hsource
      refine le_trans (le_of_eq ?_) (h.within_amount s source amount hsource)
      exact hadded s (fun a => a.source = source ∧ t.Approves a.reconciliationMatchId)
        fun hp => hpending hp.2

/-- Who approves what after a status update. -/
theorem approves_updated {id : ℕ} {status : MatchStatus} (other : ℕ) :
    ReconciliationTables.Approves { t with matched := updatedMatches t.matched id status } other ↔
      (other ≠ id ∧ t.Approves other) ∨
        (other = id ∧ status = .approved ∧ ∃ old ∈ t.matched, old.reconciliationMatchId = id) := by
  unfold ReconciliationTables.Approves
  constructor
  · rintro ⟨row, hrow, rfl, happroved⟩
    rcases mem_updatedMatches.mp hrow with ⟨hrow, hid⟩ | ⟨old, hold, hid, rfl⟩
    · exact Or.inl ⟨hid, row, hrow, rfl, happroved⟩
    · exact Or.inr ⟨hid, happroved, old, hold, hid⟩
  · rintro (⟨hid, row, hrow, rfl, happroved⟩ | ⟨rfl, rfl, old, hold, rfl⟩)
    · exact ⟨row, mem_updatedMatches.mpr (Or.inl ⟨hrow, hid⟩), rfl, happroved⟩
    · exact ⟨old.withStatus .approved, mem_updatedMatches.mpr (Or.inr ⟨old, hold, rfl, rfl⟩),
        rfl, rfl⟩

/-- A status update that approves nothing new consumes nothing new. -/
theorem consumed_updated_le {id : ℕ} {status : MatchStatus}
    (hold : status = .approved → (∃ old ∈ t.matched, old.reconciliationMatchId = id) →
      t.Approves id) (side : AllocationSide) (source : ℕ × String) :
    ReconciliationTables.consumed { t with matched := updatedMatches t.matched id status } side
      source ≤ t.consumed side source := by
  unfold ReconciliationTables.consumed
  rw [total_filter, total_filter]
  apply total_mono
  intro a _
  simp only [decide_eq_true_eq, approves_updated]
  by_cases hbefore : a.source = source ∧ t.Approves a.reconciliationMatchId
  · rw [if_pos hbefore]
    split
    · exact Nat.le_refl _
    · exact Nat.zero_le _
  · rw [if_neg hbefore, if_neg]
    rintro ⟨hsource, ⟨_, hkeep⟩ | ⟨hid, happroved, hrow⟩⟩
    · exact hbefore ⟨hsource, hkeep⟩
    · exact hbefore ⟨hsource, hid ▸ hold happroved hrow⟩

/-- An approval consumes what its match allocates. -/
theorem consumed_approved {id : ℕ} {old : ReconciliationMatch} (hold : old ∈ t.matched)
    (hid : old.reconciliationMatchId = id) (hpending : ¬t.Approves id) (side : AllocationSide)
    (source : ℕ × String) :
    ReconciliationTables.consumed { t with matched := updatedMatches t.matched id .approved } side
      source = t.consumed side source + t.allocatedOf side id source := by
  unfold ReconciliationTables.consumed ReconciliationTables.allocatedOf
  rw [total_filter, total_filter, total_filter, ← total_add]
  apply total_congr
  intro a _
  simp only [decide_eq_true_eq, approves_updated]
  by_cases hsource : a.source = source
  · by_cases ha : a.reconciliationMatchId = id
    · simp [hsource, ha, hpending, show ∃ old ∈ t.matched, old.reconciliationMatchId = id from
        ⟨old, hold, hid⟩]
    · simp [hsource, ha]
  · simp [hsource]

theorem conserved_updateMatch_iff (hc : t.Consistent) (h : Conserved amounts t) {id : ℕ}
    {status : MatchStatus} (hok : updateMatch t id status = .ok t') :
    Conserved amounts t' ↔ MeetsConservation amounts t (.updateMatch id status) := by
  obtain ⟨rfl, _⟩ := updateMatch_eq_ok hok
  -- The identifier is a key, so an approval of it is of this row.
  have hpending : ∀ old ∈ t.matched, old.reconciliationMatchId = id → ¬old.IsApproved →
      ¬t.Approves id := by
    rintro old hold hid hnot ⟨row, hrow, hrid, happroved⟩
    have heq : row = old := List.inj_on_of_nodup_map hc.match_key hrow hold (hrid.trans hid.symm)
    exact hnot (heq ▸ happroved)
  constructor
  · intro h'
    cases status with
    | proposed => trivial
    | rejected => trivial
    | superseded => trivial
    | approved =>
      intro old hold hid hnot
      have hnew : old.withStatus .approved ∈ updatedMatches t.matched id .approved :=
        mem_updatedMatches.mpr (Or.inr ⟨old, hold, hid, rfl⟩)
      refine ⟨?_, fun side source amount hamount => ?_⟩
      · have hbalanced := h'.balanced _ hnew rfl
        exact hid ▸ hbalanced
      · rw [← consumed_approved hold hid (hpending old hold hid hnot)]
        exact h'.within_amount side source amount hamount
  · intro hmeets
    constructor
    · exact ReconciliationTables.Consistent.forall_updated (fun _ h => h) h.match_of_candidate
    · intro side row hrow
      exact ReconciliationTables.Consistent.forall_updated (fun _ h => h)
        (h.allocation_of_match side row hrow)
    · intro row hrow happroved
      rcases mem_updatedMatches.mp hrow with ⟨hrow, _⟩ | ⟨old, hold, hid, rfl⟩
      · exact h.balanced row hrow happroved
      · obtain rfl : status = .approved := happroved
        by_cases hwas : old.IsApproved
        · exact h.balanced old hold hwas
        · have hbalanced := (hmeets old hold hid hwas).1
          rw [← hid] at hbalanced
          exact hbalanced
    · intro side source amount hamount
      by_cases hnew : status = .approved ∧ ∃ old ∈ t.matched,
          old.reconciliationMatchId = id ∧ ¬old.IsApproved
      · obtain ⟨rfl, old, hold, hid, hnot⟩ := hnew
        rw [consumed_approved hold hid (hpending old hold hid hnot)]
        exact (hmeets old hold hid hnot).2 side source amount hamount
      · refine le_trans (consumed_updated_le ?_ side source) (h.within_amount side source amount
          hamount)
        rintro rfl ⟨old, hold, hid⟩
        refine ⟨old, hold, hid, ?_⟩
        by_contra hnot
        exact hnew ⟨rfl, old, hold, hid, hnot⟩

/-- A write keeps conservation exactly when it is checked. -/
theorem conserved_write_iff (hc : t.Consistent) (h : Conserved amounts t)
    (w : ReconciliationWrite) :
    Conserved amounts (write scopes t w) ↔ Checked scopes amounts t w := by
  unfold write Checked
  split
  · next t' hok =>
    have hsucceeds : Succeeds (applyWrite scopes t w) := ⟨t', hok⟩
    rw [show (Succeeds (applyWrite scopes t w) → MeetsConservation amounts t w) ↔ _ from
      ⟨fun f => f hsucceeds, fun f _ => f⟩]
    cases w with
    | insertRun row =>
      rw [insertRun_eq_ok hok]
      exact iff_of_true (h.of_same rfl rfl fun _ _ _ hcandidate _ => hcandidate) trivial
    | updateRun id scope status =>
      obtain ⟨runs, rfl, _⟩ := updateRun_eq_ok hok
      exact iff_of_true (h.of_same rfl rfl fun _ _ _ hcandidate _ => hcandidate) trivial
    | insertCandidate row =>
      obtain ⟨rfl, hkey, _⟩ := insertCandidate_eq_ok hok
      refine iff_of_true (h.of_same rfl rfl ?_) trivial
      intro found hfound candidate hcandidate hid
      rcases List.mem_append.mp hcandidate with hcandidate | hcandidate
      · exact hcandidate
      · obtain ⟨other, hother, hoid⟩ := hc.match_candidate found hfound
        rw [List.mem_singleton.mp hcandidate] at hid
        exact absurd (hoid.trans hid.symm) (hkey other hother)
    | insertMatch row => exact conserved_insertMatch_iff hc h hok
    | updateMatch id status => exact conserved_updateMatch_iff hc h hok
    | insertAllocation side row => exact conserved_insertAllocation_iff h hok
  · next e herror =>
    refine iff_of_true h ?_
    rintro ⟨t', hok⟩
    rw [herror] at hok
    cases hok

/-! ## Sequences of writes -/

/-- The tables after a sequence of writes. -/
def written (scopes : BankScopes) (writes : List ReconciliationWrite) : ReconciliationTables :=
  run (write scopes) .empty writes

theorem consistent_written (scopes : BankScopes) (writes : List ReconciliationWrite) :
    (written scopes writes).Consistent :=
  run_monotone (P := ReconciliationTables.Consistent) (fun _ w hc => hc.write w)
    ReconciliationTables.consistent_empty

/-- Conservation holds all along a sequence exactly when every write of it is checked. -/
theorem conserved_all_along_iff (scopes : BankScopes) (amounts : SourceAmounts)
    (writes : List ReconciliationWrite) :
    (∀ before, before <+: writes → Conserved amounts (written scopes before)) ↔
      AdmittedRun (write scopes) (Checked scopes amounts) .empty writes :=
  forall_prefix_iff_admittedRun (P := Conserved amounts)
    (fun (_ : ReconciliationTables) w hc => ReconciliationTables.Consistent.write hc w)
    (fun _ w hc h => conserved_write_iff hc h w) ReconciliationTables.consistent_empty
    (conserved_empty amounts) writes

/-- Several statement entries of one run each have an approved match. -/
def ReconciliationTables.SeveralApproved (t : ReconciliationTables) : Prop :=
  ∃ row ∈ t.matched, ∃ other ∈ t.matched, row.IsApproved ∧ other.IsApproved ∧
    other.toRunKey = row.toRunKey ∧ ∃ candidate ∈ t.candidates, ∃ candidate' ∈ t.candidates,
      candidate.reconciliationCandidateId = row.reconciliationCandidateId ∧
      candidate'.reconciliationCandidateId = other.reconciliationCandidateId ∧
      candidate.statementEntryReference ≠ candidate'.statementEntryReference

/-- The index leaves a run one approved match, and with it one approved candidate. -/
theorem ReconciliationTables.Consistent.not_severalApproved (hc : t.Consistent) :
    ¬t.SeveralApproved := by
  rintro ⟨row, hrow, other, hother, happroved, happroved', hscope, candidate, hcandidate,
    candidate', hcandidate', hid, hid', hentries⟩
  have hsame : other = row := List.inj_on_of_nodup_map hc.match_key hother hrow
    (hc.approved_single row hrow other hother happroved happroved' hscope)
  subst hsame
  have hcandidates : candidate = candidate' :=
    List.inj_on_of_nodup_map hc.candidate_key hcandidate hcandidate' (hid.trans hid'.symm)
  exact hentries (congrArg _ hcandidates)

def oneBankScope : BankScopes where
  legalEntities := [(1, 1)]
  accountingBooks := [(1, 1, 1)]
  assignments := [(1, 1, 1, 1)]

/-- A run, its candidate for the entry and the journal, the match, both allocations and the
    approval. -/
def approvedEntryWrites (run : ℕ) : List ReconciliationWrite :=
  [.insertRun ⟨run, ⟨1, 1, 1, 1, "KRW", 0, 0, "policy-v1", 0⟩, .evaluating⟩,
    .insertCandidate ⟨⟨1, run⟩, run, "entry-1", "journal-1", 100000000, 100000000, "amount_date"⟩,
    .insertMatch ⟨⟨1, run⟩, run, run, .proposed⟩,
    .insertAllocation .statement ⟨⟨1, run⟩, run, run, "entry-1", 100000000⟩,
    .insertAllocation .journal ⟨⟨1, run⟩, run, run, "journal-1", 100000000⟩,
    .updateMatch run .approved]

/-- The entry and the journal are of 100. -/
def hundredEach : SourceAmounts := fun _ source =>
  if source = (1, "entry-1") ∨ source = (1, "journal-1") then some 100000000 else none

end AccountingPlatform.Bank
