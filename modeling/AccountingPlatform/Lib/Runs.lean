/-
  Runs of a machine: a list of commands executed one after the other.

  `run_invariant` is the induction every safety result over runs uses; `run_monotone` is its
  counterpart for facts that, once true, stay true.
-/
import Mathlib.Data.List.Basic
import Mathlib.Data.List.Induction
import Mathlib.Tactic.Common

namespace AccountingPlatform.Lib

universe u v
variable {σ : Type u} {κ : Type v} (step : σ → κ → σ)

/-- The state after the commands, in order. -/
def run (s : σ) (commands : List κ) : σ := commands.foldl step s

@[simp] theorem run_nil (s : σ) : run step s [] = s := rfl

@[simp] theorem run_cons (s : σ) (c : κ) (cs : List κ) : run step s (c :: cs) = run step (step s c) cs :=
  rfl

theorem run_append (s : σ) (cs ds : List κ) :
    run step s (cs ++ ds) = run step (run step s cs) ds := by
  simp [run]

theorem run_concat (s : σ) (cs : List κ) (c : κ) :
    run step s (cs ++ [c]) = step (run step s cs) c := by
  simp [run]

variable {step}

/-- An invariant of the initial state that every admitted step keeps holds after every run. -/
theorem run_invariant {Inv : σ → Prop} {Admitted : κ → Prop}
    (hstep : ∀ s c, Admitted c → Inv s → Inv (step s c)) {s : σ} {cs : List κ}
    (hadm : ∀ c ∈ cs, Admitted c) (h : Inv s) : Inv (run step s cs) := by
  induction cs generalizing s with
  | nil => exact h
  | cons c cs ih =>
    exact ih (fun d hd => hadm d (List.mem_cons_of_mem c hd))
      (hstep s c (hadm c List.mem_cons_self) h)

/-- A fact no step destroys survives every run. -/
theorem run_monotone {P : σ → Prop} (hstep : ∀ s c, P s → P (step s c)) {s : σ} {cs : List κ}
    (h : P s) : P (run step s cs) := by
  have hadm : ∀ c ∈ cs, (fun _ : κ => True) c := fun _ _ => trivial
  exact run_invariant (fun s c _ => hstep s c) hadm h

variable (step) in
/-- Runs whose steps are admitted in the state they start from. -/
inductive AdmittedRun (Admitted : σ → κ → Prop) : σ → List κ → Prop
  | nil (s : σ) : AdmittedRun Admitted s []
  | cons {s : σ} {c : κ} {cs : List κ} (h : Admitted s c) (rest : AdmittedRun Admitted (step s c) cs) :
      AdmittedRun Admitted s (c :: cs)

theorem admittedRun_invariant {Inv : σ → Prop} {Admitted : σ → κ → Prop}
    (hstep : ∀ s c, Admitted s c → Inv s → Inv (step s c)) {s : σ} {cs : List κ}
    (hrun : AdmittedRun step Admitted s cs) (h : Inv s) : Inv (run step s cs) := by
  induction hrun with
  | nil s => exact h
  | cons hc _ ih => exact ih (hstep _ _ hc h)

/-- Conditions that agree on reachable states admit the same runs. -/
theorem admittedRun_congr {Inv : σ → Prop} {Admitted Admitted' : σ → κ → Prop}
    (hinv : ∀ s c, Inv s → Inv (step s c))
    (hiff : ∀ s c, Inv s → (Admitted s c ↔ Admitted' s c)) {s : σ} (h : Inv s) (cs : List κ) :
    AdmittedRun step Admitted s cs ↔ AdmittedRun step Admitted' s cs := by
  induction cs generalizing s with
  | nil => exact iff_of_true (.nil s) (.nil s)
  | cons c cs ih =>
    constructor
    · intro hrun
      cases hrun with
      | cons hc rest => exact .cons ((hiff s c h).mp hc) ((ih (hinv s c h)).mp rest)
    · intro hrun
      cases hrun with
      | cons hc rest => exact .cons ((hiff s c h).mpr hc) ((ih (hinv s c h)).mpr rest)

theorem admittedRun_append_iff {Admitted : σ → κ → Prop} {s : σ} {cs ds : List κ} :
    AdmittedRun step Admitted s (cs ++ ds) ↔
      AdmittedRun step Admitted s cs ∧ AdmittedRun step Admitted (run step s cs) ds := by
  induction cs generalizing s with
  | nil => exact (and_iff_right (.nil s)).symm
  | cons c cs ih =>
    constructor
    · intro h
      cases h with
      | cons hc rest => exact ⟨.cons hc (ih.mp rest).1, (ih.mp rest).2⟩
    · rintro ⟨h, hds⟩
      cases h with
      | cons hc rest => exact .cons hc (ih.mpr ⟨rest, hds⟩)

theorem admittedRun_concat_iff {Admitted : σ → κ → Prop} {s : σ} {cs : List κ} {c : κ} :
    AdmittedRun step Admitted s (cs ++ [c]) ↔
      AdmittedRun step Admitted s cs ∧ Admitted (run step s cs) c := by
  rw [admittedRun_append_iff]
  apply and_congr_right
  intro _
  constructor
  · intro h
    cases h with
    | cons hc _ => exact hc
  · intro hc
    exact .cons hc (.nil _)

/-- A property holds all along a run exactly when every step is admitted, if a step from a
    state with the property leads to one exactly when it is admitted. -/
theorem forall_prefix_iff_admittedRun {Admitted : σ → κ → Prop} {Inv P : σ → Prop}
    (hinv : ∀ s c, Inv s → Inv (step s c))
    (hstep : ∀ s c, Inv s → P s → (P (step s c) ↔ Admitted s c)) {s : σ} (h : Inv s) (hs : P s)
    (cs : List κ) :
    (∀ ds, ds <+: cs → P (run step s ds)) ↔ AdmittedRun step Admitted s cs := by
  induction cs using List.reverseRecOn with
  | nil =>
    refine ⟨fun _ => .nil s, fun _ ds hds => ?_⟩
    rw [List.prefix_nil.mp hds]
    exact hs
  | append_singleton cs c ih =>
    rw [admittedRun_concat_iff, ← ih]
    have hrun : Inv (run step s cs) := run_monotone hinv h
    constructor
    · intro hall
      have hcs : P (run step s cs) := hall cs (List.prefix_append _ _)
      refine ⟨fun ds hds => hall ds (hds.trans (List.prefix_append _ _)), ?_⟩
      rw [← hstep _ c hrun hcs, ← run_concat step]
      exact hall _ (List.prefix_refl _)
    · rintro ⟨hall, hc⟩ ds hds
      rcases List.prefix_concat_iff.mp hds with rfl | hds
      · rw [run_concat]
        exact (hstep _ c hrun (hall cs (List.prefix_refl _))).mpr hc
      · exact hall ds hds

/-! ## Steps and what came before them -/

/-- `P` holds of every step of the run and the commands before it. -/
def EveryStep (P : List κ → κ → Prop) (cs : List κ) : Prop :=
  ∀ before c, before ++ [c] <+: cs → P before c

theorem everyStep_concat_iff {P : List κ → κ → Prop} {cs : List κ} {c : κ} :
    EveryStep P (cs ++ [c]) ↔ EveryStep P cs ∧ P cs c := by
  constructor
  · intro h
    refine ⟨fun before d hd => h before d (hd.trans (List.prefix_append _ _)), ?_⟩
    exact h cs c (List.prefix_refl _)
  · rintro ⟨h, hc⟩ before d hd
    rcases List.prefix_concat_iff.mp hd with heq | hd
    · obtain ⟨rfl, hdc⟩ := List.append_inj' heq rfl
      cases hdc
      exact hc
    · exact h before d hd

/-- Two step properties that agree at every step of a run after which the first one held so far
    agree on the run. -/
theorem everyStep_iff_of_initial {P Q : List κ → κ → Prop} {cs : List κ}
    (h : ∀ before c, before ++ [c] <+: cs → EveryStep P before → (P before c ↔ Q before c)) :
    EveryStep P cs ↔ EveryStep Q cs := by
  induction cs using List.reverseRecOn with
  | nil =>
    refine iff_of_true (fun before c hc => ?_) (fun before c hc => ?_)
    · exact absurd (List.prefix_nil.mp hc) (by simp)
    · exact absurd (List.prefix_nil.mp hc) (by simp)
  | append_singleton cs c ih =>
    rw [everyStep_concat_iff, everyStep_concat_iff,
      ← ih fun before d hd => h before d (hd.trans (List.prefix_append _ _))]
    exact and_congr_right (h cs c (List.prefix_refl _))

/-- Two step properties that agree after a run that has the first one agree on whole runs. -/
theorem everyStep_iff {P Q : List κ → κ → Prop}
    (h : ∀ before c, EveryStep P before → (P before c ↔ Q before c)) (cs : List κ) :
    EveryStep P cs ↔ EveryStep Q cs :=
  everyStep_iff_of_initial fun before c _ => h before c

end AccountingPlatform.Lib
