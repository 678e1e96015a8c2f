/-
  Domains of a machine that do not interfere.

  A machine answers each command and moves on. Every command belongs to a domain, and a domain
  sees part of the state. If commands of other domains leave that part alone and commands of
  the domain read nothing else, then the domain gets the answers it would have got alone:
  the run with every other command purged.
-/
import AccountingPlatform.Lib.Runs

namespace AccountingPlatform.Lib

universe u v w x
variable {σ : Type u} {κ : Type v} {ω : Type w} {δ : Type x}

/-- The commands of a run with the answers they got, in order. -/
def answers (step : σ → κ → ω × σ) (s : σ) : List κ → List (κ × ω)
  | [] => []
  | c :: cs => (c, (step s c).1) :: answers step (step s c).2 cs

/-- The state a run of answered commands leaves behind. -/
def after (step : σ → κ → ω × σ) (s : σ) (cs : List κ) : σ := run (fun s c => (step s c).2) s cs

variable [DecidableEq δ]

/-- The commands of one domain. -/
def purge (domain : κ → δ) (d : δ) (cs : List κ) : List κ := cs.filter fun c => domain c = d

/-- What the domains see of a state is theirs alone. -/
structure Isolates (step : σ → κ → ω × σ) (domain : κ → δ) (Inv : σ → Prop) (view : δ → σ → σ) :
    Prop where
  kept : ∀ {s} c, Inv s → Inv (step s c).2
  foreign : ∀ {d s} c, Inv s → domain c ≠ d → view d (step s c).2 = view d s
  own : ∀ {s} c, Inv s →
    step (view (domain c) s) c = ((step s c).1, view (domain c) (step s c).2)

variable {step : σ → κ → ω × σ} {domain : κ → δ} {Inv : σ → Prop} {view : δ → σ → σ}

theorem purge_cons_of_own {d : δ} {c : κ} (h : domain c = d) (cs : List κ) :
    purge domain d (c :: cs) = c :: purge domain d cs := by
  simp [purge, h]

theorem purge_cons_of_foreign {d : δ} {c : κ} (h : domain c ≠ d) (cs : List κ) :
    purge domain d (c :: cs) = purge domain d cs := by
  simp [purge, h]

/-- A domain's view of a run is the run of its own commands from its view of the start. -/
theorem Isolates.view_after (h : Isolates step domain Inv view) (d : δ) {s : σ} (hs : Inv s)
    (cs : List κ) : view d (after step s cs) = after step (view d s) (purge domain d cs) := by
  induction cs generalizing s with
  | nil => rfl
  | cons c cs ih =>
    show view d (after step (step s c).2 cs) = _
    rw [ih (h.kept c hs)]
    by_cases hc : domain c = d
    · subst hc
      rw [purge_cons_of_own rfl]
      show _ = after step (step (view (domain c) s) c).2 _
      rw [h.own c hs]
    · rw [purge_cons_of_foreign hc, h.foreign c hs hc]

/-- A domain gets the answers of the run of its own commands. -/
theorem Isolates.answers_own (h : Isolates step domain Inv view) (d : δ) {s : σ} (hs : Inv s)
    (cs : List κ) :
    (answers step s cs).filter (fun a => domain a.1 = d) =
      answers step (view d s) (purge domain d cs) := by
  induction cs generalizing s with
  | nil => rfl
  | cons c cs ih =>
    have hrest := ih (h.kept c hs)
    rw [answers, List.filter_cons, hrest]
    by_cases hc : domain c = d
    · subst hc
      rw [if_pos (decide_eq_true rfl), purge_cons_of_own rfl, answers, h.own c hs]
    · rw [if_neg (by simpa using hc), purge_cons_of_foreign hc, h.foreign c hs hc]

end AccountingPlatform.Lib
