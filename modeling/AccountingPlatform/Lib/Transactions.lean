/-
  Transactions that run side by side under READ COMMITTED.

  A program is a sequence of statements. A query sees what is committed and the rows of its own
  transaction, an insert adds rows no other transaction sees before the commit, and an insert
  whose unique key another running transaction holds waits for that one. `Store` says how rows
  are added and which keys they carry.

  `Program.Runs` is the weakest precondition of a program whose statements are interleaved with
  the commits of others: `Rely.grows` bounds what these change. `Rely.reachable_safe` turns
  one proof a program into an invariant of every interleaving.
-/
import AccountingPlatform.Lib.Outcome
import Mathlib.Data.List.Nodup
import Mathlib.Data.List.Perm.Basic
import Mathlib.Logic.Relation
import Mathlib.Tactic.Common

namespace AccountingPlatform.Lib

/-! ## Programs -/

/-- Statements one after another, and an answer or an error at the end. -/
inductive Program (σ δ ε α : Type) : Type 1
  | finish (result : Except ε α)
  | lock (scope : String) (next : Program σ δ ε α)
  | query {β : Type} (read : σ → Except ε β) (next : β → Program σ δ ε α)
  | insert {β : Type} (write : σ → Except ε (β × δ)) (next : β → Program σ δ ε α)

variable {σ δ ε α β γ : Type}

namespace Program

/-- Go on with the answer of a program. -/
def andThen : Program σ δ ε α → (α → Program σ δ ε β) → Program σ δ ε β
  | finish (.ok a), k => k a
  | finish (.error e), _ => finish (.error e)
  | lock scope next, k => lock scope (next.andThen k)
  | query read next, k => query read fun b => (next b).andThen k
  | insert write next, k => insert write fun b => (next b).andThen k

instance monad : Monad (Program σ δ ε) where
  pure a := finish (.ok a)
  bind := andThen

/-- One SELECT. -/
def ask (read : σ → Except ε β) : Program σ δ ε β := query read fun b => finish (.ok b)

/-- A check of what was read. -/
def check (result : Except ε β) : Program σ δ ε β := finish result

/-- One INSERT. -/
def add (write : σ → Except ε (β × δ)) : Program σ δ ε β := insert write fun b => finish (.ok b)

/-- `pg_advisory_xact_lock`. -/
def acquire (scope : String) : Program σ δ ε Unit := lock scope (finish (.ok ()))

/-- No insert on any way through. -/
def ReadOnly : Program σ δ ε α → Prop
  | finish _ => True
  | lock _ next => next.ReadOnly
  | query _ next => ∀ b, (next b).ReadOnly
  | insert _ _ => False

theorem readOnly_check (result : Except ε α) : (check result : Program σ δ ε α).ReadOnly := trivial

theorem readOnly_ask (read : σ → Except ε β) : (ask read : Program σ δ ε β).ReadOnly :=
  fun _ => trivial

theorem readOnly_acquire (scope : String) : (acquire scope : Program σ δ ε Unit).ReadOnly := trivial

theorem readOnly_andThen {p : Program σ δ ε α} {k : α → Program σ δ ε β} (hp : p.ReadOnly)
    (hk : ∀ a, (k a).ReadOnly) : (p >>= k).ReadOnly := by
  induction p with
  | finish result =>
    cases result with
    | error e => trivial
    | ok a => exact hk a
  | lock scope next ih => exact ih hp
  | query read next ih => exact fun b => ih b (hp b)
  | insert write next ih => exact hp.elim

end Program

/-! ## Stores -/

/-- How the rows of a transaction get into the tables. `draw` is what an insert uses up for
good, committed or not; `tick` is what a commit changes beside the rows; `Key` names the
unique keys. -/
structure Store (σ δ : Type) where
  none : δ
  append : δ → δ → δ
  view : σ → δ → σ
  draw : σ → δ → σ
  tick : σ → σ
  Key : Type
  Value : Key → Type
  committed : (k : Key) → σ → List (Value k)
  pending : (k : Key) → δ → List (Value k)
  view_none : ∀ s, view s none = s
  view_append : ∀ s d e, view s (append d e) = view (view s d) e
  draw_view : ∀ s d e, draw (view s d) e = view (draw s e) d
  pending_none : ∀ k, pending k none = []
  pending_append : ∀ k d e, pending k (append d e) = pending k d ++ pending k e
  committed_view : ∀ k s d, committed k (view s d) = committed k s ++ pending k d
  committed_draw : ∀ k s d, committed k (draw s d) = committed k s
  committed_tick : ∀ k s, committed k (tick s) = committed k s

variable (S : Store σ δ)

/-- A program with nothing beside it. -/
def Program.alone : Program σ δ ε α → σ → Except ε (α × σ)
  | finish result, s => result.map fun a => (a, s)
  | lock _ next, s => next.alone s
  | query read next, s => read s >>= fun b => (next b).alone s
  | insert write next, s => write s >>= fun r => (next r.1).alone (S.draw (S.view s r.2) r.2)

namespace Program

theorem alone_andThen (p : Program σ δ ε α) (k : α → Program σ δ ε β) (s : σ) :
    (p >>= k).alone S s = p.alone S s >>= fun r => (k r.1).alone S r.2 := by
  induction p generalizing s with
  | finish result =>
    cases result with
    | error e => rfl
    | ok a => rfl
  | lock scope next ih => exact ih s
  | query read next ih =>
    show (read s >>= fun b => ((next b) >>= k).alone S s) = (read s >>= fun b => (next b).alone S s) >>= _
    rw [bind_assoc]
    exact congrArg _ (funext fun b => ih b s)
  | insert write next ih =>
    show (write s >>= fun r => ((next r.1) >>= k).alone S (S.draw (S.view s r.2) r.2)) =
      (write s >>= fun r => (next r.1).alone S (S.draw (S.view s r.2) r.2)) >>= _
    rw [bind_assoc]
    exact congrArg _ (funext fun r => ih r.1 _)

theorem alone_pure (a : α) (s : σ) : (pure a : Program σ δ ε α).alone S s = .ok (a, s) := rfl

theorem alone_check (result : Except ε α) (s : σ) :
    (check result : Program σ δ ε α).alone S s = result >>= fun a => .ok (a, s) := by
  cases result with
  | error e => rfl
  | ok a => rfl

theorem alone_ask (read : σ → Except ε β) (s : σ) :
    (ask read : Program σ δ ε β).alone S s = read s >>= fun b => .ok (b, s) := rfl

theorem alone_acquire (scope : String) (s : σ) :
    (acquire scope : Program σ δ ε Unit).alone S s = .ok ((), s) := rfl

theorem alone_add (write : σ → Except ε (β × δ)) (s : σ) :
    (add write).alone S s = write s >>= fun r => .ok (r.1, S.draw (S.view s r.2) r.2) := rfl

end Program

/-- The tables with the rows of a transaction. -/
def Store.commit (s : σ) (d : δ) : σ := S.tick (S.view s d)

theorem Store.committed_commit (k : S.Key) (s : σ) (d : δ) :
    S.committed k (S.commit s d) = S.committed k s ++ S.pending k d := by
  rw [Store.commit, S.committed_tick, S.committed_view]

/-! ## Interleavings -/

structure Transaction (σ δ ε α : Type) where
  program : Program σ δ ε α
  rows : δ
  locks : List String

structure World (σ δ ε α : Type) where
  committed : σ
  running : List (Transaction σ δ ε α)

namespace Store

/-- A unique key keeps the rows apart. -/
def Clash (d e : δ) : Prop := ∃ k, ∃ v ∈ S.pending k d, v ∈ S.pending k e

/-- One step of one transaction; `admitted` are the programs that may begin. A lock that another
transaction holds waits, and so does an insert that clashes with its rows. A transaction can end
without a commit at any time. -/
inductive Step (admitted : Program σ δ ε α → Prop) : World σ δ ε α → World σ δ ε α → Prop
  | begins {s : σ} {running : List (Transaction σ δ ε α)} {p : Program σ δ ε α} (hp : admitted p) :
      Step admitted ⟨s, running⟩ ⟨s, running ++ [⟨p, S.none, []⟩]⟩
  | locks {s : σ} {before after : List (Transaction σ δ ε α)} {scope : String}
      {next : Program σ δ ε α} {d : δ} {held : List String}
      (hfree : ∀ other ∈ before ++ after, scope ∉ other.locks) :
      Step admitted ⟨s, before ++ ⟨.lock scope next, d, held⟩ :: after⟩
        ⟨s, before ++ ⟨next, d, scope :: held⟩ :: after⟩
  | queries {s : σ} {before after : List (Transaction σ δ ε α)} {β : Type}
      {read : σ → Except ε β} {next : β → Program σ δ ε α} {d : δ} {held : List String} {b : β}
      (hread : read (S.view s d) = .ok b) :
      Step admitted ⟨s, before ++ ⟨.query read next, d, held⟩ :: after⟩
        ⟨s, before ++ ⟨next b, d, held⟩ :: after⟩
  | inserts {s : σ} {before after : List (Transaction σ δ ε α)} {β : Type}
      {write : σ → Except ε (β × δ)} {next : β → Program σ δ ε α} {d e : δ} {held : List String}
      {b : β} (hwrite : write (S.view s d) = .ok (b, e))
      (hfree : ∀ other ∈ before ++ after, ¬S.Clash e other.rows) :
      Step admitted ⟨s, before ++ ⟨.insert write next, d, held⟩ :: after⟩
        ⟨S.draw s e, before ++ ⟨next b, S.append d e, held⟩ :: after⟩
  | commits {s : σ} {before after : List (Transaction σ δ ε α)} {a : α} {d : δ}
      {held : List String} :
      Step admitted ⟨s, before ++ ⟨.finish (.ok a), d, held⟩ :: after⟩
        ⟨S.commit s d, before ++ after⟩
  | aborts {s : σ} {before after : List (Transaction σ δ ε α)} {tx : Transaction σ δ ε α} :
      Step admitted ⟨s, before ++ tx :: after⟩ ⟨s, before ++ after⟩

/-- Any number of steps of any number of transactions. -/
def Reaches (admitted : Program σ δ ε α → Prop) : World σ δ ε α → World σ δ ε α → Prop :=
  Relation.ReflTransGen (S.Step admitted)

/-- With nothing beside it a program commits what it computes alone. -/
theorem reaches_alone {admitted : Program σ δ ε α → Prop} {p : Program σ δ ε α} {s t : σ} {d : δ}
    {held : List String} {a : α} (h : p.alone S (S.view s d) = .ok (a, t)) :
    S.Reaches admitted ⟨s, [⟨p, d, held⟩]⟩ ⟨S.tick t, []⟩ := by
  induction p generalizing s d held with
  | finish result =>
    obtain ⟨a', rfl, heq⟩ := map_eq_ok.mp h
    rw [Prod.mk.injEq] at heq
    rw [← heq.2]
    have hstep : S.Step admitted ⟨s, [] ++ [⟨.finish (.ok a'), d, held⟩]⟩ ⟨S.commit s d, [] ++ []⟩ := .commits
    exact Relation.ReflTransGen.single hstep
  | lock scope next ih =>
    have hstep : S.Step admitted ⟨s, [] ++ [⟨.lock scope next, d, held⟩]⟩
        ⟨s, [] ++ [⟨next, d, scope :: held⟩]⟩ :=
      .locks fun other hother => absurd hother List.not_mem_nil
    exact Relation.ReflTransGen.head hstep (ih h)
  | query read next ih =>
    obtain ⟨b, hread, h⟩ := bind_eq_ok.mp h
    have hstep : S.Step admitted ⟨s, [] ++ [⟨.query read next, d, held⟩]⟩ ⟨s, [] ++ [⟨next b, d, held⟩]⟩ :=
      .queries hread
    exact Relation.ReflTransGen.head hstep (ih b h)
  | insert write next ih =>
    obtain ⟨r, hwrite, h⟩ := bind_eq_ok.mp h
    rw [← S.view_append, S.draw_view] at h
    have hstep : S.Step admitted ⟨s, [] ++ [⟨.insert write next, d, held⟩]⟩
        ⟨S.draw s r.2, [] ++ [⟨next r.1, S.append d r.2, held⟩]⟩ :=
      .inserts hwrite fun other hother => absurd hother List.not_mem_nil
    exact Relation.ReflTransGen.head hstep (ih r.1 h)

/-! ## Unique keys -/

/-- The unique keys of committed and pending rows. -/
def Apart (s : σ) (pending : List δ) : Prop :=
  ∀ k, (S.committed k s ++ pending.flatMap (S.pending k)).Nodup

/-- The keys of new rows are new to the tables and to the rows of the transaction. -/
def Fresh (s : σ) (d e : δ) : Prop :=
  ∀ k, (S.pending k e).Nodup ∧ ∀ v ∈ S.pending k e, v ∉ S.committed k s ∧ v ∉ S.pending k d

variable {S} {s : σ} {before after : List δ} {d e : δ}

theorem Apart.begins {pending : List δ} (h : S.Apart s pending) : S.Apart s (pending ++ [S.none]) := by
  intro k
  simpa [S.pending_none k] using h k

theorem Apart.aborts (h : S.Apart s (before ++ d :: after)) : S.Apart s (before ++ after) := by
  intro k
  refine (h k).sublist (List.Sublist.append_left ?_ _)
  rw [List.flatMap_append, List.flatMap_append, List.flatMap_cons]
  exact List.Sublist.append_left (List.sublist_append_right _ _) _

theorem Apart.own (h : S.Apart s (before ++ d :: after)) : S.Apart s [d] := by
  intro k
  refine (h k).sublist (List.Sublist.append_left ?_ _)
  rw [List.flatMap_append, List.flatMap_cons, List.flatMap_cons, List.flatMap_nil, List.append_nil]
  exact (List.sublist_append_left _ _).trans (List.sublist_append_right _ _)

theorem Apart.commits (h : S.Apart s (before ++ d :: after)) :
    S.Apart (S.commit s d) (before ++ after) := by
  intro k
  rw [S.committed_commit k]
  refine ((List.Perm.nodup_iff ?_).mp (h k))
  rw [List.flatMap_append, List.flatMap_append, List.flatMap_cons, List.append_assoc]
  refine List.Perm.append_left _ ?_
  rw [← List.append_assoc, ← List.append_assoc]
  exact List.Perm.append_right _ List.perm_append_comm

/-- New rows stay apart from everything when they are fresh and clash with nothing pending. -/
theorem Apart.inserts (h : S.Apart s (before ++ d :: after)) (hfresh : S.Fresh s d e)
    (hfree : ∀ other ∈ before ++ after, ¬S.Clash e other) :
    S.Apart (S.draw s e) (before ++ S.append d e :: after) := by
  intro k
  obtain ⟨hnodup, hnew⟩ := hfresh k
  rw [S.committed_draw k]
  have hperm : (S.committed k s ++ (before ++ S.append d e :: after).flatMap (S.pending k)).Perm
      (S.committed k s ++ (before ++ d :: after).flatMap (S.pending k) ++ S.pending k e) := by
    rw [List.append_assoc]
    refine List.Perm.append_left _ ?_
    rw [List.flatMap_append, List.flatMap_append, List.flatMap_cons, List.flatMap_cons,
      S.pending_append k, List.append_assoc, List.append_assoc, List.append_assoc]
    exact List.Perm.append_left _ (List.Perm.append_left _ List.perm_append_comm)
  refine hperm.nodup_iff.mpr (List.nodup_append.mpr ⟨h k, hnodup, ?_⟩)
  rintro v hv w hw rfl
  rcases List.mem_append.mp hv with hv | hv
  · exact (hnew v hw).1 hv
  · obtain ⟨other, hother, hvo⟩ := List.mem_flatMap.mp hv
    rcases List.mem_append.mp hother with hb | ha
    · exact hfree other (List.mem_append_left _ hb) ⟨k, v, hw, hvo⟩
    · rcases List.mem_cons.mp ha with rfl | ha
      · exact (hnew v hw).2 hvo
      · exact hfree other (List.mem_append_right _ ha) ⟨k, v, hw, hvo⟩

end Store

/-! ## Programs under interference -/

/-- What every commit keeps and how it may change the tables. -/
structure Rely (S : Store σ δ) where
  Sound : σ → Prop
  Grows : σ → σ → Prop
  refl : ∀ s, Grows s s
  trans : ∀ s t u, Grows s t → Grows t u → Grows s u
  draw_grows : ∀ s d, Grows s (S.draw s d)
  draw_sound : ∀ s d, Sound s → Sound (S.draw s d)

variable {S}

/-- The program ends in `goal`, whatever others commit between its statements. -/
def Program.Runs (R : Rely S) (goal : σ → δ → α → Prop) : σ → δ → Program σ δ ε α → Prop
  | s, d, finish (.ok a) => ∀ s', R.Grows s s' → R.Sound s' → goal s' d a
  | _, _, finish (.error _) => True
  | s, d, lock _ next => next.Runs R goal s d
  | s, d, query read next => ∀ s' b, R.Grows s s' → R.Sound s' → read (S.view s' d) = .ok b →
      (next b).Runs R goal s' d
  | s, d, insert write next => ∀ s' b e, R.Grows s s' → R.Sound s' →
      write (S.view s' d) = .ok (b, e) →
        S.Fresh s' d e ∧ (next b).Runs R goal (S.draw s' e) (S.append d e)

namespace Program

variable {R : Rely S} {goal : σ → δ → α → Prop}

/-- What is proved of a program stays good while others commit. -/
theorem Runs.grows {p : Program σ δ ε α} {s s' : σ} {d : δ} (h : p.Runs R goal s d)
    (hgrows : R.Grows s s') : p.Runs R goal s' d := by
  induction p generalizing s s' d with
  | finish result =>
    cases result with
    | error e => trivial
    | ok a => exact fun t ht hsound => h t (R.trans _ _ _ hgrows ht) hsound
  | lock scope next ih => exact ih h hgrows
  | query read next ih => exact fun t b ht hsound => h t b (R.trans _ _ _ hgrows ht) hsound
  | insert write next ih => exact fun t b e ht hsound => h t b e (R.trans _ _ _ hgrows ht) hsound

theorem Runs.mono {goal' : σ → δ → α → Prop} {p : Program σ δ ε α} {s : σ} {d : δ}
    (h : p.Runs R goal s d) (hgoal : ∀ s d a, goal s d a → goal' s d a) : p.Runs R goal' s d := by
  induction p generalizing s d with
  | finish result =>
    cases result with
    | error e => trivial
    | ok a => exact fun t ht hsound => hgoal t d a (h t ht hsound)
  | lock scope next ih => exact ih h
  | query read next ih => exact fun t b ht hsound hread => ih b (h t b ht hsound hread)
  | insert write next ih =>
    intro t b e ht hsound hwrite
    obtain ⟨hfresh, hnext⟩ := h t b e ht hsound hwrite
    exact ⟨hfresh, ih b hnext⟩

theorem runs_andThen {goal' : σ → δ → β → Prop} {p : Program σ δ ε α}
    {k : α → Program σ δ ε β} {s : σ} {d : δ}
    (h : p.Runs R (fun s d a => (k a).Runs R goal' s d) s d) (hsound : R.Sound s) :
    (p >>= k).Runs R goal' s d := by
  induction p generalizing s d with
  | finish result =>
    cases result with
    | error e => trivial
    | ok a => exact h s (R.refl s) hsound
  | lock scope next ih => exact ih h hsound
  | query read next ih =>
    exact fun t b ht hsound' hread => ih b (h t b ht hsound' hread) hsound'
  | insert write next ih =>
    intro t b e ht hsound' hwrite
    obtain ⟨hfresh, hnext⟩ := h t b e ht hsound' hwrite
    exact ⟨hfresh, ih b hnext (R.draw_sound t e hsound')⟩

section
variable {goal' : σ → δ → β → Prop} {s : σ} {d : δ}

theorem runs_pure {b : β} (h : ∀ s', R.Grows s s' → R.Sound s' → goal' s' d b) :
    (pure b : Program σ δ ε β).Runs R goal' s d := h

theorem runs_check {result : Except ε α} {k : α → Program σ δ ε β}
    (h : ∀ a, result = .ok a → (k a).Runs R goal' s d) : (check result >>= k).Runs R goal' s d := by
  cases result with
  | error e => trivial
  | ok a => exact h a rfl

/-- A check that ends the program. -/
theorem runs_verdict {result : Except ε β}
    (h : ∀ b, result = .ok b → ∀ s', R.Grows s s' → R.Sound s' → goal' s' d b) :
    (check result : Program σ δ ε β).Runs R goal' s d := by
  cases result with
  | error e => trivial
  | ok b => exact h b rfl

theorem runs_acquire {scope : String} {k : Unit → Program σ δ ε β} (h : (k ()).Runs R goal' s d) :
    (acquire scope >>= k).Runs R goal' s d := h

theorem runs_ask {read : σ → Except ε α} {k : α → Program σ δ ε β}
    (h : ∀ s' a, R.Grows s s' → R.Sound s' → read (S.view s' d) = .ok a →
      (k a).Runs R goal' s' d) : (ask read >>= k).Runs R goal' s d := h

/-- A program without inserts hands on rows as they are. -/
theorem runs_readOnly {p : Program σ δ ε α} {k : α → Program σ δ ε β} (hp : p.ReadOnly)
    (hsound : R.Sound s)
    (h : ∀ s' a, R.Grows s s' → R.Sound s' → (k a).Runs R goal' s' d) :
    (p >>= k).Runs R goal' s d := by
  induction p generalizing s with
  | finish result =>
    cases result with
    | error e => trivial
    | ok a => exact h s a (R.refl s) hsound
  | lock scope next ih => exact ih hp hsound h
  | query read next ih =>
    intro t b ht hsound' _
    exact ih b (hp b) hsound' fun s' a hs' => h s' a (R.trans _ _ _ ht hs')
  | insert write next ih => exact hp.elim

theorem runs_add {write : σ → Except ε (α × δ)} {k : α → Program σ δ ε β}
    (h : ∀ s' a e, R.Grows s s' → R.Sound s' → write (S.view s' d) = .ok (a, e) →
      S.Fresh s' d e ∧ (k a).Runs R goal' (S.draw s' e) (S.append d e)) :
    (add write >>= k).Runs R goal' s d := h

end

end Program

namespace Rely

variable {goal : σ → δ → α → Prop} {admitted : Program σ δ ε α → Prop}

/-- What holds in every world that is reached from tables `start`. -/
structure Safe (R : Rely S) (goal : σ → δ → α → Prop) (start : σ) (w : World σ δ ε α) : Prop where
  sound : R.Sound w.committed
  grows : R.Grows start w.committed
  apart : S.Apart w.committed (w.running.map Transaction.rows)
  runs : ∀ tx ∈ w.running, tx.program.Runs R goal w.committed tx.rows

/-- The tables have changed; the others go on. -/
theorem runs_others {R : Rely S} {s s' : σ} {before after : List (Transaction σ δ ε α)}
    {tx : Transaction σ δ ε α} (h : ∀ u ∈ before ++ tx :: after, u.program.Runs R goal s u.rows)
    (hgrows : R.Grows s s') :
    ∀ u ∈ before ++ after, u.program.Runs R goal s' u.rows := by
  intro u hu
  refine (h u ?_).grows hgrows
  rcases List.mem_append.mp hu with hb | ha
  · exact List.mem_append_left _ hb
  · exact List.mem_append_right _ (List.mem_cons_of_mem _ ha)

theorem mem_replaced {before after : List (Transaction σ δ ε α)} {tx : Transaction σ δ ε α}
    {P : Transaction σ δ ε α → Prop} (htx : P tx) (h : ∀ u ∈ before ++ after, P u) :
    ∀ u ∈ before ++ tx :: after, P u := by
  intro u hu
  rcases List.mem_append.mp hu with hb | ha
  · exact h u (List.mem_append_left _ hb)
  · rcases List.mem_cons.mp ha with rfl | ha
    · exact htx
    · exact h u (List.mem_append_right _ ha)

/-- One step keeps it: the transaction that steps by its own proof, the others by stability. -/
theorem Safe.step {R : Rely S} {start : σ}
    (hrun : ∀ p, admitted p → ∀ s, R.Sound s → p.Runs R goal s S.none)
    (hcommit : ∀ s d a, R.Sound s → S.Apart s [d] → goal s d a →
      R.Sound (S.commit s d) ∧ R.Grows s (S.commit s d))
    {w w' : World σ δ ε α} (h : Safe R goal start w) (hstep : S.Step admitted w w') :
    Safe R goal start w' := by
  obtain ⟨hsound, hgrows, hapart, hruns⟩ := h
  cases hstep with
  | @begins s running p hp =>
    refine ⟨hsound, hgrows, ?_, fun tx htx => ?_⟩
    · rw [List.map_append]
      exact hapart.begins
    · rcases List.mem_append.mp htx with htx | htx
      · exact hruns tx htx
      · rw [List.mem_singleton.mp htx]
        exact hrun p hp s hsound
  | @locks s before after scope next d held hfree =>
    have hown : next.Runs R goal s d := hruns ⟨.lock scope next, d, held⟩ (by simp)
    exact ⟨hsound, hgrows, by simpa using hapart, mem_replaced hown (runs_others hruns (R.refl s))⟩
  | @queries s before after β read next d held b hread =>
    have hown := hruns ⟨.query read next, d, held⟩ (by simp) s b (R.refl s) hsound hread
    exact ⟨hsound, hgrows, by simpa using hapart, mem_replaced hown (runs_others hruns (R.refl s))⟩
  | @inserts s before after β write next d e held b hwrite hfree =>
    obtain ⟨hfresh, hown⟩ :=
      hruns ⟨.insert write next, d, held⟩ (by simp) s b e (R.refl s) hsound hwrite
    have hdraw := R.draw_grows s e
    refine ⟨R.draw_sound s e hsound, R.trans _ _ _ hgrows hdraw, ?_,
      mem_replaced hown (runs_others hruns hdraw)⟩
    rw [List.map_append, List.map_cons] at hapart ⊢
    refine hapart.inserts hfresh fun other hother => ?_
    rw [← List.map_append] at hother
    obtain ⟨tx, htx, rfl⟩ := List.mem_map.mp hother
    exact hfree tx htx
  | @commits s before after a d held =>
    have hgoal : goal s d a :=
      hruns ⟨.finish (.ok a), d, held⟩ (by simp) s (R.refl s) hsound
    rw [List.map_append, List.map_cons] at hapart
    obtain ⟨hsound', hgrows'⟩ := hcommit s d a hsound hapart.own hgoal
    refine ⟨hsound', R.trans _ _ _ hgrows hgrows', ?_, runs_others hruns hgrows'⟩
    rw [List.map_append]
    exact hapart.commits
  | @aborts s before after tx =>
    refine ⟨hsound, hgrows, ?_, runs_others hruns (R.refl s)⟩
    rw [List.map_append, List.map_cons] at hapart
    rw [List.map_append]
    exact hapart.aborts

/-- One proof a program makes every interleaving safe. -/
theorem reachable_safe {R : Rely S}
    (hrun : ∀ p, admitted p → ∀ s, R.Sound s → p.Runs R goal s S.none)
    (hcommit : ∀ s d a, R.Sound s → S.Apart s [d] → goal s d a →
      R.Sound (S.commit s d) ∧ R.Grows s (S.commit s d))
    {start : σ} (hsound : R.Sound start) (hapart : S.Apart start []) {w : World σ δ ε α}
    (h : S.Reaches admitted ⟨start, []⟩ w) : Safe R goal start w := by
  induction h with
  | refl => exact ⟨hsound, R.refl start, hapart, fun tx htx => absurd htx List.not_mem_nil⟩
  | tail _ hstep ih => exact ih.step hrun hcommit hstep

end Rely

end AccountingPlatform.Lib
