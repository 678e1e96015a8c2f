/-
  Fetching page after page from a source that names the next page.

  The source may answer anything, and otherwise at every request. A walk takes a page, consumes
  it and follows its cursor: it ends where a page names none, and fails where a cursor comes back
  or the pages run out (`walk_ok_iff`, `walk_error`).
-/
import AccountingPlatform.Lib.Outcome
import Mathlib.Data.List.Nodup

namespace AccountingPlatform.Lib

structure Source (ε κ π σ : Type) where
  /-- The answer to a request, by its number and its cursor. -/
  fetch : ℕ → Option κ → Except ε π
  next : π → Option κ
  /-- What is left where consuming a page fails stays. -/
  consume : σ → π → σ × Except ε Unit
  repeated : ε
  exhausted : ε

namespace Source

variable {ε κ π σ : Type} (src : Source ε κ π σ)

/-! ## Walks -/

section
variable [DecidableEq κ]

/-- At most `limit` further requests, numbered from `n`. -/
def walk : ℕ → ℕ → Option κ → List κ → σ → σ × Except ε Unit
  | 0, _, _, _, s => (s, .error src.exhausted)
  | limit + 1, n, cursor, seen, s =>
    match src.fetch n cursor with
    | .error e => (s, .error e)
    | .ok page =>
      match src.consume s page with
      | (s, .error e) => (s, .error e)
      | (s, .ok _) =>
        match src.next page with
        | none => (s, .ok ())
        | some following =>
          if following ∈ cursor.toList ++ seen then (s, .error src.repeated)
          else walk limit (n + 1) (some following) (cursor.toList ++ seen) s

end

/-- Consume pages until one fails. -/
def consumeAll : σ → List π → σ × Except ε Unit
  | s, [] => (s, .ok ())
  | s, page :: pages =>
    match src.consume s page with
    | (s, .error e) => (s, .error e)
    | (s, .ok _) => consumeAll s pages

/-- The pages from a cursor to one that names no other. -/
inductive Ends : ℕ → Option κ → List π → Prop
  | last {n : ℕ} {cursor : Option κ} {page : π} (hfetch : src.fetch n cursor = .ok page)
      (hnext : src.next page = none) : Ends n cursor [page]
  | more {n : ℕ} {cursor : Option κ} {page : π} {following : κ} {pages : List π}
      (hfetch : src.fetch n cursor = .ok page) (hnext : src.next page = some following)
      (hrest : Ends (n + 1) (some following) pages) : Ends n cursor (page :: pages)

/-- Pages that follow one another from a cursor, and the request after them. -/
inductive Follows : ℕ → Option κ → List π → ℕ → Option κ → Prop
  | nil (n : ℕ) (cursor : Option κ) : Follows n cursor [] n cursor
  | cons {n m : ℕ} {cursor last : Option κ} {page : π} {following : κ} {pages : List π}
      (hfetch : src.fetch n cursor = .ok page) (hnext : src.next page = some following)
      (hrest : Follows (n + 1) (some following) pages m last) : Follows n cursor (page :: pages) m last

/-- No cursor is asked for twice. -/
def Fresh (seen : List κ) (cursor : Option κ) (pages : List π) : Prop :=
  (pages.filterMap src.next).Nodup ∧ ∀ c ∈ pages.filterMap src.next, c ∉ cursor.toList ++ seen

/-- Why a walk fails after the pages it consumed: the request of the next page, the page itself,
    a cursor that came back, or the number of pages. -/
inductive Failure (limit : ℕ) (seen : List κ) (cursor : Option κ) (pages : List π) (m : ℕ)
    (last : Option κ) (s : σ) : σ → ε → Prop
  | fetch {e : ε} (hlimit : pages.length < limit) (hfetch : src.fetch m last = .error e) :
      Failure limit seen cursor pages m last s s e
  | consume {page : π} {s' : σ} {e : ε} (hlimit : pages.length < limit)
      (hfetch : src.fetch m last = .ok page) (hconsume : src.consume s page = (s', .error e)) :
      Failure limit seen cursor pages m last s s' e
  | repeated {page : π} {s' : σ} (hlimit : pages.length < limit) (hfetch : src.fetch m last = .ok page)
      (hconsume : src.consume s page = (s', .ok ())) (hback : ¬src.Fresh seen cursor (pages ++ [page])) :
      Failure limit seen cursor pages m last s s' src.repeated
  | exhausted (hlimit : pages.length = limit) :
      Failure limit seen cursor pages m last s s src.exhausted

variable {src}

theorem fresh_cons {seen : List κ} {cursor : Option κ} {page : π} {pages : List π} {following : κ}
    (hnext : src.next page = some following) :
    src.Fresh seen cursor (page :: pages) ↔ following ∉ cursor.toList ++ seen ∧
      src.Fresh (cursor.toList ++ seen) (some following) pages := by
  unfold Fresh
  rw [List.filterMap_cons_some hnext, List.nodup_cons, List.forall_mem_cons]
  constructor
  · rintro ⟨⟨hhead, hnodup⟩, hfollowing, hseen⟩
    refine ⟨hfollowing, hnodup, fun c hc hmem => ?_⟩
    rcases List.mem_cons.mp hmem with rfl | hmem
    · exact hhead hc
    · exact hseen c hc hmem
  · rintro ⟨hfollowing, hnodup, hseen⟩
    refine ⟨⟨fun hmem => hseen following hmem List.mem_cons_self, hnodup⟩, hfollowing, ?_⟩
    exact fun c hc hmem => hseen c hc (List.mem_cons_of_mem following hmem)

/-- From the start: no two of the cursors asked for are the same. -/
theorem fresh_nil_iff {cursor : Option κ} {pages : List π} :
    src.Fresh [] cursor pages ↔ (cursor.toList ++ pages.filterMap src.next).Nodup := by
  have hone : cursor.toList.Nodup := by
    cases cursor with
    | none => exact List.nodup_nil
    | some c => exact List.nodup_singleton c
  rw [Fresh, List.append_nil, List.nodup_append']
  constructor
  · rintro ⟨hnodup, hseen⟩
    exact ⟨hone, hnodup, fun c hc hmem => hseen c hmem hc⟩
  · rintro ⟨-, hnodup, hdisjoint⟩
    exact ⟨hnodup, fun c hmem hc => hdisjoint hc hmem⟩

/-- The pages from a cursor, by the one it fetches. -/
theorem ends_iff {n : ℕ} {cursor : Option κ} {page : π} {pages : List π}
    (hfetch : src.fetch n cursor = .ok page) :
    src.Ends n cursor pages ↔ (src.next page = none ∧ pages = [page]) ∨
      ∃ following rest, src.next page = some following ∧ pages = page :: rest ∧
        src.Ends (n + 1) (some following) rest := by
  constructor
  · intro h
    cases h with
    | last hok hnext =>
      obtain rfl := Except.ok.inj (hfetch.symm.trans hok)
      exact Or.inl ⟨hnext, rfl⟩
    | more hok hnext hrest =>
      obtain rfl := Except.ok.inj (hfetch.symm.trans hok)
      exact Or.inr ⟨_, _, hnext, rfl, hrest⟩
  · rintro (⟨hnext, rfl⟩ | ⟨following, rest, hnext, rfl, hrest⟩)
    · exact .last hfetch hnext
    · exact .more hfetch hnext hrest

theorem consumeAll_cons_of_ok {s s₁ : σ} {page : π} (h : src.consume s page = (s₁, .ok ())) (pages : List π) :
    src.consumeAll s (page :: pages) = src.consumeAll s₁ pages := by
  rw [consumeAll, h]

theorem consumeAll_cons_of_error {s s₁ : σ} {page : π} {e : ε} (h : src.consume s page = (s₁, .error e))
    (pages : List π) : src.consumeAll s (page :: pages) = (s₁, .error e) := by
  rw [consumeAll, h]

/-! ## Results -/

variable [DecidableEq κ]

/-- A walk ends well when the pages end in time, come back to no cursor and can be consumed. -/
theorem walk_ok_iff {limit n : ℕ} {cursor : Option κ} {seen : List κ} {s s' : σ} :
    src.walk limit n cursor seen s = (s', .ok ()) ↔
      ∃ pages, src.Ends n cursor pages ∧ pages.length ≤ limit ∧ src.Fresh seen cursor pages ∧
        src.consumeAll s pages = (s', .ok ()) := by
  induction limit generalizing n cursor seen s with
  | zero =>
    constructor
    · intro h
      cases congrArg Prod.snd h
    · rintro ⟨pages, hends, hlength, -⟩
      rw [List.length_eq_zero_iff.mp (Nat.le_zero.mp hlength)] at hends
      cases hends
  | succ limit ih =>
    unfold walk
    cases hfetch : src.fetch n cursor with
    | error e =>
      constructor
      · intro h
        cases congrArg Prod.snd h
      · rintro ⟨pages, hends, -⟩
        cases hends with
        | last hok _ => rw [hfetch] at hok; cases hok
        | more hok _ _ => rw [hfetch] at hok; cases hok
    | ok page =>
      simp only [ends_iff hfetch]
      rcases hconsume : src.consume s page with ⟨s₁, e | ⟨⟩⟩
      · -- the page is not consumed, and no walk over it is
        refine iff_of_false (fun h => by cases congrArg Prod.snd h) ?_
        rintro ⟨pages, (⟨-, rfl⟩ | ⟨_, rest, -, rfl, -⟩), -, -, hall⟩
        · rw [consumeAll_cons_of_error hconsume] at hall
          cases congrArg Prod.snd hall
        · rw [consumeAll_cons_of_error hconsume] at hall
          cases congrArg Prod.snd hall
      · dsimp only
        cases hnext : src.next page with
        | none =>
          have hfresh : src.Fresh seen cursor [page] := by
            rw [Fresh, List.filterMap_cons_none hnext]
            exact ⟨List.nodup_nil, fun _ hc => absurd hc List.not_mem_nil⟩
          constructor
          · intro h
            refine ⟨[page], Or.inl ⟨rfl, rfl⟩, Nat.succ_le_succ (Nat.zero_le _), hfresh, ?_⟩
            rw [consumeAll_cons_of_ok hconsume]
            exact h
          · rintro ⟨pages, (⟨-, rfl⟩ | ⟨_, _, hsome, -⟩), -, -, hall⟩
            · rw [consumeAll_cons_of_ok hconsume] at hall
              exact hall
            · cases hsome
        | some following =>
          dsimp only
          by_cases hseen : following ∈ cursor.toList ++ seen
          · rw [if_pos hseen]
            refine iff_of_false (fun h => by cases congrArg Prod.snd h) ?_
            rintro ⟨pages, (⟨hnone, -⟩ | ⟨_, rest, -, rfl, -⟩), -, hfresh, -⟩
            · cases hnone
            · exact ((fresh_cons hnext).mp hfresh).1 hseen
          · rw [if_neg hseen, ih]
            constructor
            · rintro ⟨rest, hends, hlength, hfresh, hall⟩
              refine ⟨page :: rest, Or.inr ⟨following, rest, rfl, rfl, hends⟩, Nat.succ_le_succ hlength,
                (fresh_cons hnext).mpr ⟨hseen, hfresh⟩, ?_⟩
              rw [consumeAll_cons_of_ok hconsume]
              exact hall
            · rintro ⟨pages, (⟨hnone, -⟩ | ⟨_, rest, hsome, rfl, hends⟩), hlength, hfresh, hall⟩
              · cases hnone
              · obtain rfl := Option.some.inj hsome
                rw [consumeAll_cons_of_ok hconsume] at hall
                exact ⟨rest, hends, Nat.le_of_succ_le_succ hlength, ((fresh_cons hnext).mp hfresh).2, hall⟩

/-- A walk that fails has consumed the pages before its failure. -/
theorem walk_error {limit n : ℕ} {cursor : Option κ} {seen : List κ} {s s' : σ} {e : ε}
    (h : src.walk limit n cursor seen s = (s', .error e)) :
    ∃ pages m last s₁, src.Follows n cursor pages m last ∧ src.consumeAll s pages = (s₁, .ok ()) ∧
      src.Failure limit seen cursor pages m last s₁ s' e := by
  induction limit generalizing n cursor seen s with
  | zero =>
    obtain ⟨rfl, he⟩ := Prod.mk.inj h
    rw [← Except.error.inj he]
    exact ⟨[], n, cursor, s, .nil n cursor, rfl, .exhausted rfl⟩
  | succ limit ih =>
    unfold walk at h
    cases hfetch : src.fetch n cursor with
    | error e' =>
      rw [hfetch] at h
      obtain ⟨rfl, he⟩ := Prod.mk.inj h
      rw [← Except.error.inj he]
      exact ⟨[], n, cursor, s, .nil n cursor, rfl, .fetch (Nat.succ_pos limit) hfetch⟩
    | ok page =>
      rw [hfetch] at h
      dsimp only at h
      rcases hconsume : src.consume s page with ⟨s₁, e' | ⟨⟩⟩
      · rw [hconsume] at h
        obtain ⟨rfl, he⟩ := Prod.mk.inj h
        rw [← Except.error.inj he]
        exact ⟨[], n, cursor, s, .nil n cursor, rfl, .consume (Nat.succ_pos limit) hfetch hconsume⟩
      · rw [hconsume] at h
        dsimp only at h
        cases hnext : src.next page with
        | none =>
          rw [hnext] at h
          cases congrArg Prod.snd h
        | some following =>
          rw [hnext] at h
          dsimp only at h
          split at h
          · next hseen =>
            obtain ⟨rfl, he⟩ := Prod.mk.inj h
            rw [← Except.error.inj he]
            exact ⟨[], n, cursor, s, .nil n cursor, rfl, .repeated (Nat.succ_pos limit) hfetch hconsume
              fun hfresh => ((fresh_cons hnext).mp hfresh).1 hseen⟩
          · obtain ⟨pages, m, last, s₂, hfollows, hall, hfailure⟩ := ih h
            refine ⟨page :: pages, m, last, s₂, .cons hfetch hnext hfollows, ?_, ?_⟩
            · rw [consumeAll_cons_of_ok hconsume]
              exact hall
            · cases hfailure with
              | fetch hlimit hfetch => exact .fetch (Nat.succ_lt_succ hlimit) hfetch
              | consume hlimit hfetch hconsume => exact .consume (Nat.succ_lt_succ hlimit) hfetch hconsume
              | repeated hlimit hfetch hconsume hback =>
                exact .repeated (Nat.succ_lt_succ hlimit) hfetch hconsume
                  fun hfresh => hback ((fresh_cons hnext).mp hfresh).2
              | exhausted hlimit => exact .exhausted (congrArg Nat.succ hlimit)

variable (src) in
/-- What consuming a page keeps, a walk keeps, however it ends. -/
theorem walk_invariant {Inv : σ → Prop} (hconsume : ∀ s page, Inv s → Inv (src.consume s page).1)
    {limit n : ℕ} {cursor : Option κ} {seen : List κ} {s : σ} (h : Inv s) :
    Inv (src.walk limit n cursor seen s).1 := by
  induction limit generalizing n cursor seen s with
  | zero => exact h
  | succ limit ih =>
    unfold walk
    cases src.fetch n cursor with
    | error e => exact h
    | ok page =>
      have hpage := hconsume s page h
      dsimp only
      generalize src.consume s page = consumed at hpage
      rcases consumed with ⟨s₁, e | ⟨⟩⟩
      · exact hpage
      · dsimp only
        cases src.next page with
        | none => exact hpage
        | some following =>
          dsimp only
          split
          · exact hpage
          · exact ih hpage

end Source

end AccountingPlatform.Lib
