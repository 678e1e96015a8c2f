/-
  Backtracking patterns over lists.

  A pattern tried at a place gives the places where it can stop, the preferred one first.
  Every constructor has one lemma that says where it stops; a repeated class, tried at a run
  of its members, stops at the end of the run before anywhere inside it.
-/
import Mathlib.Data.List.Basic
import Mathlib.Tactic.Common

namespace AccountingPlatform.Lib

universe u
variable {α : Type u}

/-- What lies before a place, nearest first, and what lies after it. -/
structure Place (α : Type u) where
  before : List α
  rest : List α

namespace Place

/-- The text between a place and a later one. -/
def Reads (p : Place α) (text : List α) (q : Place α) : Prop :=
  p.rest = text ++ q.rest ∧ q.before = text.reverse ++ p.before

/-- The place behind a text read. -/
def past (p : Place α) (text rest : List α) : Place α := ⟨text.reverse ++ p.before, rest⟩

theorem reads_past {p : Place α} {w rest : List α} (h : p.rest = w ++ rest) :
    p.Reads w (p.past w rest) := ⟨h, rfl⟩

@[simp] theorem reads_nil_iff {p q : Place α} : p.Reads [] q ↔ q = p := by
  cases p
  cases q
  simp only [Reads, List.nil_append, List.reverse_nil, mk.injEq]
  exact ⟨fun h => ⟨h.2, h.1.symm⟩, fun h => ⟨h.2.symm, h.1⟩⟩

theorem reads_append_iff {p q : Place α} {u v : List α} :
    p.Reads (u ++ v) q ↔ ∃ m, p.Reads u m ∧ m.Reads v q := by
  constructor
  · rintro ⟨hrest, hbefore⟩
    refine ⟨p.past u (v ++ q.rest), ⟨?_, rfl⟩, rfl, ?_⟩
    · rw [hrest, List.append_assoc]
      rfl
    · rw [hbefore, List.reverse_append, List.append_assoc]
      rfl
  · rintro ⟨m, ⟨hpm, hmb⟩, hmq, hqb⟩
    refine ⟨?_, ?_⟩
    · rw [hpm, hmq, List.append_assoc]
    · rw [hqb, hmb, List.reverse_append, List.append_assoc]

theorem Reads.trans {p m q : Place α} {u v : List α} (hpm : p.Reads u m) (hmq : m.Reads v q) :
    p.Reads (u ++ v) q := reads_append_iff.mpr ⟨m, hpm, hmq⟩

theorem reads_cons_iff {p q : Place α} {a : α} {w : List α} :
    p.Reads (a :: w) q ↔ ∃ m, p.Reads [a] m ∧ m.Reads w q := by
  rw [← reads_append_iff, List.singleton_append]

end Place

inductive Pattern (α : Type u) where
  | blank
  | one (p : α → Bool)
  | seq (first second : Pattern α)
  | alt (preferred other : Pattern α)
  | star (body : Pattern α)
  | edge (p : α → Bool)
  | ahead (body : Pattern α)
  | final (p : α → Bool)

namespace Pattern

/-- Repetitions of a step that gets nearer to the end, the longest first. -/
def repeated (step : Place α → List (Place α)) : ℕ → Place α → List (Place α)
  | 0, p => [p]
  | fuel + 1, p =>
    (step p).flatMap (fun q => if q.rest.length < p.rest.length then repeated step fuel q else []) ++
      [p]

theorem repeated_zero (step : Place α → List (Place α)) (p : Place α) : repeated step 0 p = [p] := rfl

theorem repeated_succ (step : Place α → List (Place α)) (fuel : ℕ) (p : Place α) :
    repeated step (fuel + 1) p =
      (step p).flatMap (fun q => if q.rest.length < p.rest.length then repeated step fuel q else []) ++
        [p] := rfl

/-- Where a pattern tried at a place can stop, the preferred place first. -/
def ends : Pattern α → Place α → List (Place α)
  | blank, p => [p]
  | one c, p =>
    match p.rest with
    | [] => []
    | a :: rest => if c a then [⟨a :: p.before, rest⟩] else []
  | seq first second, p => (ends first p).flatMap (ends second)
  | alt preferred other, p => ends preferred p ++ ends other p
  | star body, p => repeated (ends body) p.rest.length p
  | edge c, p => if p.before.head?.any c == p.rest.head?.any c then [] else [p]
  | ahead body, p => if (ends body p).isEmpty then [] else [p]
  | final c, p => if p.rest.isEmpty || (p.rest.length == 1 && p.rest.all c) then [p] else []

/-- An optional pattern. -/
def opt (body : Pattern α) : Pattern α := alt body blank

/-- One repetition or more. -/
def plus (body : Pattern α) : Pattern α := seq body (star body)

/-- A fixed number of members of given classes. -/
def spelled : List (α → Bool) → Pattern α
  | [] => blank
  | c :: cs => seq (one c) (spelled cs)

/-! ## Where a pattern stops -/

theorem ends_one_nil (c : α → Bool) (before : List α) : ends (one c) ⟨before, []⟩ = [] := rfl

theorem ends_one_cons (c : α → Bool) (before rest : List α) (a : α) :
    ends (one c) ⟨before, a :: rest⟩ = if c a then [⟨a :: before, rest⟩] else [] := rfl

theorem ends_seq (first second : Pattern α) (p : Place α) :
    ends (seq first second) p = (ends first p).flatMap (ends second) := rfl

theorem ends_star (body : Pattern α) (p : Place α) :
    ends (star body) p = repeated (ends body) p.rest.length p := rfl

theorem ends_edge_eq (c : α → Bool) (p : Place α) :
    ends (edge c) p = if p.before.head?.any c == p.rest.head?.any c then [] else [p] := rfl

theorem ends_ahead_eq (body : Pattern α) (p : Place α) :
    ends (ahead body) p = if (ends body p).isEmpty then [] else [p] := rfl

theorem ends_final_eq (c : α → Bool) (p : Place α) :
    ends (final c) p =
      if p.rest.isEmpty || (p.rest.length == 1 && p.rest.all c) then [p] else [] := rfl

@[simp] theorem mem_ends_blank {p q : Place α} : q ∈ ends blank p ↔ q = p := List.mem_singleton

theorem mem_ends_one {c : α → Bool} {p q : Place α} :
    q ∈ ends (one c) p ↔ ∃ a, c a = true ∧ p.Reads [a] q := by
  obtain ⟨before, rest⟩ := p
  obtain ⟨before', rest'⟩ := q
  cases rest with
  | nil => simp [ends_one_nil, Place.Reads]
  | cons a rest =>
    by_cases h : c a = true
    · simp only [ends_one_cons, if_pos h, List.mem_singleton, Place.mk.injEq, Place.Reads,
        List.singleton_append, List.reverse_singleton, List.cons.injEq]
      constructor
      · rintro ⟨rfl, rfl⟩
        exact ⟨a, h, ⟨rfl, rfl⟩, rfl⟩
      · rintro ⟨b, -, ⟨rfl, rfl⟩, rfl⟩
        exact ⟨rfl, rfl⟩
    · simp only [ends_one_cons, if_neg h, List.not_mem_nil, Place.Reads, List.singleton_append,
        List.cons.injEq, false_iff, not_exists, not_and]
      rintro b hb ⟨rfl, -⟩
      exact absurd hb h

@[simp] theorem mem_ends_seq {first second : Pattern α} {p q : Place α} :
    q ∈ ends (seq first second) p ↔ ∃ m ∈ ends first p, q ∈ ends second m := List.mem_flatMap

@[simp] theorem mem_ends_alt {preferred other : Pattern α} {p q : Place α} :
    q ∈ ends (alt preferred other) p ↔ q ∈ ends preferred p ∨ q ∈ ends other p := List.mem_append

@[simp] theorem mem_ends_opt {body : Pattern α} {p q : Place α} :
    q ∈ ends (opt body) p ↔ q ∈ ends body p ∨ q = p := by
  rw [opt, mem_ends_alt, mem_ends_blank]

theorem mem_ends_edge {c : α → Bool} {p q : Place α} :
    q ∈ ends (edge c) p ↔ q = p ∧ p.before.head?.any c ≠ p.rest.head?.any c := by
  by_cases h : p.before.head?.any c = p.rest.head?.any c
  · simp [ends_edge_eq, h]
  · simp [ends_edge_eq, h]

theorem mem_ends_ahead {body : Pattern α} {p q : Place α} :
    q ∈ ends (ahead body) p ↔ q = p ∧ ∃ m, m ∈ ends body p := by
  cases h : ends body p with
  | nil => simp [ends_ahead_eq, h]
  | cons m others => simp [ends_ahead_eq, h]

theorem mem_ends_final {c : α → Bool} {p q : Place α} :
    q ∈ ends (final c) p ↔ q = p ∧ (p.rest = [] ∨ ∃ a, c a = true ∧ p.rest = [a]) := by
  obtain ⟨before, rest⟩ := p
  cases rest with
  | nil => simp [ends_final_eq]
  | cons a rest => cases rest <;> simp [ends_final_eq, and_comm]

theorem mem_ends_spelled {cs : List (α → Bool)} {p q : Place α} :
    q ∈ ends (spelled cs) p ↔ ∃ w, List.Forall₂ (fun c a => c a = true) cs w ∧ p.Reads w q := by
  induction cs generalizing p with
  | nil =>
    rw [spelled, mem_ends_blank]
    constructor
    · rintro rfl
      exact ⟨[], List.Forall₂.nil, Place.reads_nil_iff.mpr rfl⟩
    · rintro ⟨w, hw, hreads⟩
      cases hw
      exact Place.reads_nil_iff.mp hreads
  | cons c cs ih =>
    rw [spelled, mem_ends_seq]
    constructor
    · rintro ⟨m, hm, hq⟩
      obtain ⟨a, ha, hpm⟩ := mem_ends_one.mp hm
      obtain ⟨w, hw, hmq⟩ := ih.mp hq
      exact ⟨a :: w, List.Forall₂.cons ha hw, hpm.trans hmq⟩
    · rintro ⟨w, hw, hreads⟩
      cases hw with
      | @cons _ a _ w ha hw =>
        obtain ⟨m, hpm, hmq⟩ := Place.reads_cons_iff.mp hreads
        exact ⟨m, mem_ends_one.mpr ⟨a, ha, hpm⟩, ih.mpr ⟨w, hw, hmq⟩⟩

/-! ## Repeated members of a class -/

theorem ends_star_one (c : α → Bool) (before rest : List α) :
    ends (star (one c)) ⟨before, rest⟩ =
      match rest with
      | [] => [⟨before, []⟩]
      | a :: more =>
        if c a then ends (star (one c)) ⟨a :: before, more⟩ ++ [⟨before, a :: more⟩]
        else [⟨before, a :: more⟩] := by
  cases rest with
  | nil => rfl
  | cons a more =>
    by_cases h : c a = true
    · simp [ends_star, repeated_succ, ends_one_cons, h]
    · simp [ends_star, repeated_succ, ends_one_cons, h]

/-- Among the members of a class, the end of their run comes first. -/
theorem ends_star_run {c : α → Bool} {w rest : List α} (hw : ∀ a ∈ w, c a = true)
    (hrest : ∀ a ∈ rest.head?, c a = false) (before : List α) :
    ∃ others, ends (star (one c)) ⟨before, w ++ rest⟩ = ⟨w.reverse ++ before, rest⟩ :: others ∧
      ∀ q ∈ others, ∃ a more, q.rest = a :: more ∧ c a = true := by
  induction w generalizing before with
  | nil =>
    refine ⟨[], ?_, by simp⟩
    rw [List.nil_append, ends_star_one]
    cases rest with
    | nil => rfl
    | cons a more => simp [hrest a rfl]
  | cons a w ih =>
    obtain ⟨ha, hw'⟩ := List.forall_mem_cons.mp hw
    obtain ⟨others, heq, hothers⟩ := ih hw' (a :: before)
    refine ⟨others ++ [⟨before, a :: (w ++ rest)⟩], ?_, ?_⟩
    · rw [List.cons_append, ends_star_one]
      simp [ha, heq]
    · intro q hq
      rcases List.mem_append.mp hq with h | h
      · exact hothers q h
      · exact ⟨a, w ++ rest, by rw [List.mem_singleton.mp h], ha⟩

theorem ends_plus_run {c : α → Bool} {w rest : List α} (hne : w ≠ []) (hw : ∀ a ∈ w, c a = true)
    (hrest : ∀ a ∈ rest.head?, c a = false) (before : List α) :
    ∃ others, ends (plus (one c)) ⟨before, w ++ rest⟩ = ⟨w.reverse ++ before, rest⟩ :: others ∧
      ∀ q ∈ others, ∃ a more, q.rest = a :: more ∧ c a = true := by
  obtain ⟨a, w, rfl⟩ := List.exists_cons_of_ne_nil hne
  obtain ⟨ha, hw'⟩ := List.forall_mem_cons.mp hw
  obtain ⟨others, heq, hothers⟩ := ends_star_run hw' hrest (a :: before)
  refine ⟨others, ?_, hothers⟩
  simp [plus, ends_seq, ends_one_cons, ha] at heq ⊢
  exact heq

theorem mem_repeated {step : Place α → List (Place α)} {W : List α → Prop}
    (hstep : ∀ p q, q ∈ step p ↔ ∃ w, W w ∧ p.Reads w q) (hne : ∀ w, W w → w ≠ []) {fuel : ℕ}
    {p q : Place α} (hfuel : p.rest.length ≤ fuel) :
    q ∈ repeated step fuel p ↔ ∃ ws : List (List α), (∀ w ∈ ws, W w) ∧ p.Reads ws.flatten q := by
  induction fuel generalizing p with
  | zero =>
    rw [repeated_zero, List.mem_singleton]
    constructor
    · rintro rfl
      exact ⟨[], by simp, Place.reads_nil_iff.mpr rfl⟩
    · rintro ⟨ws, hws, hreads⟩
      have hnil : p.rest = [] := List.length_eq_zero_iff.mp (Nat.le_zero.mp hfuel)
      have hflat : ws.flatten = [] := (List.append_eq_nil_iff.mp (hreads.1.symm.trans hnil)).1
      rw [hflat] at hreads
      exact Place.reads_nil_iff.mp hreads
  | succ fuel ih =>
    have hshorter : ∀ {m : Place α} {w : List α}, W w → p.Reads w m → m.rest.length < p.rest.length := by
      intro m w hw hread
      have hlen := List.length_pos_of_ne_nil (hne w hw)
      rw [hread.1, List.length_append]
      omega
    simp only [repeated_succ, List.mem_append, List.mem_flatMap, List.mem_singleton]
    constructor
    · rintro (⟨m, hm, hq⟩ | rfl)
      · obtain ⟨w, hw, hread⟩ := (hstep p m).mp hm
        have hlt := hshorter hw hread
        rw [if_pos hlt, ih (by omega)] at hq
        obtain ⟨ws, hws, hreads⟩ := hq
        exact ⟨w :: ws, List.forall_mem_cons.mpr ⟨hw, hws⟩, hread.trans hreads⟩
      · exact ⟨[], by simp, Place.reads_nil_iff.mpr rfl⟩
    · rintro ⟨ws, hws, hreads⟩
      cases ws with
      | nil => exact Or.inr (Place.reads_nil_iff.mp hreads)
      | cons w ws =>
        obtain ⟨hw, hws'⟩ := List.forall_mem_cons.mp hws
        rw [List.flatten_cons] at hreads
        obtain ⟨m, hread, hrest⟩ := Place.reads_append_iff.mp hreads
        have hlt := hshorter hw hread
        refine Or.inl ⟨m, (hstep p m).mpr ⟨w, hw, hread⟩, ?_⟩
        rw [if_pos hlt, ih (by omega)]
        exact ⟨ws, hws', hrest⟩

/-- A repeated pattern reads a list of the texts that the pattern reads. -/
theorem mem_ends_star {body : Pattern α} {W : List α → Prop}
    (hbody : ∀ p q, q ∈ ends body p ↔ ∃ w, W w ∧ p.Reads w q) (hne : ∀ w, W w → w ≠ [])
    {p q : Place α} :
    q ∈ ends (star body) p ↔ ∃ ws : List (List α), (∀ w ∈ ws, W w) ∧ p.Reads ws.flatten q :=
  mem_repeated hbody hne (Nat.le_refl _)

theorem mem_ends_star_one {c : α → Bool} {p q : Place α} :
    q ∈ ends (star (one c)) p ↔ ∃ w, (∀ a ∈ w, c a = true) ∧ p.Reads w q := by
  rw [mem_ends_star (W := fun w => ∃ a, c a = true ∧ w = [a])]
  · constructor
    · rintro ⟨ws, hws, hreads⟩
      refine ⟨ws.flatten, fun a ha => ?_, hreads⟩
      obtain ⟨w, hw, haw⟩ := List.mem_flatten.mp ha
      obtain ⟨b, hb, rfl⟩ := hws w hw
      exact List.mem_singleton.mp haw ▸ hb
    · rintro ⟨w, hw, hreads⟩
      refine ⟨w.map fun a => [a], fun v hv => ?_, ?_⟩
      · obtain ⟨a, ha, rfl⟩ := List.mem_map.mp hv
        exact ⟨a, hw a ha, rfl⟩
      · rwa [← List.flatMap_def, List.flatMap_singleton']
  · intro p q
    rw [mem_ends_one]
    constructor
    · rintro ⟨a, ha, hreads⟩
      exact ⟨[a], ⟨a, ha, rfl⟩, hreads⟩
    · rintro ⟨w, ⟨a, ha, rfl⟩, hreads⟩
      exact ⟨a, ha, hreads⟩
  · rintro w ⟨a, -, rfl⟩
    exact List.cons_ne_nil _ _

theorem mem_ends_plus_one {c : α → Bool} {p q : Place α} :
    q ∈ ends (plus (one c)) p ↔ ∃ w, w ≠ [] ∧ (∀ a ∈ w, c a = true) ∧ p.Reads w q := by
  rw [plus, mem_ends_seq]
  constructor
  · rintro ⟨m, hm, hq⟩
    obtain ⟨a, ha, hpm⟩ := mem_ends_one.mp hm
    obtain ⟨w, hw, hmq⟩ := mem_ends_star_one.mp hq
    exact ⟨a :: w, List.cons_ne_nil _ _, List.forall_mem_cons.mpr ⟨ha, hw⟩, hpm.trans hmq⟩
  · rintro ⟨w, hne, hw, hreads⟩
    obtain ⟨a, w, rfl⟩ := List.exists_cons_of_ne_nil hne
    obtain ⟨ha, hw'⟩ := List.forall_mem_cons.mp hw
    obtain ⟨m, hpm, hmq⟩ := Place.reads_cons_iff.mp hreads
    exact ⟨m, mem_ends_one.mpr ⟨a, ha, hpm⟩, mem_ends_star_one.mpr ⟨w, hw', hmq⟩⟩

/-- A pattern that fails inside a run is tried at its end only. -/
theorem ends_star_seq {c : α → Bool} {r : Pattern α} {w rest : List α}
    (hr : ∀ q a more, q.rest = a :: more → c a = true → ends r q = []) (hw : ∀ a ∈ w, c a = true)
    (hrest : ∀ a ∈ rest.head?, c a = false) (before : List α) :
    ends (seq (star (one c)) r) ⟨before, w ++ rest⟩ = ends r ⟨w.reverse ++ before, rest⟩ := by
  obtain ⟨others, heq, hothers⟩ := ends_star_run hw hrest before
  have hnil : others.flatMap (ends r) = [] := by
    refine List.flatMap_eq_nil_iff.mpr fun q hq => ?_
    obtain ⟨a, more, hq', ha⟩ := hothers q hq
    exact hr q a more hq' ha
  rw [ends_seq, heq, List.flatMap_cons, hnil, List.append_nil]

theorem ends_plus_seq {c : α → Bool} {r : Pattern α} {w rest : List α}
    (hr : ∀ q a more, q.rest = a :: more → c a = true → ends r q = []) (hne : w ≠ [])
    (hw : ∀ a ∈ w, c a = true) (hrest : ∀ a ∈ rest.head?, c a = false) (before : List α) :
    ends (seq (plus (one c)) r) ⟨before, w ++ rest⟩ = ends r ⟨w.reverse ++ before, rest⟩ := by
  obtain ⟨others, heq, hothers⟩ := ends_plus_run hne hw hrest before
  have hnil : others.flatMap (ends r) = [] := by
    refine List.flatMap_eq_nil_iff.mpr fun q hq => ?_
    obtain ⟨a, more, hq', ha⟩ := hothers q hq
    exact hr q a more hq' ha
  rw [ends_seq, heq, List.flatMap_cons, hnil, List.append_nil]

theorem ends_spelled {cs : List (α → Bool)} {w : List α}
    (h : List.Forall₂ (fun c a => c a = true) cs w) (before rest : List α) :
    ends (spelled cs) ⟨before, w ++ rest⟩ = [⟨w.reverse ++ before, rest⟩] := by
  induction h generalizing before with
  | nil => rfl
  | @cons c a cs w ha _ ih =>
    rw [spelled, ends_seq, List.cons_append]
    simp [ends_one_cons, ha, ih]

/-! ## Scanning -/

/-- The first place from which a pattern matches. -/
def firstFrom (r : Pattern α) (before : List α) : List α → Option (Place α)
  | [] => if (ends r ⟨before, []⟩).isEmpty then none else some ⟨before, []⟩
  | a :: rest =>
    if (ends r ⟨before, a :: rest⟩).isEmpty then firstFrom r (a :: before) rest
    else some ⟨before, a :: rest⟩

/-- `re.search`: where the leftmost match starts. -/
def search (r : Pattern α) (text : List α) : Option (Place α) := firstFrom r [] text

theorem firstFrom_isSome_iff {r : Pattern α} {before text : List α} :
    (firstFrom r before text).isSome = true ↔
      ∃ skipped rest, text = skipped ++ rest ∧ ends r ⟨skipped.reverse ++ before, rest⟩ ≠ [] := by
  induction text generalizing before with
  | nil =>
    simp only [firstFrom, List.nil_eq, List.append_eq_nil_iff]
    constructor
    · intro h
      refine ⟨[], [], ⟨rfl, rfl⟩, fun hends => ?_⟩
      rw [List.reverse_nil, List.nil_append] at hends
      simp [hends] at h
    · rintro ⟨skipped, rest, ⟨rfl, rfl⟩, hends⟩
      rw [List.reverse_nil, List.nil_append] at hends
      simp [hends]
  | cons a text ih =>
    rw [firstFrom]
    by_cases h : (ends r ⟨before, a :: text⟩).isEmpty = true
    · rw [if_pos h, ih]
      constructor
      · rintro ⟨skipped, rest, rfl, hends⟩
        exact ⟨a :: skipped, rest, rfl, by simpa using hends⟩
      · rintro ⟨skipped, rest, heq, hends⟩
        cases skipped with
        | nil =>
          obtain rfl : a :: text = rest := heq
          exact absurd (List.isEmpty_iff.mp h) hends
        | cons b skipped =>
          obtain ⟨rfl, rfl⟩ := List.cons.inj heq
          exact ⟨skipped, rest, rfl, by simpa using hends⟩
    · rw [if_neg h]
      refine ⟨fun _ => ⟨[], a :: text, rfl, ?_⟩, fun _ => rfl⟩
      intro hends
      exact h (List.isEmpty_iff.mpr hends)

/-- A text up to the first match of a pattern. -/
def upTo (r : Pattern α) (before : List α) : List α → List α
  | [] => []
  | a :: rest => if (ends r ⟨before, a :: rest⟩).isEmpty then a :: upTo r (a :: before) rest else []

/-- What stands before the leftmost match, or all of the text. -/
theorem firstFrom_elim (r : Pattern α) (before text : List α) :
    (firstFrom r before text).elim (before.reverse ++ text) (fun p => p.before.reverse) =
      before.reverse ++ upTo r before text := by
  induction text generalizing before with
  | nil =>
    rw [firstFrom]
    by_cases h : (ends r ⟨before, []⟩).isEmpty = true
    · rw [if_pos h]
      rfl
    · rw [if_neg h]
      exact (List.append_nil _).symm
  | cons a text ih =>
    rw [firstFrom, upTo]
    by_cases h : (ends r ⟨before, a :: text⟩).isEmpty = true
    · have hrec := ih (a :: before)
      rw [if_pos h, if_pos h]
      simpa using hrec
    · rw [if_neg h, if_neg h]
      exact (List.append_nil _).symm

/-- No match starts in the text `w`. -/
def NoStart (r : Pattern α) (before w rest : List α) : Prop :=
  ∀ u v, w = u ++ v → v ≠ [] → ends r ⟨u.reverse ++ before, v ++ rest⟩ = []

theorem NoStart.tail {r : Pattern α} {before w rest : List α} {a : α}
    (h : NoStart r before (a :: w) rest) : NoStart r (a :: before) w rest := by
  intro u v huv hv
  have hnil := h (a :: u) v (by rw [huv, List.cons_append]) hv
  simpa using hnil

theorem upTo_append {r : Pattern α} {before w rest : List α} (h : NoStart r before w rest) :
    upTo r before (w ++ rest) = w ++ upTo r (w.reverse ++ before) rest := by
  induction w generalizing before with
  | nil => rfl
  | cons a w ih =>
    have hnil := h [] (a :: w) rfl (List.cons_ne_nil _ _)
    rw [List.reverse_nil, List.nil_append, List.cons_append] at hnil
    rw [List.cons_append, upTo, hnil, List.isEmpty_nil, if_pos rfl, ih h.tail]
    simp

/-- Where a match of two patterns after each other has its middle and its end. -/
def captures (first second : Pattern α) (p : Place α) : List (Place α × Place α) :=
  (ends first p).flatMap fun m => (ends second m).map fun q => (m, q)

/-- `re.finditer`: what the second of two patterns reads in the matches of both. -/
def findGroups (first second : Pattern α) : ℕ → Place α → List (List α)
  | 0, _ => []
  | fuel + 1, p =>
    match captures first second p with
    | (m, q) :: _ => m.rest.take (m.rest.length - q.rest.length) :: findGroups first second fuel q
    | [] =>
      match p.rest with
      | [] => []
      | a :: rest => findGroups first second fuel ⟨a :: p.before, rest⟩

theorem captures_eq_nil {first second : Pattern α} {p : Place α} (h : ends first p = []) :
    captures first second p = [] := by
  rw [captures, h, List.flatMap_nil]

theorem findGroups_cons {first second : Pattern α} {fuel : ℕ} {before rest : List α} {a : α}
    (h : captures first second ⟨before, a :: rest⟩ = []) :
    findGroups first second (fuel + 1) ⟨before, a :: rest⟩ =
      findGroups first second fuel ⟨a :: before, rest⟩ := by
  rw [findGroups, h]

theorem findGroups_skip {first second : Pattern α} {before w rest : List α}
    (h : NoStart first before w rest) (fuel : ℕ) :
    findGroups first second (fuel + w.length) ⟨before, w ++ rest⟩ =
      findGroups first second fuel ⟨w.reverse ++ before, rest⟩ := by
  induction w generalizing before with
  | nil => rfl
  | cons a w ih =>
    have hnil := h [] (a :: w) rfl (List.cons_ne_nil _ _)
    rw [List.reverse_nil, List.nil_append, List.cons_append] at hnil
    rw [List.length_cons, ← Nat.add_assoc, List.cons_append,
      findGroups_cons (captures_eq_nil hnil), ih h.tail]
    simp

end Pattern

end AccountingPlatform.Lib
