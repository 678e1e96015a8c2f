/-
  A text read as words, gaps and marks.

  Two classes of letters are told apart; a maximal run of the first is a word, a maximal run
  of the second a gap, and every other letter a mark of its own. Reading goes through a cut
  of the text that splits no run, and every cut of what is read comes from such a cut.
-/
import Mathlib.Data.List.Basic
import Mathlib.Tactic.Common

namespace AccountingPlatform.Lib

universe u

/-- Letters of words and letters of gaps. -/
structure Classes (α : Type u) where
  isWord : α → Bool
  isSpace : α → Bool
  apart : ∀ a, isWord a = true → isSpace a = false

inductive Sign (α : Type u) where
  | word (text : List α)
  | gap
  | mark (a : α)
  deriving DecidableEq

variable {α : Type u} (k : Classes α)

namespace Classes

/-- One more letter in front. -/
def push (a : α) (signs : List (Sign α)) : List (Sign α) :=
  if k.isWord a then
    match signs with
    | .word text :: more => .word (a :: text) :: more
    | other => .word [a] :: other
  else if k.isSpace a then
    match signs with
    | .gap :: more => .gap :: more
    | other => .gap :: other
  else .mark a :: signs

/-- The words, gaps and marks of a text. -/
def signs (text : List α) : List (Sign α) := text.foldr k.push []

@[simp] theorem signs_nil : k.signs [] = [] := rfl

theorem signs_cons (a : α) (text : List α) : k.signs (a :: text) = k.push a (k.signs text) := rfl

variable {k}

theorem isWord_eq_false {a : α} (h : k.isSpace a = true) : k.isWord a = false := by
  cases hw : k.isWord a with
  | false => rfl
  | true => exact absurd h (by simp [k.apart a hw])

theorem push_mark {a : α} (hw : k.isWord a = false) (hs : k.isSpace a = false)
    (signs : List (Sign α)) : k.push a signs = .mark a :: signs := by
  simp [push, hw, hs]

theorem push_word {a : α} (hw : k.isWord a = true) (signs : List (Sign α))
    (hother : ∀ text more, signs ≠ .word text :: more) : k.push a signs = .word [a] :: signs := by
  cases signs with
  | nil => simp only [push, if_pos hw]
  | cons first more =>
    cases first with
    | word text => exact absurd rfl (hother text more)
    | gap => simp only [push, if_pos hw]
    | mark b => simp only [push, if_pos hw]

theorem push_gap {a : α} (hs : k.isSpace a = true) (signs : List (Sign α))
    (hother : ∀ more, signs ≠ .gap :: more) : k.push a signs = .gap :: signs := by
  have hw : ¬k.isWord a = true := by simp [isWord_eq_false hs]
  cases signs with
  | nil => simp only [push, if_neg hw, if_pos hs]
  | cons first more =>
    cases first with
    | word text => simp only [push, if_neg hw, if_pos hs]
    | gap => exact absurd rfl (hother more)
    | mark b => simp only [push, if_neg hw, if_pos hs]

/-- What a nonempty reading starts with. -/
inductive Heads (k : Classes α) (a : α) : Sign α → Prop
  | word (text : List α) (h : k.isWord a = true) : Heads k a (.word (a :: text))
  | gap (h : k.isSpace a = true) : Heads k a .gap
  | mark (hw : k.isWord a = false) (hs : k.isSpace a = false) : Heads k a (.mark a)

theorem push_heads (a : α) (signs : List (Sign α)) :
    ∃ first more, k.push a signs = first :: more ∧ Heads k a first := by
  unfold push
  by_cases hw : k.isWord a = true
  · rw [if_pos hw]
    split
    · exact ⟨_, _, rfl, Heads.word _ hw⟩
    · exact ⟨_, _, rfl, Heads.word _ hw⟩
  · rw [if_neg hw]
    by_cases hs : k.isSpace a = true
    · rw [if_pos hs]
      split
      · exact ⟨_, _, rfl, Heads.gap hs⟩
      · exact ⟨_, _, rfl, Heads.gap hs⟩
    · rw [if_neg hs]
      exact ⟨_, _, rfl, Heads.mark (by simpa using hw) (by simpa using hs)⟩

/-- The head of a reading is the kind of the head of the text. -/
theorem heads_of_signs {text : List α} {first : Sign α} {more : List (Sign α)}
    (h : k.signs text = first :: more) : ∃ a rest, text = a :: rest ∧ Heads k a first := by
  cases text with
  | nil => exact absurd h (by simp)
  | cons a rest =>
    obtain ⟨first', more', heq, hheads⟩ := push_heads (k := k) a (k.signs rest)
    rw [signs_cons, heq, List.cons.injEq] at h
    exact ⟨a, rest, rfl, h.1 ▸ hheads⟩

theorem signs_eq_nil_iff {text : List α} : k.signs text = [] ↔ text = [] := by
  constructor
  · intro h
    cases text with
    | nil => rfl
    | cons a rest =>
      obtain ⟨first, more, heq, -⟩ := push_heads (k := k) a (k.signs rest)
      rw [signs_cons, heq] at h
      exact absurd h (List.cons_ne_nil _ _)
  · rintro rfl
    rfl

theorem push_append {a : α} {x : Sign α} {s t : List (Sign α)} :
    k.push a (x :: s ++ t) = k.push a (x :: s) ++ t := by
  by_cases hw : k.isWord a = true
  · cases x <;> simp [push, hw]
  · by_cases hs : k.isSpace a = true
    · cases x <;> simp [push, hw, hs]
    · simp [push, hw, hs]

/-! ## Runs -/

/-- The text does not start with a letter of a class. -/
def Clear (c : α → Bool) (text : List α) : Prop := ∀ a ∈ text.head?, c a = false

@[simp] theorem clear_nil (c : α → Bool) : Clear c [] := by simp [Clear]

@[simp] theorem clear_cons {c : α → Bool} {a : α} {text : List α} :
    Clear c (a :: text) ↔ c a = false := by simp [Clear]

theorem clear_append {c : α → Bool} {s t : List α} (hs : s ≠ []) (h : ∀ a ∈ s, c a = false) :
    Clear c (s ++ t) := by
  obtain ⟨a, s, rfl⟩ := List.exists_cons_of_ne_nil hs
  exact clear_cons.mpr (h a List.mem_cons_self)

theorem ne_word_of_clear {text : List α} (h : Clear k.isWord text) (w : List α)
    (more : List (Sign α)) : k.signs text ≠ .word w :: more := by
  intro heq
  obtain ⟨a, rest, rfl, hheads⟩ := heads_of_signs heq
  cases hheads with
  | word text hw => exact absurd hw (by simp [clear_cons.mp h])

theorem ne_gap_of_clear {text : List α} (h : Clear k.isSpace text) (more : List (Sign α)) :
    k.signs text ≠ .gap :: more := by
  intro heq
  obtain ⟨a, rest, rfl, hheads⟩ := heads_of_signs heq
  cases hheads with
  | gap hs => exact absurd hs (by simp [clear_cons.mp h])

theorem signs_mark {a : α} (hw : k.isWord a = false) (hs : k.isSpace a = false) (text : List α) :
    k.signs (a :: text) = .mark a :: k.signs text := push_mark hw hs _

theorem signs_word {w s : List α} (hne : w ≠ []) (hw : ∀ a ∈ w, k.isWord a = true)
    (hclear : Clear k.isWord s) : k.signs (w ++ s) = .word w :: k.signs s := by
  induction w with
  | nil => exact absurd rfl hne
  | cons a w ih =>
    obtain ⟨ha, hw'⟩ := List.forall_mem_cons.mp hw
    rw [List.cons_append, signs_cons]
    by_cases hnil : w = []
    · subst hnil
      exact push_word ha _ (ne_word_of_clear hclear)
    · rw [ih hnil hw', push, if_pos ha]

theorem signs_gap {g s : List α} (hne : g ≠ []) (hg : ∀ a ∈ g, k.isSpace a = true)
    (hclear : Clear k.isSpace s) : k.signs (g ++ s) = .gap :: k.signs s := by
  induction g with
  | nil => exact absurd rfl hne
  | cons a g ih =>
    obtain ⟨ha, hg'⟩ := List.forall_mem_cons.mp hg
    rw [List.cons_append, signs_cons]
    by_cases hnil : g = []
    · subst hnil
      exact push_gap ha _ (ne_gap_of_clear hclear)
    · rw [ih hnil hg', push, if_neg (by simp [isWord_eq_false ha]), if_pos ha]

/-- A maximal run in front of a text. -/
theorem exists_run (c : α → Bool) (text : List α) :
    ∃ w rest, text = w ++ rest ∧ (∀ a ∈ w, c a = true) ∧ Clear c rest := by
  refine ⟨text.takeWhile c, text.dropWhile c, List.takeWhile_append_dropWhile.symm, ?_, ?_⟩
  · exact fun a ha => List.all_eq_true.mp List.all_takeWhile a ha
  · intro a ha
    have h := List.head?_dropWhile_not c text
    rw [Option.mem_def.mp ha] at h
    exact h

theorem eq_of_signs_word {text w : List α} {more : List (Sign α)}
    (h : k.signs text = .word w :: more) :
    ∃ rest, text = w ++ rest ∧ w ≠ [] ∧ (∀ a ∈ w, k.isWord a = true) ∧ Clear k.isWord rest ∧
      k.signs rest = more := by
  obtain ⟨a, tail, rfl, hheads⟩ := heads_of_signs h
  cases hheads with
  | word w ha =>
    obtain ⟨v, rest, htail, hv, hclear⟩ := exists_run k.isWord tail
    have hall : ∀ b ∈ a :: v, k.isWord b = true := List.forall_mem_cons.mpr ⟨ha, hv⟩
    have heq := signs_word (List.cons_ne_nil a v) hall hclear
    rw [List.cons_append, ← htail, h, List.cons.injEq, Sign.word.injEq, List.cons.injEq] at heq
    obtain ⟨⟨-, rfl⟩, rfl⟩ := heq
    exact ⟨rest, by rw [htail, List.cons_append], List.cons_ne_nil _ _, hall, hclear, rfl⟩

theorem eq_of_signs_gap {text : List α} {more : List (Sign α)} (h : k.signs text = .gap :: more) :
    ∃ g rest, text = g ++ rest ∧ g ≠ [] ∧ (∀ a ∈ g, k.isSpace a = true) ∧ Clear k.isSpace rest ∧
      k.signs rest = more := by
  obtain ⟨a, tail, rfl, hheads⟩ := heads_of_signs h
  cases hheads with
  | gap ha =>
    obtain ⟨v, rest, htail, hv, hclear⟩ := exists_run k.isSpace tail
    have hall : ∀ b ∈ a :: v, k.isSpace b = true := List.forall_mem_cons.mpr ⟨ha, hv⟩
    have heq := signs_gap (List.cons_ne_nil a v) hall hclear
    rw [List.cons_append, ← htail, h, List.cons.injEq] at heq
    exact ⟨a :: v, rest, by rw [htail, List.cons_append], List.cons_ne_nil _ _, hall, hclear,
      heq.2.symm⟩

theorem eq_of_signs_mark {text : List α} {a : α} {more : List (Sign α)}
    (h : k.signs text = .mark a :: more) :
    ∃ rest, text = a :: rest ∧ k.isWord a = false ∧ k.isSpace a = false ∧ k.signs rest = more := by
  obtain ⟨b, rest, rfl, hheads⟩ := heads_of_signs h
  cases hheads with
  | mark hw hs =>
    rw [signs_mark hw hs, List.cons.injEq] at h
    exact ⟨rest, rfl, hw, hs, h.2⟩

/-! ## Joined readings -/

/-- A sign in front of signs that may go on with it. -/
def join : Sign α → List (Sign α) → List (Sign α)
  | .word v, .word w :: more => .word (v ++ w) :: more
  | .gap, .gap :: more => .gap :: more
  | x, other => x :: other

theorem push_join (a : α) (x : Sign α) (signs : List (Sign α)) :
    k.push a (join x signs) = (k.push a [x]).foldr join signs := by
  by_cases hw : k.isWord a = true
  · cases x with
    | word v =>
      cases signs with
      | nil => simp [push, join, hw]
      | cons y more => cases y <;> simp [push, join, hw]
    | gap =>
      cases signs with
      | nil => simp [push, join, hw]
      | cons y more => cases y <;> simp [push, join, hw]
    | mark b => simp [push, join, hw]
  · by_cases hs : k.isSpace a = true
    · cases x with
      | word v =>
        cases signs with
        | nil => simp [push, join, hw, hs]
        | cons y more => cases y <;> simp [push, join, hw, hs]
      | gap =>
        cases signs with
        | nil => simp [push, join, hw, hs]
        | cons y more => cases y <;> simp [push, join, hw, hs]
      | mark b => simp [push, join, hw, hs]
    · simp [push, join, hw, hs]

theorem push_foldr_join (a : α) (xs signs : List (Sign α)) :
    k.push a (xs.foldr join signs) = (k.push a xs).foldr join signs := by
  cases xs with
  | nil =>
    by_cases hw : k.isWord a = true
    · cases signs with
      | nil => simp [push, join, hw]
      | cons y more => cases y <;> simp [push, join, hw]
    · by_cases hs : k.isSpace a = true
      · cases signs with
        | nil => simp [push, join, hw, hs]
        | cons y more => cases y <;> simp [push, join, hw, hs]
      · simp [push, join, hw, hs]
  | cons x xs =>
    have hsplit : k.push a (x :: xs) = k.push a [x] ++ xs := by
      rw [← push_append, List.singleton_append]
    rw [hsplit, List.foldr_append, List.foldr_cons, push_join]

theorem signs_append_eq (s t : List α) : k.signs (s ++ t) = (k.signs s).foldr join (k.signs t) := by
  induction s with
  | nil => rfl
  | cons a s ih => rw [List.cons_append, signs_cons, ih, push_foldr_join, ← signs_cons]

/-- What a joined text is read as depends on what its parts are read as. -/
theorem signs_append_congr {s s' t t' : List α} (hs : k.signs s = k.signs s')
    (ht : k.signs t = k.signs t') : k.signs (s ++ t) = k.signs (s' ++ t') := by
  rw [signs_append_eq, signs_append_eq, hs, ht]

/-! ## Cuts -/

/-- A cut that splits neither a word nor a gap. -/
def Cut (k : Classes α) (s t : List α) : Prop :=
  ∀ a ∈ s.getLast?, (k.isWord a = true → Clear k.isWord t) ∧ (k.isSpace a = true → Clear k.isSpace t)

@[simp] theorem cut_nil (t : List α) : Cut k [] t := by simp [Cut]

@[simp] theorem cut_singleton {a : α} {t : List α} :
    Cut k [a] t ↔ (k.isWord a = true → Clear k.isWord t) ∧ (k.isSpace a = true → Clear k.isSpace t) := by
  simp [Cut]

@[simp] theorem cut_cons_cons {a b : α} {s t : List α} : Cut k (a :: b :: s) t ↔ Cut k (b :: s) t := by
  simp [Cut]

/-- A mark can be cut off. -/
theorem cut_mark {a : α} (hw : k.isWord a = false) (hs : k.isSpace a = false) (s t : List α) :
    Cut k s (a :: t) :=
  fun _ _ => ⟨fun _ => clear_cons.mpr hw, fun _ => clear_cons.mpr hs⟩

theorem push_singleton {a : α} {t : List α} (h : Cut k [a] t) :
    k.push a (k.signs t) = k.push a [] ++ k.signs t := by
  obtain ⟨hword, hspace⟩ := cut_singleton.mp h
  by_cases hw : k.isWord a = true
  · rw [push_word hw _ (ne_word_of_clear (hword hw)), push_word hw [] (by simp)]
    rfl
  · by_cases hs : k.isSpace a = true
    · rw [push_gap hs _ (ne_gap_of_clear (hspace hs)), push_gap hs [] (by simp)]
      rfl
    · rw [push_mark (by simpa using hw) (by simpa using hs),
        push_mark (by simpa using hw) (by simpa using hs)]
      rfl

/-- Both sides of a cut are read on their own. -/
theorem signs_append_of_cut {s t : List α} (h : Cut k s t) :
    k.signs (s ++ t) = k.signs s ++ k.signs t := by
  induction s with
  | nil => rfl
  | cons a s ih =>
    cases s with
    | nil => exact push_singleton h
    | cons b s =>
      obtain ⟨first, more, heq, -⟩ := push_heads (k := k) b (k.signs s)
      have hcons : k.signs (b :: s) = first :: more := heq
      rw [List.cons_append, signs_cons, ih (cut_cons_cons.mp h), signs_cons k a, hcons, push_append]

/-- A cut of what is read is a cut of the text. -/
theorem exists_cut {text : List α} {earlier later : List (Sign α)}
    (h : k.signs text = earlier ++ later) :
    ∃ s t, text = s ++ t ∧ Cut k s t ∧ k.signs s = earlier ∧ k.signs t = later := by
  induction earlier generalizing text with
  | nil => exact ⟨[], text, rfl, cut_nil _, rfl, h⟩
  | cons x earlier ih =>
    cases x with
    | word w =>
      obtain ⟨rest, rfl, hne, hw, hclear, hmore⟩ := eq_of_signs_word h
      obtain ⟨s, t, rfl, hcut, rfl, rfl⟩ := ih hmore
      refine ⟨w ++ s, t, (List.append_assoc _ _ _).symm, ?_, ?_, rfl⟩
      · cases s with
        | nil =>
          intro a ha
          have hmem : a ∈ w := List.mem_of_getLast? (by simpa using ha)
          rw [List.nil_append] at hclear
          exact ⟨fun _ => hclear, fun hs => absurd (hw a hmem) (by simp [isWord_eq_false hs])⟩
        | cons b s =>
          intro a ha
          rw [List.getLast?_append_of_ne_nil _ (List.cons_ne_nil b s)] at ha
          exact hcut a ha
      · refine signs_word hne hw ?_
        cases s with
        | nil => exact clear_nil _
        | cons b s => exact hclear
    | gap =>
      obtain ⟨g, rest, rfl, hne, hg, hclear, hmore⟩ := eq_of_signs_gap h
      obtain ⟨s, t, rfl, hcut, rfl, rfl⟩ := ih hmore
      refine ⟨g ++ s, t, (List.append_assoc _ _ _).symm, ?_, ?_, rfl⟩
      · cases s with
        | nil =>
          intro a ha
          have hmem : a ∈ g := List.mem_of_getLast? (by simpa using ha)
          rw [List.nil_append] at hclear
          exact ⟨fun hwd => absurd hwd (by simp [isWord_eq_false (hg a hmem)]), fun _ => hclear⟩
        | cons b s =>
          intro a ha
          rw [List.getLast?_append_of_ne_nil _ (List.cons_ne_nil b s)] at ha
          exact hcut a ha
      · refine signs_gap hne hg ?_
        cases s with
        | nil => exact clear_nil _
        | cons b s => exact hclear
    | mark a =>
      obtain ⟨rest, rfl, hw, hs, hmore⟩ := eq_of_signs_mark h
      obtain ⟨s, t, rfl, hcut, rfl, rfl⟩ := ih hmore
      refine ⟨a :: s, t, rfl, ?_, signs_mark hw hs s, rfl⟩
      cases s with
      | nil => simp [cut_singleton, hw, hs]
      | cons b s => exact cut_cons_cons.mpr hcut

end Classes

end AccountingPlatform.Lib
