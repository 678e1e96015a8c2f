/-
  Element trees of XML documents and the child paths into them.

  A path names one child per step: the first of its name, or with a bracket the one of that
  place among the children of its name. A printed path is read back (`readPath_pathText`).
-/
import AccountingPlatform.Lib.Dict
import Mathlib.Data.List.TakeWhile
import Mathlib.Tactic.Common

namespace AccountingPlatform.Lib.Xml

/-! ## Elements -/

structure Element where
  localName : String
  namespaceName : String
  attributes : Dict String String
  text : String
  children : List Element

/-- Elements of a local name. -/
def named (name : String) (elements : List Element) : List Element :=
  elements.filter fun element => element.localName = name

/-! ## Child paths -/

/-- A name, and the place among the siblings of that name if one is given. -/
structure Step where
  name : String
  place : Option ℕ

def Step.pick (step : Step) (siblings : List Element) : Option Element :=
  match step.place with
  | none => (named step.name siblings).head?
  | some 0 => none
  | some (n + 1) => (named step.name siblings)[n]?

/-- The element a path leads to from some siblings. -/
def follow : List Step → List Element → Option Element
  | [], _ => none
  | [step], siblings => step.pick siblings
  | step :: next :: steps, siblings => do
    let element ← step.pick siblings
    follow (next :: steps) element.children

/-! ## Texts of paths -/

def Step.chars (step : Step) : List Char :=
  step.name.toList ++ match step.place with
    | none => []
    | some n => '[' :: (Nat.toDigits 10 n ++ [']'])

def pathText (steps : List Step) : String := String.ofList (['/'].intercalate (steps.map Step.chars))

/-- A step with its bracket, if it has one. -/
def readStep (chars : List Char) : Option Step :=
  let name := String.ofList (chars.takeWhile fun c => c != '[')
  match chars.dropWhile fun c => c != '[' with
  | [] => some ⟨name, none⟩
  | _ :: rest =>
    let digits := rest.takeWhile Char.isDigit
    if digits ≠ [] ∧ rest.dropWhile Char.isDigit = [']'] then some ⟨name, some (Nat.ofDigitChars 10 digits 0)⟩
    else none

def readPath (path : String) : Option (List Step) := (path.toList.splitOn '/').mapM readStep

/-- The element of a document that a path names, beginning with the name of the root. -/
def Element.resolve (document : Element) (path : String) : Option Element := do
  let steps ← readPath path
  follow steps [document]

/-- A name without the marks of a path. -/
def Step.IsPlain (step : Step) : Prop := '/' ∉ step.name.toList ∧ '[' ∉ step.name.toList

/-! ## Reading back -/

theorem readStep_chars {step : Step} (h : step.IsPlain) : readStep step.chars = some step := by
  obtain ⟨name, place⟩ := step
  have hname : ∀ c ∈ name.toList, (c != '[') = true := by
    intro c hc
    rw [bne_iff_ne]
    exact fun hbracket => h.2 (hbracket ▸ hc)
  unfold Step.chars readStep
  cases place with
  | none =>
    dsimp only
    rw [List.append_nil, List.takeWhile_eq_self_iff.mpr hname, List.dropWhile_eq_nil_iff.mpr hname,
      String.ofList_toList]
  | some n =>
    have hdigits : ∀ c ∈ Nat.toDigits 10 n, c.isDigit = true := fun c hc =>
      Nat.isDigit_of_mem_toDigits (by decide) (by decide) hc
    dsimp only
    rw [List.takeWhile_append_of_pos hname, List.dropWhile_append_of_pos hname]
    dsimp only [List.takeWhile, List.dropWhile]
    simp only [bne_self_eq_false, List.append_nil, String.ofList_toList]
    rw [List.takeWhile_append_of_pos hdigits, List.dropWhile_append_of_pos hdigits]
    have hclose : (']' : Char).isDigit = false := by decide
    simp only [List.takeWhile_cons, List.dropWhile_cons, hclose, Bool.false_eq_true, if_false,
      List.append_nil, and_true, ne_eq, Nat.toDigits_ne_nil, not_false_eq_true, if_true,
      Nat.ofDigitChars_ten_toDigits]

theorem slash_not_mem_chars {step : Step} (h : step.IsPlain) : '/' ∉ step.chars := by
  unfold Step.chars
  rw [List.mem_append]
  rintro (hc | hc)
  · exact h.1 hc
  · cases hplace : step.place with
    | none =>
      rw [hplace] at hc
      nomatch hc
    | some n =>
      rw [hplace] at hc
      simp only [List.mem_cons, List.mem_append, List.not_mem_nil, or_false] at hc
      rcases hc with hc | hc | hc
      · exact absurd hc (by decide)
      · exact absurd (Nat.isDigit_of_mem_toDigits (by decide) (by decide) hc) (by decide)
      · exact absurd hc (by decide)

theorem mapM_readStep_chars {steps : List Step} (h : ∀ step ∈ steps, step.IsPlain) :
    (steps.map Step.chars).mapM readStep = some steps := by
  induction steps with
  | nil => rfl
  | cons step steps ih =>
    rw [List.map_cons, List.mapM_cons, readStep_chars (h step List.mem_cons_self),
      ih fun s hs => h s (List.mem_cons_of_mem step hs)]
    rfl

/-- A printed path is read back. -/
theorem readPath_pathText {steps : List Step} (hne : steps ≠ []) (h : ∀ step ∈ steps, step.IsPlain) :
    readPath (pathText steps) = some steps := by
  have hslash : ∀ part ∈ steps.map Step.chars, '/' ∉ part := by
    intro part hpart
    obtain ⟨step, hstep, rfl⟩ := List.mem_map.mp hpart
    exact slash_not_mem_chars (h step hstep)
  unfold readPath pathText
  rw [String.toList_ofList, List.splitOn_intercalate '/' hslash (fun hnil => hne (List.map_eq_nil_iff.mp hnil)),
    mapM_readStep_chars h]

theorem pathText_injective {steps others : List Step} (hne : steps ≠ []) (hne' : others ≠ [])
    (h : ∀ step ∈ steps, step.IsPlain) (h' : ∀ step ∈ others, step.IsPlain)
    (hsame : pathText steps = pathText others) : steps = others := by
  have hread := congrArg readPath hsame
  rw [readPath_pathText hne h, readPath_pathText hne' h'] at hread
  exact Option.some.inj hread

end AccountingPlatform.Lib.Xml
