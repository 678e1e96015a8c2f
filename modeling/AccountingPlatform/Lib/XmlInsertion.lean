/-
  Elements inserted into trees.

  A place is a path of local names below some element. `Carries foreign places` relates two
  lists of siblings of which the second has in addition foreign elements, each with all below
  it, at the given places. What is looked up at other places is the same in both
  (`Carries.children_named`). `alter` changes the first element of a path, and so gives for
  every place two trees that differ there only (`carries_alter`).
-/
import AccountingPlatform.Lib.XmlTree
import Mathlib.Data.List.Forall2
import Mathlib.Data.List.Infix

namespace AccountingPlatform.Lib.Xml

/-! ## Places -/

/-- The places seen from the end of a path. -/
def beyond (path : List String) (places : List String → Prop) : List String → Prop := fun place =>
  places (path ++ place)

/-- None of the places is on the way to the end of a path. -/
def Clear : (List String → Prop) → List String → Prop
  | _, [] => True
  | places, name :: path => ¬places [name] ∧ Clear (beyond [name] places) path

theorem beyond_append (path path' : List String) (places : List String → Prop) :
    beyond path' (beyond path places) = beyond (path ++ path') places := by
  funext place
  unfold beyond
  rw [List.append_assoc]

theorem clear_append {places : List String → Prop} {path path' : List String} :
    Clear places (path ++ path') ↔ Clear places path ∧ Clear (beyond path places) path' := by
  induction path generalizing places with
  | nil => exact (and_iff_right trivial).symm
  | cons name path ih =>
    rw [List.cons_append, Clear, Clear, ih, beyond_append, and_assoc]
    rfl

/-- The beginnings of a path, but for the empty one. -/
def placesOn : List String → List (List String)
  | [] => []
  | name :: path => [name] :: (placesOn path).map (name :: ·)

theorem clear_iff {places : List String → Prop} {path : List String} :
    Clear places path ↔ ∀ place ∈ placesOn path, ¬places place := by
  induction path generalizing places with
  | nil => exact iff_of_true trivial nofun
  | cons name path ih =>
    rw [Clear, ih, placesOn, List.forall_mem_cons, List.forall_mem_map]
    rfl

/-! ## Insertion -/

/-- Two tags with the text between them. -/
structure SameTag (element other : Element) : Prop where
  localName : other.localName = element.localName
  namespaceName : other.namespaceName = element.namespaceName
  attributes : other.attributes = element.attributes
  text : other.text = element.text

theorem SameTag.refl (element : Element) : SameTag element element := ⟨rfl, rfl, rfl, rfl⟩

/-- The second siblings are the first ones with foreign elements at the places. -/
inductive Carries (foreign : Element → Prop) :
    (List String → Prop) → List Element → List Element → Prop
  | nil {places} : Carries foreign places [] []
  | keep {places element other rest others} (htag : SameTag element other)
      (hchildren : Carries foreign (beyond [element.localName] places) element.children other.children)
      (hrest : Carries foreign places rest others) :
      Carries foreign places (element :: rest) (other :: others)
  | insert {places inserted rest others} (hforeign : foreign inserted)
      (hplace : places [inserted.localName]) (hrest : Carries foreign places rest others) :
      Carries foreign places rest (inserted :: others)

/-- The second element is the first with foreign elements at the places below it. -/
structure Extends (foreign : Element → Prop) (places : List String → Prop)
    (element other : Element) : Prop where
  tag : SameTag element other
  children : Carries foreign places element.children other.children

variable {foreign : Element → Prop} {places : List String → Prop}

/-- Where nothing is inserted, the elements of a name are those there were. -/
theorem Carries.children_named {elements others : List Element} (h : Carries foreign places elements others)
    {name : String} (hname : ¬places [name]) :
    List.Forall₂ (Extends foreign (beyond [name] places)) (named name elements)
      (named name others) := by
  induction h with
  | nil => exact .nil
  | @keep places element other rest others htag hchildren hrest _ ih =>
    have hrest' := ih hname
    unfold named at hrest' ⊢
    by_cases hsame : element.localName = name
    · rw [List.filter_cons_of_pos (by simpa using hsame),
        List.filter_cons_of_pos (by simpa [htag.localName] using hsame)]
      subst hsame
      exact .cons ⟨htag, hchildren⟩ hrest'
    · rw [List.filter_cons_of_neg (by simpa using hsame),
        List.filter_cons_of_neg (by simpa [htag.localName] using hsame)]
      exact hrest'
  | @insert places inserted rest others _ hplace hrest ih =>
    have hother : inserted.localName ≠ name := fun hsame => hname (hsame ▸ hplace)
    unfold named
    rw [List.filter_cons_of_neg (by simpa using hother)]
    exact ih hname

theorem Carries.mono {elements others : List Element} (h : Carries foreign places elements others)
    {places' : List String → Prop} (hplaces : ∀ place, places place → places' place) :
    Carries foreign places' elements others := by
  induction h generalizing places' with
  | nil => exact .nil
  | keep htag _ _ ihchildren ihrest =>
    exact .keep htag (ihchildren fun place hplace => hplaces _ hplace) (ihrest hplaces)
  | insert hforeign hplace _ ih => exact .insert hforeign (hplaces _ hplace) (ih hplaces)

mutual

theorem Extends.refl (foreign : Element → Prop) (element : Element) (places : List String → Prop) :
    Extends foreign places element element := by
  obtain ⟨localName, namespaceName, attributes, text, children⟩ := element
  exact ⟨SameTag.refl _, Carries.refl foreign children places⟩

theorem Carries.refl (foreign : Element → Prop) (elements : List Element)
    (places : List String → Prop) : Carries foreign places elements elements := by
  cases elements with
  | nil => exact .nil
  | cons element rest =>
    exact .keep (SameTag.refl element) (Extends.refl foreign element _).children
      (Carries.refl foreign rest places)

end

/-! ## The first element of a path -/

/-- Replace the first element of a name. -/
def replaceFirst (name : String) (change : Element → List Element) : List Element → List Element
  | [] => []
  | element :: rest =>
    if element.localName = name then change element ++ rest
    else element :: replaceFirst name change rest

/-- Replace the first element of a path, each step of which leads to the first of its name. -/
def alter (change : Element → List Element) : List String → List Element → List Element
  | [], elements => elements
  | [name], elements => replaceFirst name change elements
  | name :: next :: path, elements => replaceFirst name
      (fun element => [{ element with children := alter change (next :: path) element.children }]) elements

/-- An element of a path, moved to another namespace. -/
def moved (namespaceName : String) (element : Element) : List Element :=
  [{ element with namespaceName := namespaceName }]

def removed (_ : Element) : List Element := []

theorem replaceFirst_carries {name : String} {change change' : Element → List Element}
    (h : ∀ element, element.localName = name → ∀ rest,
      Carries foreign places (change element ++ rest) (change' element ++ rest))
    (elements : List Element) :
    Carries foreign places (replaceFirst name change elements) (replaceFirst name change' elements) := by
  induction elements with
  | nil => exact .nil
  | cons element rest ih =>
    unfold replaceFirst
    by_cases hname : element.localName = name
    · rw [if_pos hname, if_pos hname]
      exact h element hname rest
    · rw [if_neg hname, if_neg hname]
      exact .keep (SameTag.refl element) (Carries.refl foreign _ _) ih

/-- One tree without the first element of a path, one with this element in a foreign namespace. -/
theorem carries_alter {namespaceName : String}
    (hforeign : ∀ element : Element, foreign { element with namespaceName := namespaceName })
    (path : List String) (elements : List Element) :
    Carries foreign (fun place => place = path) (alter removed path elements)
      (alter (moved namespaceName) path elements) := by
  induction path generalizing elements with
  | nil => exact Carries.refl foreign elements _
  | cons name path ih =>
    cases path with
    | nil =>
      refine replaceFirst_carries (fun element hname rest => ?_) elements
      exact .insert (hforeign element) (congrArg (fun n => [n]) hname) (Carries.refl foreign rest _)
    | cons next path =>
      refine replaceFirst_carries (fun element hname rest => ?_) elements
      refine .keep ⟨rfl, rfl, rfl, rfl⟩ ?_ (Carries.refl foreign rest _)
      have hbeyond : beyond [element.localName] (fun place => place = name :: next :: path) =
          fun place => place = next :: path := by
        funext place
        show (element.localName :: place = name :: next :: path) = (place = next :: path)
        rw [hname, List.cons.injEq, eq_self, true_and]
      rw [hbeyond]
      exact ih element.children

end AccountingPlatform.Lib.Xml
