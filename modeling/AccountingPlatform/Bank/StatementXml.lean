/-
  Reading the XML of a statement within the bounds of the adapter (`_parse_bounded_xml`).

  expat is a parameter. Of it the code relies on the events being finite and well nested, and
  `ExpatStream d` has no other inhabitants: it is what expat delivers while `d` elements are
  open. Within the bounds reading builds what the events say (`read_of_withinBounds`); it
  raises nothing but validation errors and the `LookupError` of expat itself
  (`parseBoundedXml_raises_iff`).
-/
import AccountingPlatform.Bank.Assignments
import AccountingPlatform.Lib.XmlTree

namespace AccountingPlatform.Bank

open AccountingPlatform.Lib AccountingPlatform.Lib.Xml AccountingPlatform.Core
  AccountingPlatform.Postgres

/-! ## Events -/

/-- What expat delivers while `d` elements are open. Nothing follows an event whose handler
    raises. -/
inductive ExpatStream : ℕ → Type
  | finished : ExpatStream 0
  | expatError {d : ℕ} : ExpatStream d
  /-- `LookupError` of a declared encoding that Python does not know. -/
  | lookupError {d : ℕ} : ExpatStream d
  | doctypeDecl {d : ℕ} : ExpatStream d
  | entityDecl {d : ℕ} : ExpatStream d
  | externalEntityRef {d : ℕ} : ExpatStream d
  | processingInstruction {d : ℕ} (target : String) : ExpatStream d
  | startElement {d : ℕ} (name : String) (attributes : List (String × String))
      (rest : ExpatStream (d + 1)) : ExpatStream d
  | endElement {d : ℕ} (rest : ExpatStream d) : ExpatStream (d + 1)
  | characterData {d : ℕ} (text : String) (rest : ExpatStream d) : ExpatStream d

/-- The elements not yet ended, the innermost first. -/
def OpenElements : ℕ → Type
  | 0 => Unit
  | d + 1 => Element × OpenElements d

def noneOpen : OpenElements 0 := ()

def OpenElements.push {d : ℕ} (stack : OpenElements d) (element : Element) : OpenElements (d + 1) :=
  (element, stack)

/-- `stack[-1].text += text`. -/
def OpenElements.addText : {d : ℕ} → OpenElements d → String → OpenElements d
  | 0, _, _ => ()
  | _ + 1, (element, rest), text => ({ element with text := element.text ++ text }, rest)

/-- `stack.pop()`: the element joins the children of its parent, or is the root. -/
def OpenElements.pop : {d : ℕ} → OpenElements (d + 1) → Option Element → OpenElements d × Option Element
  | 0, (element, _), _ => ((), some element)
  | _ + 1, (element, parent, rest), root =>
    (({ parent with children := parent.children ++ [element] }, rest), root)

/-! ## Bounds -/

def maxXmlDepth : ℕ := 32
def maxElementCount : ℕ := 20000
def maxAttributeCount : ℕ := 20000
def maxTextBytes : ℕ := 262144

/-- `stats`, but for the depth: that is the number of open elements. -/
structure XmlStats where
  elements : ℕ
  attributes : ℕ
  textBytes : ℕ

/-- `_split_expat_name`. -/
def splitExpatName (name : String) : String × String :=
  match name.toList.dropWhile fun c => c != ' ' with
  | [] => ("", name)
  | _ :: localName => (String.ofList (name.toList.takeWhile fun c => c != ' '), String.ofList localName)

def attributeDict (attributes : List (String × String)) : Dict String String :=
  attributes.foldl (fun attrib pair => attrib.set pair.1 pair.2) Dict.empty

/-- `_XmlElement` of a start tag. -/
def startedElement (name : String) (attributes : List (String × String)) : Element where
  localName := (splitExpatName name).2
  namespaceName := (splitExpatName name).1
  attributes := attributeDict attributes
  text := ""
  children := []

def XmlStats.addElement (stats : XmlStats) (element : Element) : XmlStats where
  elements := stats.elements + 1
  attributes := stats.attributes + element.attributes.entries.length
  textBytes := stats.textBytes

def XmlStats.addText (stats : XmlStats) (text : String) : XmlStats where
  elements := stats.elements
  attributes := stats.attributes
  textBytes := stats.textBytes + text.utf8ByteSize

/-- `_reject_pi`. -/
def processingInstructionError (target : String) : LedgerError :=
  if String.ofList (target.toList.map Char.toLower) ∈ ["xml-stylesheet", "xsl", "xslt"] then
    .validation ("XML stylesheet processing is not permitted. " ++
      "Remove processing instructions, then retry ingest.")
  else
    .validation ("XML processing instructions are not permitted. " ++
      "Remove processing instructions, then retry ingest.")

/-- The handlers, event after event. -/
def ExpatStream.read : {d : ℕ} → ExpatStream d → OpenElements d → Option Element → XmlStats →
    Result (Option Element)
  | _, .finished, _, root, _ => .ok root
  | _, .expatError, _, _, _ =>
    .error (.validation ("statement XML is not well formed. " ++
      "Supply a well-formed camt.053.001.14 document, then retry ingest."))
  | _, .lookupError, _, _, _ => .error .lookupError
  | _, .doctypeDecl, _, _, _ =>
    .error (.validation ("XML DTD declarations are not permitted. " ++
      "Remove the DTD, then retry ingest."))
  | _, .entityDecl, _, _, _ =>
    .error (.validation ("XML entity declarations are not permitted. " ++
      "Remove entity declarations, then retry ingest."))
  | _, .externalEntityRef, _, _, _ =>
    .error (.validation ("external XML entity or DTD resolution is not permitted. " ++
      "Remove DTD and external entities, then retry ingest."))
  | _, .processingInstruction target, _, _, _ => .error (processingInstructionError target)
  | d, .startElement name attributes rest, stack, root, stats => do
    let element := startedElement name attributes
    let stats := stats.addElement element
    require (d + 1 ≤ maxXmlDepth)
      (.validation ("XML depth exceeds the adapter bound. " ++
        "Send a shallower statement document, then retry ingest."))
    require (stats.elements ≤ maxElementCount)
      (.validation ("XML element count exceeds the adapter bound. " ++
        "Send a smaller statement document, then retry ingest."))
    require (stats.attributes ≤ maxAttributeCount)
      (.validation ("XML attribute count exceeds the adapter bound. " ++
        "Send a smaller statement document, then retry ingest."))
    rest.read (stack.push element) root stats
  | _, .endElement rest, stack, root, stats => rest.read (stack.pop root).1 (stack.pop root).2 stats
  | _, .characterData text rest, stack, root, stats => do
    let stats := stats.addText text
    require (stats.textBytes ≤ maxTextBytes)
      (.validation ("XML text length exceeds the adapter bound. " ++
        "Send a smaller statement document, then retry ingest."))
    rest.read (stack.addText text) root stats

/-- `_parse_bounded_xml`. -/
def parseBoundedXml (expat : ExpatStream 0) : Result Element := do
  let root ← expat.read noneOpen none ⟨0, 0, 0⟩
  fetch root (.validation ("statement XML has no document element. " ++
    "Supply a Document root, then retry ingest."))

/-! ## Events within the bounds -/

/-- The elements the events build and how they end, whatever the bounds. -/
def ExpatStream.build : {d : ℕ} → ExpatStream d → OpenElements d → Option Element →
    Result (Option Element)
  | _, .startElement name attributes rest, stack, root =>
    rest.build (stack.push (startedElement name attributes)) root
  | _, .endElement rest, stack, root => rest.build (stack.pop root).1 (stack.pop root).2
  | _, .characterData text rest, stack, root => rest.build (stack.addText text) root
  | _, ending, stack, root => ending.read stack root ⟨0, 0, 0⟩

/-- What the events count, after what was counted before them. -/
def ExpatStream.count : {d : ℕ} → ExpatStream d → XmlStats → XmlStats
  | _, .startElement name attributes rest, stats =>
    rest.count (stats.addElement (startedElement name attributes))
  | _, .endElement rest, stats => rest.count stats
  | _, .characterData text rest, stats => rest.count (stats.addText text)
  | _, _, stats => stats

/-- The most elements that are open at a time. -/
def ExpatStream.deepest : {d : ℕ} → ExpatStream d → ℕ
  | d, .startElement _ _ rest => max (d + 1) rest.deepest
  | _, .endElement rest => rest.deepest
  | _, .characterData _ rest => rest.deepest
  | _, _ => 0

structure XmlStats.IsBounded (stats : XmlStats) : Prop where
  elements : stats.elements ≤ maxElementCount
  attributes : stats.attributes ≤ maxAttributeCount
  textBytes : stats.textBytes ≤ maxTextBytes

instance decIsBounded (stats : XmlStats) : Decidable stats.IsBounded :=
  decidable_of_iff (stats.elements ≤ maxElementCount ∧ stats.attributes ≤ maxAttributeCount ∧
      stats.textBytes ≤ maxTextBytes)
    ⟨fun h => ⟨h.1, h.2.1, h.2.2⟩, fun h => ⟨h.elements, h.attributes, h.textBytes⟩⟩

/-- No event exceeds a bound of the adapter. -/
def ExpatStream.WithinBounds {d : ℕ} (expat : ExpatStream d) (stats : XmlStats) : Prop :=
  expat.deepest ≤ maxXmlDepth ∧ (expat.count stats).IsBounded

instance decWithinBounds {d : ℕ} (expat : ExpatStream d) (stats : XmlStats) :
    Decidable (expat.WithinBounds stats) :=
  inferInstanceAs (Decidable (_ ∧ _))

/-- Counting never goes back. -/
theorem le_count {d : ℕ} (expat : ExpatStream d) (stats : XmlStats) :
    stats.elements ≤ (expat.count stats).elements ∧
      stats.attributes ≤ (expat.count stats).attributes ∧
      stats.textBytes ≤ (expat.count stats).textBytes := by
  induction expat generalizing stats with
  | startElement name attributes rest ih =>
    obtain ⟨he, ha, ht⟩ := ih (stats.addElement (startedElement name attributes))
    exact ⟨(Nat.le_succ _).trans he, (Nat.le_add_right _ _).trans ha, ht⟩
  | endElement rest ih => exact ih stats
  | characterData text rest ih =>
    obtain ⟨he, ha, ht⟩ := ih (stats.addText text)
    exact ⟨he, ha, (Nat.le_add_right _ _).trans ht⟩
  | _ => exact ⟨Nat.le_refl _, Nat.le_refl _, Nat.le_refl _⟩

/-- Within the bounds the handlers build what the events say. -/
theorem read_of_withinBounds {d : ℕ} (expat : ExpatStream d) (stack : OpenElements d)
    (root : Option Element) (stats : XmlStats) (h : expat.WithinBounds stats) :
    expat.read stack root stats = expat.build stack root := by
  induction expat generalizing root stats with
  | startElement name attributes rest ih =>
    obtain ⟨hdepth, hcount⟩ := h
    rw [ExpatStream.deepest, Nat.max_le] at hdepth
    rw [ExpatStream.count] at hcount
    obtain ⟨he, ha, -⟩ := le_count rest (stats.addElement (startedElement name attributes))
    unfold ExpatStream.read ExpatStream.build
    dsimp only
    rw [require_of hdepth.1, ok_bind, require_of (he.trans hcount.elements), ok_bind,
      require_of (ha.trans hcount.attributes), ok_bind]
    exact ih _ _ _ ⟨hdepth.2, hcount⟩
  | endElement rest ih => exact ih _ _ _ h
  | characterData text rest ih =>
    obtain ⟨hdepth, hcount⟩ := h
    rw [ExpatStream.count] at hcount
    obtain ⟨-, -, ht⟩ := le_count rest (stats.addText text)
    unfold ExpatStream.read ExpatStream.build
    dsimp only
    rw [require_of (ht.trans hcount.textBytes), ok_bind]
    exact ih _ _ _ ⟨hdepth, hcount⟩
  | _ => rfl

/-- Beyond a bound the document is rejected. -/
theorem read_of_not_withinBounds {d : ℕ} (expat : ExpatStream d) (stack : OpenElements d)
    (root : Option Element) {stats : XmlStats} (hstats : stats.IsBounded)
    (h : ¬expat.WithinBounds stats) :
    ∃ message, expat.read stack root stats = .error (.validation message) := by
  induction expat generalizing root stats with
  | @startElement d name attributes rest ih =>
    unfold ExpatStream.read
    dsimp only
    by_cases hdepth : d + 1 ≤ maxXmlDepth
    · rw [require_of hdepth, ok_bind]
      by_cases he : (stats.addElement (startedElement name attributes)).elements ≤ maxElementCount
      · rw [require_of he, ok_bind]
        by_cases ha : (stats.addElement (startedElement name attributes)).attributes ≤
            maxAttributeCount
        · rw [require_of ha, ok_bind]
          refine ih _ _ ⟨he, ha, hstats.textBytes⟩ fun hrest => h ⟨?_, hrest.2⟩
          exact Nat.max_le.mpr ⟨hdepth, hrest.1⟩
        · exact ⟨_, by rw [require, if_neg ha]; rfl⟩
      · exact ⟨_, by rw [require, if_neg he]; rfl⟩
    · exact ⟨_, by rw [require, if_neg hdepth]; rfl⟩
  | endElement rest ih => exact ih _ _ hstats h
  | characterData text rest ih =>
    unfold ExpatStream.read
    dsimp only
    by_cases ht : (stats.addText text).textBytes ≤ maxTextBytes
    · rw [require_of ht, ok_bind]
      exact ih _ _ ⟨hstats.elements, hstats.attributes, ht⟩ h
    · exact ⟨_, by rw [require, if_neg ht]; rfl⟩
  | _ => exact absurd ⟨Nat.zero_le _, hstats⟩ h

/-! ## The events of a tree -/

mutual

/-- The events of an element, its text before its children, and what follows it. -/
def elementEvents : {d : ℕ} → Element → ExpatStream d → ExpatStream d
  | _, ⟨localName, namespaceName, attributes, text, children⟩, rest =>
    .startElement (namespaceName ++ " " ++ localName) attributes.entries
      (.characterData text (childrenEvents children (.endElement rest)))

def childrenEvents : {d : ℕ} → List Element → ExpatStream d → ExpatStream d
  | _, [], rest => rest
  | _, child :: children, rest => elementEvents child (childrenEvents children rest)

end

def documentEvents (document : Element) : ExpatStream 0 := elementEvents document .finished

mutual

/-- No namespace name has a space, as in every document. -/
def HasPlainNames : Element → Prop
  | ⟨_, namespaceName, _, _, children⟩ => ' ' ∉ namespaceName.toList ∧ HavePlainNames children

def HavePlainNames : List Element → Prop
  | [] => True
  | child :: children => HasPlainNames child ∧ HavePlainNames children

end

mutual

def decideHasPlainNames : (element : Element) → Decidable (HasPlainNames element)
  | ⟨_, namespaceName, _, _, children⟩ =>
    have := decideHavePlainNames children
    inferInstanceAs (Decidable (' ' ∉ namespaceName.toList ∧ HavePlainNames children))

def decideHavePlainNames : (elements : List Element) → Decidable (HavePlainNames elements)
  | [] => isTrue trivial
  | child :: children =>
    have := decideHasPlainNames child
    have := decideHavePlainNames children
    inferInstanceAs (Decidable (HasPlainNames child ∧ HavePlainNames children))

end

instance decHasPlainNames (element : Element) : Decidable (HasPlainNames element) :=
  decideHasPlainNames element

theorem splitExpatName_of_plain {namespaceName : String} (h : ' ' ∉ namespaceName.toList)
    (localName : String) : splitExpatName (namespaceName ++ " " ++ localName) = (namespaceName, localName) := by
  have hplain : ∀ c ∈ namespaceName.toList, (c != ' ') = true := by
    intro c hc
    rw [bne_iff_ne]
    exact fun hspace => h (hspace ▸ hc)
  have htext : (namespaceName ++ " " ++ localName).toList =
      namespaceName.toList ++ ' ' :: localName.toList := by
    rw [String.toList_append, String.toList_append, List.append_assoc]
    rfl
  have hfirst : ((' ' : Char) != ' ') = false := by decide
  unfold splitExpatName
  rw [htext, List.dropWhile_append_of_pos hplain, List.takeWhile_append_of_pos hplain,
    List.dropWhile_cons, List.takeWhile_cons, hfirst]
  simp only [Bool.false_eq_true, if_false, List.append_nil, String.ofList_toList]

theorem attributeDict_entries (attributes : Dict String String) :
    attributeDict attributes.entries = attributes := by
  have hfold : ∀ (pairs : List (String × String)) (start : Dict String String),
      ((start.entries ++ pairs).map Prod.fst).Nodup →
      (pairs.foldl (fun attrib pair => attrib.set pair.1 pair.2) start).entries = start.entries ++ pairs := by
    intro pairs
    induction pairs with
    | nil => intro start _; exact (List.append_nil _).symm
    | cons pair pairs ih =>
      intro start hnodup
      have hset : (start.set pair.1 pair.2).entries = start.entries ++ [pair] := by
        refine Dict.assign_of_not_mem fun hmem => ?_
        rw [List.map_append, List.map_cons, List.nodup_append] at hnodup
        exact hnodup.2.2 _ hmem _ List.mem_cons_self rfl
      rw [List.foldl_cons, ih (start.set pair.1 pair.2) (by
        rw [hset, List.append_assoc]
        exact hnodup), hset, List.append_assoc]
      rfl
  obtain ⟨entries, hnodup⟩ := attributes
  have hentries := hfold entries Dict.empty hnodup
  unfold attributeDict
  generalize List.foldl (fun attrib pair => attrib.set pair.1 pair.2) Dict.empty entries = built at hentries
  obtain ⟨builtEntries, hbuilt⟩ := built
  subst hentries
  rfl

/-- The element joins the innermost open one, or is the root. -/
def OpenElements.add : {d : ℕ} → OpenElements d → Element → Option Element → OpenElements d × Option Element
  | 0, _, element, _ => (noneOpen, some element)
  | _ + 1, (parent, rest), element, root =>
    (({ parent with children := parent.children ++ [element] }, rest), root)

/-- Elements join the innermost open one. -/
def OpenElements.addAll {d : ℕ} (stack : OpenElements (d + 1)) (elements : List Element) :
    OpenElements (d + 1) :=
  ({ stack.1 with children := stack.1.children ++ elements }, stack.2)

theorem addAll_nil {d : ℕ} (stack : OpenElements (d + 1)) : stack.addAll [] = stack := by
  obtain ⟨⟨localName, namespaceName, attributes, text, children⟩, rest⟩ := stack
  unfold OpenElements.addAll
  dsimp only
  rw [List.append_nil]

theorem addAll_cons {d : ℕ} (stack : OpenElements (d + 1)) (child : Element) (children : List Element)
    (root : Option Element) :
    (stack.add child root).1.addAll children = stack.addAll (child :: children) := by
  obtain ⟨parent, rest⟩ := stack
  show (({ parent with children := parent.children ++ [child] ++ children }, rest) : Element × OpenElements d) =
    ({ parent with children := parent.children ++ child :: children }, rest)
  rw [List.append_assoc, List.singleton_append]

theorem pop_push {d : ℕ} (stack : OpenElements d) (element : Element) (root : Option Element) :
    (stack.push element).pop root = stack.add element root := by
  cases d with
  | zero => rfl
  | succ d => rfl

mutual

theorem build_elementEvents (element : Element) (h : HasPlainNames element) {d : ℕ}
    (rest : ExpatStream d) (stack : OpenElements d) (root : Option Element) :
    (elementEvents element rest).build stack root =
      rest.build (stack.add element root).1 (stack.add element root).2 := by
  obtain ⟨localName, namespaceName, attributes, text, children⟩ := element
  unfold HasPlainNames at h
  have hstarted : (stack.push (startedElement (namespaceName ++ " " ++ localName) attributes.entries)).addText
      text = stack.push ⟨localName, namespaceName, attributes, text, []⟩ := by
    unfold OpenElements.push OpenElements.addText startedElement
    rw [splitExpatName_of_plain h.1, attributeDict_entries]
    dsimp only
    rw [String.empty_append]
  unfold elementEvents
  rw [ExpatStream.build, ExpatStream.build, hstarted, build_childrenEvents children h.2, ExpatStream.build]
  have hall : (stack.push ⟨localName, namespaceName, attributes, text, []⟩).addAll children =
      stack.push ⟨localName, namespaceName, attributes, text, children⟩ := rfl
  rw [hall, pop_push]

theorem build_childrenEvents (children : List Element) (h : HavePlainNames children) {d : ℕ}
    (rest : ExpatStream (d + 1)) (stack : OpenElements (d + 1)) (root : Option Element) :
    (childrenEvents children rest).build stack root = rest.build (stack.addAll children) root := by
  cases children with
  | nil =>
    unfold childrenEvents
    rw [addAll_nil]
  | cons child children =>
    unfold HavePlainNames at h
    unfold childrenEvents
    rw [build_elementEvents child h.1, build_childrenEvents children h.2, addAll_cons]
    rfl

end

/-- Within the bounds a document is read from its events. -/
theorem parseBoundedXml_documentEvents {document : Element} (h : HasPlainNames document)
    (hbounds : (documentEvents document).WithinBounds ⟨0, 0, 0⟩) :
    parseBoundedXml (documentEvents document) = .ok document := by
  unfold parseBoundedXml
  rw [read_of_withinBounds _ _ _ _ hbounds, documentEvents, build_elementEvents document h]
  rfl

/-! ## The bounds of a tree -/

mutual

/-- What the elements of a tree weigh together, each by its tag and text. -/
def weigh (weight : Element → ℕ) : Element → ℕ
  | ⟨localName, namespaceName, attributes, text, children⟩ =>
    weight ⟨localName, namespaceName, attributes, text, []⟩ + weighAll weight children

def weighAll (weight : Element → ℕ) : List Element → ℕ
  | [] => 0
  | child :: children => weigh weight child + weighAll weight children

end

mutual

def height : Element → ℕ
  | ⟨_, _, _, _, children⟩ => heights children + 1

def heights : List Element → ℕ
  | [] => 0
  | child :: children => max (height child) (heights children)

end

def attributeWeight (element : Element) : ℕ := element.attributes.entries.length

def textWeight (element : Element) : ℕ := element.text.utf8ByteSize

mutual

theorem count_elementEvents (element : Element) {d : ℕ} (rest : ExpatStream d) (stats : XmlStats) :
    (elementEvents element rest).count stats = rest.count
      ⟨stats.elements + weigh (fun _ => 1) element, stats.attributes + weigh attributeWeight element,
        stats.textBytes + weigh textWeight element⟩ := by
  obtain ⟨localName, namespaceName, attributes, text, children⟩ := element
  unfold elementEvents
  rw [ExpatStream.count, ExpatStream.count, count_childrenEvents children, ExpatStream.count]
  unfold weigh XmlStats.addText XmlStats.addElement startedElement attributeWeight textWeight
  dsimp only
  rw [attributeDict_entries, Nat.add_assoc, Nat.add_assoc, Nat.add_assoc]

theorem count_childrenEvents (children : List Element) {d : ℕ} (rest : ExpatStream d)
    (stats : XmlStats) : (childrenEvents children rest).count stats = rest.count
      ⟨stats.elements + weighAll (fun _ => 1) children, stats.attributes + weighAll attributeWeight children,
        stats.textBytes + weighAll textWeight children⟩ := by
  cases children with
  | nil => rfl
  | cons child children =>
    unfold childrenEvents weighAll
    rw [count_elementEvents child, count_childrenEvents children, Nat.add_assoc, Nat.add_assoc,
      Nat.add_assoc]

end

mutual

theorem deepest_elementEvents (element : Element) {d : ℕ} (rest : ExpatStream d) (n : ℕ) :
    (elementEvents element rest).deepest ≤ n ↔ d + height element ≤ n ∧ rest.deepest ≤ n := by
  obtain ⟨localName, namespaceName, attributes, text, children⟩ := element
  unfold elementEvents height
  rw [ExpatStream.deepest, ExpatStream.deepest, Nat.max_le, deepest_childrenEvents children,
    ExpatStream.deepest, ← and_assoc]
  refine and_congr_left' ?_
  cases children with
  | nil => exact and_iff_left (.inl rfl)
  | cons child children =>
    have hcons : child :: children ≠ [] := List.cons_ne_nil child children
    rw [or_iff_right hcons]
    omega

theorem deepest_childrenEvents (children : List Element) {d : ℕ} (rest : ExpatStream d) (n : ℕ) :
    (childrenEvents children rest).deepest ≤ n ↔
      (children = [] ∨ d + heights children ≤ n) ∧ rest.deepest ≤ n := by
  cases children with
  | nil =>
    unfold childrenEvents
    exact (and_iff_right (.inl rfl)).symm
  | cons child children =>
    unfold childrenEvents heights
    have hcons : child :: children ≠ [] := List.cons_ne_nil child children
    rw [deepest_elementEvents child, deepest_childrenEvents children, or_iff_right hcons]
    cases children with
    | nil =>
      unfold heights
      rw [Nat.max_zero]
      exact and_congr_right fun _ => and_iff_right (.inl rfl)
    | cons next children =>
      have hnext : next :: children ≠ [] := List.cons_ne_nil next children
      rw [or_iff_right hnext]
      omega

end

/-- A document is within the bounds when its tree is. -/
structure TreeWithinBounds (document : Element) : Prop where
  height : height document ≤ maxXmlDepth
  elements : weigh (fun _ => 1) document ≤ maxElementCount
  attributes : weigh attributeWeight document ≤ maxAttributeCount
  textBytes : weigh textWeight document ≤ maxTextBytes

instance decTreeWithinBounds (document : Element) : Decidable (TreeWithinBounds document) :=
  decidable_of_iff (height document ≤ maxXmlDepth ∧ weigh (fun _ => 1) document ≤ maxElementCount ∧
      weigh attributeWeight document ≤ maxAttributeCount ∧ weigh textWeight document ≤ maxTextBytes)
    ⟨fun ⟨hheight, he, ha, ht⟩ => ⟨hheight, he, ha, ht⟩,
      fun h => ⟨h.height, h.elements, h.attributes, h.textBytes⟩⟩

theorem withinBounds_documentEvents {document : Element} :
    (documentEvents document).WithinBounds ⟨0, 0, 0⟩ ↔ TreeWithinBounds document := by
  unfold ExpatStream.WithinBounds documentEvents
  rw [deepest_elementEvents, count_elementEvents]
  unfold ExpatStream.deepest ExpatStream.count
  simp only [Nat.zero_add, Nat.zero_le, and_true]
  constructor
  · rintro ⟨hheight, he, ha, ht⟩
    exact ⟨hheight, he, ha, ht⟩
  · intro h
    exact ⟨h.height, h.elements, h.attributes, h.textBytes⟩

/-! ## The elements of a document -/

/-- The elements that are open or closed below open ones. -/
def OpenElements.count : {d : ℕ} → OpenElements d → ℕ
  | 0, _ => 0
  | _ + 1, (element, rest) => weigh (fun _ => 1) element + rest.count

def rootCount (root : Option Element) : ℕ := (root.map (weigh fun _ => 1)).getD 0

theorem weigh_one (element : Element) : weigh (fun _ => 1) element = 1 + weighAll (fun _ => 1) element.children := by
  cases element
  rw [weigh]

theorem weighAll_append (weight : Element → ℕ) (elements others : List Element) :
    weighAll weight (elements ++ others) = weighAll weight elements + weighAll weight others := by
  induction elements with
  | nil => rw [List.nil_append, weighAll, Nat.zero_add]
  | cons element elements ih => rw [List.cons_append, weighAll, weighAll, ih, Nat.add_assoc]

theorem count_addText {d : ℕ} (stack : OpenElements d) (text : String) :
    (stack.addText text).count = stack.count := by
  cases d with
  | zero => rfl
  | succ d =>
    obtain ⟨element, rest⟩ := stack
    show weigh (fun _ => 1) { element with text := element.text ++ text } + rest.count =
      weigh (fun _ => 1) element + rest.count
    rw [weigh_one, weigh_one]

/-- An element that is closed is counted where it joins. -/
theorem count_pop {d : ℕ} (stack : OpenElements (d + 1)) (root : Option Element) :
    (stack.pop root).1.count + rootCount (stack.pop root).2 ≤ stack.count + rootCount root := by
  cases d with
  | zero =>
    obtain ⟨element, rest⟩ := stack
    exact (Nat.zero_add _).trans_le (Nat.le_add_right _ _)
  | succ d =>
    obtain ⟨element, parent, rest⟩ := stack
    show weigh (fun _ => 1) { parent with children := parent.children ++ [element] } + rest.count +
        rootCount root ≤
      weigh (fun _ => 1) element + (weigh (fun _ => 1) parent + rest.count) + rootCount root
    rw [weigh_one { parent with children := parent.children ++ [element] }, weighAll_append,
      weigh_one parent, weighAll, weighAll]
    omega

/-- A document has no more elements than were counted. -/
theorem read_count {d : ℕ} (expat : ExpatStream d) {stack : OpenElements d} {root : Option Element}
    {stats : XmlStats} (hcount : stack.count + rootCount root ≤ stats.elements)
    (hbound : stats.elements ≤ maxElementCount) {document : Element}
    (h : expat.read stack root stats = .ok (some document)) :
    weigh (fun _ => 1) document ≤ maxElementCount := by
  induction expat generalizing root stats with
  | finished =>
    cases h
    exact (Nat.le_add_left _ _).trans (hcount.trans hbound)
  | startElement name attributes rest ih =>
    unfold ExpatStream.read at h
    simp only [bind_eq_ok, require_eq_ok] at h
    obtain ⟨_, -, _, helements, _, -, hrest⟩ := h
    refine ih ?_ helements hrest
    show weigh (fun _ => 1) (startedElement name attributes) + stack.count + rootCount root ≤
      stats.elements + 1
    rw [weigh_one]
    show 1 + weighAll (fun _ => 1) [] + stack.count + rootCount root ≤ stats.elements + 1
    rw [weighAll]
    omega
  | endElement rest ih => exact ih ((count_pop stack root).trans hcount) hbound h
  | characterData text rest ih =>
    unfold ExpatStream.read at h
    simp only [bind_eq_ok, require_eq_ok] at h
    obtain ⟨_, -, hrest⟩ := h
    have hcount' : (stack.addText text).count + rootCount root ≤ (stats.addText text).elements := by
      rw [count_addText]
      exact hcount
    exact ih hcount' hbound hrest
  | _ => cases h

theorem parseBoundedXml_count {expat : ExpatStream 0} {document : Element}
    (h : parseBoundedXml expat = .ok document) : weigh (fun _ => 1) document ≤ maxElementCount := by
  unfold parseBoundedXml at h
  simp only [bind_eq_ok, fetch_eq_ok] at h
  obtain ⟨root, hread, rfl⟩ := h
  have hstart : OpenElements.count noneOpen + rootCount none ≤ XmlStats.elements ⟨0, 0, 0⟩ := Nat.le_refl 0
  exact read_count expat hstart (Nat.zero_le _) hread

/-! ## What reading raises -/

/-- The events end in the `LookupError`. -/
def ExpatStream.EndsInLookupError : {d : ℕ} → ExpatStream d → Prop
  | _, .lookupError => True
  | _, .startElement _ _ rest => rest.EndsInLookupError
  | _, .endElement rest => rest.EndsInLookupError
  | _, .characterData _ rest => rest.EndsInLookupError
  | _, _ => False

theorem processingInstructionError_isAccountingValidation (target : String) :
    (processingInstructionError target).isAccountingValidation := by
  unfold processingInstructionError
  split
  · trivial
  · trivial

theorem build_raises {d : ℕ} (expat : ExpatStream d) (stack : OpenElements d) (root : Option Element) :
    Raises (fun e => e.isAccountingValidation ∨ expat.EndsInLookupError) (expat.build stack root) := by
  induction expat generalizing root with
  | startElement name attributes rest ih => exact ih _ _
  | endElement rest ih => exact ih _ _
  | characterData text rest ih => exact ih _ _
  | finished => exact raises_ok root
  | lookupError => exact raises_error (.inr trivial)
  | processingInstruction target =>
    exact raises_error (.inl (processingInstructionError_isAccountingValidation target))
  | _ => exact raises_error (.inl trivial)

theorem build_of_endsInLookupError {d : ℕ} {expat : ExpatStream d} (h : expat.EndsInLookupError)
    (stack : OpenElements d) (root : Option Element) : expat.build stack root = .error .lookupError := by
  induction expat generalizing root with
  | startElement name attributes rest ih => exact ih h _ _
  | endElement rest ih => exact ih h _ _
  | characterData text rest ih => exact ih h _ _
  | lookupError => rfl
  | _ => exact absurd h id

/-- `LookupError` that no bound forestalls. -/
def ExpatStream.RaisesLookupError (expat : ExpatStream 0) : Prop :=
  expat.EndsInLookupError ∧ expat.WithinBounds ⟨0, 0, 0⟩

theorem parseBoundedXml_raises_iff {expat : ExpatStream 0} :
    Raises LedgerError.isAccountingValidation (parseBoundedXml expat) ↔ ¬expat.RaisesLookupError := by
  have hstart : XmlStats.IsBounded ⟨0, 0, 0⟩ := ⟨Nat.zero_le _, Nat.zero_le _, Nat.zero_le _⟩
  unfold parseBoundedXml
  constructor
  · rintro h ⟨hlookup, hbounds⟩
    refine (h .lookupError ?_).elim
    rw [read_of_withinBounds expat noneOpen none _ hbounds, build_of_endsInLookupError hlookup]
    rfl
  · intro h
    refine raises_bind ?_ fun root _ => raises_fetch trivial
    by_cases hbounds : expat.WithinBounds ⟨0, 0, 0⟩
    · rw [read_of_withinBounds expat noneOpen none _ hbounds]
      exact fun e he => (build_raises expat noneOpen none e he).resolve_right fun hlookup => h ⟨hlookup, hbounds⟩
    · obtain ⟨message, hread⟩ := read_of_not_withinBounds expat noneOpen none hstart hbounds
      rw [hread]
      exact raises_error trivial

end AccountingPlatform.Bank
