/-
  The target lists of the append-only gate, in words, gaps and marks.

  The second expression takes what stands behind a command up to the next semicolon, cuts it
  at the options and at the commas, and takes the name of every target apart. Each of these
  steps says the same of the signs of a text.
-/
import AccountingPlatform.Scripts.SqlForms

namespace AccountingPlatform.Scripts

open AccountingPlatform.Lib AccountingPlatform.Core
open Pattern
open Classes hiding isSpace isWord

variable {t : UnicodeTable}

/-! ## One target -/

def dropOnly (ts : List (Sign Char)) : List (Sign Char) :=
  match dropGap ts with
  | .word w :: .gap :: rest => if spells "ONLY" w then rest else ts
  | _ => ts

def trimSigns (ts : List (Sign Char)) : List (Sign Char) := trimEnd (dropGap ts)

def dropStar (ts : List (Sign Char)) : List (Sign Char) :=
  if ts.getLast? = some (.mark '*') then ts.dropLast else ts

def lastPartSigns (ts : List (Sign Char)) : List (Sign Char) :=
  (ts.reverse.takeWhile (· ≠ .mark '.')).reverse

/-- The signs of the identifier of a raw target. -/
def identifierSigns (ts : List (Sign Char)) : List (Sign Char) :=
  trimSigns (lastPartSigns (trimSigns (dropStar (trimSigns (dropOnly ts)))))

/-- One word in lower case, or one such word between quotes. -/
def isProtectedName (ts : List (Sign Char)) : Bool :=
  match ts with
  | [.word w] => protectedTables.any fun name => lowered w == name.toList
  | [.mark '"', .word w, .mark '"'] => protectedTables.any fun name => lowered w == name.toList
  | _ => false

def targetNamesJournal (ts : List (Sign Char)) : Bool := isProtectedName (identifierSigns ts)

theorem signs_dropWhile (text : List Char) :
    t.classes.signs (text.dropWhile isSpace) = dropGap (t.classes.signs text) := by
  obtain ⟨g, rest, rfl, hg, hclear⟩ := exists_run isSpace text
  rw [dropGap_signs hg hclear, List.dropWhile_append_of_pos hg]
  cases rest with
  | nil => rfl
  | cons c rest => rw [List.dropWhile_cons_of_neg (by simp [clear_cons.mp hclear])]

theorem signs_stripped (text : List Char) :
    t.classes.signs (stripped text) = trimSigns (t.classes.signs text) := by
  rw [stripped, signs_rstrip, signs_dropWhile, trimSigns]

/-- A mark at the end of a text is the mark at the end of its signs. -/
theorem getLast?_signs_mark_iff {a : Char} (hw : t.classes.isWord a = false)
    (hs : t.classes.isSpace a = false) {text : List Char} :
    (t.classes.signs text).getLast? = some (.mark a) ↔ text.getLast? = some a := by
  constructor
  · intro h
    obtain ⟨ts, hts⟩ := List.getLast?_eq_some_iff.mp h
    obtain ⟨s, r, rfl, -, -, hr⟩ := exists_cut hts
    obtain ⟨rest, rfl, -, -, hnil⟩ := eq_of_signs_mark hr
    rw [signs_eq_nil_iff.mp hnil]
    simp
  · intro h
    obtain ⟨s, rfl⟩ := List.getLast?_eq_some_iff.mp h
    rw [signs_append_of_cut (cut_mark hw hs s []), signs_mark hw hs]
    simp

theorem signs_withoutStar (text : List Char) :
    t.classes.signs (withoutStar text) = dropStar (t.classes.signs text) := by
  have hiff : (t.classes.signs text).getLast? = some (.mark '*') ↔ text.getLast? = some '*' :=
    getLast?_signs_mark_iff rfl rfl
  by_cases h : text.getLast? = some '*'
  · rw [withoutStar, if_pos h, dropStar, if_pos (hiff.mpr h)]
    obtain ⟨s, rfl⟩ := List.getLast?_eq_some_iff.mp h
    rw [signs_append_of_cut (cut_mark rfl rfl s []), signs_mark rfl rfl, List.dropLast_concat]
    simp
  · rw [withoutStar, if_neg h, dropStar, if_neg (fun hc => h (hiff.mp hc))]

theorem mem_of_mark_mem_signs {a : Char} {text : List Char} (h : .mark a ∈ t.classes.signs text) :
    a ∈ text := by
  obtain ⟨earlier, later, hsigns⟩ := List.append_of_mem h
  obtain ⟨s, r, rfl, -, -, hr⟩ := exists_cut hsigns
  obtain ⟨rest, rfl, -, -, -⟩ := eq_of_signs_mark hr
  exact List.mem_append_right _ List.mem_cons_self

/-- The part behind the last of some marks. -/
theorem takeWhile_reverse {β : Type} [DecidableEq β] {a : β} (s r : List β) (h : a ∉ r) :
    ((s ++ a :: r).reverse.takeWhile (· ≠ a)).reverse = r := by
  have hall : ∀ b ∈ r.reverse, decide (b ≠ a) = true := by
    intro b hb
    refine decide_eq_true fun heq => h ?_
    rwa [← heq, ← List.mem_reverse]
  rw [List.reverse_append, List.reverse_cons, List.append_assoc,
    List.takeWhile_append_of_pos hall, List.singleton_append, List.takeWhile_cons_of_neg (by simp),
    List.append_nil, List.reverse_reverse]

theorem takeWhile_reverse_of_not_mem {β : Type} [DecidableEq β] {a : β} {r : List β} (h : a ∉ r) :
    (r.reverse.takeWhile (· ≠ a)).reverse = r := by
  have hall : ∀ b ∈ r.reverse, decide (b ≠ a) = true := by
    intro b hb
    refine decide_eq_true fun heq => h ?_
    rwa [← heq, ← List.mem_reverse]
  have hself : (r.reverse ++ []).takeWhile (fun b => decide (b ≠ a)) =
      r.reverse ++ [].takeWhile (fun b => decide (b ≠ a)) := List.takeWhile_append_of_pos hall
  rw [List.append_nil, List.takeWhile_nil, List.append_nil] at hself
  rw [hself, List.reverse_reverse]

/-- A text with a letter in it has a last one. -/
theorem exists_last {β : Type} [DecidableEq β] {a : β} {l : List β} (h : a ∈ l) :
    ∃ s r, l = s ++ a :: r ∧ a ∉ r := by
  obtain ⟨s, r, hrev, hs⟩ := List.eq_append_cons_of_mem (List.mem_reverse.mpr h)
  exact ⟨r.reverse, s.reverse, by simpa using congrArg List.reverse hrev, by simpa using hs⟩

theorem signs_lastPart (text : List Char) :
    t.classes.signs (lastPart text) = lastPartSigns (t.classes.signs text) := by
  have hlast : lastPart text = (text.reverse.takeWhile (· ≠ '.')).reverse := by
    unfold lastPart
    congr 2
    funext c
    by_cases h : c = '.' <;> simp [h]
  rw [hlast, lastPartSigns]
  by_cases h : '.' ∈ text
  · obtain ⟨s, r, rfl, hr⟩ := exists_last h
    rw [takeWhile_reverse s r hr, signs_append_of_cut (cut_mark rfl rfl s r), signs_mark rfl rfl,
      takeWhile_reverse _ _ fun hmem => hr (mem_of_mark_mem_signs hmem)]
  · rw [takeWhile_reverse_of_not_mem h,
      takeWhile_reverse_of_not_mem fun hmem => h (mem_of_mark_mem_signs hmem)]

theorem ends_keyword {name : String} {w : List Char} (h : spells name w = true)
    (before rest : List Char) :
    ends (keyword name) ⟨before, w ++ rest⟩ = [⟨w.reverse ++ before, rest⟩] := by
  rw [spells, beq_iff_eq] at h
  exact ends_spelled (forall₂_keyword.mpr h) before rest

theorem ends_eq_nil_of_space {r : Pattern Char} (hr : StartsWord t r) {q : Place Char} {a : Char}
    {more : List Char} (hq : q.rest = a :: more) (ha : isSpace a = true) : ends r q = [] := by
  rw [List.eq_nil_iff_forall_not_mem]
  intro m hm
  obtain ⟨c, more', hrest, hc⟩ := hr q m hm
  rw [hq, List.cons.injEq] at hrest
  have hspace := t.classes.apart c hc
  rw [← hrest.1] at hspace
  exact absurd (hspace.symm.trans ha) (by simp)

theorem signs_withoutOnly (text : List Char) :
    t.classes.signs (withoutOnly text) = dropOnly (t.classes.signs text) := by
  have honly : IsKeyword "ONLY" := by decide
  obtain ⟨g, r, rfl, hg, hclear⟩ := exists_run isSpace text
  have hends : ends (.seq anySpaces (.seq (keyword "ONLY") spaces)) ⟨[], g ++ r⟩ =
      ends (.seq (keyword "ONLY") spaces) ⟨g.reverse ++ [], r⟩ :=
    ends_star_seq (fun q a more hq ha => ends_eq_nil_of_space (startsWord_keyword (t := t) honly _) hq ha)
      hg hclear []
  rw [withoutOnly, hends, dropOnly, dropGap_signs hg hclear]
  split
  · rename_i q others hq
    obtain ⟨m, hm, hqm⟩ := mem_ends_seq.mp (hq ▸ List.mem_cons_self)
    obtain ⟨w, hw, hread⟩ := mem_ends_keyword.mp hm
    obtain ⟨h, left, hh, hhs, hclear'⟩ := exists_run isSpace m.rest
    obtain ⟨h', hne', hhs', hread'⟩ := mem_ends_spaces.mp hqm
    have hne : h ≠ [] := by
      rintro rfl
      obtain ⟨a, h', rfl⟩ := List.exists_cons_of_ne_nil hne'
      rw [List.nil_append] at hh
      rw [← hh, hread'.1, List.cons_append, clear_cons] at hclear'
      exact absurd (hhs' a List.mem_cons_self) (by simp [hclear'])
    have hr : r = w ++ (h ++ left) := by rw [← hh]; exact hread.1
    have hstart : ends spaces ⟨w.reverse ++ (g.reverse ++ []), h ++ left⟩ = q :: others := by
      rw [← hq, hr, ends, ends_keyword hw]
      simp
    obtain ⟨others', heq, -⟩ := ends_plus_run hne hhs hclear' (w.reverse ++ (g.reverse ++ []))
    have hq' : q = ⟨h.reverse ++ (w.reverse ++ (g.reverse ++ [])), left⟩ :=
      (List.cons.inj (hstart.symm.trans heq)).1
    rw [hq', hr, signs_word (spells_ne_nil honly hw) (isWordChar_of_spells honly hw)
      (clear_word_of_space hne hhs), signs_gap hne hhs hclear']
    exact (if_pos hw).symm
  · rename_i hnil
    split
    · rename_i w rest hsigns
      rw [if_neg]
      intro hw
      obtain ⟨m, rfl, -, -, -, hm⟩ := eq_of_signs_word hsigns
      obtain ⟨h, left, rfl, hne, hh, -, -⟩ := eq_of_signs_gap hm
      have hmem : (⟨h.reverse ++ (w.reverse ++ (g.reverse ++ [])), left⟩ : Place Char) ∈
          ends (.seq (keyword "ONLY") spaces) ⟨g.reverse ++ [], w ++ (h ++ left)⟩ := by
        rw [mem_ends_seq, ends_keyword hw]
        exact ⟨_, List.mem_singleton.mpr rfl, mem_ends_spaces.mpr ⟨h, hne, hh, rfl, rfl⟩⟩
      rw [hnil] at hmem
      exact List.not_mem_nil hmem
    · rfl

/-! ## The name -/

/-- Lower case letters of a name come from letters of a word. -/
theorem isWordChar_of_lowered {w cs : List Char} (h : lowered w = cs)
    (hcs : ∀ c ∈ cs, c.isAlpha = true ∨ c = '_') : ∀ c ∈ w, t.classes.isWord c = true := by
  intro c hc
  have hmem : ∀ d ∈ (if c.toNat = 0x130 then ['i', Char.ofNat 0x307]
      else if c.toNat = 0x212a then ['k'] else [c.toLower]), d.isAlpha = true ∨ d = '_' := by
    intro d hd
    refine hcs d ?_
    rw [← h]
    exact List.mem_flatMap.mpr ⟨c, hc, hd⟩
  refine isWordChar_of_foldCase ?_
  unfold foldCase
  split
  · exact Or.inl (by decide)
  · split
    · exact Or.inl (by decide)
    · split
      · exact Or.inl (by decide)
      · rename_i hdot _ hk
        rw [if_neg (fun heq => hdot (Or.inl heq)), if_neg hk] at hmem
        exact hmem _ List.mem_cons_self

theorem isAlpha_of_protectedTables :
    ∀ name ∈ protectedTables, name.toList ≠ [] ∧ ∀ c ∈ name.toList, c.isAlpha = true ∨ c = '_' := by
  have hall : (protectedTables.all fun name => !name.toList.isEmpty &&
      name.toList.all fun c => c.isAlpha || c == '_') = true := by decide
  simpa only [List.all_eq_true, Bool.and_eq_true, Bool.not_eq_true', List.isEmpty_eq_false_iff,
    Bool.or_eq_true, beq_iff_eq] using hall

theorem undoubleQuotes_of_not_mem {l : List Char} (h : '"' ∉ l) : undoubleQuotes l = l := by
  fun_induction undoubleQuotes l with
  | case1 => rfl
  | case2 c => rfl
  | case3 c d rest hcd ih =>
    exact absurd (hcd.1 ▸ List.mem_cons_self) h
  | case4 c d rest hcd ih =>
    rw [ih fun hmem => h (List.mem_cons_of_mem _ hmem)]

theorem mem_undoubleQuotes {l : List Char} (h : '"' ∈ l) : '"' ∈ undoubleQuotes l := by
  fun_induction undoubleQuotes l with
  | case1 => exact h
  | case2 c => exact h
  | case3 c d rest hcd ih => exact List.mem_cons_self
  | case4 c d rest hcd ih =>
    rcases List.mem_cons.mp h with heq | h
    · exact heq ▸ List.mem_cons_self
    · exact List.mem_cons_of_mem _ (ih h)

theorem not_quote_of_isWord {c : Char} (h : t.classes.isWord c = true) : c ≠ '"' := by
  rintro rfl
  exact absurd h (by rw [isWord_quote]; exact Bool.false_ne_true)

/-- The identifier of a target, its quotes taken off. -/
def unquoted (identifier : List Char) : List Char :=
  if identifier.head? = some '"' ∧ identifier.getLast? = some '"' then
    undoubleQuotes identifier.tail.dropLast
  else identifier

theorem isProtectedName_iff {identifier : List Char} :
    (protectedTables.any fun name => lowered (unquoted identifier) == name.toList) =
      isProtectedName (t.classes.signs identifier) := by
  rw [Bool.eq_iff_iff]
  simp only [List.any_eq_true, beq_iff_eq]
  constructor
  · rintro ⟨name, hname, hlow⟩
    obtain ⟨hne, halpha⟩ := isAlpha_of_protectedTables name hname
    have hword := isWordChar_of_lowered (t := t) hlow halpha
    have hune : unquoted identifier ≠ [] := by
      intro hnil
      rw [hnil] at hlow
      exact hne hlow.symm
    by_cases hq : identifier.head? = some '"' ∧ identifier.getLast? = some '"'
    · have heq : unquoted identifier = undoubleQuotes identifier.tail.dropLast := if_pos hq
      have hnot : '"' ∉ identifier.tail.dropLast := by
        intro hmem
        exact not_quote_of_isWord (hword '"' (heq ▸ mem_undoubleQuotes hmem)) rfl
      rw [undoubleQuotes_of_not_mem hnot] at heq
      obtain ⟨s, hs⟩ := List.getLast?_eq_some_iff.mp hq.2
      subst hs
      cases s with
      | nil => exact absurd heq hune
      | cons c body =>
        obtain rfl : c = '"' := Option.some.inj hq.1
        have hbody : unquoted ('"' :: body ++ ['"']) = body := by
          rw [heq, List.cons_append, List.tail_cons, List.dropLast_concat]
        rw [hbody] at hword hune hlow
        rw [List.cons_append, signs_quoted, signs_of_word hune hword]
        simp only [isProtectedName, List.singleton_append, signs_nil]
        exact List.any_eq_true.mpr ⟨name, hname, beq_iff_eq.mpr hlow⟩
    · have heq : unquoted identifier = identifier := if_neg hq
      rw [heq] at hword hune hlow
      rw [signs_of_word hune hword]
      exact List.any_eq_true.mpr ⟨name, hname, beq_iff_eq.mpr hlow⟩
  · intro h
    unfold isProtectedName at h
    split at h
    · rename_i w hsigns
      obtain ⟨rest, rfl, hne, hword, -, hnil⟩ := eq_of_signs_word hsigns
      rw [signs_eq_nil_iff.mp hnil, List.append_nil]
      have heq : unquoted w = w := by
        refine if_neg fun hq => ?_
        obtain ⟨c, w', rfl⟩ := List.exists_cons_of_ne_nil hne
        exact not_quote_of_isWord (hword c List.mem_cons_self) (Option.some.inj hq.1)
      obtain ⟨name, hname, hlow⟩ := List.any_eq_true.mp h
      exact ⟨name, hname, by rw [heq]; exact beq_iff_eq.mp hlow⟩
    · rename_i w hsigns
      obtain ⟨body, left, rfl, hbody, hleft⟩ := eq_of_signs_quoted (i := [.word w]) hsigns
      obtain rfl := eq_of_signs_of_word hbody
      rw [signs_eq_nil_iff.mp hleft]
      obtain ⟨-, -, -, hword, -, -⟩ := eq_of_signs_word hbody
      have heq : unquoted ('"' :: (body ++ ['"'])) = body := by
        have hquotes : ('"' :: (body ++ ['"'])).head? = some '"' ∧
            ('"' :: (body ++ ['"'])).getLast? = some '"' :=
          ⟨rfl, by rw [← List.cons_append, List.getLast?_concat]⟩
        rw [unquoted, if_pos hquotes, List.tail_cons, List.dropLast_concat]
        exact undoubleQuotes_of_not_mem fun hmem => not_quote_of_isWord (hword _ hmem) rfl
      obtain ⟨name, hname, hlow⟩ := List.any_eq_true.mp h
      exact ⟨name, hname, by rw [heq]; exact beq_iff_eq.mp hlow⟩
    · exact absurd h (by simp)

/-- Whether a target is protected can be told from its signs. -/
theorem targetIsProtected_eq (rawTarget : List Char) :
    targetIsProtected rawTarget = targetNamesJournal (t.classes.signs rawTarget) := by
  have hsigns : t.classes.signs
      (stripped (lastPart (stripped (withoutStar (stripped (withoutOnly rawTarget)))))) =
      identifierSigns (t.classes.signs rawTarget) := by
    rw [signs_stripped, signs_lastPart, signs_stripped, signs_withoutStar, signs_stripped,
      signs_withoutOnly, identifierSigns]
  rw [targetNamesJournal, ← hsigns, ← isProtectedName_iff]
  rfl

/-! ## Where a word starts -/

/-- The place does not split a word. -/
def AtWord (t : UnicodeTable) (before text : List Char) : Prop :=
  ∀ c ∈ before.head?, t.classes.isWord c = true → Clear t.classes.isWord text

theorem atWord_of_not_word {before text : List Char}
    (h : ∀ c ∈ before.head?, t.classes.isWord c = false) : AtWord t before text :=
  fun c hc hw => absurd (h c hc) (by simp [hw])

theorem ends_edge_eq_nil {r : Pattern Char} (hr : StartsWord t r) {before text : List Char}
    (h : before.head?.any t.classes.isWord = true ∨ Clear t.classes.isWord text) :
    ends (.seq (edge t.isWordChar) r) ⟨before, text⟩ = [] := by
  rw [List.eq_nil_iff_forall_not_mem]
  intro q hq
  obtain ⟨m, hm, hq⟩ := mem_ends_seq.mp hq
  obtain ⟨rfl, hedge⟩ := mem_ends_edge.mp hm
  obtain ⟨c, more, hrest, hc⟩ := hr _ _ hq
  obtain rfl : text = c :: more := hrest
  rcases h with h | h
  · exact hedge (h.trans (Eq.symm hc))
  · exact absurd hc (by simp [clear_cons.mp h])

theorem ends_edge {r : Pattern Char} {before more : List Char} {c : Char}
    (h : AtWord t before (c :: more)) (hc : t.classes.isWord c = true) :
    ends (.seq (edge t.isWordChar) r) ⟨before, c :: more⟩ = ends r ⟨before, c :: more⟩ := by
  have hbefore : before.head?.any t.isWordChar = false := by
    cases hb : before.head? with
    | none => rfl
    | some b =>
      rw [Option.any_some]
      by_contra hw
      have hb' : t.isWordChar b = true := by simpa using hw
      have hclear := h b hb hb'
      exact absurd hc (by simp [clear_cons.mp hclear])
  have hc' : t.isWordChar c = true := hc
  rw [ends, ends]
  simp [hbefore, hc']

/-- A pattern that starts with a word starts neither inside a word nor outside of words. -/
theorem noStart_word {r : Pattern Char} (hr : StartsWord t r) {before w rest : List Char} {c : Char}
    (hc : t.classes.isWord c = true) (hw : ∀ a ∈ w, t.classes.isWord a = true) :
    NoStart (.seq (edge t.isWordChar) r) (c :: before) w rest := by
  intro u v huv _
  refine ends_edge_eq_nil hr (Or.inl ?_)
  rcases List.eq_nil_or_concat' u with rfl | ⟨u', a, rfl⟩
  · exact hc
  · rw [List.reverse_append, List.reverse_singleton, List.singleton_append, List.cons_append,
      List.head?_cons, Option.any_some]
    exact hw a (by rw [huv]; simp)

theorem noStart_clear {r : Pattern Char} (hr : StartsWord t r) {before w rest : List Char}
    (hw : ∀ a ∈ w, t.classes.isWord a = false) : NoStart (.seq (edge t.isWordChar) r) before w rest := by
  intro u v huv hv
  refine ends_edge_eq_nil hr (Or.inr ?_)
  exact clear_append hv fun a ha => hw a (by rw [huv]; exact List.mem_append_right _ ha)

/-! ## Options -/

def identityAt : List (Sign Char) → Bool
  | .gap :: .word v :: _ => spells "IDENTITY" v
  | _ => false

/-- The options of a list start here. -/
def optionAt : List (Sign Char) → Bool
  | .word w :: more =>
    spells "CASCADE" w || spells "RESTRICT" w ||
      ((spells "RESTART" w || spells "CONTINUE" w) && identityAt more)
  | _ => false

def beforeOptions : List (Sign Char) → List (Sign Char)
  | [] => []
  | x :: ts => if optionAt (x :: ts) then [] else x :: beforeOptions ts

/-- The words that start the options. -/
def optionWords : Pattern Char :=
  alt (seq (keyword "RESTART") (seq spaces (keyword "IDENTITY")))
    (alt (seq (keyword "CONTINUE") (seq spaces (keyword "IDENTITY")))
      (alt (keyword "CASCADE") (keyword "RESTRICT")))

theorem startsWord_keyword' {name : String} (hname : IsKeyword name) :
    StartsWord t (keyword name) := by
  intro p q h
  obtain ⟨w, hw, hrest, -⟩ := mem_ends_keyword.mp h
  obtain ⟨c, w', rfl⟩ := List.exists_cons_of_ne_nil (spells_ne_nil hname hw)
  exact ⟨c, w' ++ q.rest, hrest, isWordChar_of_spells hname hw c List.mem_cons_self⟩

theorem startsWord_optionWords : StartsWord t optionWords :=
  (startsWord_keyword (by decide) _).alt
    ((startsWord_keyword (by decide) _).alt
      ((startsWord_keyword' (by decide)).alt (startsWord_keyword' (by decide))))

/-- An edge behind a keyword is the end of a word. -/
theorem mem_edge_of_keyword {name : String} (hname : IsKeyword name) {w : List Char}
    {p m q : Place Char} (hw : spells name w = true) (hread : p.Reads w m) :
    q ∈ ends (edge t.isWordChar) m ↔ q = m ∧ Clear t.classes.isWord m.rest := by
  rw [mem_ends_edge]
  apply and_congr_right
  rintro -
  have hne := spells_ne_nil hname hw
  have hbefore : m.before.head?.any t.isWordChar = true := by
    rw [hread.2]
    obtain ⟨w', a, rfl⟩ := (List.eq_nil_or_concat' w).resolve_left hne
    rw [List.reverse_append, List.reverse_singleton, List.singleton_append, List.cons_append,
      List.head?_cons, Option.any_some]
    exact isWordChar_of_spells hname hw a (by simp)
  rw [hbefore]
  cases m.rest with
  | nil => simp
  | cons c rest =>
    rw [clear_cons, List.head?_cons, Option.any_some]
    change true ≠ t.classes.isWord c ↔ _
    cases t.classes.isWord c <;> simp

theorem signs_of_keyword {name : String} (hname : IsKeyword name) {w : List Char} {p m : Place Char}
    (hw : spells name w = true) (hread : p.Reads w m) (hclear : Clear t.classes.isWord m.rest) :
    t.classes.signs p.rest = .word w :: t.classes.signs m.rest := by
  rw [hread.1, signs_word (spells_ne_nil hname hw) (isWordChar_of_spells hname hw) hclear]

theorem isKeyword_identity : IsKeyword "IDENTITY" := by decide

/-- A keyword with `IDENTITY` behind it, as an expression and as signs. -/
theorem identity_iff {name : String} (hname : IsKeyword name) {p : Place Char} :
    (∃ m, m ∈ ends (.seq (keyword name) (.seq spaces (keyword "IDENTITY"))) p ∧
        ∃ q, q ∈ ends (edge t.isWordChar) m) ↔
      ∃ w more, t.classes.signs p.rest = .word w :: more ∧ spells name w = true ∧
        identityAt more = true := by
  constructor
  · rintro ⟨m, hm, q, hq⟩
    obtain ⟨a, ha, hm⟩ := mem_ends_seq.mp hm
    obtain ⟨b, hb, hm⟩ := mem_ends_seq.mp hm
    obtain ⟨w, hw, hpa⟩ := mem_ends_keyword.mp ha
    obtain ⟨g, hgne, hg, hab⟩ := mem_ends_spaces.mp hb
    obtain ⟨v, hv, hbm⟩ := mem_ends_keyword.mp hm
    have hclear := ((mem_edge_of_keyword isKeyword_identity hv hbm).mp hq).2
    have hvne := spells_ne_nil isKeyword_identity hv
    have hvword := isWordChar_of_spells (t := t) isKeyword_identity hv
    refine ⟨w, _, signs_of_keyword hname hw hpa ?_, hw, ?_⟩
    · rw [hab.1]
      exact clear_word_of_space hgne hg
    · rw [hab.1, signs_gap hgne hg (by rw [hbm.1]; exact clear_space_of_word hvne hvword), hbm.1,
        signs_word hvne hvword hclear]
      exact hv
  · rintro ⟨w, more, hsigns, hw, hid⟩
    unfold identityAt at hid
    split at hid
    · rename_i v ts
      obtain ⟨r, hr, -, -, -, hmore⟩ := eq_of_signs_word hsigns
      obtain ⟨g, r', rfl, hgne, hg, -, hmore'⟩ := eq_of_signs_gap hmore
      obtain ⟨r'', rfl, -, -, hclear, -⟩ := eq_of_signs_word hmore'
      have hread : ((p.past w (g ++ (v ++ r''))).past g (v ++ r'')).Reads v
          (((p.past w (g ++ (v ++ r''))).past g (v ++ r'')).past v r'') := Place.reads_past rfl
      refine ⟨_, mem_ends_seq.mpr ⟨_, mem_ends_keyword.mpr ⟨w, hw, Place.reads_past hr⟩,
        mem_ends_seq.mpr ⟨_, mem_ends_spaces.mpr ⟨g, hgne, hg, Place.reads_past rfl⟩,
          mem_ends_keyword.mpr ⟨v, hid, hread⟩⟩⟩, _,
        (mem_edge_of_keyword isKeyword_identity hid hread).mpr ⟨rfl, hclear⟩⟩
    · exact absurd hid (by simp)

theorem keyword_iff {name : String} (hname : IsKeyword name) {p : Place Char} :
    (∃ m, m ∈ ends (keyword name) p ∧ ∃ q, q ∈ ends (edge t.isWordChar) m) ↔
      ∃ w more, t.classes.signs p.rest = .word w :: more ∧ spells name w = true := by
  constructor
  · rintro ⟨m, hm, q, hq⟩
    obtain ⟨w, hw, hpm⟩ := mem_ends_keyword.mp hm
    exact ⟨w, _, signs_of_keyword hname hw hpm ((mem_edge_of_keyword hname hw hpm).mp hq).2, hw⟩
  · rintro ⟨w, more, hsigns, hw⟩
    obtain ⟨r, hr, -, -, hclear, -⟩ := eq_of_signs_word hsigns
    have hread := Place.reads_past hr
    exact ⟨_, mem_ends_keyword.mpr ⟨w, hw, hread⟩, _,
      (mem_edge_of_keyword hname hw hread).mpr ⟨rfl, hclear⟩⟩

/-- The options start where they do in the signs. -/
theorem optionWords_iff {p : Place Char} :
    (∃ q, q ∈ ends (.seq optionWords (edge t.isWordChar)) p) ↔
      optionAt (t.classes.signs p.rest) = true := by
  have hsplit : (∃ q, q ∈ ends (.seq optionWords (edge t.isWordChar)) p) ↔
      ∃ m, m ∈ ends optionWords p ∧ ∃ q, q ∈ ends (edge t.isWordChar) m := by
    simp only [mem_ends_seq]
    constructor
    · rintro ⟨q, m, hm, hq⟩
      exact ⟨m, hm, q, hq⟩
    · rintro ⟨m, hm, q, hq⟩
      exact ⟨q, m, hm, hq⟩
  rw [hsplit, optionWords]
  simp only [mem_ends_alt, or_and_right, exists_or]
  rw [identity_iff (by decide), identity_iff (by decide),
    keyword_iff (by decide), keyword_iff (by decide)]
  cases hsigns : t.classes.signs p.rest with
  | nil => simp [optionAt]
  | cons x more =>
    cases x with
    | word w =>
      simp only [List.cons.injEq, Sign.word.injEq, optionAt, Bool.or_eq_true, Bool.and_eq_true]
      grind
    | gap => simp [optionAt]
    | mark a => simp [optionAt]

/-- What stands before the options, told from the signs. -/
theorem signs_upTo_options {before text : List Char} (h : AtWord t before text) :
    t.classes.signs (upTo (listOptions t) before text) = beforeOptions (t.classes.signs text) := by
  have hstart : StartsWord t (.seq optionWords (edge t.isWordChar)) := startsWord_optionWords.seq _
  generalize hts : t.classes.signs text = ts
  induction ts generalizing before text with
  | nil =>
    rw [signs_eq_nil_iff.mp hts]
    rfl
  | cons x ts ih =>
    cases x with
    | word w =>
      obtain ⟨rest, rfl, hne, hw, hclear, hrest⟩ := eq_of_signs_word hts
      obtain ⟨c, w, rfl⟩ := List.exists_cons_of_ne_nil hne
      obtain ⟨hc, hw'⟩ := List.forall_mem_cons.mp hw
      have hends : ends (listOptions t) ⟨before, c :: (w ++ rest)⟩ =
          ends (.seq optionWords (edge t.isWordChar)) ⟨before, c :: (w ++ rest)⟩ := ends_edge h hc
      have hiff := optionWords_iff (t := t) (p := ⟨before, c :: (w ++ rest)⟩)
      rw [show t.classes.signs (c :: (w ++ rest)) = .word (c :: w) :: ts from hts] at hiff
      rw [List.cons_append, upTo, hends, beforeOptions]
      by_cases hopt : optionAt (.word (c :: w) :: ts) = true
      · obtain ⟨q, hq⟩ := hiff.mpr hopt
        rw [if_pos hopt, if_neg]
        · rfl
        · intro hempty
          rw [List.isEmpty_iff.mp hempty] at hq
          exact List.not_mem_nil hq
      · rw [if_neg hopt, if_pos]
        · have hskip : upTo (listOptions t) (c :: before) (w ++ rest) =
              w ++ upTo (listOptions t) (w.reverse ++ c :: before) rest :=
            upTo_append (noStart_word hstart hc hw')
          rw [hskip, ← List.cons_append, signs_word hne hw]
          · refine congrArg _ (ih ?_ hrest)
            intro a _ _
            exact hclear
          · cases rest with
            | nil => exact clear_nil _
            | cons d rest =>
              rw [upTo]
              split
              · exact clear_cons.mpr (clear_cons.mp hclear)
              · exact clear_nil _
        · rw [List.isEmpty_iff, List.eq_nil_iff_forall_not_mem]
          exact fun q hq => hopt (hiff.mp ⟨q, hq⟩)
    | gap =>
      obtain ⟨g, rest, rfl, hne, hg, hclear, hrest⟩ := eq_of_signs_gap hts
      have hgw : ∀ a ∈ g, t.classes.isWord a = false := fun a ha => isWord_eq_false (hg a ha)
      have hskip : upTo (listOptions t) before (g ++ rest) =
          g ++ upTo (listOptions t) (g.reverse ++ before) rest :=
        upTo_append (noStart_clear hstart hgw)
      rw [hskip, signs_gap hne hg, beforeOptions, if_neg (by simp [optionAt])]
      · refine congrArg _ (ih (atWord_of_not_word fun c hc => ?_) hrest)
        obtain ⟨g', a, rfl⟩ := (List.eq_nil_or_concat' g).resolve_left hne
        rw [List.reverse_append, List.reverse_singleton, List.singleton_append, List.cons_append,
          List.head?_cons, Option.mem_some_iff] at hc
        exact hc ▸ hgw a (by simp)
      · cases rest with
        | nil => exact clear_nil _
        | cons d rest =>
          rw [upTo]
          split
          · exact clear_cons.mpr (clear_cons.mp hclear)
          · exact clear_nil _
    | mark a =>
      obtain ⟨rest, rfl, hw, hs, hrest⟩ := eq_of_signs_mark hts
      have hskip : upTo (listOptions t) before ([a] ++ rest) =
          [a] ++ upTo (listOptions t) ([a].reverse ++ before) rest :=
        upTo_append (noStart_clear hstart (by simpa using hw))
      rw [← List.singleton_append, hskip, List.singleton_append, signs_mark hw hs, beforeOptions,
        if_neg (by simp [optionAt])]
      exact congrArg _ (ih (atWord_of_not_word fun c hc => Option.some.inj hc ▸ hw) hrest)

/-! ## One list -/

theorem splitOn_signs {a : Char} (hw : t.classes.isWord a = false) (hs : t.classes.isSpace a = false)
    (text : List Char) :
    (t.classes.signs text).splitOn (.mark a) = (text.splitOn a).map t.classes.signs := by
  induction hn : text.length using Nat.strong_induction_on generalizing text with
  | _ n ih =>
    by_cases h : a ∈ text
    · obtain ⟨s, r, rfl, hsa⟩ := List.eq_append_cons_of_mem h
      have hlt : r.length < n := by
        rw [← hn, List.length_append, List.length_cons]
        omega
      rw [signs_append_of_cut (cut_mark hw hs s r), signs_mark hw hs, List.splitOn_append_cons_self,
        List.splitOn_append_cons_self, ih _ hlt r rfl, List.splitOn_eq_singleton hsa,
        List.splitOn_eq_singleton fun hmem => hsa (mem_of_mark_mem_signs hmem), List.map_append,
        List.map_singleton]
    · rw [List.splitOn_eq_singleton h,
        List.splitOn_eq_singleton fun hmem => h (mem_of_mark_mem_signs hmem), List.map_singleton]

/-- A target of the list, up to its options, is a journal table. -/
def groupNamesJournal (ts : List (Sign Char)) : Bool :=
  ((beforeOptions ts).splitOn (.mark ',')).any targetNamesJournal

theorem any_targetIsProtected {text : List Char} {ts : List (Sign Char)}
    (h : t.classes.signs text = beforeOptions ts) :
    (text.splitOn ',').any targetIsProtected = groupNamesJournal ts := by
  have hcomma : (t.classes.signs text).splitOn (.mark ',') =
      (text.splitOn ',').map t.classes.signs := splitOn_signs rfl rfl text
  have htarget : targetIsProtected = targetNamesJournal ∘ t.classes.signs :=
    funext targetIsProtected_eq
  rw [groupNamesJournal, ← h, hcomma, List.any_map, ← htarget]

theorem listNamesJournal_elim (group : List Char) :
    listNamesJournal t group =
      (((search (listOptions t) group).elim group fun place => place.before.reverse).splitOn ',').any
        targetIsProtected := by
  rw [listNamesJournal]
  cases search (listOptions t) group <;> rfl

theorem listNamesJournal_eq (group : List Char) :
    listNamesJournal t group = groupNamesJournal (t.classes.signs group) := by
  have helim := firstFrom_elim (listOptions t) [] group
  rw [List.reverse_nil, List.nil_append, List.nil_append] at helim
  rw [listNamesJournal_elim, search, helim]
  exact any_targetIsProtected (signs_upTo_options (atWord_of_not_word (by simp)))

end AccountingPlatform.Scripts
