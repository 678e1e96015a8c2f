/-
  What the expressions of the append-only gate see, in words, gaps and marks.

  A keyword between gaps is a whole word of the text, so the expressions for a single target
  and for the end of a text say the same of every text that is read alike.
-/
import AccountingPlatform.Scripts.AppendOnlySql

namespace AccountingPlatform.Scripts

open AccountingPlatform.Lib AccountingPlatform.Core
open Pattern
open Classes hiding isSpace isWord

variable {t : UnicodeTable}

/-! ## Characters -/

theorem toNat_of_isAlpha {c : Char} (h : c.isAlpha = true) :
    (65 ≤ c.toNat ∧ c.toNat ≤ 90) ∨ (97 ≤ c.toNat ∧ c.toNat ≤ 122) := by
  have hval : (decide (c.val ≥ 'A'.val ∧ c.val ≤ 'Z'.val) ||
      decide (c.val ≥ 'a'.val) && decide (c.val ≤ 'z'.val)) = true := h
  simpa [UInt32.le_iff_toNat_le] using hval

theorem toNat_of_isDigit {c : Char} (h : c.isDigit = true) : 48 ≤ c.toNat ∧ c.toNat ≤ 57 := by
  simpa [Char.isDigit, UInt32.le_iff_toNat_le] using h

theorem isSpace_eq_false_of_word {c : Char} (h : t.isWordChar c = true) : isSpace c = false := by
  unfold UnicodeTable.isWordChar at h
  split at h
  · rename_i hascii
    have hrange : (48 ≤ c.toNat ∧ c.toNat ≤ 57) ∨ (65 ≤ c.toNat ∧ c.toNat ≤ 122) := by
      rw [Bool.or_eq_true, Char.isAlphanum, Bool.or_eq_true, beq_iff_eq] at h
      rcases h with (h | h) | rfl
      · have := toNat_of_isAlpha h
        omega
      · have := toNat_of_isDigit h
        omega
      · decide
    simp only [isSpace, Bool.or_eq_false_iff, Bool.and_eq_false_iff, decide_eq_false_iff_not,
      beq_eq_false_iff_ne]
    omega
  · exact t.noSpace c h

/-- Words, gaps and marks as the expressions tell them apart. -/
def UnicodeTable.classes (t : UnicodeTable) : Classes Char :=
  ⟨t.isWordChar, isSpace, fun _ => isSpace_eq_false_of_word⟩

theorem toLower_of_not_ascii {c : Char} (h : 128 ≤ c.toNat) : c.toLower = c := by
  refine dif_neg fun hupper => ?_
  have := hupper.2
  have hle : c.toNat ≤ 90 := by simpa [UInt32.le_iff_toNat_le] using this
  omega

/-- What folds to a letter of a word is one. -/
theorem isWordChar_of_foldCase {c : Char} (h : (foldCase c).isAlpha = true ∨ foldCase c = '_') :
    t.isWordChar c = true := by
  by_cases hascii : c.toNat < 128
  · have hfold : foldCase c = c.toLower := by
      unfold foldCase
      rw [if_neg (by omega), if_neg (by omega), if_neg (by omega)]
    rw [hfold] at h
    simp only [UnicodeTable.isWordChar, if_pos hascii, Bool.or_eq_true, beq_iff_eq]
    by_cases hupper : c.isUpper = true
    · have halpha : c.isAlpha = true := (Bool.or_eq_true c.isUpper c.isLower).mpr (Or.inl hupper)
      exact Or.inl (by simp [Char.isAlphanum, halpha])
    · have hlower : c.toLower = c := dif_neg fun hval => hupper (decide_eq_true hval)
      rw [hlower] at h
      rcases h with h | h
      · exact Or.inl (by simp [Char.isAlphanum, h])
      · exact Or.inr h
  · have hne : foldCase c ≠ c := by
      intro heq
      rw [heq] at h
      rcases h with h | rfl
      · have := toNat_of_isAlpha h
        omega
      · exact absurd hascii (by decide)
    rw [UnicodeTable.isWordChar, if_neg hascii]
    exact t.folded c (by omega) hne

/-! ## Keywords -/

/-- The word is a keyword, case ignored. -/
def spells (name : String) (w : List Char) : Bool := w.map foldCase == name.toList.map foldCase

/-- All letters of a keyword are letters of words. -/
def IsKeyword (name : String) : Prop :=
  name.toList ≠ [] ∧ ∀ c ∈ name.toList, (foldCase c).isAlpha = true ∨ foldCase c = '_'

instance decIsKeyword (name : String) : Decidable (IsKeyword name) :=
  @instDecidableAnd _ _ inferInstance (List.decidableBAll _ _)

theorem forall₂_keyword {cs w : List Char} :
    List.Forall₂ (fun (p : Char → Bool) a => p a = true)
        (cs.map fun k c => foldCase c == foldCase k) w ↔ w.map foldCase = cs.map foldCase := by
  induction cs generalizing w with
  | nil => simp
  | cons c cs ih =>
    cases w with
    | nil => simp
    | cons a w => simp [ih]

theorem mem_ends_keyword {name : String} {p q : Place Char} :
    q ∈ ends (keyword name) p ↔ ∃ w, spells name w = true ∧ p.Reads w q := by
  rw [keyword, mem_ends_spelled]
  simp only [forall₂_keyword, spells, beq_iff_eq]

theorem spells_ne_nil {name : String} {w : List Char} (hname : IsKeyword name)
    (h : spells name w = true) : w ≠ [] := by
  rintro rfl
  rw [spells, beq_iff_eq, List.map_nil, eq_comm, List.map_eq_nil_iff] at h
  exact hname.1 h

theorem isWordChar_of_spells {name : String} {w : List Char} (hname : IsKeyword name)
    (h : spells name w = true) : ∀ c ∈ w, t.classes.isWord c = true := by
  intro c hc
  rw [spells, beq_iff_eq] at h
  have hmem : foldCase c ∈ name.toList.map foldCase := h ▸ List.mem_map_of_mem hc
  obtain ⟨k, hk, heq⟩ := List.mem_map.mp hmem
  exact isWordChar_of_foldCase (heq ▸ hname.2 k hk)

theorem mem_ends_spaces {p q : Place Char} :
    q ∈ ends spaces p ↔ ∃ g, g ≠ [] ∧ (∀ c ∈ g, isSpace c = true) ∧ p.Reads g q :=
  mem_ends_plus_one

/-- The text does not go on with a gap. -/
theorem clear_space_of_word {w s : List Char} (hne : w ≠ [])
    (hw : ∀ c ∈ w, t.classes.isWord c = true) : Clear t.classes.isSpace (w ++ s) :=
  clear_append hne fun c hc => t.classes.apart c (hw c hc)

theorem clear_word_of_space {g s : List Char} (hne : g ≠ [])
    (hg : ∀ c ∈ g, isSpace c = true) : Clear t.classes.isWord (g ++ s) :=
  clear_append hne fun c hc => isWord_eq_false (k := t.classes) (hg c hc)

/-! ## Phrases -/

/-- Keywords with a gap behind each. -/
def phrase : List String → Pattern Char
  | [] => blank
  | name :: more => seq (keyword name) (seq spaces (phrase more))

/-- What stands behind the keywords of a phrase and the gaps behind each. -/
def afterPhrase : List String → List (Sign Char) → Option (List (Sign Char))
  | [], ts => some ts
  | name :: more, .word w :: .gap :: ts => if spells name w then afterPhrase more ts else none
  | _ :: _, _ => none

/-- A phrase without its last gap split is read as the signs of its keywords. -/
theorem afterPhrase_of_mem {names : List String} (hnames : ∀ name ∈ names, IsKeyword name)
    {p q : Place Char} (h : q ∈ ends (phrase names) p) (hclear : Clear t.classes.isSpace q.rest) :
    afterPhrase names (t.classes.signs p.rest) = some (t.classes.signs q.rest) := by
  induction names generalizing p with
  | nil =>
    rw [phrase, mem_ends_blank] at h
    rw [h, afterPhrase]
  | cons name more ih =>
    obtain ⟨hname, hmore⟩ := List.forall_mem_cons.mp hnames
    simp only [phrase, mem_ends_seq] at h
    obtain ⟨m, hm, m', hm', hq⟩ := h
    obtain ⟨w, hw, hpm⟩ := mem_ends_keyword.mp hm
    obtain ⟨g, hgne, hg, hmm⟩ := mem_ends_spaces.mp hm'
    have hclear' : Clear t.classes.isSpace m'.rest := by
      cases more with
      | nil =>
        rw [phrase, mem_ends_blank] at hq
        exact hq ▸ hclear
      | cons next others =>
        obtain ⟨n, hn, -⟩ := mem_ends_seq.mp hq
        obtain ⟨v, hv, hread⟩ := mem_ends_keyword.mp hn
        have hnext := (List.forall_mem_cons.mp hmore).1
        rw [hread.1]
        exact clear_space_of_word (spells_ne_nil hnext hv) (isWordChar_of_spells hnext hv)
    rw [hpm.1, signs_word (spells_ne_nil hname hw) (isWordChar_of_spells hname hw)
      (by rw [hmm.1]; exact clear_word_of_space hgne hg), hmm.1, signs_gap hgne hg hclear',
      afterPhrase, if_pos hw]
    exact ih hmore hq

/-- Signs of a phrase come from a text with the phrase. -/
theorem mem_of_afterPhrase {names : List String} {p : Place Char} {ts : List (Sign Char)}
    (h : afterPhrase names (t.classes.signs p.rest) = some ts) :
    ∃ q ∈ ends (phrase names) p, t.classes.signs q.rest = ts ∧
      (names ≠ [] → Clear t.classes.isSpace q.rest) := by
  induction names generalizing p with
  | nil =>
    rw [afterPhrase, Option.some.injEq] at h
    exact ⟨p, mem_ends_blank.mpr rfl, h, fun hne => absurd rfl hne⟩
  | cons name more ih =>
    unfold afterPhrase at h
    split at h
    · rename_i heq
      exact absurd heq (List.cons_ne_nil _ _)
    · rename_i name' more' w ts' hnames hsigns
      obtain ⟨rfl, rfl⟩ := List.cons.inj hnames
      by_cases hspells : spells name w = true
      · rw [if_pos hspells] at h
        obtain ⟨rest, hrest, -, -, -, hsigns'⟩ := eq_of_signs_word hsigns
        obtain ⟨g, left, hleft, hgne, hg, hclear, hsigns''⟩ := eq_of_signs_gap hsigns'
        have hm : p.past w rest ∈ ends (keyword name) p :=
          mem_ends_keyword.mpr ⟨w, hspells, Place.reads_past hrest⟩
        have hm' : (p.past w rest).past g left ∈ ends spaces (p.past w rest) :=
          mem_ends_spaces.mpr ⟨g, hgne, hg, Place.reads_past hleft⟩
        obtain ⟨q, hq, hts, hclear'⟩ := ih (p := (p.past w rest).past g left)
          (by rw [Place.past, hsigns'']; exact h)
        refine ⟨q, mem_ends_seq.mpr ⟨_, hm, mem_ends_seq.mpr ⟨_, hm', hq⟩⟩, hts, fun _ => ?_⟩
        by_cases hmore : more = []
        · subst hmore
          rw [phrase, mem_ends_blank] at hq
          rw [hq]
          exact hclear
        · exact hclear' hmore
      · rw [if_neg hspells] at h
        exact absurd h (by simp)
    · exact absurd h (by simp)

/-! ## Names -/

/-- The quotes of a text stand in adjacent pairs. -/
inductive Paired {β : Type} (quote : β) : List β → Prop
  | nil : Paired quote []
  | other {a : β} {l : List β} (ha : a ≠ quote) (h : Paired quote l) : Paired quote (a :: l)
  | pair {l : List β} (h : Paired quote l) : Paired quote (quote :: quote :: l)

theorem Paired.append_left {β : Type} {quote : β} {s l : List β} (hs : ∀ a ∈ s, a ≠ quote)
    (h : Paired quote l) : Paired quote (s ++ l) := by
  induction s with
  | nil => exact h
  | cons a s ih =>
    obtain ⟨ha, hs'⟩ := List.forall_mem_cons.mp hs
    exact Paired.other ha (ih hs')

theorem paired_iff {β : Type} {quote : β} {l : List β} :
    Paired quote l ↔
      ∃ ws : List (List β), (∀ w ∈ ws, (∃ a, a ≠ quote ∧ w = [a]) ∨ w = [quote, quote]) ∧
        l = ws.flatten := by
  constructor
  · intro h
    induction h with
    | nil => exact ⟨[], by simp, rfl⟩
    | @other a l ha _ ih =>
      obtain ⟨ws, hws, rfl⟩ := ih
      exact ⟨[a] :: ws, List.forall_mem_cons.mpr ⟨Or.inl ⟨a, ha, rfl⟩, hws⟩, rfl⟩
    | pair _ ih =>
      obtain ⟨ws, hws, rfl⟩ := ih
      exact ⟨[quote, quote] :: ws, List.forall_mem_cons.mpr ⟨Or.inr rfl, hws⟩, rfl⟩
  · rintro ⟨ws, hws, rfl⟩
    induction ws with
    | nil => exact Paired.nil
    | cons w ws ih =>
      obtain ⟨hw, hws'⟩ := List.forall_mem_cons.mp hws
      rw [List.flatten_cons]
      rcases hw with ⟨a, ha, rfl⟩ | rfl
      · exact Paired.other ha (ih hws')
      · exact Paired.pair (ih hws')

theorem isWord_quote : t.classes.isWord '"' = false := rfl

theorem isSpace_quote : t.classes.isSpace '"' = false := rfl

theorem paired_push {c : Char} {ts : List (Sign Char)} (hc : c ≠ '"')
    (h : Paired (Sign.mark '"') ts) : Paired (Sign.mark '"') (t.classes.push c ts) := by
  unfold push
  split
  · split
    · cases h with
      | other _ h => exact Paired.other (by simp) h
    · exact Paired.other (by simp) h
  · split
    · split
      · cases h with
        | other _ h => exact Paired.other (by simp) h
      · exact Paired.other (by simp) h
    · exact Paired.other (by simpa using hc) h

/-- Quotes stand in pairs in a text as they do in its signs. -/
theorem paired_signs_iff {text : List Char} :
    Paired (Sign.mark '"') (t.classes.signs text) ↔ Paired '"' text := by
  constructor
  · intro h
    generalize hts : t.classes.signs text = ts at h
    induction h generalizing text with
    | nil => exact signs_eq_nil_iff.mp hts ▸ Paired.nil
    | @other x ts hx _ ih =>
      cases x with
      | word w =>
        obtain ⟨rest, rfl, -, hw, -, hmore⟩ := eq_of_signs_word hts
        refine Paired.append_left (fun a ha heq => ?_) (ih hmore)
        exact absurd (hw a ha) (by rw [heq, isWord_quote]; exact Bool.false_ne_true)
      | gap =>
        obtain ⟨g, rest, rfl, -, hg, -, hmore⟩ := eq_of_signs_gap hts
        refine Paired.append_left (fun a ha heq => ?_) (ih hmore)
        exact absurd (hg a ha) (by rw [heq, isSpace_quote]; exact Bool.false_ne_true)
      | mark a =>
        obtain ⟨rest, rfl, -, -, hmore⟩ := eq_of_signs_mark hts
        exact Paired.other (fun heq => hx (by rw [heq])) (ih hmore)
    | pair _ ih =>
      obtain ⟨rest, rfl, -, -, hmore⟩ := eq_of_signs_mark hts
      obtain ⟨rest, rfl, -, -, hmore'⟩ := eq_of_signs_mark hmore
      exact Paired.pair (ih hmore')
  · intro h
    induction h with
    | nil => exact Paired.nil
    | other ha _ ih => exact paired_push ha ih
    | pair _ ih =>
      rw [signs_mark isWord_quote isSpace_quote, signs_mark isWord_quote isSpace_quote]
      exact Paired.pair ih

/-- A quoted text is read as its signs between two marks. -/
theorem signs_quoted (body rest : List Char) :
    t.classes.signs ('"' :: (body ++ '"' :: rest)) =
      .mark '"' :: (t.classes.signs body ++ .mark '"' :: t.classes.signs rest) := by
  rw [signs_mark isWord_quote isSpace_quote,
    signs_append_of_cut (cut_mark isWord_quote isSpace_quote _ _),
    signs_mark isWord_quote isSpace_quote]

theorem eq_of_signs_quoted {text : List Char} {i rest : List (Sign Char)}
    (h : t.classes.signs text = .mark '"' :: (i ++ .mark '"' :: rest)) :
    ∃ body left, text = '"' :: (body ++ '"' :: left) ∧ t.classes.signs body = i ∧
      t.classes.signs left = rest := by
  obtain ⟨tail, rfl, -, -, htail⟩ := eq_of_signs_mark h
  obtain ⟨body, tail', rfl, -, hbody, htail'⟩ := exists_cut htail
  obtain ⟨left, rfl, -, -, hleft⟩ := eq_of_signs_mark htail'
  exact ⟨body, left, rfl, hbody, hleft⟩

/-- A word of `[A-Za-z_][A-Za-z0-9_]*`, case ignored. -/
def isPlainName (w : List Char) : Bool := w.head?.any isIdentifierStart && w.all isIdentifierChar

theorem mem_ends_plainIdentifier {p q : Place Char} :
    q ∈ ends plainIdentifier p ↔ ∃ w, isPlainName w = true ∧ p.Reads w q := by
  rw [plainIdentifier, mem_ends_seq]
  constructor
  · rintro ⟨m, hm, hq⟩
    obtain ⟨a, ha, hpm⟩ := mem_ends_one.mp hm
    obtain ⟨w, hw, hmq⟩ := mem_ends_star_one.mp hq
    refine ⟨a :: w, ?_, hpm.trans hmq⟩
    simp only [isPlainName, List.head?_cons, Option.any_some, ha, List.all_cons, isIdentifierChar,
      Bool.true_or, Bool.true_and]
    exact List.all_eq_true.mpr hw
  · rintro ⟨w, hw, hreads⟩
    rw [isPlainName, Bool.and_eq_true] at hw
    cases w with
    | nil => exact absurd hw.1 (by simp)
    | cons a w =>
      obtain ⟨m, hpm, hmq⟩ := Place.reads_cons_iff.mp hreads
      refine ⟨m, mem_ends_one.mpr ⟨a, hw.1, hpm⟩, mem_ends_star_one.mpr ⟨w, ?_, hmq⟩⟩
      exact (List.forall_mem_cons.mp (List.all_eq_true.mp hw.2)).2

theorem isWord_of_isPlainName {w : List Char} (h : isPlainName w = true) :
    w ≠ [] ∧ ∀ c ∈ w, t.classes.isWord c = true := by
  rw [isPlainName, Bool.and_eq_true, List.all_eq_true] at h
  refine ⟨?_, fun c hc => ?_⟩
  · rintro rfl
    exact absurd h.1 (by simp)
  · have hchar := h.2 c hc
    simp only [isIdentifierChar, isIdentifierStart, Bool.or_eq_true, beq_iff_eq] at hchar
    rcases hchar with (hletter | rfl) | hdigit
    · exact isWordChar_of_foldCase (Or.inl hletter)
    · exact isWordChar_of_foldCase (t := t) (c := '_') (Or.inr (by decide))
    · have := toNat_of_isDigit hdigit
      change t.isWordChar c = true
      rw [UnicodeTable.isWordChar, if_pos (by omega), Char.isAlphanum, hdigit, Bool.or_true,
        Bool.true_or]

theorem mem_ends_sqlIdentifier {p q : Place Char} :
    q ∈ ends sqlIdentifier p ↔
      (∃ body, Paired '"' body ∧ p.Reads ('"' :: (body ++ ['"'])) q) ∨
        ∃ w, isPlainName w = true ∧ p.Reads w q := by
  rw [sqlIdentifier, mem_ends_alt, mem_ends_plainIdentifier]
  apply or_congr _ Iff.rfl
  have hquote : ∀ p q : Place Char, q ∈ ends quoteMark p ↔ p.Reads ['"'] q := by
    intro p q
    simp only [quoteMark, mem_ends_one, beq_iff_eq]
    refine ⟨?_, fun h => ⟨'"', rfl, h⟩⟩
    rintro ⟨a, ha, h⟩
    exact ha ▸ h
  have hstar : ∀ p q : Place Char,
      q ∈ ends (star (alt (one (· != '"')) (seq quoteMark quoteMark))) p ↔
        ∃ body, Paired '"' body ∧ p.Reads body q := by
    intro p q
    rw [mem_ends_star (W := fun w => (∃ a, a ≠ '"' ∧ w = [a]) ∨ w = ['"', '"'])]
    · simp only [paired_iff]
      constructor
      · rintro ⟨ws, hws, hreads⟩
        exact ⟨_, ⟨ws, hws, rfl⟩, hreads⟩
      · rintro ⟨body, ⟨ws, hws, rfl⟩, hreads⟩
        exact ⟨ws, hws, hreads⟩
    · intro p q
      simp only [mem_ends_alt, mem_ends_one, mem_ends_seq, hquote, bne_iff_ne]
      constructor
      · rintro (⟨a, ha, h⟩ | ⟨m, hm, h⟩)
        · exact ⟨[a], Or.inl ⟨a, ha, rfl⟩, h⟩
        · exact ⟨_, Or.inr rfl, hm.trans h⟩
      · rintro ⟨w, ⟨a, ha, rfl⟩ | rfl, h⟩
        · exact Or.inl ⟨a, ha, h⟩
        · exact Or.inr (Place.reads_cons_iff.mp h)
    · rintro w (⟨a, -, rfl⟩ | rfl)
      · exact List.cons_ne_nil _ _
      · exact List.cons_ne_nil _ _
  simp only [mem_ends_seq, hquote, hstar]
  constructor
  · rintro ⟨m, hm, m', ⟨body, hbody, hm'⟩, hq⟩
    exact ⟨body, hbody, hm.trans (hm'.trans hq)⟩
  · rintro ⟨body, hbody, hreads⟩
    obtain ⟨m, hm, hrest⟩ := Place.reads_cons_iff.mp hreads
    obtain ⟨m', hm', hq⟩ := Place.reads_append_iff.mp hrest
    exact ⟨m, hm, m', ⟨body, hbody, hm'⟩, hq⟩

/-! ## Single targets -/

def dropGap : List (Sign Char) → List (Sign Char)
  | .gap :: ts => ts
  | ts => ts

/-- An identifier in front, quoted or not. -/
def IsIdentifier (ts rest : List (Sign Char)) : Prop :=
  (∃ w, isPlainName w = true ∧ ts = .word w :: rest) ∨
    ∃ inner, Paired (.mark '"') inner ∧ ts = .mark '"' :: (inner ++ .mark '"' :: rest)

/-- A qualifier in front, up to the name it qualifies. -/
def Qualifies (ts rest : List (Sign Char)) : Prop :=
  ∃ a b, IsIdentifier ts a ∧ dropGap a = .mark '.' :: b ∧ rest = dropGap b

/-- The name of a journal table in front, in any case, quoted or not. -/
def IsJournal (ts rest : List (Sign Char)) : Prop :=
  ∃ name ∈ protectedTables, ∃ w, spells name w = true ∧
    (ts = .word w :: rest ∨ ts = .mark '"' :: .word w :: .mark '"' :: rest)

/-- A gap, a semicolon or the end of the text. -/
def TargetEnds (ts : List (Sign Char)) : Prop :=
  ts = [] ∨ (∃ more, ts = .gap :: more) ∨ ∃ more, ts = .mark ';' :: more

def mutationPhrases : List (List String) :=
  [["UPDATE"], ["UPDATE", "ONLY"], ["DELETE", "FROM"], ["DELETE", "FROM", "ONLY"], ["TRUNCATE"],
    ["TRUNCATE", "TABLE"], ["TRUNCATE", "ONLY"], ["TRUNCATE", "TABLE", "ONLY"], ["DROP", "TABLE"],
    ["DROP", "TABLE", "IF", "EXISTS"]]

/-- A command with a gap behind each keyword, and a journal table with at most one qualifier. -/
def Mutates (ts : List (Sign Char)) : Prop :=
  ∃ names ∈ mutationPhrases, ∃ a, afterPhrase names ts = some a ∧
    ∃ b, (b = a ∨ Qualifies a b) ∧ ∃ c, IsJournal b c ∧ TargetEnds c

theorem isKeyword_of_mutationPhrases :
    ∀ names ∈ mutationPhrases, names ≠ [] ∧ ∀ name ∈ names, IsKeyword name := by
  decide

theorem isKeyword_of_protectedTables : ∀ name ∈ protectedTables, IsKeyword name := by
  decide

theorem phrase_nil {p : Place Char} : p ∈ ends (phrase []) p := mem_ends_blank.mpr rfl

theorem phrase_cons {name : String} {more : List String} {p a b q : Place Char}
    (ha : a ∈ ends (keyword name) p) (hb : b ∈ ends spaces a) (hq : q ∈ ends (phrase more) b) :
    q ∈ ends (phrase (name :: more)) p :=
  mem_ends_seq.mpr ⟨a, ha, mem_ends_seq.mpr ⟨b, hb, hq⟩⟩

theorem of_phrase_cons {name : String} {more : List String} {p q : Place Char}
    (h : q ∈ ends (phrase (name :: more)) p) :
    ∃ a ∈ ends (keyword name) p, ∃ b ∈ ends spaces a, q ∈ ends (phrase more) b := by
  obtain ⟨a, ha, h⟩ := mem_ends_seq.mp h
  obtain ⟨b, hb, h⟩ := mem_ends_seq.mp h
  exact ⟨a, ha, b, hb, h⟩

theorem of_phrase_singleton {name : String} {p q : Place Char}
    (h : q ∈ ends (phrase [name]) p) : ∃ a ∈ ends (keyword name) p, q ∈ ends spaces a := by
  obtain ⟨a, ha, b, hb, h⟩ := of_phrase_cons h
  exact ⟨a, ha, mem_ends_blank.mp h ▸ hb⟩

/-- The commands with the gap behind them are the phrases. -/
theorem mem_ends_mutationCommand {p q : Place Char} :
    (∃ m ∈ ends mutationCommand p, q ∈ ends spaces m) ↔
      ∃ names ∈ mutationPhrases, q ∈ ends (phrase names) p := by
  constructor
  · simp only [mutationCommand, mem_ends_seq, mem_ends_alt, mem_ends_opt]
    rintro ⟨m, (⟨a, ha, ⟨b, hb, hm⟩ | rfl⟩ | ⟨a, ha, b, hb, c, hc, ⟨d, hd, hm⟩ | rfl⟩ |
      ⟨a, ha, b, ⟨c, hc, hb⟩ | rfl, ⟨d, hd, hm⟩ | rfl⟩ |
      ⟨a, ha, b, hb, c, hc, ⟨d, hd, e, he, f, hf, hm⟩ | rfl⟩), hq⟩
    · exact ⟨["UPDATE", "ONLY"], by decide, phrase_cons ha hb (phrase_cons hm hq phrase_nil)⟩
    · exact ⟨["UPDATE"], by decide, phrase_cons ha hq phrase_nil⟩
    · exact ⟨["DELETE", "FROM", "ONLY"], by decide,
        phrase_cons ha hb (phrase_cons hc hd (phrase_cons hm hq phrase_nil))⟩
    · exact ⟨["DELETE", "FROM"], by decide, phrase_cons ha hb (phrase_cons hc hq phrase_nil)⟩
    · exact ⟨["TRUNCATE", "TABLE", "ONLY"], by decide,
        phrase_cons ha hc (phrase_cons hb hd (phrase_cons hm hq phrase_nil))⟩
    · exact ⟨["TRUNCATE", "TABLE"], by decide, phrase_cons ha hc (phrase_cons hb hq phrase_nil)⟩
    · exact ⟨["TRUNCATE", "ONLY"], by decide, phrase_cons ha hd (phrase_cons hm hq phrase_nil)⟩
    · exact ⟨["TRUNCATE"], by decide, phrase_cons ha hq phrase_nil⟩
    · exact ⟨["DROP", "TABLE", "IF", "EXISTS"], by decide, phrase_cons ha hb (phrase_cons hc hd
        (phrase_cons he hf (phrase_cons hm hq phrase_nil)))⟩
    · exact ⟨["DROP", "TABLE"], by decide, phrase_cons ha hb (phrase_cons hc hq phrase_nil)⟩
  · rintro ⟨names, hnames, h⟩
    simp only [mutationPhrases, List.mem_cons, List.not_mem_nil, or_false] at hnames
    simp only [mutationCommand, mem_ends_seq, mem_ends_alt, mem_ends_opt]
    rcases hnames with rfl | rfl | rfl | rfl | rfl | rfl | rfl | rfl | rfl | rfl
    · obtain ⟨a, ha, hq⟩ := of_phrase_singleton h
      exact ⟨a, Or.inl ⟨a, ha, Or.inr rfl⟩, hq⟩
    · obtain ⟨a, ha, b, hb, h⟩ := of_phrase_cons h
      obtain ⟨c, hc, hq⟩ := of_phrase_singleton h
      exact ⟨c, Or.inl ⟨a, ha, Or.inl ⟨b, hb, hc⟩⟩, hq⟩
    · obtain ⟨a, ha, b, hb, h⟩ := of_phrase_cons h
      obtain ⟨c, hc, hq⟩ := of_phrase_singleton h
      exact ⟨c, Or.inr (Or.inl ⟨a, ha, b, hb, c, hc, Or.inr rfl⟩), hq⟩
    · obtain ⟨a, ha, b, hb, h⟩ := of_phrase_cons h
      obtain ⟨c, hc, d, hd, h⟩ := of_phrase_cons h
      obtain ⟨e, he, hq⟩ := of_phrase_singleton h
      exact ⟨e, Or.inr (Or.inl ⟨a, ha, b, hb, c, hc, Or.inl ⟨d, hd, he⟩⟩), hq⟩
    · obtain ⟨a, ha, hq⟩ := of_phrase_singleton h
      exact ⟨a, Or.inr (Or.inr (Or.inl ⟨a, ha, a, Or.inr rfl, Or.inr rfl⟩)), hq⟩
    · obtain ⟨a, ha, b, hb, h⟩ := of_phrase_cons h
      obtain ⟨c, hc, hq⟩ := of_phrase_singleton h
      exact ⟨c, Or.inr (Or.inr (Or.inl ⟨a, ha, c, Or.inl ⟨b, hb, hc⟩, Or.inr rfl⟩)), hq⟩
    · obtain ⟨a, ha, b, hb, h⟩ := of_phrase_cons h
      obtain ⟨c, hc, hq⟩ := of_phrase_singleton h
      exact ⟨c, Or.inr (Or.inr (Or.inl ⟨a, ha, a, Or.inr rfl, Or.inl ⟨b, hb, hc⟩⟩)), hq⟩
    · obtain ⟨a, ha, b, hb, h⟩ := of_phrase_cons h
      obtain ⟨c, hc, d, hd, h⟩ := of_phrase_cons h
      obtain ⟨e, he, hq⟩ := of_phrase_singleton h
      exact ⟨e, Or.inr (Or.inr (Or.inl ⟨a, ha, c, Or.inl ⟨b, hb, hc⟩, Or.inl ⟨d, hd, he⟩⟩)), hq⟩
    · obtain ⟨a, ha, b, hb, h⟩ := of_phrase_cons h
      obtain ⟨c, hc, hq⟩ := of_phrase_singleton h
      exact ⟨c, Or.inr (Or.inr (Or.inr ⟨a, ha, b, hb, c, hc, Or.inr rfl⟩)), hq⟩
    · obtain ⟨a, ha, b, hb, h⟩ := of_phrase_cons h
      obtain ⟨c, hc, d, hd, h⟩ := of_phrase_cons h
      obtain ⟨e, he, f, hf, h⟩ := of_phrase_cons h
      obtain ⟨g, hg, hq⟩ := of_phrase_singleton h
      exact ⟨g, Or.inr (Or.inr (Or.inr ⟨a, ha, b, hb, c, hc, Or.inl ⟨d, hd, e, he, f, hf, hg⟩⟩)), hq⟩

theorem dropGap_signs {g rest : List Char} (hg : ∀ c ∈ g, isSpace c = true)
    (hclear : Clear t.classes.isSpace rest) :
    dropGap (t.classes.signs (g ++ rest)) = t.classes.signs rest := by
  by_cases hne : g = []
  · subst hne
    rw [List.nil_append]
    unfold dropGap
    split
    · rename_i ts heq
      exact absurd heq (ne_gap_of_clear hclear ts)
    · rfl
  · rw [signs_gap hne hg hclear, dropGap]

theorem exists_gap (text : List Char) :
    ∃ g rest, text = g ++ rest ∧ (∀ c ∈ g, isSpace c = true) ∧ Clear t.classes.isSpace rest ∧
      t.classes.signs rest = dropGap (t.classes.signs text) := by
  obtain ⟨g, rest, rfl, hg, hclear⟩ := exists_run isSpace text
  exact ⟨g, rest, rfl, hg, hclear, (dropGap_signs hg hclear).symm⟩

theorem isIdentifier_of_mem {p q : Place Char} (h : q ∈ ends sqlIdentifier p)
    (hclear : Clear t.classes.isWord q.rest) :
    IsIdentifier (t.classes.signs p.rest) (t.classes.signs q.rest) := by
  rcases mem_ends_sqlIdentifier.mp h with ⟨body, hbody, hreads⟩ | ⟨w, hw, hreads⟩
  · refine Or.inr ⟨t.classes.signs body, paired_signs_iff.mpr hbody, ?_⟩
    rw [hreads.1, ← signs_quoted]
    simp
  · obtain ⟨hne, hword⟩ := isWord_of_isPlainName (t := t) hw
    exact Or.inl ⟨w, hw, by rw [hreads.1, signs_word hne hword hclear]⟩

theorem mem_of_isIdentifier {p : Place Char} {ts : List (Sign Char)}
    (h : IsIdentifier (t.classes.signs p.rest) ts) :
    ∃ q ∈ ends sqlIdentifier p, t.classes.signs q.rest = ts := by
  rcases h with ⟨w, hw, hsigns⟩ | ⟨inner, hinner, hsigns⟩
  · obtain ⟨rest, hrest, -, -, -, hmore⟩ := eq_of_signs_word hsigns
    exact ⟨_, mem_ends_sqlIdentifier.mpr (Or.inr ⟨w, hw, Place.reads_past hrest⟩), hmore⟩
  · obtain ⟨body, left, htext, rfl, hleft⟩ := eq_of_signs_quoted hsigns
    refine ⟨p.past ('"' :: (body ++ ['"'])) left, mem_ends_sqlIdentifier.mpr
      (Or.inl ⟨body, paired_signs_iff.mp hinner, Place.reads_past ?_⟩), hleft⟩
    rw [htext]
    simp

/-- `\s*\.\s*` -/
def dot : Pattern Char := seq anySpaces (seq (one (· == '.')) anySpaces)

theorem mem_ends_dot {p q : Place Char} :
    q ∈ ends dot p ↔ ∃ g h, (∀ c ∈ g, isSpace c = true) ∧ (∀ c ∈ h, isSpace c = true) ∧
      p.Reads (g ++ '.' :: h) q := by
  simp only [dot, mem_ends_seq, anySpaces, mem_ends_star_one, mem_ends_one, beq_iff_eq]
  constructor
  · rintro ⟨m, ⟨g, hg, hm⟩, m', ⟨a, rfl, hm'⟩, h, hh, hq⟩
    exact ⟨g, h, hg, hh, hm.trans (hm'.trans hq)⟩
  · rintro ⟨g, h, hg, hh, hreads⟩
    obtain ⟨m, hm, hrest⟩ := Place.reads_append_iff.mp hreads
    obtain ⟨m', hm', hq⟩ := Place.reads_cons_iff.mp hrest
    exact ⟨m, ⟨g, hg, hm⟩, m', ⟨'.', rfl, hm'⟩, h, hh, hq⟩

theorem dropGap_of_dot {p q : Place Char} (h : q ∈ ends dot p)
    (hclear : Clear t.classes.isSpace q.rest) :
    Clear t.classes.isWord p.rest ∧ ∃ b, dropGap (t.classes.signs p.rest) = .mark '.' :: b ∧
      t.classes.signs q.rest = dropGap b := by
  obtain ⟨g, h, hg, hh, hreads, -⟩ := mem_ends_dot.mp h
  rw [List.append_assoc, List.cons_append] at hreads
  rw [hreads, dropGap_signs hg (clear_cons.mpr rfl), signs_mark rfl rfl]
  refine ⟨?_, _, rfl, (dropGap_signs hh hclear).symm⟩
  by_cases hne : g = []
  · subst hne
    exact clear_cons.mpr rfl
  · exact clear_word_of_space hne hg

theorem mem_of_dropGap {p : Place Char} {b : List (Sign Char)}
    (h : dropGap (t.classes.signs p.rest) = .mark '.' :: b) :
    ∃ q ∈ ends dot p, t.classes.signs q.rest = dropGap b := by
  obtain ⟨g, rest, hrest, hg, -, hsigns⟩ := exists_gap (t := t) p.rest
  obtain ⟨more, rfl, -, -, hmore⟩ := eq_of_signs_mark (hsigns.trans h)
  obtain ⟨g', left, rfl, hg', -, hleft⟩ := exists_gap (t := t) more
  refine ⟨p.past (g ++ '.' :: g') left, mem_ends_dot.mpr ⟨g, g', hg, hg', Place.reads_past ?_⟩, ?_⟩
  · rw [hrest, List.append_assoc, List.cons_append]
  · rw [← hmore]
    exact hleft

theorem foldCase_eq_quote_iff {c : Char} : foldCase c = '"' ↔ c = '"' := by
  constructor
  · intro h
    by_contra hne
    have hword : (foldCase c).isAlpha = false ∧ foldCase c ≠ '_' := by
      rw [h]
      decide
    unfold foldCase at h
    split at h
    · exact absurd h (by decide)
    · split at h
      · exact absurd h (by decide)
      · split at h
        · exact absurd h (by decide)
        · by_cases hupper : c.val ≥ 'A'.val ∧ c.val ≤ 'Z'.val
          · have hlower : c.toLower.val = c.val + ('a'.val - 'A'.val) :=
              congrArg Char.val (dif_pos hupper)
            have hval := congrArg Char.toNat h
            have hlow : 65 ≤ c.toNat := by simpa [UInt32.le_iff_toNat_le] using hupper.1
            have hhigh : c.toNat ≤ 90 := by simpa [UInt32.le_iff_toNat_le] using hupper.2
            have hsum : (c.val + ('a'.val - 'A'.val)).toNat = c.toNat + 32 := by
              rw [UInt32.toNat_add]
              have hc : c.val.toNat = c.toNat := rfl
              rw [hc]
              exact Nat.mod_eq_of_lt (by
                have h32 : ('a'.val - 'A'.val).toNat = 32 := rfl
                omega)
            have h34 : (c.val + ('a'.val - 'A'.val)).toNat = 34 := by
              rw [← hlower]
              exact hval
            omega
          · exact hne ((dif_neg hupper).symm.trans h)
  · rintro rfl
    decide

theorem spells_quoted_iff {cs v : List Char} :
    v.map foldCase = ('"' :: (cs ++ ['"'])).map foldCase ↔
      ∃ w, w.map foldCase = cs.map foldCase ∧ v = '"' :: (w ++ ['"']) := by
  have hquote : foldCase '"' = '"' := by decide
  constructor
  · intro h
    rw [List.map_cons, List.map_append, List.map_singleton, hquote] at h
    obtain ⟨a, v', rfl, ha, hv'⟩ := List.map_eq_cons_iff.mp h
    obtain ⟨w, b, rfl, hw, hb⟩ := List.map_eq_append_iff.mp hv'
    obtain ⟨c, rfl, hc⟩ := List.map_eq_singleton_iff.mp hb
    rw [foldCase_eq_quote_iff.mp ha, foldCase_eq_quote_iff.mp hc]
    exact ⟨w, hw, rfl⟩
  · rintro ⟨w, hw, rfl⟩
    rw [List.map_cons, List.map_append, List.map_singleton, hw, List.map_cons, List.map_append,
      List.map_singleton]

theorem mem_ends_quotedKeyword (name : String) {quoted : String} {p q : Place Char}
    (hquoted : quoted.toList = '"' :: (name.toList ++ ['"'])) :
    q ∈ ends (keyword quoted) p ↔
      ∃ w, spells name w = true ∧ p.Reads ('"' :: (w ++ ['"'])) q := by
  rw [mem_ends_keyword]
  simp only [spells, beq_iff_eq, hquoted, spells_quoted_iff]
  constructor
  · rintro ⟨v, ⟨w, hw, rfl⟩, h⟩
    exact ⟨w, hw, h⟩
  · rintro ⟨w, hw, h⟩
    exact ⟨_, ⟨w, hw, rfl⟩, h⟩

theorem mem_ends_journalTable {p q : Place Char} :
    q ∈ ends journalTable p ↔ ∃ name ∈ protectedTables, ∃ w, spells name w = true ∧
      (p.Reads w q ∨ p.Reads ('"' :: (w ++ ['"'])) q) := by
  have hfirst : "general_journal" ∈ protectedTables := List.mem_cons_self
  have hsecond : "journal_entry_line" ∈ protectedTables := List.mem_cons_of_mem _ List.mem_cons_self
  rw [journalTable, mem_ends_alt, mem_ends_alt, mem_ends_alt, mem_ends_keyword, mem_ends_keyword,
    mem_ends_quotedKeyword "general_journal" (by decide),
    mem_ends_quotedKeyword "journal_entry_line" (by decide)]
  constructor
  · rintro (⟨w, hw, h⟩ | ⟨w, hw, h⟩ | ⟨w, hw, h⟩ | ⟨w, hw, h⟩)
    · exact ⟨_, hfirst, w, hw, Or.inl h⟩
    · exact ⟨_, hsecond, w, hw, Or.inl h⟩
    · exact ⟨_, hfirst, w, hw, Or.inr h⟩
    · exact ⟨_, hsecond, w, hw, Or.inr h⟩
  · rintro ⟨name, hname, w, hw, h⟩
    rcases List.mem_cons.mp hname with rfl | hname'
    · rcases h with h | h
      · exact Or.inl ⟨w, hw, h⟩
      · exact Or.inr (Or.inr (Or.inl ⟨w, hw, h⟩))
    · rw [List.mem_singleton.mp hname'] at hw
      rcases h with h | h
      · exact Or.inr (Or.inl ⟨w, hw, h⟩)
      · exact Or.inr (Or.inr (Or.inr ⟨w, hw, h⟩))

/-- What the text goes on with ends a target. -/
def EndsTarget (text : List Char) : Prop := ∀ c ∈ text.head?, isSpace c = true ∨ c = ';'

theorem mem_ends_tableEnd {p q : Place Char} :
    q ∈ ends tableEnd p ↔ q = p ∧ EndsTarget p.rest := by
  obtain ⟨before, rest⟩ := p
  simp only [tableEnd, mem_ends_ahead, mem_ends_alt, mem_ends_one, mem_ends_final, exists_or]
  apply and_congr_right
  rintro -
  cases rest with
  | nil => simp [EndsTarget]
  | cons c rest =>
    simp only [EndsTarget, List.head?_cons, Option.mem_some_iff, forall_eq']
    constructor
    · rintro (⟨m, a, ha, hm⟩ | ⟨m, a, ha, hm⟩ | ⟨m, -, hm | ⟨a, ha, hm⟩⟩)
      · exact Or.inl ((List.cons.inj hm.1).1 ▸ ha)
      · exact Or.inr ((List.cons.inj hm.1).1.trans (beq_iff_eq.mp ha))
      · exact absurd hm (List.cons_ne_nil _ _)
      · rw [(List.cons.inj hm).1, beq_iff_eq.mp ha]
        exact Or.inl (by decide)
    · rintro (h | rfl)
      · exact Or.inl ⟨_, c, h, Place.reads_past (w := [c]) rfl⟩
      · exact Or.inr (Or.inl ⟨_, ';', rfl, Place.reads_past (w := [';']) rfl⟩)

theorem targetEnds_iff {text : List Char} :
    TargetEnds (t.classes.signs text) ↔ EndsTarget text := by
  constructor
  · rintro (h | ⟨more, h⟩ | ⟨more, h⟩) c hc
    · rw [signs_eq_nil_iff.mp h] at hc
      exact absurd hc (by simp)
    · obtain ⟨g, rest, rfl, hne, hg, -, -⟩ := eq_of_signs_gap h
      obtain ⟨a, g, rfl⟩ := List.exists_cons_of_ne_nil hne
      exact Or.inl (Option.some.inj hc ▸ hg a List.mem_cons_self)
    · obtain ⟨rest, rfl, -, -, -⟩ := eq_of_signs_mark h
      exact Or.inr (Option.some.inj hc).symm
  · intro h
    cases text with
    | nil => exact Or.inl rfl
    | cons c rest =>
      rcases h c rfl with hspace | rfl
      · obtain ⟨g, rest', hrest, hg, hclear⟩ := exists_run isSpace rest
        refine Or.inr (Or.inl ⟨t.classes.signs rest', ?_⟩)
        rw [hrest, ← List.cons_append]
        exact signs_gap (List.cons_ne_nil _ _) (List.forall_mem_cons.mpr ⟨hspace, hg⟩) hclear
      · exact Or.inr (Or.inr ⟨t.classes.signs rest, signs_mark rfl rfl rest⟩)

theorem clear_word_of_endsTarget {text : List Char} (h : EndsTarget text) :
    Clear t.classes.isWord text := by
  intro c hc
  rcases h c hc with hspace | rfl
  · exact isWord_eq_false (k := t.classes) hspace
  · rfl

theorem isJournal_of_mem {p q : Place Char} (h : q ∈ ends journalTable p)
    (hclear : Clear t.classes.isWord q.rest) :
    IsJournal (t.classes.signs p.rest) (t.classes.signs q.rest) ∧
      Clear t.classes.isSpace p.rest := by
  obtain ⟨name, hname, w, hw, hreads⟩ := mem_ends_journalTable.mp h
  have hkeyword := isKeyword_of_protectedTables name hname
  have hne := spells_ne_nil hkeyword hw
  have hword := isWordChar_of_spells (t := t) hkeyword hw
  rcases hreads with ⟨hrest, -⟩ | ⟨hrest, -⟩
  · rw [hrest]
    refine ⟨⟨name, hname, w, hw, Or.inl (signs_word hne hword hclear)⟩, ?_⟩
    exact clear_space_of_word hne hword
  · have hform : p.rest = '"' :: (w ++ '"' :: q.rest) := by
      rw [hrest]
      simp
    rw [hform]
    refine ⟨⟨name, hname, w, hw, Or.inr ?_⟩, clear_cons.mpr rfl⟩
    have hsigns : t.classes.signs w = [.word w] := by
      have hself := signs_word (s := []) hne hword (clear_nil _)
      rwa [List.append_nil, signs_nil] at hself
    rw [signs_quoted, hsigns, List.singleton_append]

theorem mem_of_isJournal {p : Place Char} {ts : List (Sign Char)}
    (h : IsJournal (t.classes.signs p.rest) ts) :
    ∃ q ∈ ends journalTable p, t.classes.signs q.rest = ts := by
  obtain ⟨name, hname, w, hw, hsigns | hsigns⟩ := h
  · obtain ⟨rest, hrest, -, -, -, hmore⟩ := eq_of_signs_word hsigns
    exact ⟨_, mem_ends_journalTable.mpr ⟨name, hname, w, hw, Or.inl (Place.reads_past hrest)⟩, hmore⟩
  · obtain ⟨body, left, htext, hbody, hleft⟩ := eq_of_signs_quoted (i := [.word w]) hsigns
    obtain ⟨rest, rfl, -, -, -, hnil⟩ := eq_of_signs_word hbody
    rw [signs_eq_nil_iff.mp hnil, List.append_nil] at htext
    refine ⟨p.past ('"' :: (w ++ ['"'])) left,
      mem_ends_journalTable.mpr ⟨name, hname, w, hw, Or.inr (Place.reads_past ?_)⟩, hleft⟩
    rw [htext]
    simp

/-! ## Matches at the start of a word -/

/-- The pattern matches at a letter of a word only. -/
def StartsWord (t : UnicodeTable) (r : Pattern Char) : Prop :=
  ∀ p q, q ∈ ends r p → ∃ c more, p.rest = c :: more ∧ t.classes.isWord c = true

theorem mem_edge_iff {skipped more : List Char} {c : Char} {q : Place Char}
    (hc : t.classes.isWord c = true) :
    q ∈ ends (edge t.isWordChar) ⟨skipped.reverse, c :: more⟩ ↔
      q = ⟨skipped.reverse, c :: more⟩ ∧ Cut t.classes skipped (c :: more) := by
  rw [mem_ends_edge, List.head?_reverse]
  apply and_congr_right
  rintro -
  have hword : t.isWordChar c = true := hc
  simp only [Cut, List.head?_cons, Option.any_some, hword, clear_cons, t.classes.apart c hc]
  cases h : skipped.getLast? with
  | none => simp
  | some a =>
    simp only [Option.any_some, Option.mem_some_iff, forall_eq', hc]
    change t.classes.isWord a ≠ true ↔ _
    cases t.classes.isWord a <;> simp

theorem startsWord_keyword {name : String} (hname : IsKeyword name) (r : Pattern Char) :
    StartsWord t (seq (keyword name) r) := by
  intro p q h
  obtain ⟨m, hm, -⟩ := mem_ends_seq.mp h
  obtain ⟨w, hw, hrest, -⟩ := mem_ends_keyword.mp hm
  obtain ⟨c, w', rfl⟩ := List.exists_cons_of_ne_nil (spells_ne_nil hname hw)
  exact ⟨c, w' ++ m.rest, hrest, isWordChar_of_spells hname hw c List.mem_cons_self⟩

theorem StartsWord.alt {r s : Pattern Char} (hr : StartsWord t r) (hs : StartsWord t s) :
    StartsWord t (alt r s) := by
  intro p q h
  rcases mem_ends_alt.mp h with h | h
  · exact hr p q h
  · exact hs p q h

theorem StartsWord.seq {r : Pattern Char} (hr : StartsWord t r) (s : Pattern Char) :
    StartsWord t (seq r s) := by
  intro p q h
  obtain ⟨m, hm, -⟩ := mem_ends_seq.mp h
  exact hr p m hm

/-- A search from the start of a word on goes over the cuts of the text. -/
theorem search_edge_iff {r : Pattern Char} (hr : StartsWord t r) {text : List Char} :
    (search (.seq (edge t.isWordChar) r) text).isSome = true ↔
      ∃ skipped rest, text = skipped ++ rest ∧ Cut t.classes skipped rest ∧
        ∃ q, q ∈ ends r ⟨skipped.reverse, rest⟩ := by
  rw [search, firstFrom_isSome_iff]
  constructor
  · rintro ⟨skipped, rest, htext, hne⟩
    obtain ⟨q, hq⟩ := List.exists_mem_of_ne_nil _ hne
    rw [List.append_nil] at hq
    obtain ⟨m, hm, hq⟩ := mem_ends_seq.mp hq
    have hm' := (mem_ends_edge.mp hm).1
    subst hm'
    obtain ⟨c, more, hrest, hc⟩ := hr _ _ hq
    obtain rfl : rest = c :: more := hrest
    exact ⟨skipped, c :: more, htext, ((mem_edge_iff hc).mp hm).2, q, hq⟩
  · rintro ⟨skipped, rest, htext, hcut, q, hq⟩
    obtain ⟨c, more, hrest, hc⟩ := hr _ _ hq
    obtain rfl : rest = c :: more := hrest
    refine ⟨skipped, c :: more, htext, List.ne_nil_of_mem (a := q) ?_⟩
    rw [List.append_nil]
    exact mem_ends_seq.mpr ⟨_, (mem_edge_iff hc).mpr ⟨rfl, hcut⟩, hq⟩

theorem startsWord_mutationCommand : StartsWord t mutationCommand := by
  refine (startsWord_keyword (by decide) _).alt
    ((startsWord_keyword (by decide) _).alt
      ((startsWord_keyword (by decide) _).alt (startsWord_keyword (by decide) _)))

/-- The first expression of the gate finds the commands that stand in the signs of the text. -/
theorem search_appendOnlyJournalMutation_iff {text : List Char} :
    (search (appendOnlyJournalMutation t) text).isSome = true ↔
      ∃ earlier later, t.classes.signs text = earlier ++ later ∧ Mutates later := by
  rw [appendOnlyJournalMutation, search_edge_iff (startsWord_mutationCommand.seq _)]
  constructor
  · rintro ⟨skipped, rest, rfl, hcut, q, hq⟩
    obtain ⟨m, hm, hq⟩ := mem_ends_seq.mp hq
    obtain ⟨a, ha, hq⟩ := mem_ends_seq.mp hq
    obtain ⟨names, hnames, hphrase⟩ := mem_ends_mutationCommand.mp ⟨m, hm, ha⟩
    obtain ⟨b, hb, hq⟩ := mem_ends_seq.mp hq
    obtain ⟨c, hc, hend⟩ := mem_ends_seq.mp hq
    have hends := (mem_ends_tableEnd.mp hend).2
    obtain ⟨hjournal, hclear⟩ := isJournal_of_mem hc (clear_word_of_endsTarget (t := t) hends)
    refine ⟨_, _, signs_append_of_cut hcut, names, hnames, t.classes.signs a.rest, ?_, ?_⟩
    · refine afterPhrase_of_mem (isKeyword_of_mutationPhrases names hnames).2 hphrase ?_
      rcases mem_ends_opt.mp hb with hb | rfl
      · obtain ⟨n, hn, -⟩ := mem_ends_seq.mp hb
        rcases mem_ends_sqlIdentifier.mp hn with ⟨body, -, hrest, -⟩ | ⟨w, hw, hrest, -⟩
        · rw [hrest]
          exact clear_cons.mpr rfl
        · obtain ⟨hne, hword⟩ := isWord_of_isPlainName (t := t) hw
          rw [hrest]
          exact clear_space_of_word hne hword
      · exact hclear
    · refine ⟨t.classes.signs b.rest, ?_, t.classes.signs c.rest, hjournal, targetEnds_iff.mpr hends⟩
      rcases mem_ends_opt.mp hb with hb | rfl
      · obtain ⟨n, hn, hdot⟩ := mem_ends_seq.mp hb
        obtain ⟨hword, d, hd, hbd⟩ := dropGap_of_dot hdot hclear
        exact Or.inr ⟨_, d, isIdentifier_of_mem hn hword, hd, hbd⟩
      · exact Or.inl rfl
  · rintro ⟨earlier, later, hsigns, names, hnames, a, ha, b, hb, c, hc, hend⟩
    obtain ⟨skipped, rest, rfl, hcut, rfl, rfl⟩ := exists_cut hsigns
    refine ⟨skipped, rest, rfl, hcut, ?_⟩
    obtain ⟨p, hp, rfl, -⟩ := mem_of_afterPhrase (p := ⟨skipped.reverse, rest⟩) ha
    obtain ⟨m, hm, hmp⟩ := mem_ends_mutationCommand.mpr ⟨names, hnames, hp⟩
    obtain ⟨n, hn, rfl⟩ : ∃ n, n ∈ ends (opt (seq sqlIdentifier dot)) p ∧
        t.classes.signs n.rest = b := by
      rcases hb with rfl | ⟨d, e, hd, he, rfl⟩
      · exact ⟨p, mem_ends_opt.mpr (Or.inr rfl), rfl⟩
      · obtain ⟨i, hi, rfl⟩ := mem_of_isIdentifier hd
        obtain ⟨n, hn, hb⟩ := mem_of_dropGap he
        exact ⟨n, mem_ends_opt.mpr (Or.inl (mem_ends_seq.mpr ⟨i, hi, hn⟩)), hb⟩
    obtain ⟨j, hj, rfl⟩ := mem_of_isJournal hc
    exact ⟨j, mem_ends_seq.mpr ⟨m, hm, mem_ends_seq.mpr ⟨p, hmp, mem_ends_seq.mpr ⟨n, hn,
      mem_ends_seq.mpr ⟨j, hj, mem_ends_tableEnd.mpr ⟨rfl, targetEnds_iff.mp hend⟩⟩⟩⟩⟩⟩

/-! ## What a dollar quote follows -/

/-- The text does not end with a gap. -/
def Trimmed (text : List Char) : Prop := ∀ c ∈ text.getLast?, isSpace c = false

theorem Trimmed.of_append {s r : List Char} (h : Trimmed (s ++ r)) : Trimmed r := by
  intro c hc
  refine h c ?_
  have hne : r ≠ [] := by
    rintro rfl
    exact absurd hc (by simp)
  rwa [List.getLast?_append_of_ne_nil _ hne]

theorem rstrip_spec (text : List Char) :
    ∃ g, text = rstrip text ++ g ∧ (∀ c ∈ g, isSpace c = true) ∧ Trimmed (rstrip text) := by
  obtain ⟨g, r, hrev, hg, hclear⟩ := exists_run isSpace text.reverse
  have hr : rstrip text = r.reverse := by
    rw [rstrip, hrev, List.dropWhile_append_of_pos hg]
    cases r with
    | nil => rfl
    | cons c r => rw [List.dropWhile_cons_of_neg (by simp [clear_cons.mp hclear])]
  refine ⟨g.reverse, ?_, fun c hc => hg c (List.mem_reverse.mp hc), fun c hc => ?_⟩
  · rw [hr, ← List.reverse_append, ← hrev, List.reverse_reverse]
  · rw [hr, List.getLast?_reverse] at hc
    exact hclear c hc

/-- A gap at the end left out. -/
def trimEnd (ts : List (Sign Char)) : List (Sign Char) :=
  if ts.getLast? = some .gap then ts.dropLast else ts

theorem signs_ne_concat_gap {text : List Char} (h : Trimmed text) (ts : List (Sign Char)) :
    t.classes.signs text ≠ ts ++ [.gap] := by
  intro hsigns
  obtain ⟨s, r, rfl, -, -, hr⟩ := exists_cut hsigns
  obtain ⟨g, rest, rfl, hne, hg, -, hnil⟩ := eq_of_signs_gap hr
  rw [signs_eq_nil_iff.mp hnil, List.append_nil] at h
  have hlast := h (g.getLast hne) (by
    rw [List.getLast?_append_of_ne_nil _ hne, List.getLast?_eq_some_getLast hne]
    rfl)
  have hspace : isSpace (g.getLast hne) = true := hg _ (List.getLast_mem hne)
  rw [hlast] at hspace
  exact absurd hspace (by simp)

theorem signs_rstrip (text : List Char) :
    t.classes.signs (rstrip text) = trimEnd (t.classes.signs text) := by
  obtain ⟨g, htext, hg, htrim⟩ := rstrip_spec text
  have hlast : (t.classes.signs (rstrip text)).getLast? ≠ some .gap := by
    intro h
    obtain ⟨ts, hts⟩ := List.getLast?_eq_some_iff.mp h
    exact signs_ne_concat_gap htrim ts hts
  by_cases hne : g = []
  · rw [hne, List.append_nil] at htext
    rw [trimEnd, if_neg]
    · exact congrArg _ htext.symm
    · rw [htext]
      exact hlast
  · have hcut : Cut t.classes (rstrip text) g := by
      intro a ha
      refine ⟨fun _ => ?_, fun hs => absurd hs ?_⟩
      · simpa using clear_word_of_space (t := t) (s := []) hne hg
      · have hspace : t.classes.isSpace a = false := htrim a ha
        simp [hspace]
    have hgap : t.classes.signs g = [.gap] := by
      simpa using signs_gap (k := t.classes) (s := []) hne hg (clear_nil _)
    have hsigns : t.classes.signs text = t.classes.signs (rstrip text) ++ [.gap] := by
      conv_lhs => rw [htext]
      rw [signs_append_of_cut hcut, hgap]
    rw [hsigns, trimEnd, if_pos (by simp), List.dropLast_concat]

/-- At the end of a trimmed text an expression may only stop at its very end. -/
theorem exists_mem_end_iff {p : Place Char} (h : Trimmed p.rest) :
    (∃ q, q ∈ ends (seq anySpaces (final (· == '\n'))) p) ↔ p.rest = [] := by
  simp only [anySpaces, mem_ends_seq, mem_ends_star_one, mem_ends_final, beq_iff_eq]
  constructor
  · rintro ⟨-, m, ⟨g, hg, hread, -⟩, -, hend⟩
    rcases hend with hnil | ⟨c, rfl, hnl⟩
    · rw [hnil, List.append_nil] at hread
      by_contra hne
      have hgne : g ≠ [] := hread ▸ hne
      have hlast := h (g.getLast hgne) (by rw [hread, List.getLast?_eq_some_getLast hgne]; rfl)
      rw [hg _ (List.getLast_mem hgne)] at hlast
      exact absurd hlast (by simp)
    · have hlast := h '\n' (by rw [hread, hnl]; simp)
      exact absurd hlast (by decide)
  · intro hnil
    exact ⟨p, p, ⟨[], by simp, Place.reads_nil_iff.mpr rfl⟩, rfl, Or.inl hnil⟩

theorem signs_of_word {w : List Char} (hne : w ≠ []) (hw : ∀ c ∈ w, t.classes.isWord c = true) :
    t.classes.signs w = [.word w] := by
  simpa using signs_word (s := []) hne hw (clear_nil _)

theorem eq_of_signs_of_word {text w : List Char} (h : t.classes.signs text = [.word w]) : text = w := by
  obtain ⟨rest, rfl, -, -, -, hnil⟩ := eq_of_signs_word h
  rw [signs_eq_nil_iff.mp hnil, List.append_nil]

/-- The signs end with a keyword. -/
def EndsWithKeyword (name : String) (ts : List (Sign Char)) : Prop :=
  ∃ earlier w, ts = earlier ++ [.word w] ∧ spells name w = true

/-- The signs end with `DO LANGUAGE` and a plain name. -/
def EndsWithLanguage (ts : List (Sign Char)) : Prop :=
  ∃ earlier d l n, ts = earlier ++ [.word d, .gap, .word l, .gap, .word n] ∧
    spells "DO" d = true ∧ spells "LANGUAGE" l = true ∧ isPlainName n = true

theorem endsWithKeyword_iff {name : String} (hname : IsKeyword name) {text : List Char} :
    EndsWithKeyword name (t.classes.signs text) ↔
      ∃ skipped w, text = skipped ++ w ∧ Cut t.classes skipped w ∧ spells name w = true := by
  constructor
  · rintro ⟨earlier, w, hsigns, hw⟩
    obtain ⟨skipped, rest, rfl, hcut, -, hrest⟩ := exists_cut hsigns
    obtain rfl := eq_of_signs_of_word hrest
    exact ⟨skipped, rest, rfl, hcut, hw⟩
  · rintro ⟨skipped, w, rfl, hcut, hw⟩
    refine ⟨t.classes.signs skipped, w, ?_, hw⟩
    rw [signs_append_of_cut hcut,
      signs_of_word (spells_ne_nil hname hw) (isWordChar_of_spells hname hw)]

theorem signs_of_language {d g l h n : List Char} (hd : spells "DO" d = true)
    (hl : spells "LANGUAGE" l = true) (hn : isPlainName n = true) (hg : g ≠ [])
    (hgs : ∀ c ∈ g, isSpace c = true) (hh : h ≠ []) (hhs : ∀ c ∈ h, isSpace c = true) :
    t.classes.signs (d ++ (g ++ (l ++ (h ++ n)))) =
      [.word d, .gap, .word l, .gap, .word n] := by
  have hdo : IsKeyword "DO" := by decide
  have hlanguage : IsKeyword "LANGUAGE" := by decide
  obtain ⟨hne, hword⟩ := isWord_of_isPlainName (t := t) hn
  have hlne := spells_ne_nil hlanguage hl
  have hlword := isWordChar_of_spells (t := t) hlanguage hl
  have hclear : Clear t.classes.isSpace n := by
    simpa using clear_space_of_word (s := []) hne hword
  rw [signs_word (spells_ne_nil hdo hd) (isWordChar_of_spells hdo hd) (clear_word_of_space hg hgs),
    signs_gap hg hgs (clear_space_of_word hlne hlword),
    signs_word hlne hlword (clear_word_of_space hh hhs), signs_gap hh hhs hclear,
    signs_of_word hne hword]

theorem endsWithLanguage_iff {text : List Char} :
    EndsWithLanguage (t.classes.signs text) ↔
      ∃ skipped d g l h n, text = skipped ++ (d ++ (g ++ (l ++ (h ++ n)))) ∧
        Cut t.classes skipped (d ++ (g ++ (l ++ (h ++ n)))) ∧ spells "DO" d = true ∧
        spells "LANGUAGE" l = true ∧ isPlainName n = true ∧ (g ≠ [] ∧ ∀ c ∈ g, isSpace c = true) ∧
        (h ≠ [] ∧ ∀ c ∈ h, isSpace c = true) := by
  constructor
  · rintro ⟨earlier, d, l, n, hsigns, hd, hl, hn⟩
    obtain ⟨skipped, rest, rfl, hcut, -, hrest⟩ := exists_cut hsigns
    obtain ⟨r, rfl, -, -, -, hr⟩ := eq_of_signs_word hrest
    obtain ⟨g, r, rfl, hgne, hg, -, hr⟩ := eq_of_signs_gap hr
    obtain ⟨r, rfl, -, -, -, hr⟩ := eq_of_signs_word hr
    obtain ⟨h, r, rfl, hhne, hh, -, hr⟩ := eq_of_signs_gap hr
    obtain rfl := eq_of_signs_of_word hr
    exact ⟨skipped, d, g, l, h, r, rfl, hcut, hd, hl, hn, ⟨hgne, hg⟩, hhne, hh⟩
  · rintro ⟨skipped, d, g, l, h, n, rfl, hcut, hd, hl, hn, ⟨hgne, hg⟩, hhne, hh⟩
    refine ⟨t.classes.signs skipped, d, l, n, ?_, hd, hl, hn⟩
    rw [signs_append_of_cut hcut, signs_of_language hd hl hn hgne hg hhne hh]

theorem search_asAtEnd_iff {text : List Char} (h : Trimmed text) :
    (search (asAtEnd t) text).isSome = true ↔ EndsWithKeyword "AS" (t.classes.signs text) := by
  have has : IsKeyword "AS" := by decide
  rw [asAtEnd, search_edge_iff (startsWord_keyword has _), endsWithKeyword_iff has]
  constructor
  · rintro ⟨skipped, rest, rfl, hcut, q, hq⟩
    obtain ⟨m, hm, hq⟩ := mem_ends_seq.mp hq
    obtain ⟨w, hw, hread, -⟩ := mem_ends_keyword.mp hm
    have htrim : Trimmed m.rest := by
      rw [show rest = w ++ m.rest from hread] at h
      exact h.of_append.of_append
    have hnil := (exists_mem_end_iff htrim).mp ⟨q, hq⟩
    rw [hnil, List.append_nil] at hread
    obtain rfl : rest = w := hread
    exact ⟨skipped, rest, rfl, hcut, hw⟩
  · rintro ⟨skipped, w, rfl, hcut, hw⟩
    obtain ⟨q, hq⟩ := (exists_mem_end_iff (p := Place.past ⟨skipped.reverse, w⟩ w [])
      (by simp [Trimmed, Place.past])).mpr rfl
    refine ⟨skipped, w, rfl, hcut, q, mem_ends_seq.mpr ⟨_, mem_ends_keyword.mpr ⟨w, hw, ?_⟩, hq⟩⟩
    exact Place.reads_past (List.append_nil _).symm

theorem search_doAtEnd_iff {text : List Char} (h : Trimmed text) :
    (search (doAtEnd t) text).isSome = true ↔
      EndsWithKeyword "DO" (t.classes.signs text) ∨ EndsWithLanguage (t.classes.signs text) := by
  have hdo : IsKeyword "DO" := by decide
  rw [doAtEnd, search_edge_iff (startsWord_keyword hdo _), endsWithKeyword_iff hdo,
    endsWithLanguage_iff]
  constructor
  · rintro ⟨skipped, rest, rfl, hcut, q, hmatch⟩
    obtain ⟨m, hm, hmatch'⟩ := mem_ends_seq.mp hmatch
    obtain ⟨d, hd, hread, -⟩ := mem_ends_keyword.mp hm
    obtain rfl : rest = d ++ m.rest := hread
    obtain ⟨e, he, hq⟩ := mem_ends_seq.mp hmatch'
    rcases mem_ends_opt.mp he with he | rfl
    · obtain ⟨a, ha, he⟩ := mem_ends_seq.mp he
      obtain ⟨b, hb, he⟩ := mem_ends_seq.mp he
      obtain ⟨c, hc, he⟩ := mem_ends_seq.mp he
      obtain ⟨g, hgne, hg, hga, -⟩ := mem_ends_spaces.mp ha
      obtain ⟨l, hl, hlb, -⟩ := mem_ends_keyword.mp hb
      obtain ⟨i, hine, hi, hic, -⟩ := mem_ends_spaces.mp hc
      obtain ⟨n, hn, hne, -⟩ := mem_ends_plainIdentifier.mp he
      rw [hga, hlb, hic, hne] at h hcut ⊢
      have htrim : Trimmed e.rest :=
        h.of_append.of_append.of_append.of_append.of_append.of_append
      have hnil := (exists_mem_end_iff htrim).mp ⟨q, hq⟩
      rw [hnil, List.append_nil] at hcut ⊢
      exact Or.inr ⟨skipped, d, g, l, i, n, rfl, hcut, hd, hl, hn, ⟨hgne, hg⟩, hine, hi⟩
    · have hnil := (exists_mem_end_iff h.of_append.of_append).mp ⟨q, hq⟩
      rw [hnil, List.append_nil] at hcut ⊢
      exact Or.inl ⟨skipped, d, rfl, hcut, hd⟩
  · rintro (⟨skipped, d, rfl, hcut, hd⟩ |
      ⟨skipped, d, g, l, i, n, rfl, hcut, hd, hl, hn, ⟨hgne, hg⟩, hine, hi⟩)
    · obtain ⟨q, hq⟩ := (exists_mem_end_iff (p := Place.past ⟨skipped.reverse, d⟩ d [])
        (by simp [Trimmed, Place.past])).mpr rfl
      refine ⟨skipped, d, rfl, hcut, q, mem_ends_seq.mpr ⟨_, mem_ends_keyword.mpr
        ⟨d, hd, Place.reads_past (List.append_nil _).symm⟩, mem_ends_seq.mpr ⟨_, ?_, hq⟩⟩⟩
      exact mem_ends_opt.mpr (Or.inr rfl)
    · let start : Place Char := ⟨skipped.reverse, d ++ (g ++ (l ++ (i ++ n)))⟩
      let afterDo := start.past d (g ++ (l ++ (i ++ n)))
      let afterGap := afterDo.past g (l ++ (i ++ n))
      let afterLanguage := afterGap.past l (i ++ n)
      let beforeName := afterLanguage.past i n
      obtain ⟨q, hq⟩ := (exists_mem_end_iff (p := beforeName.past n [])
        (by simp [Trimmed, Place.past])).mpr rfl
      refine ⟨skipped, _, rfl, hcut, q, mem_ends_seq.mpr ⟨afterDo, mem_ends_keyword.mpr
        ⟨d, hd, Place.reads_past rfl⟩, mem_ends_seq.mpr ⟨_, mem_ends_opt.mpr (Or.inl ?_), hq⟩⟩⟩
      exact mem_ends_seq.mpr ⟨afterGap, mem_ends_spaces.mpr ⟨g, hgne, hg, Place.reads_past rfl⟩,
        mem_ends_seq.mpr ⟨afterLanguage, mem_ends_keyword.mpr ⟨l, hl, Place.reads_past rfl⟩,
          mem_ends_seq.mpr ⟨beforeName, mem_ends_spaces.mpr ⟨i, hine, hi, Place.reads_past rfl⟩,
            mem_ends_plainIdentifier.mpr ⟨n, hn, Place.reads_past (List.append_nil _).symm⟩⟩⟩⟩

/-- Whether a dollar quote is opened can be told from the signs before it. -/
theorem dollarBodyIsExecutable_iff {earlier : List Char} :
    dollarBodyIsExecutable t earlier = true ↔
      EndsWithKeyword "AS" (trimEnd (t.classes.signs earlier)) ∨
        EndsWithKeyword "DO" (trimEnd (t.classes.signs earlier)) ∨
          EndsWithLanguage (trimEnd (t.classes.signs earlier)) := by
  obtain ⟨-, -, -, htrim⟩ := rstrip_spec earlier
  rw [dollarBodyIsExecutable, Bool.or_eq_true, search_asAtEnd_iff htrim, search_doAtEnd_iff htrim,
    signs_rstrip]

theorem dollarBodyIsExecutable_congr {earlier other : List Char}
    (h : t.classes.signs earlier = t.classes.signs other) :
    dollarBodyIsExecutable t earlier = dollarBodyIsExecutable t other := by
  rw [Bool.eq_iff_iff, dollarBodyIsExecutable_iff, dollarBodyIsExecutable_iff, h]

end AccountingPlatform.Scripts
