/-
  The commands with a target list that the append-only gate finds.

  The expression stops at the first `TRUNCATE` or `DROP TABLE` of a statement and reads on to
  the semicolon; its gaps may be split, but only when there is nothing behind them.
-/
import AccountingPlatform.Scripts.TableLists

namespace AccountingPlatform.Scripts

open AccountingPlatform.Lib AccountingPlatform.Core
open Pattern
open Classes hiding isSpace isWord

variable {t : UnicodeTable}

/-! ## Lists in signs -/

/-- The phrases before a list, the longer one first. -/
def listPhrases : List (List String) :=
  [["TRUNCATE", "TABLE"], ["TRUNCATE"], ["DROP", "TABLE", "IF", "EXISTS"], ["DROP", "TABLE"]]

/-- What stands behind the phrase that starts here. -/
def listHead (ts : List (Sign Char)) : Option (List (Sign Char)) :=
  listPhrases.findSome? fun names => afterPhrase names ts

/-- The list of a statement: what stands behind its first phrase. -/
def firstList : List (Sign Char) → Option (List (Sign Char))
  | [] => none
  | x :: ts => (listHead (x :: ts)).or (firstList ts)

def statementNamesJournal (ts : List (Sign Char)) : Bool := (firstList ts).any groupNamesJournal

/-- The list of some statement names a journal table. -/
def listsNameJournal (ts : List (Sign Char)) : Bool :=
  (ts.splitOn (.mark ';')).any statementNamesJournal

/-! ## Text without semicolons -/

/-- The statement ends here. -/
def EndsStatement (text : List Char) : Prop := ∀ c ∈ text.head?, c = ';'

theorem clear_of_endsStatement {c : Char → Bool} {text : List Char} (h : EndsStatement text)
    (hc : c ';' = false) : Clear c text := fun a ha => h a ha ▸ hc

theorem cut_of_endsStatement {text : List Char} (h : EndsStatement text) (s : List Char) :
    Cut t.classes s text :=
  fun _ _ => ⟨fun _ => clear_of_endsStatement h rfl, fun _ => clear_of_endsStatement h rfl⟩

/-- What the pattern reads holds no semicolon. -/
def ReadsStatement (r : Pattern Char) : Prop :=
  ∀ p q, q ∈ ends r p → ∃ y, p.Reads y q ∧ ';' ∉ y

theorem readsStatement_keyword {name : String} (hname : IsKeyword name) :
    ReadsStatement (keyword name) := by
  intro p q h
  obtain ⟨w, hw, hread⟩ := mem_ends_keyword.mp h
  refine ⟨w, hread, fun hmem => ?_⟩
  rw [spells, beq_iff_eq] at hw
  obtain ⟨k, hk, heq⟩ := List.mem_map.mp (hw ▸ List.mem_map_of_mem (f := foldCase) hmem)
  have hletter := hname.2 k hk
  rw [heq] at hletter
  exact absurd hletter (by decide)

theorem readsStatement_spaces : ReadsStatement spaces := by
  intro p q h
  obtain ⟨g, -, hg, hread⟩ := mem_ends_spaces.mp h
  exact ⟨g, hread, fun hmem => absurd (hg _ hmem) (by decide)⟩

theorem ReadsStatement.seq {r s : Pattern Char} (hr : ReadsStatement r) (hs : ReadsStatement s) :
    ReadsStatement (seq r s) := by
  intro p q h
  obtain ⟨m, hm, hq⟩ := mem_ends_seq.mp h
  obtain ⟨y, hy, hysemi⟩ := hr p m hm
  obtain ⟨z, hz, hzsemi⟩ := hs m q hq
  refine ⟨y ++ z, hy.trans hz, fun hmem => ?_⟩
  rcases List.mem_append.mp hmem with h | h
  · exact hysemi h
  · exact hzsemi h

theorem ReadsStatement.opt {r : Pattern Char} (hr : ReadsStatement r) : ReadsStatement (opt r) := by
  intro p q h
  rcases mem_ends_opt.mp h with h | rfl
  · exact hr p q h
  · exact ⟨[], Place.reads_nil_iff.mpr rfl, by simp⟩

/-- What is left of a text with a statement in front, and of the statement. -/
theorem exists_rest_of_reads {text v y rest : List Char} (hv : EndsStatement v) (hy : ';' ∉ y)
    (h : text ++ v = y ++ rest) : ∃ z, rest = z ++ v ∧ text = y ++ z := by
  rcases List.append_eq_append_iff.mp h with ⟨c, hyc, hvc⟩ | ⟨c, htext, hrest⟩
  · cases c with
    | nil => exact ⟨[], hvc.symm, by rw [hyc, List.append_nil, List.append_nil]⟩
    | cons a c =>
      have ha : a = ';' := hv a (by rw [hvc]; rfl)
      exact absurd (by rw [hyc, ha]; simp) hy
  · exact ⟨c, hrest, htext⟩

/-- A text cut behind a letter outside of words has the signs of its end. -/
theorem mem_signs_of_append {y z : List Char} (hy : ∀ c ∈ y.getLast?, t.classes.isWord c = false)
    {x : Sign Char} (hx : x ∈ t.classes.signs z) : x = .gap ∨ x ∈ t.classes.signs (y ++ z) := by
  obtain ⟨h, rest, rfl, hh, hclear⟩ := exists_run isSpace z
  have hcut : Cut t.classes (y ++ h) rest := by
    intro a ha
    refine ⟨fun hw => absurd hw ?_, fun _ => hclear⟩
    by_cases hne : h = []
    · rw [hne, List.append_nil] at ha
      simp [hy a ha]
    · rw [List.getLast?_append_of_ne_nil _ hne] at ha
      have hspace : t.classes.isSpace a = true := hh a (List.mem_of_getLast? ha)
      simp [isWord_eq_false hspace]
  rw [← List.append_assoc, signs_append_of_cut hcut]
  by_cases hne : h = []
  · rw [hne, List.nil_append] at hx
    exact Or.inr (List.mem_append_right _ hx)
  · rw [signs_gap hne hh hclear] at hx
    rcases List.mem_cons.mp hx with rfl | hx
    · exact Or.inl rfl
    · exact Or.inr (List.mem_append_right _ hx)

/-! ## Lists of keywords only -/

/-- Words of a phrase and gaps. -/
def KeywordsOnly (ts : List (Sign Char)) : Prop :=
  ∀ x ∈ ts, x = .gap ∨ ∃ w, x = .word w ∧ ∃ name ∈ ["TABLE", "IF", "EXISTS"], spells name w = true

theorem KeywordsOnly.subset {ts us : List (Sign Char)} (h : KeywordsOnly us) (hsub : ts ⊆ us) :
    KeywordsOnly ts := fun x hx => h x (hsub hx)

theorem keywordsOnly_of_afterPhrase {names : List String} {ts : List (Sign Char)}
    (hnames : ∀ name ∈ names, name ∈ ["TABLE", "IF", "EXISTS"]) (h : afterPhrase names ts = some []) :
    KeywordsOnly ts := by
  induction names generalizing ts with
  | nil =>
    rw [afterPhrase, Option.some.injEq] at h
    rw [h]
    exact fun x hx => absurd hx (by simp)
  | cons name names ih =>
    obtain ⟨hname, hnames'⟩ := List.forall_mem_cons.mp hnames
    unfold afterPhrase at h
    split at h
    · rename_i heq
      exact absurd heq (List.cons_ne_nil _ _)
    · rename_i name' names' w us heq
      obtain ⟨rfl, rfl⟩ := List.cons.inj heq
      by_cases hw : spells name w = true
      · rw [if_pos hw] at h
        intro x hx
        rcases List.mem_cons.mp hx with rfl | hx
        · exact Or.inr ⟨w, rfl, name, hname, hw⟩
        · rcases List.mem_cons.mp hx with rfl | hx
          · exact Or.inl rfl
          · exact ih hnames' h x hx
      · rw [if_neg hw] at h
        exact absurd h (by simp)
    · exact absurd h (by simp)

theorem dropGap_subset (ts : List (Sign Char)) : dropGap ts ⊆ ts := by
  unfold dropGap
  split
  · exact List.subset_cons_self _ _
  · exact List.Subset.refl _

theorem trimSigns_subset (ts : List (Sign Char)) : trimSigns ts ⊆ ts := by
  refine List.Subset.trans ?_ (dropGap_subset ts)
  unfold trimSigns trimEnd
  split
  · exact List.dropLast_subset _
  · exact List.Subset.refl _

theorem dropStar_subset (ts : List (Sign Char)) : dropStar ts ⊆ ts := by
  unfold dropStar
  split
  · exact List.dropLast_subset _
  · exact List.Subset.refl _

theorem dropOnly_subset (ts : List (Sign Char)) : dropOnly ts ⊆ ts := by
  unfold dropOnly
  split
  · rename_i w rest heq
    split
    · refine List.Subset.trans ?_ (dropGap_subset ts)
      rw [heq]
      exact List.Subset.trans (List.subset_cons_self _ _) (List.subset_cons_self _ _)
    · exact List.Subset.refl _
  · exact List.Subset.refl _

theorem lastPartSigns_subset (ts : List (Sign Char)) : lastPartSigns ts ⊆ ts := by
  intro x hx
  have hmem := (List.takeWhile_subset _) (List.mem_reverse.mp hx)
  exact List.mem_reverse.mp hmem

theorem identifierSigns_subset (ts : List (Sign Char)) : identifierSigns ts ⊆ ts :=
  List.Subset.trans (trimSigns_subset _) <| List.Subset.trans (lastPartSigns_subset _) <|
    List.Subset.trans (trimSigns_subset _) <| List.Subset.trans (dropStar_subset _) <|
      List.Subset.trans (trimSigns_subset _) (dropOnly_subset ts)

theorem beforeOptions_subset (ts : List (Sign Char)) : beforeOptions ts ⊆ ts := by
  induction ts with
  | nil => exact List.Subset.refl _
  | cons x ts ih =>
    rw [beforeOptions]
    split
    · exact List.nil_subset _
    · exact List.cons_subset_cons _ ih

/-- The letters of a lower case name are its folded letters. -/
theorem map_foldCase_of_lowered {w cs : List Char} (h : lowered w = cs)
    (hcs : ∀ c ∈ cs, c.isAlpha = true ∨ c = '_') : w.map foldCase = cs := by
  induction w generalizing cs with
  | nil => exact h
  | cons c w ih =>
    have hsplit : lowered (c :: w) = lowered [c] ++ lowered w := by simp [lowered]
    rw [hsplit] at h
    have hrest := ih rfl fun d hd => hcs d (h ▸ List.mem_append_right _ hd)
    have hhead : ∀ d ∈ lowered [c], d.isAlpha = true ∨ d = '_' :=
      fun d hd => hcs d (h ▸ List.mem_append_left _ hd)
    have hone : lowered [c] = [foldCase c] := by
      unfold lowered at hhead ⊢
      rw [List.flatMap_singleton] at hhead ⊢
      unfold foldCase
      split
      · rename_i h130
        rw [if_pos h130] at hhead
        exact absurd (hhead (Char.ofNat 0x307) (by simp)) (by decide)
      · rename_i h130
        rw [if_neg h130] at hhead
        split
        · rename_i h212a
          rw [if_neg (by omega), if_neg (by omega)]
        · rename_i h212a
          rw [if_neg h212a] at hhead
          have hletter := hhead _ List.mem_cons_self
          have hascii : c.toNat < 128 := by
            by_contra hlarge
            rw [toLower_of_not_ascii (by omega)] at hletter
            rcases hletter with halpha | rfl
            · have := toNat_of_isAlpha halpha
              omega
            · exact hlarge (by decide)
          rw [if_neg (by omega), if_neg (by omega)]
    rw [← h, hone, List.map_cons, hrest, List.singleton_append]

theorem not_protected_of_keyword {w : List Char} {name : String}
    (hname : name ∈ ["TABLE", "IF", "EXISTS"]) (hw : spells name w = true) :
    (protectedTables.any fun table => lowered w == table.toList) = false := by
  have hne : ∀ name ∈ ["TABLE", "IF", "EXISTS"], ∀ table ∈ protectedTables,
      table.toList ≠ name.toList.map foldCase := by decide
  rw [Bool.eq_false_iff]
  intro h
  obtain ⟨table, htable, hlow⟩ := List.any_eq_true.mp h
  have hfold := map_foldCase_of_lowered (beq_iff_eq.mp hlow) (isAlpha_of_protectedTables table htable).2
  rw [spells, beq_iff_eq, hfold] at hw
  exact hne name hname table htable hw

theorem targetNamesJournal_of_keywordsOnly {ts : List (Sign Char)} (h : KeywordsOnly ts) :
    targetNamesJournal ts = false := by
  have hsub := h.subset (identifierSigns_subset ts)
  unfold targetNamesJournal isProtectedName
  split
  · rename_i w heq
    rw [heq] at hsub
    rcases hsub _ List.mem_cons_self with hgap | ⟨v, hv, name, hname, hspells⟩
    · exact absurd hgap (by simp)
    · rw [Sign.word.inj hv]
      exact not_protected_of_keyword hname hspells
  · rename_i w heq
    rw [heq] at hsub
    rcases hsub _ List.mem_cons_self with hgap | ⟨v, hv, -⟩
    · exact absurd hgap (by simp)
    · exact absurd hv (by simp)
  · rfl

/-- A list of keywords names no table. -/
theorem groupNamesJournal_of_keywordsOnly {ts : List (Sign Char)} (h : KeywordsOnly ts) :
    groupNamesJournal ts = false := by
  have hsub := h.subset (beforeOptions_subset ts)
  have hcomma : .mark ',' ∉ beforeOptions ts := by
    intro hmem
    rcases hsub _ hmem with hgap | ⟨v, hv, -⟩
    · exact absurd hgap (by simp)
    · exact absurd hv (by simp)
  rw [groupNamesJournal, List.splitOn_eq_singleton hcomma, List.any_cons, List.any_nil,
    Bool.or_false]
  exact targetNamesJournal_of_keywordsOnly hsub

/-! ## Phrases before a list -/

theorem startsWord_phrase {names : List String} (hne : names ≠ [])
    (hnames : ∀ name ∈ names, IsKeyword name) : StartsWord t (phrase names) := by
  obtain ⟨name, more, rfl⟩ := List.exists_cons_of_ne_nil hne
  exact startsWord_keyword (List.forall_mem_cons.mp hnames).1 _

/-- A gap can be read to its end. -/
theorem exists_spaces_clear {p q : Place Char} (h : q ∈ ends spaces p) :
    ∃ m ∈ ends spaces p, Clear isSpace m.rest := by
  obtain ⟨g, hne, hg, hread⟩ := mem_ends_spaces.mp h
  obtain ⟨v, rest, hrest, hv, hclear⟩ := exists_run isSpace q.rest
  refine ⟨p.past (g ++ v) rest, mem_ends_spaces.mpr ⟨g ++ v, ?_, ?_, Place.reads_past ?_⟩, hclear⟩
  · exact List.append_ne_nil_of_left_ne_nil hne _
  · exact fun c hc => (List.mem_append.mp hc).elim (hg c) (hv c)
  · rw [hread.1, hrest, List.append_assoc]

theorem exists_phrase_clear {names : List String} (hne : names ≠ []) {p q : Place Char}
    (h : q ∈ ends (phrase names) p) : ∃ m ∈ ends (phrase names) p, Clear isSpace m.rest := by
  induction names generalizing p with
  | nil => exact absurd rfl hne
  | cons name names ih =>
    obtain ⟨a, ha, b, hb, hq⟩ := of_phrase_cons h
    by_cases hmore : names = []
    · subst hmore
      obtain ⟨m, hm, hclear⟩ := exists_spaces_clear hb
      exact ⟨m, phrase_cons ha hm phrase_nil, hclear⟩
    · obtain ⟨m, hm, hclear⟩ := ih hmore hq
      exact ⟨m, phrase_cons ha hb hm, hclear⟩

/-- A phrase ends before a mark. -/
theorem afterPhrase_append {names : List String} {ts us : List (Sign Char)}
    (hus : ∀ x ∈ us.head?, ∃ a, x = .mark a) :
    afterPhrase names (ts ++ us) = (afterPhrase names ts).map (· ++ us) := by
  induction names generalizing ts with
  | nil => rfl
  | cons name names ih =>
    cases ts with
    | nil =>
      cases us with
      | nil => rfl
      | cons u us =>
        obtain ⟨a, rfl⟩ := hus u rfl
        rfl
    | cons x ts =>
      cases x with
      | gap => rfl
      | mark a => rfl
      | word w =>
        cases ts with
        | nil =>
          cases us with
          | nil => rfl
          | cons u us =>
            obtain ⟨a, rfl⟩ := hus u rfl
            rfl
        | cons y ts =>
          cases y with
          | word v => rfl
          | mark a => rfl
          | gap =>
            simp only [List.cons_append, afterPhrase]
            split
            · exact ih
            · rfl

theorem head_signs_of_endsStatement {v : List Char} (hv : EndsStatement v) :
    ∀ x ∈ (t.classes.signs v).head?, ∃ a, x = .mark a := by
  cases v with
  | nil => exact fun x hx => absurd hx (by simp)
  | cons c v =>
    obtain rfl : c = ';' := hv c rfl
    intro x hx
    rw [signs_mark rfl rfl, List.head?_cons, Option.mem_some_iff] at hx
    exact ⟨';', hx.symm⟩

/-- A phrase that matches can be told from the signs of its statement. -/
theorem afterPhrase_ne_none {names : List String} (hne : names ≠ [])
    (hnames : ∀ name ∈ names, IsKeyword name) {a v before : List Char} (hv : EndsStatement v)
    {q : Place Char} (h : q ∈ ends (phrase names) ⟨before, a ++ v⟩) :
    afterPhrase names (t.classes.signs a) ≠ none := by
  obtain ⟨m, hm, hclear⟩ := exists_phrase_clear hne h
  have hafter := afterPhrase_of_mem (t := t) hnames hm hclear
  rw [signs_append_of_cut (cut_of_endsStatement hv a),
    afterPhrase_append (head_signs_of_endsStatement hv)] at hafter
  intro hnone
  rw [hnone] at hafter
  exact absurd hafter (by simp)

/-- A phrase stops at the end of its last gap before anywhere inside it. -/
theorem ends_phrase_first {names : List String} (hne : names ≠ [])
    (hnames : ∀ name ∈ names, IsKeyword name) {a v : List Char} (hv : EndsStatement v)
    {rest : List (Sign Char)} (h : afterPhrase names (t.classes.signs a) = some rest)
    (before : List Char) :
    ∃ z m others, ends (phrase names) ⟨before, a ++ v⟩ = m :: others ∧ m.rest = z ++ v ∧
      t.classes.signs z = rest := by
  induction names generalizing a before with
  | nil => exact absurd rfl hne
  | cons name names ih =>
    obtain ⟨hname, hnames'⟩ := List.forall_mem_cons.mp hnames
    unfold afterPhrase at h
    split at h
    · rename_i heq
      exact absurd heq (List.cons_ne_nil _ _)
    · rename_i name' names' w us heq hsigns
      obtain ⟨rfl, rfl⟩ := List.cons.inj heq
      by_cases hw : spells name w = true
      · rw [if_pos hw] at h
        obtain ⟨r, rfl, -, -, -, hr⟩ := eq_of_signs_word hsigns
        obtain ⟨g, b, rfl, hgne, hg, hclear, hb⟩ := eq_of_signs_gap hr
        have hclear' : Clear isSpace (b ++ v) := by
          cases b with
          | nil => exact clear_of_endsStatement hv rfl
          | cons c b => exact hclear
        have hkeyword : ends (phrase (name :: names)) ⟨before, w ++ (g ++ b) ++ v⟩ =
            ends (.seq spaces (phrase names)) ⟨w.reverse ++ before, g ++ (b ++ v)⟩ := by
          rw [List.append_assoc, List.append_assoc, phrase, ends, ends_keyword hw]
          simp
        rw [hkeyword]
        by_cases hmore : names = []
        · subst hmore
          obtain ⟨others, heq, -⟩ := ends_plus_run hgne hg hclear' (w.reverse ++ before)
          rw [afterPhrase, Option.some.injEq] at h
          refine ⟨b, ⟨g.reverse ++ (w.reverse ++ before), b ++ v⟩, others, ?_, rfl, hb.trans h⟩
          have hspaces : ends spaces ⟨w.reverse ++ before, g ++ (b ++ v)⟩ = _ := heq
          rw [phrase, ends, hspaces]
          simp [ends]
        · have hseq : ends (.seq spaces (phrase names)) ⟨w.reverse ++ before, g ++ (b ++ v)⟩ =
              ends (phrase names) ⟨g.reverse ++ (w.reverse ++ before), b ++ v⟩ :=
            ends_plus_seq (fun q a more hq ha =>
              ends_eq_nil_of_space (startsWord_phrase (t := t) hmore hnames') hq ha) hgne hg hclear' _
          rw [hseq]
          exact ih hmore hnames' (by rw [hb]; exact h) _
      · rw [if_neg hw] at h
        exact absurd h (by simp)
    · exact absurd h (by simp)

/-! ## The optional part of a phrase -/

/-- An optional part with a gap before it, and the gap before the list. -/
def optionalTail (r : Pattern Char) : Pattern Char := seq (opt (seq spaces r)) spaces

theorem ends_optionalTail {r : Pattern Char} {names : List String} (hr : StartsWord t r)
    (hnames : ∀ p, ends (.seq r spaces) p = ends (phrase names) p) {g rest : List Char}
    (hne : g ≠ []) (hg : ∀ c ∈ g, isSpace c = true) (hclear : Clear isSpace rest)
    (before : List Char) :
    ends (optionalTail r) ⟨before, g ++ rest⟩ =
      ends (phrase names) ⟨g.reverse ++ before, rest⟩ ++ ends spaces ⟨before, g ++ rest⟩ := by
  have hgap : ends (.seq spaces r) ⟨before, g ++ rest⟩ = ends r ⟨g.reverse ++ before, rest⟩ :=
    ends_plus_seq (fun q a more hq ha => ends_eq_nil_of_space hr hq ha) hne hg hclear before
  have hopt : ends (opt (.seq spaces r)) ⟨before, g ++ rest⟩ =
      ends r ⟨g.reverse ++ before, rest⟩ ++ [⟨before, g ++ rest⟩] := by
    rw [opt, ends, hgap]
    rfl
  rw [← hnames]
  change (ends (opt (.seq spaces r)) ⟨before, g ++ rest⟩).flatMap (ends spaces) =
    (ends r ⟨g.reverse ++ before, rest⟩).flatMap (ends spaces) ++ _
  rw [hopt, List.flatMap_append, List.flatMap_singleton]

/-- What the places of the optional part leave of the statement. -/
theorem exists_rest_of_optionalTail {r : Pattern Char} (hr : ReadsStatement r)
    {text v before : List Char} (hv : EndsStatement v) (hsemi : ';' ∉ text) {m : Place Char}
    (h : m ∈ ends (optionalTail r) ⟨before, text ++ v⟩) :
    ∃ z, m.rest = z ++ v ∧ ';' ∉ z ∧
      ∀ x ∈ t.classes.signs z, x = .gap ∨ x ∈ t.classes.signs text := by
  obtain ⟨n, hn, hm⟩ := mem_ends_seq.mp h
  obtain ⟨y, hread, hy⟩ := (readsStatement_spaces.seq hr).opt _ _ hn
  obtain ⟨g, hne, hg, hread'⟩ := mem_ends_spaces.mp hm
  have hall := hread.trans hread'
  obtain ⟨z, hz, htext⟩ := exists_rest_of_reads hv (y := y ++ g) (by
    intro hmem
    rcases List.mem_append.mp hmem with h | h
    · exact hy h
    · exact absurd (hg _ h) (by decide)) hall.1
  have hzsemi : ';' ∉ z := fun hmem => hsemi (htext ▸ List.mem_append_right _ hmem)
  refine ⟨z, hz, hzsemi, fun x hx => htext ▸ mem_signs_of_append ?_ hx⟩
  intro c hc
  rw [List.getLast?_append_of_ne_nil _ hne] at hc
  exact isWord_eq_false (k := t.classes) (hg c (List.mem_of_getLast? hc))

/-! ## Matches with a list -/

/-- The matches whose list starts at a place. -/
def listsAt (m : Place Char) : List (Place Char × Place Char) :=
  (ends tableListTargets m).map fun q => (m, q)

theorem listsAt_eq {m : Place Char} {z v : List Char} (hm : m.rest = z ++ v) (hv : EndsStatement v)
    (hz : ';' ∉ z) :
    (z = [] ∧ listsAt m = []) ∨
      ∃ others, listsAt m = (m, ⟨z.reverse ++ m.before, v⟩) :: others := by
  obtain ⟨before, rest⟩ := m
  obtain rfl : rest = z ++ v := hm
  by_cases hne : z = []
  · refine Or.inl ⟨hne, ?_⟩
    subst hne
    rw [listsAt, List.map_eq_nil_iff, List.eq_nil_iff_forall_not_mem]
    intro q hq
    obtain ⟨w, hwne, hw, hread, -⟩ := mem_ends_plus_one.mp hq
    obtain ⟨c, w, rfl⟩ := List.exists_cons_of_ne_nil hwne
    have hc : c = ';' := hv c (by
      rw [show v = (c :: w) ++ q.rest from hread]
      rfl)
    exact absurd (hw c List.mem_cons_self) (by simp [hc])
  · have hstop : ∀ c ∈ v.head?, (c != ';') = false := fun c hc => by simp [hv c hc]
    have hlist : ∀ c ∈ z, (c != ';') = true := by
      intro c hc
      refine bne_iff_ne.mpr fun h => hz ?_
      rwa [← h]
    obtain ⟨others, heq, -⟩ := ends_plus_run hne hlist hstop before
    exact Or.inr ⟨_, by rw [listsAt, tableListTargets, heq, List.map_cons]⟩

/-- The first match of a list: one that says the same as a list of signs, or none. -/
def FirstSays (t : UnicodeTable) (matchList : List (Place Char × Place Char)) (v : List Char)
    (rest : List (Sign Char)) : Prop :=
  ∃ m z others, matchList = (m, ⟨z.reverse ++ m.before, v⟩) :: others ∧ m.rest = z ++ v ∧
    groupNamesJournal (t.classes.signs z) = groupNamesJournal rest

theorem firstSays_of_head {m : Place Char} {z v : List Char} {rest : List (Sign Char)}
    (hm : m.rest = z ++ v) (hv : EndsStatement v) (hsemi : ';' ∉ z)
    (hz : t.classes.signs z = rest) (hne : rest ≠ []) (others : List (Place Char)) :
    FirstSays t ((m :: others).flatMap listsAt) v rest := by
  rcases listsAt_eq hm hv hsemi with ⟨rfl, -⟩ | ⟨more, heq⟩
  · exact absurd hz.symm hne
  · exact ⟨m, z, more ++ others.flatMap listsAt, by rw [List.flatMap_cons, heq, List.cons_append],
      hm, by rw [hz]⟩

/-- A first match comes from some place with something behind it. -/
theorem firstSays_of_all {v : List Char} {rest : List (Sign Char)} (places : List (Place Char))
    (hv : EndsStatement v)
    (h : ∀ m ∈ places, ∃ z, m.rest = z ++ v ∧ ';' ∉ z ∧
      groupNamesJournal (t.classes.signs z) = groupNamesJournal rest) :
    (places.flatMap listsAt = [] ∧ ∀ m ∈ places, m.rest = v) ∨
      FirstSays t (places.flatMap listsAt) v rest := by
  induction places with
  | nil => exact Or.inl ⟨rfl, by simp⟩
  | cons m places ih =>
    obtain ⟨⟨z, hm, hsemi, hsays⟩, hplaces⟩ := List.forall_mem_cons.mp h
    rw [List.flatMap_cons]
    rcases listsAt_eq hm hv hsemi with ⟨rfl, hnil⟩ | ⟨others, heq⟩
    · rw [hnil, List.nil_append]
      rcases ih hplaces with ⟨hrest, hall⟩ | hfirst
      · exact Or.inl ⟨hrest, List.forall_mem_cons.mpr ⟨hm, hall⟩⟩
      · exact Or.inr hfirst
    · rw [heq]
      exact Or.inr ⟨m, z, others ++ places.flatMap listsAt, rfl, hm, hsays⟩

theorem groupNamesJournal_nil : groupNamesJournal [] = false :=
  groupNamesJournal_of_keywordsOnly fun x hx => absurd hx (by simp)

/-- Behind a command and a gap the first match reads the list behind the optional part. -/
theorem firstSays_optionalTail {r : Pattern Char} (names : List String) (hr : StartsWord t r)
    (hread : ReadsStatement r) (heq : ∀ p, ends (.seq r spaces) p = ends (phrase names) p)
    (hne : names ≠ []) (hnames : ∀ name ∈ names, IsKeyword name ∧ name ∈ ["TABLE", "IF", "EXISTS"])
    {g a v : List Char} (hgne : g ≠ []) (hg : ∀ c ∈ g, isSpace c = true) (ha : Clear isSpace a)
    (hv : EndsStatement v) (hsemi : ';' ∉ a) (before : List Char) :
    ((ends (optionalTail r) ⟨before, g ++ (a ++ v)⟩).flatMap listsAt = [] ∧ a = []) ∨
      FirstSays t ((ends (optionalTail r) ⟨before, g ++ (a ++ v)⟩).flatMap listsAt) v
        ((afterPhrase names (t.classes.signs a)).getD (t.classes.signs a)) := by
  have hkeywords : ∀ name ∈ names, IsKeyword name := fun name h => (hnames name h).1
  have hclear : Clear isSpace (a ++ v) := by
    cases a with
    | nil => exact clear_of_endsStatement hv rfl
    | cons c a => exact ha
  have hplaces := ends_optionalTail hr heq hgne hg hclear before
  obtain ⟨others, hspaces, -⟩ := ends_plus_run hgne hg hclear before
  change ends spaces ⟨before, g ++ (a ++ v)⟩ = _ at hspaces
  by_cases hnil : (afterPhrase names (t.classes.signs a)).getD (t.classes.signs a) = []
  · -- nothing stands behind the phrase: every match reads keywords and gaps
    rw [hnil]
    have hsigns : t.classes.signs (g ++ a) = .gap :: t.classes.signs a := signs_gap hgne hg ha
    have hgsemi : ';' ∉ g ++ a := by
      intro hmem
      rcases List.mem_append.mp hmem with h | h
      · exact absurd (hg _ h) (by decide)
      · exact hsemi h
    have honly : KeywordsOnly (t.classes.signs a) := by
      cases h : afterPhrase names (t.classes.signs a) with
      | some rest =>
        rw [h, Option.getD_some] at hnil
        exact keywordsOnly_of_afterPhrase (fun name hname => (hnames name hname).2) (hnil ▸ h)
      | none =>
        rw [h, Option.getD_none] at hnil
        rw [hnil]
        exact fun x hx => absurd hx (by simp)
    have hsays : ∀ m ∈ ends (optionalTail r) ⟨before, g ++ (a ++ v)⟩, ∃ z, m.rest = z ++ v ∧
        ';' ∉ z ∧ groupNamesJournal (t.classes.signs z) = groupNamesJournal [] := by
      intro m hm
      rw [← List.append_assoc] at hm
      obtain ⟨z, hz, hzsemi, hsub⟩ := exists_rest_of_optionalTail (t := t) hread hv hgsemi hm
      refine ⟨z, hz, hzsemi, ?_⟩
      rw [groupNamesJournal_nil]
      refine groupNamesJournal_of_keywordsOnly fun x hx => ?_
      rcases hsub x hx with hgap | hmem
      · exact Or.inl hgap
      · rw [hsigns] at hmem
        rcases List.mem_cons.mp hmem with hgap | hmem
        · exact Or.inl hgap
        · exact honly x hmem
    rcases firstSays_of_all _ hv hsays with ⟨hflat, hall⟩ | hfirst
    · have hmem : (⟨g.reverse ++ before, a ++ v⟩ : Place Char) ∈
          ends (optionalTail r) ⟨before, g ++ (a ++ v)⟩ := by
        rw [hplaces, hspaces]
        exact List.mem_append_right _ List.mem_cons_self
      have hrest : a ++ v = v := hall _ hmem
      exact Or.inl ⟨hflat, List.append_left_eq_self.mp hrest⟩
    · exact Or.inr hfirst
  · refine Or.inr ?_
    cases h : afterPhrase names (t.classes.signs a) with
    | some rest =>
      rw [h, Option.getD_some] at hnil
      obtain ⟨z, m, more, hphrase, hm, hz⟩ := ends_phrase_first hne hkeywords hv h (g.reverse ++ before)
      have hzsemi : ';' ∉ z := by
        intro hmem
        have hin : m ∈ ends (phrase names) ⟨g.reverse ++ before, a ++ v⟩ :=
          hphrase ▸ List.mem_cons_self
        have hgsemi : ';' ∉ g ++ a := by
          intro hmem
          rcases List.mem_append.mp hmem with h | h
          · exact absurd (hg _ h) (by decide)
          · exact hsemi h
        have hm' : m ∈ ends (optionalTail r) ⟨before, (g ++ a) ++ v⟩ := by
          rw [List.append_assoc, hplaces]
          exact List.mem_append_left _ hin
        obtain ⟨z', hz', hzsemi', -⟩ := exists_rest_of_optionalTail (t := t) hread hv hgsemi hm'
        exact hzsemi' (List.append_cancel_right (hz'.symm.trans hm) ▸ hmem)
      rw [hplaces, hphrase, List.cons_append, Option.getD_some]
      exact firstSays_of_head hm hv hzsemi hz hnil _
    | none =>
      rw [h, Option.getD_none] at hnil
      have hphrase : ends (phrase names) ⟨g.reverse ++ before, a ++ v⟩ = [] := by
        rw [List.eq_nil_iff_forall_not_mem]
        exact fun q hq => afterPhrase_ne_none hne hkeywords hv hq h
      rw [hplaces, hphrase, List.nil_append, hspaces, Option.getD_none]
      exact firstSays_of_head rfl hv hsemi rfl hnil _

/-! ## One command -/

/-- `IF EXISTS` -/
def ifExists : Pattern Char := seq (keyword "IF") (seq spaces (keyword "EXISTS"))

/-- The commands of `table_list_pattern`. -/
def listWords : Pattern Char :=
  alt (seq (keyword "TRUNCATE") (opt (seq spaces (keyword "TABLE"))))
    (seq (keyword "DROP") (seq spaces (seq (keyword "TABLE") (opt (seq spaces ifExists)))))

theorem isKeyword_of_listPhrases :
    ∀ names ∈ listPhrases, names ≠ [] ∧ ∀ name ∈ names, IsKeyword name := by
  decide

theorem startsWord_listWords : StartsWord t (.seq listWords spaces) :=
  ((startsWord_keyword (by decide) _).alt (startsWord_keyword (by decide) _)).seq _

/-- Keywords that match at the same place start with the same letter. -/
theorem head_of_spells {name other : String} (hname : IsKeyword name) (hother : IsKeyword other)
    {w v rest left : List Char} (hw : spells name w = true) (hv : spells other v = true)
    (h : w ++ rest = v ++ left) :
    (name.toList.map foldCase).head? = (other.toList.map foldCase).head? := by
  obtain ⟨c, w', rfl⟩ := List.exists_cons_of_ne_nil (spells_ne_nil hname hw)
  obtain ⟨d, v', rfl⟩ := List.exists_cons_of_ne_nil (spells_ne_nil hother hv)
  rw [spells, beq_iff_eq] at hw hv
  rw [← hw, ← hv, (List.cons.inj h).1]
  rfl

theorem ends_keyword_eq_nil {name other : String} (hname : IsKeyword name)
    (hother : IsKeyword other)
    (hne : (name.toList.map foldCase).head? ≠ (other.toList.map foldCase).head?)
    {w : List Char} (hw : spells name w = true) (before rest : List Char) :
    ends (keyword other) ⟨before, w ++ rest⟩ = [] := by
  rw [List.eq_nil_iff_forall_not_mem]
  intro q hq
  obtain ⟨v, hv, hread, -⟩ := mem_ends_keyword.mp hq
  exact hne (head_of_spells hname hother hw hv hread)

theorem ends_listWords (p : Place Char) :
    ends (.seq listWords spaces) p =
      (ends (keyword "TRUNCATE") p).flatMap (ends (optionalTail (keyword "TABLE"))) ++
        (ends (keyword "DROP") p).flatMap fun m =>
          (ends spaces m).flatMap fun n =>
            (ends (keyword "TABLE") n).flatMap (ends (optionalTail ifExists)) := by
  change (_ ++ _ : List (Place Char)).flatMap (ends spaces) = _
  rw [List.flatMap_append]
  congr 1
  · change ((ends (keyword "TRUNCATE") p).flatMap _).flatMap _ = _
    rw [List.flatMap_assoc]
    rfl
  · change ((ends (keyword "DROP") p).flatMap _).flatMap _ = _
    rw [List.flatMap_assoc]
    refine List.flatMap_congr fun m _ => ?_
    change ((ends spaces m).flatMap _).flatMap _ = _
    rw [List.flatMap_assoc]
    refine List.flatMap_congr fun n _ => ?_
    change ((ends (keyword "TABLE") n).flatMap _).flatMap _ = _
    rw [List.flatMap_assoc]
    rfl

theorem ends_listWords_truncate {w : List Char} (hw : spells "TRUNCATE" w = true)
    (before rest : List Char) :
    ends (.seq listWords spaces) ⟨before, w ++ rest⟩ =
      ends (optionalTail (keyword "TABLE")) ⟨w.reverse ++ before, rest⟩ := by
  have hdrop : ends (keyword "DROP") ⟨before, w ++ rest⟩ = [] :=
    ends_keyword_eq_nil (by decide) (by decide) (by decide) hw before rest
  rw [ends_listWords, hdrop, ends_keyword hw, List.flatMap_nil, List.append_nil,
    List.flatMap_singleton]

theorem ends_listWords_drop (t : UnicodeTable) {d g w : List Char} (hd : spells "DROP" d = true)
    (hgne : g ≠ []) (hg : ∀ c ∈ g, isSpace c = true) (hw : spells "TABLE" w = true)
    (before rest : List Char) :
    ends (.seq listWords spaces) ⟨before, d ++ (g ++ (w ++ rest))⟩ =
      ends (optionalTail ifExists) ⟨w.reverse ++ (g.reverse ++ (d.reverse ++ before)), rest⟩ := by
  have htable : IsKeyword "TABLE" := by decide
  have htruncate : ends (keyword "TRUNCATE") ⟨before, d ++ (g ++ (w ++ rest))⟩ = [] :=
    ends_keyword_eq_nil (by decide) (by decide) (by decide) hd before _
  have hclear : Clear t.classes.isSpace (w ++ rest) :=
    clear_space_of_word (spells_ne_nil htable hw) (isWordChar_of_spells htable hw)
  have hgap : ends (.seq spaces (.seq (keyword "TABLE") (optionalTail ifExists)))
      ⟨d.reverse ++ before, g ++ (w ++ rest)⟩ =
      ends (.seq (keyword "TABLE") (optionalTail ifExists))
        ⟨g.reverse ++ (d.reverse ++ before), w ++ rest⟩ :=
    ends_plus_seq (fun q a more hq ha =>
      ends_eq_nil_of_space (startsWord_keyword (t := t) htable _) hq ha) hgne hg hclear _
  rw [ends_listWords, htruncate, ends_keyword hd, List.flatMap_nil, List.nil_append,
    List.flatMap_singleton]
  change ends (.seq spaces (.seq (keyword "TABLE") (optionalTail ifExists))) _ = _
  rw [hgap]
  change (ends (keyword "TABLE") _).flatMap _ = _
  rw [ends_keyword hw, List.flatMap_singleton]

/-- The words of a list command with the gap behind them are a phrase. -/
theorem exists_phrase_of_listWords {p q : Place Char} (h : q ∈ ends (.seq listWords spaces) p) :
    ∃ names ∈ listPhrases, q ∈ ends (phrase names) p := by
  obtain ⟨m, hm, hq⟩ := mem_ends_seq.mp h
  simp only [listWords, ifExists, mem_ends_seq, mem_ends_alt, mem_ends_opt] at hm
  rcases hm with ⟨a, ha, ⟨b, hb, hm⟩ | rfl⟩ |
    ⟨a, ha, b, hb, c, hc, ⟨d, hd, e, he, f, hf, hm⟩ | rfl⟩
  · exact ⟨["TRUNCATE", "TABLE"], by decide, phrase_cons ha hb (phrase_cons hm hq phrase_nil)⟩
  · exact ⟨["TRUNCATE"], by decide, phrase_cons ha hq phrase_nil⟩
  · exact ⟨["DROP", "TABLE", "IF", "EXISTS"], by decide, phrase_cons ha hb (phrase_cons hc hd
      (phrase_cons he hf (phrase_cons hm hq phrase_nil)))⟩
  · exact ⟨["DROP", "TABLE"], by decide, phrase_cons ha hb (phrase_cons hc hq phrase_nil)⟩

theorem ends_listWords_eq_nil {u v : List Char} (hv : EndsStatement v)
    (h : listHead (t.classes.signs u) = none) (before : List Char) :
    ends (.seq listWords spaces) ⟨before, u ++ v⟩ = [] := by
  rw [List.eq_nil_iff_forall_not_mem]
  intro q hq
  obtain ⟨names, hnames, hphrase⟩ := exists_phrase_of_listWords hq
  obtain ⟨hne, hkeywords⟩ := isKeyword_of_listPhrases names hnames
  exact afterPhrase_ne_none hne hkeywords hv hphrase (List.findSome?_eq_none_iff.mp h names hnames)

theorem afterPhrase_cons_iff {name : String} {names : List String} {ts rest : List (Sign Char)} :
    afterPhrase (name :: names) ts = some rest ↔
      ∃ w us, ts = .word w :: .gap :: us ∧ spells name w = true ∧ afterPhrase names us = some rest := by
  constructor
  · intro h
    unfold afterPhrase at h
    split at h
    · rename_i heq
      exact absurd heq (List.cons_ne_nil _ _)
    · rename_i name' names' w us heq
      obtain ⟨rfl, rfl⟩ := List.cons.inj heq
      by_cases hw : spells name w = true
      · rw [if_pos hw] at h
        exact ⟨w, us, rfl, hw, h⟩
      · rw [if_neg hw] at h
        exact absurd h (by simp)
    · exact absurd h (by simp)
  · rintro ⟨w, us, rfl, hw, h⟩
    rw [afterPhrase, if_pos hw]
    exact h

/-- A list command in the signs, with the list behind its optional part. -/
theorem listHead_cases {ts tail : List (Sign Char)} (h : listHead ts = some tail) :
    (∃ w us, ts = .word w :: .gap :: us ∧ spells "TRUNCATE" w = true ∧
      tail = (afterPhrase ["TABLE"] us).getD us) ∨
    ∃ d w us, ts = .word d :: .gap :: .word w :: .gap :: us ∧ spells "DROP" d = true ∧
      spells "TABLE" w = true ∧ tail = (afterPhrase ["IF", "EXISTS"] us).getD us := by
  simp only [listHead, listPhrases, List.findSome?_cons, List.findSome?_nil] at h
  cases hfirst : afterPhrase ["TRUNCATE", "TABLE"] ts with
  | some rest =>
    rw [hfirst] at h
    obtain ⟨w, us, rfl, hw, hus⟩ := afterPhrase_cons_iff.mp hfirst
    exact Or.inl ⟨w, us, rfl, hw, by rw [hus]; exact (Option.some.inj h).symm⟩
  | none =>
    rw [hfirst] at h
    cases hsecond : afterPhrase ["TRUNCATE"] ts with
    | some rest =>
      rw [hsecond] at h
      obtain ⟨w, us, rfl, hw, hus⟩ := afterPhrase_cons_iff.mp hsecond
      rw [afterPhrase, if_pos hw] at hfirst
      rw [afterPhrase] at hus
      refine Or.inl ⟨w, us, rfl, hw, ?_⟩
      rw [hfirst, Option.getD_none, ← Option.some.inj h, ← Option.some.inj hus]
    | none =>
      rw [hsecond] at h
      cases hthird : afterPhrase ["DROP", "TABLE", "IF", "EXISTS"] ts with
      | some rest =>
        rw [hthird] at h
        obtain ⟨d, us, rfl, hd, hus⟩ := afterPhrase_cons_iff.mp hthird
        obtain ⟨w, us, rfl, hw, hus⟩ := afterPhrase_cons_iff.mp hus
        exact Or.inr ⟨d, w, us, rfl, hd, hw, by rw [hus]; exact (Option.some.inj h).symm⟩
      | none =>
        rw [hthird] at h
        cases hfourth : afterPhrase ["DROP", "TABLE"] ts with
        | none =>
          rw [hfourth] at h
          exact absurd h (by simp)
        | some rest =>
          rw [hfourth] at h
          obtain ⟨d, us, rfl, hd, hus⟩ := afterPhrase_cons_iff.mp hfourth
          obtain ⟨w, us, rfl, hw, hus⟩ := afterPhrase_cons_iff.mp hus
          rw [afterPhrase, if_pos hd, afterPhrase, if_pos hw] at hthird
          rw [afterPhrase] at hus
          refine Or.inr ⟨d, w, us, rfl, hd, hw, ?_⟩
          rw [hthird, Option.getD_none, ← Option.some.inj h, ← Option.some.inj hus]

theorem spells_eq_false {name other : String} {w : List Char} (hw : spells name w = true)
    (hne : name.toList.map foldCase ≠ other.toList.map foldCase) : spells other w = false := by
  rw [Bool.eq_false_iff]
  intro h
  rw [spells, beq_iff_eq] at hw h
  exact hne (hw.symm.trans h)

/-- The matches at the start of a word say what the list behind the command says, or there is
none and no list. -/
theorem captures_listHead {u v : List Char} (hv : EndsStatement v) (hsemi : ';' ∉ u)
    {x : Sign Char} {ts tail : List (Sign Char)} (hsigns : t.classes.signs u = x :: ts)
    (h : listHead (x :: ts) = some tail) (before : List Char) :
    ((ends (.seq listWords spaces) ⟨before, u ++ v⟩).flatMap listsAt = [] ∧
        firstList ts = none ∧ tail = []) ∨
      FirstSays t ((ends (.seq listWords spaces) ⟨before, u ++ v⟩).flatMap listsAt) v tail := by
  rcases listHead_cases h with ⟨w, us, heq, hw, rfl⟩ | ⟨d, w, us, heq, hd, hw, rfl⟩
  · obtain ⟨rfl, rfl⟩ := List.cons.inj heq
    obtain ⟨r, rfl, -, -, -, hr⟩ := eq_of_signs_word hsigns
    obtain ⟨g, a, rfl, hgne, hg, hclear, ha⟩ := eq_of_signs_gap hr
    have hsemia : ';' ∉ a := fun hmem => hsemi (by simp [hmem])
    have hcase := firstSays_optionalTail (t := t) (r := keyword "TABLE") ["TABLE"]
      (startsWord_keyword' (by decide)) (readsStatement_keyword (by decide))
      (fun p => by simp [phrase, ends]) (by simp) (by decide) hgne hg hclear hv hsemia
      (w.reverse ++ before)
    rw [List.append_assoc, List.append_assoc, ends_listWords_truncate hw, ← ha]
    rcases hcase with ⟨hflat, rfl⟩ | hfirst
    · exact Or.inl ⟨hflat, rfl, rfl⟩
    · exact Or.inr hfirst
  · obtain ⟨rfl, rfl⟩ := List.cons.inj heq
    obtain ⟨r, rfl, -, -, -, hr⟩ := eq_of_signs_word hsigns
    obtain ⟨g, r, rfl, hgne, hg, -, hr⟩ := eq_of_signs_gap hr
    obtain ⟨r, rfl, -, -, -, hr⟩ := eq_of_signs_word hr
    obtain ⟨g', a, rfl, hgne', hg', hclear, ha⟩ := eq_of_signs_gap hr
    have hsemia : ';' ∉ a := fun hmem => hsemi (by simp [hmem])
    have hcase := firstSays_optionalTail (t := t) (r := ifExists) ["IF", "EXISTS"]
      (startsWord_keyword (by decide) _)
      ((readsStatement_keyword (by decide)).seq
        (readsStatement_spaces.seq (readsStatement_keyword (by decide))))
      (fun p => by simp [phrase, ifExists, ends, List.flatMap_assoc]) (by simp) (by decide)
      hgne' hg' hclear hv hsemia (w.reverse ++ (g.reverse ++ (d.reverse ++ before)))
    simp only [List.append_assoc]
    rw [ends_listWords_drop t hd hgne hg hw, ← ha]
    rcases hcase with ⟨hflat, rfl⟩ | hfirst
    · refine Or.inl ⟨hflat, ?_, rfl⟩
      have htruncate : spells "TRUNCATE" w = false := spells_eq_false hw (by decide)
      have hdrop : spells "DROP" w = false := spells_eq_false hw (by decide)
      simp [firstList, listHead, listPhrases, afterPhrase, htruncate, hdrop]
    · exact Or.inr hfirst

/-! ## One statement -/

theorem captures_of_word {before more : List Char} {c : Char} (h : AtWord t before (c :: more))
    (hc : t.classes.isWord c = true) :
    captures (tableListHead t) tableListTargets ⟨before, c :: more⟩ =
      (ends (.seq listWords spaces) ⟨before, c :: more⟩).flatMap listsAt := by
  have hends : ends (tableListHead t) ⟨before, c :: more⟩ =
      ends (.seq listWords spaces) ⟨before, c :: more⟩ := ends_edge h hc
  rw [captures, hends]
  rfl

theorem atWord_reverse {w before rest : List Char} (hne : w ≠ [])
    (hw : ∀ c ∈ w, t.classes.isWord c = false) : AtWord t (w.reverse ++ before) rest := by
  refine atWord_of_not_word fun c hc => ?_
  obtain ⟨w', a, rfl⟩ := (List.eq_nil_or_concat' w).resolve_left hne
  rw [List.reverse_append, List.reverse_singleton, List.singleton_append, List.cons_append,
    List.head?_cons, Option.mem_some_iff] at hc
  exact hc ▸ hw a (by simp)

/-- The names the gate finds from a place on. -/
def namesFrom (t : UnicodeTable) (fuel : ℕ) (before text : List Char) : Bool :=
  (findGroups (tableListHead t) tableListTargets fuel ⟨before, text⟩).any (listNamesJournal t)

theorem namesFrom_skip {w : List Char} (hw : ∀ c ∈ w, t.classes.isWord c = false) (fuel : ℕ)
    (before rest : List Char) :
    namesFrom t (fuel + w.length) before (w ++ rest) =
      namesFrom t fuel (w.reverse ++ before) rest := by
  have hstart : NoStart (tableListHead t) before w rest := noStart_clear startsWord_listWords hw
  rw [namesFrom, namesFrom, findGroups_skip hstart]

/-- From the start of a statement on, the gate finds its list, and what follows it. -/
theorem namesFrom_statement {v : List Char} (hv : EndsStatement v) (fuel : ℕ) (before : List Char)
    {u : List Char} (hsemi : ';' ∉ u) (hat : AtWord t before (u ++ v))
    (hfuel : (u ++ v).length < fuel) :
    ∃ fuel' before', v.length < fuel' ∧
      namesFrom t fuel before (u ++ v) =
        (statementNamesJournal (t.classes.signs u) || namesFrom t fuel' before' v) := by
  generalize hts : t.classes.signs u = ts
  induction ts generalizing u before fuel with
  | nil =>
    rw [signs_eq_nil_iff.mp hts] at hfuel ⊢
    exact ⟨fuel, before, hfuel, rfl⟩
  | cons x ts ih =>
    cases x with
    | gap =>
      obtain ⟨g, rest, rfl, hne, hg, -, hrest⟩ := eq_of_signs_gap hts
      have hgw : ∀ c ∈ g, t.classes.isWord c = false := fun c hc => isWord_eq_false (hg c hc)
      obtain ⟨k, rfl⟩ : ∃ k, fuel = k + g.length :=
        ⟨fuel - g.length, by simp only [List.length_append] at hfuel; omega⟩
      obtain ⟨fuel', before', hlt, heq⟩ := ih k (g.reverse ++ before) (u := rest)
        (fun hmem => hsemi (List.mem_append_right _ hmem)) (atWord_reverse hne hgw)
        (by simp only [List.length_append] at hfuel ⊢; omega) hrest
      refine ⟨fuel', before', hlt, ?_⟩
      rw [List.append_assoc, namesFrom_skip hgw, heq]
      rfl
    | mark a =>
      obtain ⟨rest, rfl, hw, -, hrest⟩ := eq_of_signs_mark hts
      have haw : ∀ c ∈ [a], t.classes.isWord c = false := by simpa using hw
      obtain ⟨k, rfl⟩ : ∃ k, fuel = k + [a].length :=
        ⟨fuel - 1, by
          simp only [List.length_append, List.length_cons, List.length_nil] at hfuel ⊢
          omega⟩
      obtain ⟨fuel', before', hlt, heq⟩ := ih k ([a].reverse ++ before) (u := rest)
        (fun hmem => hsemi (List.mem_cons_of_mem _ hmem))
        (atWord_reverse (List.cons_ne_nil _ _) haw)
        (by simp only [List.length_append, List.length_cons, List.length_nil] at hfuel ⊢; omega) hrest
      refine ⟨fuel', before', hlt, ?_⟩
      change namesFrom t (k + [a].length) before ([a] ++ (rest ++ v)) = _
      rw [namesFrom_skip haw, heq]
      rfl
    | word w =>
      have hsigns := hts
      obtain ⟨rest, rfl, hne, hw, hclear, hrest⟩ := eq_of_signs_word hts
      obtain ⟨c, w, rfl⟩ := List.exists_cons_of_ne_nil hne
      obtain ⟨hc, hw'⟩ := List.forall_mem_cons.mp hw
      obtain ⟨k, rfl⟩ : ∃ k, fuel = k + w.length + 1 :=
        ⟨fuel - w.length - 1, by
          simp only [List.length_append, List.length_cons] at hfuel
          omega⟩
      have hcaptures : captures (tableListHead t) tableListTargets ⟨before, (c :: w) ++ rest ++ v⟩ =
          (ends (.seq listWords spaces) ⟨before, (c :: w) ++ rest ++ v⟩).flatMap listsAt :=
        captures_of_word hat hc
      have hclear' : Clear t.classes.isWord (rest ++ v) := by
        cases rest with
        | nil => exact clear_of_endsStatement hv rfl
        | cons d rest => exact hclear
      -- without a match here the word is passed, and nothing starts inside it
      have hpass : captures (tableListHead t) tableListTargets ⟨before, (c :: w) ++ rest ++ v⟩ = [] →
          ∃ fuel' before', v.length < fuel' ∧
            namesFrom t (k + w.length + 1) before ((c :: w) ++ rest ++ v) =
              (statementNamesJournal ts || namesFrom t fuel' before' v) := by
        intro hnil
        obtain ⟨fuel', before', hlt, heq⟩ := ih k (w.reverse ++ c :: before) (u := rest)
          (fun hmem => hsemi (List.mem_append_right _ hmem)) (fun _ _ _ => hclear')
          (by simp only [List.length_append, List.length_cons] at hfuel ⊢; omega) hrest
        refine ⟨fuel', before', hlt, ?_⟩
        rw [← heq, namesFrom, namesFrom, List.append_assoc, List.cons_append, findGroups_cons]
        · have hstart : NoStart (tableListHead t) (c :: before) w (rest ++ v) :=
            noStart_word startsWord_listWords hc hw'
          rw [findGroups_skip hstart]
        · rw [List.append_assoc] at hnil
          exact hnil
      cases hhead : listHead (.word (c :: w) :: ts) with
      | none =>
        obtain ⟨fuel', before', hlt, heq⟩ := hpass (by
          have hnil := ends_listWords_eq_nil (t := t) hv (by rw [hsigns]; exact hhead) before
          rw [hnil, List.flatMap_nil] at hcaptures
          exact hcaptures)
        refine ⟨fuel', before', hlt, ?_⟩
        rw [heq, statementNamesJournal, statementNamesJournal, firstList, hhead, Option.none_or]
      | some tail =>
        rcases captures_listHead (t := t) hv hsemi hsigns hhead before with
          ⟨hflat, hnone, rfl⟩ | ⟨m, z, others, hflat, hm, hsays⟩
        · obtain ⟨fuel', before', hlt, heq⟩ := hpass (hcaptures.trans hflat)
          refine ⟨fuel', before', hlt, ?_⟩
          rw [heq, statementNamesJournal, statementNamesJournal, firstList, hhead, hnone,
            Option.some_or, Option.any_none, Option.any_some, groupNamesJournal_nil]
        · refine ⟨k + w.length, z.reverse ++ m.before, ?_, ?_⟩
          · simp only [List.length_append, List.length_cons] at hfuel
            omega
          · have hgroup : m.rest.take (m.rest.length - v.length) = z := by
              rw [hm, List.length_append, Nat.add_sub_cancel, List.take_left]
            have hcap : captures (tableListHead t) tableListTargets
                ⟨before, (c :: w) ++ rest ++ v⟩ = _ := hcaptures.trans hflat
            rw [namesFrom, namesFrom, findGroups, hcap]
            simp only [hgroup, List.any_cons]
            rw [listNamesJournal_eq, hsays, statementNamesJournal, firstList, hhead, Option.some_or,
              Option.any_some]

/-- The second expression of the gate, told from the signs of the text. -/
theorem namesFrom_eq {fuel : ℕ} {before text : List Char} (hat : AtWord t before text)
    (hfuel : text.length < fuel) :
    namesFrom t fuel before text = listsNameJournal (t.classes.signs text) := by
  induction hn : text.length using Nat.strong_induction_on generalizing fuel before text with
  | _ n ih =>
    by_cases h : ';' ∈ text
    · obtain ⟨u, v, rfl, hu⟩ := List.eq_append_cons_of_mem h
      have hv : EndsStatement (';' :: v) := fun c hc => (Option.some.inj hc).symm
      obtain ⟨fuel', before', hlt, heq⟩ := namesFrom_statement hv fuel before hu hat hfuel
      obtain ⟨k, rfl⟩ : ∃ k, fuel' = k + [';'].length := ⟨fuel' - 1, by simp at hlt ⊢; omega⟩
      have hsemi : ∀ c ∈ [';'], t.classes.isWord c = false := by
        intro c hc
        rw [List.mem_singleton.mp hc]
        rfl
      have hskip := namesFrom_skip hsemi k before' v
      rw [List.singleton_append] at hskip
      have hshorter : v.length < n := by
        rw [← hn, List.length_append, List.length_cons]
        omega
      have hk : v.length < k := by
        simp only [List.length_cons, List.length_nil] at hlt
        omega
      have hat' : AtWord t (';' :: before') v := atWord_of_not_word fun c hc => by
        rw [← Option.some.inj hc]
        rfl
      have hrec := ih v.length hshorter hat' hk rfl
      rw [heq, hskip, signs_append_of_cut (cut_mark rfl rfl u v), signs_mark rfl rfl,
        listsNameJournal, List.splitOn_append_cons_self, List.any_append,
        List.splitOn_eq_singleton fun hmem => hu (mem_of_mark_mem_signs hmem), List.any_cons,
        List.any_nil, Bool.or_false]
      exact congrArg _ hrec
    · obtain ⟨fuel', before', hlt, heq⟩ := namesFrom_statement (v := []) (by simp [EndsStatement])
        fuel before h (by rwa [List.append_nil]) (by rwa [List.append_nil])
      rw [List.append_nil] at heq
      obtain ⟨k, rfl⟩ : ∃ k, fuel' = k + 1 := ⟨fuel' - 1, by simp at hlt; omega⟩
      have hend : namesFrom t (k + 1) before' [] = false := by
        have hnil : captures (tableListHead t) tableListTargets ⟨before', []⟩ = [] :=
          captures_eq_nil (ends_edge_eq_nil startsWord_listWords (Or.inr (clear_nil _)))
        rw [namesFrom, findGroups, hnil]
        rfl
      rw [heq, hend, Bool.or_false, listsNameJournal,
        List.splitOn_eq_singleton fun hmem => h (mem_of_mark_mem_signs hmem), List.any_cons,
        List.any_nil, Bool.or_false]

/-- The signs the gate reports. -/
def Reported (ts : List (Sign Char)) : Prop :=
  (∃ earlier later, ts = earlier ++ later ∧ Mutates later) ∨ listsNameJournal ts = true

/-- The verdict of both expressions, told from the signs of the text. -/
theorem mutatesJournal_iff {text : List Char} :
    mutatesJournal t text = true ↔ Reported (t.classes.signs text) := by
  have hlists : namesFrom t (text.length + 1) [] text = _ :=
    namesFrom_eq (atWord_of_not_word (by simp)) (Nat.lt_succ_self _)
  rw [namesFrom] at hlists
  rw [mutatesJournal, Bool.or_eq_true, search_appendOnlyJournalMutation_iff, hlists, Reported]

end AccountingPlatform.Scripts
