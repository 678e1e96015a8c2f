/-
  What `_lex_executable_sql` leaves of a text.

  The lexer knows neither quoted identifiers nor the dollar signs of identifiers. Where the
  pieces of a text are legible it cuts the text where PostgreSQL does, and its output is read
  as the tokens with a blank for every comment and every text it does not open. It comes to an
  end on every text.
-/
import AccountingPlatform.Scripts.SqlForms

namespace AccountingPlatform.Scripts

open AccountingPlatform.Lib AccountingPlatform.Core
open Pattern
open Classes hiding isSpace isWord

variable {t : UnicodeTable}

/-! ## What the gate sees of a token -/

def Token.shown : Token → List Char
  | .gap => [' ']
  | .word text => text
  | .quoted raw => '"' :: (raw ++ ['"'])
  | .literal none => [' ']
  | .literal (some e) => [e, ' ']
  | .punct c => [c]

def shown (ts : List Token) : List Char := ts.flatMap Token.shown

@[simp] theorem shown_append (ts us : List Token) : shown (ts ++ us) = shown ts ++ shown us :=
  List.flatMap_append

/-- The gate opens the dollar quotes that follow what it takes for `AS` or `DO`. -/
def gateOpens (t : UnicodeTable) : Opening :=
  fun _ sofar quote => quote == .dollar && dollarBodyIsExecutable t (shown sofar)

/-- The lexer leaves the plain text here. -/
def opensQuote (c : Char) (rest : List Char) : Bool :=
  (c == '-' && rest.head? == some '-') || (c == '/' && rest.head? == some '*') || c == '\'' ||
    (c == '$' && (dollarTag rest).any fun r => r.1.all fun d => decide (d.toNat < 128))

/-- Nothing inside the text makes the lexer leave the plain text. -/
def isPlain : List Char → Bool
  | [] => true
  | c :: rest => !opensQuote c rest && isPlain rest

/-- The lexer cuts the piece off as PostgreSQL does. It takes the last letter of an
identifier for the mark of a literal when no letter stands before it. -/
def Piece.legible (t : UnicodeTable) : Piece → Bool
  | .word text => isPlain text && (text.tail.isEmpty || !escapeBackslash t text.reverse)
  | .quoted raw => isPlain raw
  | .dollar tag _ => tag.all fun d => decide (d.toNat < 128)
  | _ => true

def legiblePieces (t : UnicodeTable) (text : List Char) : Option (List Piece) :=
  (pieces text).filter fun ps => ps.all (Piece.legible t)

/-- The tokens the gate sees; none unless every text it opens is cut into legible pieces. -/
def seenTokens (t : UnicodeTable) (text : List Char) : Option (List Token) :=
  openedTokens (legiblePieces t) id (gateOpens t) (text.length + 1) text

/-! ## Dollar quotes -/

theorem dollarTag_spec {rest tag more : List Char} (h : dollarTag rest = some (tag, more)) :
    rest = tag ++ '$' :: more ∧ (∀ c ∈ tag, isTagChar c = true) ∧
      tag.head?.any Char.isDigit = false := by
  unfold dollarTag at h
  split at h
  · rename_i left hleft
    dsimp only at h
    split at h
    · exact absurd h (by simp)
    · rename_i hdigit
      rw [Option.some.injEq, Prod.mk.injEq] at h
      obtain ⟨rfl, rfl⟩ := h
      refine ⟨?_, fun c hc => List.all_eq_true.mp List.all_takeWhile c hc, by simpa using hdigit⟩
      rw [← hleft, List.takeWhile_append_dropWhile]
  · exact absurd h (by simp)

theorem dollarTag_eq {tag more : List Char} (htag : ∀ c ∈ tag, isTagChar c = true)
    (hdigit : tag.head?.any Char.isDigit = false) :
    dollarTag (tag ++ '$' :: more) = some (tag, more) := by
  have hdollar : isTagChar '$' = false := by decide
  have hdrop : (tag ++ '$' :: more).dropWhile isTagChar = '$' :: more := by
    rw [List.dropWhile_append_of_pos htag, List.dropWhile_cons_of_neg (by simp [hdollar])]
  have htake : (tag ++ '$' :: more).takeWhile isTagChar = tag := by
    rw [List.takeWhile_append_of_pos htag, List.takeWhile_cons_of_neg (by simp [hdollar]),
      List.append_nil]
  unfold dollarTag
  rw [hdrop, htake]
  simp [hdigit]

theorem isTagChar_iff_ascii {c : Char} (h : c.toNat < 128) : isTagChar c = isAsciiChar c := by
  have hlarge : decide (128 ≤ c.toNat) = false := decide_eq_false (by omega)
  simp only [isTagChar, isIdentStart, isAsciiChar, Char.isAlphanum, hlarge, Bool.or_false]
  cases c.isAlpha <;> cases c.isDigit <;> simp

theorem lt_of_isAsciiChar {c : Char} (h : isAsciiChar c = true) : c.toNat < 128 := by
  simp only [isAsciiChar, Char.isAlphanum, Bool.or_eq_true, beq_iff_eq] at h
  rcases h with (h | h) | rfl
  · have := toNat_of_isAlpha h
    omega
  · have := toNat_of_isDigit h
    omega
  · decide

theorem mem_ends_dollarQuote {before rest : List Char} {q : Place Char} :
    q ∈ ends dollarQuote ⟨before, '$' :: rest⟩ ↔
      ∃ tag more, dollarTag rest = some (tag, more) ∧ (∀ c ∈ tag, c.toNat < 128) ∧
        q = ⟨(delimiterOf tag).reverse ++ before, more⟩ := by
  have htag : ∀ p m : Place Char,
      m ∈ ends (opt (.seq (one isAsciiStart) (star (one isAsciiChar)))) p ↔
        ∃ tag, (∀ c ∈ tag, isAsciiChar c = true) ∧ tag.head?.any Char.isDigit = false ∧
          p.Reads tag m := by
    intro p m
    rw [mem_ends_opt, mem_ends_seq]
    constructor
    · rintro (⟨n, hn, hm⟩ | rfl)
      · obtain ⟨a, ha, hpn⟩ := mem_ends_one.mp hn
        obtain ⟨w, hw, hnm⟩ := mem_ends_star_one.mp hm
        refine ⟨a :: w, ?_, ?_, hpn.trans hnm⟩
        · refine List.forall_mem_cons.mpr ⟨?_, hw⟩
          simp only [isAsciiStart, isAsciiChar, Char.isAlphanum, Bool.or_eq_true] at ha ⊢
          tauto
        · rw [List.head?_cons, Option.any_some]
          by_contra hdigit
          have hrange := toNat_of_isDigit ((Bool.not_eq_false _).mp hdigit)
          simp only [isAsciiStart, Bool.or_eq_true, beq_iff_eq] at ha
          rcases ha with halpha | rfl
          · have := toNat_of_isAlpha halpha
            omega
          · exact absurd hrange (by decide)
      · exact ⟨[], by simp, rfl, Place.reads_nil_iff.mpr rfl⟩
    · rintro ⟨tag, hall, hdigit, hread⟩
      cases tag with
      | nil => exact Or.inr (Place.reads_nil_iff.mp hread)
      | cons a w =>
        obtain ⟨ha, hw⟩ := List.forall_mem_cons.mp hall
        obtain ⟨n, hpn, hnm⟩ := Place.reads_cons_iff.mp hread
        refine Or.inl ⟨n, mem_ends_one.mpr ⟨a, ?_, hpn⟩, mem_ends_star_one.mpr ⟨w, hw, hnm⟩⟩
        rw [List.head?_cons, Option.any_some] at hdigit
        simp only [isAsciiChar, Char.isAlphanum, hdigit, Bool.or_false] at ha
        exact ha
  have hone : ∀ p m : Place Char, m ∈ ends (one (· == '$')) p ↔ p.Reads ['$'] m := by
    intro p m
    simp only [mem_ends_one, beq_iff_eq]
    refine ⟨?_, fun h => ⟨'$', rfl, h⟩⟩
    rintro ⟨a, ha, h⟩
    exact ha ▸ h
  simp only [dollarQuote, mem_ends_seq, htag, hone]
  constructor
  · rintro ⟨a, ha, b, ⟨tag, hall, hdigit, hb⟩, hq⟩
    have hread := ha.trans (hb.trans hq)
    have hrest : rest = tag ++ '$' :: q.rest := by simpa using hread.1
    have hascii : ∀ c ∈ tag, c.toNat < 128 := fun c hc => lt_of_isAsciiChar (hall c hc)
    refine ⟨tag, q.rest, ?_, hascii, ?_⟩
    · rw [hrest]
      exact dollarTag_eq (fun c hc => by rw [isTagChar_iff_ascii (hascii c hc)]; exact hall c hc) hdigit
    · have hbefore : q.before = (delimiterOf tag).reverse ++ before := hread.2
      rw [← hbefore]
  · rintro ⟨tag, more, hsome, hascii, rfl⟩
    obtain ⟨hrest, hall, hdigit⟩ := dollarTag_spec hsome
    refine ⟨⟨'$' :: before, rest⟩, ⟨rfl, rfl⟩, ⟨tag.reverse ++ '$' :: before, '$' :: more⟩,
      ⟨tag, fun c hc => ?_, hdigit, hrest, rfl⟩, rfl, ?_⟩
    · rw [← isTagChar_iff_ascii (hascii c hc)]
      exact hall c hc
    · simp [delimiterOf]

/-- The expression for a dollar quote stops at one place. -/
theorem head?_ends_dollarQuote {before rest tag more : List Char}
    (h : dollarTag rest = some (tag, more)) (hascii : ∀ c ∈ tag, c.toNat < 128) :
    (ends dollarQuote ⟨before, '$' :: rest⟩).head? =
      some ⟨(delimiterOf tag).reverse ++ before, more⟩ := by
  have hmem : (⟨(delimiterOf tag).reverse ++ before, more⟩ : Place Char) ∈
      ends dollarQuote ⟨before, '$' :: rest⟩ :=
    mem_ends_dollarQuote.mpr ⟨tag, more, h, hascii, rfl⟩
  cases hends : ends dollarQuote ⟨before, '$' :: rest⟩ with
  | nil =>
    rw [hends] at hmem
    exact absurd hmem List.not_mem_nil
  | cons q others =>
    obtain ⟨tag', more', h', -, rfl⟩ := mem_ends_dollarQuote.mp (hends ▸ List.mem_cons_self)
    rw [h, Option.some.injEq, Prod.mk.injEq] at h'
    rw [h'.1, h'.2, List.head?_cons]

theorem ends_dollarQuote_eq_nil {before rest : List Char} (h : opensQuote '$' rest = false) :
    ends dollarQuote ⟨before, '$' :: rest⟩ = [] := by
  rw [List.eq_nil_iff_forall_not_mem]
  intro q hq
  obtain ⟨tag, more, hsome, hascii, -⟩ := mem_ends_dollarQuote.mp hq
  rw [opensQuote, hsome] at h
  simp only [Option.any_some, Bool.or_eq_false_iff, Bool.and_eq_false_iff] at h
  rcases h.2 with hdollar | hall
  · exact absurd hdollar (by decide)
  · exact absurd (List.all_eq_true.mpr fun c hc => decide_eq_true (hascii c hc)) (by simp [hall])

/-! ## The loops of the lexer -/

/-- A character that opens nothing is kept. -/
theorem lexLoop_plain_one {c : Char} {rest : List Char} (h : opensQuote c rest = false)
    (fuel : ℕ) (output before : List Char) :
    lexLoop t (fuel + 1) output ⟨before, c :: rest⟩ =
      lexLoop t fuel (output ++ [c]) ⟨c :: before, rest⟩ := by
  have hparts := h
  simp only [opensQuote, Bool.or_eq_false_iff, Bool.and_eq_false_iff, beq_eq_false_iff_ne] at hparts
  obtain ⟨⟨⟨hline, hblock⟩, hquote⟩, -⟩ := hparts
  rw [lexLoop, if_neg (by tauto), if_neg (by tauto)]
  by_cases hdollar : c = '$'
  · subst hdollar
    rw [if_pos rfl, ends_dollarQuote_eq_nil h]
    rfl
  · rw [if_neg hdollar]
    dsimp only
    rw [if_neg hquote]

theorem lexLoop_plain {w rest : List Char}
    (h : ∀ u c v, w = u ++ c :: v → opensQuote c (v ++ rest) = false) (fuel : ℕ)
    (output before : List Char) :
    lexLoop t (fuel + w.length) output ⟨before, w ++ rest⟩ =
      lexLoop t fuel (output ++ w) ⟨w.reverse ++ before, rest⟩ := by
  induction w generalizing output before with
  | nil => simp
  | cons c w ih =>
    have hrest : ∀ u d v, w = u ++ d :: v → opensQuote d (v ++ rest) = false :=
      fun u d v hw => h (c :: u) d v (by rw [hw]; rfl)
    rw [List.length_cons, ← Nat.add_assoc, List.cons_append,
      lexLoop_plain_one (h [] c w rfl), ih hrest]
    simp

/-- Line breaks kept from what is blanked. -/
def IsBreaks (text : List Char) : Prop := ∀ c ∈ text, isNewline c = true

theorem IsBreaks.append {s r : List Char} (hs : IsBreaks s) (hr : IsBreaks r) : IsBreaks (s ++ r) :=
  fun c hc => (List.mem_append.mp hc).elim (hs c) (hr c)

theorem isBreaks_ite (c : Char) : IsBreaks (if isNewline c then [c] else []) := by
  intro d hd
  split at hd
  · rename_i h
    exact List.mem_singleton.mp hd ▸ h
  · exact absurd hd List.not_mem_nil

theorem ite_append (c : Char) (output : List Char) :
    (if isNewline c then output ++ [c] else output) =
      output ++ (if isNewline c then [c] else []) := by
  split
  · rfl
  · exact (List.append_nil _).symm

theorem isSpace_of_isNewline {c : Char} (h : isNewline c = true) : isSpace c = true := by
  simp only [isNewline, Bool.or_eq_true, beq_iff_eq] at h
  rcases h with rfl | rfl
  · decide
  · decide

/-- A blank with line breaks behind it is read as a gap. -/
theorem signs_blank {text : List Char} (h : IsBreaks text) : t.classes.signs (' ' :: text) = [.gap] := by
  have hall : ∀ c ∈ ' ' :: text, t.classes.isSpace c = true :=
    List.forall_mem_cons.mpr ⟨rfl, fun c hc => isSpace_of_isNewline (h c hc)⟩
  simpa using signs_gap (s := []) (List.cons_ne_nil _ _) hall (clear_nil _)

theorem signs_space : t.classes.signs [' '] = [.gap] := signs_blank (by simp [IsBreaks])

theorem lineComment_eq (before rest : List Char) :
    ∃ before', lineComment before rest = ⟨before', rest.dropWhile fun c => !isNewline c⟩ := by
  induction rest generalizing before with
  | nil => exact ⟨before, rfl⟩
  | cons c rest ih =>
    by_cases h : isNewline c = true
    · exact ⟨before, by simp [lineComment, h]⟩
    · obtain ⟨before', heq⟩ := ih (c :: before)
      exact ⟨before', by simp [lineComment, h, heq]⟩

theorem blockComment_eq {depth : ℕ} {rest left : List Char} (h : skipComment depth rest = some left)
    (output before : List Char) :
    ∃ breaks before', blockComment (depth + 1) output before rest =
      (output ++ breaks, ⟨'/' :: before', left⟩) ∧ IsBreaks breaks := by
  fun_induction skipComment depth rest generalizing output before with
  | case1 => exact absurd h (by simp)
  | case2 => exact absurd h (by simp)
  | case3 depth c d rest hopen ih =>
    obtain ⟨breaks, before', heq, hbreaks⟩ := ih h output (d :: c :: before)
    exact ⟨breaks, before', by rw [blockComment, if_pos hopen, heq], hbreaks⟩
  | case4 c d rest hopen hclose =>
    rw [Option.some.injEq] at h
    refine ⟨[], c :: before, ?_, by simp [IsBreaks]⟩
    rw [blockComment, if_neg hopen, if_pos hclose, blockComment, h, hclose.2, List.append_nil]
  | case5 c d rest hopen hclose depth ih =>
    obtain ⟨breaks, before', heq, hbreaks⟩ := ih h output (d :: c :: before)
    exact ⟨breaks, before', by rw [blockComment, if_neg hopen, if_pos hclose, heq], hbreaks⟩
  | case6 depth c d rest hopen hclose ih =>
    obtain ⟨breaks, before', heq, hbreaks⟩ :=
      ih h (if isNewline c then output ++ [c] else output) (c :: before)
    refine ⟨(if isNewline c then [c] else []) ++ breaks, before', ?_, (isBreaks_ite c).append hbreaks⟩
    rw [blockComment, if_neg hopen, if_neg hclose, heq, ite_append, List.append_assoc]

theorem literalLoop_eq {escape : Bool} {rest raw left : List Char}
    (h : readQuoted '\'' escape rest = some (raw, left)) (output before : List Char) :
    ∃ breaks before', literalLoop escape output before rest =
      (output ++ breaks, ⟨'\'' :: before', left⟩) ∧ IsBreaks breaks := by
  fun_induction literalLoop escape output before rest generalizing raw left with
  | case1 => exact absurd h (by simp [readQuoted])
  | case2 output before =>
    rw [readQuoted, if_pos (beq_self_eq_true _), Option.some.injEq, Prod.mk.injEq] at h
    exact ⟨[], before, by rw [← h.2, List.append_nil], by simp [IsBreaks]⟩
  | case3 output before c hc =>
    rw [readQuoted, if_neg (by simpa using hc)] at h
    exact absurd h (by simp)
  | case4 output before c d rest hskip ih =>
    rw [readQuoted, if_pos hskip, Option.map_eq_some_iff] at h
    obtain ⟨⟨raw', left'⟩, h, heq⟩ := h
    rw [Prod.mk.injEq] at heq
    obtain ⟨rfl, rfl⟩ := heq
    exact ih h
  | case5 output before d rest hskip =>
    rw [readQuoted, if_neg hskip, if_pos (beq_self_eq_true _), Option.some.injEq, Prod.mk.injEq] at h
    exact ⟨[], before, by rw [h.2, List.append_nil], by simp [IsBreaks]⟩
  | case6 output before c d rest hskip hc ih =>
    rw [readQuoted, if_neg hskip, if_neg (by simpa using hc), Option.map_eq_some_iff] at h
    obtain ⟨⟨raw', left'⟩, h, heq⟩ := h
    rw [Prod.mk.injEq] at heq
    obtain ⟨rfl, rfl⟩ := heq
    obtain ⟨breaks, before', heq, hbreaks⟩ := ih h
    refine ⟨(if isNewline c then [c] else []) ++ breaks, before', ?_, (isBreaks_ite c).append hbreaks⟩
    rw [heq, ite_append, List.append_assoc]

/-! ## Pieces of a text -/

theorem readQuoted_spec {quote : Char} {escape : Bool} {rest raw left : List Char}
    (h : readQuoted quote escape rest = some (raw, left)) : rest = raw ++ quote :: left := by
  fun_induction readQuoted quote escape rest generalizing raw left with
  | case1 => exact absurd h (by simp)
  | case2 c hc =>
    rw [Option.some.injEq, Prod.mk.injEq] at h
    rw [← h.1, ← h.2, beq_iff_eq.mp hc]
    rfl
  | case3 => exact absurd h (by simp)
  | case4 c d rest hskip ih =>
    obtain ⟨r, hr, heq⟩ := Option.map_eq_some_iff.mp h
    rw [Prod.mk.injEq] at heq
    rw [ih hr, ← heq.1, ← heq.2]
    rfl
  | case5 c d rest hskip hc =>
    rw [Option.some.injEq, Prod.mk.injEq] at h
    rw [← h.1, ← h.2, beq_iff_eq.mp hc]
    rfl
  | case6 c d rest hskip hc ih =>
    obtain ⟨r, hr, heq⟩ := Option.map_eq_some_iff.mp h
    rw [Prod.mk.injEq] at heq
    rw [ih hr, ← heq.1, ← heq.2]
    rfl

theorem skipComment_length {depth : ℕ} {rest left : List Char}
    (h : skipComment depth rest = some left) : left.length ≤ rest.length := by
  fun_induction skipComment depth rest with
  | case1 => exact absurd h (by simp)
  | case2 => exact absurd h (by simp)
  | case3 depth c d rest hopen ih =>
    have := ih h
    simp only [List.length_cons]
    omega
  | case4 c d rest hopen hclose =>
    rw [Option.some.injEq] at h
    rw [← h]
    simp only [List.length_cons]
    omega
  | case5 c d rest hopen hclose depth ih =>
    have := ih h
    simp only [List.length_cons]
    omega
  | case6 depth c d rest hopen hclose ih =>
    have := ih h
    simp only [List.length_cons] at this ⊢
    omega

theorem breakAt_spec {delimiter text body left : List Char}
    (h : breakAt delimiter text = some (body, left)) : text = body ++ (delimiter ++ left) := by
  induction text generalizing body left with
  | nil =>
    rw [breakAt] at h
    split at h
    · rename_i hempty
      rw [Option.some.injEq, Prod.mk.injEq] at h
      rw [← h.1, ← h.2, List.isEmpty_iff.mp hempty]
      rfl
    · exact absurd h (by simp)
  | cons c rest ih =>
    rw [breakAt] at h
    split at h
    · rename_i hinitial
      rw [Option.some.injEq, Prod.mk.injEq] at h
      obtain ⟨more, hmore⟩ := List.isPrefixOf_iff_prefix.mp hinitial
      rw [← h.1, ← h.2, ← hmore, List.drop_left, List.nil_append]
    · obtain ⟨r, hr, heq⟩ := Option.map_eq_some_iff.mp h
      rw [Prod.mk.injEq] at heq
      rw [ih hr, ← heq.1, ← heq.2]
      rfl

/-- The characters before a place leave it open to a word or a literal. -/
structure Ready (t : UnicodeTable) (before rest : List Char) : Prop where
  word : ∀ c ∈ rest.head?, isTagChar c = true → before.head?.any t.isWordChar = false
  quote : rest.head? = some '\'' → escapeBackslash t before = false

theorem ready_of_fresh {before : List Char} (h : before.head?.any t.isWordChar = false)
    (rest : List Char) : Ready t before rest := by
  refine ⟨fun _ _ _ => h, fun _ => ?_⟩
  cases before with
  | nil => rfl
  | cons e more =>
    rw [List.head?_cons, Option.any_some] at h
    have hupper : e ≠ 'E' := by
      rintro rfl
      exact absurd h (by rw [show t.isWordChar 'E' = true from rfl]; simp)
    have hlower : e ≠ 'e' := by
      rintro rfl
      exact absurd h (by rw [show t.isWordChar 'e' = true from rfl]; simp)
    simp [escapeBackslash, hupper, hlower]

theorem opensQuote_eq_false {c : Char} (hminus : c ≠ '-') (hslash : c ≠ '/') (hquote : c ≠ '\'')
    (hdollar : c ≠ '$') (rest : List Char) : opensQuote c rest = false := by
  simp [opensQuote, hminus, hslash, hquote, hdollar]

theorem isSpace_of_isSqlSpace {c : Char} (h : isSqlSpace c = true) : isSpace c = true := by
  simp only [isSqlSpace, Bool.or_eq_true, Bool.and_eq_true, beq_iff_eq, decide_eq_true_eq] at h
  rcases h with rfl | h
  · decide
  · simp [isSpace, h]

theorem opensQuote_of_space {c : Char} (h : isSpace c = true) (rest : List Char) :
    opensQuote c rest = false := by
  have hne : ∀ d, isSpace d = false → c ≠ d := by
    rintro d hd rfl
    exact absurd h (by simp [hd])
  exact opensQuote_eq_false (hne _ (by decide)) (hne _ (by decide)) (hne _ (by decide))
    (hne _ (by decide)) rest

theorem isNewline_of_tag {c : Char} (h : isTagChar c = true) : isNewline c = false := by
  by_contra hbreak
  simp only [isNewline, Bool.not_eq_false, Bool.or_eq_true, beq_iff_eq] at hbreak
  rcases hbreak with rfl | rfl
  · exact absurd h (by decide)
  · exact absurd h (by decide)

/-- A character outside of blanks and identifiers is no letter of a word. -/
theorem isWordChar_of_not_tag {c : Char} (h : isTagChar c = false) : t.isWordChar c = false := by
  simp only [isTagChar, isIdentStart, Bool.or_eq_false_iff, decide_eq_false_iff_not] at h
  obtain ⟨⟨⟨halpha, hunder⟩, hsmall⟩, hdigit⟩ := h
  rw [UnicodeTable.isWordChar, if_pos (by omega), Char.isAlphanum, halpha, hdigit, hunder]
  rfl

theorem isPlain_split {raw : List Char} (h : isPlain raw = true) :
    ∀ u c v, raw = u ++ c :: v → opensQuote c v = false := by
  induction raw with
  | nil =>
    intro u c v heq
    exact absurd heq.symm (by simp)
  | cons a raw ih =>
    intro u c v heq
    simp only [isPlain, Bool.and_eq_true, Bool.not_eq_true'] at h
    cases u with
    | nil =>
      obtain ⟨rfl, rfl⟩ := List.cons.inj heq
      exact h.1
    | cons b u =>
      obtain ⟨-, hraw⟩ := List.cons.inj heq
      exact ih h.2 u c v hraw

theorem dollarTag_append {v rest tag more : List Char}
    (hrest : ∀ d ∈ rest.head?, isIdentChar d = false) (h : dollarTag (v ++ rest) = some (tag, more)) :
    ∃ more', dollarTag v = some (tag, more') := by
  obtain ⟨heq, hall, hdigit⟩ := dollarTag_spec h
  have hhead : ∀ d r, isIdentChar d = true → rest ≠ d :: r := by
    rintro d r hd rfl
    exact absurd hd (by rw [hrest d rfl]; simp)
  rcases List.append_eq_append_iff.mp heq with ⟨r, htag, hr⟩ | ⟨r, hv, hr⟩
  · cases r with
    | nil => exact absurd hr (hhead '$' more (by decide))
    | cons a r => exact absurd hr (hhead a _ (by simp [isIdentChar, hall a (by rw [htag]; simp)]))
  · cases r with
    | nil => exact absurd hr.symm (hhead '$' more (by decide))
    | cons a r =>
      obtain rfl : '$' = a := (List.cons.inj hr).1
      exact ⟨r, by rw [hv]; exact dollarTag_eq hall hdigit⟩

/-- What stands behind the text lets nothing more open in it. -/
theorem opensQuote_append {c : Char} {v rest : List Char} (h : opensQuote c v = false)
    (hrest : ∀ d ∈ rest.head?, isIdentChar d = false)
    (hhead : ∀ d : Char, (c = '-' ∧ d = '-') ∨ (c = '/' ∧ d = '*') → rest.head? ≠ some d) :
    opensQuote c (v ++ rest) = false := by
  have hdouble : ∀ d : Char, (c = '-' ∧ d = '-') ∨ (c = '/' ∧ d = '*') →
      ((v ++ rest).head? == some d) = (v.head? == some d) := by
    intro d hd
    cases v with
    | nil => simpa using hhead d hd
    | cons a v => rfl
  rw [opensQuote] at h ⊢
  simp only [Bool.or_eq_false_iff, Bool.and_eq_false_iff] at h ⊢
  obtain ⟨⟨⟨hline, hblock⟩, hquote⟩, hdollar⟩ := h
  refine ⟨⟨⟨?_, ?_⟩, hquote⟩, hdollar.imp id fun hany => ?_⟩
  · by_cases hc : c = '-'
    · rw [hdouble '-' (Or.inl ⟨hc, rfl⟩)]
      exact hline
    · exact Or.inl (beq_eq_false_iff_ne.mpr hc)
  · by_cases hc : c = '/'
    · rw [hdouble '*' (Or.inr ⟨hc, rfl⟩)]
      exact hblock
    · exact Or.inl (beq_eq_false_iff_ne.mpr hc)
  · cases hsome : dollarTag (v ++ rest) with
    | none => rfl
    | some r =>
      obtain ⟨more', hv⟩ := dollarTag_append hrest hsome
      rw [hv, Option.any_some] at hany
      rw [Option.any_some]
      exact hany

/-- A letter of an identifier opens nothing but a dollar quote. -/
theorem opensQuote_of_tag {c : Char} (h : isTagChar c = true) (rest : List Char) :
    opensQuote c rest = false := by
  have hne : ∀ d, isTagChar d = false → c ≠ d := by
    rintro d hd rfl
    exact absurd h (by simp [hd])
  exact opensQuote_eq_false (hne _ (by decide)) (hne _ (by decide)) (hne _ (by decide))
    (hne _ (by decide)) rest


/-! ## One piece -/

/-- What the lexer makes of a piece: it goes on behind the piece, and what it leaves is read
as the tokens of the piece. -/
def Masks (t : UnicodeTable) (fuel : ℕ) (output before text left : List Char)
    (ts : List Token) : Prop :=
  ∃ fuel' before' masked,
    lexLoop t fuel output ⟨before, text⟩ = lexLoop t fuel' (output ++ masked) ⟨before', left⟩ ∧
    left.length ≤ fuel' ∧ t.classes.signs masked = t.classes.signs (shown ts) ∧
    Ready t before' left

theorem length_dropWhile_le {α : Type} (p : α → Bool) (text : List α) :
    (text.dropWhile p).length ≤ text.length :=
  (List.dropWhile_suffix p).length_le

/-- Plain text in front is kept. -/
theorem masks_plain {w left output before : List Char} {fuel : ℕ} {ts : List Token}
    (hplain : ∀ u c v, w = u ++ c :: v → opensQuote c (v ++ left) = false)
    (hfuel : (w ++ left).length ≤ fuel)
    (hsigns : t.classes.signs w = t.classes.signs (shown ts))
    (hready : Ready t (w.reverse ++ before) left) :
    Masks t fuel output before (w ++ left) left ts := by
  have hle : w.length ≤ fuel := by
    rw [List.length_append] at hfuel
    omega
  refine ⟨fuel - w.length, w.reverse ++ before, w, ?_, ?_, hsigns, hready⟩
  · rw [← lexLoop_plain hplain (fuel - w.length) output before, Nat.sub_add_cancel hle]
  · rw [List.length_append] at hfuel
    omega

theorem masks_blank {c : Char} {rest output before : List Char} {fuel : ℕ}
    (hc : isSqlSpace c = true) (hfuel : (c :: rest).length ≤ fuel) :
    Masks t fuel output before (c :: rest) (rest.dropWhile isSqlSpace) [.gap] := by
  obtain ⟨w, hw⟩ : ∃ w, w = rest.takeWhile isSqlSpace := ⟨_, rfl⟩
  have htext : c :: rest = (c :: w) ++ rest.dropWhile isSqlSpace := by
    rw [hw, List.cons_append, List.takeWhile_append_dropWhile]
  have hall : ∀ d ∈ c :: w, isSpace d = true := by
    refine List.forall_mem_cons.mpr ⟨isSpace_of_isSqlSpace hc, fun d hd => ?_⟩
    rw [hw] at hd
    exact isSpace_of_isSqlSpace (List.all_eq_true.mp List.all_takeWhile d hd)
  rw [htext] at hfuel ⊢
  refine masks_plain (fun u d v heq => opensQuote_of_space (hall d (by rw [heq]; simp)) _) hfuel ?_
    (ready_of_fresh ?_ _)
  · have hgap : t.classes.signs ((c :: w) ++ []) = [.gap] :=
      signs_gap (List.cons_ne_nil _ _) hall (clear_nil _)
    rw [List.append_nil] at hgap
    rw [hgap]
    exact signs_space.symm
  · have hlast : ∀ d ∈ ((c :: w).reverse ++ before).head?, t.isWordChar d = false := by
      rw [List.head?_append_of_ne_nil _ (by simp), List.head?_reverse]
      intro d hd
      exact isWord_eq_false (k := t.classes) (hall d (List.mem_of_getLast? hd))
    cases hhead : ((c :: w).reverse ++ before).head? with
    | none => rfl
    | some d => exact hlast d hhead

theorem masks_lineComment {rest output before : List Char} {fuel : ℕ}
    (hhead : rest.head? = some '-') (hfuel : rest.length ≤ fuel) :
    Masks t (fuel + 1) output before ('-' :: rest) (rest.tail.dropWhile fun d => !isNewline d)
      [.gap] := by
  obtain ⟨before', hcomment⟩ := lineComment_eq ('-' :: '-' :: before) rest.tail
  refine ⟨fuel, before', [' '], ?_, ?_, rfl, ?_⟩
  · rw [lexLoop, if_pos ⟨rfl, hhead⟩, hcomment]
  · have hdrop := length_dropWhile_le (fun d => !isNewline d) rest.tail
    rw [List.length_tail] at hdrop
    omega
  · have hhead : ∀ c ∈ (rest.tail.dropWhile fun d => !isNewline d).head?, isNewline c = true := by
      intro c hc
      have h := List.head?_dropWhile_not (fun d => !isNewline d) rest.tail
      rw [Option.mem_def.mp hc] at h
      simpa using h
    constructor
    · intro c hc htag
      exact absurd (hhead c hc) (by rw [isNewline_of_tag htag]; simp)
    · intro hquote
      exact absurd (hhead _ hquote) (by decide)

theorem masks_blockComment {rest left output before : List Char} {fuel : ℕ}
    (hhead : rest.head? = some '*') (hskip : skipComment 0 rest.tail = some left)
    (hfuel : rest.length ≤ fuel) :
    Masks t (fuel + 1) output before ('/' :: rest) left [.gap] := by
  obtain ⟨breaks, before', hcomment, hbreaks⟩ :=
    blockComment_eq hskip (output ++ [' ']) ('*' :: '/' :: before)
  refine ⟨fuel, '/' :: before', ' ' :: breaks, ?_, ?_, ?_, ready_of_fresh rfl _⟩
  · rw [lexLoop, if_neg (by simp), if_pos ⟨rfl, hhead⟩, hcomment]
    simp
  · have hle := skipComment_length hskip
    rw [List.length_tail] at hle
    omega
  · rw [signs_blank hbreaks]
    exact signs_space.symm

theorem lexLoop_quote (fuel : ℕ) (output before rest : List Char) :
    lexLoop t (fuel + 1) output ⟨before, '\'' :: rest⟩ =
      lexLoop t fuel (literalLoop (escapeBackslash t before) (output ++ [' ']) ('\'' :: before) rest).1
        (literalLoop (escapeBackslash t before) (output ++ [' ']) ('\'' :: before) rest).2 := by
  rw [lexLoop, if_neg (by simp), if_neg (by simp), if_neg (by simp)]
  dsimp only
  rw [if_pos rfl]

theorem masks_literal {escape : Bool} {rest raw left output before : List Char} {fuel : ℕ}
    (hread : readQuoted '\'' escape rest = some (raw, left))
    (hescape : escapeBackslash t before = escape) (hfuel : rest.length ≤ fuel) :
    Masks t (fuel + 1) output before ('\'' :: rest) left [.literal none] := by
  obtain ⟨breaks, before', hliteral, hbreaks⟩ :=
    literalLoop_eq hread (output ++ [' ']) ('\'' :: before)
  refine ⟨fuel, '\'' :: before', ' ' :: breaks, ?_, ?_, ?_, ready_of_fresh rfl _⟩
  · rw [lexLoop_quote, hescape, hliteral]
    simp
  · have hrest := readQuoted_spec hread
    rw [hrest] at hfuel
    simp only [List.length_append, List.length_cons] at hfuel
    omega
  · rw [signs_blank hbreaks]
    exact signs_space.symm

theorem masks_quoted {rest raw left output before : List Char} {fuel : ℕ}
    (hread : readQuoted '"' false rest = some (raw, left)) (hplain : isPlain raw = true)
    (hfuel : ('"' :: rest).length ≤ fuel) :
    Masks t fuel output before ('"' :: rest) left [.quoted raw] := by
  have htext : '"' :: rest = ('"' :: (raw ++ ['"'])) ++ left := by
    rw [readQuoted_spec hread]
    simp
  rw [htext] at hfuel ⊢
  refine masks_plain (fun u c v heq => ?_) hfuel ?_ (ready_of_fresh (by simp; rfl) _)
  · cases u with
    | nil =>
      obtain ⟨rfl, -⟩ := List.cons.inj heq
      rfl
    | cons d u =>
      obtain ⟨-, hraw⟩ := List.cons.inj heq
      -- the last character is the closing quotation mark, every other one stands in the text
      rcases List.eq_nil_or_concat v with rfl | ⟨v, e, rfl⟩
      · obtain ⟨-, hc⟩ := List.append_inj' hraw rfl
        obtain ⟨rfl, -⟩ := List.cons.inj hc
        rfl
      · rw [List.concat_eq_append] at hraw
        have hsplit : raw ++ ['"'] = (u ++ c :: v) ++ [e] := by
          rw [List.append_assoc, List.cons_append]
          exact hraw
        obtain ⟨hinit, he⟩ := List.append_inj' hsplit rfl
        obtain ⟨rfl, -⟩ := List.cons.inj he
        rw [List.concat_eq_append, List.append_assoc, List.singleton_append]
        exact opensQuote_append (isPlain_split hplain u c v hinit) (fun d hd => by
          obtain rfl := Option.some.inj hd
          rfl) (fun d hd hhead => by
          obtain rfl := Option.some.inj hhead
          exact absurd hd (by simp))
  · simp [shown, Token.shown]

/-- A word ends where the next character is no letter of it. -/
theorem masks_word {text left output before : List Char} {fuel : ℕ}
    (hplain : ∀ u c v, text = u ++ c :: v → opensQuote c (v ++ left) = false) (hne : text ≠ [])
    (hescape : text.tail.isEmpty = true ∨ escapeBackslash t text.reverse = false)
    (hclear : ∀ c ∈ left.head?, isTagChar c = false)
    (hquote : ∀ e, text = [e] → e = 'E' ∨ e = 'e' → left.head? ≠ some '\'')
    (hfuel : (text ++ left).length ≤ fuel) :
    Masks t fuel output before (text ++ left) left [.word text] := by
  refine masks_plain hplain hfuel (by simp [shown, Token.shown])
    ⟨fun c hc htag => ?_, fun hhead => ?_⟩
  · exact absurd htag (by rw [hclear c hc]; simp)
  · rcases List.eq_nil_or_concat text with rfl | ⟨u, e, rfl⟩
    · exact absurd rfl hne
    · rw [List.concat_eq_append, List.reverse_append, List.reverse_singleton, List.singleton_append,
        List.cons_append, escapeBackslash]
      rcases List.eq_nil_or_concat u with rfl | ⟨v, d, rfl⟩
      · have hmark : ¬(e = 'E' ∨ e = 'e') := fun h => hquote e rfl h hhead
        rw [not_or] at hmark
        simp [hmark.1, hmark.2]
      · rcases hescape with htail | hescape
        · have hlength := congrArg List.length (List.isEmpty_iff.mp htail)
          exact absurd hlength (by simp)
        · simpa [escapeBackslash] using hescape

/-- The literal an `E` starts: the letter is kept, the rest is blanked. -/
theorem masks_escaped {e : Char} {rest raw left output before : List Char} {fuel : ℕ}
    (he : e = 'E' ∨ e = 'e') (hread : readQuoted '\'' true rest = some (raw, left))
    (hbefore : before.head?.any t.isWordChar = false) (hfuel : rest.length ≤ fuel) :
    Masks t (fuel + 2) output before (e :: '\'' :: rest) left [.literal (some e)] := by
  have hescape : escapeBackslash t (e :: before) = true := by
    rw [escapeBackslash, hbefore]
    rcases he with rfl | rfl
    · rfl
    · rfl
  have hplain : opensQuote e ('\'' :: rest) = false := by
    rcases he with rfl | rfl
    · exact opensQuote_eq_false (by decide) (by decide) (by decide) (by decide) _
    · exact opensQuote_eq_false (by decide) (by decide) (by decide) (by decide) _
  have hliteral : Masks t (fuel + 1) (output ++ [e]) (e :: before) ('\'' :: rest) left [.literal none] :=
    masks_literal hread hescape hfuel
  obtain ⟨fuel', before', masked, hloop, hlength, hsigns, hready⟩ := hliteral
  refine ⟨fuel', before', e :: masked, ?_, hlength, ?_, hready⟩
  · rw [lexLoop_plain_one hplain, hloop, List.append_assoc, List.singleton_append]
  · have hmarked : t.classes.signs ([e] ++ masked) = t.classes.signs ([e] ++ [' ']) :=
      signs_append_congr rfl hsigns
    exact hmarked

/-! ## Dollar-quoted bodies -/

theorem lexLoop_dollar {rest tag more body left : List Char} (htag : dollarTag rest = some (tag, more))
    (hascii : ∀ c ∈ tag, c.toNat < 128) (hbreak : breakAt (delimiterOf tag) more = some (body, left))
    (fuel : ℕ) (output before : List Char) :
    ∃ before', before'.head? = some '$' ∧
      lexLoop t (fuel + 1) output ⟨before, '$' :: rest⟩ =
        if dollarBodyIsExecutable t output then
          (lexLoop t fuel [] ⟨[], body⟩).bind fun inner =>
            lexLoop t fuel (output ++ ' ' :: inner ++ [' ']) ⟨before', left⟩
        else lexLoop t fuel (output ++ ' ' :: body.filter isNewline) ⟨before', left⟩ := by
  have hrest := (dollarTag_spec htag).1
  have htake : ('$' :: rest).take (('$' :: rest).length - more.length) = delimiterOf tag := by
    have hsplit : '$' :: rest = delimiterOf tag ++ more := by
      rw [hrest, delimiterOf]
      simp
    rw [hsplit, List.length_append, Nat.add_sub_cancel, List.take_left]
  refine ⟨(delimiterOf tag).reverse ++ (body.reverse ++ ((delimiterOf tag).reverse ++ before)), ?_, ?_⟩
  · simp [delimiterOf]
  · rw [lexLoop, if_neg (by simp), if_neg (by simp), if_pos rfl, head?_ends_dollarQuote htag hascii]
    dsimp only
    rw [htake, hbreak]

/-- The lexer leaves of a text what the tokens are shown as. -/
def Unmasks (t : UnicodeTable) (inner : List Char → Option (List Token)) : Prop :=
  ∀ text ts fuel, inner text = some ts → text.length ≤ fuel →
    ∃ out, lexLoop t fuel [] ⟨[], text⟩ = some out ∧ t.classes.signs out = t.classes.signs (shown ts)

theorem dollar_length {rest tag more body left : List Char} (htag : dollarTag rest = some (tag, more))
    (hbreak : breakAt (delimiterOf tag) more = some (body, left)) :
    body.length ≤ rest.length ∧ left.length ≤ rest.length := by
  have hrest := congrArg List.length (dollarTag_spec htag).1
  have hmore := congrArg List.length (breakAt_spec hbreak)
  simp only [List.length_append, List.length_cons] at hrest hmore
  omega

theorem masks_dollar {inner : List Char → Option (List Token)} (hinner : Unmasks t inner)
    {rest tag more body left output before : List Char} {level sofar ts : List Token} {fuel : ℕ}
    (htag : dollarTag rest = some (tag, more)) (hascii : ∀ c ∈ tag, c.toNat < 128)
    (hbreak : breakAt (delimiterOf tag) more = some (body, left))
    (hsofar : t.classes.signs output = t.classes.signs (shown sofar))
    (htokens : pieceTokens inner id (gateOpens t) level sofar (.dollar tag body) = some ts)
    (hfuel : rest.length ≤ fuel) :
    Masks t (fuel + 1) output before ('$' :: rest) left ts := by
  obtain ⟨before', hdollar, hloop⟩ := lexLoop_dollar (t := t) htag hascii hbreak fuel output before
  obtain ⟨hbody, hleft⟩ := dollar_length htag hbreak
  have hready : Ready t before' left := by
    refine ready_of_fresh ?_ _
    rw [hdollar]
    rfl
  have hopens : gateOpens t level sofar .dollar = dollarBodyIsExecutable t output := by
    rw [gateOpens, dollarBodyIsExecutable_congr hsofar]
    rfl
  simp only [pieceTokens, Piece.text?, hopens] at htokens
  by_cases hexecutable : dollarBodyIsExecutable t output = true
  · rw [if_pos hexecutable] at hloop htokens
    obtain ⟨us, hus, rfl⟩ := Option.map_eq_some_iff.mp htokens
    obtain ⟨out, hout, hsigns⟩ := hinner body us fuel hus (hbody.trans hfuel)
    refine ⟨fuel, before', ' ' :: out ++ [' '], ?_, hleft.trans hfuel, ?_, hready⟩
    · rw [hloop, hout, Option.bind_some]
      simp
    · have hshown : shown (.literal none :: us ++ [.literal none]) = ' ' :: shown us ++ [' '] := by
        simp [shown, Token.shown]
      rw [hshown]
      have hopened : t.classes.signs ([' '] ++ out) = t.classes.signs ([' '] ++ shown us) :=
        signs_append_congr rfl hsigns
      exact signs_append_congr hopened rfl
  · rw [if_neg hexecutable] at hloop htokens
    obtain rfl := Option.some.inj htokens
    refine ⟨fuel, before', ' ' :: body.filter isNewline, hloop, hleft.trans hfuel, ?_, hready⟩
    have hbreaks : IsBreaks (body.filter isNewline) := fun c hc => (List.mem_filter.mp hc).2
    rw [signs_blank hbreaks]
    exact signs_space.symm

/-! ## Every legible piece -/

theorem clear_dropWhile {p : Char → Bool} (rest : List Char) :
    ∀ c ∈ (rest.dropWhile p).head?, p c = false := by
  intro c hc
  have h := List.head?_dropWhile_not p rest
  rw [Option.mem_def.mp hc] at h
  exact h

/-- A character that opens nothing. -/
theorem masks_punct {c : Char} {rest output before : List Char} {fuel : ℕ}
    (hplain : opensQuote c rest = false) (hword : t.isWordChar c = false)
    (hfuel : (c :: rest).length ≤ fuel) : Masks t fuel output before (c :: rest) rest [.punct c] := by
  refine masks_plain (w := [c]) (fun u d v heq => ?_) hfuel rfl (ready_of_fresh (by simp [hword]) _)
  cases u with
  | nil =>
    obtain ⟨rfl, rfl⟩ := List.cons.inj heq
    exact hplain
  | cons e u => exact absurd (List.cons.inj heq).2 (by simp)

theorem readWord_cases {text rest left : List Char} {piece : Piece}
    (h : readWord text rest = some (piece, left)) :
    (piece = .word text ∧ rest = left ∧
        ∀ e, text = [e] → e = 'E' ∨ e = 'e' → left.head? ≠ some '\'') ∨
      ∃ e more raw, text = [e] ∧ (e = 'E' ∨ e = 'e') ∧ rest = '\'' :: more ∧
        readQuoted '\'' true more = some (raw, left) ∧ piece = .literal (some e) raw := by
  unfold readWord at h
  split at h
  · rename_i e more
    split at h
    · rename_i hmark
      obtain ⟨⟨raw, left'⟩, hraw, heq⟩ := Option.map_eq_some_iff.mp h
      rw [Prod.mk.injEq] at heq
      obtain ⟨rfl, rfl⟩ := heq
      exact Or.inr ⟨e, more, raw, rfl, by simpa using hmark, rfl, hraw, rfl⟩
    · rename_i hmark
      rw [Option.some.injEq, Prod.mk.injEq] at h
      obtain ⟨rfl, rfl⟩ := h
      refine Or.inl ⟨rfl, rfl, fun d hd hmark' => ?_⟩
      obtain ⟨rfl, -⟩ := List.cons.inj hd
      exact absurd hmark' (by simpa using hmark)
  · rename_i hother
    rw [Option.some.injEq, Prod.mk.injEq] at h
    obtain ⟨rfl, rfl⟩ := h
    refine Or.inl ⟨rfl, rfl, fun e htext _ hhead => ?_⟩
    obtain ⟨more, hmore⟩ := List.head?_eq_some_iff.mp hhead
    exact hother e more htext hmore

/-- A word, or the literal its letter starts. -/
theorem masks_readWord {inner : List Char → Option (List Token)} {c : Char}
    {rest left output before : List Char} {piece : Piece} {level sofar ts : List Token} {fuel : ℕ}
    (hread : readWord (c :: rest.takeWhile isIdentChar) (rest.dropWhile isIdentChar) =
      some (piece, left))
    (hstart : isIdentChar c = true) (hlegible : piece.legible t = true) (hbefore : before.head?.any t.isWordChar = false)
    (htokens : pieceTokens inner id (gateOpens t) level sofar piece = some ts)
    (hfuel : (c :: rest).length ≤ fuel) :
    Masks t fuel output before (c :: rest) left ts := by
  obtain ⟨text, htext⟩ : ∃ text, text = c :: rest.takeWhile isIdentChar := ⟨_, rfl⟩
  have hsplit : c :: rest = text ++ rest.dropWhile isIdentChar := by
    rw [htext, List.cons_append, List.takeWhile_append_dropWhile]
  have hclear : ∀ d ∈ (rest.dropWhile isIdentChar).head?, isTagChar d = false := by
    intro d hd
    have h := clear_dropWhile rest d hd
    rw [isIdentChar, Bool.or_eq_false_iff] at h
    exact h.1
  have hall : ∀ d ∈ text, isIdentChar d = true := by
    rw [htext]
    exact List.forall_mem_cons.mpr ⟨hstart, fun d hd => List.all_eq_true.mp List.all_takeWhile d hd⟩
  rw [← htext] at hread
  rw [hsplit] at hfuel ⊢
  rcases readWord_cases hread with ⟨rfl, rfl, hquote⟩ | ⟨e, more, raw, rfl, he, hmore, hraw, rfl⟩
  · obtain rfl := Option.some.inj htokens
    simp only [Piece.legible, Bool.and_eq_true, Bool.or_eq_true, Bool.not_eq_true'] at hlegible
    refine masks_word (fun u d v heq => ?_) (htext ▸ List.cons_ne_nil _ _) hlegible.2 hclear hquote
      hfuel
    have hd : isIdentChar d = true := hall d (by rw [heq]; simp)
    refine opensQuote_append (isPlain_split hlegible.1 u d v heq) (clear_dropWhile rest) ?_
    rintro e (⟨rfl, -⟩ | ⟨rfl, -⟩)
    · exact absurd hd (by decide)
    · exact absurd hd (by decide)
  · obtain rfl := Option.some.inj htokens
    rw [hmore] at hfuel ⊢
    obtain ⟨n, rfl⟩ : ∃ n, fuel = n + 2 := by
      simp only [List.singleton_append, List.length_cons] at hfuel
      exact ⟨fuel - 2, by omega⟩
    simp only [List.singleton_append, List.length_cons, Nat.add_le_add_iff_right] at hfuel
    exact masks_escaped he hraw hbefore (by omega)

/-- The lexer cuts a legible piece off. -/
theorem masks_piece {inner : List Char → Option (List Token)} (hinner : Unmasks t inner)
    {c : Char} {rest left output before : List Char} {piece : Piece}
    {level sofar ts : List Token} {fuel : ℕ}
    (hread : readPiece c rest = some (piece, left)) (hlegible : piece.legible t = true)
    (hready : Ready t before (c :: rest))
    (hsofar : t.classes.signs output = t.classes.signs (shown sofar))
    (htokens : pieceTokens inner id (gateOpens t) level sofar piece = some ts)
    (hfuel : (c :: rest).length ≤ fuel) :
    Masks t fuel output before (c :: rest) left ts := by
  have hsucc : ∃ n, fuel = n + 1 ∧ rest.length ≤ n := by
    rw [List.length_cons] at hfuel
    exact ⟨fuel - 1, by omega, by omega⟩
  unfold readPiece at hread
  by_cases hblank : isSqlSpace c = true
  · rw [if_pos hblank, Option.some.injEq, Prod.mk.injEq] at hread
    obtain ⟨rfl, rfl⟩ := hread
    obtain rfl := Option.some.inj htokens
    exact masks_blank hblank hfuel
  rw [if_neg hblank] at hread
  by_cases hline : (c == '-' && rest.head? == some '-') = true
  · rw [if_pos hline, Option.some.injEq, Prod.mk.injEq] at hread
    obtain ⟨rfl, rfl⟩ := hread
    obtain rfl := Option.some.inj htokens
    obtain ⟨n, rfl, hn⟩ := hsucc
    rw [Bool.and_eq_true, beq_iff_eq, beq_iff_eq] at hline
    rw [hline.1]
    exact masks_lineComment hline.2 hn
  rw [if_neg hline] at hread
  by_cases hblock : (c == '/' && rest.head? == some '*') = true
  · rw [if_pos hblock] at hread
    obtain ⟨left', hskip, heq⟩ := Option.map_eq_some_iff.mp hread
    rw [Prod.mk.injEq] at heq
    obtain ⟨rfl, rfl⟩ := heq
    obtain rfl := Option.some.inj htokens
    obtain ⟨n, rfl, hn⟩ := hsucc
    rw [Bool.and_eq_true, beq_iff_eq, beq_iff_eq] at hblock
    rw [hblock.1]
    exact masks_blockComment hblock.2 hskip hn
  rw [if_neg hblock] at hread
  by_cases hdollar : (c == '$') = true
  · rw [if_pos hdollar] at hread
    obtain rfl := beq_iff_eq.mp hdollar
    obtain ⟨n, rfl, hn⟩ := hsucc
    cases htag : dollarTag rest with
    | none =>
      rw [htag, Option.some.injEq, Prod.mk.injEq] at hread
      obtain ⟨rfl, rfl⟩ := hread
      obtain rfl := Option.some.inj htokens
      exact masks_punct (by rw [opensQuote, htag]; rfl) rfl hfuel
    | some r =>
      obtain ⟨tag, more⟩ := r
      rw [htag] at hread
      obtain ⟨⟨body, left'⟩, hbreak, heq⟩ := Option.map_eq_some_iff.mp hread
      rw [Prod.mk.injEq] at heq
      obtain ⟨rfl, rfl⟩ := heq
      have hascii : ∀ d ∈ tag, d.toNat < 128 :=
        fun d hd => of_decide_eq_true (List.all_eq_true.mp hlegible d hd)
      exact masks_dollar hinner htag hascii hbreak hsofar htokens hn
  rw [if_neg hdollar] at hread
  by_cases hquote : (c == '\'') = true
  · rw [if_pos hquote] at hread
    obtain rfl := beq_iff_eq.mp hquote
    obtain ⟨n, rfl, hn⟩ := hsucc
    obtain ⟨⟨raw, left'⟩, hraw, heq⟩ := Option.map_eq_some_iff.mp hread
    rw [Prod.mk.injEq] at heq
    obtain ⟨rfl, rfl⟩ := heq
    -- the gate opens dollar quotes only
    obtain rfl := Option.some.inj htokens
    exact masks_literal hraw (hready.quote rfl) hn
  rw [if_neg hquote] at hread
  by_cases hdouble : (c == '"') = true
  · rw [if_pos hdouble] at hread
    obtain rfl := beq_iff_eq.mp hdouble
    obtain ⟨⟨raw, left'⟩, hraw, heq⟩ := Option.map_eq_some_iff.mp hread
    rw [Prod.mk.injEq] at heq
    obtain ⟨rfl, rfl⟩ := heq
    obtain rfl := Option.some.inj htokens
    exact masks_quoted hraw hlegible hfuel
  rw [if_neg hdouble] at hread
  by_cases hstart : isIdentStart c = true
  · rw [if_pos hstart] at hread
    have htag : isTagChar c = true := by simp [isTagChar, hstart]
    exact masks_readWord hread (by simp [isIdentChar, htag]) hlegible (hready.word c rfl htag) htokens
      hfuel
  rw [if_neg hstart] at hread
  by_cases hdigit : c.isDigit = true
  · rw [if_pos hdigit, Option.some.injEq, Prod.mk.injEq] at hread
    obtain ⟨rfl, rfl⟩ := hread
    obtain rfl := Option.some.inj htokens
    have htext : c :: rest = (c :: rest.takeWhile isTagChar) ++ rest.dropWhile isTagChar := by
      rw [List.cons_append, List.takeWhile_append_dropWhile]
    rw [htext] at hfuel ⊢
    have hall : ∀ d ∈ c :: rest.takeWhile isTagChar, isTagChar d = true :=
      List.forall_mem_cons.mpr ⟨by simp [isTagChar, hdigit],
        fun d hd => List.all_eq_true.mp List.all_takeWhile d hd⟩
    simp only [Piece.legible, Bool.and_eq_true, Bool.or_eq_true, Bool.not_eq_true'] at hlegible
    refine masks_word (fun u d v heq => opensQuote_of_tag (hall d (by rw [heq]; simp)) _)
      (List.cons_ne_nil _ _) hlegible.2 (clear_dropWhile rest) (fun e he hmark => ?_) hfuel
    obtain ⟨rfl, -⟩ := List.cons.inj he
    rcases hmark with rfl | rfl
    · exact absurd hdigit (by decide)
    · exact absurd hdigit (by decide)
  rw [if_neg hdigit, Option.some.injEq, Prod.mk.injEq] at hread
  obtain ⟨rfl, rfl⟩ := hread
  obtain rfl := Option.some.inj htokens
  simp only [Bool.not_eq_true] at hline hblock hdollar hquote hstart hdigit
  refine masks_punct ?_ (isWordChar_of_not_tag (by simp [isTagChar, hstart, hdigit])) hfuel
  simp [opensQuote, hline, hblock, hquote, hdollar]

/-! ## Whole texts -/

@[simp] theorem lexLoop_nil (fuel : ℕ) (output before : List Char) :
    lexLoop t fuel output ⟨before, []⟩ = some output := by
  cases fuel with
  | zero => rfl
  | succ fuel => rfl

theorem unmasks_level {inner : List Char → Option (List Token)} (hinner : Unmasks t inner) {n : ℕ}
    {text output before : List Char} {ps : List Piece} {level sofar ts : List Token} {fuel : ℕ}
    (hcut : cut n text = some ps) (hlegible : ∀ piece ∈ ps, piece.legible t = true)
    (hready : Ready t before text)
    (hsofar : t.classes.signs output = t.classes.signs (shown sofar))
    (htokens : levelTokens inner id (gateOpens t) level sofar ps = some ts)
    (hfuel : text.length ≤ fuel) :
    ∃ out, lexLoop t fuel output ⟨before, text⟩ = some out ∧
      t.classes.signs out = t.classes.signs (shown (sofar ++ ts)) := by
  induction n generalizing text output before ps level sofar ts fuel with
  | zero =>
    cases text with
    | cons c rest => exact absurd hcut (by simp [cut])
    | nil =>
      obtain rfl := Option.some.inj hcut
      obtain rfl := Option.some.inj htokens
      exact ⟨output, lexLoop_nil fuel output before, by rw [List.append_nil, hsofar]⟩
  | succ n ih =>
    cases text with
    | nil =>
      obtain rfl := Option.some.inj hcut
      obtain rfl := Option.some.inj htokens
      exact ⟨output, lexLoop_nil fuel output before, by rw [List.append_nil, hsofar]⟩
    | cons c rest =>
      rw [cut] at hcut
      obtain ⟨⟨piece, left⟩, hread, hmore⟩ := Option.bind_eq_some_iff.mp hcut
      obtain ⟨qs, hqs, rfl⟩ := Option.map_eq_some_iff.mp hmore
      obtain ⟨hpiece, hrest⟩ := List.forall_mem_cons.mp hlegible
      rw [levelTokens] at htokens
      obtain ⟨us, hus, hlater⟩ := Option.bind_eq_some_iff.mp htokens
      obtain ⟨vs, hvs, rfl⟩ := Option.map_eq_some_iff.mp hlater
      obtain ⟨fuel', before', masked, hloop, hlength, hmasked, hready'⟩ :=
        masks_piece hinner hread hpiece hready hsofar hus hfuel
      have hsofar' : t.classes.signs (output ++ masked) = t.classes.signs (shown (sofar ++ us)) := by
        rw [shown_append]
        exact signs_append_congr hsofar hmasked
      obtain ⟨out, hout, hsigns⟩ := ih hqs hrest hready' hsofar' hvs hlength
      exact ⟨out, hloop.trans hout, by rw [hsigns, List.append_assoc]⟩

theorem unmasks_openedTokens (depth : ℕ) :
    Unmasks t (openedTokens (legiblePieces t) id (gateOpens t) depth) := by
  induction depth with
  | zero => exact fun text ts fuel h _ => absurd h (by simp [openedTokens])
  | succ depth ih =>
    intro text ts fuel h hfuel
    rw [openedTokens] at h
    obtain ⟨ps, hps, hts⟩ := Option.bind_eq_some_iff.mp h
    obtain ⟨hcut, hlegible⟩ := Option.filter_eq_some_iff.mp hps
    have hall : ∀ piece ∈ ps, piece.legible t = true := List.all_eq_true.mp hlegible
    exact unmasks_level ih hcut hall (ready_of_fresh rfl _) rfl hts hfuel

/-- Where every piece is legible, the lexer leaves what the tokens the gate sees are shown as. -/
theorem lexExecutableSql_of_legible {text : List Char} {seen : List Token}
    (h : seenTokens t text = some seen) :
    ∃ out, lexExecutableSql t text = some out ∧ t.classes.signs out = t.classes.signs (shown seen) :=
  unmasks_openedTokens _ text seen text.length h le_rfl

/-! ## The lexer comes to an end -/

theorem length_lineComment (before rest : List Char) :
    (lineComment before rest).rest.length ≤ rest.length := by
  obtain ⟨before', h⟩ := lineComment_eq before rest
  rw [h]
  exact length_dropWhile_le _ rest

theorem length_blockComment (depth : ℕ) (output before rest : List Char) :
    (blockComment depth output before rest).2.rest.length ≤ rest.length := by
  fun_induction blockComment depth output before rest with
  | case1 => exact le_rfl
  | case2 => exact le_rfl
  | case3 => exact Nat.zero_le _
  | case4 depth output before c d rest hopen ih =>
    simp only [List.length_cons]
    omega
  | case5 depth output before c d rest hopen hclose ih =>
    simp only [List.length_cons]
    omega
  | case6 depth output before c d rest hopen hclose ih =>
    simp only [List.length_cons] at ih ⊢
    omega

theorem length_literalLoop (escape : Bool) (output before rest : List Char) :
    (literalLoop escape output before rest).2.rest.length ≤ rest.length := by
  fun_induction literalLoop escape output before rest with
  | case1 => exact le_rfl
  | case2 => exact Nat.zero_le _
  | case3 => exact Nat.zero_le _
  | case4 output before c d rest hskip ih =>
    simp only [List.length_cons]
    omega
  | case5 output before d rest hskip =>
    simp only [List.length_cons]
    omega
  | case6 output before c d rest hskip hc ih =>
    simp only [List.length_cons] at ih ⊢
    omega

/-- One round passes a character at least, and so does every round over a body. -/
theorem lexLoop_isSome (fuel : ℕ) (output before rest : List Char) (h : rest.length ≤ fuel) :
    (lexLoop t fuel output ⟨before, rest⟩).isSome = true := by
  induction fuel generalizing output before rest with
  | zero =>
    obtain rfl := List.eq_nil_of_length_eq_zero (Nat.le_zero.mp h)
    rfl
  | succ fuel ih =>
    cases rest with
    | nil => rfl
    | cons c rest =>
      rw [List.length_cons, Nat.add_le_add_iff_right] at h
      have htail : rest.tail.length ≤ fuel := by
        rw [List.length_tail]
        omega
      unfold lexLoop
      split
      · exact ih _ _ _ ((length_lineComment _ _).trans htail)
      split
      · exact ih _ _ _ ((length_blockComment _ _ _ _).trans htail)
      have hplain : (if c = '\'' then
          let r := literalLoop (escapeBackslash t before) (output ++ [' ']) (c :: before) rest
          lexLoop t fuel r.1 r.2
        else lexLoop t fuel (output ++ [c]) ⟨c :: before, rest⟩).isSome = true := by
        split
        · exact ih _ _ _ ((length_literalLoop _ _ _ _).trans h)
        · exact ih _ _ _ h
      by_cases hdollar : c = '$'
      · subst hdollar
        rw [if_pos rfl]
        cases hopened : (ends dollarQuote ⟨before, '$' :: rest⟩).head? with
        | none => exact hplain
        | some opened =>
          obtain ⟨tag, more, htag, -, rfl⟩ := mem_ends_dollarQuote.mp (List.mem_of_head? hopened)
          dsimp only
          split
          · exact ih _ _ _ h
          · rename_i body left hbreak
            have hmore := congrArg List.length (breakAt_spec hbreak)
            have hrest := congrArg List.length (dollarTag_spec htag).1
            simp only [List.length_append, List.length_cons] at hmore hrest
            split
            · obtain ⟨inner, hinner⟩ := Option.isSome_iff_exists.mp (ih [] [] body (by omega))
              rw [hinner, Option.bind_some]
              exact ih _ _ _ (by omega)
            · exact ih _ _ _ (by omega)
      · rw [if_neg hdollar]
        exact hplain

theorem lexExecutableSql_isSome (text : List Char) : (lexExecutableSql t text).isSome = true :=
  lexLoop_isSome text.length [] [] text le_rfl

end AccountingPlatform.Scripts
