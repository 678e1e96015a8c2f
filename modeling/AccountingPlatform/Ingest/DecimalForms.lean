/-
  Which texts `Decimal(text)` reads, as far as an amount field asks.

  White space around the text and all underscores are dropped, digits of every script count. A
  text is then a number with a point and an exponent, an infinity or a NaN. Where an amount
  pattern matches, the form is that of its number (`decimalForm_of_matches`).
-/
import AccountingPlatform.Bank.AmountText
import AccountingPlatform.Core.Numerals

namespace AccountingPlatform.Ingest

open AccountingPlatform.Lib AccountingPlatform.Core

/-! ## Reading -/

/-- `numeric_as_ascii` on one character; NUL stands for what no number has. -/
def asciiChar (c : Char) : Char :=
  if 0 < c.toNat ∧ c.toNat ≤ 127 then c
  else if isSpace c then ' '
  else
    match decimalValue c with
    | some d => Nat.digitChar d
    | none => Char.ofNat 0

def asciiDecimal (text : String) : List Char :=
  ((strip text).toList.filter fun c => c ≠ '_').map asciiChar

def dropSign : List Char → List Char
  | [] => []
  | c :: cs => if c = '+' ∨ c = '-' then cs else c :: cs

def isExponentMark (c : Char) : Bool := c == 'e' || c == 'E'

/-- Nothing, or a mark, a sign and digits. -/
def isExponent : List Char → Bool
  | [] => true
  | _ :: cs => !(dropSign cs).isEmpty && (dropSign cs).all isDigit

/-- The digits of a number before its exponent. -/
def mantissaDigits (cs : List Char) : Option (List Char) :=
  let whole := cs.takeWhile isDigit
  match cs.dropWhile isDigit with
  | [] => if whole = [] then none else some whole
  | c :: fraction =>
    if c = '.' ∧ fraction.all isDigit = true ∧ whole ++ fraction ≠ [] then some (whole ++ fraction)
    else none

/-- What a comparison with zero finds: equal, unequal, or the signal of `sNaN`. -/
inductive DecimalForm
  | zero | signaling | other
  deriving DecidableEq

/-- `Decimal(text)`; nothing where it raises `InvalidOperation`. -/
def decimalForm (text : String) : Option DecimalForm :=
  let cs := dropSign (asciiDecimal text)
  let lower := cs.map Char.toLower
  if lower = "inf".toList ∨ lower = "infinity".toList then some .other
  else if lower.take 4 = "snan".toList ∧ (lower.drop 4).all isDigit then some .signaling
  else if lower.take 3 = "nan".toList ∧ (lower.drop 3).all isDigit then some .other
  else if isExponent (cs.dropWhile fun c => !isExponentMark c) then
    (mantissaDigits (cs.takeWhile fun c => !isExponentMark c)).map fun digits =>
      if digits.all (fun c => c == '0') then .zero else .other
  else none

example : decimalForm " -0_0.0E+5 " = some .zero := by decide
example : decimalForm "-sNaN12" = some .signaling := by decide
example : decimalForm "1e" = none := by decide

/-! ## Amount texts -/

/-- Digits and at most one point. -/
def IsAmountChar (c : Char) : Prop := isDigit c = true ∨ c = '.'

theorem isPlainDigit_of_isDigit {c : Char} (h : isDigit c = true) : IsPlainDigit c := by
  simp only [isDigit, Bool.and_eq_true, decide_eq_true_eq] at h
  exact ⟨h.1, h.2⟩

theorem ne_of_isDigit {c d : Char} (h : isDigit c = true) (hd : isDigit d = false) : c ≠ d := by
  rintro rfl
  rw [h] at hd
  cases hd

theorem IsAmountChar.plain {c : Char} (h : IsAmountChar c) :
    isSpace c = false ∧ c ≠ '_' ∧ asciiChar c = c ∧ isExponentMark c = false ∧ c ≠ '+' ∧ c ≠ '-' := by
  rcases h with h | rfl
  · have hplain := isPlainDigit_of_isDigit h
    have hascii : asciiChar c = c := by
      have hrange : 0 < c.toNat ∧ c.toNat ≤ 127 := by
        have hlow := hplain.1
        have hhigh := hplain.2
        omega
      rw [asciiChar, if_pos hrange]
    have hmark : isExponentMark c = false := by
      simp only [isExponentMark, Bool.or_eq_false_iff, beq_eq_false_iff_ne, ne_eq]
      exact ⟨ne_of_isDigit h (by decide), ne_of_isDigit h (by decide)⟩
    exact ⟨hplain.isSpace_eq, ne_of_isDigit h (by decide), hascii, hmark,
      ne_of_isDigit h (by decide), ne_of_isDigit h (by decide)⟩
  · decide

/-- A text of digits and points is read as it stands. -/
theorem asciiDecimal_of_amountChars {text : String} (h : ∀ c ∈ text.toList, IsAmountChar c) :
    asciiDecimal text = text.toList := by
  rw [asciiDecimal, strip_of_no_space fun c hc => (h c hc).plain.1,
    List.filter_eq_self.mpr fun c hc => by simpa using (h c hc).plain.2.1]
  exact (List.map_congr_left fun c hc => (h c hc).plain.2.2.1).trans (List.map_id _)

theorem dropSign_of_amountChars {cs : List Char} (h : ∀ c ∈ cs, IsAmountChar c) : dropSign cs = cs := by
  cases cs with
  | nil => rfl
  | cons c cs =>
    have hplain := (h c List.mem_cons_self).plain
    rw [dropSign, if_neg]
    rintro (hplus | hminus)
    · exact hplain.2.2.2.2.1 hplus
    · exact hplain.2.2.2.2.2 hminus

/-- Before an exponent mark there is everything, after it nothing. -/
theorem split_of_amountChars {cs : List Char} (h : ∀ c ∈ cs, IsAmountChar c) :
    (cs.takeWhile fun c => !isExponentMark c) = cs ∧ (cs.dropWhile fun c => !isExponentMark c) = [] := by
  have hall : ∀ c ∈ cs, (!isExponentMark c) = true := fun c hc => by
    rw [(h c hc).plain.2.2.2.1]
    rfl
  exact ⟨List.takeWhile_eq_self_iff.mpr hall, List.dropWhile_eq_nil_iff.mpr hall⟩

/-- The number of a text of digits and points. -/
theorem decimalForm_of_digits {text : String} {c : Char} {cs : List Char} (htext : text.toList = c :: cs)
    (hdigit : isDigit c = true) (h : ∀ c ∈ text.toList, IsAmountChar c) :
    decimalForm text = (mantissaDigits text.toList).map fun digits =>
      if digits.all (fun c => c == '0') then .zero else .other := by
  have hhead : ∀ (d : Char) (ds : List Char) (n : ℕ), isDigit d = false →
      (text.toList.map Char.toLower).take (n + 1) ≠ d :: ds := by
    intro d ds n hd heq
    rw [htext, List.map_cons, List.take_succ_cons, List.cons.injEq] at heq
    have hlower : c.toLower = c := by
      simp only [isDigit, Bool.and_eq_true, decide_eq_true_eq] at hdigit
      refine dif_neg ?_
      rintro ⟨hupper, -⟩
      exact absurd (UInt32.le_trans hupper hdigit.2) (by decide)
    rw [hlower] at heq
    exact ne_of_isDigit hdigit hd heq.1
  have hspecial : ∀ (d : Char) (ds : List Char), isDigit d = false →
      text.toList.map Char.toLower ≠ d :: ds := by
    intro d ds hd heq
    refine hhead d ds ds.length hd ?_
    rw [heq, List.take_succ_cons, List.take_length]
  obtain ⟨htake, hdrop⟩ := split_of_amountChars h
  have hinf : ¬(text.toList.map Char.toLower = "inf".toList ∨
      text.toList.map Char.toLower = "infinity".toList) :=
    fun hor => hor.elim (hspecial 'i' _ (by decide)) (hspecial 'i' _ (by decide))
  have hsnan : ¬((text.toList.map Char.toLower).take 4 = "snan".toList ∧
      ((text.toList.map Char.toLower).drop 4).all isDigit) :=
    fun hand => hhead 's' _ 3 (by decide) hand.1
  have hnan : ¬((text.toList.map Char.toLower).take 3 = "nan".toList ∧
      ((text.toList.map Char.toLower).drop 3).all isDigit) :=
    fun hand => hhead 'n' _ 2 (by decide) hand.1
  simp only [decimalForm, asciiDecimal_of_amountChars h, dropSign_of_amountChars h]
  rw [if_neg hinf, if_neg hsnan, if_neg hnan, htake, hdrop]
  rfl

/-! ## Zero -/

theorem digitValue_eq_zero {c : Char} (h : isDigit c = true) : digitValue c = 0 ↔ c = '0' := by
  have hplain := isPlainDigit_of_isDigit h
  have hvalue : digitValue c = c.toNat - 48 := rfl
  have hlow := hplain.1
  constructor
  · intro hzero
    refine Char.toNat_inj.mp ?_
    show c.toNat = 48
    omega
  · rintro rfl
    decide

/-- A number is zero when all its digits are. -/
theorem digitsValue_eq_zero {cs : List Char} (h : ∀ c ∈ cs, isDigit c = true) :
    digitsValue cs = 0 ↔ ∀ c ∈ cs, c = '0' := by
  induction cs using List.reverseRecOn with
  | nil => exact iff_of_true rfl fun c hc => absurd hc List.not_mem_nil
  | append_singleton cs c ih =>
    have hlast : digitsValue (cs ++ [c]) = 10 * digitsValue cs + digitValue c := by
      rw [digitsValue, List.foldl_append]
      rfl
    have hc := digitValue_eq_zero (h c (List.mem_append_right _ List.mem_cons_self))
    have hcs := ih fun d hd => h d (List.mem_append_left _ hd)
    rw [hlast, List.forall_mem_append, List.forall_mem_singleton, ← hcs, ← hc]
    omega

/-- The form of a text the amount pattern matches. -/
theorem decimalForm_of_matches {text : String} (h : matchesDecimal text = true) :
    decimalForm text = some (if decimalMillionths text = 0 then .zero else .other) := by
  obtain ⟨fraction, hparts, hfraction⟩ := Bank.Amounts.exists_parts h
  have hwhole : ∀ c ∈ text.toList.takeWhile isDigit, isDigit c = true := fun c hc => List.mem_takeWhile_imp hc
  have hdigits : ∀ c ∈ fraction, isDigit c = true := fun c hc =>
    (Bank.Camt.isDigit_eq c).trans (hparts.fraction_digits c hc)
  have hchars : ∀ c ∈ text.toList, IsAmountChar c := by
    rw [hparts.text_eq]
    intro c hc
    rcases List.mem_append.mp hc with hc | hc
    · exact Or.inl (hwhole c hc)
    · rw [pointed] at hc
      split_ifs at hc with hnone
      · exact absurd hc List.not_mem_nil
      · rcases List.mem_cons.mp hc with rfl | hc
        · exact Or.inr rfl
        · exact Or.inl (hdigits c hc)
  have hfilled : text.toList.takeWhile isDigit ≠ [] := by
    intro hnil
    rw [matchesDecimal, hnil] at h
    cases h
  obtain ⟨c, cs, hcons⟩ := List.exists_cons_of_ne_nil hfilled
  have htext : text.toList = c :: (cs ++ pointed fraction) := by
    rw [← List.cons_append, ← hcons]
    exact hparts.text_eq
  have hdrop := (Bank.Amounts.split_pointed hwhole fraction).2
  rw [← hparts.text_eq] at hdrop
  have hmantissa : mantissaDigits text.toList = some (text.toList.takeWhile isDigit ++ fraction) := by
    rw [mantissaDigits, hdrop]
    by_cases hnone : fraction = []
    · rw [hnone, pointed, if_pos rfl, List.append_nil]
      exact if_neg hfilled
    · rw [pointed, if_neg hnone]
      refine if_pos ⟨rfl, List.all_eq_true.mpr hdigits, fun hnil => ?_⟩
      exact hfilled (List.append_eq_nil_iff.mp hnil).1
  have hzero : (text.toList.takeWhile isDigit ++ fraction).all (fun c => c == '0') = true ↔
      decimalMillionths text = 0 := by
    have hpow : 0 < 10 ^ (6 - fraction.length) := Nat.pow_pos (by decide)
    have hscale : 0 < unitScale := by decide
    rw [decimalMillionths, hfraction, Nat.add_eq_zero_iff, Nat.mul_eq_zero, Nat.mul_eq_zero,
      or_iff_left hscale.ne', or_iff_left hpow.ne', digitsValue_eq_zero hwhole,
      digitsValue_eq_zero hdigits, List.all_eq_true, List.forall_mem_append]
    simp only [beq_iff_eq]
  rw [decimalForm_of_digits htext (hwhole c (hcons ▸ List.mem_cons_self)) hchars, hmantissa, Option.map_some]
  simp only [hzero]

end AccountingPlatform.Ingest
