/-
  Decimal numbers written without an exponent.

  `fixedChars` writes a number the way `format(d, "f")` does; `plainChars` drops the zeros that
  end its fraction. A further zero of the number changes nothing there (`plainChars_lengthen`),
  so two numbers of one sign have one plain text exactly when they are equal
  (`plainChars_eq_iff`).
-/
import AccountingPlatform.Lib.DecimalText
import Mathlib.Data.List.DropRight
import Mathlib.Tactic.IntervalCases

namespace AccountingPlatform.Lib

/-! ## Trailing zeros -/

/-- Digits without their trailing zeros. -/
def significantDigits (chars : List Char) : List Char := chars.rdropWhile fun c => c == '0'

/-- What is dropped is zeros. -/
theorem significantDigits_append_zeros (chars : List Char) :
    significantDigits chars ++ List.replicate (chars.length - (significantDigits chars).length) '0' =
      chars := by
  have hsplit : significantDigits chars ++ chars.rtakeWhile (fun c => c == '0') = chars :=
    List.rdropWhile_append_rtakeWhile
  have hlength := congrArg List.length hsplit
  rw [List.length_append] at hlength
  have hzero : ∀ c ∈ chars.rtakeWhile (fun c => c == '0'), c = '0' := by
    intro c hc
    have hmark : (c == '0') = true := List.mem_rtakeWhile_imp (p := fun c => c == '0') hc
    exact eq_of_beq hmark
  have hzeros : chars.rtakeWhile (fun c => c == '0') =
      List.replicate (chars.length - (significantDigits chars).length) '0' :=
    List.eq_replicate_iff.mpr ⟨by omega, hzero⟩
  conv => rhs; rw [← hsplit, hzeros]

/-- Dropped zeros count as a power of ten. -/
theorem ofDigitChars_significantDigits (whole chars : List Char) :
    Nat.ofDigitChars 10 (whole ++ significantDigits chars) 0 *
      10 ^ (chars.length - (significantDigits chars).length) = Nat.ofDigitChars 10 (whole ++ chars) 0 := by
  conv => rhs; rw [← significantDigits_append_zeros chars, ← List.append_assoc, Nat.ofDigitChars_append,
    Nat.ofDigitChars_replicate_zero]
  exact Nat.mul_comm _ _

theorem significantDigits_length_le (chars : List Char) :
    (significantDigits chars).length ≤ chars.length := (List.rdropWhile_prefix _ chars).length_le

theorem mem_significantDigits {chars : List Char} {c : Char} (h : c ∈ significantDigits chars) :
    c ∈ chars := (List.rdropWhile_prefix _ chars).subset h

theorem significantDigits_concat_zero (chars : List Char) :
    significantDigits (chars ++ ['0']) = significantDigits chars :=
  List.rdropWhile_concat_pos _ _ _ (by decide)

theorem significantDigits_concat {c : Char} (hc : c ≠ '0') (chars : List Char) :
    significantDigits (chars ++ [c]) = chars ++ [c] :=
  List.rdropWhile_concat_neg _ _ _ fun h => hc (eq_of_beq h)

theorem significantDigits_replicate_zero (n : ℕ) : significantDigits (List.replicate n '0') = [] := by
  induction n with
  | zero => rfl
  | succ n ih => rw [List.replicate_succ', significantDigits_concat_zero, ih]

/-- What follows the digits before a point. -/
def pointed (fraction : List Char) : List Char := if fraction = [] then [] else '.' :: fraction

/-- A text without the zeros its fraction ends in, nor a point at its end. -/
def trimFraction (chars : List Char) : List Char :=
  if '.' ∈ chars then (significantDigits chars).rdropWhile fun c => c == '.' else chars

/-- Zeros before a point stay. -/
theorem significantDigits_point (whole fraction : List Char) :
    significantDigits (whole ++ '.' :: fraction) = whole ++ '.' :: significantDigits fraction := by
  induction fraction using List.reverseRecOn with
  | nil => exact significantDigits_concat (by decide) whole
  | append_singleton fraction c ih =>
    rw [← List.cons_append, ← List.append_assoc]
    by_cases hc : c = '0'
    · rw [hc, significantDigits_concat_zero, significantDigits_concat_zero]
      exact ih
    · rw [significantDigits_concat hc, significantDigits_concat hc, List.append_assoc]
      rfl

theorem trimFraction_whole {whole : List Char} (h : '.' ∉ whole) : trimFraction whole = whole :=
  if_neg h

theorem trimFraction_point {whole fraction : List Char} (hwhole : '.' ∉ whole)
    (hfraction : '.' ∉ fraction) :
    trimFraction (whole ++ '.' :: fraction) = whole ++ pointed (significantDigits fraction) := by
  unfold trimFraction pointed
  rw [if_pos (List.mem_append_right _ List.mem_cons_self), significantDigits_point]
  split_ifs with hnone
  · have hlast : ∀ hne : whole ≠ [], ¬(whole.getLast hne == '.') = true := fun hne h =>
      hwhole (eq_of_beq h ▸ List.getLast_mem hne)
    rw [hnone, List.rdropWhile_concat_pos _ _ _ (by decide), List.append_nil]
    exact List.rdropWhile_eq_self_iff.mpr hlast
  · refine List.rdropWhile_eq_self_iff.mpr fun hne h => ?_
    have hmem : (whole ++ '.' :: significantDigits fraction).getLast hne ∈ significantDigits fraction := by
      rw [List.getLast_append_of_ne_nil _ (by simp), List.getLast_cons hnone]
      exact List.getLast_mem hnone
    exact hfraction (mem_significantDigits (eq_of_beq h ▸ hmem))

namespace Decimal

/-! ## Fixed notation -/

/-- The digits before the point. -/
def wholeChars (digits : List Char) (place : ℤ) : List Char :=
  if place ≤ 0 then ['0']
  else if digits.length ≤ place then digits ++ List.replicate (place - digits.length).toNat '0'
  else digits.take place.toNat

/-- The digits behind the point. -/
def fractionChars (digits : List Char) (place : ℤ) : List Char :=
  if place ≤ 0 then List.replicate (-place).toNat '0' ++ digits else digits.drop place.toNat

/-- The sign of a number. -/
def signChars (d : Decimal) : List Char := if d.negative then ['-'] else []

/-- `format(d, "f")`. -/
def fixedChars (d : Decimal) : List Char :=
  d.signChars ++
    if d.coefficient = 0 ∧ 0 < d.exponent then ['0'] else mantissa d.digits d.leftDigits

/-- The fixed notation without the zeros that end a fraction. -/
def plainChars (d : Decimal) : List Char := trimFraction d.fixedChars

theorem mantissa_eq {digits : List Char} (hdigits : digits ≠ []) (place : ℤ) :
    mantissa digits place = wholeChars digits place ++ pointed (fractionChars digits place) := by
  unfold mantissa wholeChars fractionChars pointed
  split_ifs with hlow hnone hhigh hnone hnone
  · exact absurd (List.append_eq_nil_iff.mp hnone).2 hdigits
  · rfl
  · rw [List.append_nil]
  · refine absurd (List.drop_eq_nil_of_le ?_) hnone
    omega
  · rw [List.drop_eq_nil_iff] at hnone
    omega
  · rfl

theorem digits_ne_nil (d : Decimal) : d.digits ≠ [] := Nat.toDigits_ne_nil

theorem digits_isDigit (d : Decimal) : ∀ c ∈ d.digits, c.isDigit = true := fun _ hc =>
  isDigit_of_mem_toDigits hc

theorem wholeChars_isDigit {digits : List Char} (h : ∀ c ∈ digits, c.isDigit = true) (place : ℤ) :
    ∀ c ∈ wholeChars digits place, c.isDigit = true := by
  intro c hc
  unfold wholeChars at hc
  split_ifs at hc
  · rw [List.mem_singleton.mp hc]
    decide
  · rcases List.mem_append.mp hc with hc | hc
    · exact h c hc
    · rw [List.eq_of_mem_replicate hc]
      decide
  · exact h c (List.mem_of_mem_take hc)

theorem fractionChars_isDigit {digits : List Char} (h : ∀ c ∈ digits, c.isDigit = true) (place : ℤ) :
    ∀ c ∈ fractionChars digits place, c.isDigit = true := by
  intro c hc
  unfold fractionChars at hc
  split_ifs at hc
  · rcases List.mem_append.mp hc with hc | hc
    · rw [List.eq_of_mem_replicate hc]
      decide
    · exact h c hc
  · exact h c (List.mem_of_mem_drop hc)

theorem no_point {digits : List Char} (h : ∀ c ∈ digits, c.isDigit = true) : '.' ∉ digits :=
  fun hc => absurd (h '.' hc) (by decide)

theorem no_point_sign (d : Decimal) : '.' ∉ d.signChars := by
  unfold signChars
  cases d.negative <;> decide

/-- Sign, digits before the point and what is left of the fraction. -/
theorem plainChars_eq {d : Decimal} (h : ¬(d.coefficient = 0 ∧ 0 < d.exponent)) :
    d.plainChars = d.signChars ++ (wholeChars d.digits d.leftDigits ++
      pointed (significantDigits (fractionChars d.digits d.leftDigits))) := by
  have hwhole : '.' ∉ d.signChars ++ wholeChars d.digits d.leftDigits := fun hc =>
    (List.mem_append.mp hc).elim d.no_point_sign (no_point (wholeChars_isDigit d.digits_isDigit _))
  have hfraction := no_point (fractionChars_isDigit d.digits_isDigit d.leftDigits)
  unfold plainChars fixedChars
  rw [if_neg h, mantissa_eq d.digits_ne_nil, ← List.append_assoc, ← List.append_assoc]
  by_cases hnone : fractionChars d.digits d.leftDigits = []
  · rw [hnone]
    exact trimFraction_whole (by rwa [pointed, if_pos rfl, List.append_nil])
  · rw [pointed, if_neg hnone]
    exact trimFraction_point hwhole hfraction

/-- A zero has one digit. -/
theorem plainChars_zero {d : Decimal} (h : d.coefficient = 0) : d.plainChars = d.signChars ++ ['0'] := by
  have hdigits : d.digits = ['0'] := by rw [digits, h]; rfl
  by_cases hexponent : 0 < d.exponent
  · unfold plainChars fixedChars
    rw [if_pos ⟨h, hexponent⟩]
    refine trimFraction_whole fun hc => ?_
    rcases List.mem_append.mp hc with hc | hc
    · exact d.no_point_sign hc
    · exact absurd hc (by decide)
  · have hplace : d.leftDigits = d.exponent + 1 := by rw [leftDigits, hdigits]; rfl
    have hparts : wholeChars ['0'] (d.exponent + 1) = ['0'] ∧
        significantDigits (fractionChars ['0'] (d.exponent + 1)) = [] := by
      unfold wholeChars fractionChars
      by_cases hone : d.exponent = 0
      · rw [hone]
        decide
      · rw [if_pos (by omega), if_pos (by omega), significantDigits_concat_zero,
          significantDigits_replicate_zero]
        exact ⟨rfl, rfl⟩
    rw [plainChars_eq fun hboth => hexponent hboth.2, hdigits, hplace, hparts.1, hparts.2]
    rfl

/-! ## Leading digits -/

/-- A number but zero starts with another digit. -/
theorem head_toDigits {n : ℕ} (h : n ≠ 0) : ∃ c cs, Nat.toDigits 10 n = c :: cs ∧ c ≠ '0' := by
  induction n using Nat.base_induction 10 (by decide) with
  | single n hn =>
    exact ⟨n.digitChar, [], Nat.toDigits_of_lt_base hn, fun hzero => h (Nat.digitChar_eq_zero.mp hzero)⟩
  | digit m k hk hm ih =>
    obtain ⟨c, cs, hdigits, hc⟩ := ih (Nat.ne_of_gt hm)
    refine ⟨c, cs ++ Nat.toDigits 10 k, ?_, hc⟩
    rw [← Nat.toDigits_append_toDigits (by decide) hm hk, hdigits, List.cons_append]

theorem digitChar_of_isDigit {c : Char} (h : c.isDigit = true) :
    c.toNat - 48 < 10 ∧ (c.toNat - 48).digitChar = c := by
  simp only [Char.isDigit, Bool.and_eq_true, decide_eq_true_eq] at h
  have hlow : 48 ≤ c.toNat := UInt32.le_iff_toNat_le.mp h.1
  have hhigh : c.toNat ≤ 57 := UInt32.le_iff_toNat_le.mp h.2
  have hchar : Char.ofNat c.toNat = c := Char.ofNat_toNat c
  refine ⟨by omega, ?_⟩
  conv => rhs; rw [← hchar]
  generalize c.toNat = n at hlow hhigh
  interval_cases n <;> rfl

/-- Digits that start with no zero are those of their number. -/
theorem toDigits_ofDigitChars {digits : List Char} (h : ∀ c ∈ digits, c.isDigit = true)
    (hhead : ∃ c cs, digits = c :: cs ∧ c ≠ '0') :
    Nat.toDigits 10 (Nat.ofDigitChars 10 digits 0) = digits := by
  induction digits using List.reverseRecOn with
  | nil =>
    obtain ⟨c, cs, hnil, -⟩ := hhead
    nomatch hnil
  | append_singleton front last ih =>
    obtain ⟨hlt, hlast⟩ := digitChar_of_isDigit (h last (List.mem_append_right _ List.mem_cons_self))
    have hsingle : Nat.toDigits 10 (last.toNat - 48) = [last] := by
      rw [Nat.toDigits_of_lt_base hlt, hlast]
    have hvalue : Nat.ofDigitChars 10 (front ++ [last]) 0 =
        10 * Nat.ofDigitChars 10 front 0 + (last.toNat - 48) := by
      rw [Nat.ofDigitChars_append, Nat.ofDigitChars_cons]
      rfl
    cases front with
    | nil =>
      rw [hvalue, Nat.ofDigitChars_nil, Nat.mul_zero, Nat.zero_add]
      exact hsingle
    | cons c cs =>
      have hc : c ≠ '0' := by
        obtain ⟨c', cs', hsame, hc'⟩ := hhead
        rw [List.cons_append, List.cons.injEq] at hsame
        exact hsame.1 ▸ hc'
      have hfront := ih (fun c hc => h c (List.mem_append_left _ hc)) ⟨c, cs, rfl, hc⟩
      have hpos : 0 < Nat.ofDigitChars 10 (c :: cs) 0 := by
        refine Nat.pos_of_ne_zero fun hzero => ?_
        rw [hzero] at hfront
        exact hc (List.cons.inj hfront).1.symm
      rw [hvalue, ← Nat.toDigits_append_toDigits (by decide) hpos hlt, hfront, hsingle]

/-! ## Equal numbers -/

/-- The same number with one more zero. -/
def lengthen (d : Decimal) : Decimal := ⟨d.negative, 10 * d.coefficient, d.exponent - 1⟩

theorem value_lengthen (d : Decimal) : d.lengthen.value = d.value := by
  have hten : (10 : ℚ) ^ d.exponent = 10 * 10 ^ (d.exponent - 1) := by
    rw [← zpow_one_add₀ (by norm_num)]
    congr 1
    omega
  unfold value signed lengthen
  rw [hten]
  cases d.negative with
  | true =>
    simp only [if_true]
    push_cast
    ring
  | false =>
    simp only [Bool.false_eq_true, if_false]
    push_cast
    ring

theorem digits_lengthen {d : Decimal} (h : d.coefficient ≠ 0) : d.lengthen.digits = d.digits ++ ['0'] := by
  have happend := Nat.toDigits_append_toDigits (b := 10) (d := 0) (by decide) (Nat.pos_of_ne_zero h) (by decide)
  exact happend.symm

/-- A further zero is cut off again. -/
theorem plainChars_lengthen (d : Decimal) : d.lengthen.plainChars = d.plainChars := by
  by_cases h : d.coefficient = 0
  · have hzero : d.lengthen.coefficient = 0 := by show 10 * d.coefficient = 0; omega
    rw [plainChars_zero h, plainChars_zero hzero]
    rfl
  · have hten : d.lengthen.coefficient ≠ 0 := by show 10 * d.coefficient ≠ 0; omega
    have hplace : d.lengthen.leftDigits = d.leftDigits := by
      unfold leftDigits
      rw [digits_lengthen h, List.length_append]
      show d.exponent - 1 + ((d.digits.length + 1 : ℕ) : ℤ) = _
      omega
    have hwhole : wholeChars (d.digits ++ ['0']) d.leftDigits = wholeChars d.digits d.leftDigits := by
      unfold wholeChars
      rw [List.length_append, List.length_singleton]
      split_ifs
      · rfl
      · have hcount : (d.leftDigits - d.digits.length).toNat =
            (d.leftDigits - (d.digits.length + 1 : ℕ)).toNat + 1 := by omega
        rw [hcount, List.replicate_succ, List.append_assoc]
        rfl
      · omega
      · have hcount : d.leftDigits.toNat = d.digits.length := by omega
        have hnone : (d.leftDigits - d.digits.length).toNat = 0 := by omega
        rw [hcount, hnone, List.take_left]
        exact (List.append_nil _).symm
      · rw [List.take_append_of_le_length (by omega)]
    have hfraction : significantDigits (fractionChars (d.digits ++ ['0']) d.leftDigits) =
        significantDigits (fractionChars d.digits d.leftDigits) := by
      unfold fractionChars
      split_ifs
      · rw [← List.append_assoc, significantDigits_concat_zero]
      · rcases Nat.lt_or_ge d.digits.length d.leftDigits.toNat with hlt | hle
        · rw [List.drop_eq_nil_of_le hlt.le, List.drop_eq_nil_of_le]
          rwa [List.length_append]
        · rw [List.drop_append_of_le_length hle, significantDigits_concat_zero]
    rw [plainChars_eq fun hboth => hten hboth.1, plainChars_eq fun hboth => h hboth.1, hplace,
      digits_lengthen h, hwhole, hfraction]
    rfl

/-- The same number with more zeros. -/
def extended (d : Decimal) (zeros : ℕ) : Decimal :=
  ⟨d.negative, d.coefficient * 10 ^ zeros, d.exponent - zeros⟩

theorem extended_succ (d : Decimal) (zeros : ℕ) : d.extended (zeros + 1) = (d.extended zeros).lengthen := by
  unfold extended lengthen
  rw [pow_succ, ← mul_assoc, mul_comm _ 10, Nat.cast_succ, sub_add_eq_sub_sub]

theorem value_extended (d : Decimal) (zeros : ℕ) : (d.extended zeros).value = d.value := by
  induction zeros with
  | zero => simp [extended]
  | succ zeros ih => rw [extended_succ, value_lengthen, ih]

theorem plainChars_extended (d : Decimal) (zeros : ℕ) : (d.extended zeros).plainChars = d.plainChars := by
  induction zeros with
  | zero => simp [extended]
  | succ zeros ih => rw [extended_succ, plainChars_lengthen, ih]

/-- Numbers of one sign and one exponent are told apart by their values. -/
theorem eq_of_value {d e : Decimal} (hsign : d.negative = e.negative) (hexponent : d.exponent = e.exponent)
    (h : d.value = e.value) : d = e := by
  obtain ⟨negative, c, exponent⟩ := d
  obtain ⟨negative', c', exponent'⟩ := e
  dsimp only at hsign hexponent
  subst hsign hexponent
  have hten : (10 : ℚ) ^ exponent ≠ 0 := zpow_ne_zero _ (by norm_num)
  have hsigned := mul_right_cancel₀ hten h
  have hc : c = c' := by
    cases negative with
    | true => simpa [signed] using hsigned
    | false => simpa [signed] using hsigned
  rw [hc]

theorem plainChars_of_value {d e : Decimal} (hsign : d.negative = e.negative) (h : d.value = e.value) :
    d.plainChars = e.plainChars := by
  have hsame : d.extended (d.exponent - min d.exponent e.exponent).toNat =
      e.extended (e.exponent - min d.exponent e.exponent).toNat := by
    refine eq_of_value hsign ?_ (by rw [value_extended, value_extended, h])
    show d.exponent - ((d.exponent - min d.exponent e.exponent).toNat : ℤ) =
      e.exponent - ((e.exponent - min d.exponent e.exponent).toNat : ℤ)
    omega
  rw [← d.plainChars_extended, hsame, plainChars_extended]

/-! ## Reading back -/

theorem readMantissa_pointed {whole fraction : List Char} (hwhole : ∀ c ∈ whole, c.isDigit = true) :
    readMantissa (whole ++ pointed fraction) =
      (Nat.ofDigitChars 10 (whole ++ fraction) 0, fraction.length) := by
  unfold pointed
  split_ifs with hnone
  · rw [hnone, List.append_nil, readMantissa_digits hwhole]
    rfl
  · exact readMantissa_point hwhole

/-- All digits of a fixed notation make up the coefficient. -/
theorem fixed_parts {d : Decimal} (h : d.exponent ≤ 0) :
    Nat.ofDigitChars 10
        (wholeChars d.digits d.leftDigits ++ fractionChars d.digits d.leftDigits) 0 = d.coefficient ∧
      (fractionChars d.digits d.leftDigits).length = (-d.exponent).toNat := by
  have hplace : d.leftDigits ≤ d.digits.length := by unfold leftDigits; omega
  have hread := readMantissa_mantissa d.digits_isDigit hplace
  rw [mantissa_eq d.digits_ne_nil, readMantissa_pointed (wholeChars_isDigit d.digits_isDigit _),
    Prod.mk.injEq] at hread
  refine ⟨hread.1.trans Nat.ofDigitChars_ten_toDigits, hread.2.trans ?_⟩
  unfold leftDigits
  omega

theorem readChars_pointed {d : Decimal} {whole fraction : List Char}
    (hwhole : ∀ c ∈ whole, c.isDigit = true) (hfraction : ∀ c ∈ fraction, c.isDigit = true) :
    readChars (d.signChars ++ (whole ++ pointed fraction)) =
      ⟨d.negative, Nat.ofDigitChars 10 (whole ++ fraction) 0, -fraction.length⟩ := by
  have hmem : ∀ c ∈ whole ++ pointed fraction, c.isDigit = true ∨ c = '.' := by
    intro c hc
    unfold pointed at hc
    rcases List.mem_append.mp hc with hc | hc
    · exact .inl (hwhole c hc)
    · split_ifs at hc
      · exact absurd hc List.not_mem_nil
      · rcases List.mem_cons.mp hc with rfl | hc
        · exact .inr rfl
        · exact .inl (hfraction c hc)
  have hother : ∀ c ∈ whole ++ pointed fraction, c ≠ 'E' ∧ c ≠ '-' := by
    intro c hc
    rcases hmem c hc with h | rfl
    · exact ⟨fun heq => absurd (heq ▸ h) (by decide), fun heq => absurd (heq ▸ h) (by decide)⟩
    · decide
  have hhead : ((d.signChars ++ (whole ++ pointed fraction)).head? = some '-') ↔ d.negative = true := by
    unfold signChars
    cases d.negative with
    | true => simp
    | false =>
      refine iff_of_false (fun h => ?_) nofun
      rw [if_neg (by decide), List.nil_append] at h
      exact (hother '-' (List.mem_of_mem_head? h)).2 rfl
  have hbody : (if (d.signChars ++ (whole ++ pointed fraction)).head? = some '-' then
      (d.signChars ++ (whole ++ pointed fraction)).tail else d.signChars ++ (whole ++ pointed fraction)) =
      whole ++ pointed fraction := by
    simp only [hhead]
    unfold signChars
    cases d.negative <;> rfl
  have hplain : ∀ c ∈ whole ++ pointed fraction, decide (c ≠ 'E') = true := fun c hc =>
    decide_eq_true (hother c hc).1
  unfold readChars
  dsimp only
  rw [hbody, List.takeWhile_eq_self_iff.mpr hplain, List.dropWhile_eq_nil_iff.mpr hplain,
    readMantissa_pointed hwhole]
  have hexponent : readExponent [] = 0 := rfl
  simp only [hhead, hexponent, zero_sub, Bool.decide_eq_true]

/-- A plain text is read back without the zeros it dropped. -/
theorem extended_readChars_plainChars {d : Decimal} (h : d.exponent ≤ 0) :
    ∃ zeros, (readChars d.plainChars).extended zeros = d := by
  obtain ⟨hvalue, hlength⟩ := fixed_parts h
  have hsignificant := fractionChars_isDigit d.digits_isDigit d.leftDigits
  have hdropped := ofDigitChars_significantDigits (wholeChars d.digits d.leftDigits)
    (fractionChars d.digits d.leftDigits)
  have hle := significantDigits_length_le (fractionChars d.digits d.leftDigits)
  refine ⟨(fractionChars d.digits d.leftDigits).length -
    (significantDigits (fractionChars d.digits d.leftDigits)).length, ?_⟩
  rw [plainChars_eq fun hboth => absurd hboth.2 (by omega),
    readChars_pointed (wholeChars_isDigit d.digits_isDigit _)
      fun c hc => hsignificant c (mem_significantDigits hc)]
  unfold extended
  dsimp only
  rw [hdropped, hvalue, Nat.cast_sub hle, hlength]
  obtain ⟨negative, c, exponent⟩ := d
  dsimp only at h ⊢
  congr 1
  omega

/-- A plain text is read back with its value. -/
theorem value_readChars_plainChars (d : Decimal) : (readChars d.plainChars).value = d.value := by
  have hlow : (d.extended d.exponent.toNat).exponent ≤ 0 := by
    show d.exponent - (d.exponent.toNat : ℤ) ≤ 0
    omega
  obtain ⟨zeros, hread⟩ := extended_readChars_plainChars hlow
  rw [plainChars_extended] at hread
  rw [← value_extended _ zeros, hread, value_extended]

/-- Numbers of one sign have one plain text exactly when they are equal. -/
theorem plainChars_eq_iff {d e : Decimal} (hsign : d.negative = e.negative) :
    d.plainChars = e.plainChars ↔ d.value = e.value := by
  refine ⟨fun h => ?_, plainChars_of_value hsign⟩
  rw [← value_readChars_plainChars d, h, value_readChars_plainChars]

end Decimal

end AccountingPlatform.Lib
