/-
  Texts of decimal numbers.

  `Decimal.text` writes a number the way `str` does: the digits with a point while the
  exponent is not positive and the number not too small, otherwise one digit before the point
  and an exponent. `readChars` reads such a text back (`readChars_chars`), so a text
  determines sign, coefficient and exponent, trailing zeros included.
-/
import AccountingPlatform.Lib.Decimals
import Mathlib.Data.List.TakeWhile

namespace AccountingPlatform.Lib

namespace Decimal

/-! ## Writing -/

def digits (d : Decimal) : List Char := Nat.toDigits 10 d.coefficient

/-- Digits of the number left of the decimal point. -/
def leftDigits (d : Decimal) : ℤ := d.exponent + d.digits.length

/-- Digits of the mantissa left of the decimal point. -/
def dotPlace (d : Decimal) : ℤ := if d.exponent ≤ 0 ∧ -6 < d.leftDigits then d.leftDigits else 1

/-- Digits with a point at a place. -/
def mantissa (digits : List Char) (place : ℤ) : List Char :=
  if place ≤ 0 then '0' :: '.' :: (List.replicate (-place).toNat '0' ++ digits)
  else if digits.length ≤ place then digits ++ List.replicate (place - digits.length).toNat '0'
  else digits.take place.toNat ++ '.' :: digits.drop place.toNat

/-- `"E%+d"`. -/
def exponentChars (n : ℤ) : List Char :=
  'E' :: (if n < 0 then '-' else '+') :: Nat.toDigits 10 n.natAbs

def chars (d : Decimal) : List Char :=
  (if d.negative then ['-'] else []) ++
    (mantissa d.digits d.dotPlace ++
      if d.leftDigits = d.dotPlace then [] else exponentChars (d.leftDigits - d.dotPlace))

/-- `str(d)`. -/
def text (d : Decimal) : String := String.ofList d.chars

/-! ## Reading back -/

/-- The digits before and after a point as one number, and how many stand after it. -/
def readMantissa (chars : List Char) : ℕ × ℕ :=
  let whole := chars.takeWhile (· ≠ '.')
  let fraction := (chars.dropWhile (· ≠ '.')).tail
  (Nat.ofDigitChars 10 (whole ++ fraction) 0, fraction.length)

def readExponent (chars : List Char) : ℤ :=
  let n : ℤ := Nat.ofDigitChars 10 (chars.drop 2) 0
  if chars[1]? = some '-' then -n else n

def readChars (chars : List Char) : Decimal :=
  let negative := chars.head? = some '-'
  let body := if negative then chars.tail else chars
  let mantissa := readMantissa (body.takeWhile (· ≠ 'E'))
  ⟨negative, mantissa.1, readExponent (body.dropWhile (· ≠ 'E')) - mantissa.2⟩

theorem isDigit_of_mem_toDigits {n : ℕ} {c : Char} (h : c ∈ Nat.toDigits 10 n) : c.isDigit = true :=
  Nat.isDigit_of_mem_toDigits (by decide) (by decide) h

/-- Up to the first point nothing of a digit run is lost. -/
theorem takeWhile_digits {stop : Char} (hstop : stop.isDigit = false) {digits : List Char}
    (h : ∀ c ∈ digits, c.isDigit = true) (rest : List Char) :
    (digits ++ stop :: rest).takeWhile (· ≠ stop) = digits ∧
      (digits ++ stop :: rest).dropWhile (· ≠ stop) = stop :: rest := by
  have hne : ∀ c ∈ digits, decide (c ≠ stop) = true := by
    intro c hc
    refine decide_eq_true fun heq => ?_
    rw [← heq, h c hc] at hstop
    nomatch hstop
  constructor
  · rw [List.takeWhile_append_of_pos hne]
    simp
  · rw [List.dropWhile_append_of_pos hne]
    simp

theorem readMantissa_digits {digits : List Char} (h : ∀ c ∈ digits, c.isDigit = true) :
    readMantissa digits = (Nat.ofDigitChars 10 digits 0, 0) := by
  have hne : ∀ c ∈ digits, decide (c ≠ '.') = true := by
    intro c hc
    refine decide_eq_true fun heq => ?_
    have hdigit := h c hc
    rw [heq] at hdigit
    nomatch hdigit
  unfold readMantissa
  rw [List.takeWhile_eq_self_iff.mpr hne, List.dropWhile_eq_nil_iff.mpr hne]
  simp

theorem readMantissa_point {whole fraction : List Char} (h : ∀ c ∈ whole, c.isDigit = true) :
    readMantissa (whole ++ '.' :: fraction) =
      (Nat.ofDigitChars 10 (whole ++ fraction) 0, fraction.length) := by
  obtain ⟨htake, hdrop⟩ := takeWhile_digits (by decide : '.'.isDigit = false) h fraction
  unfold readMantissa
  rw [htake, hdrop]
  rfl

/-- A mantissa gives back its digits and the place of its point. -/
theorem readMantissa_mantissa {digits : List Char} (h : ∀ c ∈ digits, c.isDigit = true) {place : ℤ}
    (hplace : place ≤ digits.length) :
    readMantissa (mantissa digits place) =
      (Nat.ofDigitChars 10 digits 0, (digits.length - place).toNat) := by
  unfold mantissa
  split_ifs with hlow hhigh
  · have hzero : ∀ c ∈ ['0'], c.isDigit = true := by simp
    rw [← List.singleton_append, readMantissa_point hzero]
    simp only [List.length_append, List.length_replicate, Prod.mk.injEq]
    refine ⟨?_, by omega⟩
    rw [Nat.ofDigitChars_append, Nat.ofDigitChars_append, Nat.ofDigitChars_replicate_zero]
    simp [Nat.ofDigitChars_cons]
  · obtain rfl : place = digits.length := by omega
    simp [readMantissa_digits h]
  · rw [readMantissa_point fun c hc => h c (List.mem_of_mem_take hc)]
    simp only [List.take_append_drop, List.length_drop, Prod.mk.injEq, true_and]
    omega

theorem readExponent_exponentChars (n : ℤ) : readExponent (exponentChars n) = n := by
  have hdigits : (exponentChars n).drop 2 = Nat.toDigits 10 n.natAbs := rfl
  have hsign : (exponentChars n)[1]? = some (if n < 0 then '-' else '+') := rfl
  unfold readExponent
  rw [hdigits, hsign, Nat.ofDigitChars_ten_toDigits]
  dsimp only
  rcases lt_or_ge n 0 with h | h
  · rw [if_pos h, if_pos rfl]
    omega
  · rw [if_neg (not_lt.mpr h), if_neg (by decide)]
    omega

/-- A mantissa holds digits and a point. -/
theorem mem_mantissa {digits : List Char} (h : ∀ c ∈ digits, c.isDigit = true) {place : ℤ} {c : Char}
    (hc : c ∈ mantissa digits place) : c.isDigit = true ∨ c = '.' := by
  unfold mantissa at hc
  split_ifs at hc
  · simp only [List.mem_cons, List.mem_append, List.mem_replicate] at hc
    rcases hc with rfl | rfl | ⟨-, rfl⟩ | hc
    · exact .inl (by decide)
    · exact .inr rfl
    · exact .inl (by decide)
    · exact .inl (h c hc)
  · rcases List.mem_append.mp hc with hc | hc
    · exact .inl (h c hc)
    · rw [(List.mem_replicate.mp hc).2]
      exact .inl (by decide)
  · rcases List.mem_append.mp hc with hc | hc
    · exact .inl (h c (List.mem_of_mem_take hc))
    · rcases List.mem_cons.mp hc with rfl | hc
      · exact .inr rfl
      · exact .inl (h c (List.mem_of_mem_drop hc))

theorem mantissa_ne_nil {digits : List Char} (h : digits ≠ []) (place : ℤ) : mantissa digits place ≠ [] := by
  unfold mantissa
  split_ifs <;> simp [h]

theorem dotPlace_le (d : Decimal) : d.dotPlace ≤ d.digits.length := by
  have hpos : 0 < d.digits.length := List.length_pos_of_ne_nil Nat.toDigits_ne_nil
  unfold dotPlace
  split
  · next h =>
    have := h.1
    unfold leftDigits
    omega
  · omega

/-- A written number is read back. -/
theorem readChars_chars (d : Decimal) : readChars d.chars = d := by
  have hdigits : ∀ c ∈ d.digits, c.isDigit = true := fun c hc => isDigit_of_mem_toDigits hc
  have hmem {c : Char} (hc : c ∈ mantissa d.digits d.dotPlace) : c.isDigit = true ∨ c = '.' :=
    mem_mantissa hdigits hc
  have hnoE : ∀ c ∈ mantissa d.digits d.dotPlace, decide (c ≠ 'E') = true := by
    intro c hc
    rcases hmem hc with h | rfl
    · refine decide_eq_true fun heq => ?_
      rw [heq] at h
      nomatch h
    · decide
  have hne : mantissa d.digits d.dotPlace ≠ [] := mantissa_ne_nil Nat.toDigits_ne_nil _
  have hhead : (d.chars.head? = some '-') ↔ d.negative = true := by
    unfold chars
    cases d.negative with
    | true => simp
    | false =>
      refine iff_of_false (fun h => ?_) nofun
      rw [if_neg (by decide), List.nil_append,
        List.head?_append_of_ne_nil _ hne] at h
      rcases hmem (List.mem_of_mem_head? h) with hdigit | hpoint
      · nomatch hdigit
      · nomatch hpoint
  have hbody : (if d.chars.head? = some '-' then d.chars.tail else d.chars) =
      mantissa d.digits d.dotPlace ++
        if d.leftDigits = d.dotPlace then [] else exponentChars (d.leftDigits - d.dotPlace) := by
    simp only [hhead]
    unfold chars
    cases d.negative <;> rfl
  have htake : (mantissa d.digits d.dotPlace ++
      if d.leftDigits = d.dotPlace then [] else exponentChars (d.leftDigits - d.dotPlace)).takeWhile
        (· ≠ 'E') = mantissa d.digits d.dotPlace := by
    rw [List.takeWhile_append_of_pos hnoE]
    split <;> simp [exponentChars]
  have hdrop : (mantissa d.digits d.dotPlace ++
      if d.leftDigits = d.dotPlace then [] else exponentChars (d.leftDigits - d.dotPlace)).dropWhile
        (· ≠ 'E') =
      if d.leftDigits = d.dotPlace then [] else exponentChars (d.leftDigits - d.dotPlace) := by
    rw [List.dropWhile_append_of_pos hnoE]
    split <;> simp [exponentChars]
  have hexponent : readExponent
      (if d.leftDigits = d.dotPlace then [] else exponentChars (d.leftDigits - d.dotPlace)) =
      d.leftDigits - d.dotPlace := by
    split
    · next h => rw [h, sub_self]; rfl
    · exact readExponent_exponentChars _
  have hplace := d.dotPlace_le
  unfold readChars
  dsimp only
  rw [hbody, htake, hdrop, hexponent, readMantissa_mantissa hdigits hplace]
  have hleft : d.leftDigits = d.exponent + d.digits.length := rfl
  have hcoefficient : Nat.ofDigitChars 10 d.digits 0 = d.coefficient := Nat.ofDigitChars_ten_toDigits
  have hexp : d.leftDigits - d.dotPlace - ((d.digits.length - d.dotPlace).toNat : ℤ) = d.exponent := by
    omega
  simp only [hhead, hcoefficient, hexp, Bool.decide_eq_true]

theorem text_injective : Function.Injective text := by
  intro d e h
  rw [← readChars_chars d, ← readChars_chars e, String.ofList_injective h]

end Decimal

end AccountingPlatform.Lib
