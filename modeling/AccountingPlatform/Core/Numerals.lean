/-
  Numbers in texts, as `int(text)` reads them: white space around them, a sign, decimal digits
  of any script and single underscores between digits.
-/
import AccountingPlatform.Core.CalendarDate
import AccountingPlatform.Core.PostingLedger

namespace AccountingPlatform.Core

/-! ## Digits -/

/-- The value of a decimal digit. -/
def decimalValue (c : Char) : Option ℕ :=
  (decimalZeros.find? fun first => first ≤ c.toNat && c.toNat < first + 10).map fun first =>
    c.toNat - first

/-- Digits with single underscores between them, after a number read so far. -/
def underscoredDigits : Bool → ℕ → List Char → Option ℕ
  | afterDigit, n, [] => if afterDigit then some n else none
  | afterDigit, n, c :: cs =>
    if c = '_' then
      if afterDigit then underscoredDigits false n cs else none
    else
      match decimalValue c with
      | some d => underscoredDigits true (10 * n + d) cs
      | none => none

/-- `sys.get_int_max_str_digits()`. -/
def maxIntDigits : ℕ := 4300

/-- `int(text)`; nothing where it raises `ValueError`. -/
def parseInt (text : String) : Option ℤ :=
  let chars := (strip text).toList
  let digits := if chars.head? = some '+' ∨ chars.head? = some '-' then chars.tail else chars
  if (digits.filter fun c => c ≠ '_').length ≤ maxIntDigits then
    (underscoredDigits false 0 digits).map fun n => if chars.head? = some '-' then -(n : ℤ) else n
  else none

/-! ## Reading back -/

theorem strip_of_no_space {text : String} (h : ∀ c ∈ text.toList, isSpace c = false) :
    strip text = text := by
  have hdrop : ∀ {chars : List Char}, (∀ c ∈ chars, isSpace c = false) →
      chars.dropWhile isSpace = chars := by
    intro chars hchars
    cases chars with
    | nil => rfl
    | cons c chars => rw [List.dropWhile_cons_of_neg (by rw [hchars c List.mem_cons_self]; decide)]
  rw [strip, hdrop h, hdrop fun c hc => h c (List.mem_reverse.mp hc), List.reverse_reverse,
    String.ofList_toList]

/-- The digits `0` to `9`. -/
def IsPlainDigit (c : Char) : Prop := 48 ≤ c.toNat ∧ c.toNat ≤ 57

theorem IsPlainDigit.decimalValue_eq {c : Char} (h : IsPlainDigit c) :
    decimalValue c = some (c.toNat - 48) := by
  have hrange : (48 ≤ c.toNat && c.toNat < 48 + 10) = true := by
    simp only [Bool.and_eq_true, decide_eq_true_eq]
    exact ⟨h.1, by have := h.2; omega⟩
  have hzeros : decimalZeros = 48 :: decimalZeros.tail := rfl
  rw [decimalValue, hzeros, List.find?_cons_of_pos
    (p := fun first => first ≤ c.toNat && c.toNat < first + 10) hrange]
  rfl

theorem IsPlainDigit.isSpace_eq {c : Char} (h : IsPlainDigit c) : isSpace c = false := by
  obtain ⟨hlow, hhigh⟩ := h
  simp only [isSpace, Bool.or_eq_false_iff, Bool.and_eq_false_iff, decide_eq_false_iff_not,
    beq_eq_false_iff_ne, ne_eq]
  omega

theorem IsPlainDigit.ne {c d : Char} (h : IsPlainDigit c) (hd : ¬IsPlainDigit d) : c ≠ d :=
  fun hcd => hd (hcd ▸ h)

theorem underscoredDigits_plain {chars : List Char} (h : ∀ c ∈ chars, IsPlainDigit c) (n : ℕ) :
    underscoredDigits true n chars = some (Nat.ofDigitChars 10 chars n) := by
  induction chars generalizing n with
  | nil => rfl
  | cons c chars ih =>
    have hc := h c List.mem_cons_self
    rw [underscoredDigits, if_neg (hc.ne (by unfold IsPlainDigit; decide)), hc.decimalValue_eq,
      Nat.ofDigitChars_cons]
    exact ih (fun d hd => h d (List.mem_cons_of_mem c hd)) _

/-- A printed number is read back. -/
theorem parseInt_toString {n : ℕ} (h : n < 10 ^ maxIntDigits) : parseInt (toString n) = some (n : ℤ) := by
  have hdigits : ∀ c ∈ Nat.toDigits 10 n, IsPlainDigit c := by
    intro c hc
    have hdigit := Nat.isDigit_of_mem_toDigits (by decide) (by decide) hc
    simp only [Char.isDigit, Bool.and_eq_true, decide_eq_true_eq] at hdigit
    exact ⟨UInt32.le_iff_toNat_le.mp hdigit.1, UInt32.le_iff_toNat_le.mp hdigit.2⟩
  have htext : (toString n).toList = Nat.toDigits 10 n := by
    rw [Nat.toString_eq_repr, Nat.toList_repr]
  have hstrip : strip (toString n) = toString n :=
    strip_of_no_space fun c hc => (hdigits c (htext ▸ hc)).isSpace_eq
  have hlength := (Nat.length_toDigits_le_iff (b := 10) (n := n) (by decide)
    (by decide : 0 < maxIntDigits)).mpr h
  have hvalue : Nat.ofDigitChars 10 (Nat.toDigits 10 n) 0 = n := Nat.ofDigitChars_ten_toDigits
  unfold parseInt
  rw [hstrip, htext]
  dsimp only
  cases hchars : Nat.toDigits 10 n with
  | nil => exact absurd hchars Nat.toDigits_ne_nil
  | cons c chars =>
    rw [hchars] at hdigits hlength hvalue
    have hc := hdigits c List.mem_cons_self
    have hplus : c ≠ '+' := hc.ne (by unfold IsPlainDigit; decide)
    have hminus : c ≠ '-' := hc.ne (by unfold IsPlainDigit; decide)
    have hunderscore : c ≠ '_' := hc.ne (by unfold IsPlainDigit; decide)
    simp only [List.head?_cons, Option.some.injEq, hplus, hminus, or_self, if_false]
    rw [if_pos (Nat.le_trans (List.length_filter_le _ _) hlength), underscoredDigits,
      if_neg hunderscore, hc.decimalValue_eq]
    dsimp only
    rw [underscoredDigits_plain fun d hd => hdigits d (List.mem_cons_of_mem c hd)]
    rw [Nat.ofDigitChars_cons] at hvalue
    exact congrArg (fun m : ℕ => some (m : ℤ)) hvalue

end AccountingPlatform.Core
