/-
  Decimal numbers and addition in a decimal context.

  A finite number is a sign, a coefficient and an exponent. Addition forms the exact sum at
  the lower of the two exponents and fits it into the context: at most `precision` digits,
  no digit below `etiny`, ties to the even digit, `none` when the result would lie above
  the largest exponent. Subnormal results are rounded and not signalled.

  The same arithmetic over the rationals is `Context.round` and `Context.Overflows`;
  `fit_value` and `fit_eq_none_iff` connect the two, and `round_eq_self_iff` says which
  rationals a context holds exactly.
-/
import AccountingPlatform.Lib.Significant
import Mathlib.Data.Int.Log
import Mathlib.Data.Rat.Floor
import Mathlib.Tactic.FieldSimp
import Mathlib.Tactic.NormNum
import Mathlib.Tactic.Positivity

namespace AccountingPlatform.Lib

/-! ## Numbers -/

/-- Finite decimal number. -/
structure Decimal where
  negative : Bool
  coefficient : ℕ
  exponent : ℤ
  deriving DecidableEq, Repr

namespace Decimal

def zero : Decimal := ⟨false, 0, 0⟩

/-- Coefficient with its sign. -/
def signed (d : Decimal) : ℤ := if d.negative then -d.coefficient else d.coefficient

def value (d : Decimal) : ℚ := d.signed * 10 ^ d.exponent

def negate (d : Decimal) : Decimal := { d with negative := !d.negative }

/-- Units of the number at a place no higher than its exponent. -/
def unitsAt (d : Decimal) (place : ℤ) : ℤ := d.signed * 10 ^ (d.exponent - place).toNat

/-- Exact sum; a zero sum is negative only when both numbers are. -/
def sum (d e : Decimal) : Decimal :=
  let place := min d.exponent e.exponent
  let units := d.unitsAt place + e.unitsAt place
  { negative := if units = 0 then d.negative && e.negative else decide (units < 0)
    coefficient := units.natAbs
    exponent := place }

theorem value_eq_unitsAt (d : Decimal) {place : ℤ} (h : place ≤ d.exponent) :
    d.value = d.unitsAt place * 10 ^ place := by
  have hexp : d.exponent = (d.exponent - place).toNat + place := by omega
  unfold value unitsAt
  rw [Int.cast_mul, Int.cast_pow, Int.cast_ofNat, mul_assoc, ← zpow_natCast,
    ← zpow_add₀ (by norm_num), ← hexp]

@[simp] theorem value_zero : zero.value = 0 := by simp [zero, value, signed]

@[simp] theorem value_negate (d : Decimal) : d.negate.value = -d.value := by
  unfold value signed negate
  cases d.negative <;> simp

theorem value_sum (d e : Decimal) : (d.sum e).value = d.value + e.value := by
  have hsigned : (d.sum e).signed =
      d.unitsAt (min d.exponent e.exponent) + e.unitsAt (min d.exponent e.exponent) := by
    generalize hunits : d.unitsAt _ + e.unitsAt _ = units
    simp only [sum, signed, hunits]
    rcases eq_or_ne units 0 with rfl | hne
    · simp
    · simp only [if_neg hne, decide_eq_true_eq]
      split <;> omega
  rw [d.value_eq_unitsAt (min_le_left _ e.exponent), e.value_eq_unitsAt (min_le_right d.exponent _),
    ← add_mul, ← Int.cast_add, ← hsigned]
  rfl

theorem value_eq_zero_iff (d : Decimal) : d.value = 0 ↔ d.coefficient = 0 := by
  have hten : (10 : ℚ) ^ d.exponent ≠ 0 := zpow_ne_zero _ (by norm_num)
  unfold value signed
  rw [mul_eq_zero_iff_right hten]
  split <;> simp

theorem abs_value (d : Decimal) : |d.value| = d.coefficient * 10 ^ d.exponent := by
  have hten : (0 : ℚ) < 10 ^ d.exponent := zpow_pos (by norm_num) _
  unfold value signed
  rw [abs_mul, abs_of_pos hten]
  split <;> simp

end Decimal

/-- A `Decimal` object. -/
inductive Number where
  | finite (d : Decimal)
  | infinite (negative : Bool)
  | nan
  deriving DecidableEq, Repr

/-! ## Rounding of rationals -/

/-- Natural number nearest to a non-negative rational, ties to even. -/
def nearestEven (x : ℚ) : ℕ :=
  if 1 < 2 * (x - ⌊x⌋₊) ∨ (1 = 2 * (x - ⌊x⌋₊) ∧ ⌊x⌋₊ % 2 = 1) then ⌊x⌋₊ + 1 else ⌊x⌋₊

theorem nearestEven_natCast (n : ℕ) : nearestEven n = n := by simp [nearestEven]

theorem le_nearestEven {n : ℕ} {x : ℚ} (h : (n : ℚ) ≤ x) : n ≤ nearestEven x := by
  have hfloor : n ≤ ⌊x⌋₊ := Nat.le_floor h
  unfold nearestEven
  split <;> omega

theorem nearestEven_le {n : ℕ} {x : ℚ} (hx : 0 ≤ x) (h : x ≤ n) : nearestEven x ≤ n := by
  rcases eq_or_lt_of_le h with rfl | hlt
  · rw [nearestEven_natCast]
  · have hfloor : ⌊x⌋₊ < n := (Nat.floor_lt hx).mpr hlt
    unfold nearestEven
    split <;> omega

/-- Digit rounding of a quotient of naturals. -/
def halfEven (unit n : ℕ) : ℕ :=
  if unit < 2 * (n % unit) ∨ (unit = 2 * (n % unit) ∧ n / unit % 2 = 1) then n / unit + 1
  else n / unit

theorem nearestEven_div {unit : ℕ} (hunit : 0 < unit) (n : ℕ) :
    nearestEven (n / unit) = halfEven unit n := by
  have hpos : (0 : ℚ) < unit := by exact_mod_cast hunit
  have hfloor : ⌊(n / unit : ℚ)⌋₊ = n / unit := Rat.natFloor_natCast_div_natCast n unit
  have hsplit : (n : ℚ) = (n / unit : ℕ) * unit + (n % unit : ℕ) := by
    exact_mod_cast (Nat.div_add_mod' n unit).symm
  have hrest : (n / unit : ℚ) - (n / unit : ℕ) = (n % unit : ℕ) / unit := by
    rw [div_sub' hpos.ne']
    congr 1
    linarith
  have habove : 1 < 2 * ((n / unit : ℚ) - (n / unit : ℕ)) ↔ unit < 2 * (n % unit) := by
    rw [hrest, ← mul_div_assoc, one_lt_div hpos]
    exact_mod_cast Iff.rfl
  have htie : 1 = 2 * ((n / unit : ℚ) - (n / unit : ℕ)) ↔ unit = 2 * (n % unit) := by
    rw [hrest, ← mul_div_assoc, eq_div_iff hpos.ne', one_mul]
    exact_mod_cast Iff.rfl
  unfold nearestEven halfEven
  rw [hfloor]
  simp only [habove, htie]

/-! ## Contexts -/

/-- Precision and exponent range of an arithmetic context. -/
structure Context where
  precision : ℕ
  emin : ℤ
  emax : ℤ
  precision_pos : 0 < precision
  emin_le_emax : emin ≤ emax

namespace Context

/-- Python's default context. -/
def default : Context := ⟨28, -999999, 999999, by decide, by decide⟩

variable (c : Context)

/-- Exponent of the least positive number. -/
def etiny : ℤ := c.emin - c.precision + 1

/-- A number fitted into the context, `none` on overflow. -/
def fit (d : Decimal) : Option Decimal :=
  if d.coefficient = 0 then
    some { d with exponent := min (max d.exponent c.etiny) c.emax }
  else
    let digits := Nat.log 10 d.coefficient + 1
    if c.emax < d.exponent + digits - 1 then none
    else
      let place := max (d.exponent + digits - c.precision) c.etiny
      if d.exponent < place then
        let kept := halfEven (10 ^ (place - d.exponent).toNat) d.coefficient
        -- all nines round up to one digit more
        if kept = 10 ^ c.precision then
          if c.emax < place + c.precision then none
          else some ⟨d.negative, kept / 10, place + 1⟩
        else some ⟨d.negative, kept, place⟩
      else some d

def add (d e : Decimal) : Option Decimal := c.fit (d.sum e)

def sub (d e : Decimal) : Option Decimal := c.add d e.negate

/-- Place of the last digit kept of a positive rational. -/
def place (x : ℚ) : ℤ := max (Int.log 10 x + 1 - c.precision) c.etiny

/-- Rounding of a non-negative rational. -/
def roundMagnitude (x : ℚ) : ℚ := nearestEven (x / 10 ^ c.place x) * 10 ^ c.place x

/-- Rounding of a rational to the context, the exponent not bounded above. -/
def round (x : ℚ) : ℚ := if x < 0 then -c.roundMagnitude (-x) else c.roundMagnitude x

/-- What rounding adds. -/
def error (x : ℚ) : ℚ := c.round x - x

/-- The rounded number lies above the largest exponent. -/
def Overflows (x : ℚ) : Prop := 10 ^ (c.emax + 1) ≤ |c.round x|

/-- At most `precision` digits and none below `etiny`. -/
def Representable (x : ℚ) : Prop :=
  ∃ n e : ℤ, |n| < 10 ^ c.precision ∧ c.etiny ≤ e ∧ x = n * 10 ^ e

instance (x : ℚ) : Decidable (c.Overflows x) := inferInstanceAs (Decidable (_ ≤ _))

theorem etiny_le_emax : c.etiny ≤ c.emax := by
  have h1 := c.precision_pos
  have h2 := c.emin_le_emax
  unfold etiny
  omega

@[simp] theorem roundMagnitude_zero : c.roundMagnitude 0 = 0 := by
  have h : nearestEven 0 = 0 := nearestEven_natCast 0
  simp [roundMagnitude, h]

@[simp] theorem round_zero : c.round 0 = 0 := by simp [round]

theorem not_overflows_zero : ¬c.Overflows 0 := by
  unfold Overflows
  rw [round_zero, abs_zero, not_le]
  exact zpow_pos (by norm_num) _

theorem round_neg (x : ℚ) : c.round (-x) = -c.round x := by
  unfold round
  rcases lt_trichotomy x 0 with h | rfl | h
  · rw [if_neg (by linarith), if_pos h, neg_neg]
  · simp
  · rw [if_pos (by linarith), if_neg (by linarith), neg_neg]

theorem roundMagnitude_nonneg (x : ℚ) : 0 ≤ c.roundMagnitude x :=
  mul_nonneg (Nat.cast_nonneg _) (zpow_pos (by norm_num) _).le

theorem abs_round (x : ℚ) : |c.round x| = c.roundMagnitude |x| := by
  unfold round
  split
  · next h => rw [abs_neg, abs_of_nonneg (c.roundMagnitude_nonneg _), abs_of_neg h]
  · next h => rw [abs_of_nonneg (c.roundMagnitude_nonneg _), abs_of_nonneg (not_lt.mp h)]

theorem round_nonneg {x : ℚ} (h : 0 ≤ x) : c.round x = c.roundMagnitude x := if_neg (not_lt.mpr h)

/-- Rounding a number acts on its magnitude only. -/
theorem round_value (d : Decimal) :
    c.round d.value =
      (if d.negative then -1 else 1) * c.roundMagnitude (d.coefficient * 10 ^ d.exponent) := by
  have hmag : (0 : ℚ) ≤ d.coefficient * 10 ^ d.exponent :=
    mul_nonneg (Nat.cast_nonneg _) (zpow_pos (by norm_num) _).le
  unfold Decimal.value Decimal.signed
  split
  · rw [Int.cast_neg, neg_mul, round_neg, neg_one_mul]
    exact congrArg _ (c.round_nonneg hmag)
  · rw [one_mul]
    exact c.round_nonneg hmag

/-- Digits count the decimal logarithm. -/
theorem log_magnitude {n : ℕ} (hn : n ≠ 0) (e : ℤ) :
    Int.log 10 ((n : ℚ) * 10 ^ e) = Nat.log 10 n + e := by
  have hten : (0 : ℚ) < 10 ^ e := zpow_pos (by norm_num) _
  have hpos : (0 : ℚ) < n * 10 ^ e := mul_pos (by exact_mod_cast Nat.pos_of_ne_zero hn) hten
  have hlow : (10 : ℚ) ^ (Nat.log 10 n : ℤ) ≤ n := by
    rw [zpow_natCast]
    exact_mod_cast Nat.pow_log_le_self 10 hn
  have hhigh : (n : ℚ) < 10 ^ ((Nat.log 10 n : ℤ) + 1) := by
    have h : n < 10 ^ (Nat.log 10 n + 1) := Nat.lt_pow_succ_log_self (by decide) n
    calc (n : ℚ) < ((10 ^ (Nat.log 10 n + 1) : ℕ) : ℚ) := by exact_mod_cast h
      _ = 10 ^ ((Nat.log 10 n : ℤ) + 1) := by push_cast; rw [← zpow_natCast]; push_cast; rfl
  apply le_antisymm
  · rw [← Int.lt_add_one_iff]
    refine (Int.lt_zpow_iff_log_lt (by decide) hpos).mp ?_
    rw [add_right_comm, zpow_add₀ (by norm_num)]
    exact mul_lt_mul_of_pos_right hhigh hten
  · refine (Int.zpow_le_iff_le_log (by decide) hpos).mp ?_
    rw [zpow_add₀ (by norm_num)]
    exact mul_le_mul_of_nonneg_right hlow hten.le

/-! ### Bounds of a rounded magnitude -/

variable {c}

theorem zpow_sub_toNat {k l : ℤ} (h : l ≤ k) : (10 : ℚ) ^ k = (10 ^ (k - l).toNat : ℕ) * 10 ^ l := by
  push_cast
  rw [← zpow_natCast, ← zpow_add₀ (by norm_num)]
  congr 1
  omega

/-- A power of ten in range is not rounded below. -/
theorem le_roundMagnitude {k : ℤ} {x : ℚ} (hk : c.etiny ≤ k) (h : 10 ^ k ≤ x) :
    10 ^ k ≤ c.roundMagnitude x := by
  have hx : 0 < x := (zpow_pos (by norm_num) k).trans_le h
  have hlog : k ≤ Int.log 10 x := (Int.zpow_le_iff_le_log (by decide) hx).mp h
  have hplace : c.place x ≤ Int.log 10 x := by
    have := c.precision_pos
    unfold place
    omega
  have hgrid := zpow_sub_toNat hplace
  have hten : (0 : ℚ) < 10 ^ c.place x := zpow_pos (by norm_num) _
  have hself : (10 : ℚ) ^ Int.log 10 x ≤ x := Int.zpow_log_le_self (by decide) hx
  calc (10 : ℚ) ^ k ≤ 10 ^ Int.log 10 x := zpow_le_zpow_right₀ (by norm_num) hlog
    _ = (10 ^ (Int.log 10 x - c.place x).toNat : ℕ) * 10 ^ c.place x := hgrid
    _ ≤ c.roundMagnitude x := by
      refine mul_le_mul_of_nonneg_right ?_ hten.le
      exact_mod_cast le_nearestEven (by rw [le_div_iff₀ hten, ← hgrid]; exact hself)

/-- A power of ten on the grid is not passed. -/
theorem nearestEven_le_pow {k : ℕ} {x : ℚ} (hx : 0 ≤ x) (h : x ≤ 10 ^ (c.place x + k)) :
    nearestEven (x / 10 ^ c.place x) ≤ 10 ^ k := by
  have hten : (0 : ℚ) < 10 ^ c.place x := zpow_pos (by norm_num) _
  refine nearestEven_le (div_nonneg hx hten.le) ?_
  rw [div_le_iff₀ hten]
  push_cast
  rwa [← zpow_natCast, ← zpow_add₀ (by norm_num), add_comm]

theorem nearestEven_le_precision {x : ℚ} (hx : 0 ≤ x) :
    nearestEven (x / 10 ^ c.place x) ≤ 10 ^ c.precision := by
  refine nearestEven_le_pow hx ?_
  calc x ≤ 10 ^ (Int.log 10 x + 1) := (Int.lt_zpow_succ_log_self (by decide) x).le
    _ ≤ 10 ^ (c.place x + c.precision) :=
      zpow_le_zpow_right₀ (by norm_num) (by unfold place; omega)

/-- Digits above the place stay as they are. -/
theorem roundMagnitude_of_place_le {n : ℕ} {e : ℤ} (h : c.place (n * 10 ^ e) ≤ e) :
    c.roundMagnitude (n * 10 ^ e) = n * 10 ^ e := by
  have hten : (10 : ℚ) ^ c.place (n * 10 ^ e) ≠ 0 := zpow_ne_zero _ (by norm_num)
  have hgrid : (n * 10 ^ e : ℚ) =
      ((n * 10 ^ (e - c.place (n * 10 ^ e)).toNat : ℕ) : ℚ) * 10 ^ c.place (n * 10 ^ e) := by
    rw [Nat.cast_mul, mul_assoc, ← zpow_sub_toNat h]
  unfold roundMagnitude
  rw [(div_eq_iff hten).mpr hgrid, nearestEven_natCast, ← hgrid]

/-- Digits below the place are rounded as a quotient of naturals. -/
theorem roundMagnitude_of_lt_place {n : ℕ} {e p : ℤ} (hp : c.place (n * 10 ^ e) = p) (h : e ≤ p) :
    c.roundMagnitude (n * 10 ^ e) = halfEven (10 ^ (p - e).toNat) n * 10 ^ p := by
  have hten : (10 : ℚ) ^ e ≠ 0 := zpow_ne_zero _ (by norm_num)
  unfold roundMagnitude
  rw [hp, ← nearestEven_div (by positivity), zpow_sub_toNat h, mul_div_mul_right _ _ hten]

/-! ### What fitting does -/

/-- A number fits when its rounded magnitude is in range, and the result carries it. -/
theorem fit_magnitude (d : Decimal) :
    (c.fit d = none ∧ 10 ^ (c.emax + 1) ≤ c.roundMagnitude (d.coefficient * 10 ^ d.exponent)) ∨
    ∃ r, c.fit d = some r ∧ r.negative = d.negative ∧
      (r.coefficient * 10 ^ r.exponent : ℚ) =
        c.roundMagnitude (d.coefficient * 10 ^ d.exponent) ∧
      c.roundMagnitude (d.coefficient * 10 ^ d.exponent) < 10 ^ (c.emax + 1) := by
  obtain ⟨negative, n, e⟩ := d
  dsimp only
  rcases eq_or_ne n 0 with rfl | hn
  · refine .inr ⟨_, if_pos rfl, rfl, ?_⟩
    simp only [Nat.cast_zero, zero_mul, roundMagnitude_zero, true_and]
    exact zpow_pos (by norm_num) _
  have hpos : (0 : ℚ) < n * 10 ^ e :=
    mul_pos (by exact_mod_cast Nat.pos_of_ne_zero hn) (zpow_pos (by norm_num) _)
  have hlog := log_magnitude hn e
  have hp := c.precision_pos
  have hemin := c.emin_le_emax
  have hplace : c.place (n * 10 ^ e) = max (e + ((Nat.log 10 n + 1 : ℕ) : ℤ) - c.precision) c.etiny := by
    unfold place
    rw [hlog]
    push_cast
    congr 1
    ring
  have hlow : (10 : ℚ) ^ ((Nat.log 10 n : ℤ) + e) ≤ n * 10 ^ e := by
    rw [← hlog]
    exact_mod_cast Int.zpow_log_le_self (b := 10) (by decide) hpos
  have hhigh : (n * 10 ^ e : ℚ) < 10 ^ ((Nat.log 10 n : ℤ) + e + 1) := by
    rw [← hlog]
    exact_mod_cast Int.lt_zpow_succ_log_self (b := 10) (by decide) (n * 10 ^ e : ℚ)
  have hetiny : c.etiny = c.emin - c.precision + 1 := rfl
  unfold fit
  rw [if_neg hn]
  dsimp only
  rw [← hplace]
  generalize hat : c.place (n * 10 ^ e) = place at hplace
  by_cases hover : c.emax < e + ((Nat.log 10 n + 1 : ℕ) : ℤ) - 1
  · rw [if_pos hover]
    refine .inl ⟨rfl, le_roundMagnitude (by omega) (le_trans ?_ hlow)⟩
    exact zpow_le_zpow_right₀ (by norm_num) (by omega)
  rw [if_neg hover]
  by_cases hshort : e < place
  · rw [if_pos hshort, roundMagnitude_of_lt_place hat hshort.le]
    have hkept : halfEven (10 ^ (place - e).toNat) n ≤ 10 ^ c.precision := by
      have h := nearestEven_le_precision (c := c) hpos.le
      rwa [hat, zpow_sub_toNat hshort.le, mul_div_mul_right _ _ (zpow_ne_zero _ (by norm_num)),
        nearestEven_div (by positivity)] at h
    generalize halfEven (10 ^ (place - e).toNat) n = kept at hkept
    have hten : (0 : ℚ) < 10 ^ place := zpow_pos (by norm_num) _
    by_cases hnines : kept = 10 ^ c.precision
    · have hvalue : (kept * 10 ^ place : ℚ) = 10 ^ (place + c.precision) := by
        rw [hnines, add_comm, zpow_add₀ (by norm_num), zpow_natCast]
        push_cast
        rfl
      rw [if_pos hnines, hvalue]
      by_cases hup : c.emax < place + c.precision
      · rw [if_pos hup]
        exact .inl ⟨rfl, zpow_le_zpow_right₀ (by norm_num) (by omega)⟩
      · rw [if_neg hup]
        refine .inr ⟨_, rfl, rfl, ?_, zpow_lt_zpow_right₀ (by norm_num) (by omega)⟩
        obtain ⟨m, hm⟩ : 10 ∣ kept := hnines ▸ dvd_pow_self 10 hp.ne'
        rw [← hvalue, hm, Nat.mul_div_cancel_left _ (by decide), zpow_add₀ (by norm_num)]
        push_cast
        ring
    · rw [if_neg hnines]
      refine .inr ⟨_, rfl, rfl, rfl, ?_⟩
      have hlt : (kept : ℚ) < 10 ^ c.precision := by
        exact_mod_cast lt_of_le_of_ne hkept hnines
      calc (kept * 10 ^ place : ℚ) < 10 ^ c.precision * 10 ^ place :=
            mul_lt_mul_of_pos_right hlt hten
        _ = 10 ^ (place + c.precision) := by
            rw [add_comm, zpow_add₀ (by norm_num), zpow_natCast]
        _ ≤ 10 ^ (c.emax + 1) := zpow_le_zpow_right₀ (by norm_num) (by omega)
  · rw [if_neg hshort, roundMagnitude_of_place_le (by omega)]
    refine .inr ⟨_, rfl, rfl, rfl, hhigh.trans_le ?_⟩
    exact zpow_le_zpow_right₀ (by norm_num) (by omega)

theorem overflows_value_iff (d : Decimal) :
    c.Overflows d.value ↔
      10 ^ (c.emax + 1) ≤ c.roundMagnitude (d.coefficient * 10 ^ d.exponent) := by
  unfold Overflows
  rw [abs_round, Decimal.abs_value]

theorem fit_eq_none_iff (d : Decimal) : c.fit d = none ↔ c.Overflows d.value := by
  rw [overflows_value_iff]
  rcases fit_magnitude (c := c) d with ⟨hnone, hover⟩ | ⟨r, hsome, -, -, hrange⟩
  · exact iff_of_true hnone hover
  · exact iff_of_false (by rw [hsome]; nofun) (not_le.mpr hrange)

theorem fit_value {d r : Decimal} (h : c.fit d = some r) : r.value = c.round d.value := by
  rcases fit_magnitude (c := c) d with ⟨hnone, -⟩ | ⟨r', hsome, hsign, hmag, -⟩
  · rw [hnone] at h
    nomatch h
  · obtain rfl : r' = r := Option.some.inj (hsome.symm.trans h)
    rw [round_value, ← hmag, ← hsign]
    unfold Decimal.value Decimal.signed
    split <;> simp

theorem add_value {d e r : Decimal} (h : c.add d e = some r) :
    r.value = c.round (d.value + e.value) := by
  rw [fit_value h, Decimal.value_sum]

theorem add_eq_none_iff {d e : Decimal} : c.add d e = none ↔ c.Overflows (d.value + e.value) := by
  unfold add
  rw [fit_eq_none_iff, Decimal.value_sum]

theorem sub_value {d e r : Decimal} (h : c.sub d e = some r) :
    r.value = c.round (d.value - e.value) := by
  rw [add_value h, Decimal.value_negate, sub_eq_add_neg]

theorem sub_eq_none_iff {d e : Decimal} : c.sub d e = none ↔ c.Overflows (d.value - e.value) := by
  unfold sub
  rw [add_eq_none_iff, Decimal.value_negate, sub_eq_add_neg]

/-! ### Exact results -/

theorem representable_neg {x : ℚ} (h : c.Representable x) : c.Representable (-x) := by
  obtain ⟨n, e, hn, he, rfl⟩ := h
  exact ⟨-n, e, by rwa [abs_neg], he, by push_cast; ring⟩

theorem representable_of_roundMagnitude {x : ℚ} (hx : 0 ≤ x) (h : c.roundMagnitude x = x) :
    c.Representable x := by
  have hetiny : c.etiny ≤ c.place x := le_max_right _ _
  have hle := nearestEven_le_precision (c := c) hx
  unfold roundMagnitude at h
  generalize nearestEven (x / 10 ^ c.place x) = m at h hle
  rcases Nat.lt_or_eq_of_le hle with hlt | heq
  · refine ⟨m, c.place x, ?_, hetiny, by exact_mod_cast h.symm⟩
    rw [abs_of_nonneg (by omega)]
    exact_mod_cast hlt
  · -- a full carry is a single digit further up
    refine ⟨1, c.precision + c.place x, ?_, by omega, ?_⟩
    · rw [abs_one]
      exact one_lt_pow₀ (by norm_num) c.precision_pos.ne'
    · rw [zpow_add₀ (by norm_num), zpow_natCast, Int.cast_one, one_mul]
      rw [heq] at h
      exact_mod_cast h.symm

theorem roundMagnitude_of_digits {n : ℕ} {e : ℤ} (hn : n < 10 ^ c.precision) (he : c.etiny ≤ e) :
    c.roundMagnitude (n * 10 ^ e) = n * 10 ^ e := by
  rcases eq_or_ne n 0 with rfl | hne
  · simp
  · have hlog : Nat.log 10 n < c.precision := Nat.log_lt_of_lt_pow hne hn
    apply roundMagnitude_of_place_le
    unfold place
    rw [log_magnitude hne]
    omega

/-- Rounding leaves alone exactly the numbers the context holds. -/
theorem round_eq_self_iff {x : ℚ} : c.round x = x ↔ c.Representable x := by
  constructor
  · intro h
    rcases le_or_gt 0 x with hx | hx
    · rw [c.round_nonneg hx] at h
      exact representable_of_roundMagnitude hx h
    · have hneg : c.roundMagnitude (-x) = -x := by
        rw [← c.round_nonneg (by linarith), round_neg, h]
      have hrep := representable_neg (representable_of_roundMagnitude (by linarith) hneg)
      rwa [neg_neg] at hrep
  · rintro ⟨n, e, hn, he, rfl⟩
    have hdigits : n.natAbs < 10 ^ c.precision := by
      have h : ((n.natAbs : ℕ) : ℤ) < ((10 ^ c.precision : ℕ) : ℤ) := by
        rw [Int.natCast_natAbs]
        exact_mod_cast hn
      exact_mod_cast h
    have hround : c.round (n.natAbs * 10 ^ e) = n.natAbs * 10 ^ e := by
      rw [c.round_nonneg (mul_nonneg (Nat.cast_nonneg _) (zpow_pos (by norm_num) _).le)]
      exact roundMagnitude_of_digits hdigits he
    rcases Int.natAbs_eq n with hsign | hsign
    · rw [hsign, Int.cast_natCast]
      exact hround
    · rw [hsign, Int.cast_neg, Int.cast_natCast, neg_mul, round_neg, hround]

theorem round_eq_add_error (x : ℚ) : c.round x = x + c.error x := by
  unfold error
  ring

theorem error_eq_zero_iff {x : ℚ} : c.error x = 0 ↔ c.Representable x := by
  unfold error
  rw [sub_eq_zero, round_eq_self_iff]

/-! ### Running sums -/

variable (c)

/-- Running sum of numbers, each addition fitted. -/
def accumulate : Decimal → List Decimal → Option Decimal
  | acc, [] => some acc
  | acc, d :: ds => (c.add acc d).bind fun next => accumulate next ds

/-- What rounding adds to a running sum, addition by addition. -/
def sumGain : ℚ → List ℚ → ℚ
  | _, [] => 0
  | acc, x :: xs => c.error (acc + x) + sumGain (acc + x + c.error (acc + x)) xs

/-- No partial sum lies above the largest exponent. -/
def SumsInRange : ℚ → List ℚ → Prop
  | _, [] => True
  | acc, x :: xs => ¬c.Overflows (acc + x) ∧ SumsInRange (acc + x + c.error (acc + x)) xs

variable {c}

/-- A running sum is the exact sum plus the gain, as long as it stays in range. -/
theorem accumulate_value_iff {acc : Decimal} {ds : List Decimal} {v : ℚ} :
    (∃ r, c.accumulate acc ds = some r ∧ r.value = v) ↔
      c.SumsInRange acc.value (ds.map Decimal.value) ∧
        acc.value + (ds.map Decimal.value).sum + c.sumGain acc.value (ds.map Decimal.value) = v := by
  induction ds generalizing acc with
  | nil => simp [accumulate, SumsInRange, sumGain]
  | cons d ds ih =>
    simp only [accumulate, List.map_cons, SumsInRange, sumGain, List.sum_cons]
    cases hadd : c.add acc d with
    | none =>
      refine iff_of_false (fun ⟨r, hr, _⟩ => nomatch hr) fun h => ?_
      exact h.1.1 (add_eq_none_iff.mp hadd)
    | some next =>
      have hnext : next.value = acc.value + d.value + c.error (acc.value + d.value) := by
        rw [add_value hadd, round_eq_add_error]
      have hrange : ¬c.Overflows (acc.value + d.value) := by
        rw [← add_eq_none_iff, hadd]
        nofun
      have harrange : next.value + (ds.map Decimal.value).sum +
            c.sumGain next.value (ds.map Decimal.value) =
          acc.value + (d.value + (ds.map Decimal.value).sum) +
            (c.error (acc.value + d.value) + c.sumGain next.value (ds.map Decimal.value)) := by
        rw [hnext]
        ring
      rw [Option.bind_some, ih, harrange, ← hnext]
      exact (and_congr_left fun _ => (and_iff_right hrange)).symm

/-- Nothing is gained while every partial sum is held exactly. -/
theorem sumGain_of_representable {acc : ℚ} {xs : List ℚ}
    (h : ∀ ys, ys <+: xs → c.Representable (acc + ys.sum)) : c.sumGain acc xs = 0 := by
  induction xs generalizing acc with
  | nil => rfl
  | cons x xs ih =>
    have hfirst : c.error (acc + x) = 0 := by
      have hx := h [x] (by simp)
      rw [List.sum_singleton] at hx
      exact error_eq_zero_iff.mpr hx
    rw [sumGain, hfirst, add_zero, zero_add]
    refine ih fun ys hys => ?_
    have hlater := h (x :: ys) (List.cons_prefix_cons.mpr ⟨rfl, hys⟩)
    rwa [List.sum_cons, ← add_assoc] at hlater

end Context

end AccountingPlatform.Lib
