/-
  Decimal addition at a fixed number of significant digits, rounding half to even.

  A decimal is represented by its integer number of units in a fixed last place. Rounding
  to `p` significant digits only looks at the leading digits, so the choice of that place
  does not matter (`roundSig_mul_ten`): the same function describes a decimal format whose
  operands carry different exponents.
-/
import Mathlib.Algebra.BigOperators.Group.List.Basic
import Mathlib.Algebra.Order.BigOperators.Group.List
import Mathlib.Algebra.Order.Group.Abs
import Mathlib.Data.Nat.Log
import Mathlib.Data.Int.Order.Basic
import Mathlib.Tactic.Linarith
import Mathlib.Tactic.Ring

namespace AccountingPlatform.Lib

/-! ## Rounding -/

/-- Number of trailing digits of `n` beyond the first `p`. -/
def excessDigits (p n : ℕ) : ℕ := Nat.log 10 n + 1 - p

/-- Multiple of `unit` nearest to `n`, ties to the even multiple. -/
def roundTo (unit n : ℕ) : ℕ :=
  if unit < 2 * (n % unit) ∨ (unit = 2 * (n % unit) ∧ n / unit % 2 = 1) then
    (n / unit + 1) * unit
  else n / unit * unit

/-- `n` rounded half-even to `p` significant decimal digits. -/
def roundSig (p n : ℕ) : ℕ := roundTo (10 ^ excessDigits p n) n

/-- Signed form: the magnitude is rounded and the sign kept. -/
def roundDec (p : ℕ) (z : ℤ) : ℤ := z.sign * roundSig p z.natAbs

theorem roundTo_of_dvd {unit n : ℕ} (hu : 0 < unit) (h : unit ∣ n) : roundTo unit n = n := by
  have hr : n % unit = 0 := Nat.mod_eq_zero_of_dvd h
  unfold roundTo
  rw [hr, if_neg (by omega)]
  exact Nat.div_mul_cancel h

theorem dvd_roundTo (unit n : ℕ) : unit ∣ roundTo unit n := by
  unfold roundTo
  split
  · exact Nat.dvd_mul_left _ _
  · exact Nat.dvd_mul_left _ _

/-- A number is left alone exactly when its excess digits are zeros. -/
theorem roundSig_eq_self_iff (p n : ℕ) :
    roundSig p n = n ↔ 10 ^ excessDigits p n ∣ n := by
  constructor
  · intro h
    calc 10 ^ excessDigits p n ∣ roundSig p n := dvd_roundTo _ n
      _ = n := h
  · exact roundTo_of_dvd (by positivity)

theorem excessDigits_of_lt {p n : ℕ} (h : n < 10 ^ p) : excessDigits p n ≤ 1 - p := by
  unfold excessDigits
  rcases Nat.eq_zero_or_pos n with rfl | hn
  · simp
  · have := Nat.log_lt_of_lt_pow hn.ne' h
    omega

/-- A number with at most `p` digits is left alone. -/
theorem roundSig_of_lt {p n : ℕ} (hp : 0 < p) (h : n < 10 ^ p) : roundSig p n = n := by
  have h0 : excessDigits p n = 0 := by have := excessDigits_of_lt h; omega
  rw [roundSig_eq_self_iff, h0, pow_zero]
  exact one_dvd n

theorem excessDigits_mul_ten {p n : ℕ} (hn : 0 < n) :
    excessDigits p (n * 10) = Nat.log 10 n + 2 - p := by
  unfold excessDigits
  rw [Nat.log_mul_base (by decide) hn.ne']

theorem roundTo_mul (c unit n : ℕ) (hc : 0 < c) :
    roundTo (unit * c) (n * c) = roundTo unit n * c := by
  have hm : n * c % (unit * c) = n % unit * c := Nat.mul_mod_mul_right c n unit
  have hd : n * c / (unit * c) = n / unit := Nat.mul_div_mul_right n unit hc
  have h1 : unit * c < 2 * (n % unit * c) ↔ unit < 2 * (n % unit) := by
    rw [← Nat.mul_assoc]
    exact Nat.mul_lt_mul_right hc
  have h2 : unit * c = 2 * (n % unit * c) ↔ unit = 2 * (n % unit) := by
    rw [← Nat.mul_assoc]
    exact Nat.mul_left_inj hc.ne'
  unfold roundTo
  rw [hm, hd]
  simp only [h1, h2]
  split <;> ring

/-- Rounding does not depend on the place the units are counted in. -/
theorem roundSig_mul_ten {p : ℕ} (hp : 0 < p) (n : ℕ) :
    roundSig p (n * 10) = roundSig p n * 10 := by
  rcases Nat.eq_zero_or_pos n with rfl | hn
  · simp [roundSig, roundTo]
  · by_cases h : n < 10 ^ p
    · -- few digits: at most one trailing zero is dropped, and it comes back
      rw [roundSig_of_lt hp h, roundSig_eq_self_iff, excessDigits_mul_ten hn]
      have hlog := Nat.log_lt_of_lt_pow hn.ne' h
      have hle : Nat.log 10 n + 2 - p ≤ 1 := by omega
      exact (pow_dvd_pow 10 hle).trans (by rw [pow_one]; exact Nat.dvd_mul_left 10 n)
    · have hlog : p ≤ Nat.log 10 n := Nat.le_log_of_pow_le (by decide) (Nat.le_of_not_lt h)
      have he : excessDigits p (n * 10) = excessDigits p n + 1 := by
        rw [excessDigits_mul_ten hn]; unfold excessDigits; omega
      unfold roundSig
      rw [he, pow_succ]
      exact roundTo_mul 10 _ n (by decide)

theorem roundDec_zero (p : ℕ) : roundDec p 0 = 0 := by simp [roundDec]

theorem roundDec_natCast (p n : ℕ) : roundDec p (n : ℤ) = (roundSig p n : ℤ) := by
  unfold roundDec
  rcases Nat.eq_zero_or_pos n with rfl | hn
  · simp [roundSig, roundTo]
  · rw [Int.natAbs_natCast, Int.sign_eq_one_of_pos (by exact_mod_cast hn), one_mul]

theorem roundDec_neg (p : ℕ) (z : ℤ) : roundDec p (-z) = -roundDec p z := by
  simp [roundDec, Int.sign_neg]

/-- A decimal with at most `p` digits is left alone. -/
theorem roundDec_of_abs_lt {p : ℕ} (hp : 0 < p) {z : ℤ} (h : |z| < 10 ^ p) :
    roundDec p z = z := by
  have hz : z.natAbs < 10 ^ p := by
    have : ((z.natAbs : ℕ) : ℤ) < ((10 ^ p : ℕ) : ℤ) := by
      rw [Int.natCast_natAbs]; exact_mod_cast h
    exact_mod_cast this
  unfold roundDec
  rw [roundSig_of_lt hp hz]
  exact Int.sign_mul_natAbs z

theorem roundSig_pos {p n : ℕ} (hp : 0 < p) (hn : 0 < n) : 0 < roundSig p n := by
  have hexcess : excessDigits p n ≤ Nat.log 10 n := by unfold excessDigits; omega
  have hunit : 10 ^ excessDigits p n ≤ n :=
    (Nat.pow_le_pow_right (by decide) hexcess).trans (Nat.pow_log_le_self 10 hn.ne')
  have hdiv : 0 < n / 10 ^ excessDigits p n := Nat.div_pos hunit (by positivity)
  unfold roundSig roundTo
  split
  · positivity
  · positivity

/-- Nothing positive rounds to zero. -/
theorem roundDec_pos {p : ℕ} (hp : 0 < p) {z : ℤ} (h : 0 < z) : 0 < roundDec p z := by
  obtain ⟨n, rfl⟩ := Int.eq_ofNat_of_zero_le h.le
  rw [roundDec_natCast]
  exact_mod_cast roundSig_pos hp (by exact_mod_cast h)

/-! ## Sums in a decimal context -/

/-- Running sum from `acc`, every addition rounded. -/
def decSumFrom (p : ℕ) (acc : ℤ) (xs : List ℤ) : ℤ :=
  xs.foldl (fun total x => roundDec p (total + x)) acc

/-- Sum of a list from zero in a context of `p` digits. -/
def decSum (p : ℕ) (xs : List ℤ) : ℤ := decSumFrom p 0 xs

/-- Every partial sum from `acc` is representable, so no addition rounds. -/
def ExactFrom (p : ℕ) : ℤ → List ℤ → Prop
  | _, [] => True
  | acc, x :: xs => roundDec p (acc + x) = acc + x ∧ ExactFrom p (acc + x) xs

instance decExactFrom (p : ℕ) : (acc : ℤ) → (xs : List ℤ) → Decidable (ExactFrom p acc xs)
  | _, [] => isTrue trivial
  | acc, x :: xs =>
    @instDecidableAnd _ _ (inferInstanceAs (Decidable (roundDec p (acc + x) = acc + x)))
      (decExactFrom p (acc + x) xs)

/-- What rounding adds to a running sum, addition by addition. -/
def roundingGain (p : ℕ) : ℤ → List ℤ → ℤ
  | _, [] => 0
  | acc, x :: xs =>
    (roundDec p (acc + x) - (acc + x)) + roundingGain p (roundDec p (acc + x)) xs

@[simp] theorem decSumFrom_nil (p : ℕ) (acc : ℤ) : decSumFrom p acc [] = acc := rfl

@[simp] theorem decSumFrom_cons (p : ℕ) (acc x : ℤ) (xs : List ℤ) :
    decSumFrom p acc (x :: xs) = decSumFrom p (roundDec p (acc + x)) xs := rfl

theorem decSumFrom_append (p : ℕ) (acc : ℤ) (xs ys : List ℤ) :
    decSumFrom p acc (xs ++ ys) = decSumFrom p (decSumFrom p acc xs) ys := by
  simp [decSumFrom]

/-- A rounded sum is the exact sum plus the accumulated rounding. -/
theorem decSumFrom_eq_add_gain (p : ℕ) (acc : ℤ) (xs : List ℤ) :
    decSumFrom p acc xs = acc + xs.sum + roundingGain p acc xs := by
  induction xs generalizing acc with
  | nil => simp [roundingGain]
  | cons x xs ih =>
    rw [decSumFrom_cons, ih, List.sum_cons, roundingGain]
    ring

theorem roundingGain_of_exact {p : ℕ} {acc : ℤ} {xs : List ℤ} (h : ExactFrom p acc xs) :
    roundingGain p acc xs = 0 := by
  induction xs generalizing acc with
  | nil => rfl
  | cons x xs ih =>
    rw [roundingGain, h.1, ih h.2]
    ring

theorem decSumFrom_of_exact {p : ℕ} {acc : ℤ} {xs : List ℤ} (h : ExactFrom p acc xs) :
    decSumFrom p acc xs = acc + xs.sum := by
  rw [decSumFrom_eq_add_gain, roundingGain_of_exact h, add_zero]

/-- Partial sums stay representable while the total magnitude has at most `p` digits. -/
theorem exactFrom_of_abs_lt {p : ℕ} (hp : 0 < p) {acc : ℤ} {xs : List ℤ}
    (h : |acc| + (xs.map fun x => |x|).sum < 10 ^ p) : ExactFrom p acc xs := by
  induction xs generalizing acc with
  | nil => trivial
  | cons x xs ih =>
    have hsum : 0 ≤ (xs.map fun x => |x|).sum :=
      List.sum_nonneg (by simp only [List.mem_map]; rintro _ ⟨y, -, rfl⟩; exact abs_nonneg y)
    rw [List.map_cons, List.sum_cons] at h
    have htri := abs_add_le acc x
    exact ⟨roundDec_of_abs_lt hp (by linarith), ih (by linarith)⟩

/-- No addition rounds while every partial sum has at most `p` digits. -/
theorem exactFrom_of_prefixes {p : ℕ} (hp : 0 < p) {acc : ℤ} {xs : List ℤ}
    (h : ∀ ys, ys <+: xs → |acc + ys.sum| < 10 ^ p) : ExactFrom p acc xs := by
  induction xs generalizing acc with
  | nil => trivial
  | cons x xs ih =>
    refine ⟨roundDec_of_abs_lt hp ?_, ih fun ys hys => ?_⟩
    · have hfirst := h [x] (by simp)
      rwa [List.sum_singleton] at hfirst
    · have hlater := h (x :: ys) ((List.cons_prefix_cons).mpr ⟨rfl, hys⟩)
      rwa [List.sum_cons, ← add_assoc] at hlater

theorem decSum_of_abs_lt {p : ℕ} (hp : 0 < p) {xs : List ℤ}
    (h : (xs.map fun x => |x|).sum < 10 ^ p) : decSum p xs = xs.sum := by
  have he : ExactFrom p 0 xs := exactFrom_of_abs_lt hp (by simpa using h)
  unfold decSum
  rw [decSumFrom_of_exact he, zero_add]

end AccountingPlatform.Lib
