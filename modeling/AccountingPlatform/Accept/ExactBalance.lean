/-
  Is balance decided exactly?

  Both balance checks compare two `Decimal` running sums, and every addition of a running sum
  is rounded to the 28 digits of the default context. The checks therefore decide the balance
  of the rounded sums. They decide the exact balance precisely when no sum overflows and
  rounding does not tilt the comparison (`RoundingNeutral`); in particular whenever both
  exact totals have at most 28 digits, six of them after the point.
-/
import AccountingPlatform.Accept.AdjustingJournal

namespace AccountingPlatform.Accept

open AccountingPlatform.Lib AccountingPlatform.Core

/-! ## Running sums of the context -/

/-- No partial sum reaches the overflow trap. -/
def WithinEmax : ℤ → List ℤ → Prop
  | _, [] => True
  | start, x :: xs =>
    adjustedExponent (contextRound (start + x)) ≤ contextEmax ∧
      WithinEmax (contextRound (start + x)) xs

theorem contextSum_of_withinEmax {start : ℤ} {xs : List ℤ} (h : WithinEmax start xs) :
    contextSum start xs = .ok (decSumFrom contextPrecision start xs) := by
  induction xs generalizing start with
  | nil => rfl
  | cons x xs ih =>
    rw [contextSum, contextAdd, require_of h.1]
    exact ih h.2

theorem contextSum_of_overflow {start : ℤ} {xs : List ℤ} (h : ¬WithinEmax start xs) :
    contextSum start xs = .error .decimalOverflow := by
  induction xs generalizing start with
  | nil => exact absurd trivial h
  | cons x xs ih =>
    rw [contextSum, contextAdd]
    rcases require_cases (adjustedExponent (contextRound (start + x)) ≤ contextEmax)
        LedgerError.decimalOverflow with ⟨hx, hr⟩ | ⟨-, hr⟩
    · rw [hr]
      exact ih fun hxs => h ⟨hx, hxs⟩
    · rw [hr]
      rfl

/-- The adjusting loop keeps the same two running sums, line by line. -/
theorem parseAdjustingLoop_of_withinEmax {index : ℕ} {currency : String} {d c : ℤ}
    {raws : List RawJournalLine} {lines : List PostedJournalLine} {final : String}
    (h : parseAdjustingLines index currency raws = .ok (lines, final))
    (hd : WithinEmax d (lines.map fun line => (line.debitAmount : ℤ)))
    (hc : WithinEmax c (lines.map fun line => (line.creditAmount : ℤ))) :
    parseAdjustingLoop index currency d c raws = .ok (lines, final,
      decSumFrom contextPrecision d (lines.map fun line => (line.debitAmount : ℤ)),
      decSumFrom contextPrecision c (lines.map fun line => (line.creditAmount : ℤ))) := by
  induction raws generalizing index currency d c lines with
  | nil => cases h; rfl
  | cons raw rest ih =>
    simp only [parseAdjustingLines, bind_eq_ok, pure_eq_ok, Prod.mk.injEq] at h
    obtain ⟨parsed, hparsed, ⟨rest', final'⟩, hrest, rfl, rfl⟩ := h
    rw [parseAdjustingLoop, hparsed, ok_bind, contextAdd, require_of hd.1, contextAdd,
      require_of hc.1]
    simp only [ok_bind, pure, Except.pure, ih hrest hd.2 hc.2]
    rfl

theorem parseAdjustingLoop_of_overflow {index : ℕ} {currency : String} {d c : ℤ}
    {raws : List RawJournalLine} {lines : List PostedJournalLine} {final : String}
    (h : parseAdjustingLines index currency raws = .ok (lines, final))
    (ho : ¬(WithinEmax d (lines.map fun line => (line.debitAmount : ℤ)) ∧
      WithinEmax c (lines.map fun line => (line.creditAmount : ℤ)))) :
    parseAdjustingLoop index currency d c raws = .error .decimalOverflow := by
  induction raws generalizing index currency d c lines with
  | nil => cases h; exact absurd ⟨trivial, trivial⟩ ho
  | cons raw rest ih =>
    simp only [parseAdjustingLines, bind_eq_ok, pure_eq_ok, Prod.mk.injEq] at h
    obtain ⟨parsed, hparsed, ⟨rest', final'⟩, hrest, rfl, rfl⟩ := h
    rw [parseAdjustingLoop, hparsed, ok_bind, contextAdd, contextAdd]
    rcases require_cases (adjustedExponent (contextRound (d + (parsed.1.debitAmount : ℤ))) ≤ contextEmax)
        LedgerError.decimalOverflow with ⟨hd, hr⟩ | ⟨-, hr⟩
    · rcases require_cases
          (adjustedExponent (contextRound (c + (parsed.1.creditAmount : ℤ))) ≤ contextEmax)
          LedgerError.decimalOverflow with ⟨hc, hr'⟩ | ⟨-, hr'⟩
      · rw [hr, hr']
        simp only [ok_bind, pure, Except.pure]
        rw [ih hrest fun hw => ho ⟨⟨hd, hw.1⟩, ⟨hc, hw.2⟩⟩]
        rfl
      · rw [hr, hr']; rfl
    · rw [hr]; rfl

/-! ## The verdict -/

/-- The outcome is the exact verdict: success on equal exact totals, the imbalance error on
    different ones. -/
def DecidedExactly {α : Type} (outcome : Result α) (imbalance : LedgerError)
    (debits credits : List ℤ) : Prop :=
  (Succeeds outcome ↔ debits.sum = credits.sum) ∧
    (outcome = .error imbalance ↔ debits.sum ≠ credits.sum)

/-- Rounding does not tilt the comparison: it adds the same to both running sums, or the exact
    totals differ, and by something else than what rounding adds to one side over the other. -/
def RoundingNeutral (debits credits : List ℤ) : Prop :=
  roundingGain contextPrecision 0 debits = roundingGain contextPrecision 0 credits ∨
    (debits.sum ≠ credits.sum ∧
      debits.sum - credits.sum ≠
        roundingGain contextPrecision 0 credits - roundingGain contextPrecision 0 debits)

/-- The condition under which a balance check is exact. -/
def BalanceDecidable (debits credits : List ℤ) : Prop :=
  WithinEmax 0 debits ∧ WithinEmax 0 credits ∧ RoundingNeutral debits credits

theorem rounded_eq_iff {debits credits : List ℤ} (h : RoundingNeutral debits credits) :
    decSum contextPrecision debits = decSum contextPrecision credits ↔
      debits.sum = credits.sum := by
  unfold decSum
  rw [decSumFrom_eq_add_gain, decSumFrom_eq_add_gain]
  rcases h with h | ⟨hne, hgap⟩
  · omega
  · constructor
    · intro h; omega
    · intro h; exact absurd h hne

theorem roundingNeutral_of_iff {debits credits : List ℤ}
    (h : decSum contextPrecision debits = decSum contextPrecision credits ↔
      debits.sum = credits.sum) : RoundingNeutral debits credits := by
  unfold decSum at h
  rw [decSumFrom_eq_add_gain, decSumFrom_eq_add_gain] at h
  by_cases hs : debits.sum = credits.sum
  · exact Or.inl (by have := h.mpr hs; omega)
  · exact Or.inr ⟨hs, fun hgap => hs (h.mp (by omega))⟩

/-- A check that compares the two running sums decides exact balance on exactly the lists that
    satisfy the condition. -/
theorem decidedExactly_iff {α : Type} {outcome : Result α} {imbalance : LedgerError}
    {debits credits : List ℤ} (himb : imbalance ≠ .decimalOverflow)
    (hfit : WithinEmax 0 debits ∧ WithinEmax 0 credits →
      (Succeeds outcome ↔ decSum contextPrecision debits = decSum contextPrecision credits) ∧
      (outcome = .error imbalance ↔
        decSum contextPrecision debits ≠ decSum contextPrecision credits))
    (hover : ¬(WithinEmax 0 debits ∧ WithinEmax 0 credits) → outcome = .error .decimalOverflow) :
    DecidedExactly outcome imbalance debits credits ↔ BalanceDecidable debits credits := by
  constructor
  · rintro ⟨hok, herr⟩
    by_cases hw : WithinEmax 0 debits ∧ WithinEmax 0 credits
    · obtain ⟨hok', -⟩ := hfit hw
      exact ⟨hw.1, hw.2, roundingNeutral_of_iff (hok'.symm.trans hok)⟩
    · -- an overflow is neither an acceptance nor an imbalance
      have ho := hover hw
      have hne : debits.sum ≠ credits.sum := by
        intro heq
        obtain ⟨a, ha⟩ := hok.mpr heq
        rw [ho] at ha; cases ha
      have := herr.mpr hne
      rw [ho] at this
      exact absurd (Except.error.inj this).symm himb
  · rintro ⟨hd, hc, hn⟩
    obtain ⟨hok, herr⟩ := hfit ⟨hd, hc⟩
    have hiff := rounded_eq_iff hn
    exact ⟨hok.trans hiff, herr.trans (not_congr hiff)⟩

theorem requireBalanced_decided (lines : List JournalLineProposal) :
    DecidedExactly (requireBalanced lines) proposalImbalance (debitAmounts lines)
      (creditAmounts lines) ↔ BalanceDecidable (debitAmounts lines) (creditAmounts lines) := by
  apply decidedExactly_iff (by decide)
  · rintro ⟨hd, hc⟩
    rw [requireBalanced, contextSum_of_withinEmax hd, contextSum_of_withinEmax hc]
    simp only [ok_bind]
    exact ⟨by simp [Succeeds, decSum], by
      unfold decSum require
      split <;> simp_all⟩
  · intro hw
    rw [requireBalanced]
    by_cases hd : WithinEmax 0 (debitAmounts lines)
    · rw [contextSum_of_withinEmax hd, contextSum_of_overflow fun hc => hw ⟨hd, hc⟩]
      rfl
    · rw [contextSum_of_overflow hd]
      rfl

theorem postInit_eq_requireBalanced {f : JournalProposalFields}
    (h : requireProposalShape f = .ok ()) : f.postInit = requireBalanced f.lines := by
  rw [JournalProposalFields.postInit, h, ok_bind]

theorem parseAdjustingJournalLines_decided {raws : List RawJournalLine}
    {lines : List PostedJournalLine} {currency : String} (hlen : 2 ≤ raws.length)
    (hlines : parseAdjustingLines 1 "" raws = .ok (lines, currency)) :
    DecidedExactly (parseAdjustingJournalLines (some raws)) adjustingImbalance
      (lines.map fun line => (line.debitAmount : ℤ))
      (lines.map fun line => (line.creditAmount : ℤ)) ↔
    BalanceDecidable (lines.map fun line => (line.debitAmount : ℤ))
      (lines.map fun line => (line.creditAmount : ℤ)) := by
  apply decidedExactly_iff (by decide)
  · rintro ⟨hd, hc⟩
    rw [parseAdjustingJournalLines, fetch, ok_bind, require_of hlen, ok_bind,
      parseAdjustingLoop_of_withinEmax hlines hd hc, ok_bind]
    rcases require_cases (decSum contextPrecision (lines.map fun line => (line.debitAmount : ℤ)) =
        decSum contextPrecision (lines.map fun line => (line.creditAmount : ℤ)))
        adjustingImbalance with ⟨heq, hr⟩ | ⟨hne, hr⟩
    · unfold decSum at hr heq ⊢
      rw [hr]
      simp [Succeeds, heq, pure, Except.pure]
    · unfold decSum at hr hne ⊢
      rw [hr]
      simp [Succeeds, hne]
  · intro hw
    rw [parseAdjustingJournalLines, fetch, ok_bind, require_of hlen, ok_bind,
      parseAdjustingLoop_of_overflow hlines hw]
    rfl

/-! ## When nothing is rounded -/

theorem withinEmax_of_abs_lt {start : ℤ} {xs : List ℤ}
    (h : |start| + (xs.map fun x => |x|).sum < 10 ^ contextPrecision) : WithinEmax start xs := by
  induction xs generalizing start with
  | nil => trivial
  | cons x xs ih =>
    have hsum : 0 ≤ (xs.map fun x => |x|).sum :=
      List.sum_nonneg (by simp only [List.mem_map]; rintro _ ⟨y, -, rfl⟩; exact abs_nonneg y)
    rw [List.map_cons, List.sum_cons] at h
    have htri := abs_add_le start x
    have hlt : |start + x| < 10 ^ contextPrecision := by linarith
    have hround : contextRound (start + x) = start + x :=
      roundDec_of_abs_lt (by decide) hlt
    rw [WithinEmax, hround]
    refine ⟨?_, ih (by linarith)⟩
    -- at most 28 digits: the adjusted exponent is at most 21
    have hnat : (start + x).natAbs < 10 ^ contextPrecision := by
      have : (((start + x).natAbs : ℕ) : ℤ) < ((10 ^ contextPrecision : ℕ) : ℤ) := by
        rw [Int.natCast_natAbs]; exact_mod_cast hlt
      exact_mod_cast this
    have hlog : Nat.log 10 (start + x).natAbs ≤ contextPrecision := by
      rcases Nat.eq_zero_or_pos (start + x).natAbs with h0 | h0
      · rw [h0]; decide
      · exact (Nat.log_lt_of_lt_pow h0.ne' hnat).le
    unfold adjustedExponent contextEmax
    have : (contextPrecision : ℤ) = 28 := rfl
    omega

/-- Totals of at most 28 digits are compared exactly. -/
theorem balanceDecidable_of_lt {debits credits : List ℤ}
    (hd : (debits.map fun x => |x|).sum < 10 ^ contextPrecision)
    (hc : (credits.map fun x => |x|).sum < 10 ^ contextPrecision) :
    BalanceDecidable debits credits := by
  refine ⟨withinEmax_of_abs_lt (by simpa using hd), withinEmax_of_abs_lt (by simpa using hc),
    Or.inl ?_⟩
  rw [roundingGain_of_exact (exactFrom_of_abs_lt (by decide) (by simpa using hd)),
    roundingGain_of_exact (exactFrom_of_abs_lt (by decide) (by simpa using hc))]

/-- Debits of 10^22 and of one millionth against a credit of 10^22: 29 digits, of which the
    running sum keeps 28. -/
def oversizedLines : List RawJournalLine := [
  .object "110100" "debit" "KRW" (some "10000000000000000000000"),
  .object "110200" "debit" "KRW" (some "0.000001"),
  .object "410100" "credit" "KRW" (some "10000000000000000000000")]

/-- The same amounts as proposal lines. -/
def oversizedProposalLines : List JournalLineProposal := [
  ⟨1, "accounts_receivable", 10 ^ 28, 0, firstLine_pos, receivableRole_matches, by decide⟩,
  ⟨2, "usage_fee", 1, 0, secondLine_pos, by decide, by decide⟩,
  ⟨3, "usage_revenue", 0, 10 ^ 28, by decide, usageRole_matches, by decide⟩]

def oversizedProposal : JournalProposalFields where
  proposalId := "0f8fad5b-d9cb-469f-a165-70867728950e"
  proposalContractVersion := 1
  idempotencyKey := "k1"
  tenantReference := "urn:cwl:tenant:t1"
  legalEntityReference := "urn:cwl:legal_entity:e1"
  intendedBookRoleCode := "primary"
  transactionCurrency := "KRW"
  transactionDate := 1
  accountingDate := 1
  sourcePayloadHash := "sha256:" ++ "0000000000000000000000000000000000000000000000000000000000000000"
  sourceEventReferences := ["urn:cwl:event:1"]
  lines := oversizedProposalLines

end AccountingPlatform.Accept
