/-
  The book-to-bank bridge (`reconciliation_bridge.py`).

  Money fields are `Decimal` objects; the bridge refuses those that are not finite and adds
  the others in the default decimal context. `exactVerdict` states the three equations over
  the rationals, `roundedVerdict` is what the rounded sums say.
-/
import AccountingPlatform.Bank.Matching
import AccountingPlatform.Lib.DecimalText

namespace AccountingPlatform.Bank

open AccountingPlatform.Lib AccountingPlatform.Core

/-! ## Arithmetic in the default context -/

/-- `left + right`. -/
def plus (left right : Decimal) : Except EvidenceError Decimal :=
  fetch (Context.default.add left right) .decimalOverflow

/-- `left - right`. -/
def minus (left right : Decimal) : Except EvidenceError Decimal :=
  fetch (Context.default.sub left right) .decimalOverflow

/-! ## Bridge -/

/-- The money fields of a bridge. -/
structure BridgeMoney (α : Type) where
  statementOpeningBalance : α
  statementPeriodMovements : α
  statementClosingBalance : α
  bookOpeningBalance : α
  postedCashBookMovements : α
  bookClosingBalance : α
  reconciledBookBalance : α
  outstandingBookItems : α
  outstandingBankItems : α
  deriving DecidableEq

def BridgeMoney.map {α β : Type} (f : α → β) (money : BridgeMoney α) : BridgeMoney β where
  statementOpeningBalance := f money.statementOpeningBalance
  statementPeriodMovements := f money.statementPeriodMovements
  statementClosingBalance := f money.statementClosingBalance
  bookOpeningBalance := f money.bookOpeningBalance
  postedCashBookMovements := f money.postedCashBookMovements
  bookClosingBalance := f money.bookClosingBalance
  reconciledBookBalance := f money.reconciledBookBalance
  outstandingBookItems := f money.outstandingBookItems
  outstandingBankItems := f money.outstandingBankItems

/-- The references a bridge carries from its input to its result. -/
structure BridgeReferences where
  reconciliationRunReference : String
  statementPopulationReference : String
  bookPopulationReference : String
  currencyCode : String
  tenantAccountReference : Option String
  legalEntityReference : Option String
  accountingBookReference : Option String
  bankAccountAssignmentReference : Option String
  deriving DecidableEq

structure BookToBankBridgeInput where
  references : BridgeReferences
  money : BridgeMoney Number

inductive BridgeStatus where
  | reconciled
  | notReconciled
  deriving DecidableEq

inductive BridgeException where
  | statementBalanceMismatch
  | bookBalanceMismatch
  | bridgeDifference
  deriving DecidableEq

structure BookToBankBridgeResult where
  references : BridgeReferences
  money : BridgeMoney Decimal
  bridgeBalance : Decimal
  unexplainedDifference : Decimal
  statusCode : BridgeStatus
  exceptionCode : Option BridgeException
  nextAction : String
  deriving DecidableEq

def requireFinite (fieldName : String) : Number → Except EvidenceError Decimal
  | .finite d => pure d
  | _ => .error (.valueError (fieldName ++ " must be a finite Decimal"))

/-- `_validate_bridge_money`, over `_BRIDGE_MONEY_FIELDS` in order. -/
def validateBridgeMoney (money : BridgeMoney Number) : Except EvidenceError (BridgeMoney Decimal) := do
  let opening ← requireFinite "statement_opening_balance" money.statementOpeningBalance
  let movements ← requireFinite "statement_period_movements" money.statementPeriodMovements
  let closing ← requireFinite "statement_closing_balance" money.statementClosingBalance
  let bookOpening ← requireFinite "book_opening_balance" money.bookOpeningBalance
  let posted ← requireFinite "posted_cash_book_movements" money.postedCashBookMovements
  let bookClosing ← requireFinite "book_closing_balance" money.bookClosingBalance
  let reconciled ← requireFinite "reconciled_book_balance" money.reconciledBookBalance
  let bookItems ← requireFinite "outstanding_book_items" money.outstandingBookItems
  let bankItems ← requireFinite "outstanding_bank_items" money.outstandingBankItems
  pure ⟨opening, movements, closing, bookOpening, posted, bookClosing, reconciled, bookItems,
    bankItems⟩

def statementMismatchAction (difference : Decimal) (currencyCode : String) : String :=
  "Review the immutable statement population: opening balance plus " ++
    "period movements differs from statement closing balance by " ++ difference.text ++ " " ++
    currencyCode ++ ". Correct the source evidence or mapping, then rerun reconciliation."

def bookMismatchAction (difference : Decimal) (currencyCode : String) : String :=
  "Review the immutable posted-book population: opening balance plus " ++
    "posted cash movements differs from book closing balance by " ++ difference.text ++ " " ++
    currencyCode ++ ". Correct the book population selection, then rerun reconciliation."

def bridgeDifferenceAction (difference : Decimal) (currencyCode : String) : String :=
  "Review outstanding book and bank items: the exact book-to-bank bridge differs by " ++
    difference.text ++ " " ++ currencyCode ++ ". Resolve the unmatched evidence or record an " ++
    "explicit reviewed exception before period-close evidence is accepted."

def reconciledAction : String :=
  "Attach this exact book-to-bank bridge to period-close evidence. This projection does not " ++
    "post journals or approve reconciliation."

/-- The verdict on three sums. -/
def judgeBridge (references : BridgeReferences) (money : BridgeMoney Decimal)
    (expectedStatementClosing expectedBookClosing bridgeBalance : Decimal) :
    Except EvidenceError BookToBankBridgeResult := do
  let result := BookToBankBridgeResult.mk references money bridgeBalance
  if expectedStatementClosing.value ≠ money.statementClosingBalance.value then
    let difference ← minus expectedStatementClosing money.statementClosingBalance
    pure (result difference .notReconciled (some .statementBalanceMismatch)
      (statementMismatchAction difference references.currencyCode))
  else if expectedBookClosing.value ≠ money.bookClosingBalance.value then
    let difference ← minus expectedBookClosing money.bookClosingBalance
    pure (result difference .notReconciled (some .bookBalanceMismatch)
      (bookMismatchAction difference references.currencyCode))
  else
    let unexplainedDifference ← minus bridgeBalance money.statementClosingBalance
    if unexplainedDifference.value ≠ 0 then
      pure (result unexplainedDifference .notReconciled (some .bridgeDifference)
        (bridgeDifferenceAction unexplainedDifference references.currencyCode))
    else pure (result .zero .reconciled none reconciledAction)

def computeBookToBankBridge (bridgeInput : BookToBankBridgeInput) :
    Except EvidenceError BookToBankBridgeResult := do
  let money ← validateBridgeMoney bridgeInput.money
  let expectedStatementClosing ←
    plus money.statementOpeningBalance money.statementPeriodMovements
  let expectedBookClosing ← plus money.bookOpeningBalance money.postedCashBookMovements
  let withBookItems ← plus money.reconciledBookBalance money.outstandingBookItems
  let bridgeBalance ← minus withBookItems money.outstandingBankItems
  judgeBridge bridgeInput.references money expectedStatementClosing expectedBookClosing bridgeBalance

/-! ## The equations -/

variable (m : BridgeMoney Decimal)

def statementExpected : ℚ := m.statementOpeningBalance.value + m.statementPeriodMovements.value

def bookExpected : ℚ := m.bookOpeningBalance.value + m.postedCashBookMovements.value

def withBookItems : ℚ := m.reconciledBookBalance.value + m.outstandingBookItems.value

def bridgeExpected : ℚ := withBookItems m - m.outstandingBankItems.value

/-- The first equation that fails and its difference. -/
def exactVerdict : Option BridgeException × ℚ :=
  if statementExpected m ≠ m.statementClosingBalance.value then
    (some .statementBalanceMismatch, statementExpected m - m.statementClosingBalance.value)
  else if bookExpected m ≠ m.bookClosingBalance.value then
    (some .bookBalanceMismatch, bookExpected m - m.bookClosingBalance.value)
  else if bridgeExpected m ≠ m.statementClosingBalance.value then
    (some .bridgeDifference, bridgeExpected m - m.statementClosingBalance.value)
  else (none, 0)

/-- The result is reconciled exactly when the equations hold, and otherwise reports the first
    that fails with its difference. -/
structure IsExact (result : BookToBankBridgeResult) : Prop where
  reconciled : result.statusCode = .reconciled ↔
    statementExpected m = m.statementClosingBalance.value ∧
      bookExpected m = m.bookClosingBalance.value ∧
      bridgeExpected m = m.statementClosingBalance.value
  verdict : (result.exceptionCode, result.unexplainedDifference.value) = exactVerdict m

/-! ## Rounding -/

abbrev context : Context := Context.default

/-- Sums a bridge forms, all below the largest exponent. -/
structure InRange : Prop where
  statement : ¬context.Overflows (statementExpected m)
  book : ¬context.Overflows (bookExpected m)
  bookItems : ¬context.Overflows (withBookItems m)
  bridge : ¬context.Overflows (bridgeExpected m + context.error (withBookItems m))

/-- What rounding adds to the bridge balance, in its two steps. -/
def bridgeGain : ℚ :=
  context.error (withBookItems m) +
    context.error (bridgeExpected m + context.error (withBookItems m))

/-- Rounding the difference takes back what rounding the balance added. -/
def Absorbs (difference gain : ℚ) : Prop :=
  ¬context.Overflows (difference + gain) ∧ context.round (difference + gain) = difference

/-- The balances that tie have at most 28 digits, and the difference of the first equation
    that fails, or of the last, survives the rounding of its terms. -/
def ToldExactly : Prop :=
  if statementExpected m ≠ m.statementClosingBalance.value then
    Absorbs (statementExpected m - m.statementClosingBalance.value)
      (context.error (statementExpected m))
  else
    context.Representable (statementExpected m) ∧
      if bookExpected m ≠ m.bookClosingBalance.value then
        Absorbs (bookExpected m - m.bookClosingBalance.value) (context.error (bookExpected m))
      else
        context.Representable (bookExpected m) ∧
          Absorbs (bridgeExpected m - m.statementClosingBalance.value) (bridgeGain m)

variable {m}

theorem plus_cases (left right : Decimal) :
    (plus left right = .error .decimalOverflow ∧ context.Overflows (left.value + right.value)) ∨
      ∃ r, plus left right = .ok r ∧ r.value = context.round (left.value + right.value) ∧
        ¬context.Overflows (left.value + right.value) := by
  unfold plus
  cases h : Context.default.add left right with
  | none => exact .inl ⟨rfl, Context.add_eq_none_iff.mp h⟩
  | some r =>
    refine .inr ⟨r, rfl, Context.add_value h, fun hover => ?_⟩
    rw [Context.add_eq_none_iff.mpr hover] at h
    nomatch h

theorem minus_cases (left right : Decimal) :
    (minus left right = .error .decimalOverflow ∧ context.Overflows (left.value - right.value)) ∨
      ∃ r, minus left right = .ok r ∧ r.value = context.round (left.value - right.value) ∧
        ¬context.Overflows (left.value - right.value) := by
  unfold minus
  cases h : Context.default.sub left right with
  | none => exact .inl ⟨rfl, Context.sub_eq_none_iff.mp h⟩
  | some r =>
    refine .inr ⟨r, rfl, Context.sub_value h, fun hover => ?_⟩
    rw [Context.sub_eq_none_iff.mpr hover] at h
    nomatch h

theorem validateBridgeMoney_finite (money : BridgeMoney Decimal) :
    validateBridgeMoney (money.map .finite) = .ok money := rfl

/-- A bridge stands when its sums are in range, each rounded once. -/
theorem computeBridge_cases (references : BridgeReferences) (m : BridgeMoney Decimal) :
    (¬InRange m ∧ computeBookToBankBridge ⟨references, m.map .finite⟩ = .error .decimalOverflow) ∨
    (InRange m ∧ ∃ statementClosing bookClosing bridgeBalance : Decimal,
      statementClosing.value = statementExpected m + context.error (statementExpected m) ∧
      bookClosing.value = bookExpected m + context.error (bookExpected m) ∧
      bridgeBalance.value = bridgeExpected m + bridgeGain m ∧
      computeBookToBankBridge ⟨references, m.map .finite⟩ =
        judgeBridge references m statementClosing bookClosing bridgeBalance) := by
  unfold computeBookToBankBridge
  dsimp only
  rw [validateBridgeMoney_finite, ok_bind]
  rcases plus_cases m.statementOpeningBalance m.statementPeriodMovements with
    ⟨h, hover⟩ | ⟨statementClosing, h, hstatement, hstatementRange⟩
  · exact .inl ⟨fun hrange => hrange.statement hover, by rw [h]; rfl⟩
  rw [h, ok_bind]
  rcases plus_cases m.bookOpeningBalance m.postedCashBookMovements with
    ⟨h, hover⟩ | ⟨bookClosing, h, hbook, hbookRange⟩
  · exact .inl ⟨fun hrange => hrange.book hover, by rw [h]; rfl⟩
  rw [h, ok_bind]
  rcases plus_cases m.reconciledBookBalance m.outstandingBookItems with
    ⟨h, hover⟩ | ⟨items, h, hitems, hitemsRange⟩
  · exact .inl ⟨fun hrange => hrange.bookItems hover, by rw [h]; rfl⟩
  rw [h, ok_bind]
  have hsum : items.value - m.outstandingBankItems.value =
      bridgeExpected m + context.error (withBookItems m) := by
    rw [hitems, Context.round_eq_add_error]
    unfold bridgeExpected withBookItems
    ring
  rcases minus_cases items m.outstandingBankItems with
    ⟨h, hover⟩ | ⟨bridgeBalance, h, hbridge, hbridgeRange⟩
  · exact .inl ⟨fun hrange => hrange.bridge (hsum ▸ hover), by rw [h]; rfl⟩
  rw [h, ok_bind]
  refine .inr ⟨⟨hstatementRange, hbookRange, hitemsRange, hsum ▸ hbridgeRange⟩,
    statementClosing, bookClosing, bridgeBalance, ?_, ?_, ?_, rfl⟩
  · rw [hstatement, Context.round_eq_add_error]
    rfl
  · rw [hbook, Context.round_eq_add_error]
    rfl
  · rw [hbridge, hsum, Context.round_eq_add_error]
    unfold bridgeGain
    ring

/-- A rounded difference is the exact one when the gain of its terms is absorbed. -/
theorem minus_exact_iff {left right : Decimal} {difference gain : ℚ}
    (h : left.value - right.value = difference + gain) :
    (∃ d, minus left right = .ok d ∧ d.value = difference) ↔ Absorbs difference gain := by
  unfold Absorbs
  rw [← h]
  rcases minus_cases left right with ⟨hminus, hover⟩ | ⟨r, hminus, hvalue, hrange⟩
  · rw [hminus]
    exact iff_of_false (fun ⟨d, hd, _⟩ => nomatch hd) fun habsorbs => habsorbs.1 hover
  · constructor
    · rintro ⟨d, hd, hdifference⟩
      obtain rfl : r = d := Except.ok.inj (hminus.symm.trans hd)
      exact ⟨hrange, hvalue ▸ hdifference⟩
    · rintro ⟨-, hdifference⟩
      exact ⟨r, hminus, hvalue.trans hdifference⟩

theorem absorbs_ne_zero {difference gain : ℚ} (h : Absorbs difference gain) (hne : difference ≠ 0) :
    difference + gain ≠ 0 := by
  intro hzero
  have hround := h.2
  rw [hzero, Context.round_zero] at hround
  exact hne hround.symm

/-! ## Verdicts -/

/-- What a result says of the equations. -/
def Reports (verdict : Option BridgeException × ℚ) (result : BookToBankBridgeResult) : Prop :=
  (result.exceptionCode, result.unexplainedDifference.value) = verdict

section Stage

variable {left right : Decimal} {report : Decimal → BookToBankBridgeResult}
  {rest : Except EvidenceError BookToBankBridgeResult} {code : BridgeException} {expected gain : ℚ}

/-- An equation that fails is reported exactly when its difference survives. -/
theorem stage_fails_iff (hleft : left.value = expected + gain) (hne : expected ≠ right.value)
    (hcode : ∀ d, (report d).exceptionCode = some code)
    (hdifference : ∀ d, (report d).unexplainedDifference = d)
    (hrest : ∀ result, rest = .ok result → result.exceptionCode ≠ some code) :
    (∃ result, (if left.value ≠ right.value then do
        let d ← minus left right
        pure (report d)
      else rest) = .ok result ∧ Reports (some code, expected - right.value) result) ↔
    Absorbs (expected - right.value) gain := by
  have hterms : left.value - right.value = expected - right.value + gain := by rw [hleft]; ring
  by_cases htold : left.value = right.value
  · rw [if_neg (not_not.mpr htold)]
    refine iff_of_false (fun ⟨result, hresult, hreports⟩ => ?_) fun habsorbs => ?_
    · exact hrest result hresult (congrArg Prod.fst hreports)
    · exact absorbs_ne_zero habsorbs (sub_ne_zero.mpr hne) (hterms ▸ sub_eq_zero.mpr htold)
  · rw [if_pos htold, ← minus_exact_iff hterms]
    constructor
    · rintro ⟨result, hresult, hreports⟩
      obtain ⟨d, hd, hpure⟩ := bind_eq_ok.mp hresult
      obtain rfl := pure_eq_ok.mp hpure
      exact ⟨d, hd, hdifference d ▸ congrArg Prod.snd hreports⟩
    · rintro ⟨d, hd, hvalue⟩
      exact ⟨report d, by rw [hd]; rfl, Prod.ext (hcode d) ((congrArg Decimal.value (hdifference d)).trans hvalue)⟩

/-- An equation that holds is passed over exactly when its balance was not rounded. -/
theorem stage_holds_iff (hleft : left.value = expected + context.error expected)
    (heq : expected = right.value) (hcode : ∀ d, (report d).exceptionCode = some code)
    {verdict : Option BridgeException × ℚ} (hother : verdict.1 ≠ some code) :
    (∃ result, (if left.value ≠ right.value then do
        let d ← minus left right
        pure (report d)
      else rest) = .ok result ∧ Reports verdict result) ↔
    context.Representable expected ∧ ∃ result, rest = .ok result ∧ Reports verdict result := by
  have hexact : left.value = right.value ↔ context.Representable expected := by
    rw [hleft, ← Context.error_eq_zero_iff, ← heq]
    exact add_eq_left
  by_cases htold : left.value = right.value
  · rw [if_neg (not_not.mpr htold)]
    exact (and_iff_right (hexact.mp htold)).symm
  · rw [if_pos htold]
    refine iff_of_false (fun ⟨result, hresult, hreports⟩ => ?_) fun h => htold (hexact.mpr h.1)
    obtain ⟨d, -, hpure⟩ := bind_eq_ok.mp hresult
    obtain rfl := pure_eq_ok.mp hpure
    exact hother ((congrArg Prod.fst hreports).symm.trans (hcode d))

/-- A stage that reports another code reports only its own or what follows it. -/
theorem stage_code_ne {other : BridgeException} (hcode : ∀ d, (report d).exceptionCode = some code)
    (hother : code ≠ other)
    (hrest : ∀ result, rest = .ok result → result.exceptionCode ≠ some other) :
    ∀ result, (if left.value ≠ right.value then do
        let d ← minus left right
        pure (report d)
      else rest) = .ok result → result.exceptionCode ≠ some other := by
  intro result h
  split_ifs at h with hties
  · obtain ⟨d, -, hpure⟩ := bind_eq_ok.mp h
    obtain rfl := pure_eq_ok.mp hpure
    rw [hcode d]
    exact fun heq => hother (Option.some.inj heq)
  · exact hrest result h

variable {final : BookToBankBridgeResult}

/-- The last stage reports a difference that is not zero. -/
theorem lastStage_code_ne {other : BridgeException}
    (hcode : ∀ d, (report d).exceptionCode = some code) (hother : code ≠ other)
    (hfinal : final.exceptionCode = none) :
    ∀ result, (do
        let d ← minus left right
        if d.value ≠ 0 then pure (report d) else pure final) = Except.ok result →
      result.exceptionCode ≠ some other := by
  intro result h
  obtain ⟨d, -, hpure⟩ := bind_eq_ok.mp h
  split_ifs at hpure
  · obtain rfl := pure_eq_ok.mp hpure
    rw [hcode d]
    exact fun heq => hother (Option.some.inj heq)
  · obtain rfl := pure_eq_ok.mp hpure
    rw [hfinal]
    nofun

theorem lastStage_iff (hleft : left.value = expected + gain)
    (hcode : ∀ d, (report d).exceptionCode = some code)
    (hdifference : ∀ d, (report d).unexplainedDifference = d)
    (hfinal : final.exceptionCode = none) (hzero : final.unexplainedDifference = .zero) :
    (∃ result, (do
        let d ← minus left right
        if d.value ≠ 0 then pure (report d) else pure final) = Except.ok result ∧
      Reports (if expected ≠ right.value then (some code, expected - right.value) else (none, 0))
        result) ↔ Absorbs (expected - right.value) gain := by
  have hterms : left.value - right.value = expected - right.value + gain := by rw [hleft]; ring
  have hreport {d : Decimal} : Reports (some code, d.value) (report d) :=
    Prod.ext (hcode d) (congrArg Decimal.value (hdifference d))
  have hdone : Reports (none, 0) final :=
    Prod.ext hfinal ((congrArg Decimal.value hzero).trans Decimal.value_zero)
  rw [← minus_exact_iff hterms]
  constructor
  · rintro ⟨result, hresult, hreports⟩
    obtain ⟨d, hd, hpure⟩ := bind_eq_ok.mp hresult
    refine ⟨d, hd, ?_⟩
    by_cases hd0 : d.value = 0
    · rw [if_neg (not_not.mpr hd0)] at hpure
      obtain rfl := pure_eq_ok.mp hpure
      by_cases heq : expected = right.value
      · rw [hd0, heq, sub_self]
      · rw [if_pos heq] at hreports
        exact nomatch (congrArg Prod.fst (hdone.symm.trans hreports))
    · rw [if_pos hd0] at hpure
      obtain rfl := pure_eq_ok.mp hpure
      by_cases heq : expected = right.value
      · rw [if_neg (not_not.mpr heq)] at hreports
        exact nomatch (congrArg Prod.fst (hreport.symm.trans hreports))
      · rw [if_pos heq] at hreports
        exact congrArg Prod.snd (hreport.symm.trans hreports)
  · rintro ⟨d, hd, hvalue⟩
    by_cases heq : expected = right.value
    · have hd0 : d.value = 0 := by rw [hvalue, heq, sub_self]
      refine ⟨final, ?_, ?_⟩
      · rw [hd, ok_bind, if_neg (not_not.mpr hd0)]
        rfl
      · rw [if_neg (not_not.mpr heq)]
        exact hdone
    · have hd0 : d.value ≠ 0 := by rw [hvalue]; exact sub_ne_zero.mpr heq
      refine ⟨report d, ?_, ?_⟩
      · rw [hd, ok_bind, if_pos hd0]
        rfl
      · rw [if_pos heq, ← hvalue]
        exact hreport

end Stage

theorem exactVerdict_eq_none_iff :
    (exactVerdict m).1 = none ↔
      statementExpected m = m.statementClosingBalance.value ∧
        bookExpected m = m.bookClosingBalance.value ∧
        bridgeExpected m = m.statementClosingBalance.value := by
  unfold exactVerdict
  split_ifs <;> simp_all

/-- A result is reconciled exactly when it carries no exception. -/
theorem judgeBridge_status {references : BridgeReferences}
    {statementClosing bookClosing bridgeBalance : Decimal} {result : BookToBankBridgeResult}
    (h : judgeBridge references m statementClosing bookClosing bridgeBalance = .ok result) :
    result.statusCode = .reconciled ↔ result.exceptionCode = none := by
  unfold judgeBridge at h
  dsimp only at h
  split_ifs at h
  · obtain ⟨d, -, hpure⟩ := bind_eq_ok.mp h
    obtain rfl := pure_eq_ok.mp hpure
    exact iff_of_false nofun nofun
  · obtain ⟨d, -, hpure⟩ := bind_eq_ok.mp h
    obtain rfl := pure_eq_ok.mp hpure
    exact iff_of_false nofun nofun
  · obtain ⟨d, -, hpure⟩ := bind_eq_ok.mp h
    split_ifs at hpure
    · obtain rfl := pure_eq_ok.mp hpure
      exact iff_of_false nofun nofun
    · obtain rfl := pure_eq_ok.mp hpure
      exact iff_of_true rfl rfl

/-- For the results of a bridge, reporting the exact verdict is all there is to exactness. -/
theorem isExact_iff_reports {result : BookToBankBridgeResult}
    (hstatus : result.statusCode = .reconciled ↔ result.exceptionCode = none) :
    IsExact m result ↔ Reports (exactVerdict m) result := by
  refine ⟨fun h => h.verdict, fun h => ⟨?_, h⟩⟩
  rw [hstatus, ← exactVerdict_eq_none_iff]
  exact (congrArg Prod.fst h).symm ▸ Iff.rfl

theorem judgeBridge_exact_iff {references : BridgeReferences}
    {statementClosing bookClosing bridgeBalance : Decimal}
    (hstatement : statementClosing.value = statementExpected m + context.error (statementExpected m))
    (hbook : bookClosing.value = bookExpected m + context.error (bookExpected m))
    (hbridge : bridgeBalance.value = bridgeExpected m + bridgeGain m) :
    (∃ result, judgeBridge references m statementClosing bookClosing bridgeBalance = .ok result ∧
      Reports (exactVerdict m) result) ↔ ToldExactly m := by
  unfold judgeBridge ToldExactly exactVerdict
  dsimp only
  by_cases hstatementTies : statementExpected m = m.statementClosingBalance.value
  · rw [if_neg (not_not.mpr hstatementTies), if_neg (not_not.mpr hstatementTies),
      stage_holds_iff hstatement hstatementTies (fun _ => rfl) (by split_ifs <;> nofun)]
    refine and_congr_right fun _ => ?_
    by_cases hbookTies : bookExpected m = m.bookClosingBalance.value
    · rw [if_neg (not_not.mpr hbookTies), if_neg (not_not.mpr hbookTies),
        stage_holds_iff hbook hbookTies (fun _ => rfl) (by split_ifs <;> nofun)]
      refine and_congr_right fun _ => ?_
      exact lastStage_iff hbridge (fun _ => rfl) (fun _ => rfl) rfl rfl
    · rw [if_pos hbookTies, if_pos hbookTies]
      exact stage_fails_iff hbook hbookTies (fun _ => rfl) (fun _ => rfl)
        (lastStage_code_ne (fun _ => rfl) nofun rfl)
  · rw [if_pos hstatementTies, if_pos hstatementTies]
    exact stage_fails_iff hstatement hstatementTies (fun _ => rfl) (fun _ => rfl)
      (stage_code_ne (fun _ => rfl) nofun (lastStage_code_ne (fun _ => rfl) nofun rfl))

/-- A statement whose opening balance has 29 digits and whose movement is one unit. -/
def longStatement : BridgeMoney Decimal where
  statementOpeningBalance := ⟨false, 10 ^ 28, 0⟩
  statementPeriodMovements := ⟨false, 1, 0⟩
  statementClosingBalance := ⟨false, 10 ^ 28, 0⟩
  bookOpeningBalance := .zero
  postedCashBookMovements := .zero
  bookClosingBalance := .zero
  reconciledBookBalance := ⟨false, 10 ^ 28, 0⟩
  outstandingBookItems := .zero
  outstandingBankItems := .zero

def sampleReferences : BridgeReferences where
  reconciliationRunReference := "run-1"
  statementPopulationReference := "statements-1"
  bookPopulationReference := "books-1"
  currencyCode := "KRW"
  tenantAccountReference := none
  legalEntityReference := none
  accountingBookReference := none
  bankAccountAssignmentReference := none

end AccountingPlatform.Bank
