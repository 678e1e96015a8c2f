/-
  Error values, the identifier patterns and the amount parser of the posting core.

  An amount is a natural number of millionths: `_DECIMAL_PATTERN` admits at most six
  fractional digits, so every admitted decimal is a whole number of them, of any size.
-/
import AccountingPlatform.Lib.Outcome
import AccountingPlatform.Lib.Significant

namespace AccountingPlatform.Core

open AccountingPlatform.Lib

/-! ## Errors -/

/-- What the database raises through the driver. -/
inductive DatabaseErrorKind
  | uniqueViolation
  | checkViolation
  | numericValueOutOfRange
  | dataError
  deriving DecidableEq, Repr

/-- Exceptions a ledger command can end with. -/
inductive LedgerError
  /-- `AccountingValidationError`, other than the conflict below. -/
  | validation (message : String)
  /-- `IdempotencyConflictError`. -/
  | idempotencyConflict (message : String)
  /-- A driver error, which no ledger command catches. -/
  | database (kind : DatabaseErrorKind)
  /-- `OverflowError` of date arithmetic before day one. -/
  | dateOverflow
  /-- `decimal.Overflow`, trapped in the default context. -/
  | decimalOverflow
  /-- `KeyError` of a dictionary without the account code. -/
  | missingKey
  /-- `TypeError` of unpacking a row that was not found. -/
  | missingRow
  /-- `LookupError` of an encoding that Python does not know. -/
  | lookupError
  /-- `UnicodeEncodeError` of a text with a lone surrogate. -/
  | encodeError
  deriving DecidableEq, Repr

/-- `AccountingValidationError` or its subclass `IdempotencyConflictError`. -/
def LedgerError.isAccountingValidation : LedgerError → Prop
  | .validation _ | .idempotencyConflict _ => True
  | _ => False

/-- `IdempotencyConflictError`. -/
def LedgerError.isConflict : LedgerError → Prop
  | .idempotencyConflict _ => True
  | _ => False

def customerErrorReplacements : List (String × String) := [
  ("the database session is not provisioned for this tenant",
    "this deployment is not provisioned for this tenant"),
  ("Repair the fiscal-period control data for this book, then retry the close.",
    "Ask the platform operator to restore the fiscal-period control data for this book, then retry the close."),
  ("requires a stored trial_balance_snapshot", "requires stored close evidence"),
  ("without a trial-balance snapshot. Restore the trial_balance_snapshot for this book from the journal population, then retry the trial-balance read.",
    "without stored close evidence. Ask the platform operator to restore the close evidence for this book from the authoritative journal history, then retry the trial-balance read."),
  ("Restore the trial_balance_snapshot for this book from the journal population",
    "Ask the platform operator to restore the close evidence for this book from the authoritative journal history"),
  ("reversal date belongs to a closed fiscal period. Reverse into an open or soft-closed period, then retry reversal.",
    "reversal_date is outside the permitted accounting policy date range. Supply a reversal_date within the policy range, then retry reversal.")]

def customerSafeErrorMessage (message : String) : String :=
  customerErrorReplacements.foldl (fun text r => text.replace r.1 r.2) message

/-- The text a caller sees. -/
def LedgerError.text : LedgerError → Option String
  | .validation message => some (customerSafeErrorMessage message)
  | .idempotencyConflict message => some (customerSafeErrorMessage message)
  | .database _ => none
  | .dateOverflow => none
  | .decimalOverflow => none
  | .missingKey => none
  | .missingRow => none
  | .lookupError => none
  | .encodeError => none

abbrev Result (α : Type) := Except LedgerError α

/-! ## Patterns -/

def isLower (c : Char) : Bool := 'a' ≤ c && c ≤ 'z'
def isUpper (c : Char) : Bool := 'A' ≤ c && c ≤ 'Z'
def isDigit (c : Char) : Bool := '0' ≤ c && c ≤ '9'
def isLowerHex (c : Char) : Bool := isDigit c || ('a' ≤ c && c ≤ 'f')
def isHex (c : Char) : Bool := isLowerHex c || ('A' ≤ c && c ≤ 'F')

/-- `_CODE_PATTERN`: `^[a-z][a-z0-9_]{1,63}$`. -/
def matchesCode (value : String) : Bool :=
  match value.toList with
  | [] => false
  | c :: cs =>
    isLower c && 1 ≤ cs.length && cs.length ≤ 63 &&
      cs.all fun d => isLower d || isDigit d || d == '_'

/-- `_CURRENCY_PATTERN`: `^[A-Z]{3}$`. -/
def matchesCurrency (value : String) : Bool :=
  value.toList.length == 3 && value.toList.all isUpper

/-- `_HASH_PATTERN`: `^sha256:[0-9a-f]{64}$`. -/
def matchesHash (value : String) : Bool :=
  value.toList.take 7 == "sha256:".toList && (value.toList.drop 7).length == 64 &&
    (value.toList.drop 7).all isLowerHex

/-- Runs of hexadecimal digits of the given lengths, separated by hyphens. -/
def matchesHexGroups : List ℕ → List Char → Bool
  | [], cs => cs.isEmpty
  | [g], cs => cs.length == g && cs.all isHex
  | g :: g' :: gs, cs =>
    (cs.take g).length == g && (cs.take g).all isHex &&
      match cs.drop g with
      | [] => false
      | c :: rest => c == '-' && matchesHexGroups (g' :: gs) rest

/-- `_PROPOSAL_ID_PATTERN`: a hyphenated UUID in either case. -/
def matchesProposalId (value : String) : Bool :=
  matchesHexGroups [8, 4, 4, 4, 12] value.toList

/-- `_REFERENCE_PATTERN`: `^urn:cwl:[A-Za-z0-9_:.\-]+$`. -/
def matchesReference (value : String) : Bool :=
  value.toList.take 8 == "urn:cwl:".toList && !(value.toList.drop 8).isEmpty &&
    (value.toList.drop 8).all fun c =>
      isLower c || isUpper c || isDigit c || c == '_' || c == ':' || c == '.' || c == '-'

def requireCode (value label : String) : Result Unit :=
  require (matchesCode value = true)
    (.validation (label ++ " must be lower snake_case. Supply a valid " ++ label ++ ", then retry."))

def requireCurrency (value : String) : Result Unit :=
  require (matchesCurrency value = true)
    (.validation "currency code must contain three uppercase letters. Supply a three-letter uppercase ISO currency code, then retry.")

def requireReference (value label : String) : Result Unit :=
  require (matchesReference value = true)
    (.validation (label ++ " must be a CWL URN. Supply an opaque urn:cwl: reference, then retry."))

def requireProposalId (proposalId : String) : Result String := do
  require (matchesProposalId proposalId = true)
    (.validation "proposal_id must be a UUID. Supply the Billing published proposal_id, then retry posting.")
  pure proposalId

/-! ## Text of a UUID -/

theorem hexGroups_chars (gs : List ℕ) (cs : List Char) (h : matchesHexGroups gs cs = true) :
    ∀ c ∈ cs, isHex c = true ∨ c = '-' := by
  induction gs, cs using matchesHexGroups.induct with
  | case1 cs => simp_all [matchesHexGroups]
  | case2 g cs =>
    simp only [matchesHexGroups, Bool.and_eq_true, List.all_eq_true] at h
    exact fun c hc => Or.inl (h.2 c hc)
  | case3 g g' gs cs ih =>
    simp only [matchesHexGroups, Bool.and_eq_true, List.all_eq_true] at h
    obtain ⟨⟨-, htake⟩, hrest⟩ := h
    intro c hc
    rw [← List.take_append_drop g cs, List.mem_append] at hc
    rcases hc with hc | hc
    · exact Or.inl (htake c hc)
    · cases hd : cs.drop g with
      | nil => rw [hd] at hc; cases hc
      | cons d rest =>
        simp only [hd, Bool.and_eq_true, beq_iff_eq] at hrest
        rw [hd, List.mem_cons] at hc
        rcases hc with rfl | hc
        · exact Or.inr hrest.1
        · exact ih rest hrest.2 c hc

/-- A proposal id has no colon, so it cannot end in `:reversal`. -/
theorem proposalId_no_colon {id : String} (h : matchesProposalId id = true) :
    ':' ∉ id.toList := by
  intro hc
  rcases hexGroups_chars _ _ h ':' hc with h | h
  · exact absurd h (by decide)
  · exact absurd h (by decide)

/-! ## Amounts -/

/-- One unit of currency in millionths. -/
def unitScale : ℕ := 10 ^ 6

def digitValue (c : Char) : ℕ := c.toNat - '0'.toNat

def digitsValue (cs : List Char) : ℕ := cs.foldl (fun n c => 10 * n + digitValue c) 0

/-- The integer part of `_DECIMAL_PATTERN`: `0` or digits without a leading zero. -/
def matchesIntegerPart (cs : List Char) : Bool :=
  cs == ['0'] || (match cs with | [] => false | c :: _ => c != '0')

/-- The fractional part of `_DECIMAL_PATTERN`, with its point. -/
def matchesFraction : List Char → Bool
  | [] => true
  | c :: cs => c == '.' && 1 ≤ cs.length && cs.length ≤ 6 && cs.all isDigit

/-- `_DECIMAL_PATTERN`: `^(0|[1-9][0-9]*)(\.[0-9]{1,6})?$`. -/
def matchesDecimal (text : String) : Bool :=
  matchesIntegerPart (text.toList.takeWhile isDigit) &&
    matchesFraction (text.toList.dropWhile isDigit)

/-- Millionths denoted by a text that `_DECIMAL_PATTERN` admits. -/
def decimalMillionths (text : String) : ℕ :=
  let fraction := (text.toList.dropWhile isDigit).drop 1
  digitsValue (text.toList.takeWhile isDigit) * unitScale +
    digitsValue fraction * 10 ^ (6 - fraction.length)

def parseAmount (text : String) : Result ℕ := do
  require (matchesDecimal text = true)
    (.validation ("amount must be a canonical non-negative decimal with at most six fractional digits. " ++
      "Supply a non-negative decimal string with no more than six fractional digits, then retry ingest."))
  pure (decimalMillionths text)

/-! ## Decimal context -/

/-- Digits of Python's default decimal context. -/
def contextPrecision : ℕ := 28

/-- `Emax` of the default context. -/
def contextEmax : ℕ := 999999

/-- Value of `Decimal` addition, in millionths. -/
def contextRound (z : ℤ) : ℤ := roundDec contextPrecision z

/-- Adjusted exponent of a result of that many millionths. -/
def adjustedExponent (z : ℤ) : ℤ := Nat.log 10 z.natAbs - 6

/-- `Decimal` addition with its overflow trap. -/
def contextAdd (a b : ℤ) : Result ℤ := do
  require (adjustedExponent (contextRound (a + b)) ≤ contextEmax) .decimalOverflow
  pure (contextRound (a + b))

/-- `sum(values, start)`. -/
def contextSum (start : ℤ) : List ℤ → Result ℤ
  | [] => .ok start
  | x :: xs => do
    let next ← contextAdd start x
    contextSum next xs

/-- A sum that does not overflow is the rounded running sum. -/
theorem contextSum_eq {start s : ℤ} {xs : List ℤ} (h : contextSum start xs = .ok s) :
    s = decSumFrom contextPrecision start xs := by
  induction xs generalizing start with
  | nil => cases h; rfl
  | cons x xs ih =>
    simp only [contextSum, contextAdd, bind_eq_ok, require_eq_ok, pure_eq_ok] at h
    obtain ⟨next, ⟨_, _, rfl⟩, hs⟩ := h
    exact ih hs

/-- Every addition of the running sum is exact and does not overflow. -/
def SumsExactly : ℤ → List ℤ → Prop
  | _, [] => True
  | start, x :: xs => contextAdd start x = .ok (start + x) ∧ SumsExactly (start + x) xs

instance decSumsExactly : ∀ (start : ℤ) (xs : List ℤ), Decidable (SumsExactly start xs)
  | _, [] => isTrue trivial
  | start, x :: xs =>
    have := decSumsExactly (start + x) xs
    inferInstanceAs (Decidable (contextAdd start x = .ok (start + x) ∧ SumsExactly (start + x) xs))

theorem contextSum_of_sumsExactly {start : ℤ} {xs : List ℤ} (h : SumsExactly start xs) :
    contextSum start xs = .ok (start + xs.sum) := by
  induction xs generalizing start with
  | nil => simp [contextSum]
  | cons x xs ih => rw [contextSum, h.1, ok_bind, ih h.2, List.sum_cons, add_assoc]

example : parseAmount "25000.5" = .ok 25000500000 := by decide
example : matchesDecimal "0.0000010" = false := by decide

end AccountingPlatform.Core
