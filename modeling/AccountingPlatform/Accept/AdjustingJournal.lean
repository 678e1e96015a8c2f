/-
  Parsing of the lines of an adjusting journal.

  A raw line is what the payload holds before validation: not an object at all, or the three
  texts the parser reads with `str(raw_line.get(..) or "")` and the amount, absent when it is
  not a JSON string.
-/
import AccountingPlatform.Core.Proposal

namespace AccountingPlatform.Accept

open AccountingPlatform.Lib AccountingPlatform.Core

inductive RawJournalLine
  | notObject
  | object (chartAccountCode debitCreditCode currencyCode : String) (amount : Option String)

/-- One turn of the loop up to the amount: the parsed line and the journal's currency. -/
def parseAdjustingLine (index : ℕ) (transactionCurrency : String) :
    RawJournalLine → Result (PostedJournalLine × String)
  | .notObject => .error (.validation "each journal line must be a JSON object. Supply chart_account_code, debit_credit_code, amount, and currency_code, then retry the journal post.")
  | .object chartAccountCode debitCreditCode currencyCode rawAmount => do
    require (chartAccountCode ≠ "")
      (.validation "chart_account_code is required. Supply a statutory chart_account_code, then retry the journal post.")
    require (debitCreditCode = "debit" ∨ debitCreditCode = "credit")
      (.validation "debit_credit_code must be debit or credit. Supply debit_credit_code, then retry the journal post.")
    requireCurrency currencyCode
    require (transactionCurrency = "" ∨ currencyCode = transactionCurrency)
      (.validation "journal_lines currency_code must match on every line. Supply one book currency, then retry the journal post.")
    let text ← fetch rawAmount
      (.validation "amount must be an exact decimal string. Supply each adjusting-journal amount as a quoted decimal string, then retry the journal post.")
    let amount ← parseAmount text
    require (0 < amount)
      (.validation "amount must be greater than zero. Supply a positive exact decimal amount, then retry the journal post.")
    pure (⟨index, chartAccountCode, "adjusting",
      if debitCreditCode = "debit" then amount else 0,
      if debitCreditCode = "credit" then amount else 0⟩, currencyCode)

/-- The loop: parsed lines, currency and the two running totals. -/
def parseAdjustingLoop (index : ℕ) (transactionCurrency : String) (debitTotal creditTotal : ℤ) :
    List RawJournalLine → Result (List PostedJournalLine × String × ℤ × ℤ)
  | [] => .ok ([], transactionCurrency, debitTotal, creditTotal)
  | raw :: rest => do
    let parsed ← parseAdjustingLine index transactionCurrency raw
    let debitTotal ← contextAdd debitTotal parsed.1.debitAmount
    let creditTotal ← contextAdd creditTotal parsed.1.creditAmount
    let final ← parseAdjustingLoop (index + 1) parsed.2 debitTotal creditTotal rest
    pure (parsed.1 :: final.1, final.2)

def adjustingImbalance : LedgerError :=
  .validation "adjusting journal must balance. Correct the journal_lines amounts, then retry the journal post."

/-- `_parse_adjusting_journal_lines`; `none` is a payload that is not an array. -/
def parseAdjustingJournalLines (rawLines : Option (List RawJournalLine)) :
    Result (List PostedJournalLine × String) := do
  let rawLines ← fetch rawLines
    (.validation "journal_lines must be an array. Supply balanced adjusting journal_lines, then retry the journal post.")
  require (2 ≤ rawLines.length)
    (.validation "adjusting journal requires at least two lines. Supply balanced adjusting journal_lines, then retry the journal post.")
  let final ← parseAdjustingLoop 1 "" 0 0 rawLines
  require (final.2.2.1 = final.2.2.2) adjustingImbalance
  pure (final.1, final.2.1)

/-- The lines alone, each admitted on its own terms: the loop without its totals. -/
def parseAdjustingLines (index : ℕ) (transactionCurrency : String) :
    List RawJournalLine → Result (List PostedJournalLine × String)
  | [] => .ok ([], transactionCurrency)
  | raw :: rest => do
    let parsed ← parseAdjustingLine index transactionCurrency raw
    let final ← parseAdjustingLines (index + 1) parsed.2 rest
    pure (parsed.1 :: final.1, final.2)

end AccountingPlatform.Accept
