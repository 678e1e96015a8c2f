/-
  Calendar dates by ordinal number, as `datetime.date` computes them, and the fiscal-year
  identity of a period.
-/
import AccountingPlatform.Core.Proposal

namespace AccountingPlatform.Core

/-! ## Year, month and day of an ordinal -/

def isLeap (year : ℕ) : Bool := year % 4 == 0 && (year % 100 != 0 || year % 400 == 0)

/-- Year and zero-based day of the year of an ordinal (`_ord2ymd`). -/
def yearAndDay (ordinal : Date) : ℕ × ℕ :=
  let n := ordinal - 1
  let n400 := n / 146097
  let n := n % 146097
  let n100 := n / 36524
  let n := n % 36524
  let n4 := n / 1461
  let n := n % 1461
  let n1 := n / 365
  let day := n % 365
  let year := n400 * 400 + 1 + n100 * 100 + n4 * 4 + n1
  -- the last day of a leap cycle counts as day 366 of the year before
  if n1 = 4 ∨ n100 = 4 then (year - 1, 365) else (year, day)

def monthLengths (leap : Bool) : List ℕ :=
  [31, if leap then 29 else 28, 31, 30, 31, 30, 31, 31, 30, 31, 30, 31]

/-- Month and day of month, from a zero-based day of the year. -/
def monthAndDay : ℕ → ℕ → List ℕ → ℕ × ℕ
  | month, day, [] => (month, day + 1)
  | month, day, length :: rest =>
    if day < length then (month, day + 1) else monthAndDay (month + 1) (day - length) rest

def year (date : Date) : ℕ := (yearAndDay date).1

/-- A number with at least `width` digits. -/
def padded (width n : ℕ) : String :=
  let digits := Nat.toDigits 10 n
  String.ofList (List.replicate (width - digits.length) '0' ++ digits)

/-- `date.isoformat()`. -/
def isoformat (date : Date) : String :=
  let yd := yearAndDay date
  let md := monthAndDay 1 yd.2 (monthLengths (isLeap yd.1))
  padded 4 yd.1 ++ "-" ++ padded 2 md.1 ++ "-" ++ padded 2 md.2

/-! ## Fiscal year -/

/-- First digits of the runs of ten that `\d` matches. -/
def decimalZeros : List ℕ := [
  0x30, 0x660, 0x6f0, 0x7c0, 0x966, 0x9e6, 0xa66, 0xae6, 0xb66, 0xbe6, 0xc66, 0xce6, 0xd66, 0xde6,
  0xe50, 0xed0, 0xf20, 0x1040, 0x1090, 0x17e0, 0x1810, 0x1946, 0x19d0, 0x1a80, 0x1a90, 0x1b50,
  0x1bb0, 0x1c40, 0x1c50, 0xa620, 0xa8d0, 0xa900, 0xa9d0, 0xa9f0, 0xaa50, 0xabf0, 0xff10, 0x104a0,
  0x10d30, 0x11066, 0x110f0, 0x11136, 0x111d0, 0x112f0, 0x11450, 0x114d0, 0x11650, 0x116c0, 0x11730,
  0x118e0, 0x11950, 0x11c50, 0x11d50, 0x11da0, 0x11f50, 0x16a60, 0x16ac0, 0x16b50, 0x1d7ce, 0x1d7d8,
  0x1d7e2, 0x1d7ec, 0x1d7f6, 0x1e140, 0x1e2f0, 0x1e4f0, 0x1e950, 0x1fbf0]

def isDecimalDigit (c : Char) : Bool :=
  decimalZeros.any fun first => first ≤ c.toNat && c.toNat < first + 10

/-- `_fiscal_year_identity` of a stored period, whose start date is never absent. -/
def fiscalYearIdentity (periodCode : String) (periodStartDate : Date) : String :=
  let leading := periodCode.toList.take 4
  if leading.length = 4 ∧ leading.all isDecimalDigit then String.ofList leading
  else padded 4 (year periodStartDate)

example : isoformat 738886 = "2024-01-01" := by decide
example : isoformat 738945 = "2024-02-29" := by decide

end AccountingPlatform.Core
