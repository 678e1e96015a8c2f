/-
  ISO 8601 texts of dates and timestamps, as `datetime` prints and parses them.

  The parsers read the UTF-8 bytes of a text, as CPython does. A timestamp that was printed in
  UTC is read back as the same moment (`fromisoformat_formatTimestamp`).
-/
import AccountingPlatform.Core.CalendarDate

namespace AccountingPlatform.Core

/-! ## Bytes and digits -/

/-- The UTF-8 bytes of a character. -/
def utf8Char (c : Char) : List ℕ := (String.utf8EncodeChar c).map UInt8.toNat

def utf8Bytes (chars : List Char) : List ℕ := chars.flatMap utf8Char

def isDigitByte (b : ℕ) : Bool := 48 ≤ b && b ≤ 57

/-- `parse_digits`: the number in the first `count` bytes and the bytes after it. -/
def parseDigits (count : ℕ) (bytes : List ℕ) : Option (ℕ × List ℕ) :=
  let digits := bytes.take count
  if digits.length = count ∧ digits.all isDigitByte then
    some (digits.foldl (fun n b => 10 * n + (b - 48)) 0, bytes.drop count)
  else none

/-! ## Ordinals -/

/-- `_days_before_year`. -/
def daysBeforeYear (year : ℕ) : ℕ :=
  let y := year - 1
  y * 365 + y / 4 - y / 100 + y / 400

/-- `_days_before_month`. -/
def daysBeforeMonth (year month : ℕ) : ℕ := ((monthLengths (isLeap year)).take (month - 1)).sum

/-- `_days_in_month`. -/
def daysInMonth (year month : ℕ) : ℕ := (monthLengths (isLeap year)).getD (month - 1) 0

/-- `_ymd2ord`. -/
def ordinalOf (year month day : ℕ) : Date := daysBeforeYear year + daysBeforeMonth year month + day

/-- The ordinal of `date.max`. -/
def maxOrdinal : Date := 3652059

/-- `date(year, month, day)`. -/
def dateOf (year month day : ℕ) : Option Date :=
  if 1 ≤ year ∧ year ≤ 9999 ∧ 1 ≤ month ∧ month ≤ 12 ∧ 1 ≤ day ∧ day ≤ daysInMonth year month then
    some (ordinalOf year month day)
  else none

/-- `iso_week1_monday`. -/
def isoWeek1Monday (year : ℕ) : Date :=
  let first := ordinalOf year 1 1
  let weekday := (first + 6) % 7
  if 3 < weekday then first - weekday + 7 else first - weekday

/-- `iso_to_ymd`: only some years have a week 53. -/
def isoWeekDate (year week day : ℕ) : Option Date :=
  let weekday := (ordinalOf year 1 1 + 6) % 7
  if 1 ≤ year ∧ year ≤ 9999 ∧ 1 ≤ day ∧ day ≤ 7 ∧
      (1 ≤ week ∧ week ≤ 52 ∨ week = 53 ∧ (weekday = 3 ∨ weekday = 2 ∧ isLeap year = true)) ∧
      isoWeek1Monday year + (week - 1) * 7 + day - 1 ≤ maxOrdinal then
    some (isoWeek1Monday year + (week - 1) * 7 + day - 1)
  else none

/-! ## Parsing dates -/

/-- The byte after a separator, when one is used. -/
def skipDash (usesSeparator : Bool) (bytes : List ℕ) : Option (List ℕ) :=
  if usesSeparator then
    if bytes.head? = some 45 then some bytes.tail else none
  else some bytes

/-- `parse_isoformat_date`; what stands behind the day is not looked at. -/
def parseIsoformatDate (bytes : List ℕ) (length : ℕ) : Option Date := do
  let (year, p) ← parseDigits 4 bytes
  let usesSeparator := p.head? = some 45
  let p := if usesSeparator then p.tail else p
  if p.head? = some 87 then
    let (week, p) ← parseDigits 2 p.tail
    if bytes.length - p.length < length then
      let p ← skipDash usesSeparator p
      let (day, _) ← parseDigits 1 p
      isoWeekDate year week day
    else isoWeekDate year week 1
  else
    let (month, p) ← parseDigits 2 p
    let p ← skipDash usesSeparator p
    let (day, _) ← parseDigits 2 p
    dateOf year month day

/-- `date.fromisoformat`. -/
def dateFromIsoformat (text : String) : Option Date :=
  let bytes := utf8Bytes text.toList
  if bytes.length ∈ [7, 8, 10] then parseIsoformatDate bytes bytes.length else none

/-! ## Parsing timestamps -/

/-- `_find_isoformat_datetime_separator`. -/
def separatorLocation (bytes : List ℕ) : ℕ :=
  if bytes.length = 7 then 7
  else if bytes[4]? = some 45 then
    if bytes[5]? = some 87 then
      if bytes[8]? = some 45 then
        if (bytes[10]?).any isDigitByte then 8 else 10
      else 8
    else 10
  else if bytes[4]? = some 87 then
    let stop := 7 + ((bytes.drop 7).takeWhile isDigitByte).length
    if stop < 9 then stop else if stop % 2 = 0 then 7 else 8
  else 8

/-- The pairs of digits of a time and the fraction behind them, if any. `zone` is the text
    behind the time; the flag tells whether something else stood behind the last digit. -/
def parseTimePairs (zone : List ℕ) : ℕ → Bool → List ℕ → Option (List ℕ × Option (List ℕ) × Bool)
  | 0, _, p => some ([], some p, false)
  | count + 1, hasSeparator, p => do
    let (value, p) ← parseDigits 2 p
    let c := (p ++ zone).headD 0
    -- the first pair decides on the separator
    let hasSeparator := if count = 2 then c == 58 else hasSeparator
    if p.length ≤ 1 then pure ([value], none, c != 0)
    else if hasSeparator = true ∧ c = 58 then
      let (values, rest) ← parseTimePairs zone count hasSeparator p.tail
      pure (value :: values, rest)
    else if c = 46 ∨ c = 44 then pure ([value], some p.tail, false)
    else if hasSeparator then none
    else
      let (values, rest) ← parseTimePairs zone count hasSeparator p
      pure (value :: values, rest)

/-- `parse_hh_mm_ss_ff`: hour, minute, second and microsecond, and whether text was left. -/
def parseTimeParts (bytes zone : List ℕ) : Option ((ℕ × ℕ × ℕ × ℕ) × Bool) := do
  let (pairs, fraction, leftover) ← parseTimePairs zone 3 true bytes
  let parts := fun microsecond => (pairs.getD 0 0, pairs.getD 1 0, pairs.getD 2 0, microsecond)
  match fraction with
  | none => pure (parts 0, leftover)
  | some fraction =>
    let (value, p) ← parseDigits (min 6 fraction.length) fraction
    pure (parts (value * 10 ^ (6 - fraction.length)),
      ((p ++ zone).dropWhile isDigitByte).headD 0 != 0)

def microseconds (parts : ℕ × ℕ × ℕ × ℕ) : ℕ :=
  ((parts.1 * 60 + parts.2.1) * 60 + parts.2.2.1) * 1000000 + parts.2.2.2

/-- A sign or `Z` begins the zone of a time. -/
def beginsZone (b : ℕ) : Bool := b == 43 || b == 45 || b == 90

/-- `parse_isoformat_time`: the time of the day, in microseconds, and the offset from UTC when
    there is one. -/
def parseIsoformatTime (bytes : List ℕ) : Option (ℕ × Option ℤ) := do
  let zone := bytes.dropWhile fun b => !beginsZone b
  let (parts, leftover) ← parseTimeParts (bytes.takeWhile fun b => !beginsZone b) zone
  let offset ← match zone with
    | [] => if leftover then none else pure none
    | sign :: zone =>
      if sign = 90 then
        if zone = [] then pure (some 0) else none
      else do
        let (zoneParts, leftover) ← parseTimeParts zone []
        if leftover = false ∧ microseconds zoneParts < 86400000000 then
          pure (some (if sign = 45 then -(microseconds zoneParts : ℤ) else microseconds zoneParts))
        else none
  if parts.1 < 24 ∧ parts.2.1 < 60 ∧ parts.2.2.1 < 60 then pure (microseconds parts, offset) else none

/-- A parsed timestamp: microseconds on the local clock, and the offset of an aware one. -/
structure IsoDatetime where
  clock : ℕ
  utcOffset : Option ℤ
  deriving DecidableEq

/-- `datetime.fromisoformat`. -/
def datetimeFromIsoformat (text : List Char) : Option IsoDatetime := do
  let bytes := utf8Bytes text
  let location := separatorLocation bytes
  let date ← parseIsoformatDate bytes location
  if bytes.length ≤ location then pure ⟨date * 86400000000, none⟩
  else
    -- the separator is one character, of up to four bytes
    let first := bytes.getD location 0
    let width := if first < 128 then 1 else if first / 16 = 14 then 3 else if first / 16 = 15 then 4 else 2
    let (time, offset) ← parseIsoformatTime (bytes.drop (location + width))
    pure ⟨date * 86400000000 + time, offset⟩

/-! ## Printing timestamps -/

/-- `str.replace(old, new)`; the number counts the characters of a match still to be skipped. -/
def replaceFrom (old new : List Char) : ℕ → List Char → List Char
  | _, [] => []
  | skip + 1, _ :: cs => replaceFrom old new skip cs
  | 0, c :: cs =>
    if old.isPrefixOf (c :: cs) then new ++ replaceFrom old new (old.length - 1) cs
    else c :: replaceFrom old new 0 cs

def replaceText (old new : List Char) (text : List Char) : List Char := replaceFrom old new 0 text

/-- `isoformat()` of a moment in UTC, up to the offset. -/
def utcClock (moment : ℕ) : List Char :=
  let time := moment % 86400000000
  let second := time / 1000000
  (isoformat (moment / 86400000000)).toList ++ 'T' :: (padded 2 (second / 3600)).toList ++
    ':' :: (padded 2 (second / 60 % 60)).toList ++ ':' :: (padded 2 (second % 60)).toList ++
    if time % 1000000 = 0 then [] else '.' :: (padded 6 (time % 1000000)).toList

/-- `_format_timestamp`. -/
def formatTimestamp (moment : ℕ) : List Char :=
  replaceText ['+', '0', '0', ':', '0', '0'] ['Z'] (utcClock moment ++ ['+', '0', '0', ':', '0', '0'])

/-- The moments a `datetime` can stand for. -/
def InDatetimeRange (moment : ℕ) : Prop :=
  86400000000 ≤ moment ∧ moment < (maxOrdinal + 1) * 86400000000

/-! ## Digits -/

theorem utf8Char_of_lt {c : Char} (h : c.toNat < 128) : utf8Char c = [c.toNat] := by
  have hsize : c.utf8Size = 1 := by
    rw [Char.utf8Size_eq_one_iff]
    exact UInt32.le_iff_toNat_le.mpr (by show c.toNat ≤ 127; omega)
  rw [utf8Char, String.utf8EncodeChar_eq_singleton hsize]
  simp only [List.map_cons, List.map_nil, List.cons.injEq, and_true]
  show c.val.toUInt8.toNat = c.toNat
  rw [UInt32.toNat_toUInt8]
  exact Nat.mod_eq_of_lt (by show c.toNat < 256; omega)

theorem utf8Bytes_ascii {chars : List Char} (h : ∀ c ∈ chars, c.toNat < 128) :
    utf8Bytes chars = chars.map Char.toNat := by
  induction chars with
  | nil => rfl
  | cons c chars ih =>
    rw [utf8Bytes, List.flatMap_cons, utf8Char_of_lt (h c List.mem_cons_self), List.map_cons,
      List.singleton_append]
    exact congrArg _ (ih fun d hd => h d (List.mem_cons_of_mem c hd))

theorem utf8Bytes_append (front chars : List Char) :
    utf8Bytes (front ++ chars) = utf8Bytes front ++ utf8Bytes chars := List.flatMap_append

theorem padded_toList (width n : ℕ) : (padded width n).toList =
    List.replicate (width - (Nat.toDigits 10 n).length) '0' ++ Nat.toDigits 10 n := by
  rw [padded, String.toList_ofList]

theorem padded_digit {width n : ℕ} {c : Char} (h : c ∈ (padded width n).toList) :
    48 ≤ c.toNat ∧ c.toNat ≤ 57 := by
  rw [padded_toList, List.mem_append] at h
  rcases h with h | h
  · rw [List.eq_of_mem_replicate h]
    decide
  · have hdigit := Nat.isDigit_of_mem_toDigits (by decide) (by decide) h
    simp only [Char.isDigit, Bool.and_eq_true, decide_eq_true_eq] at hdigit
    exact ⟨UInt32.le_iff_toNat_le.mp hdigit.1, UInt32.le_iff_toNat_le.mp hdigit.2⟩

theorem padded_length {width n : ℕ} (hwidth : 0 < width) (h : n < 10 ^ width) :
    (padded width n).toList.length = width := by
  have hle := (Nat.length_toDigits_le_iff (b := 10) (by decide) hwidth).mpr h
  rw [padded_toList, List.length_append, List.length_replicate]
  omega

/-- A padded number is read back with the bytes that follow it. -/
theorem parseDigits_padded {width n : ℕ} (hwidth : 0 < width) (h : n < 10 ^ width) (rest : List ℕ) :
    parseDigits width (utf8Bytes (padded width n).toList ++ rest) = some (n, rest) := by
  have hlength := padded_length hwidth h
  have hbytes : utf8Bytes (padded width n).toList = (padded width n).toList.map Char.toNat :=
    utf8Bytes_ascii fun c hc => by
      have := padded_digit hc
      omega
  have hvalue : ((padded width n).toList.map Char.toNat).foldl (fun n b => 10 * n + (b - 48)) 0 = n := by
    rw [List.foldl_map]
    show Nat.ofDigitChars 10 (padded width n).toList 0 = n
    rw [padded_toList, Nat.ofDigitChars_append, Nat.ofDigitChars_replicate_zero, Nat.mul_zero,
      Nat.ofDigitChars_ten_toDigits]
  have hmap : ((padded width n).toList.map Char.toNat).length = width := by
    rw [List.length_map, hlength]
  unfold parseDigits
  rw [hbytes, List.take_left' hmap, List.drop_left' hmap]
  dsimp only
  rw [hvalue, if_pos]
  refine ⟨hmap, ?_⟩
  rw [List.all_map, List.all_eq_true]
  intro c hc
  have := padded_digit hc
  simp only [Function.comp_apply, isDigitByte, Bool.and_eq_true, decide_eq_true_eq]
  exact this

/-! ## Ordinals -/

theorem sum_monthLengths (leap : Bool) :
    (monthLengths leap).sum = if leap then 366 else 365 := by
  cases leap with
  | false => rfl
  | true => rfl

/-- Whole cycles of 400, 100, 4 and 1 years, and the days left. -/
theorem daysBeforeYear_cycles {q400 q100 q4 q1 : ℕ} (h100 : q100 < 4) (h4 : q4 < 25) (h1 : q1 < 4) :
    daysBeforeYear (400 * q400 + 1 + q100 * 100 + q4 * 4 + q1) =
      146097 * q400 + 36524 * q100 + 1461 * q4 + 365 * q1 := by
  have hyear : 400 * q400 + 1 + q100 * 100 + q4 * 4 + q1 - 1 =
      400 * q400 + 100 * q100 + 4 * q4 + q1 := by omega
  have hfours : (400 * q400 + 100 * q100 + 4 * q4 + q1) / 4 = 100 * q400 + 25 * q100 + q4 := by omega
  have hhundreds : (400 * q400 + 100 * q100 + 4 * q4 + q1) / 100 = 4 * q400 + q100 := by omega
  have hcycles : (400 * q400 + 100 * q100 + 4 * q4 + q1) / 400 = q400 := by omega
  rw [daysBeforeYear, hyear, hfours, hhundreds, hcycles]
  omega

/-- An ordinal is counted off by the years before it and its day of the year. -/
theorem daysBeforeYear_yearAndDay {date : ℕ} (h : 1 ≤ date) :
    daysBeforeYear (yearAndDay date).1 + (yearAndDay date).2 + 1 = date ∧
      1 ≤ (yearAndDay date).1 ∧
      (yearAndDay date).2 < (monthLengths (isLeap (yearAndDay date).1)).sum := by
  obtain ⟨n, rfl⟩ : ∃ n, date = n + 1 := ⟨date - 1, by omega⟩
  rw [sum_monthLengths]
  have hn : n + 1 - 1 = n := Nat.add_one_sub_one n
  simp only [yearAndDay, hn]
  generalize hq400 : n / 146097 = q400
  generalize hr400 : n % 146097 = r400
  generalize hq100 : r400 / 36524 = q100
  generalize hr100 : r400 % 36524 = r100
  generalize hq4 : r100 / 1461 = q4
  generalize hr4 : r100 % 1461 = r4
  generalize hq1 : r4 / 365 = q1
  generalize hr1 : r4 % 365 = r1
  have hn : n = 146097 * q400 + r400 := by omega
  have h400 : r400 = 36524 * q100 + r100 := by omega
  have h100 : r100 = 1461 * q4 + r4 := by omega
  have h4 : r4 = 365 * q1 + r1 := by omega
  by_cases hlast : q1 = 4 ∨ q100 = 4
  · -- the last day of a leap year
    rw [if_pos hlast]
    dsimp only
    have hyear : ∃ c100 c4, c100 < 4 ∧ c4 < 25 ∧ (c4 = 24 → c100 = 3) ∧
        q400 * 400 + 1 + q100 * 100 + q4 * 4 + q1 - 1 = 400 * q400 + 1 + c100 * 100 + c4 * 4 + 3 ∧
        n = 146097 * q400 + 36524 * c100 + 1461 * c4 + 1460 := by
      rcases hlast with h1 | h100'
      · exact ⟨q100, q4, by omega, by omega, by omega, by omega, by omega⟩
      · exact ⟨3, 24, by omega, by omega, fun _ => rfl, by omega, by omega⟩
    obtain ⟨c100, c4, hc100, hc4, hcentury, hyear, hday⟩ := hyear
    have hleap : isLeap (400 * q400 + 1 + c100 * 100 + c4 * 4 + 3) = true := by
      simp only [isLeap, Bool.and_eq_true, Bool.or_eq_true, beq_iff_eq, bne_iff_ne]
      omega
    rw [hyear, daysBeforeYear_cycles hc100 hc4 (by decide), hleap, if_pos rfl]
    omega
  · rw [if_neg hlast]
    dsimp only
    have hyear : q400 * 400 + 1 + q100 * 100 + q4 * 4 + q1 =
        400 * q400 + 1 + q100 * 100 + q4 * 4 + q1 := by omega
    rw [hyear, daysBeforeYear_cycles (by omega) (by omega) (by omega)]
    refine ⟨by omega, by omega, ?_⟩
    split <;> omega

theorem monthAndDay_spec (lengths : List ℕ) (month day : ℕ) (h : day < lengths.sum) :
    ∃ i, (monthAndDay month day lengths).1 = month + i ∧ i < lengths.length ∧
      1 ≤ (monthAndDay month day lengths).2 ∧
      (monthAndDay month day lengths).2 ≤ lengths.getD i 0 ∧
      (lengths.take i).sum + (monthAndDay month day lengths).2 = day + 1 := by
  induction lengths generalizing month day with
  | nil => exact absurd h (Nat.not_lt_zero _)
  | cons length lengths ih =>
    rw [monthAndDay]
    split
    · next hlt => exact ⟨0, rfl, Nat.succ_pos _, Nat.succ_pos _, hlt, Nat.zero_add _⟩
    · next hge =>
      rw [List.sum_cons] at h
      obtain ⟨i, hmonth, hlt, hpos, hle, hsum⟩ := ih (month + 1) (day - length) (by omega)
      refine ⟨i + 1, by omega, Nat.succ_lt_succ hlt, hpos, hle, ?_⟩
      rw [List.take_succ_cons, List.sum_cons]
      omega

theorem monthLengths_length (leap : Bool) : (monthLengths leap).length = 12 := by
  cases leap with
  | false => rfl
  | true => rfl

theorem monthLength_le (leap : Bool) (i : ℕ) : (monthLengths leap).getD i 0 ≤ 31 := by
  have hall : ∀ leap : Bool, ∀ i < 12, (monthLengths leap).getD i 0 ≤ 31 := by decide
  rcases Nat.lt_or_ge i 12 with hlt | hge
  · exact hall leap i hlt
  · rw [List.getD_eq_getElem?_getD, List.getElem?_eq_none (by rw [monthLengths_length]; exact hge)]
    exact Nat.zero_le _

/-- Year, month and day of a date are those of a date, the same one. -/
theorem dateOf_isoformat {date : ℕ} (h : 1 ≤ date) (hmax : date ≤ maxOrdinal) :
    ∃ year month day, isoformat date = padded 4 year ++ "-" ++ padded 2 month ++ "-" ++ padded 2 day ∧
      year < 10 ^ 4 ∧ month < 10 ^ 2 ∧ day < 10 ^ 2 ∧ dateOf year month day = some date := by
  obtain ⟨hdays, hpos, hlt⟩ := daysBeforeYear_yearAndDay h
  obtain ⟨i, hmonth, hi, hday, hle, hsum⟩ := monthAndDay_spec _ 1 _ hlt
  rw [monthLengths_length] at hi
  refine ⟨_, _, _, rfl, ?_⟩
  generalize hy : (yearAndDay date).1 = year at *
  generalize hm : monthAndDay 1 (yearAndDay date).2 (monthLengths (isLeap year)) = md at *
  have hyear : year ≤ 9999 := by
    unfold daysBeforeYear at hdays
    simp only [maxOrdinal] at hmax
    dsimp only at hdays
    omega
  have hlength := monthLength_le (isLeap year) i
  have hvalid : 1 ≤ year ∧ year ≤ 9999 ∧ 1 ≤ md.1 ∧ md.1 ≤ 12 ∧ 1 ≤ md.2 ∧
      md.2 ≤ daysInMonth year md.1 := by
    refine ⟨hpos, hyear, by omega, by omega, hday, ?_⟩
    rw [daysInMonth, hmonth, Nat.add_sub_cancel_left]
    exact hle
  refine ⟨by omega, by omega, by omega, ?_⟩
  have hordinal : daysBeforeYear year + ((monthLengths (isLeap year)).take i).sum + md.2 = date := by
    omega
  rw [dateOf, if_pos hvalid, ordinalOf, daysBeforeMonth, hmonth, Nat.add_sub_cancel_left]
  exact congrArg some hordinal

/-! ## Reading back -/

theorem padded_head {width n : ℕ} (hwidth : 0 < width) (h : n < 10 ^ width) (rest : List ℕ) :
    ∃ b, (utf8Bytes (padded width n).toList ++ rest).head? = some b ∧ isDigitByte b = true := by
  cases hchars : (padded width n).toList with
  | nil =>
    have hlength := padded_length hwidth h
    rw [hchars] at hlength
    exact absurd hlength (by simp only [List.length_nil]; omega)
  | cons c chars =>
    have hmem : c ∈ (padded width n).toList := by
      rw [hchars]
      exact List.mem_cons_self
    have hdigit := padded_digit hmem
    refine ⟨c.toNat, ?_, ?_⟩
    · rw [utf8Bytes, List.flatMap_cons, utf8Char_of_lt (by omega)]
      rfl
    · simp only [isDigitByte, Bool.and_eq_true, decide_eq_true_eq]
      exact hdigit

/-- The bytes of a printed date, whatever follows. -/
theorem isoformat_bytes {date : ℕ} (h : 1 ≤ date) (hmax : date ≤ maxOrdinal) :
    ∃ year month day, year < 10 ^ 4 ∧ month < 10 ^ 2 ∧ day < 10 ^ 2 ∧
      dateOf year month day = some date ∧ ∀ rest, utf8Bytes (isoformat date).toList ++ rest =
        utf8Bytes (padded 4 year).toList ++ (45 :: (utf8Bytes (padded 2 month).toList ++
          (45 :: (utf8Bytes (padded 2 day).toList ++ rest)))) := by
  obtain ⟨year, month, day, htext, hyear, hmonth, hday, hdate⟩ := dateOf_isoformat h hmax
  have hdash : utf8Bytes "-".toList = [45] := by decide +kernel
  refine ⟨year, month, day, hyear, hmonth, hday, hdate, fun rest => ?_⟩
  simp only [htext, String.toList_append, List.append_assoc, utf8Bytes_append, hdash,
    List.cons_append, List.nil_append]

theorem parseIsoformatDate_isoformat {date : ℕ} (h : 1 ≤ date) (hmax : date ≤ maxOrdinal)
    (rest : List ℕ) (length : ℕ) :
    parseIsoformatDate (utf8Bytes (isoformat date).toList ++ rest) length = some date := by
  obtain ⟨year, month, day, hyear, hmonth, hday, hdate, hbytes⟩ := isoformat_bytes h hmax
  obtain ⟨b, hhead, hdigit⟩ := padded_head (by decide) hmonth
    (45 :: (utf8Bytes (padded 2 day).toList ++ rest))
  have hweek : b ≠ 87 := by
    rintro rfl
    exact absurd hdigit (by decide)
  unfold parseIsoformatDate
  rw [hbytes, parseDigits_padded (by decide) hyear]
  simp only [Option.bind_eq_bind, Option.bind_some, List.head?_cons, List.tail_cons, decide_true,
    if_true, hhead, Option.some.injEq, if_neg hweek]
  rw [parseDigits_padded (by decide) hmonth]
  simp only [Option.bind_some, skipDash, if_true, List.head?_cons, List.tail_cons]
  rw [parseDigits_padded (by decide) hday]
  exact hdate

/-- The bytes of a printed time of day. -/
def clockBytes (hour minute second microsecond : ℕ) : List ℕ :=
  utf8Bytes (padded 2 hour).toList ++ (58 :: (utf8Bytes (padded 2 minute).toList ++
    (58 :: (utf8Bytes (padded 2 second).toList ++
      if microsecond = 0 then [] else 46 :: utf8Bytes (padded 6 microsecond).toList))))

theorem utf8Bytes_padded_length (width : ℕ) {n : ℕ} (hwidth : 0 < width) (h : n < 10 ^ width) :
    (utf8Bytes (padded width n).toList).length = width := by
  rw [utf8Bytes_ascii, List.length_map, padded_length hwidth h]
  intro c hc
  have := padded_digit hc
  omega

/-- A pair of digits before a colon. -/
theorem parseTimePairs_colon {value : ℕ} (h : value < 10 ^ 2) (zone : List ℕ) (count : ℕ)
    {rest : List ℕ} (hrest : rest ≠ []) :
    parseTimePairs zone (count + 1) true (utf8Bytes (padded 2 value).toList ++ (58 :: rest)) =
      (parseTimePairs zone count true rest).bind fun r => some (value :: r.1, r.2) := by
  have hpos := List.length_pos_of_ne_nil hrest
  have hlong : ¬(58 :: rest).length ≤ 1 := by
    rw [List.length_cons]
    omega
  have hseparator : (if count = 2 then (58 : ℕ) == 58 else true) = true := by split <;> rfl
  rw [parseTimePairs, parseDigits_padded (by decide) h]
  simp only [Option.bind_eq_bind, Option.bind_some, if_neg hlong, List.cons_append, List.headD_cons,
    List.tail_cons, hseparator, and_self, if_true]
  rfl

/-- The last pair of digits, before the zone. -/
theorem parseTimePairs_last {value : ℕ} (h : value < 10 ^ 2) (zone : List ℕ) :
    parseTimePairs zone 1 true (utf8Bytes (padded 2 value).toList) =
      some ([value], none, zone.headD 0 != 0) := by
  have hdigits := parseDigits_padded (by decide) h []
  rw [List.append_nil] at hdigits
  rw [parseTimePairs, hdigits]
  rfl

/-- The last pair of digits, before a fraction. -/
theorem parseTimePairs_point {value : ℕ} (h : value < 10 ^ 2) (zone : List ℕ) {fraction : List ℕ}
    (hfraction : fraction ≠ []) :
    parseTimePairs zone 1 true (utf8Bytes (padded 2 value).toList ++ (46 :: fraction)) =
      some ([value], some fraction, false) := by
  have hpos := List.length_pos_of_ne_nil hfraction
  have hlong : ¬(46 :: fraction).length ≤ 1 := by
    rw [List.length_cons]
    omega
  rw [parseTimePairs, parseDigits_padded (by decide) h]
  simp only [Option.bind_eq_bind, Option.bind_some, if_neg hlong, List.cons_append, List.headD_cons,
    List.tail_cons]
  rfl

theorem parseTimeParts_clockBytes {hour minute second microsecond : ℕ} (hhour : hour < 10 ^ 2)
    (hminute : minute < 10 ^ 2) (hsecond : second < 10 ^ 2) (hmicrosecond : microsecond < 10 ^ 6)
    (zone : List ℕ) :
    ∃ leftover, parseTimeParts (clockBytes hour minute second microsecond) zone =
      some ((hour, minute, second, microsecond), leftover) := by
  have hnonempty : ∀ {n : ℕ} (_ : n < 10 ^ 2) (rest : List ℕ),
      utf8Bytes (padded 2 n).toList ++ rest ≠ [] := by
    intro n hn rest hnil
    have hlength := utf8Bytes_padded_length _ (by decide) hn
    rw [(List.append_eq_nil_iff.mp hnil).1] at hlength
    exact absurd hlength (by decide)
  unfold parseTimeParts clockBytes
  rw [parseTimePairs_colon hhour zone 2 (hnonempty hminute _),
    parseTimePairs_colon hminute zone 1 (hnonempty hsecond _)]
  by_cases hzero : microsecond = 0
  · rw [if_pos hzero, List.append_nil, parseTimePairs_last hsecond, hzero]
    exact ⟨_, rfl⟩
  · have hlength := utf8Bytes_padded_length 6 (by decide) hmicrosecond
    have hfraction : utf8Bytes (padded 6 microsecond).toList ≠ [] := by
      rw [← List.length_pos_iff, hlength]
      decide
    have hdigits := parseDigits_padded (by decide) hmicrosecond []
    rw [List.append_nil] at hdigits
    rw [if_neg hzero, parseTimePairs_point hsecond zone hfraction]
    refine ⟨(zone.dropWhile isDigitByte).headD 0 != 0, ?_⟩
    simp only [Option.bind_eq_bind, Option.bind_some, hlength, Nat.min_self, hdigits, Nat.sub_self,
      Nat.pow_zero, Nat.mul_one]
    rfl

theorem utf8Bytes_padded_no_zone {width n : ℕ} {b : ℕ} (h : b ∈ utf8Bytes (padded width n).toList) :
    beginsZone b = false := by
  rw [utf8Bytes_ascii fun c hc => by have := padded_digit hc; omega] at h
  obtain ⟨c, hc, rfl⟩ := List.mem_map.mp h
  have := padded_digit hc
  simp only [beginsZone, Bool.or_eq_false_iff, beq_eq_false_iff_ne, ne_eq]
  omega

theorem clockBytes_no_zone {hour minute second microsecond b : ℕ}
    (h : b ∈ clockBytes hour minute second microsecond) : beginsZone b = false := by
  unfold clockBytes at h
  simp only [List.mem_append, List.mem_cons] at h
  rcases h with h | rfl | h | rfl | h | h
  · exact utf8Bytes_padded_no_zone h
  · rfl
  · exact utf8Bytes_padded_no_zone h
  · rfl
  · exact utf8Bytes_padded_no_zone h
  · split at h
    · cases h
    · rcases List.mem_cons.mp h with rfl | h
      · rfl
      · exact utf8Bytes_padded_no_zone h

/-- A printed time in UTC is read back. -/
theorem parseIsoformatTime_clockBytes {hour minute second microsecond : ℕ} (hhour : hour < 24)
    (hminute : minute < 60) (hsecond : second < 60) (hmicrosecond : microsecond < 1000000) :
    parseIsoformatTime (clockBytes hour minute second microsecond ++ [43, 48, 48, 58, 48, 48]) =
      some (microseconds (hour, minute, second, microsecond), some 0) := by
  have htime : (clockBytes hour minute second microsecond ++ [43, 48, 48, 58, 48, 48]).takeWhile
      (fun b => !beginsZone b) = clockBytes hour minute second microsecond := by
    rw [List.takeWhile_append_of_pos fun b hb => by rw [clockBytes_no_zone hb]; rfl]
    exact List.append_nil _
  have hzone : (clockBytes hour minute second microsecond ++ [43, 48, 48, 58, 48, 48]).dropWhile
      (fun b => !beginsZone b) = [43, 48, 48, 58, 48, 48] := by
    rw [List.dropWhile_append_of_pos fun b hb => by rw [clockBytes_no_zone hb]; rfl]
    rfl
  obtain ⟨leftover, hparts⟩ := parseTimeParts_clockBytes (by omega : hour < 10 ^ 2)
    (by omega : minute < 10 ^ 2) (by omega : second < 10 ^ 2) (by omega : microsecond < 10 ^ 6)
    [43, 48, 48, 58, 48, 48]
  have hoffset : parseTimeParts [48, 48, 58, 48, 48] [] = some ((0, 0, 0, 0), false) := by decide
  unfold parseIsoformatTime
  rw [htime, hzone]
  simp only [hparts, Option.bind_eq_bind, Option.bind_some, hoffset]
  rw [if_neg (by decide), if_pos (by decide), if_neg (by decide)]
  simp only [Option.pure_def, Option.bind_some]
  rw [if_pos ⟨hhour, hminute, hsecond⟩]
  rfl

/-! ## Replacing -/

theorem replaceFrom_skip (old new chars : List Char) :
    replaceFrom old new chars.length chars = [] := by
  induction chars with
  | nil => rfl
  | cons c chars ih => exact ih

/-- A match at the end of a text without another one. -/
theorem replaceText_end {c : Char} {old front : List Char} (new : List Char) (h : c ∉ front) :
    replaceText (c :: old) new (front ++ c :: old) = front ++ new := by
  unfold replaceText
  induction front with
  | nil =>
    have hself : (c :: old).isPrefixOf (c :: old) = true := List.isPrefixOf_iff_prefix.mpr List.prefix_rfl
    rw [List.nil_append, replaceFrom, if_pos hself, List.length_cons, Nat.add_sub_cancel,
      replaceFrom_skip, List.append_nil]
    rfl
  | cons d front ih =>
    have hd : c ≠ d := fun hcd => h (hcd ▸ List.mem_cons_self)
    have hnot : (c :: old).isPrefixOf (d :: (front ++ c :: old)) = false := by
      rw [List.isPrefixOf, beq_eq_false_iff_ne.mpr hd, Bool.false_and]
    rw [List.cons_append, replaceFrom, hnot, if_neg (by decide), ih fun hc => h (List.mem_cons_of_mem d hc)]
    rfl

/-- A printed date holds digits and dashes. -/
theorem mem_isoformat {date : ℕ} {c : Char} (h : c ∈ (isoformat date).toList) :
    (48 ≤ c.toNat ∧ c.toNat ≤ 57) ∨ c = '-' := by
  have hdash : "-".toList = ['-'] := by decide +kernel
  simp only [isoformat, String.toList_append, List.mem_append, hdash, List.mem_singleton] at h
  rcases h with (((h | h) | h) | h) | h
  · exact Or.inl (padded_digit h)
  · exact Or.inr h
  · exact Or.inl (padded_digit h)
  · exact Or.inr h
  · exact Or.inl (padded_digit h)

theorem mem_utcClock {moment : ℕ} {c : Char} (h : c ∈ utcClock moment) :
    (48 ≤ c.toNat ∧ c.toNat ≤ 57) ∨ c ∈ ['-', 'T', ':', '.'] := by
  unfold utcClock at h
  simp only [List.mem_append, List.mem_cons] at h
  rcases h with (((h | rfl | h) | rfl | h) | rfl | h) | h
  · rcases mem_isoformat h with h | rfl
    · exact Or.inl h
    · exact Or.inr (by decide)
  · exact Or.inr (by decide)
  · exact Or.inl (padded_digit h)
  · exact Or.inr (by decide)
  · exact Or.inl (padded_digit h)
  · exact Or.inr (by decide)
  · exact Or.inl (padded_digit h)
  · split at h
    · cases h
    · rcases List.mem_cons.mp h with rfl | h
      · exact Or.inr (by decide)
      · exact Or.inl (padded_digit h)

theorem not_mem_utcClock {moment : ℕ} {c : Char} (hdigit : ¬(48 ≤ c.toNat ∧ c.toNat ≤ 57))
    (hother : c ∉ ['-', 'T', ':', '.']) : c ∉ utcClock moment := by
  intro h
  rcases mem_utcClock h with h | h
  · exact hdigit h
  · exact hother h

theorem formatTimestamp_eq (moment : ℕ) : formatTimestamp moment = utcClock moment ++ ['Z'] :=
  replaceText_end ['Z'] (not_mem_utcClock (by decide) (by decide))

/-- The date of a printed timestamp ends at the tenth byte. -/
theorem separatorLocation_isoformat {date : ℕ} (h : 1 ≤ date) (hmax : date ≤ maxOrdinal)
    (rest : List ℕ) :
    (utf8Bytes (isoformat date).toList).length = 10 ∧
      separatorLocation (utf8Bytes (isoformat date).toList ++ rest) = 10 := by
  obtain ⟨year, month, day, hyear, hmonth, hday, -, hbytes⟩ := isoformat_bytes h hmax
  have hyears := utf8Bytes_padded_length 4 (by decide) hyear
  have hlength : (utf8Bytes (isoformat date).toList).length = 10 := by
    have hall := congrArg List.length (hbytes [])
    simp only [List.append_nil, List.length_append, List.length_cons, hyears,
      utf8Bytes_padded_length 2 (by decide) hmonth,
      utf8Bytes_padded_length 2 (by decide) hday] at hall
    exact hall
  refine ⟨hlength, ?_⟩
  obtain ⟨b, hhead, hdigit⟩ := padded_head (by decide) hmonth
    (45 :: (utf8Bytes (padded 2 day).toList ++ rest))
  have hlong : (utf8Bytes (isoformat date).toList ++ rest).length ≠ 7 := by
    rw [List.length_append, hlength]
    omega
  have hdash : (utf8Bytes (isoformat date).toList ++ rest)[4]? = some 45 := by
    rw [hbytes, List.getElem?_append_right (by omega), hyears]
    rfl
  have hweek : (utf8Bytes (isoformat date).toList ++ rest)[5]? ≠ some 87 := by
    rw [hbytes, List.getElem?_append_right (by omega), hyears, List.getElem?_cons_succ,
      ← List.head?_eq_getElem?, hhead]
    rintro heq
    rw [Option.some.inj heq] at hdigit
    exact absurd hdigit (by decide)
  rw [separatorLocation, if_neg hlong, if_pos hdash, if_neg hweek]

/-- A printed date is read back. -/
theorem dateFromIsoformat_isoformat {date : ℕ} (h : 1 ≤ date) (hmax : date ≤ maxOrdinal) :
    dateFromIsoformat (isoformat date) = some date := by
  obtain ⟨hlength, -⟩ := separatorLocation_isoformat h hmax []
  have hread := parseIsoformatDate_isoformat h hmax [] (utf8Bytes (isoformat date).toList).length
  rw [List.append_nil] at hread
  unfold dateFromIsoformat
  dsimp only
  rw [if_pos (by rw [hlength]; decide), hread]

theorem utcClock_bytes (moment : ℕ) :
    utf8Bytes (utcClock moment ++ ['+', '0', '0', ':', '0', '0']) =
      utf8Bytes (isoformat (moment / 86400000000)).toList ++
        (84 :: (clockBytes (moment % 86400000000 / 1000000 / 3600)
          (moment % 86400000000 / 1000000 / 60 % 60) (moment % 86400000000 / 1000000 % 60)
          (moment % 86400000000 % 1000000) ++ [43, 48, 48, 58, 48, 48])) := by
  have hT : utf8Char 'T' = [84] := by decide
  have hcolon : utf8Char ':' = [58] := by decide
  have hpoint : utf8Char '.' = [46] := by decide
  have hcons : ∀ (c : Char) (chars : List Char), utf8Bytes (c :: chars) = utf8Char c ++ utf8Bytes chars :=
    fun c chars => List.flatMap_cons
  have hoffset : utf8Bytes ['+', '0', '0', ':', '0', '0'] = [43, 48, 48, 58, 48, 48] := by decide
  rw [utf8Bytes_append, hoffset]
  unfold utcClock clockBytes
  dsimp only
  by_cases hzero : moment % 86400000000 % 1000000 = 0
  · simp only [if_pos hzero, utf8Bytes_append, hcons, hT, hcolon, List.append_nil,
      List.append_assoc, List.cons_append, List.nil_append]
  · simp only [if_neg hzero, utf8Bytes_append, hcons, hT, hcolon, hpoint, List.append_assoc,
      List.cons_append, List.nil_append]

/-- A formatted timestamp is read back as the same moment. -/
theorem fromisoformat_formatTimestamp {moment : ℕ} (h : InDatetimeRange moment) :
    datetimeFromIsoformat (replaceText ['Z'] ['+', '0', '0', ':', '0', '0'] (formatTimestamp moment)) =
      some ⟨moment, some 0⟩ := by
  obtain ⟨hmin, hmax⟩ := h
  have hdate : 1 ≤ moment / 86400000000 := by omega
  have hdate' : moment / 86400000000 ≤ maxOrdinal := by omega
  obtain ⟨hlength, hlocation⟩ := separatorLocation_isoformat hdate hdate'
    (84 :: (clockBytes (moment % 86400000000 / 1000000 / 3600)
      (moment % 86400000000 / 1000000 / 60 % 60) (moment % 86400000000 / 1000000 % 60)
      (moment % 86400000000 % 1000000) ++ [43, 48, 48, 58, 48, 48]))
  rw [formatTimestamp_eq, replaceText_end _ (not_mem_utcClock (by decide) (by decide))]
  unfold datetimeFromIsoformat
  rw [utcClock_bytes]
  dsimp only
  rw [hlocation, parseIsoformatDate_isoformat hdate hdate']
  simp only [Option.bind_eq_bind, Option.bind_some]
  rw [if_neg (by rw [List.length_append, hlength, List.length_cons]; omega)]
  have hfirst : ∀ rest : List ℕ,
      (utf8Bytes (isoformat (moment / 86400000000)).toList ++ (84 :: rest)).getD 10 0 = 84 := by
    intro rest
    rw [List.getD_eq_getElem?_getD, List.getElem?_append_right (by omega), hlength]
    rfl
  have hdrop : ∀ rest : List ℕ,
      (utf8Bytes (isoformat (moment / 86400000000)).toList ++ (84 :: rest)).drop (10 + 1) = rest := by
    intro rest
    rw [← List.singleton_append, ← List.append_assoc, List.drop_left']
    rw [List.length_append, hlength, List.length_singleton]
  rw [hfirst, if_pos (by decide), hdrop, parseIsoformatTime_clockBytes (by omega) (by omega) (by omega)
    (by omega)]
  simp only [Option.bind_some, microseconds]
  have hclock : moment / 86400000000 * 86400000000 +
      (((moment % 86400000000 / 1000000 / 3600 * 60 + moment % 86400000000 / 1000000 / 60 % 60) * 60 +
        moment % 86400000000 / 1000000 % 60) * 1000000 + moment % 86400000000 % 1000000) = moment := by
    omega
  rw [hclock]
  rfl

end AccountingPlatform.Core
