/-
  Texts of amounts, with the `Decimal` objects between them.

  An accepted text keeps its digits and its scale, and a column of scale six gives every amount
  six fractional digits. The text built from either is the same (`decimalText_canonical`), and it
  is the text that hashes and answers are modelled with (`decimalText_eq`).
-/
import AccountingPlatform.Bank.EvidenceHashes

namespace AccountingPlatform.Bank.Amounts

open AccountingPlatform.Lib

open AccountingPlatform.Core (Result matchesDecimal matchesIntegerPart matchesFraction digitsValue decimalMillionths
  unitScale padded padded_toList padded_length)

open Postgres (fitsNumeric outOfRange)

/-! ## Amounts as decimals -/

/-- `_parse_amount` of a text. -/
def parseAmount (text : String) : Result Decimal := do
  require (matchesDecimal text = true)
    (.validation ("amount must be a canonical non-negative decimal with at most six fractional digits. " ++
      "Supply a non-negative decimal string with no more than six fractional digits, then retry ingest."))
  pure (Decimal.readChars text.toList)

/-- `_decimal_text` of a `Decimal`. -/
def decimalText (amount : Decimal) : List Char :=
  if '.' ∈ amount.fixedChars then
    (amount.fixedChars.rdropWhile fun c => c == '0').rdropWhile fun c => c == '.'
  else amount.fixedChars

/-- Millionths in a column of scale six, halves rounded away from zero. -/
def columnUnits (amount : Decimal) : ℕ :=
  if -6 ≤ amount.exponent then amount.coefficient * 10 ^ (amount.exponent + 6).toNat
  else
    let unit := 10 ^ (-6 - amount.exponent).toNat
    (2 * amount.coefficient + unit) / (2 * unit)

/-- What is read from a `numeric(38, 6)` column an amount was written to. -/
def storeNumeric (amount : Decimal) : Result Decimal := do
  let units := columnUnits amount
  require (fitsNumeric units) outOfRange
  pure ⟨amount.negative && decide (units ≠ 0), units, -6⟩

/-- The number a text denotes. -/
def denoted (text : String) : ℚ :=
  let fraction := (text.toList.dropWhile Core.isDigit).drop 1
  digitsValue (text.toList.takeWhile Core.isDigit) + digitsValue fraction / 10 ^ fraction.length

/-! ## Accepted texts -/

theorem decimalText_eq_plainChars (amount : Decimal) : decimalText amount = amount.plainChars := rfl

/-- The parts of an accepted text. -/
structure HasParts (text : String) (whole fraction : List Char) : Prop where
  text_eq : text.toList = whole ++ pointed fraction
  whole_digits : ∀ c ∈ whole, c.isDigit = true
  fraction_digits : ∀ c ∈ fraction, c.isDigit = true
  scale : fraction.length ≤ 6

theorem exists_parts {text : String} (h : matchesDecimal text = true) :
    ∃ fraction, HasParts text (text.toList.takeWhile Core.isDigit) fraction ∧
      (text.toList.dropWhile Core.isDigit).drop 1 = fraction := by
  unfold matchesDecimal at h
  rw [Bool.and_eq_true] at h
  have hsplit : text.toList.takeWhile Core.isDigit ++ text.toList.dropWhile Core.isDigit = text.toList :=
    List.takeWhile_append_dropWhile
  have hwhole : ∀ c ∈ text.toList.takeWhile Core.isDigit, c.isDigit = true := fun c hc => by
    rw [← Camt.isDigit_eq]
    exact List.mem_takeWhile_imp hc
  revert h hsplit
  cases text.toList.dropWhile Core.isDigit with
  | nil =>
    intro _ hsplit
    exact ⟨[], ⟨hsplit.symm, hwhole, fun _ hc => absurd hc List.not_mem_nil, Nat.zero_le _⟩, rfl⟩
  | cons c fraction =>
    intro h hsplit
    simp only [matchesFraction, Bool.and_eq_true, beq_iff_eq, decide_eq_true_eq, List.all_eq_true] at h
    obtain ⟨-, ⟨⟨rfl, hfilled⟩, hscale⟩, hdigits⟩ := h
    have hne : fraction ≠ [] := fun hnone => by rw [hnone] at hfilled; exact absurd hfilled (by decide)
    refine ⟨fraction, ⟨?_, hwhole, fun c hc => ?_, hscale⟩, rfl⟩
    · rw [pointed, if_neg hne]
      exact hsplit.symm
    · rw [← Camt.isDigit_eq]
      exact hdigits c hc

theorem parseAmount_eq_ok {text : String} {amount : Decimal} (h : parseAmount text = .ok amount) :
    matchesDecimal text = true ∧ amount = Decimal.readChars text.toList := by
  unfold parseAmount at h
  simp only [bind_eq_ok, require_eq_ok, pure_eq_ok] at h
  obtain ⟨_, hmatches, rfl⟩ := h
  exact ⟨hmatches, rfl⟩

theorem readChars_of_parts {text : String} {whole fraction : List Char} (h : HasParts text whole fraction) :
    Decimal.readChars text.toList =
      ⟨false, Nat.ofDigitChars 10 (whole ++ fraction) 0, -fraction.length⟩ := by
  rw [h.text_eq]
  exact @Decimal.readChars_pointed Decimal.zero _ _ h.whole_digits h.fraction_digits

/-- An accepted amount has no sign and at most six fractional digits. -/
theorem scale_of_accepted {text : String} {amount : Decimal} (h : parseAmount text = .ok amount) :
    amount.negative = false ∧ amount.exponent ≤ 0 ∧ -6 ≤ amount.exponent := by
  obtain ⟨hmatches, rfl⟩ := parseAmount_eq_ok h
  obtain ⟨fraction, hparts, -⟩ := exists_parts hmatches
  have := hparts.scale
  rw [readChars_of_parts hparts]
  refine ⟨rfl, ?_, ?_⟩
  · show -(fraction.length : ℤ) ≤ 0
    omega
  · show -6 ≤ -(fraction.length : ℤ)
    omega

/-- An accepted amount is the number its text denotes. -/
theorem value_of_accepted {text : String} {amount : Decimal} (h : parseAmount text = .ok amount) :
    amount.value = denoted text := by
  obtain ⟨hmatches, rfl⟩ := parseAmount_eq_ok h
  obtain ⟨fraction, hparts, hfraction⟩ := exists_parts hmatches
  have hten : (10 : ℚ) ^ fraction.length ≠ 0 := pow_ne_zero _ (by norm_num)
  unfold denoted
  dsimp only
  rw [hfraction, readChars_of_parts hparts, Nat.ofDigitChars_append, Nat.ofDigitChars_eq_ofDigitChars_zero,
    Camt.digitsValue_eq, Camt.digitsValue_eq]
  unfold Decimal.value Decimal.signed
  simp only [Bool.false_eq_true, if_false]
  rw [zpow_neg, zpow_natCast]
  push_cast
  field_simp

/-! ## Millionths -/

/-- An amount at scale six. -/
def atScaleSix (millionths : ℕ) : Decimal := ⟨false, millionths, -6⟩

/-- An accepted amount at scale six is the same number. -/
theorem extended_of_accepted {text : String} {amount : Decimal} (h : parseAmount text = .ok amount) :
    amount.extended (amount.exponent + 6).toNat = atScaleSix (columnUnits amount) := by
  obtain ⟨hsign, hhigh, hlow⟩ := scale_of_accepted h
  unfold Decimal.extended atScaleSix columnUnits
  rw [hsign, if_pos hlow]
  congr 1
  omega

/-- The millionths the rest of the development counts in. -/
theorem parseAmount_millionths {text : String} {amount : Decimal} (h : parseAmount text = .ok amount) :
    Core.parseAmount text = .ok (columnUnits amount) := by
  obtain ⟨-, -, hlow⟩ := scale_of_accepted h
  obtain ⟨hmatches, rfl⟩ := parseAmount_eq_ok h
  obtain ⟨fraction, hparts, hfraction⟩ := exists_parts hmatches
  have hscale := hparts.scale
  have hvalue : decimalMillionths text = columnUnits (Decimal.readChars text.toList) := by
    unfold decimalMillionths columnUnits
    rw [if_pos hlow, hfraction, readChars_of_parts hparts]
    dsimp only
    have hzeros : (-(fraction.length : ℤ) + 6).toNat = 6 - fraction.length := by omega
    have hunit : unitScale = 10 ^ fraction.length * 10 ^ (6 - fraction.length) := by
      rw [← pow_add, Nat.add_sub_cancel' hscale]
      rfl
    rw [hzeros, Nat.ofDigitChars_append, Nat.ofDigitChars_eq_ofDigitChars_zero, Camt.digitsValue_eq,
      Camt.digitsValue_eq, hunit]
    ring
  unfold Core.parseAmount
  rw [require_of hmatches, ok_bind, hvalue]
  rfl

/-- Digits at scale six: those of the units and six of the fraction. -/
theorem atScaleSix_digits (millionths : ℕ) :
    Decimal.wholeChars (atScaleSix millionths).digits (atScaleSix millionths).leftDigits =
        Nat.toDigits 10 (millionths / unitScale) ∧
      Decimal.fractionChars (atScaleSix millionths).digits (atScaleSix millionths).leftDigits =
        (padded 6 (millionths % unitScale)).toList := by
  have hrest : millionths % unitScale < 10 ^ 6 := Nat.mod_lt _ (by decide)
  have hdigits : (atScaleSix millionths).digits = Nat.toDigits 10 millionths := rfl
  have hplace : (atScaleSix millionths).leftDigits = -6 + (Nat.toDigits 10 millionths).length := rfl
  rw [hplace, hdigits]
  by_cases hunits : millionths / unitScale = 0
  · have hsmall : millionths < 10 ^ 6 := Nat.lt_of_div_eq_zero (by decide) hunits
    have hlength := (Nat.length_toDigits_le_iff (b := 10) (by decide) (by decide : 0 < 6)).mpr hsmall
    unfold Decimal.wholeChars Decimal.fractionChars
    rw [if_pos (by omega), if_pos (by omega), hunits,
      show millionths % unitScale = millionths from Nat.mod_eq_of_lt hsmall, padded_toList]
    have hzeros : (-(-6 + ((Nat.toDigits 10 millionths).length : ℤ))).toNat =
        6 - (Nat.toDigits 10 millionths).length := by omega
    rw [hzeros]
    exact ⟨rfl, rfl⟩
  · obtain ⟨c, cs, hhead, hc⟩ := Decimal.head_toDigits hunits
    have hlength : (padded 6 (millionths % unitScale)).toList.length = 6 := padded_length (by decide) hrest
    have hvalue : Nat.ofDigitChars 10 (Nat.toDigits 10 (millionths / unitScale) ++
        (padded 6 (millionths % unitScale)).toList) 0 = millionths := by
      rw [Nat.ofDigitChars_append, Nat.ofDigitChars_eq_ofDigitChars_zero, Nat.ofDigitChars_ten_toDigits,
        Camt.ofDigitChars_padded, hlength]
      exact Nat.div_add_mod millionths unitScale
    have hall : ∀ d ∈ Nat.toDigits 10 (millionths / unitScale) ++ (padded 6 (millionths % unitScale)).toList,
        d.isDigit = true := by
      intro d hd
      rw [padded_toList, List.mem_append, List.mem_append] at hd
      rcases hd with hd | hd | hd
      · exact Decimal.isDigit_of_mem_toDigits hd
      · rw [List.eq_of_mem_replicate hd]
        decide
      · exact Decimal.isDigit_of_mem_toDigits hd
    have hjoined := Decimal.toDigits_ofDigitChars hall ⟨c, cs ++ _, by rw [hhead, List.cons_append], hc⟩
    rw [hvalue] at hjoined
    have hplace : -6 + ((Nat.toDigits 10 (millionths / unitScale) ++
        (padded 6 (millionths % unitScale)).toList).length : ℤ) =
        (Nat.toDigits 10 (millionths / unitScale)).length := by
      rw [List.length_append, hlength]
      push_cast
      omega
    have hfilled : 0 < (Nat.toDigits 10 (millionths / unitScale)).length := Nat.length_toDigits_pos
    rw [hjoined, hplace]
    unfold Decimal.wholeChars Decimal.fractionChars
    rw [if_neg (by omega), if_neg (by rw [List.length_append, hlength]; omega), if_neg (by omega),
      Int.toNat_natCast]
    exact ⟨List.take_left, List.drop_left⟩

/-- Hashes and answers are modelled with the text of the amount. -/
theorem decimalText_atScaleSix (millionths : ℕ) :
    decimalText (atScaleSix millionths) = Camt.decimalText millionths := by
  obtain ⟨hwhole, hfraction⟩ := atScaleSix_digits millionths
  have hexponent : ¬((atScaleSix millionths).coefficient = 0 ∧ 0 < (atScaleSix millionths).exponent) :=
    fun h => absurd h.2 (by show ¬(0 : ℤ) < -6; decide)
  rw [decimalText_eq_plainChars, Decimal.plainChars_eq hexponent, hwhole, hfraction]
  rfl

theorem decimalText_eq {text : String} {amount : Decimal} (h : parseAmount text = .ok amount) :
    decimalText amount = Camt.decimalText (columnUnits amount) := by
  rw [← decimalText_atScaleSix, ← extended_of_accepted h, decimalText_eq_plainChars,
    decimalText_eq_plainChars, Decimal.plainChars_extended]

/-! ## Canonical texts -/

theorem matchesIntegerPart_toDigits (n : ℕ) : matchesIntegerPart (Nat.toDigits 10 n) = true := by
  by_cases h : n = 0
  · rw [h]
    rfl
  · obtain ⟨c, cs, hdigits, hc⟩ := Decimal.head_toDigits h
    rw [hdigits]
    simp [matchesIntegerPart, hc]

theorem matchesFraction_pointed {fraction : List Char} (hdigits : ∀ c ∈ fraction, c.isDigit = true)
    (hscale : fraction.length ≤ 6) : matchesFraction (pointed fraction) = true := by
  unfold pointed
  split_ifs with hnone
  · rfl
  · have hfilled := List.length_pos_of_ne_nil hnone
    simp only [matchesFraction, Bool.and_eq_true, beq_self_eq_true, decide_eq_true_eq, List.all_eq_true,
      true_and]
    exact ⟨⟨hfilled, hscale⟩, fun c hc => (Camt.isDigit_eq c).trans (hdigits c hc)⟩

theorem split_pointed {whole : List Char} (hwhole : ∀ c ∈ whole, Core.isDigit c = true)
    (fraction : List Char) :
    (whole ++ pointed fraction).takeWhile Core.isDigit = whole ∧
      (whole ++ pointed fraction).dropWhile Core.isDigit = pointed fraction := by
  have hpoint : (pointed fraction).takeWhile Core.isDigit = [] ∧
      (pointed fraction).dropWhile Core.isDigit = pointed fraction := by
    unfold pointed
    split_ifs
    · exact ⟨rfl, rfl⟩
    · exact ⟨rfl, rfl⟩
  rw [List.takeWhile_append_of_pos hwhole, List.dropWhile_append_of_pos hwhole, hpoint.1, hpoint.2,
    List.append_nil]
  exact ⟨rfl, rfl⟩

/-- The text of an accepted amount is accepted. -/
theorem matchesDecimal_decimalText {text : String} {amount : Decimal} (h : parseAmount text = .ok amount) :
    matchesDecimal (String.ofList (decimalText amount)) = true := by
  have hfraction : ∀ c ∈ significantDigits (padded 6 (columnUnits amount % unitScale)).toList,
      c.isDigit = true := by
    intro c hc
    have hdigits := Decimal.fractionChars_isDigit (atScaleSix (columnUnits amount)).digits_isDigit
      (atScaleSix (columnUnits amount)).leftDigits
    rw [(atScaleSix_digits (columnUnits amount)).2] at hdigits
    exact hdigits c (mem_significantDigits hc)
  have hscale : (significantDigits (padded 6 (columnUnits amount % unitScale)).toList).length ≤ 6 := by
    refine (significantDigits_length_le _).trans_eq ?_
    exact padded_length (by decide) (Nat.mod_lt _ (by decide))
  have hwhole : ∀ c ∈ Nat.toDigits 10 (columnUnits amount / unitScale), Core.isDigit c = true := fun c hc =>
    (Camt.isDigit_eq c).trans (Decimal.isDigit_of_mem_toDigits hc)
  have htext : decimalText amount = Nat.toDigits 10 (columnUnits amount / unitScale) ++
      pointed (significantDigits (padded 6 (columnUnits amount % unitScale)).toList) := decimalText_eq h
  obtain ⟨htake, hdrop⟩ := split_pointed hwhole
    (significantDigits (padded 6 (columnUnits amount % unitScale)).toList)
  unfold matchesDecimal
  rw [String.toList_ofList, htext, htake, hdrop, matchesIntegerPart_toDigits, Bool.true_and]
  exact matchesFraction_pointed hfraction hscale

/-- The text of an accepted amount is read as the same number. -/
theorem parseAmount_decimalText {text : String} {amount : Decimal} (h : parseAmount text = .ok amount) :
    ∃ again, parseAmount (String.ofList (decimalText amount)) = .ok again ∧ again.value = amount.value := by
  refine ⟨Decimal.readChars (decimalText amount), ?_, Decimal.value_readChars_plainChars amount⟩
  unfold parseAmount
  rw [require_of (matchesDecimal_decimalText h), ok_bind, String.toList_ofList]
  rfl

theorem decimalText_eq_iff {text other : String} {amount amount' : Decimal}
    (h : parseAmount text = .ok amount) (h' : parseAmount other = .ok amount') :
    decimalText amount = decimalText amount' ↔ denoted text = denoted other := by
  rw [← value_of_accepted h, ← value_of_accepted h', decimalText_eq_plainChars, decimalText_eq_plainChars]
  exact Decimal.plainChars_eq_iff ((scale_of_accepted h).1.trans (scale_of_accepted h').1.symm)

/-- A column gives an accepted amount the same text. -/
theorem decimalText_stored {text : String} {amount column : Decimal} (h : parseAmount text = .ok amount)
    (hstored : storeNumeric amount = .ok column) : decimalText column = decimalText amount := by
  unfold storeNumeric at hstored
  simp only [bind_eq_ok, pure_eq_ok] at hstored
  obtain ⟨_, -, rfl⟩ := hstored
  rw [(scale_of_accepted h).1, Bool.false_and, decimalText_eq h, ← decimalText_atScaleSix]
  rfl

/-- Two accepted amounts have the same millionths exactly when their texts denote one number. -/
theorem columnUnits_eq_iff {text other : String} {amount amount' : Decimal}
    (h : parseAmount text = .ok amount) (h' : parseAmount other = .ok amount') :
    columnUnits amount = columnUnits amount' ↔ denoted text = denoted other := by
  rw [← decimalText_eq_iff h h', decimalText_eq h, decimalText_eq h', Camt.decimalText_injective.eq_iff]

open Camt (detailHashPayload entryPayload)

/-- What a detail hash covers tells amounts apart. -/
theorem detailHashPayload_amount_iff (detail : Camt.NormalizedEntryDetail) (m n : ℕ) :
    detailHashPayload { detail with detailAmount := m } = detailHashPayload { detail with detailAmount := n } ↔
      m = n := by
  refine ⟨fun h => ?_, fun h => by rw [h]⟩
  obtain ⟨-, hamount, -⟩ := Camt.detailHashPayload_inj h
  exact hamount

/-- What an entry hash covers tells amounts apart. -/
theorem entryPayload_amount_iff (entry : Camt.NormalizedStatementEntry) (m n : ℕ) :
    entryPayload { entry with entryAmount := m } = entryPayload { entry with entryAmount := n } ↔
      m = n := by
  refine ⟨fun h => ?_, fun h => by rw [h]⟩
  have hkeys : ["source_entry_identity", "entry_sequence_number", "source_locator_path",
      "booking_occurred_at", "value_occurred_at", "entry_amount", "entry_currency_code",
      "credit_debit_code", "reversal_indicator", "bank_transaction_domain_code",
      "bank_transaction_family_code", "bank_transaction_subfamily_code", "end_to_end_reference",
      "account_servicer_reference", "mandate_reference", "cheque_reference",
      "remittance_evidence_text", "counterparty_evidence_hash", "details"].Nodup := by
    decide +kernel
  have hmembers := Json.Tree.sorted_inj (by rfl) (by exact hkeys) h
  simp only [List.cons.injEq, Prod.mk.injEq, true_and, and_true, Json.Tree.text.injEq,
    Camt.decimalText_injective.eq_iff] at hmembers
  exact hmembers

/-- One text for every form of an amount, and one for every number. -/
structure IsCanonical (text : String) (amount : Decimal) : Prop where
  accepted : ∃ again, parseAmount (String.ofList (decimalText amount)) = .ok again ∧
    again.value = amount.value
  text_eq_iff : ∀ other amount', parseAmount other = .ok amount' →
    (decimalText amount = decimalText amount' ↔ denoted text = denoted other)
  stored : ∀ column, storeNumeric amount = .ok column → decimalText column = decimalText amount
  /-- The texts within the payloads of the hashes are these. -/
  hashed : Core.parseAmount text = .ok (columnUnits amount) ∧
    decimalText amount = Camt.decimalText (columnUnits amount)
  detail_hash : ∀ other amount', parseAmount other = .ok amount' → ∀ detail : Camt.NormalizedEntryDetail,
    (detailHashPayload { detail with detailAmount := columnUnits amount } =
      detailHashPayload { detail with detailAmount := columnUnits amount' } ↔ denoted text = denoted other)
  entry_hash : ∀ other amount', parseAmount other = .ok amount' → ∀ entry : Camt.NormalizedStatementEntry,
    (entryPayload { entry with entryAmount := columnUnits amount } =
      entryPayload { entry with entryAmount := columnUnits amount' } ↔ denoted text = denoted other)

/-- The text of an accepted amount is canonical. -/
theorem decimalText_canonical {text : String} {amount : Decimal} (h : parseAmount text = .ok amount) :
    IsCanonical text amount where
  accepted := parseAmount_decimalText h
  text_eq_iff _ _ h' := decimalText_eq_iff h h'
  stored _ hstored := decimalText_stored h hstored
  hashed := ⟨parseAmount_millionths h, decimalText_eq h⟩
  detail_hash _ _ h' detail := (detailHashPayload_amount_iff detail _ _).trans (columnUnits_eq_iff h h')
  entry_hash _ _ h' entry := (entryPayload_amount_iff entry _ _).trans (columnUnits_eq_iff h h')

/-- An amount with zeros on both sides of its point. -/
theorem decimalText_canonical_zeros : IsCanonical "2500.500" ⟨false, 2500500, -3⟩ :=
  decimalText_canonical (by decide +kernel)

example : decimalText ⟨false, 2500500000, -6⟩ = "2500.5".toList := by decide +kernel

end AccountingPlatform.Bank.Amounts
