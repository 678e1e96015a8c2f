/-
  JSON and CSV exports of a close review (`reconciliation_read_model.py`).

  The CSV export flattens a projection into one row and joins its exception references with
  a bar; `IsAmbiguous` says when that hides a difference. Rows are read back by the reader of
  `Lib.Csv`.
-/
import AccountingPlatform.Bank.CloseReview
import AccountingPlatform.Lib.Csv
import AccountingPlatform.Lib.JsonTree
import AccountingPlatform.Lib.Separated

namespace AccountingPlatform.Bank

open AccountingPlatform.Lib AccountingPlatform.Core

/-! ## Exports -/

inductive ExportValue where
  | missing
  | flag (b : Bool)
  | count (n : ℕ)
  | text (s : String)
  | texts (ss : List String)
  deriving DecidableEq

/-- `None` or the text of a change. -/
def changeText (change : Option Decimal) : ExportValue :=
  match change with
  | none => .missing
  | some d => .text d.text

/-- `_projection_mapping`. -/
def projectionMapping (projection : CloseReviewProjection) : List (String × ExportValue) :=
  [("tenant_account_reference", .text projection.tenantAccountReference),
    ("legal_entity_reference", .text projection.legalEntityReference),
    ("accounting_book_reference", .text projection.accountingBookReference),
    ("bank_account_assignment_reference", .text projection.bankAccountAssignmentReference),
    ("reconciliation_run_reference", .text projection.reconciliationRunReference),
    ("statement_population_reference", .text projection.statementPopulationReference),
    ("book_population_reference", .text projection.bookPopulationReference),
    ("currency_code", .text projection.currencyCode),
    ("bank_closing_balance", .text projection.bankClosingBalance.text),
    ("posted_book_cash_balance", .text projection.postedBookCashBalance.text),
    ("reconciled_balance", .text projection.reconciledBalance.text),
    ("outstanding_bank_items", .text projection.outstandingBankItems.text),
    ("outstanding_book_items", .text projection.outstandingBookItems.text),
    ("unexplained_difference", .text projection.unexplainedDifference.text),
    ("safely_matchable_candidate_count", .count projection.safelyMatchableCandidateCount),
    ("exception_count", .count projection.exceptionCount),
    ("exception_statement_entry_references", .texts projection.exceptionStatementEntryReferences),
    ("unexplained_difference_change", changeText projection.unexplainedDifferenceChange),
    ("outstanding_bank_items_change", changeText projection.outstandingBankItemsChange),
    ("outstanding_book_items_change", changeText projection.outstandingBookItemsChange),
    ("suitable_for_period_close_review", .flag projection.suitableForPeriodCloseReview),
    ("next_action", .text projection.nextAction)]

def ExportValue.json : ExportValue → Json.Value
  | .missing => .null
  | .flag b => .bool b
  | .count n => .number n
  | .text s => .text s.toList
  | .texts ss => .texts (ss.map String.toList)

/-- `json.dumps` with `sort_keys`. -/
def renderReconciliationCloseReviewJson (projection : CloseReviewProjection) : String :=
  String.ofList (Json.writeObject
    (((projectionMapping projection).mergeSort fun a b => decide (a.1 ≤ b.1)).map
      fun member => (member.1.toList, member.2.json)))

/-- `"|".join(references)`. -/
def joinedReferences (references : List String) : List Char :=
  ['|'].intercalate (references.map String.toList)

def ExportValue.csv : ExportValue → List Char
  | .missing => []
  | .flag b => if b then "true".toList else "false".toList
  | .count n => (toString n).toList
  | .text s => s.toList
  | .texts ss => joinedReferences ss

def csvHeader (projection : CloseReviewProjection) : List (List Char) :=
  (projectionMapping projection).map fun member => member.1.toList

def csvFields (projection : CloseReviewProjection) : List (List Char) :=
  (projectionMapping projection).map fun member => member.2.csv

def renderReconciliationCloseReviewCsv (projection : CloseReviewProjection) : String :=
  String.ofList ([csvHeader projection, csvFields projection].flatMap Csv.writeRow)

/-- The rows a CSV reader finds in the export. -/
def csvRows (projection : CloseReviewProjection) : List (List (List Char)) :=
  Csv.read (renderReconciliationCloseReviewCsv projection).toList

/-! ## What the exports determine -/

variable {p q : CloseReviewProjection}

theorem csvRows_eq (projection : CloseReviewProjection) :
    csvRows projection = [csvHeader projection, csvFields projection] := by
  unfold csvRows renderReconciliationCloseReviewCsv
  rw [String.toList_ofList]
  refine Csv.read_write fun row hrow => ?_
  simp only [List.mem_cons, List.not_mem_nil, or_false] at hrow
  rcases hrow with rfl | rfl
  · exact List.cons_ne_nil _ _
  · exact List.cons_ne_nil _ _

theorem text_ne_nil (d : Decimal) : d.text.toList ≠ [] := by
  have hmantissa := Decimal.mantissa_ne_nil (Nat.toDigits_ne_nil : d.digits ≠ []) d.dotPlace
  unfold Decimal.text Decimal.chars
  rw [String.toList_ofList]
  exact List.append_ne_nil_of_right_ne_nil _ (List.append_ne_nil_of_left_ne_nil hmantissa _)

theorem changeText_injective : Function.Injective changeText := by
  intro a b h
  cases a with
  | none =>
    cases b with
    | none => rfl
    | some e => nomatch h
  | some d =>
    cases b with
    | none => nomatch h
    | some e => rw [Decimal.text_injective (ExportValue.text.inj h)]

theorem toList_map_injective : Function.Injective (List.map String.toList) :=
  List.map_injective_iff.mpr fun _ _ => String.toList_inj.mp

theorem json_value_injective : Function.Injective ExportValue.json := by
  intro a b h
  match a, b with
  | .missing, .missing => rfl
  | .flag a, .flag b => rw [Json.Value.bool.inj h]
  | .count a, .count b => rw [Json.Value.number.inj h]
  | .text a, .text b => rw [String.toList_inj.mp (Json.Value.text.inj h)]
  | .texts a, .texts b => rw [toList_map_injective (Json.Value.texts.inj h)]

theorem mapping_keys_nodup (projection : CloseReviewProjection) :
    ((projectionMapping projection).map Prod.fst).Nodup := by
  have h : ["tenant_account_reference", "legal_entity_reference", "accounting_book_reference",
      "bank_account_assignment_reference", "reconciliation_run_reference",
      "statement_population_reference", "book_population_reference", "currency_code",
      "bank_closing_balance", "posted_book_cash_balance", "reconciled_balance",
      "outstanding_bank_items", "outstanding_book_items", "unexplained_difference",
      "safely_matchable_candidate_count", "exception_count",
      "exception_statement_entry_references", "unexplained_difference_change",
      "outstanding_bank_items_change", "outstanding_book_items_change",
      "suitable_for_period_close_review", "next_action"].Nodup := by decide +kernel
  exact h

/-- The mapping holds every field. -/
theorem projectionMapping_injective : Function.Injective projectionMapping := by
  intro p q h
  simp only [projectionMapping, List.cons.injEq, Prod.mk.injEq, true_and, and_true,
    ExportValue.text.injEq, ExportValue.texts.injEq, ExportValue.count.injEq,
    ExportValue.flag.injEq, Decimal.text_injective.eq_iff, changeText_injective.eq_iff] at h
  cases p
  cases q
  simp only [CloseReviewProjection.mk.injEq]
  exact h

/-- The JSON export determines the projection. -/
theorem json_injective : Function.Injective renderReconciliationCloseReviewJson := by
  intro p q h
  have hmember : Function.Injective fun member : String × ExportValue =>
      (member.1.toList, member.2.json) := by
    intro a b hab
    obtain ⟨hkey, hvalue⟩ := Prod.mk.inj hab
    exact Prod.ext (String.toList_inj.mp hkey) (json_value_injective hvalue)
  have hsorted := List.map_injective_iff.mpr hmember
    (Json.writeObject_injective (String.ofList_injective h))
  have hback := List.mergeSort_perm (projectionMapping q) fun a b => decide (a.1 ≤ b.1)
  rw [← hsorted] at hback
  have hperm := (List.mergeSort_perm (projectionMapping p) _).symm.trans hback
  exact projectionMapping_injective (Json.eq_of_perm_of_keys rfl (mapping_keys_nodup q) hperm)

/-- The projection without its exception references. -/
def withoutReferences (projection : CloseReviewProjection) : CloseReviewProjection :=
  { projection with exceptionStatementEntryReferences := [] }

theorem changeText_csv_injective {a b : Option Decimal}
    (h : (changeText a).csv = (changeText b).csv) : a = b := by
  cases a with
  | none =>
    cases b with
    | none => rfl
    | some e => exact absurd h.symm (text_ne_nil e)
  | some d =>
    cases b with
    | none => exact absurd h (text_ne_nil d)
    | some e => rw [Decimal.text_injective (String.toList_inj.mp h)]

theorem flag_csv_injective {a b : Bool} (h : (ExportValue.flag a).csv = (ExportValue.flag b).csv) :
    a = b := by
  cases a <;> cases b
  · rfl
  · exact absurd h (by decide +kernel)
  · exact absurd h (by decide +kernel)
  · rfl

theorem count_csv_injective {n m : ℕ} (h : (ExportValue.count n).csv = (ExportValue.count m).csv) :
    n = m := by
  have hdigits : Nat.toDigits 10 n = Nat.toDigits 10 m := by
    simpa only [ExportValue.csv, Nat.toString_eq_repr, Nat.toList_repr] using h
  have hnumber := congrArg (fun cs => Nat.ofDigitChars 10 cs 0) hdigits
  simpa only [Nat.ofDigitChars_ten_toDigits] using hnumber

theorem text_csv_injective {s t : String} (h : (ExportValue.text s).csv = (ExportValue.text t).csv) :
    s = t := String.toList_inj.mp h

/-- A CSV row determines everything but the references, of which it keeps the join. -/
theorem csvFields_eq_iff :
    csvFields p = csvFields q ↔
      withoutReferences p = withoutReferences q ∧
        joinedReferences p.exceptionStatementEntryReferences =
          joinedReferences q.exceptionStatementEntryReferences := by
  have htext {s t : String} : (ExportValue.text s).csv = (ExportValue.text t).csv ↔ s = t :=
    ⟨text_csv_injective, fun h => h ▸ rfl⟩
  have hcount {n m : ℕ} : (ExportValue.count n).csv = (ExportValue.count m).csv ↔ n = m :=
    ⟨count_csv_injective, fun h => h ▸ rfl⟩
  have hflag {a b : Bool} : (ExportValue.flag a).csv = (ExportValue.flag b).csv ↔ a = b :=
    ⟨flag_csv_injective, fun h => h ▸ rfl⟩
  have hchange {a b : Option Decimal} : (changeText a).csv = (changeText b).csv ↔ a = b :=
    ⟨changeText_csv_injective, fun h => h ▸ rfl⟩
  have hreferences {ss ts : List String} : (ExportValue.texts ss).csv = (ExportValue.texts ts).csv ↔
    joinedReferences ss = joinedReferences ts := Iff.rfl
  unfold csvFields projectionMapping withoutReferences
  simp only [List.map_cons, List.map_nil, List.cons.injEq, htext, hcount, hflag, hchange, hreferences,
    Decimal.text_injective.eq_iff, CloseReviewProjection.mk.injEq, true_and, and_true]
  tauto

/-- Two projections agree in everything but their references, and these in their pieces. -/
structure IsAmbiguous (p q : CloseReviewProjection) : Prop where
  agree : withoutReferences p = withoutReferences q
  differ : p.exceptionStatementEntryReferences ≠ q.exceptionStatementEntryReferences
  pieces : pieces '|' (p.exceptionStatementEntryReferences.map String.toList) =
    pieces '|' (q.exceptionStatementEntryReferences.map String.toList)

/-- Equal CSV exports mean equal JSON exports, and each export determines the projection. -/
structure ExportsFaithful (p q : CloseReviewProjection) : Prop where
  csv_json : csvRows p = csvRows q →
    renderReconciliationCloseReviewJson p = renderReconciliationCloseReviewJson q
  csv_determines : csvRows p = csvRows q → p = q
  json_determines : renderReconciliationCloseReviewJson p = renderReconciliationCloseReviewJson q →
    p = q

theorem eq_of_withoutReferences (h : withoutReferences p = withoutReferences q)
    (hreferences : p.exceptionStatementEntryReferences = q.exceptionStatementEntryReferences) :
    p = q := by
  cases p
  cases q
  simp only [withoutReferences, CloseReviewProjection.mk.injEq] at h hreferences ⊢
  tauto

theorem csvRows_eq_iff : csvRows p = csvRows q ↔ csvFields p = csvFields q := by
  have hheader : csvHeader p = csvHeader q := rfl
  rw [csvRows_eq, csvRows_eq, hheader]
  simp only [List.cons.injEq, true_and, and_true]

/-- Joins of as many references agree exactly when their pieces do. -/
theorem joinedReferences_eq_iff {ss ts : List String} (hlength : ss.length = ts.length) :
    joinedReferences ss = joinedReferences ts ↔
      pieces '|' (ss.map String.toList) = pieces '|' (ts.map String.toList) := by
  unfold joinedReferences
  cases ss with
  | nil =>
    obtain rfl : ts = [] := List.length_eq_zero_iff.mp hlength.symm
    exact iff_of_true rfl rfl
  | cons s ss =>
    cases ts with
    | nil => nomatch hlength
    | cons t ts => exact intercalate_eq_iff (List.cons_ne_nil _ _) (List.cons_ne_nil _ _)

/-- References without bars are never confused. -/
theorem not_isAmbiguous_of_no_bar
    (hp : ∀ reference ∈ p.exceptionStatementEntryReferences, '|' ∉ reference.toList)
    (hq : ∀ reference ∈ q.exceptionStatementEntryReferences, '|' ∉ reference.toList) :
    ¬IsAmbiguous p q := by
  intro h
  have hpieces := h.pieces
  rw [pieces_of_not_mem (List.forall_mem_map.mpr hp), pieces_of_not_mem (List.forall_mem_map.mpr hq)]
    at hpieces
  exact h.differ (toList_map_injective hpieces)

/-- The exports of two reviews are faithful exactly when no bar inside a reference makes the
    reviews look alike. -/
theorem exports_faithful_iff {input other : CloseReviewInput}
    (hp : buildReconciliationCloseReview input = .ok p)
    (hq : buildReconciliationCloseReview other = .ok q) :
    ExportsFaithful p q ↔ ¬IsAmbiguous p q := by
  -- reviews that agree elsewhere count their references alike
  have hlength (h : withoutReferences p = withoutReferences q) :
      p.exceptionStatementEntryReferences.length = q.exceptionStatementEntryReferences.length := by
    have hcount : (withoutReferences p).exceptionCount = (withoutReferences q).exceptionCount := by
      rw [h]
    rw [← (reviews_of_ok hp).exceptionCount, ← (reviews_of_ok hq).exceptionCount]
    exact hcount
  constructor
  · intro hfaithful hambiguous
    have hjoined := (joinedReferences_eq_iff (hlength hambiguous.agree)).mpr hambiguous.pieces
    have hrows := csvRows_eq_iff.mpr (csvFields_eq_iff.mpr ⟨hambiguous.agree, hjoined⟩)
    have hsame := hfaithful.csv_determines hrows
    exact hambiguous.differ (congrArg CloseReviewProjection.exceptionStatementEntryReferences hsame)
  · intro hclear
    have hdetermines (hrows : csvRows p = csvRows q) : p = q := by
      obtain ⟨hagree, hjoined⟩ := csvFields_eq_iff.mp (csvRows_eq_iff.mp hrows)
      by_contra hne
      refine hclear ⟨hagree, fun hreferences => hne (eq_of_withoutReferences hagree hreferences), ?_⟩
      exact (joinedReferences_eq_iff (hlength hagree)).mp hjoined
    exact ⟨fun hrows => congrArg _ (hdetermines hrows), hdetermines, fun h => json_injective h⟩

/-- A run whose two entries are both exceptions. -/
def exceptionReview (first second : String) : CloseReviewInput where
  bridgeResult := reviewBridge
  decisions := [
    abstain { reviewStatement with statementEntryReference := first } .noCandidate noCandidateAction,
    abstain { reviewStatement with statementEntryReference := second } .noCandidate noCandidateAction]
  expectedStatementEntryReferences := [first, second]
  scope := reviewScope
  precedingBridgeResult := none
  precedingScope := none

theorem exceptionReview_built {first second : String} (hfirst : strip first ≠ "")
    (hsecond : strip second ≠ "") (hne : first ≠ second) :
    ∃ projection, buildReconciliationCloseReview (exceptionReview first second) = .ok projection := by
  refine build_ok ⟨reviewScope_bound, ⟨?_, ?_, List.Perm.refl [first, second]⟩, trivial⟩ ?_
  · simp [exceptionReview, hfirst, hsecond]
  · simp [exceptionReview, hne]
  · intro preceding hpreceding
    nomatch hpreceding

theorem exceptionReview_references {first second : String} {projection : CloseReviewProjection}
    (h : buildReconciliationCloseReview (exceptionReview first second) = .ok projection) :
    projection.exceptionStatementEntryReferences = [first, second] := (reviews_of_ok h).exceptions

theorem plainReferences_faithful :
    ∃ p q, buildReconciliationCloseReview (exceptionReview "a" "b") = .ok p ∧
      buildReconciliationCloseReview (exceptionReview "a" "c") = .ok q ∧ ExportsFaithful p q := by
  obtain ⟨p, hp⟩ := exceptionReview_built (by decide +kernel : strip "a" ≠ "")
    (by decide +kernel : strip "b" ≠ "") (by decide)
  obtain ⟨q, hq⟩ := exceptionReview_built (by decide +kernel : strip "a" ≠ "")
    (by decide +kernel : strip "c" ≠ "") (by decide)
  refine ⟨p, q, hp, hq, (exports_faithful_iff hp hq).mpr (not_isAmbiguous_of_no_bar ?_ ?_)⟩
  · rw [exceptionReview_references hp]
    decide +kernel
  · rw [exceptionReview_references hq]
    decide +kernel

/-- Apart from its references the review does not depend on the entries. -/
theorem exceptionReview_agree {first second third fourth : String}
    (hp : buildReconciliationCloseReview (exceptionReview first second) = .ok p)
    (hq : buildReconciliationCloseReview (exceptionReview third fourth) = .ok q) :
    withoutReferences p = withoutReferences q := by
  simp only [buildReconciliationCloseReview, bind_eq_ok, pure_eq_ok] at hp hq
  obtain ⟨_, -, _, -, changes, hchanges, rfl⟩ := hp
  obtain ⟨_, -, _, -, others, hothers, rfl⟩ := hq
  have hnone : ReviewChanges.mk none none none = changes := Except.ok.inj hchanges
  have hnone' : ReviewChanges.mk none none none = others := Except.ok.inj hothers
  rw [← hnone, ← hnone']
  rfl

theorem barredReferences_not_faithful :
    ∃ p q, buildReconciliationCloseReview (exceptionReview "a|b" "c") = .ok p ∧
      buildReconciliationCloseReview (exceptionReview "a" "b|c") = .ok q ∧ ¬ExportsFaithful p q := by
  obtain ⟨p, hp⟩ := exceptionReview_built (by decide +kernel : strip "a|b" ≠ "")
    (by decide +kernel : strip "c" ≠ "") (by decide)
  obtain ⟨q, hq⟩ := exceptionReview_built (by decide +kernel : strip "a" ≠ "")
    (by decide +kernel : strip "b|c" ≠ "") (by decide)
  refine ⟨p, q, hp, hq, fun h => ?_⟩
  have hjoined : joinedReferences p.exceptionStatementEntryReferences =
      joinedReferences q.exceptionStatementEntryReferences := by
    rw [exceptionReview_references hp, exceptionReview_references hq]
    decide +kernel
  have hrows := csvRows_eq_iff.mpr (csvFields_eq_iff.mpr ⟨exceptionReview_agree hp hq, hjoined⟩)
  have hreferences := congrArg CloseReviewProjection.exceptionStatementEntryReferences
    (h.csv_determines hrows)
  rw [exceptionReview_references hp, exceptionReview_references hq] at hreferences
  exact absurd hreferences (by decide +kernel)

end AccountingPlatform.Bank
