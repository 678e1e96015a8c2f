/-
  Comma-separated rows, as the default dialect of Python's `csv` writes and reads them.

  A field is quoted when it holds a comma, a quote or a line break, quotes are doubled and a
  row ends with CR LF. The reader is an automaton over the characters. `read_write` says that
  every list of non-empty rows is read back, whatever its fields hold.
-/
import Mathlib.Data.List.Basic
import Mathlib.Tactic.Common

namespace AccountingPlatform.Lib.Csv

/-! ## Writing -/

def IsSpecial (c : Char) : Prop := c = ',' ∨ c = '"' ∨ c = '\n' ∨ c = '\r'

instance : DecidablePred IsSpecial := fun _ => inferInstanceAs (Decidable (_ ∨ _))

def doubled (c : Char) : List Char := if c = '"' then ['"', '"'] else [c]

instance decSpecialField (field : List Char) : Decidable (∃ c ∈ field, IsSpecial c) :=
  List.decidableBEx IsSpecial field

def writeField (field : List Char) : List Char :=
  if ∃ c ∈ field, IsSpecial c then '"' :: (field.flatMap doubled ++ ['"']) else field

/-- A row; a single empty field is quoted, so that its line is not empty. -/
def writeRow (fields : List (List Char)) : List Char :=
  (if fields = [[]] then ['"', '"'] else [','].intercalate (fields.map writeField)) ++ ['\r', '\n']

/-! ## Reading -/

/-- Where the reader stands. -/
inductive Mode where
  | record
  | field
  | plain
  | quoted
  | quote
  | newline
  deriving DecidableEq

/-- Reader: its mode, the field and the fields of the record so far, the rows read. -/
structure Reader where
  mode : Mode
  field : List Char
  fields : List (List Char)
  rows : List (List (List Char))

namespace Reader

def saveField (r : Reader) : Reader :=
  { r with mode := .field, field := [], fields := r.fields ++ [r.field] }

def endRecord (r : Reader) (mode : Mode) : Reader :=
  { mode := mode, field := [], fields := [], rows := r.rows ++ [r.fields ++ [r.field]] }

/-- A character outside quotes, in a field that has begun. -/
def stepPlain (r : Reader) (c : Char) : Reader :=
  if c = ',' then r.saveField
  else if c = '\n' then r.endRecord .record
  else if c = '\r' then r.endRecord .newline
  else { r with mode := .plain, field := r.field ++ [c] }

/-- The first character of a field. -/
def stepField (r : Reader) (c : Char) : Reader :=
  if c = '"' then { r with mode := .quoted } else r.stepPlain c

/-- The first character of a record; an empty line is a row without fields. -/
def stepRecord (r : Reader) (c : Char) : Reader :=
  if c = '\n' then { r with mode := .record, rows := r.rows ++ [[]] }
  else if c = '\r' then { r with mode := .newline, rows := r.rows ++ [[]] }
  else r.stepField c

def step (r : Reader) (c : Char) : Reader :=
  match r.mode with
  | .record => r.stepRecord c
  | .field => r.stepField c
  | .plain => r.stepPlain c
  | .quoted => if c = '"' then { r with mode := .quote } else { r with field := r.field ++ [c] }
  | .quote =>
    if c = '"' then { r with mode := .quoted, field := r.field ++ [c] } else r.stepPlain c
  | .newline => if c = '\n' then { r with mode := .record } else r.stepRecord c

def run (r : Reader) (text : List Char) : Reader := text.foldl step r

/-- The rows at the end of the text, an open record included. -/
def finish (r : Reader) : List (List (List Char)) :=
  match r.mode with
  | .record | .newline => r.rows
  | _ => (r.endRecord .record).rows

end Reader

/-- The rows of a text. -/
def read (text : List Char) : List (List (List Char)) := (Reader.run ⟨.record, [], [], []⟩ text).finish

/-! ## Reading back -/

namespace Reader

theorem run_append (r : Reader) (text more : List Char) :
    r.run (text ++ more) = (r.run text).run more := List.foldl_append

@[simp] theorem run_cons (r : Reader) (c : Char) (text : List Char) :
    r.run (c :: text) = (r.step c).run text := rfl

@[simp] theorem run_nil (r : Reader) : r.run [] = r := rfl

/-- Characters without meaning extend a field that has begun. -/
theorem run_plain {text : List Char} (h : ∀ c ∈ text, ¬IsSpecial c) (r : Reader)
    (hmode : r.mode = .plain) : r.run text = { r with field := r.field ++ text } := by
  induction text generalizing r with
  | nil => simp
  | cons c text ih =>
    obtain ⟨hc, htext⟩ := List.forall_mem_cons.mp h
    simp only [IsSpecial, not_or] at hc
    have hstep : r.step c = { r with field := r.field ++ [c] } := by
      simp [step, hmode, stepPlain, hc]
    rw [run_cons, ih htext _ (by rw [hstep]; exact hmode), hstep]
    simp

/-- Between quotes every character counts, a quote when doubled. -/
theorem run_quoted (text : List Char) (r : Reader) (hmode : r.mode = .quoted) :
    r.run (text.flatMap doubled) = { r with field := r.field ++ text } := by
  induction text generalizing r with
  | nil => simp
  | cons c text ih =>
    have hchar : r.run (doubled c) = { r with field := r.field ++ [c] } := by
      unfold doubled
      split
      · next hc => simp [step, hmode, hc]
      · next hc => simp [step, hmode, hc]
    rw [List.flatMap_cons, run_append, hchar, ih { r with field := r.field ++ [c] } hmode]
    simp

/-- After a written field the reader holds the field and waits for its end. -/
theorem run_writeField (field : List Char) (r : Reader) (hmode : r.mode = .record ∨ r.mode = .field)
    (hfield : r.field = []) :
    (field = [] ∧ r.run (writeField field) = r) ∨
      (field ≠ [] ∧ ∃ mode, (mode = .plain ∨ mode = .quote) ∧
        r.run (writeField field) = { r with mode := mode, field := field }) := by
  unfold writeField
  split
  · next hspecial =>
    obtain ⟨c, hc, -⟩ := hspecial
    refine .inr ⟨List.ne_nil_of_mem hc, .quote, .inr rfl, ?_⟩
    have hopen : r.step '"' = { r with mode := .quoted } := by
      rcases hmode with h | h <;> simp [step, h, stepRecord, stepField]
    rw [run_cons, hopen, run_append, run_quoted _ _ rfl]
    simp [step, hfield]
  · next hplain =>
    push Not at hplain
    cases field with
    | nil => exact .inl ⟨rfl, rfl⟩
    | cons c text =>
      obtain ⟨hc, htext⟩ := List.forall_mem_cons.mp hplain
      refine .inr ⟨List.cons_ne_nil c text, .plain, .inl rfl, ?_⟩
      simp only [IsSpecial, not_or] at hc
      have hstart : r.step c = { r with mode := .plain, field := [c] } := by
        rcases hmode with h | h <;>
          simp [step, h, stepRecord, stepField, stepPlain, hc, hfield]
      rw [run_cons, hstart, run_plain htext _ rfl]
      simp

theorem step_comma (field : List Char) (r : Reader) (hmode : r.mode = .record ∨ r.mode = .field)
    (hfield : r.field = []) :
    r.run (writeField field ++ [',']) =
      { r with mode := .field, field := [], fields := r.fields ++ [field] } := by
  rw [run_append]
  rcases run_writeField field r hmode hfield with ⟨rfl, h⟩ | ⟨-, mode, hmode', h⟩
  · rw [h]
    rcases hmode with h | h <;> simp [step, h, stepRecord, stepField, stepPlain, saveField, hfield]
  · rw [h]
    rcases hmode' with rfl | rfl <;> simp [step, stepPlain, saveField]

theorem step_lineEnd (field : List Char) (r : Reader)
    (hmode : r.mode = .field ∨ (r.mode = .record ∧ field ≠ [])) (hfield : r.field = []) :
    r.run (writeField field ++ ['\r', '\n']) =
      { mode := .record, field := [], fields := [], rows := r.rows ++ [r.fields ++ [field]] } := by
  have hstart : r.mode = .record ∨ r.mode = .field := hmode.elim .inr fun h => .inl h.1
  rw [run_append]
  rcases run_writeField field r hstart hfield with ⟨rfl, h⟩ | ⟨-, mode, hmode', h⟩
  · rw [h]
    have hmode : r.mode = .field := hmode.resolve_right fun hrecord => hrecord.2 rfl
    simp [step, hmode, stepField, stepPlain, endRecord, hfield]
  · rw [h]
    rcases hmode' with rfl | rfl <;> simp [step, stepPlain, endRecord]

/-- The fields of a row, from a field boundary to the end of its line. -/
theorem run_fields {fields : List (List Char)} (hne : fields ≠ []) (r : Reader)
    (hmode : r.mode = .field ∨ (r.mode = .record ∧ fields ≠ [[]])) (hfield : r.field = []) :
    r.run ([','].intercalate (fields.map writeField) ++ ['\r', '\n']) =
      { mode := .record, field := [], fields := [], rows := r.rows ++ [r.fields ++ fields] } := by
  induction fields generalizing r with
  | nil => exact absurd rfl hne
  | cons field fields ih =>
    have hstart : r.mode = .record ∨ r.mode = .field := hmode.elim .inr fun h => .inl h.1
    cases fields with
    | nil =>
      rw [List.map_singleton, List.intercalate_singleton]
      refine step_lineEnd field r ?_ hfield
      rcases hmode with h | ⟨h, hfields⟩
      · exact .inl h
      · exact .inr ⟨h, fun he => hfields (by rw [he])⟩
    | cons second rest =>
      have hsplit : [','].intercalate ((field :: second :: rest).map writeField) ++ ['\r', '\n'] =
          (writeField field ++ [',']) ++
            ([','].intercalate ((second :: rest).map writeField) ++ ['\r', '\n']) := by
        rw [List.map_cons, List.map_cons, List.intercalate_cons_cons]
        simp
      rw [hsplit, run_append, step_comma field r hstart hfield,
        ih (List.cons_ne_nil _ _) _ (.inl rfl) rfl]
      simp

theorem run_writeRow {fields : List (List Char)} (hne : fields ≠ []) (rows : List (List (List Char))) :
    run ⟨.record, [], [], rows⟩ (writeRow fields) = ⟨.record, [], [], rows ++ [fields]⟩ := by
  unfold writeRow
  split
  · next h =>
    rw [h]
    rfl
  · next h =>
    rw [run_fields hne _ (.inr ⟨rfl, h⟩) rfl]
    simp

theorem run_writeRows {document : List (List (List Char))} (h : ∀ row ∈ document, row ≠ [])
    (rows : List (List (List Char))) :
    run ⟨.record, [], [], rows⟩ (document.flatMap writeRow) =
      ⟨.record, [], [], rows ++ document⟩ := by
  induction document generalizing rows with
  | nil => simp
  | cons row document ih =>
    obtain ⟨hrow, hdocument⟩ := List.forall_mem_cons.mp h
    rw [List.flatMap_cons, run_append, run_writeRow hrow, ih hdocument]
    simp

end Reader

/-- Rows with fields are read back as they were written. -/
theorem read_write {document : List (List (List Char))} (h : ∀ row ∈ document, row ≠ []) :
    read (document.flatMap writeRow) = document := by
  unfold read
  rw [Reader.run_writeRows h]
  rfl

end AccountingPlatform.Lib.Csv
