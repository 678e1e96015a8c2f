/-
  What `validate_append_only_journal_sql` reports.

  The gate sees the tokens of `Scripts.SqlMasking` and reports the forms of `Scripts.ListCommands`
  among them. Its report is the right one where these forms stand in a text just when a
  command on a journal table is executed.
-/
import AccountingPlatform.Scripts.ListCommands
import AccountingPlatform.Scripts.SqlMasking

namespace AccountingPlatform.Scripts

open AccountingPlatform.Lib AccountingPlatform.Core
open Pattern
open Classes hiding isSpace isWord

variable {t : UnicodeTable}

/-- The gate reports the error on the text. -/
def Reports (t : UnicodeTable) (text : List Char) : Prop :=
  validateAppendOnlyJournalSql t text = some [appendOnlyJournalMutationError]

instance decReports (text : List Char) : Decidable (Reports t text) :=
  inferInstanceAs (Decidable (_ = _))

theorem validateAppendOnlyJournalSql_isSome (text : List Char) :
    (validateAppendOnlyJournalSql t text).isSome = true := by
  rw [validateAppendOnlyJournalSql, Option.isSome_map]
  exact lexExecutableSql_isSome text

/-- The report on a legible text is told from the tokens the gate sees. -/
theorem reports_iff {text : List Char} {seen : List Token} (h : seenTokens t text = some seen) :
    Reports t text ↔ Reported (t.classes.signs (shown seen)) := by
  obtain ⟨out, hout, hsigns⟩ := lexExecutableSql_of_legible h
  rw [Reports, validateAppendOnlyJournalSql, hout, ← hsigns, ← mutatesJournal_iff]
  by_cases hmutates : mutatesJournal t out = true
  · simp [hmutates]
  · simp [hmutates]

/-- The error is reported just when a command on a journal table is executed. -/
def ReportsExactly (t : UnicodeTable) (unescape : List Char → List Char) (text : List Char) : Prop :=
  ∀ executable, executableTokens unescape text = some executable →
    (Reports t text ↔ Destructive executable)

/-- Every text the gate opens is cut where PostgreSQL cuts it, and one of the forms the gate
knows stands in sight of it just when a command on a journal table is executed. -/
def InSight (t : UnicodeTable) (unescape : List Char → List Char) (text : List Char) : Prop :=
  ∀ executable, executableTokens unescape text = some executable →
    ∃ seen, seenTokens t text = some seen ∧
      (Reported (t.classes.signs (shown seen)) ↔ Destructive executable)

theorem reportsExactly_of_inSight {unescape : List Char → List Char} {text : List Char}
    (h : InSight t unescape text) : ReportsExactly t unescape text := by
  intro executable hexecutable
  obtain ⟨seen, hseen, hsight⟩ := h executable hexecutable
  rw [reports_iff hseen, hsight]

/-- The gate comes to an end on every text. On a text cut as PostgreSQL cuts it, it reports
the forms it knows among the tokens it sees, and these alone; so the report is the right one
just where the commands are in sight. -/
theorem validateAppendOnlyJournalSql_sees (t : UnicodeTable) (unescape : List Char → List Char)
    (text : List Char) :
    (validateAppendOnlyJournalSql t text).isSome = true ∧
      (∀ seen, seenTokens t text = some seen →
        (Reports t text ↔ Reported (t.classes.signs (shown seen)))) ∧
      (InSight t unescape text → ReportsExactly t unescape text) ∧
      ((seenTokens t text).isSome = true → ReportsExactly t unescape text →
        InSight t unescape text) := by
  refine ⟨validateAppendOnlyJournalSql_isSome text, fun seen => reports_iff,
    reportsExactly_of_inSight, fun hlegible h executable hexecutable => ?_⟩
  obtain ⟨seen, hseen⟩ := Option.isSome_iff_exists.mp hlegible
  exact ⟨seen, hseen, by rw [← reports_iff hseen, h executable hexecutable]⟩

/-- The letters beyond ASCII that stand for ASCII letters, and no other. -/
def foldedLetters : UnicodeTable where
  isAlnum c := decide (128 ≤ c.toNat) && foldCase c != c
  noSpace := by
    intro c h
    rw [Bool.and_eq_true, bne_iff_ne, decide_eq_true_eq] at h
    have hfour : c.toNat = 0x130 ∨ c.toNat = 0x131 ∨ c.toNat = 0x17f ∨ c.toNat = 0x212a := by
      by_contra hother
      simp only [not_or] at hother
      refine h.2 ?_
      rw [foldCase, if_neg (by tauto), if_neg hother.2.2.1, if_neg hother.2.2.2,
        toLower_of_not_ascii h.1]
    rcases hfour with h | h | h | h
    all_goals simp [isSpace, h]
  folded := by
    intro c hlarge hfolded
    simp [hlarge, hfolded]

def hiddenDelete : List Char := "WITH gone AS (DELETE FROM general_journal) SELECT 1;".toList

/-- A bracket behind the name hides the command. -/
example : ¬Reports foldedLetters hiddenDelete := by decide +kernel

example : Destructive ((executableTokens id hiddenDelete).get (by decide +kernel)) := by
  decide +kernel

def openDelete : List Char :=
  "SELECT 'it''s'; DELETE /* all */ FROM -- old\n public . \"general_journal\";".toList

/-- Comments and a literal before it do not hide a command. -/
theorem validateAppendOnlyJournalSql_sees_openDelete :
    Reports foldedLetters openDelete ∧ ReportsExactly foldedLetters id openDelete := by
  have hreports : Reports foldedLetters openDelete := by decide +kernel
  obtain ⟨seen, hseen⟩ : ∃ seen, seenTokens foldedLetters openDelete = some seen :=
    Option.isSome_iff_exists.mp (by decide +kernel)
  obtain ⟨-, hreported, hexact, -⟩ := validateAppendOnlyJournalSql_sees foldedLetters id openDelete
  refine ⟨hreports, hexact fun executable hexecutable => ⟨seen, hseen, ?_⟩⟩
  have hdestructive : (executableTokens id openDelete).any (fun ts => decide (Destructive ts)) = true := by
    decide +kernel
  rw [hexecutable, Option.any_some, decide_eq_true_eq] at hdestructive
  exact iff_of_true ((hreported seen hseen).mp hreports) hdestructive

end AccountingPlatform.Scripts
