/-
  The append-only gate of `validate_repository.py`.

  `_lex_executable_sql` walks over a text with an index; the loops below carry the characters
  passed, nearest first, and the characters left. The regular expressions are patterns of
  `Lib.Pattern`, written as in the source. Which characters beyond ASCII are alphanumeric is
  the parameter `UnicodeTable`.
-/
import AccountingPlatform.Core.PostingLedger
import AccountingPlatform.Lib.Pattern
import AccountingPlatform.Lib.Signs
import AccountingPlatform.Scripts.SqlLexemes

namespace AccountingPlatform.Scripts

open AccountingPlatform.Lib AccountingPlatform.Core

/-! ## Characters -/

/-- `re.IGNORECASE` lets four characters beyond ASCII stand for ASCII letters. -/
def foldCase (c : Char) : Char :=
  if c.toNat = 0x130 ∨ c.toNat = 0x131 then 'i'
  else if c.toNat = 0x17f then 's'
  else if c.toNat = 0x212a then 'k'
  else c.toLower

/-- `str.isalnum` beyond ASCII. -/
structure UnicodeTable where
  isAlnum : Char → Bool
  noSpace : ∀ c, isAlnum c = true → isSpace c = false
  folded : ∀ c, 128 ≤ c.toNat → foldCase c ≠ c → isAlnum c = true

variable (t : UnicodeTable)

namespace UnicodeTable

/-- `c.isalnum() or c == "_"`, the characters `\w` stands for. -/
def isWordChar (c : Char) : Bool :=
  if c.toNat < 128 then c.isAlphanum || c == '_' else t.isAlnum c

end UnicodeTable

/-! ## Regular expressions -/

open Pattern

/-- A literal part of an expression that ignores case. -/
def keyword (text : String) : Pattern Char :=
  spelled (text.toList.map fun k c => foldCase c == foldCase k)

/-- One character of `[A-Za-z_]`, case ignored. -/
def isIdentifierStart (c : Char) : Bool := (foldCase c).isAlpha || c == '_'

/-- One character of `[A-Za-z0-9_]`, case ignored. -/
def isIdentifierChar (c : Char) : Bool := isIdentifierStart c || c.isDigit

/-- `\s+` -/
def spaces : Pattern Char := plus (one isSpace)

/-- `\s*` -/
def anySpaces : Pattern Char := star (one isSpace)

def quoteMark : Pattern Char := one (· == '"')

/-- `[A-Za-z_][A-Za-z0-9_]*` -/
def plainIdentifier : Pattern Char := seq (one isIdentifierStart) (star (one isIdentifierChar))

/-- `_SQL_IDENTIFIER` -/
def sqlIdentifier : Pattern Char :=
  alt (seq quoteMark (seq (star (alt (one (· != '"')) (seq quoteMark quoteMark))) quoteMark))
    plainIdentifier

/-- `(?:general_journal|journal_entry_line|"general_journal"|"journal_entry_line")` -/
def journalTable : Pattern Char :=
  alt (keyword "general_journal") (alt (keyword "journal_entry_line")
    (alt (keyword "\"general_journal\"") (keyword "\"journal_entry_line\"")))

/-- `(?=\s|;|$)` -/
def tableEnd : Pattern Char := ahead (alt (one isSpace) (alt (one (· == ';')) (final (· == '\n'))))

/-- The commands of `APPEND_ONLY_JOURNAL_MUTATION_PATTERN`. -/
def mutationCommand : Pattern Char :=
  alt (seq (keyword "UPDATE") (opt (seq spaces (keyword "ONLY"))))
    (alt (seq (keyword "DELETE") (seq spaces (seq (keyword "FROM") (opt (seq spaces (keyword "ONLY"))))))
      (alt (seq (keyword "TRUNCATE") (seq (opt (seq spaces (keyword "TABLE")))
          (opt (seq spaces (keyword "ONLY")))))
        (seq (keyword "DROP") (seq spaces (seq (keyword "TABLE")
          (opt (seq spaces (seq (keyword "IF") (seq spaces (keyword "EXISTS"))))))))))

/-- `APPEND_ONLY_JOURNAL_MUTATION_PATTERN` -/
def appendOnlyJournalMutation : Pattern Char :=
  seq (edge t.isWordChar) (seq mutationCommand (seq spaces
    (seq (opt (seq sqlIdentifier (seq anySpaces (seq (one (· == '.')) anySpaces))))
      (seq journalTable tableEnd))))

/-- What stands before the target list in `table_list_pattern`. -/
def tableListHead : Pattern Char :=
  seq (edge t.isWordChar)
    (seq (alt (seq (keyword "TRUNCATE") (opt (seq spaces (keyword "TABLE"))))
      (seq (keyword "DROP") (seq spaces (seq (keyword "TABLE")
        (opt (seq spaces (seq (keyword "IF") (seq spaces (keyword "EXISTS"))))))))) spaces)

/-- `[^;]+` -/
def tableListTargets : Pattern Char := plus (one (· != ';'))

/-- The options behind a target list. -/
def listOptions : Pattern Char :=
  seq (edge t.isWordChar)
    (seq (alt (seq (keyword "RESTART") (seq spaces (keyword "IDENTITY")))
      (alt (seq (keyword "CONTINUE") (seq spaces (keyword "IDENTITY")))
        (alt (keyword "CASCADE") (keyword "RESTRICT"))))
      (edge t.isWordChar))

/-- `\bAS\s*$` -/
def asAtEnd : Pattern Char :=
  seq (edge t.isWordChar) (seq (keyword "AS") (seq anySpaces (final (· == '\n'))))

/-- `\bDO(?:\s+LANGUAGE\s+[A-Za-z_][A-Za-z0-9_]*)?\s*$` -/
def doAtEnd : Pattern Char :=
  seq (edge t.isWordChar) (seq (keyword "DO")
    (seq (opt (seq spaces (seq (keyword "LANGUAGE") (seq spaces plainIdentifier))))
      (seq anySpaces (final (· == '\n')))))

/-- One character of `[A-Za-z_]`. -/
def isAsciiStart (c : Char) : Bool := c.isAlpha || c == '_'

/-- One character of `[A-Za-z0-9_]`. -/
def isAsciiChar (c : Char) : Bool := c.isAlphanum || c == '_'

/-- `_DOLLAR_QUOTE_PATTERN` -/
def dollarQuote : Pattern Char :=
  seq (one (· == '$')) (seq (opt (seq (one isAsciiStart) (star (one isAsciiChar))))
    (one (· == '$')))

/-! ## The lexer -/

/-- `str.rstrip` -/
def rstrip (text : List Char) : List Char := (text.reverse.dropWhile isSpace).reverse

/-- `_dollar_body_is_executable` -/
def dollarBodyIsExecutable (earlier : List Char) : Bool :=
  let stripped := rstrip earlier
  (search (asAtEnd t) stripped).isSome || (search (doAtEnd t) stripped).isSome

/-- The loop over a line comment. -/
def lineComment (before : List Char) : List Char → Place Char
  | [] => ⟨before, []⟩
  | c :: rest => if isNewline c then ⟨before, c :: rest⟩ else lineComment (c :: before) rest

/-- The loop over a block comment. -/
def blockComment : ℕ → List Char → List Char → List Char → List Char × Place Char
  | 0, output, before, rest => (output, ⟨before, rest⟩)
  | _ + 1, output, before, [] => (output, ⟨before, []⟩)
  | _ + 1, output, before, [c] => (if isNewline c then output ++ [c] else output, ⟨c :: before, []⟩)
  | depth + 1, output, before, c :: d :: rest =>
    if c = '/' ∧ d = '*' then blockComment (depth + 2) output (d :: c :: before) rest
    else if c = '*' ∧ d = '/' then blockComment depth output (d :: c :: before) rest
    else blockComment (depth + 1) (if isNewline c then output ++ [c] else output) (c :: before)
      (d :: rest)

/-- The loop over a literal. -/
def literalLoop (escape : Bool) (output before : List Char) : List Char → List Char × Place Char
  | [] => (output, ⟨before, []⟩)
  | [c] =>
    if c = '\'' then (output, ⟨c :: before, []⟩)
    else (if isNewline c then output ++ [c] else output, ⟨c :: before, []⟩)
  | c :: d :: rest =>
    if (escape && c == '\\') || (c == '\'' && d == '\'') then
      literalLoop escape output (d :: c :: before) rest
    else if c = '\'' then (output, ⟨c :: before, d :: rest⟩)
    else literalLoop escape (if isNewline c then output ++ [c] else output) (c :: before) (d :: rest)

/-- `escape_backslash`: the literal is an `E` string. -/
def escapeBackslash (before : List Char) : Bool :=
  match before with
  | [] => false
  | e :: more => (e == 'E' || e == 'e') && !more.head?.any t.isWordChar

/-- The loop of `_lex_executable_sql`; none when the fuel runs out. -/
def lexLoop : ℕ → List Char → Place Char → Option (List Char)
  | _, output, ⟨_, []⟩ => some output
  | 0, _, ⟨_, _ :: _⟩ => none
  | fuel + 1, output, ⟨before, c :: rest⟩ =>
    if c = '-' ∧ rest.head? = some '-' then
      lexLoop fuel (output ++ [' ']) (lineComment ('-' :: '-' :: before) rest.tail)
    else if c = '/' ∧ rest.head? = some '*' then
      let r := blockComment 1 (output ++ [' ']) ('*' :: '/' :: before) rest.tail
      lexLoop fuel r.1 r.2
    else
      let quote := if c = '$' then (ends dollarQuote ⟨before, c :: rest⟩).head? else none
      match quote with
      | some opened =>
        let delimiter := (c :: rest).take ((c :: rest).length - opened.rest.length)
        match breakAt delimiter opened.rest with
        | none => lexLoop fuel (output ++ [c]) ⟨c :: before, rest⟩
        | some (body, left) =>
          let next : Place Char := ⟨delimiter.reverse ++ (body.reverse ++ opened.before), left⟩
          if dollarBodyIsExecutable t output then
            (lexLoop fuel [] ⟨[], body⟩).bind fun inner =>
              lexLoop fuel (output ++ ' ' :: inner ++ [' ']) next
          else lexLoop fuel (output ++ ' ' :: body.filter isNewline) next
      | none =>
        if c = '\'' then
          let r := literalLoop (escapeBackslash t before) (output ++ [' ']) (c :: before) rest
          lexLoop fuel r.1 r.2
        else lexLoop fuel (output ++ [c]) ⟨c :: before, rest⟩

/-- `_lex_executable_sql` -/
def lexExecutableSql (sqlText : List Char) : Option (List Char) :=
  lexLoop t sqlText.length [] ⟨[], sqlText⟩

/-! ## The gate -/

/-- `str.strip` -/
def stripped (text : List Char) : List Char := rstrip (text.dropWhile isSpace)

/-- `re.sub(r"^\s*ONLY\s+", "", text, flags=re.IGNORECASE)` -/
def withoutOnly (text : List Char) : List Char :=
  match ends (seq anySpaces (seq (keyword "ONLY") spaces)) ⟨[], text⟩ with
  | q :: _ => q.rest
  | [] => text

/-- `text.removesuffix("*")` -/
def withoutStar (text : List Char) : List Char :=
  if text.getLast? = some '*' then text.dropLast else text

/-- `text.rsplit(".", 1)[-1]` -/
def lastPart (text : List Char) : List Char := (text.reverse.takeWhile (· != '.')).reverse

/-- `text.replace('""', '"')` -/
def undoubleQuotes : List Char → List Char
  | [] => []
  | [c] => [c]
  | c :: d :: rest =>
    if c = '"' ∧ d = '"' then '"' :: undoubleQuotes rest else c :: undoubleQuotes (d :: rest)

/-- `str.lower`, as far as ASCII letters can come out of it. -/
def lowered (text : List Char) : List Char :=
  text.flatMap fun c =>
    if c.toNat = 0x130 then ['i', Char.ofNat 0x307]
    else if c.toNat = 0x212a then ['k']
    else [c.toLower]

/-- The identifier of a raw target. -/
def targetIdentifier (rawTarget : List Char) : List Char :=
  let target := stripped (withoutStar (stripped (withoutOnly rawTarget)))
  let identifier := stripped (lastPart target)
  if identifier.head? = some '"' ∧ identifier.getLast? = some '"' then
    undoubleQuotes identifier.tail.dropLast
  else identifier

/-- `identifier.lower() in protected_tables` -/
def targetIsProtected (rawTarget : List Char) : Bool :=
  protectedTables.any fun name => lowered (targetIdentifier rawTarget) == name.toList

/-- The targets before the options, and whether one of them is protected. -/
def listNamesJournal (group : List Char) : Bool :=
  let targetsText :=
    match search (listOptions t) group with
    | some place => place.before.reverse
    | none => group
  (targetsText.splitOn ',').any targetIsProtected

/-- The verdict of both expressions on the executable text. -/
def mutatesJournal (executableSql : List Char) : Bool :=
  (search (appendOnlyJournalMutation t) executableSql).isSome ||
    (findGroups (tableListHead t) tableListTargets (executableSql.length + 1) ⟨[], executableSql⟩).any
      (listNamesJournal t)

def appendOnlyJournalMutationError : String :=
  "accounting migrations must not UPDATE, DELETE, TRUNCATE, or DROP TABLE " ++
    "general_journal or journal_entry_line"

/-- `validate_append_only_journal_sql`; none when the lexer does not come to an end. -/
def validateAppendOnlyJournalSql (sqlText : List Char) : Option (List String) :=
  (lexExecutableSql t sqlText).map fun executableSql =>
    if mutatesJournal t executableSql then [appendOnlyJournalMutationError] else []

end AccountingPlatform.Scripts
