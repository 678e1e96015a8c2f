/-
  PostgreSQL's lexical structure, as far as migrations need it.

  A text is cut into blanks, comments, words, quoted identifiers, literals and single
  characters. A quoted text can be a program of its own; `opens` says which ones are opened,
  and the tokens of an opened text stand in the place of the literal. PostgreSQL executes
  the texts that follow `AS` or `DO`.
-/
import Mathlib.Data.List.Infix
import Mathlib.Tactic.Common

namespace AccountingPlatform.Scripts

/-! ## Characters -/

/-- `ident_start` of `scan.l`. -/
def isIdentStart (c : Char) : Bool := c.isAlpha || c == '_' || decide (128 ≤ c.toNat)

/-- `ident_cont` without the dollar sign. -/
def isTagChar (c : Char) : Bool := isIdentStart c || c.isDigit

def isIdentChar (c : Char) : Bool := isTagChar c || c == '$'

/-- Blank, tab, line feed, vertical tab, form feed, carriage return. -/
def isSqlSpace (c : Char) : Bool := c == ' ' || (9 ≤ c.toNat && c.toNat ≤ 13)

def isNewline (c : Char) : Bool := c == '\n' || c == '\r'

/-! ## Pieces -/

inductive Piece where
  | blank
  | comment
  | word (text : List Char)
  | quoted (raw : List Char)
  | literal (mark : Option Char) (raw : List Char)
  | dollar (tag body : List Char)
  | punct (c : Char)
  deriving DecidableEq

/-- What is left behind a block comment with `depth` comments around it. -/
def skipComment : ℕ → List Char → Option (List Char)
  | _, [] => none
  | _, [_] => none
  | depth, c :: d :: rest =>
    if c = '/' ∧ d = '*' then skipComment (depth + 1) rest
    else if c = '*' ∧ d = '/' then
      match depth with
      | 0 => some rest
      | depth + 1 => skipComment depth rest
    else skipComment depth (d :: rest)

/-- The text up to a closing quote, a doubled quote being part of it, and what is left. -/
def readQuoted (quote : Char) (escape : Bool) : List Char → Option (List Char × List Char)
  | [] => none
  | [c] => if c == quote then some ([], []) else none
  | c :: d :: rest =>
    if (escape && c == '\\') || (c == quote && d == quote) then
      (readQuoted quote escape rest).map fun r => (c :: d :: r.1, r.2)
    else if c == quote then some ([], d :: rest)
    else (readQuoted quote escape (d :: rest)).map fun r => (c :: r.1, r.2)

/-- The tag of a dollar quote behind its first dollar sign, and what is left. -/
def dollarTag (rest : List Char) : Option (List Char × List Char) :=
  match rest.dropWhile isTagChar with
  | '$' :: more =>
    let tag := rest.takeWhile isTagChar
    if tag.head?.any Char.isDigit then none else some (tag, more)
  | _ => none

/-- The text up to the first occurrence of a delimiter, and what is left behind it. -/
def breakAt (delimiter : List Char) : List Char → Option (List Char × List Char)
  | [] => if delimiter.isEmpty then some ([], []) else none
  | c :: rest =>
    if delimiter.isPrefixOf (c :: rest) then some ([], (c :: rest).drop delimiter.length)
    else (breakAt delimiter rest).map fun r => (c :: r.1, r.2)

/-- The delimiter of a dollar quote. -/
def delimiterOf (tag : List Char) : List Char := '$' :: (tag ++ ['$'])

/-- A word, or the literal an `E` starts. -/
def readWord (text rest : List Char) : Option (Piece × List Char) :=
  match text, rest with
  | [e], '\'' :: more =>
    if e == 'E' || e == 'e' then
      (readQuoted '\'' true more).map fun r => (.literal (some e) r.1, r.2)
    else some (.word text, rest)
  | _, _ => some (.word text, rest)

/-- The first piece of a text, and what is left. -/
def readPiece (c : Char) (rest : List Char) : Option (Piece × List Char) :=
  if isSqlSpace c then some (.blank, rest.dropWhile isSqlSpace)
  else if c == '-' && rest.head? == some '-' then
    some (.comment, rest.tail.dropWhile fun d => !isNewline d)
  else if c == '/' && rest.head? == some '*' then
    (skipComment 0 rest.tail).map fun left => (.comment, left)
  else if c == '$' then
    match dollarTag rest with
    | none => some (.punct c, rest)
    | some (tag, more) =>
      (breakAt (delimiterOf tag) more).map fun r => (.dollar tag r.1, r.2)
  else if c == '\'' then (readQuoted c false rest).map fun r => (.literal none r.1, r.2)
  else if c == '"' then (readQuoted c false rest).map fun r => (.quoted r.1, r.2)
  else if isIdentStart c then
    readWord (c :: rest.takeWhile isIdentChar) (rest.dropWhile isIdentChar)
  else if c.isDigit then some (.word (c :: rest.takeWhile isTagChar), rest.dropWhile isTagChar)
  else some (.punct c, rest)

/-- The pieces of a text; none when a quote or a comment does not end. -/
def cut : ℕ → List Char → Option (List Piece)
  | _, [] => some []
  | 0, _ :: _ => none
  | fuel + 1, c :: rest =>
    (readPiece c rest).bind fun r => (cut fuel r.2).map fun more => r.1 :: more

def pieces (text : List Char) : Option (List Piece) := cut text.length text

/-! ## Tokens -/

inductive Token where
  | gap
  | word (text : List Char)
  | quoted (raw : List Char)
  | literal (mark : Option Char)
  | punct (c : Char)
  deriving DecidableEq

inductive Quote where
  | dollar
  | single
  deriving DecidableEq

/-- A doubled quote stands for one. -/
def undouble : List Char → List Char
  | [] => []
  | [c] => [c]
  | c :: d :: rest =>
    if c == '\'' && d == '\'' then c :: undouble rest else c :: undouble (d :: rest)

namespace Piece

def token : Piece → Token
  | blank => .gap
  | comment => .gap
  | word text => .word text
  | quoted raw => .quoted raw
  | literal mark _ => .literal mark
  | dollar _ _ => .literal none
  | punct c => .punct c

/-- A quoted text, its escapes decoded. -/
def text? (unescape : List Char → List Char) : Piece → Option (Quote × List Char)
  | literal none raw => some (.single, undouble raw)
  | literal (some _) raw => some (.single, unescape raw)
  | dollar _ body => some (.dollar, body)
  | _ => none

end Piece

/-- Which quoted texts are programs: from the tokens of the level, nearest first, from the
tokens shown so far, and from the way the text is quoted. -/
abbrev Opening := List Token → List Token → Quote → Bool

/-- The tokens a piece stands for. -/
def pieceTokens (inner : List Char → Option (List Token)) (unescape : List Char → List Char)
    (opens : Opening) (level sofar : List Token) (piece : Piece) : Option (List Token) :=
  match piece.text? unescape with
  | none => some [piece.token]
  | some (quote, text) =>
    if opens level sofar quote then (inner text).map fun ts => .literal none :: ts ++ [.literal none]
    else some [piece.token]

/-- The tokens of one level. -/
def levelTokens (inner : List Char → Option (List Token)) (unescape : List Char → List Char)
    (opens : Opening) : List Token → List Token → List Piece → Option (List Token)
  | _, _, [] => some []
  | level, sofar, piece :: more =>
    (pieceTokens inner unescape opens level sofar piece).bind fun ts =>
      (levelTokens inner unescape opens (if piece.token = .gap then level else piece.token :: level)
        (sofar ++ ts) more).map fun rest => ts ++ rest

/-- The tokens of a text with the texts opened in it, to a depth. -/
def openedTokens (cutting : List Char → Option (List Piece)) (unescape : List Char → List Char)
    (opens : Opening) : ℕ → List Char → Option (List Token)
  | 0, _ => none
  | depth + 1, text =>
    (cutting text).bind (levelTokens (openedTokens cutting unescape opens depth) unescape opens [] [])

/-! ## What PostgreSQL executes -/

/-- A keyword is written without quotes, in any case. -/
def Token.is (name : String) : Token → Bool
  | .word text => text.map Char.toLower == name.toList
  | _ => false

def Token.isName : Token → Bool
  | .word _ => true
  | .quoted _ => true
  | _ => false

/-- Behind `AS`, `DO` or `DO LANGUAGE` with a name or a literal. -/
def followsAsOrDo : List Token → Bool
  | t :: language :: more =>
    t.is "as" || t.is "do" ||
      (language.is "language" && more.head?.any (Token.is "do") &&
        (t.isName || t == .literal none))
  | [t] => t.is "as" || t.is "do"
  | [] => false

def executes : Opening := fun level _ _ => followsAsOrDo level

/-- The executable tokens of a text. -/
def executableTokens (unescape : List Char → List Char) (text : List Char) : Option (List Token) :=
  openedTokens pieces unescape executes (text.length + 1) text

/-! ## Destructive commands -/

def protectedTables : List String := ["general_journal", "journal_entry_line"]

/-- A name without quotes is folded, a quoted one is not. -/
def Token.namesJournal : Token → Bool
  | .word text => protectedTables.any fun name => text.map Char.toLower == name.toList
  | .quoted raw => protectedTables.any fun name => raw == name.toList
  | _ => false

/-- The last part of a name behind its qualifiers, and what is left. -/
def qualifiedName : List Token → Option (Token × List Token)
  | [] => none
  | [t] => if t.isName then some (t, []) else none
  | t :: dot :: rest =>
    if t.isName then if dot = .punct '.' then qualifiedName rest else some (t, dot :: rest)
    else none

/-- Drops a keyword in front. -/
def dropKeyword (name : String) (ts : List Token) : List Token :=
  if ts.head?.any (Token.is name) then ts.tail else ts

/-- A target, `ONLY` and parentheses before it left out, and what is left. -/
def target (ts : List Token) : Option (Token × List Token) :=
  qualifiedName ((dropKeyword "only" ts).dropWhile (· == .punct '('))

/-- The targets of a list. -/
def targetList : ℕ → List Token → List Token
  | 0, _ => []
  | fuel + 1, ts =>
    match target ts with
    | none => []
    | some (name, rest) =>
      match rest.dropWhile fun t => t == .punct ')' || t == .punct '*' with
      | .punct ',' :: more => name :: targetList fuel more
      | _ => [name]

def singleTarget (ts : List Token) : List Token := ((target ts).map Prod.fst).toList

/-- What a command that starts here destroys. -/
def commandTargets : List Token → List Token
  | [] => []
  | t :: rest =>
    if t.is "update" then singleTarget rest
    else if t.is "delete" then
      if rest.head?.any (Token.is "from") then singleTarget rest.tail else []
    else if t.is "truncate" then targetList rest.length (dropKeyword "table" rest)
    else if t.is "drop" then
      if rest.head?.any (Token.is "table") then
        let ts := rest.tail
        targetList rest.length
          (if ts.head?.any (Token.is "if") && ts.tail.head?.any (Token.is "exists") then ts.drop 2
            else ts)
      else []
    else []

/-- A command on a journal table stands in the token stream. -/
def Destructive (tokens : List Token) : Prop :=
  ∃ earlier later, tokens.filter (· ≠ .gap) = earlier ++ later ∧
    ∃ name ∈ commandTargets later, name.namesJournal = true

instance decDestructive (tokens : List Token) : Decidable (Destructive tokens) :=
  decidable_of_iff
    ((tokens.filter (· ≠ .gap)).tails.any fun later =>
      (commandTargets later).any Token.namesJournal) <| by
    rw [List.any_eq_true]
    constructor
    · rintro ⟨later, hmem, hany⟩
      obtain ⟨earlier, heq⟩ := (List.mem_tails _ _).mp hmem
      exact ⟨earlier, later, heq.symm, List.any_eq_true.mp hany⟩
    · rintro ⟨earlier, later, heq, hname⟩
      exact ⟨later, (List.mem_tails _ _).mpr ⟨earlier, heq.symm⟩, List.any_eq_true.mpr hname⟩

end AccountingPlatform.Scripts
