/-
  Texts of JSON objects, as `json.dumps` writes them without white space and without ASCII
  escapes.

  Members hold a text, a number, a list of texts, a truth value or `null`. Written values are
  self-delimiting before a comma or a closing bracket (`writeValue_cancel`), so an object
  text determines its members (`writeObject_injective`).
-/
import Mathlib.Data.List.TakeWhile
import Mathlib.Tactic.Common

namespace AccountingPlatform.Lib.Json

/-! ## Self-delimiting codes -/

section Codes

universe u v
variable {α : Type u} {β : Type v} {code : α → List β} {sep stop : β}

/-- What follows an item of a list: a separator or the closing mark. -/
def Ends (sep stop : β) (rest : List β) : Prop := ∃ more, rest = sep :: more ∨ rest = stop :: more

/-- Codes are told apart before the end of an item, and none begins with the closing mark. -/
structure Delimited (code : α → List β) (sep stop : β) : Prop where
  injective : ∀ {a b x y}, Ends sep stop x → Ends sep stop y → code a ++ x = code b ++ y → a = b ∧ x = y
  open_ne : ∀ {a x y}, code a ++ x ≠ stop :: y

/-- A run of codes up to the closing mark determines its items. -/
theorem flatMap_cancel (hcode : ∀ {a b x y}, code a ++ x = code b ++ y → a = b ∧ x = y)
    (hopen : ∀ {a x y}, code a ++ x ≠ stop :: y) {as bs : List α} {x y : List β}
    (h : as.flatMap code ++ stop :: x = bs.flatMap code ++ stop :: y) : as = bs ∧ x = y := by
  induction as generalizing bs with
  | nil =>
    cases bs with
    | nil =>
      rw [List.flatMap_nil, List.nil_append, List.nil_append, List.cons.injEq] at h
      exact ⟨rfl, h.2⟩
    | cons b bs =>
      rw [List.flatMap_nil, List.nil_append, List.flatMap_cons, List.append_assoc] at h
      exact absurd h.symm hopen
  | cons a as ih =>
    cases bs with
    | nil =>
      rw [List.flatMap_nil, List.nil_append, List.flatMap_cons, List.append_assoc] at h
      exact absurd h hopen
    | cons b bs =>
      rw [List.flatMap_cons, List.flatMap_cons, List.append_assoc, List.append_assoc] at h
      obtain ⟨rfl, hrest⟩ := hcode h
      obtain ⟨rfl, hxy⟩ := ih hrest
      exact ⟨rfl, hxy⟩

/-- Separated items up to the closing mark are determined by their text. -/
theorem items_cancel {as bs : List α}
    (hcode : ∀ a ∈ as, ∀ ⦃b x y⦄, Ends sep stop x → Ends sep stop y → code a ++ x = code b ++ y →
      a = b ∧ x = y)
    (hopen : ∀ {a x y}, code a ++ x ≠ stop :: y) (hne : sep ≠ stop) {x y : List β}
    (h : [sep].intercalate (as.map code) ++ stop :: x = [sep].intercalate (bs.map code) ++ stop :: y) :
    as = bs ∧ x = y := by
  have hnil {cs : List α} {x y : List β}
      (h : stop :: x = [sep].intercalate (cs.map code) ++ stop :: y) : cs = [] ∧ x = y := by
    cases cs with
    | nil =>
      rw [List.map_nil, List.intercalate_nil, List.nil_append, List.cons.injEq] at h
      exact ⟨rfl, h.2⟩
    | cons c cs =>
      cases cs with
      | nil =>
        rw [List.map_singleton, List.intercalate_singleton] at h
        exact absurd h.symm hopen
      | cons d cs =>
        rw [List.map_cons, List.map_cons, List.intercalate_cons_cons, List.append_assoc,
          List.append_assoc] at h
        exact absurd h.symm hopen
  induction as generalizing bs with
  | nil =>
    obtain ⟨rfl, hxy⟩ := hnil h
    exact ⟨rfl, hxy⟩
  | cons a as ih =>
    have hfirst := hcode a List.mem_cons_self
    cases bs with
    | nil =>
      obtain ⟨hempty, -⟩ := hnil h.symm
      nomatch hempty
    | cons b bs =>
      -- the first items agree, and so does what follows each of them
      cases as with
      | nil =>
        rw [List.map_singleton, List.intercalate_singleton] at h
        cases bs with
        | nil =>
          rw [List.map_singleton, List.intercalate_singleton] at h
          obtain ⟨rfl, hrest⟩ := hfirst ⟨x, .inr rfl⟩ ⟨y, .inr rfl⟩ h
          exact ⟨rfl, (List.cons.inj hrest).2⟩
        | cons d bs =>
          rw [List.map_cons, List.map_cons, List.intercalate_cons_cons, List.append_assoc,
            List.append_assoc] at h
          obtain ⟨-, hrest⟩ := hfirst ⟨x, .inr rfl⟩ ⟨_, .inl rfl⟩ h
          exact absurd (List.cons.inj hrest).1.symm hne
      | cons c as =>
        rw [List.map_cons, List.map_cons, List.intercalate_cons_cons, List.append_assoc,
          List.append_assoc] at h
        cases bs with
        | nil =>
          rw [List.map_singleton, List.intercalate_singleton] at h
          obtain ⟨-, hrest⟩ := hfirst ⟨_, .inl rfl⟩ ⟨y, .inr rfl⟩ h
          exact absurd (List.cons.inj hrest).1 hne
        | cons d bs =>
          rw [List.map_cons, List.map_cons, List.intercalate_cons_cons, List.append_assoc,
            List.append_assoc] at h
          obtain ⟨rfl, hrest⟩ := hfirst ⟨_, .inl rfl⟩ ⟨_, .inl rfl⟩ h
          have hitems : [sep].intercalate ((c :: as).map code) ++ stop :: x =
              [sep].intercalate ((d :: bs).map code) ++ stop :: y := (List.cons.inj hrest).2
          obtain ⟨hsame, hxy⟩ := ih (fun e he => hcode e (List.mem_cons_of_mem a he)) hitems
          exact ⟨congrArg _ hsame, hxy⟩

theorem Delimited.items_cancel (hcode : Delimited code sep stop) (hne : sep ≠ stop) {as bs : List α}
    {x y : List β}
    (h : [sep].intercalate (as.map code) ++ stop :: x = [sep].intercalate (bs.map code) ++ stop :: y) :
    as = bs ∧ x = y :=
  Json.items_cancel (fun _ _ _ _ _ hx hy => hcode.injective hx hy) hcode.open_ne hne h

end Codes

/-! ## Texts -/

def hexDigit (n : ℕ) : Char := Nat.digitChar n

/-- `ESCAPE_DCT`, and `\\u00xx` for the other control characters. -/
def escape (c : Char) : List Char :=
  if c = '"' then ['\\', '"']
  else if c = '\\' then ['\\', '\\']
  else if c = '\x08' then ['\\', 'b']
  else if c = '\x0c' then ['\\', 'f']
  else if c = '\n' then ['\\', 'n']
  else if c = '\r' then ['\\', 'r']
  else if c = '\t' then ['\\', 't']
  else if c.toNat < 32 then ['\\', 'u', '0', '0', hexDigit (c.toNat / 16), hexDigit (c.toNat % 16)]
  else [c]

def writeText (text : List Char) : List Char := '"' :: (text.flatMap escape ++ ['"'])

def hexValue (c : Char) : ℕ := if c.isDigit then c.toNat - 48 else c.toNat - 87

/-- The character behind an escape mark. -/
def unescape (c : Char) : Char :=
  if c = 'b' then '\x08' else if c = 'f' then '\x0c' else if c = 'n' then '\n'
  else if c = 'r' then '\r' else if c = 't' then '\t' else c

/-- The first character of a text body and what follows it. -/
def readChar : List Char → Option (Char × List Char)
  | [] => none
  | c :: rest =>
    if c = '\\' then
      if rest.head? = some 'u' then
        match rest.drop 3 with
        | high :: low :: more => some (Char.ofNat (16 * hexValue high + hexValue low), more)
        | _ => none
      else rest.head?.map fun d => (unescape d, rest.tail)
    else some (c, rest)

theorem hexValue_hexDigit : ∀ n < 16, hexValue (hexDigit n) = n := by decide

theorem readChar_escape (c : Char) (rest : List Char) : readChar (escape c ++ rest) = some (c, rest) := by
  unfold escape
  split_ifs with h1 h2 h3 h4 h5 h6 h7 h8
  · rw [h1]; rfl
  · rw [h2]; rfl
  · rw [h3]; rfl
  · rw [h4]; rfl
  · rw [h5]; rfl
  · rw [h6]; rfl
  · rw [h7]; rfl
  · have hhigh := hexValue_hexDigit (c.toNat / 16) (by omega)
    have hlow := hexValue_hexDigit (c.toNat % 16) (by omega)
    have hread : readChar (['\\', 'u', '0', '0', hexDigit (c.toNat / 16), hexDigit (c.toNat % 16)] ++ rest) =
      some (Char.ofNat (16 * hexValue (hexDigit (c.toNat / 16)) +
        hexValue (hexDigit (c.toNat % 16))), rest) := rfl
    rw [hread, hhigh, hlow, Nat.div_add_mod, Char.ofNat_toNat]
  · rw [List.singleton_append, readChar, if_neg h2]

theorem escape_cancel {a b : Char} {x y : List Char} (h : escape a ++ x = escape b ++ y) : a = b ∧ x = y := by
  have hread := (readChar_escape a x).symm.trans ((congrArg readChar h).trans (readChar_escape b y))
  exact Prod.mk.inj (Option.some.inj hread)

/-- No written character begins with a quote. -/
theorem escape_ne_quote {c : Char} {x y : List Char} : escape c ++ x ≠ '"' :: y := by
  unfold escape
  split_ifs with h1 <;> simp_all

theorem writeText_cancel {s t x y : List Char} (h : writeText s ++ x = writeText t ++ y) :
    s = t ∧ x = y := by
  unfold writeText at h
  rw [List.cons_append, List.cons_append, List.cons.injEq, List.append_assoc, List.append_assoc] at h
  exact flatMap_cancel escape_cancel escape_ne_quote h.2

/-! ## Values and objects -/

inductive Value where
  | null
  | bool (b : Bool)
  | number (n : ℕ)
  | text (s : List Char)
  | texts (ss : List (List Char))
  deriving DecidableEq

def writeValue : Value → List Char
  | .null => ['n', 'u', 'l', 'l']
  | .bool true => ['t', 'r', 'u', 'e']
  | .bool false => ['f', 'a', 'l', 's', 'e']
  | .number n => Nat.toDigits 10 n
  | .text s => writeText s
  | .texts ss => '[' :: ([','].intercalate (ss.map writeText) ++ [']'])

def writeMember (member : List Char × Value) : List Char :=
  writeText member.1 ++ ':' :: writeValue member.2

def writeObject (members : List (List Char × Value)) : List Char :=
  '{' :: ([','].intercalate (members.map writeMember) ++ ['}'])

theorem writeText_delimited : Delimited writeText ',' ']' where
  injective := fun _ _ h => writeText_cancel h
  open_ne := fun h => absurd (List.cons.inj h).1 (by decide)

theorem isDigit_of_mem_toDigits {n : ℕ} {c : Char} (h : c ∈ Nat.toDigits 10 n) : c.isDigit = true :=
  Nat.isDigit_of_mem_toDigits (by decide) (by decide) h

/-- The digits of a number end where something else begins. -/
theorem takeWhile_toDigits (n : ℕ) {rest : List Char} (h : Ends ',' '}' rest) :
    (Nat.toDigits 10 n ++ rest).takeWhile Char.isDigit = Nat.toDigits 10 n := by
  rw [List.takeWhile_append_of_pos fun c hc => isDigit_of_mem_toDigits hc]
  obtain ⟨more, rfl | rfl⟩ := h
  · simp
  · simp

theorem writeNumber_cancel {n m : ℕ} {x y : List Char} (hx : Ends ',' '}' x) (hy : Ends ',' '}' y)
    (h : Nat.toDigits 10 n ++ x = Nat.toDigits 10 m ++ y) : n = m ∧ x = y := by
  have hdigits : Nat.toDigits 10 n = Nat.toDigits 10 m := by
    rw [← takeWhile_toDigits n hx, h, takeWhile_toDigits m hy]
  have hnumber := congrArg (fun cs => Nat.ofDigitChars 10 cs 0) hdigits
  simp only [Nat.ofDigitChars_ten_toDigits] at hnumber
  rw [hdigits, List.append_cancel_left_eq] at h
  exact ⟨hnumber, h⟩

/-- Kinds of values, as their first character tells them. -/
def Value.kind : Value → ℕ
  | .null => 0
  | .bool true => 1
  | .bool false => 2
  | .text _ => 3
  | .texts _ => 4
  | .number _ => 5

def kindOf (c : Char) : ℕ :=
  if c = 'n' then 0 else if c = 't' then 1 else if c = 'f' then 2 else if c = '"' then 3
  else if c = '[' then 4 else 5

theorem kindOf_digit {c : Char} (h : c.isDigit = true) : kindOf c = 5 := by
  unfold kindOf
  split_ifs <;> simp_all

theorem writeValue_kind (v : Value) : ∃ c rest, writeValue v = c :: rest ∧ kindOf c = v.kind := by
  match v with
  | .null => exact ⟨_, _, rfl, rfl⟩
  | .bool true => exact ⟨_, _, rfl, rfl⟩
  | .bool false => exact ⟨_, _, rfl, rfl⟩
  | .number n =>
    obtain ⟨c, rest, h⟩ := List.exists_cons_of_ne_nil (Nat.toDigits_ne_nil : Nat.toDigits 10 n ≠ [])
    exact ⟨c, rest, h, kindOf_digit (isDigit_of_mem_toDigits (h ▸ List.mem_cons_self))⟩
  | .text s => exact ⟨_, _, rfl, rfl⟩
  | .texts ss => exact ⟨_, _, rfl, rfl⟩

/-- Values before a comma or the end of their object are told apart. -/
theorem writeValue_cancel {v w : Value} {x y : List Char} (hx : Ends ',' '}' x) (hy : Ends ',' '}' y)
    (h : writeValue v ++ x = writeValue w ++ y) : v = w ∧ x = y := by
  have hkind : v.kind = w.kind := by
    obtain ⟨c, v', hv, hc⟩ := writeValue_kind v
    obtain ⟨d, w', hw, hd⟩ := writeValue_kind w
    rw [hv, hw, List.cons_append, List.cons_append, List.cons.injEq] at h
    rw [← hc, ← hd, h.1]
  match v, w, hkind with
  | .null, .null, _ => exact ⟨rfl, List.append_cancel_left h⟩
  | .bool true, .bool true, _ => exact ⟨rfl, List.append_cancel_left h⟩
  | .bool false, .bool false, _ => exact ⟨rfl, List.append_cancel_left h⟩
  | .number n, .number m, _ =>
    obtain ⟨rfl, hxy⟩ := writeNumber_cancel hx hy h
    exact ⟨rfl, hxy⟩
  | .text s, .text t, _ =>
    obtain ⟨rfl, hxy⟩ := writeText_cancel h
    exact ⟨rfl, hxy⟩
  | .texts ss, .texts ts, _ =>
    simp only [writeValue, List.cons_append, List.cons.injEq, true_and, List.append_assoc] at h
    obtain ⟨rfl, hxy⟩ := writeText_delimited.items_cancel (by decide) h
    exact ⟨rfl, hxy⟩

theorem writeMember_delimited : Delimited writeMember ',' '}' where
  injective := by
    intro a b x y hx hy h
    unfold writeMember at h
    rw [List.append_assoc, List.append_assoc] at h
    obtain ⟨hkey, hrest⟩ := writeText_cancel h
    obtain ⟨hvalue, hxy⟩ := writeValue_cancel hx hy (List.cons.inj hrest).2
    exact ⟨Prod.ext hkey hvalue, hxy⟩
  open_ne := fun h => absurd (List.cons.inj h).1 (by decide)

/-- The text of an object determines its members, in order. -/
theorem writeObject_injective : Function.Injective writeObject := by
  intro as bs h
  exact (writeMember_delimited.items_cancel (by decide) (List.cons.inj h).2).1

end AccountingPlatform.Lib.Json
