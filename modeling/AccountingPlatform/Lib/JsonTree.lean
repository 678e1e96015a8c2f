/-
  Texts of nested JSON values, as `json.dumps` writes them without white space and with every
  character outside printable ASCII escaped.

  A written value ends where no further digit follows (`Tree.write_cancel`), so the text of a
  value determines it (`Tree.write_injective`).
-/
import AccountingPlatform.Lib.JsonText
import Mathlib.Data.List.Sort
import Mathlib.Data.List.Nodup

namespace AccountingPlatform.Lib.Json

/-! ## ASCII texts -/

def hex4 (n : ℕ) : List Char :=
  [hexDigit (n / 4096 % 16), hexDigit (n / 256 % 16), hexDigit (n / 16 % 16), hexDigit (n % 16)]

/-- `\\uXXXX`. -/
def unicodeEscape (n : ℕ) : List Char := '\\' :: 'u' :: hex4 n

/-- `ascii_escape_unichar`: a character beyond the basic plane is two surrogates. -/
def escapeAscii (c : Char) : List Char :=
  if c = '"' then ['\\', '"']
  else if c = '\\' then ['\\', '\\']
  else if c = '\x08' then ['\\', 'b']
  else if c = '\x0c' then ['\\', 'f']
  else if c = '\n' then ['\\', 'n']
  else if c = '\r' then ['\\', 'r']
  else if c = '\t' then ['\\', 't']
  else if 32 ≤ c.toNat ∧ c.toNat ≤ 126 then [c]
  else if c.toNat < 65536 then unicodeEscape c.toNat
  else unicodeEscape (55296 + (c.toNat - 65536) / 1024) ++
    unicodeEscape (56320 + (c.toNat - 65536) % 1024)

def writeAscii (text : List Char) : List Char := '"' :: (text.flatMap escapeAscii ++ ['"'])

/-- Four hexadecimal digits and what follows them. -/
def readHex4 : List Char → Option (ℕ × List Char)
  | a :: b :: c :: d :: rest =>
    some (((hexValue a * 16 + hexValue b) * 16 + hexValue c) * 16 + hexValue d, rest)
  | _ => none

/-- The character an escaped unit begins, and what follows it. -/
def readUnit (rest : List Char) : Option (Char × List Char) := do
  let unit ← readHex4 rest
  if 55296 ≤ unit.1 ∧ unit.1 < 56320 then do
    let low ← readHex4 (unit.2.drop 2)
    pure (Char.ofNat (65536 + (unit.1 - 55296) * 1024 + (low.1 - 56320)), low.2)
  else pure (Char.ofNat unit.1, unit.2)

/-- The first character of a text body and what follows it. -/
def readAscii : List Char → Option (Char × List Char)
  | [] => none
  | c :: rest =>
    if c = '\\' then
      if rest.head? = some 'u' then readUnit rest.tail
      else rest.head?.map fun d => (unescape d, rest.tail)
    else some (c, rest)

theorem readHex4_hex4 {n : ℕ} (h : n < 65536) (rest : List Char) :
    readHex4 (hex4 n ++ rest) = some (n, rest) := by
  have hvalue : ∀ m, hexValue (hexDigit (m % 16)) = m % 16 := fun m =>
    hexValue_hexDigit _ (Nat.mod_lt m (by decide))
  unfold hex4 readHex4
  simp only [List.cons_append, List.nil_append, hvalue, Option.some.injEq, Prod.mk.injEq, and_true]
  omega

theorem readAscii_unicodeEscape (n : ℕ) (rest : List Char) :
    readAscii (unicodeEscape n ++ rest) = readUnit (hex4 n ++ rest) := rfl

theorem readUnit_plain {n : ℕ} (h : n < 65536) (hunit : n < 55296 ∨ 56320 ≤ n) (rest : List Char) :
    readUnit (hex4 n ++ rest) = some (Char.ofNat n, rest) := by
  unfold readUnit
  rw [readHex4_hex4 h, Option.bind_eq_bind, Option.bind_some, if_neg (by dsimp only; omega)]
  rfl

theorem readUnit_surrogates {high low : ℕ} (hhigh : high < 1024) (hlow : low < 1024)
    (rest : List Char) :
    readUnit (hex4 (55296 + high) ++ (unicodeEscape (56320 + low) ++ rest)) =
      some (Char.ofNat (65536 + high * 1024 + low), rest) := by
  have hrest : readHex4 ((unicodeEscape (56320 + low) ++ rest).drop 2) = some (56320 + low, rest) :=
    readHex4_hex4 (by omega) rest
  unfold readUnit
  rw [readHex4_hex4 (by omega), Option.bind_eq_bind, Option.bind_some, if_pos (by dsimp only; omega),
    hrest, Option.bind_some, Nat.add_sub_cancel_left, Nat.add_sub_cancel_left]
  rfl

theorem readAscii_escapeAscii (c : Char) (rest : List Char) :
    readAscii (escapeAscii c ++ rest) = some (c, rest) := by
  unfold escapeAscii
  split_ifs with h1 h2 h3 h4 h5 h6 h7 h8 h9
  · rw [h1]; rfl
  · rw [h2]; rfl
  · rw [h3]; rfl
  · rw [h4]; rfl
  · rw [h5]; rfl
  · rw [h6]; rfl
  · rw [h7]; rfl
  · rw [List.singleton_append, readAscii, if_neg h2]
  · -- no character is a surrogate
    have hvalid : c.toNat < 55296 ∨ 57343 < c.toNat ∧ c.toNat < 1114112 := c.valid
    rw [readAscii_unicodeEscape, readUnit_plain h9 (by omega), Char.ofNat_toNat]
  · have hvalid : c.toNat < 55296 ∨ 57343 < c.toNat ∧ c.toNat < 1114112 := c.valid
    rw [List.append_assoc, readAscii_unicodeEscape, readUnit_surrogates (by omega) (by omega)]
    have hsum : 65536 + (c.toNat - 65536) / 1024 * 1024 + (c.toNat - 65536) % 1024 = c.toNat := by
      omega
    rw [hsum, Char.ofNat_toNat]

theorem escapeAscii_cancel {a b : Char} {x y : List Char}
    (h : escapeAscii a ++ x = escapeAscii b ++ y) : a = b ∧ x = y := by
  have hread := (readAscii_escapeAscii a x).symm.trans
    ((congrArg readAscii h).trans (readAscii_escapeAscii b y))
  exact Prod.mk.inj (Option.some.inj hread)

theorem escapeAscii_ne_quote {c : Char} {x y : List Char} : escapeAscii c ++ x ≠ '"' :: y := by
  unfold escapeAscii unicodeEscape
  split_ifs with h1 <;> simp_all

theorem writeAscii_cancel {s t x y : List Char} (h : writeAscii s ++ x = writeAscii t ++ y) :
    s = t ∧ x = y := by
  unfold writeAscii at h
  rw [List.cons_append, List.cons_append, List.cons.injEq, List.append_assoc, List.append_assoc] at h
  exact flatMap_cancel escapeAscii_cancel escapeAscii_ne_quote h.2

/-! ## Trees -/

inductive Tree where
  | null
  | flag (b : Bool)
  | number (n : ℕ)
  | text (s : List Char)
  | array (items : List Tree)
  | object (members : List (List Char × Tree))

mutual

def Tree.write : Tree → List Char
  | .null => ['n', 'u', 'l', 'l']
  | .flag true => ['t', 'r', 'u', 'e']
  | .flag false => ['f', 'a', 'l', 's', 'e']
  | .number n => Nat.toDigits 10 n
  | .text s => writeAscii s
  | .array items => '[' :: ([','].intercalate (writeItems items) ++ [']'])
  | .object members => '{' :: ([','].intercalate (writeMembers members) ++ ['}'])

def writeItems : List Tree → List (List Char)
  | [] => []
  | item :: items => item.write :: writeItems items

def writeMembers : List (List Char × Tree) → List (List Char)
  | [] => []
  | (key, value) :: members => (writeAscii key ++ ':' :: value.write) :: writeMembers members

end

def Tree.writeMember (member : List Char × Tree) : List Char :=
  writeAscii member.1 ++ ':' :: member.2.write

theorem writeItems_eq (items : List Tree) : writeItems items = items.map Tree.write := by
  induction items with
  | nil => rfl
  | cons item items ih => rw [writeItems, ih, List.map_cons]

theorem writeMembers_eq (members : List (List Char × Tree)) :
    writeMembers members = members.map Tree.writeMember := by
  induction members with
  | nil => rfl
  | cons member members ih =>
    rw [writeMembers, ih, List.map_cons]
    rfl

/-- A mapping, its members in the order of their keys as `sort_keys` has them. -/
def Tree.sorted (members : List (String × Tree)) : Tree :=
  .object ((members.mergeSort fun a b => decide (a.1 ≤ b.1)).map fun member => (member.1.toList, member.2))

/-- `None` or a value. -/
def Tree.optional {α : Type} (render : α → Tree) (value : Option α) : Tree :=
  match value with
  | none => .null
  | some a => render a

/-! ## Injectivity -/

/-- No digit comes next. -/
def DigitsEnd (rest : List Char) : Prop := ∀ c ∈ rest.head?, c.isDigit = false

theorem Ends.digitsEnd {stop : Char} {rest : List Char} (hstop : stop.isDigit = false)
    (h : Ends ',' stop rest) : DigitsEnd rest := by
  obtain ⟨more, rfl | rfl⟩ := h
  · intro c hc
    rw [List.head?_cons, Option.mem_some_iff] at hc
    rw [← hc]
    decide
  · intro c hc
    rw [List.head?_cons, Option.mem_some_iff] at hc
    rw [← hc]
    exact hstop

theorem takeWhile_digits (n : ℕ) {rest : List Char} (h : DigitsEnd rest) :
    (Nat.toDigits 10 n ++ rest).takeWhile Char.isDigit = Nat.toDigits 10 n := by
  rw [List.takeWhile_append_of_pos fun c hc => isDigit_of_mem_toDigits hc]
  cases rest with
  | nil => rw [List.takeWhile_nil, List.append_nil]
  | cons c rest =>
    have hc := h c rfl
    rw [List.takeWhile_cons, hc]
    exact List.append_nil _

/-- Kinds of trees, as their first character tells them. -/
def Tree.kind : Tree → ℕ
  | .null => 0
  | .flag true => 1
  | .flag false => 2
  | .text _ => 3
  | .array _ => 4
  | .number _ => 5
  | .object _ => 6

def treeKindOf (c : Char) : ℕ := if c = '{' then 6 else kindOf c

theorem Tree.write_kind (t : Tree) : ∃ c rest, t.write = c :: rest ∧ treeKindOf c = t.kind := by
  match t with
  | .null => exact ⟨_, _, rfl, rfl⟩
  | .flag true => exact ⟨_, _, rfl, rfl⟩
  | .flag false => exact ⟨_, _, rfl, rfl⟩
  | .number n =>
    obtain ⟨c, rest, h⟩ := List.exists_cons_of_ne_nil (Nat.toDigits_ne_nil : Nat.toDigits 10 n ≠ [])
    have hdigit : c.isDigit = true := isDigit_of_mem_toDigits (h ▸ List.mem_cons_self)
    refine ⟨c, rest, h, ?_⟩
    rw [treeKindOf, if_neg fun hc => by rw [hc] at hdigit; exact absurd hdigit (by decide),
      kindOf_digit hdigit]
    rfl
  | .text s => exact ⟨_, _, rfl, rfl⟩
  | .array items => exact ⟨_, _, rfl, rfl⟩
  | .object members => exact ⟨_, _, rfl, rfl⟩

/-- No value begins with a closing mark. -/
theorem Tree.write_ne_stop {stop : Char} (hstop : stop = ']' ∨ stop = '}') {t : Tree} {x y : List Char} :
    t.write ++ x ≠ stop :: y := by
  obtain ⟨c, rest, hwrite, hkind⟩ := t.write_kind
  intro h
  rw [hwrite, List.cons_append, List.cons.injEq] at h
  have hnumber : t.kind = 5 := by
    rw [← hkind, h.1]
    rcases hstop with rfl | rfl <;> rfl
  -- only a number could begin with it, and a closing mark is no digit
  match t, hnumber with
  | .number n, _ =>
    have hfirst : Nat.toDigits 10 n = c :: rest := hwrite
    have hdigit : c.isDigit = true := isDigit_of_mem_toDigits (hfirst ▸ List.mem_cons_self)
    rw [h.1] at hdigit
    rcases hstop with rfl | rfl
    · exact absurd hdigit (by decide)
    · exact absurd hdigit (by decide)

/-- A member is told apart when its value is. -/
theorem Tree.writeMember_cancel {a b : List Char × Tree} {x y : List Char}
    (hvalue : ∀ {w : Tree} {x y : List Char}, DigitsEnd x → DigitsEnd y → a.2.write ++ x = w.write ++ y →
      a.2 = w ∧ x = y)
    (hx : Ends ',' '}' x) (hy : Ends ',' '}' y)
    (h : Tree.writeMember a ++ x = Tree.writeMember b ++ y) : a = b ∧ x = y := by
  unfold Tree.writeMember at h
  rw [List.append_assoc, List.append_assoc] at h
  obtain ⟨hkey, hrest⟩ := writeAscii_cancel h
  obtain ⟨hsame, hxy⟩ := hvalue (hx.digitsEnd (by decide)) (hy.digitsEnd (by decide))
    (List.cons.inj hrest).2
  exact ⟨Prod.ext hkey hsame, hxy⟩

/-- Written values are told apart before anything that is no digit. -/
theorem Tree.write_cancel (t : Tree) {w : Tree} {x y : List Char} (hx : DigitsEnd x) (hy : DigitsEnd y)
    (h : t.write ++ x = w.write ++ y) : t = w ∧ x = y := by
  have hkind : t.kind = w.kind := by
    obtain ⟨c, rest, ht, hc⟩ := t.write_kind
    obtain ⟨d, rest', hw, hd⟩ := w.write_kind
    rw [ht, hw, List.cons_append, List.cons_append, List.cons.injEq] at h
    rw [← hc, ← hd, h.1]
  match t, w, hkind with
  | .null, .null, _ => exact ⟨rfl, List.append_cancel_left h⟩
  | .flag true, .flag true, _ => exact ⟨rfl, List.append_cancel_left h⟩
  | .flag false, .flag false, _ => exact ⟨rfl, List.append_cancel_left h⟩
  | .number n, .number m, _ =>
    have hdigits : Nat.toDigits 10 n = Nat.toDigits 10 m := by
      rw [← takeWhile_digits n hx, ← takeWhile_digits m hy]
      exact congrArg (List.takeWhile Char.isDigit) h
    have hnumber := congrArg (fun cs => Nat.ofDigitChars 10 cs 0) hdigits
    simp only [Nat.ofDigitChars_ten_toDigits] at hnumber
    simp only [Tree.write, hdigits, List.append_cancel_left_eq] at h
    exact ⟨congrArg _ hnumber, h⟩
  | .text s, .text s', _ =>
    obtain ⟨rfl, hxy⟩ := writeAscii_cancel h
    exact ⟨rfl, hxy⟩
  | .array items, .array items', _ =>
    simp only [Tree.write, List.cons_append, List.cons.injEq, true_and, List.append_assoc,
      List.nil_append, writeItems_eq] at h
    have hitems : ∀ item ∈ items, ∀ ⦃b x y⦄, Ends ',' ']' x → Ends ',' ']' y →
        item.write ++ x = Tree.write b ++ y → item = b ∧ x = y := fun item hitem b x y hx hy hsame =>
      have hsize : sizeOf item < 1 + sizeOf items :=
        Nat.lt_of_lt_of_le (List.sizeOf_lt_of_mem hitem) (Nat.le_add_left _ 1)
      Tree.write_cancel item (hx.digitsEnd (by decide)) (hy.digitsEnd (by decide)) hsame
    obtain ⟨rfl, hxy⟩ := items_cancel hitems (Tree.write_ne_stop (.inl rfl)) (by decide) h
    exact ⟨rfl, hxy⟩
  | .object members, .object members', _ =>
    simp only [Tree.write, List.cons_append, List.cons.injEq, true_and, List.append_assoc,
      List.nil_append, writeMembers_eq] at h
    have hmembers : ∀ member ∈ members, ∀ ⦃b x y⦄, Ends ',' '}' x → Ends ',' '}' y →
        Tree.writeMember member ++ x = Tree.writeMember b ++ y → member = b ∧ x = y :=
      fun member hmember b x y hx hy hsame =>
      have hsize : sizeOf member.2 < 1 + sizeOf members := by
        have hmem := List.sizeOf_lt_of_mem hmember
        have hpart : sizeOf member.2 < sizeOf member := by
          cases member
          simp only [Prod.mk.sizeOf_spec]
          omega
        omega
      Tree.writeMember_cancel (fun hx hy hvalue => Tree.write_cancel member.2 hx hy hvalue) hx hy hsame
    have hopen : ∀ {a : List Char × Tree} {x y : List Char}, Tree.writeMember a ++ x ≠ '}' :: y :=
      fun hsame => absurd (List.cons.inj hsame).1 (by decide)
    obtain ⟨rfl, hxy⟩ := items_cancel hmembers hopen (by decide) h
    exact ⟨rfl, hxy⟩
termination_by sizeOf t

/-- The text of a value determines it. -/
theorem Tree.write_injective : Function.Injective Tree.write := by
  intro t w h
  have hend : DigitsEnd [] := fun c hc => nomatch hc
  exact (Tree.write_cancel t (x := []) (y := []) hend hend (by rw [h])).1

/-- Rows with distinct keys in one order are told by their content. -/
theorem eq_of_perm_of_keys {κ ν : Type} {rows others : List (κ × ν)}
    (hkeys : rows.map Prod.fst = others.map Prod.fst) (hnodup : (others.map Prod.fst).Nodup)
    (hperm : rows.Perm others) : rows = others := by
  refine List.ext_getElem hperm.length_eq fun i h h' => ?_
  have hkey : rows[i].1 = others[i].1 := by
    have hmap : (rows.map Prod.fst)[i]? = (others.map Prod.fst)[i]? := by rw [hkeys]
    rw [List.getElem?_map, List.getElem?_map, List.getElem?_eq_getElem h,
      List.getElem?_eq_getElem h'] at hmap
    exact Option.some.inj hmap
  exact List.inj_on_of_nodup_map hnodup (hperm.mem_iff.mp (List.getElem_mem h))
    (List.getElem_mem h') hkey

/-- A mapping with given keys determines its members. -/
theorem Tree.sorted_inj {members others : List (String × Tree)}
    (hkeys : members.map Prod.fst = others.map Prod.fst) (hnodup : (others.map Prod.fst).Nodup)
    (h : Tree.sorted members = Tree.sorted others) : members = others := by
  have hmember : Function.Injective fun member : String × Tree => (member.1.toList, member.2) := by
    intro a b hab
    obtain ⟨hkey, hvalue⟩ := Prod.mk.inj hab
    exact Prod.ext (String.toList_inj.mp hkey) hvalue
  have hsorted := List.map_injective_iff.mpr hmember (Tree.object.inj h)
  have hback := List.mergeSort_perm others fun a b => decide (a.1 ≤ b.1)
  rw [← hsorted] at hback
  exact eq_of_perm_of_keys hkeys hnodup ((List.mergeSort_perm members _).symm.trans hback)

theorem Tree.optional_injective {α : Type} {render : α → Tree} (hrender : Function.Injective render)
    (hnull : ∀ a, render a ≠ .null) : Function.Injective (Tree.optional render) := by
  intro a b h
  cases a with
  | none =>
    cases b with
    | none => rfl
    | some b => exact absurd h.symm (hnull b)
  | some a =>
    cases b with
    | none => exact absurd h (hnull a)
    | some b => exact congrArg some (hrender h)

end AccountingPlatform.Lib.Json
