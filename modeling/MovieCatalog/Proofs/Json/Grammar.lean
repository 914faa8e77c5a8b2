import MovieCatalog.Proofs.Hex
import MovieCatalog.Proofs.Json.Numbers

/-! The grammar of JSON: tokens, and the sequences of tokens that are values. Blanks may stand
between tokens. The text of every value is in the grammar. -/
namespace MovieCatalog.Json

/-- A character that stands for itself in a string. -/
def IsPlain (c : Char) : Prop := c ≠ '"' ∧ c ≠ '\\' ∧ 0x20 ≤ c.toNat

/-- The letters of the short escapes, with the characters that they stand for. -/
def shortEscapes : List (Char × Char) :=
  [('"', '"'), ('\\', '\\'), ('/', '/'), ('b', '\x08'), ('f', '\x0c'), ('n', '\n'), ('r', '\r'),
    ('t', '\t')]

/-- Four hexadecimal digits, in either case, that spell a code unit. -/
def IsUnit (digits : Bytes) (n : Nat) : Prop :=
  ∃ a b c d, digits.map Hex.ofByte? = [some a, some b, some c, some d] ∧
    n = 16 * (16 * (16 * a + b) + c) + d

/-- What stands between the quotes of a string. -/
inductive Quotable : Bytes → Prop where
  | nil : Quotable []
  | plain {c : Char} {bytes : Bytes} (h : IsPlain c) (more : Quotable bytes) :
      Quotable (Utf8.encodeChar c ++ bytes)
  | short {letter c : Char} {bytes : Bytes} (h : (letter, c) ∈ shortEscapes)
      (more : Quotable bytes) : Quotable (ascii '\\' :: ascii letter :: bytes)
  | unit {digits bytes : Bytes} {n : Nat} (h : IsUnit digits n) (more : Quotable bytes) :
      Quotable (ascii '\\' :: ascii 'u' :: (digits ++ bytes))

/-- What stands between the quotes of a string spells a text. A character beyond U+FFFF may be a
pair of code units; a code unit that is half a pair spells nothing by itself. -/
inductive Spells : Bytes → List Char → Prop where
  | nil : Spells [] []
  | plain {c : Char} {bytes : Bytes} {cs : List Char} (h : IsPlain c) (more : Spells bytes cs) :
      Spells (Utf8.encodeChar c ++ bytes) (c :: cs)
  | short {letter c : Char} {bytes : Bytes} {cs : List Char} (h : (letter, c) ∈ shortEscapes)
      (more : Spells bytes cs) : Spells (ascii '\\' :: ascii letter :: bytes) (c :: cs)
  | unit {c : Char} {digits bytes : Bytes} {cs : List Char} (h : IsUnit digits c.toNat)
      (more : Spells bytes cs) :
      Spells (ascii '\\' :: ascii 'u' :: (digits ++ bytes)) (c :: cs)
  | pair {c : Char} {high low bytes : Bytes} {cs : List Char} (h : 0x10000 ≤ c.toNat)
      (hhigh : IsUnit high (0xD800 + (c.toNat - 0x10000) / 0x400))
      (hlow : IsUnit low (0xDC00 + (c.toNat - 0x10000) % 0x400)) (more : Spells bytes cs) :
      Spells (ascii '\\' :: ascii 'u' ::
        (high ++ ascii '\\' :: ascii 'u' :: (low ++ bytes))) (c :: cs)

/-- Bytes between quotes. -/
def quoted (bytes : Bytes) : Bytes := ascii '"' :: (bytes ++ [ascii '"'])

/-- Digits without a leading zero. -/
inductive IsWhole : Bytes → Prop where
  | zero : IsWhole [ascii '0']
  | digits {b : UInt8} {ds : Bytes} (hb : isDigit b = true) (h0 : b ≠ ascii '0')
      (hds : ∀ d ∈ ds, isDigit d = true) : IsWhole (b :: ds)

inductive IsFraction : Bytes → Prop where
  | none : IsFraction []
  | digits {d : UInt8} {ds : Bytes} (hd : isDigit d = true) (hds : ∀ d ∈ ds, isDigit d = true) :
      IsFraction (ascii '.' :: d :: ds)

inductive IsExponent : Bytes → Prop where
  | none : IsExponent []
  | digits {mark d : UInt8} {sign ds : Bytes} (hmark : mark = ascii 'e' ∨ mark = ascii 'E')
      (hsign : sign = [] ∨ sign = [ascii '+'] ∨ sign = [ascii '-']) (hd : isDigit d = true)
      (hds : ∀ d ∈ ds, isDigit d = true) : IsExponent (mark :: (sign ++ d :: ds))

/-- Words, numbers and strings. -/
inductive IsScalar : Bytes → Prop where
  | word {w : String} (h : w ∈ ["null", "true", "false"]) : IsScalar (Utf8.ofText w)
  | number {sign whole fraction exponent : Bytes} (hsign : sign = [] ∨ sign = [ascii '-'])
      (hwhole : IsWhole whole) (hfraction : IsFraction fraction)
      (hexponent : IsExponent exponent) : IsScalar (sign ++ (whole ++ (fraction ++ exponent)))
  | string {bytes : Bytes} (h : Quotable bytes) : IsScalar (quoted bytes)

/-- What tokens make up. -/
inductive Symbol where
  | value
  | object
  | items
  | members

/-- Sequences of tokens that make up a symbol. -/
inductive Derives : Symbol → List Bytes → Prop where
  | scalar {token : Bytes} (h : IsScalar token) : Derives .value [token]
  | emptyList : Derives .value [[ascii '['], [ascii ']']]
  | list {tokens : List Bytes} (h : Derives .items tokens) :
      Derives .value ([ascii '['] :: (tokens ++ [[ascii ']']]))
  | object {tokens : List Bytes} (h : Derives .object tokens) : Derives .value tokens
  | emptyObject : Derives .object [[ascii '\x7b'], [ascii '\x7d']]
  | filledObject {tokens : List Bytes} (h : Derives .members tokens) :
      Derives .object ([ascii '\x7b'] :: (tokens ++ [[ascii '\x7d']]))
  | item {tokens : List Bytes} (h : Derives .value tokens) : Derives .items tokens
  | items {tokens further : List Bytes} (h : Derives .value tokens)
      (more : Derives .items further) : Derives .items (tokens ++ [ascii ','] :: further)
  | member {name : Bytes} {tokens : List Bytes} (hname : Quotable name)
      (h : Derives .value tokens) : Derives .members (quoted name :: [ascii ':'] :: tokens)
  | members {name : Bytes} {tokens further : List Bytes} (hname : Quotable name)
      (h : Derives .value tokens) (more : Derives .members further) :
      Derives .members (quoted name :: [ascii ':'] :: (tokens ++ [ascii ','] :: further))

def Blanks (bytes : Bytes) : Prop := ∀ b ∈ bytes, isBlank b = true

/-- Tokens in order, with blanks before, between and behind them. -/
inductive Spaced : List Bytes → Bytes → Prop where
  | nil {blanks : Bytes} (h : Blanks blanks) : Spaced [] blanks
  | cons {blanks token rest : Bytes} {tokens : List Bytes} (h : Blanks blanks)
      (more : Spaced tokens rest) : Spaced (token :: tokens) (blanks ++ (token ++ rest))

/-- The text of an object, and nothing else but blanks. -/
def IsObject (bytes : Bytes) : Prop := ∃ tokens, Derives .object tokens ∧ Spaced tokens bytes

variable {bytes : Bytes} {tokens : List Bytes} {cs : List Char}

theorem Spells.quotable (h : Spells bytes cs) : Quotable bytes := by
  induction h with
  | nil => exact .nil
  | plain hc _ ih => exact .plain hc ih
  | short hc _ ih => exact .short hc ih
  | unit hc _ ih => exact .unit hc ih
  | pair _ hhigh hlow _ ih => exact .unit hhigh (.unit hlow ih)

theorem quoted_append (bytes rest : Bytes) :
    quoted bytes ++ rest = ascii '"' :: (bytes ++ ascii '"' :: rest) := by
  rw [quoted, List.cons_append, List.append_assoc, List.singleton_append]

theorem skipBlanks_cons {b : UInt8} (h : isBlank b = false) (rest : Bytes) :
    skipBlanks (b :: rest) = b :: rest := by
  rw [skipBlanks, List.dropWhile_cons, h]
  rfl

theorem blanks_nil : Blanks [] := by
  intro b hb
  cases hb

/-- Tokens may stand without any blanks. -/
theorem spaced_flatten (tokens : List Bytes) : Spaced tokens tokens.flatten := by
  induction tokens with
  | nil => exact .nil blanks_nil
  | cons token tokens ih => exact .cons blanks_nil ih

theorem isUnit_control {n : Nat} (h : n < 0x20) :
    IsUnit [ascii '0', ascii '0', ascii (Hex.digit (n / 16)), ascii (Hex.digit (n % 16))] n := by
  have hall : ∀ n < 0x20, [ascii '0', ascii '0', ascii (Hex.digit (n / 16)),
      ascii (Hex.digit (n % 16))].map Hex.ofByte? =
        [some 0, some 0, some (n / 16), some (n % 16)] := by decide
  exact ⟨0, 0, n / 16, n % 16, hall n h, by omega⟩

/-- A character of a written string is spelled by what is written for it. -/
theorem spells_escape (c : Char) (h : Spells bytes cs) :
    Spells (Utf8.encode (escape c) ++ bytes) (c :: cs) := by
  have hshort : ∀ letter {c}, (letter, c) ∈ shortEscapes →
      Spells (ascii '\\' :: ascii letter :: bytes) (c :: cs) := fun _ _ hmem => .short hmem h
  unfold escape
  split
  · subst c; exact hshort '"' (by decide)
  split
  · subst c; exact hshort '\\' (by decide)
  split
  · subst c; exact hshort 'b' (by decide)
  split
  · subst c; exact hshort 'f' (by decide)
  split
  · subst c; exact hshort 'n' (by decide)
  split
  · subst c; exact hshort 'r' (by decide)
  split
  · subst c; exact hshort 't' (by decide)
  split
  · rename_i hcontrol
    have hhigh : c.toNat / 16 < 16 := by omega
    have hlow : c.toNat % 16 < 16 := by omega
    rw [Utf8.encode_of_lt]
    · exact .unit (isUnit_control hcontrol) h
    · intro d hd
      simp only [List.mem_cons, List.not_mem_nil, or_false] at hd
      rcases hd with rfl | rfl | rfl | rfl | rfl | rfl
      · decide
      · decide
      · decide
      · decide
      · exact Hex.digit_toNat_lt hhigh
      · exact Hex.digit_toNat_lt hlow
  · rename_i hquote hslash _ _ _ _ _ hcontrol
    rw [Utf8.encode_cons, Utf8.encode_nil, List.append_nil]
    exact .plain ⟨hquote, hslash, by omega⟩ h

theorem spells_escapes (cs : List Char) : Spells (Utf8.encode (cs.flatMap escape)) cs := by
  induction cs with
  | nil => exact .nil
  | cons c cs ih =>
    rw [List.flatMap_cons, Utf8.encode_append]
    exact spells_escape c ih

theorem encode_writeString (cs : List Char) :
    Utf8.encode (writeString cs) = quoted (Utf8.encode (cs.flatMap escape)) := by
  have hquote : Utf8.encodeChar '"' = [ascii '"'] := rfl
  rw [writeString, Utf8.encode_append, Utf8.encode_cons, Utf8.encode_cons, Utf8.encode_nil, hquote]
  rfl

theorem isWhole_numeralBytes (n : Nat) : IsWhole (numeralBytes n) := by
  obtain ⟨b, ds, he, hb, hds, hz⟩ := numeralBytes_eq_cons n
  rw [he]
  by_cases h0 : b = ascii '0'
  · rw [hz h0, h0]
    exact .zero
  · exact .digits hb h0 hds

theorem isScalar_integer (i : Int) : IsScalar (Utf8.encode (Numeral.ofInt i)) := by
  have hnumber : ∀ sign n, sign = [] ∨ sign = [ascii '-'] →
      IsScalar (sign ++ numeralBytes n) := by
    intro sign n hsign
    have h := IsScalar.number hsign (isWhole_numeralBytes n) .none .none
    rwa [List.append_nil, List.append_nil] at h
  cases i with
  | ofNat n => exact hnumber [] n (.inl rfl)
  | negSucc n => exact hnumber [ascii '-'] (n + 1) (.inr rfl)

/-- Bytes are the tokens of a symbol without any blanks. -/
def Writes (symbol : Symbol) (bytes : Bytes) : Prop :=
  ∃ tokens, Derives symbol tokens ∧ tokens.flatten = bytes

theorem writes_scalar (h : IsScalar bytes) : Writes .value bytes :=
  ⟨[bytes], .scalar h, by simp⟩

theorem Writes.list (h : Writes .items bytes) :
    Writes .value (ascii '[' :: (bytes ++ [ascii ']'])) := by
  obtain ⟨tokens, htokens, rfl⟩ := h
  exact ⟨_, .list htokens, by simp⟩

theorem Writes.object (h : Writes .members bytes) :
    Writes .object (ascii '\x7b' :: (bytes ++ [ascii '\x7d'])) := by
  obtain ⟨tokens, htokens, rfl⟩ := h
  exact ⟨_, .filledObject htokens, by simp⟩

theorem Writes.value (h : Writes .object bytes) : Writes .value bytes := by
  obtain ⟨tokens, htokens, hbytes⟩ := h
  exact ⟨tokens, .object htokens, hbytes⟩

theorem Writes.item (h : Writes .value bytes) : Writes .items bytes := by
  obtain ⟨tokens, htokens, hbytes⟩ := h
  exact ⟨tokens, .item htokens, hbytes⟩

theorem Writes.items {further : Bytes} (h : Writes .value bytes) (more : Writes .items further) :
    Writes .items (bytes ++ ascii ',' :: further) := by
  obtain ⟨tokens, htokens, rfl⟩ := h
  obtain ⟨others, hothers, rfl⟩ := more
  exact ⟨_, .items htokens hothers, by simp⟩

theorem Writes.member (name : String) (h : Writes .value bytes) :
    Writes .members (Utf8.encode (writeString name.toList) ++ ascii ':' :: bytes) := by
  obtain ⟨tokens, htokens, rfl⟩ := h
  exact ⟨_, .member (spells_escapes name.toList).quotable htokens,
    by simp [encode_writeString]⟩

theorem Writes.members (name : String) {further : Bytes} (h : Writes .value bytes)
    (more : Writes .members further) :
    Writes .members (Utf8.encode (writeString name.toList) ++
      ascii ':' :: (bytes ++ ascii ',' :: further)) := by
  obtain ⟨tokens, htokens, rfl⟩ := h
  obtain ⟨others, hothers, rfl⟩ := more
  exact ⟨_, .members (spells_escapes name.toList).quotable htokens hothers,
    by simp [encode_writeString]⟩

mutual

/-- The text of a value is made up of the tokens of a value. -/
theorem writes_write (value : Json) : Writes .value (Utf8.encode value.write) := by
  match value with
  | .null => exact writes_scalar (.word (w := "null") (by decide))
  | .flag true => exact writes_scalar (.word (w := "true") (by decide))
  | .flag false => exact writes_scalar (.word (w := "false") (by decide))
  | .integer value => exact writes_scalar (isScalar_integer value)
  | .text value =>
    rw [write, encode_writeString]
    exact writes_scalar (.string (spells_escapes _).quotable)
  | .list [] => exact ⟨_, .emptyList, rfl⟩
  | .list (item :: items) =>
    rw [write, Utf8.encode_append]
    exact (writes_writeItems (item :: items) (List.cons_ne_nil _ _)).list
  | .object [] => exact ⟨_, .object .emptyObject, rfl⟩
  | .object (member :: members) =>
    rw [write, Utf8.encode_append]
    exact (writes_writeMembers (member :: members) (List.cons_ne_nil _ _)).object.value

theorem writes_writeItems (items : List Json) (h : items ≠ []) :
    Writes .items (Utf8.encode (writeItems items)) := by
  match items with
  | [] => exact absurd rfl h
  | [item] => exact (writes_write item).item
  | item :: next :: items =>
    rw [writeItems, Utf8.encode_append]
    exact (writes_write item).items (writes_writeItems (next :: items) (List.cons_ne_nil _ _))

theorem writes_writeMembers (members : List (String × Json)) (h : members ≠ []) :
    Writes .members (Utf8.encode (writeMembers members)) := by
  match members with
  | [] => exact absurd rfl h
  | [(name, value)] =>
    rw [writeMembers, Utf8.encode_append]
    exact (writes_write value).member name
  | (name, value) :: next :: members =>
    rw [writeMembers, Utf8.encode_append, Utf8.encode_append, List.append_assoc]
    exact (writes_write value).members name
      (writes_writeMembers (next :: members) (List.cons_ne_nil _ _))

end

/-- The text of a written object is an object. -/
theorem isObject_write (members : List (String × Json)) :
    IsObject (Utf8.encode (object members).write) := by
  have hwrites : Writes .object (Utf8.encode (object members).write) := by
    cases members with
    | nil => exact ⟨_, .emptyObject, rfl⟩
    | cons member members =>
      rw [write, Utf8.encode_append]
      exact (writes_writeMembers (member :: members) (List.cons_ne_nil _ _)).object
  obtain ⟨tokens, h, hbytes⟩ := hwrites
  exact ⟨tokens, h, hbytes ▸ spaced_flatten tokens⟩

end MovieCatalog.Json
