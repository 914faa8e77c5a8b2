import MovieCatalog.Text.Utf8

/-! Base 64 with the alphabet for addresses, padded, with one spelling for each byte sequence. -/
namespace MovieCatalog.Base64

/-- The digit of a value below 64. -/
def digit (n : Nat) : Char :=
  if n < 26 then Char.ofNat (65 + n)
  else if n < 52 then Char.ofNat (71 + n)
  else if n < 62 then Char.ofNat (n - 4)
  else if n = 62 then '-' else '_'

/-- The value of a digit. -/
def value? (c : Char) : Option Nat :=
  if 'A' ≤ c ∧ c ≤ 'Z' then some (c.toNat - 65)
  else if 'a' ≤ c ∧ c ≤ 'z' then some (c.toNat - 71)
  else if '0' ≤ c ∧ c ≤ '9' then some (c.toNat + 4)
  else if c = '-' then some 62
  else if c = '_' then some 63
  else none

/-- Four digits for three bytes; a shorter last group is padded. -/
def encode : Bytes → List Char
  | [] => []
  | [a] => [digit (a.toNat / 4), digit (a.toNat % 4 * 16), '=', '=']
  | [a, b] =>
    [digit (a.toNat / 4), digit (a.toNat % 4 * 16 + b.toNat / 16), digit (b.toNat % 16 * 4), '=']
  | a :: b :: c :: rest =>
    digit (a.toNat / 4) :: digit (a.toNat % 4 * 16 + b.toNat / 16) ::
      digit (b.toNat % 16 * 4 + c.toNat / 64) :: digit (c.toNat % 64) :: encode rest

/-- A group of two digits, of which the second must not use its last four bits. -/
def byte? (w x : Char) : Option Bytes :=
  match value? w, value? x with
  | some w, some x => if x % 16 = 0 then some [(w * 4 + x / 16).toUInt8] else none
  | _, _ => none

/-- A group of three digits, of which the third must not use its last two bits. -/
def twoBytes? (w x y : Char) : Option Bytes :=
  match value? w, value? x, value? y with
  | some w, some x, some y =>
    if y % 4 = 0 then some [(w * 4 + x / 16).toUInt8, (x % 16 * 16 + y / 4).toUInt8] else none
  | _, _, _ => none

/-- A whole group. -/
def threeBytes? (w x y z : Char) : Option Bytes :=
  match value? w, value? x, value? y, value? z with
  | some w, some x, some y, some z =>
    some [(w * 4 + x / 16).toUInt8, (x % 16 * 16 + y / 4).toUInt8, (y % 4 * 64 + z).toUInt8]
  | _, _, _, _ => none

/-- The bytes that a text spells; only the output of `encode` spells any. -/
def decode? : List Char → Option Bytes
  | [] => some []
  | w :: x :: y :: z :: rest =>
    if z = '=' then
      if rest = [] then if y = '=' then byte? w x else twoBytes? w x y else none
    else
      match threeBytes? w x y z, decode? rest with
      | some group, some bytes => some (group ++ bytes)
      | _, _ => none
  | _ => none

end MovieCatalog.Base64
