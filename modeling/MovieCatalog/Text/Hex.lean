import MovieCatalog.Text.Utf8

/-! Hexadecimal digits, written in lower case and read in either case. -/
namespace MovieCatalog.Hex

/-- The digit of a value below sixteen. -/
def digit (n : Nat) : Char := if n < 10 then Char.ofNat (48 + n) else Char.ofNat (87 + n)

/-- The value of a digit. -/
def value? (c : Char) : Option Nat :=
  if '0' ≤ c ∧ c ≤ '9' then some (c.toNat - 48)
  else if 'a' ≤ c ∧ c ≤ 'f' then some (c.toNat - 87)
  else if 'A' ≤ c ∧ c ≤ 'F' then some (c.toNat - 55)
  else none

/-- The value of a digit given as a byte. -/
def ofByte? (b : UInt8) : Option Nat := value? (Char.ofNat b.toNat)

/-- The two digits of a byte. -/
def ofByte (b : UInt8) : List Char := [digit (b.toNat / 16), digit (b.toNat % 16)]

/-- The digits of a byte sequence, two for each byte. -/
def encode (bytes : Bytes) : List Char := bytes.flatMap ofByte

/-- The bytes that pairs of digits spell. -/
def decode? : List Char → Option Bytes
  | [] => some []
  | [_] => none
  | high :: low :: rest =>
    match value? high, value? low with
    | some h, some l => (decode? rest).map ((16 * h + l).toUInt8 :: ·)
    | _, _ => none

/-- The shortest digits of a number. -/
def ofNat (n : Nat) : List Char :=
  if n < 16 then [digit n] else ofNat (n / 16) ++ [digit (n % 16)]

/-- The number that a run of digits spells, given as bytes. -/
def number? (digits : Bytes) : Option Nat :=
  digits.foldl (fun acc b => acc.bind fun n => (ofByte? b).map (16 * n + ·)) (some 0)

end MovieCatalog.Hex
