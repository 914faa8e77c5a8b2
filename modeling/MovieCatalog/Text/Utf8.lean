/-! The bytes of a text and the texts that bytes spell, malformed stretches included. -/
namespace MovieCatalog

abbrev Bytes := List UInt8

/-- The byte of a character below U+0080. -/
abbrev ascii (c : Char) : UInt8 := c.toUInt8

namespace Utf8

/-- The one to four bytes of a character. -/
def encodeChar (c : Char) : Bytes :=
  let n := c.toNat
  if n < 0x80 then [n.toUInt8]
  else if n < 0x800 then [(0xC0 + n / 64).toUInt8, (0x80 + n % 64).toUInt8]
  else if n < 0x10000 then
    [(0xE0 + n / 4096).toUInt8, (0x80 + n / 64 % 64).toUInt8, (0x80 + n % 64).toUInt8]
  else
    [(0xF0 + n / 262144).toUInt8, (0x80 + n / 4096 % 64).toUInt8, (0x80 + n / 64 % 64).toUInt8,
      (0x80 + n % 64).toUInt8]

def encode (cs : List Char) : Bytes := cs.flatMap encodeChar

/-- The bytes of a text. -/
def ofText (s : String) : Bytes := encode s.toList

/-- A reader of bytes stands between characters, or owes `left + 1` bytes, of which the next
one lies between `low` and `high`; `value` holds the bits seen so far. -/
inductive State where
  | start
  | inside (value left low high : Nat)
  deriving DecidableEq, Repr

/-- What a byte between characters does: the character it is, the state it opens, or nothing
when no character begins with it. -/
def lead (b : Nat) : Option Char × State :=
  if b < 0x80 then (some (Char.ofNat b), .start)
  else if b < 0xC2 then (none, .start)
  else if b < 0xE0 then (none, .inside (b - 0xC0) 0 0x80 0xBF)
  else if b = 0xE0 then (none, .inside 0 1 0xA0 0xBF)
  else if b = 0xED then (none, .inside 0xD 1 0x80 0x9F)
  else if b < 0xF0 then (none, .inside (b - 0xE0) 1 0x80 0xBF)
  else if b = 0xF0 then (none, .inside 0 2 0x90 0xBF)
  else if b < 0xF4 then (none, .inside (b - 0xF0) 2 0x80 0xBF)
  else if b = 0xF4 then (none, .inside 4 2 0x80 0x8F)
  else (none, .start)

/-- The pieces that a byte between characters settles at once. -/
def settled : Option Char × State → List (Option Char)
  | (some c, _) => [some c]
  | (none, .start) => [none]
  | (none, .inside ..) => []

/-- The characters of a byte sequence in order; each longest stretch that begins like a
character and is none stands as one `none`. -/
def pieces : State → Bytes → List (Option Char)
  | .start, [] => []
  | .inside .., [] => [none]
  | .start, b :: rest =>
    let next := lead b.toNat
    settled next ++ pieces next.2 rest
  | .inside value left low high, b :: rest =>
    if low ≤ b.toNat ∧ b.toNat ≤ high then
      let value := value * 64 + (b.toNat - 0x80)
      match left with
      | 0 => some (Char.ofNat value) :: pieces .start rest
      | left + 1 => pieces (.inside value left 0x80 0xBF) rest
    else
      let next := lead b.toNat
      none :: (settled next ++ pieces next.2 rest)

/-- All values of a list, or none when one is missing. -/
def sequence : List (Option Char) → Option (List Char)
  | [] => some []
  | none :: _ => none
  | some c :: rest => (sequence rest).map (c :: ·)

/-- The characters that the bytes spell, when they spell a text. -/
def decode? (input : Bytes) : Option (List Char) := sequence (pieces .start input)

/-- The characters that the bytes spell, with U+FFFD for each malformed stretch. -/
def decodeLossy (input : Bytes) : List Char :=
  (pieces .start input).map fun piece => piece.getD '\uFFFD'

/-- The characters before the first malformed stretch. -/
def wellFormed (input : Bytes) : List Char :=
  ((pieces .start input).takeWhile Option.isSome).filterMap fun piece => piece

/-- The bytes from the first malformed stretch on. -/
def malformed (input : Bytes) : Bytes := input.drop (encode (wellFormed input)).length

/-- The number of bytes of a text. -/
def size (cs : List Char) : Nat := (encode cs).length

end Utf8
end MovieCatalog
