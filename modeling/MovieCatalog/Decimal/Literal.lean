import MovieCatalog.Decimal.DoublePair
import MovieCatalog.Decimal.Shortest

/-! Decimal literals, which may have a point and an exponent, and the doubles they spell. -/
namespace MovieCatalog.Decimal

/-- Whether a minus sign stands first, and what follows an optional sign. -/
def takeSign : List Char → Bool × List Char
  | '-' :: rest => (true, rest)
  | '+' :: rest => (false, rest)
  | cs => (false, cs)

/-- The power that the digits of an exponent spell. From `10 ^ 4` on it is beyond all doubles, and
a further digit leaves just that. -/
def powerOfDigits (digits : List Char) : Nat :=
  digits.foldl (fun n c => if n < 10000 then 10 * n + Numeral.value c else 10000) 0

/-- The power of ten that an exponent spells; nothing spells the power 0. -/
def readPower : List Char → Option Int
  | [] => some 0
  | mark :: rest =>
    let (negative, digits) := takeSign rest
    if (mark = 'e' ∨ mark = 'E') ∧ digits ≠ [] ∧ digits.all Numeral.isDigit then
      some (if negative then -powerOfDigits digits else powerOfDigits digits)
    else none

/-- Digits join a coefficient as long as 64 bits have room for any further digit; the others are
left over. -/
def absorb (coefficient : Nat) : List Char → Nat × List Char
  | [] => (coefficient, [])
  | c :: rest =>
    if coefficient < (Nat.pow 2 64 - 10) / 10 then absorb (10 * coefficient + Numeral.value c) rest
    else (coefficient, c :: rest)

/-- The decimal that digits before and after a point spell, as far as 64 bits hold its coefficient.
Digits left over before the point count as places, and those after it are dropped. -/
def ofDigits (whole fraction : List Char) : Decimal :=
  let (coefficient, excess) := absorb 0 whole
  let (coefficient, dropped) := absorb coefficient fraction
  ⟨coefficient, excess.length - (fraction.length - dropped.length : Nat)⟩

/-- A decimal with a sign. -/
structure Literal where
  negative : Bool
  magnitude : Decimal
  deriving DecidableEq, Repr

/-- Read a sign, digits with a point among them or beside them, and an exponent. -/
def Literal.ofChars? (cs : List Char) : Option Literal :=
  let (negative, cs) := takeSign cs
  let whole := cs.takeWhile Numeral.isDigit
  let (fraction, rest) := match cs.dropWhile Numeral.isDigit with
    | '.' :: more => (more.takeWhile Numeral.isDigit, more.dropWhile Numeral.isDigit)
    | more => ([], more)
  if whole.isEmpty && fraction.isEmpty then none
  else
    let magnitude := ofDigits whole fraction
    (readPower rest).map fun power =>
      ⟨negative, { magnitude with exponent := magnitude.exponent + power }⟩

/-- Take powers of ten into a coefficient while 64 bits have room. -/
def takeTens (coefficient : Nat) : Nat → Nat × Nat
  | 0 => (coefficient, 0)
  | n + 1 =>
    if coefficient < (Nat.pow 2 64 - Nat.pow 2 11) / 10 then takeTens (10 * coefficient) n
    else (coefficient, n + 1)

/-- Cancel powers of ten against the zeros at the end of a coefficient. -/
def cancelTens (coefficient : Nat) : Nat → Nat × Nat
  | 0 => (coefficient, 0)
  | n + 1 => if coefficient % 10 = 0 then cancelTens (coefficient / 10) n else (coefficient, n + 1)

/-- A double near a decimal whose coefficient 64 bits hold: the nearest one, unless the decimal
lies next to the middle of two. -/
def toFloat (d : Decimal) : Float :=
  if d.coefficient = 0 then 0
  else if 0 ≤ d.exponent then
    let (coefficient, power) := takeTens d.coefficient d.exponent.toNat
    ((DoublePair.ofNat coefficient).scaleUp power).toFloat
  else
    let (coefficient, power) := cancelTens d.coefficient (-d.exponent).toNat
    ((DoublePair.ofNat coefficient).scaleDown power).toFloat

def Literal.toFloat (x : Literal) : Float :=
  if x.negative then -x.magnitude.toFloat else x.magnitude.toFloat

end MovieCatalog.Decimal
