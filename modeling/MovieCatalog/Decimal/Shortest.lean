import MovieCatalog.Text.Numeral

/-! The shortest decimal that reads back as a given double, in exact integer arithmetic, and the
text that messages show for it. -/
namespace MovieCatalog

/-- The number `coefficient * 10 ^ exponent`. -/
structure Decimal where
  coefficient : Nat
  exponent : Int
  deriving DecidableEq, Repr

namespace Decimal

/-- The same number with no zero at the end of its coefficient. -/
def trim (d : Decimal) : Decimal :=
  if h : 0 < d.coefficient ∧ d.coefficient % 10 = 0 then
    trim ⟨d.coefficient / 10, d.exponent + 1⟩
  else d
termination_by d.coefficient
decreasing_by exact Nat.div_lt_self h.1 (by decide)

/-- A positive double `4 * mantissa * unit / scale`, where the reals that round to it reach from
`below` quarter units under the value to two quarter units above it. -/
structure Binary where
  mantissa : Nat
  unit : Nat
  scale : Nat
  below : Nat

/-- The double with the given fraction and exponent bits. -/
def Binary.ofBits (fraction exponent : Nat) : Binary :=
  let mantissa := if exponent = 0 then fraction else fraction + Nat.pow 2 52
  let power : Int := (if exponent = 0 then 1 else exponent : Nat) - (1077 : Int)
  { mantissa
    unit := Nat.pow 2 power.toNat
    scale := Nat.pow 2 (-power).toNat
    below := if fraction = 0 ∧ 1 < exponent then 1 else 2 }

namespace Binary
variable (x : Binary)

def numerator : Nat := 4 * x.mantissa * x.unit

/-- `n * 10 ^ e` over the numerator's denominator, with the factor the numerator takes. -/
def compareAt (n : Nat) (e : Int) : Nat × Nat :=
  (n * Nat.pow 10 e.toNat * x.scale, Nat.pow 10 (-e).toNat)

/-- Whether `n * 10 ^ e` rounds to the double; the ends of the interval do when the mantissa is
even. -/
def rounds (n : Nat) (e : Int) : Bool :=
  let (value, factor) := x.compareAt n e
  let low := (x.numerator - x.below * x.unit) * factor
  let high := (x.numerator + 2 * x.unit) * factor
  if x.mantissa % 2 = 0 then low ≤ value && value ≤ high else low < value && value < high

/-- The largest `n` with `n * 10 ^ e` at most the double. -/
def floorAt (e : Int) : Nat :=
  x.numerator * Nat.pow 10 (-e).toNat / (Nat.pow 10 e.toNat * x.scale)

/-- Of two neighbours on the grid `10 ^ e` the one nearer to the double, the even one on a tie. -/
def nearer (n : Nat) (e : Int) : Nat :=
  let (value, factor) := x.compareAt (2 * n + 1) e
  let twice := 2 * x.numerator * factor
  if twice < value then n
  else if value < twice then n + 1
  else if n % 2 = 0 then n else n + 1

/-- The point of the grid `10 ^ e` that rounds to the double and lies nearest. -/
def onGrid (e : Int) : Option Nat :=
  let n := x.floorAt e
  match x.rounds n e && decide (0 < n), x.rounds (n + 1) e with
  | true, true => some (x.nearer n e)
  | true, false => some n
  | false, true => some (n + 1)
  | false, false => none

/-- The number of places that the first digit lies left of the point. -/
def magnitude : Int :=
  let whole := x.numerator / x.scale
  if whole = 0 then
    let places := (List.range 330).find? fun j => x.scale ≤ x.numerator * Nat.pow 10 j
    1 - (places.getD 330 : Nat)
  else (Numeral.ofNat whole).length

/-- The first grid, from coarse to fine, with a point that rounds to the double. -/
def shortest : Decimal :=
  let top := x.magnitude
  let found := (List.range 17).findSome? fun (i : Nat) =>
    let e := top - 1 - (i : Int)
    (x.onGrid e).map fun n => (⟨n, e⟩ : Decimal)
  (found.getD ⟨x.floorAt (top - 17), top - 17⟩).trim

end Binary

/-- Digits with a point: from `10 ^ -5` up to below `10 ^ 16` positional, otherwise with an
exponent that always has its sign. -/
def text (d : Decimal) : List Char :=
  let digits := Numeral.ofNat d.coefficient
  let point := digits.length + d.exponent
  if 0 < point ∧ point ≤ 16 then
    if 0 ≤ d.exponent then digits ++ List.replicate d.exponent.toNat '0' ++ ['.', '0']
    else digits.take point.toNat ++ '.' :: digits.drop point.toNat
  else if -5 < point ∧ point ≤ 0 then
    ['0', '.'] ++ List.replicate (-point).toNat '0' ++ digits
  else
    let mantissa := match digits with
      | first :: second :: rest => first :: '.' :: second :: rest
      | short => short
    let power := point - 1
    mantissa ++ ['e', if power < 0 then '-' else '+'] ++ Numeral.ofNat power.natAbs

/-- The text of a finite double. -/
def ofFloat (x : Float) : String :=
  let bits := x.toBits.toNat
  let sign := if bits / Nat.pow 2 63 = 1 then ['-'] else []
  let fraction := bits % Nat.pow 2 52
  let exponent := bits / Nat.pow 2 52 % Nat.pow 2 11
  let digits :=
    if fraction = 0 ∧ exponent = 0 then ['0', '.', '0']
    else text (Binary.ofBits fraction exponent).shortest
  String.ofList (sign ++ digits)

end Decimal
end MovieCatalog
