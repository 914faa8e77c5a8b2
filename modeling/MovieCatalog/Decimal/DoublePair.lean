/-! Numbers held as the sum of two doubles, with about twice the digits of one. -/
namespace MovieCatalog

/-- The number `head + tail`. The tail is what rounding to the head left over. -/
structure DoublePair where
  head : Float
  tail : Float

namespace DoublePair

/-- The pair of a number below `2 ^ 64`. A number that rounds to `2 ^ 64` keeps no tail. -/
def ofNat (n : Nat) : DoublePair :=
  let head := n.toUInt64.toFloat
  if head < 18446744073709551616.0 then ⟨head, Float.ofInt (n - head.toUInt64.toNat)⟩
  else ⟨head, 0⟩

/-- The upper half of a double's digits: the last 26 bits are cleared. -/
def upper (x : Float) : Float := Float.ofBits (x.toBits &&& 0xFFFFFFFFFC000000)

/-- The product. The heads are multiplied by halves, so that their product's tail is known, and the
mixed products join the tail. -/
def mul (x y : DoublePair) : DoublePair :=
  let xUpper := upper x.head
  let xLower := x.head - xUpper
  let yUpper := upper y.head
  let yLower := y.head - yUpper
  let outer := xUpper * yUpper
  let mixed := xUpper * yLower + xLower * yUpper
  let head := outer + mixed
  let tail := outer - head + mixed + xLower * yLower
  let tail := x.head * y.tail + x.tail * y.head + tail
  let sum := head + tail
  ⟨sum, head - sum + tail⟩

/-- The product with the power `n` of ten, in factors of `10 ^ 100`, `10 ^ 10` and 10. -/
def scaleUp (x : DoublePair) (n : Nat) : DoublePair :=
  let x := Nat.repeat (mul · ⟨1.0e100, -1.5902891109759918046e83⟩) (n / 100) x
  let x := Nat.repeat (mul · ⟨1.0e10, 0⟩) (n % 100 / 10) x
  Nat.repeat (mul · ⟨10, 0⟩) (n % 10) x

/-- The quotient by the power `n` of ten, by factors of `10 ^ -100`, `10 ^ -10` and `10 ^ -1`. -/
def scaleDown (x : DoublePair) (n : Nat) : DoublePair :=
  let x := Nat.repeat (mul · ⟨1.0e-100, -1.99918998026028836196e-117⟩) (n / 100) x
  let x := Nat.repeat (mul · ⟨1.0e-10, -3.6432197315497741579e-27⟩) (n % 100 / 10) x
  Nat.repeat (mul · ⟨1.0e-1, -5.5511151231257827021e-18⟩) (n % 10) x

/-- The sum as one double. A product beyond all doubles is no number, and counts as infinite. -/
def toFloat (x : DoublePair) : Float :=
  let sum := x.head + x.tail
  if sum.isNaN then 1.0 / 0.0 else sum

end DoublePair
end MovieCatalog
