import MovieCatalog.Decimal.Shortest
import MovieCatalog.Json.Lexical

/-! Numbers of JSON: an integer of 64 bits is kept exactly, and any other number as a double. -/
namespace MovieCatalog.Json

def isDigit (b : UInt8) : Bool := ascii '0' ≤ b && b ≤ ascii '9'

def isExponentMark (b : UInt8) : Bool := b == ascii 'e' || b == ascii 'E'

def digitValue (b : UInt8) : Nat := b.toNat - 48

/-- The number that digits spell. -/
def digitsValue (digits : Bytes) : Nat := digits.foldl (fun n b => 10 * n + digitValue b) 0

inductive Number where
  | integer (value : Int)
  | real (value : Float)

def Number.found : Number → Found
  | .integer value => .integer value
  | .real value => .real (Decimal.ofFloat value)

/-- Digits join a significand as long as it stays below `2 ^ 64`; the others are left over. -/
def absorb (significand : Nat) : Bytes → Nat × Bytes
  | [] => (significand, [])
  | b :: rest =>
    let next := 10 * significand + digitValue b
    if next < 0x10000000000000000 then absorb next rest else (significand, b :: rest)

/-- A significand and the power of ten it is taken times. -/
structure Scaled where
  significand : Nat
  exponent : Int

/-- The digits before the point. Digits that no longer fit count as places. -/
def Scaled.ofWhole (digits : Bytes) : Scaled :=
  let (significand, left) := absorb 0 digits
  ⟨significand, left.length⟩

/-- Add the digits after the point. Digits that no longer fit are dropped. -/
def Scaled.addFraction (x : Scaled) (digits : Bytes) : Scaled :=
  let (significand, left) := absorb x.significand digits
  ⟨significand, x.exponent - (digits.length - left.length : Nat)⟩

def powerOfTen (n : Nat) : Float := Float.ofScientific 1 false n

/-- A double divided by a power of ten, in steps of at most `10 ^ 308`. -/
def scaleDown (x : Float) (places : Nat) : Float :=
  if places ≤ 308 then x / powerOfTen places
  else if x == 0 then x
  else scaleDown (x / powerOfTen 308) (places - 308)
termination_by places
decreasing_by omega

/-- A double times a power of ten, if it stays finite. -/
def scaleUp (x : Float) (places : Nat) : Option Float :=
  if places ≤ 308 then
    let y := x * powerOfTen places
    if y.isInf then none else some y
  else if x == 0 then some x else none

/-- The double of a scaled number, if there is one. -/
def Scaled.toFloat? (x : Scaled) : Option Float :=
  let significand := x.significand.toUInt64.toFloat
  if 0 ≤ x.exponent then scaleUp significand x.exponent.toNat
  else some (scaleDown significand (-x.exponent).toNat)

def signed (negative : Bool) (x : Float) : Float := if negative then -x else x

/-- The number of a scaled value, all of whose text has been read. -/
def Scaled.number (negative : Bool) (x : Scaled) (rest : Bytes) : Except Fault (Number × Bytes) :=
  match x.toFloat? with
  | some value => .ok (.real (signed negative value), rest)
  | none => .error ⟨.numberOutOfRange, rest⟩

/-- An exponent as far as it is below `2 ^ 31`, or the rest behind the digit that goes beyond. -/
def readExponentDigits (acc : Nat) : Bytes → Except Bytes (Nat × Bytes)
  | [] => .ok (acc, [])
  | b :: rest =>
    if isDigit b then
      let next := 10 * acc + digitValue b
      if next < 0x80000000 then readExponentDigits next rest else .error rest
    else .ok (acc, b :: rest)

/-- An optional sign. -/
def readSign : Bytes → Bool × Bytes
  | [] => (false, [])
  | b :: rest =>
    if b = ascii '+' then (false, rest) else if b = ascii '-' then (true, rest)
    else (false, b :: rest)

/-- The exponent after its mark. -/
def readExponent (negative : Bool) (x : Scaled) (input : Bytes) :
    Except Fault (Number × Bytes) :=
  let (down, input) := readSign input
  match input with
  | [] => .error ⟨.endOfValue, []⟩
  | b :: rest =>
    if isDigit b then
      match readExponentDigits (digitValue b) rest with
      | .ok (power, rest) =>
        let shift : Int := if down then -power else power
        Scaled.number negative { x with exponent := x.exponent + shift } rest
      | .error rest =>
        if x.significand ≠ 0 ∧ !down then .error ⟨.numberOutOfRange, rest⟩
        else .ok (.real (signed negative 0), rest.dropWhile isDigit)
    else .error ⟨.badNumber, rest⟩

/-- The fraction after the point, and an exponent behind it. -/
def readFraction (negative : Bool) (x : Scaled) (input : Bytes) :
    Except Fault (Number × Bytes) :=
  let digits := input.takeWhile isDigit
  let rest := input.dropWhile isDigit
  if digits.isEmpty then
    if rest.isEmpty then .error ⟨.endOfValue, []⟩ else .error (.ahead .badNumber rest)
  else
    let x := x.addFraction digits
    match rest with
    | [] => x.number negative []
    | b :: more =>
      if isExponentMark b then readExponent negative x more else x.number negative rest

/-- A number without point and exponent: an integer when 64 bits hold it, and a double otherwise.
A negative zero is a double too. -/
def wholeNumber (negative : Bool) (digits rest : Bytes) : Except Fault (Number × Bytes) :=
  let n := digitsValue digits
  if !negative && n < 0x10000000000000000 then .ok (.integer n, rest)
  else if negative && 0 < n && n ≤ 0x8000000000000000 then .ok (.integer (-n), rest)
  else (Scaled.ofWhole digits).number negative rest

/-- What follows the digits before the point. -/
def readAfterWhole (negative : Bool) (digits rest : Bytes) : Except Fault (Number × Bytes) :=
  match rest with
  | [] => wholeNumber negative digits []
  | b :: more =>
    if b = ascii '.' then readFraction negative (.ofWhole digits) more
    else if isExponentMark b then readExponent negative (.ofWhole digits) more
    else wholeNumber negative digits rest

def startsWithDigit : Bytes → Bool
  | [] => false
  | b :: _ => isDigit b

/-- Read a number whose minus sign, if any, has been read. -/
def readNumber (negative : Bool) : Bytes → Except Fault (Number × Bytes)
  | [] => .error ⟨.endOfValue, []⟩
  | b :: rest =>
    if b = ascii '0' then
      if startsWithDigit rest then .error (.ahead .badNumber rest)
      else readAfterWhole negative [b] rest
    else if isDigit b then
      readAfterWhole negative (b :: rest.takeWhile isDigit) (rest.dropWhile isDigit)
    else .error ⟨.badNumber, rest⟩

/-- Skip an exponent, if there is one. -/
def skipExponent (input : Bytes) : Except Fault Bytes :=
  match input with
  | [] => .ok []
  | mark :: rest =>
    if isExponentMark mark then
      match (readSign rest).2 with
      | [] => .error ⟨.badNumber, []⟩
      | b :: rest =>
        if isDigit b then .ok (rest.dropWhile isDigit) else .error ⟨.badNumber, rest⟩
    else .ok input

/-- Skip a fraction and an exponent, if there are any. -/
def skipAfterWhole (input : Bytes) : Except Fault Bytes :=
  match input with
  | [] => .ok []
  | b :: rest =>
    if b = ascii '.' then
      if startsWithDigit rest then skipExponent (rest.dropWhile isDigit)
      else .error (.ahead .badNumber rest)
    else skipExponent input

/-- Skip a number whose minus sign, if any, has been read. -/
def skipNumber : Bytes → Except Fault Bytes
  | [] => .error ⟨.badNumber, []⟩
  | b :: rest =>
    if b = ascii '0' then
      if startsWithDigit rest then .error (.ahead .badNumber rest) else skipAfterWhole rest
    else if isDigit b then skipAfterWhole (rest.dropWhile isDigit)
    else .error ⟨.badNumber, rest⟩

theorem length_dropWhile_le (p : UInt8 → Bool) (input : Bytes) :
    (input.dropWhile p).length ≤ input.length := (List.dropWhile_sublist _).length_le

theorem readSign_le (input : Bytes) : (readSign input).2.length ≤ input.length := by
  fun_cases readSign input <;> simp

theorem Scaled.number_rest {negative : Bool} {x : Scaled} {input rest : Bytes} {n : Number}
    (h : x.number negative input = .ok (n, rest)) : rest = input := by
  unfold Scaled.number at h
  split at h <;> cases h
  rfl

theorem readExponentDigits_le {acc n : Nat} {input rest : Bytes}
    (h : readExponentDigits acc input = .ok (n, rest)) : rest.length ≤ input.length := by
  fun_induction readExponentDigits acc input <;> grind

theorem readExponentDigits_error_le {acc : Nat} {input rest : Bytes}
    (h : readExponentDigits acc input = .error rest) : rest.length ≤ input.length := by
  fun_induction readExponentDigits acc input <;> grind

theorem readExponent_le {negative : Bool} {x : Scaled} {input rest : Bytes} {n : Number}
    (h : readExponent negative x input = .ok (n, rest)) : rest.length ≤ input.length := by
  have hs := readSign_le input
  unfold readExponent at h
  split at h
  grind [→ Scaled.number_rest, → readExponentDigits_le, → readExponentDigits_error_le,
    length_dropWhile_le]

theorem readFraction_le {negative : Bool} {x : Scaled} {input rest : Bytes} {n : Number}
    (h : readFraction negative x input = .ok (n, rest)) : rest.length ≤ input.length := by
  have hd := length_dropWhile_le isDigit input
  unfold readFraction at h
  grind [→ Scaled.number_rest, → readExponent_le]

theorem wholeNumber_rest {negative : Bool} {digits input rest : Bytes} {n : Number}
    (h : wholeNumber negative digits input = .ok (n, rest)) : rest = input := by
  unfold wholeNumber at h
  grind [→ Scaled.number_rest]

theorem readAfterWhole_le {negative : Bool} {digits input rest : Bytes} {n : Number}
    (h : readAfterWhole negative digits input = .ok (n, rest)) : rest.length ≤ input.length := by
  unfold readAfterWhole at h
  grind [→ wholeNumber_rest, → readFraction_le, → readExponent_le]

theorem readNumber_lt {negative : Bool} {input rest : Bytes} {n : Number}
    (h : readNumber negative input = .ok (n, rest)) : rest.length < input.length := by
  fun_cases readNumber negative input <;>
    grind [readNumber, → readAfterWhole_le, length_dropWhile_le]

theorem skipExponent_le {input rest : Bytes} (h : skipExponent input = .ok rest) :
    rest.length ≤ input.length := by
  fun_cases skipExponent input <;> grind [skipExponent, readSign_le, length_dropWhile_le]

theorem skipAfterWhole_le {input rest : Bytes} (h : skipAfterWhole input = .ok rest) :
    rest.length ≤ input.length := by
  fun_cases skipAfterWhole input <;>
    grind [skipAfterWhole, → skipExponent_le, length_dropWhile_le]

theorem skipNumber_lt {input rest : Bytes} (h : skipNumber input = .ok rest) :
    rest.length < input.length := by
  fun_cases skipNumber input <;> grind [skipNumber, → skipAfterWhole_le, length_dropWhile_le]

end MovieCatalog.Json
