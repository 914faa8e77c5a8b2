/-! Decimal numerals: the digits of a number, and bounded integers read from a text. -/
namespace MovieCatalog.Numeral

def digit (n : Nat) : Char := Char.ofNat (48 + n)

def isDigit (c : Char) : Bool := decide ('0' ≤ c ∧ c ≤ '9')

/-- The value of a digit. -/
def value (c : Char) : Nat := c.toNat - 48

/-- The digits of a number, without a leading zero. -/
def ofNat (n : Nat) : List Char :=
  if n < 10 then [digit n] else ofNat (n / 10) ++ [digit (n % 10)]

/-- A sign for negative numbers, then the digits. -/
def ofInt : Int → List Char
  | .ofNat n => ofNat n
  | .negSucc n => '-' :: ofNat (n + 1)

/-- The text of a number. -/
def text (n : Nat) : String := String.ofList (ofNat n)

/-- The text of an integer. -/
def intText (i : Int) : String := String.ofList (ofInt i)

/-- The number that digits spell. -/
def toNat (digits : List Char) : Nat := digits.foldl (fun n c => 10 * n + value c) 0

/-- Why a text is no integer of the wanted range. -/
inductive Fault where
  | empty
  | badDigit
  | tooLarge
  | tooSmall
  deriving DecidableEq, Repr

def Fault.message : Fault → String
  | .empty => "cannot parse integer from empty string"
  | .badDigit => "invalid digit found in string"
  | .tooLarge => "number too large to fit in target type"
  | .tooSmall => "number too small to fit in target type"

/-- Read digits up to a largest magnitude; the first fault from the left counts. -/
def magnitude (limit : Nat) (excess : Fault) (acc : Nat) : List Char → Except Fault Nat
  | [] => .ok acc
  | c :: rest =>
    if isDigit c then
      let acc := 10 * acc + value c
      if acc ≤ limit then magnitude limit excess acc rest else .error excess
    else .error .badDigit

/-- Read an optionally signed integer between `-2^63` and `2^63 - 1`. -/
def readInt64 : List Char → Except Fault Int
  | [] => .error .empty
  | ['+'] | ['-'] => .error .badDigit
  | '+' :: digits => (magnitude 0x7FFFFFFFFFFFFFFF .tooLarge 0 digits).map Int.ofNat
  | '-' :: digits => (magnitude 0x8000000000000000 .tooSmall 0 digits).map fun n => -Int.ofNat n
  | digits => (magnitude 0x7FFFFFFFFFFFFFFF .tooLarge 0 digits).map Int.ofNat

end MovieCatalog.Numeral
