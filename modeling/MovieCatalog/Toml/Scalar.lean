import MovieCatalog.Text.Numeral
import MovieCatalog.Toml.Lexical

/-! Numbers, flags, dates and times of TOML documents. Each is one word, except that a blank may
part a date from a time. -/
namespace MovieCatalog.Toml

/-- A value. Texts and integers are kept; others only have to be well-formed. -/
inductive Value where
  | text (value : String)
  | integer (value : Int)
  | other
  deriving DecidableEq, Repr

/-- A digit of a number system. -/
def isDigitOf (base : Nat) (c : Char) : Bool := (Hex.value? c).any (· < base)

/-- The digits of a word in which single underscores may stand between digits. -/
def digits? (base : Nat) : List Char → Option (List Char)
  | [] => none
  | [c] => if isDigitOf base c then some [c] else none
  | c :: '_' :: rest => if isDigitOf base c then (digits? base rest).map (c :: ·) else none
  | c :: rest => if isDigitOf base c then (digits? base rest).map (c :: ·) else none

def digitsValue (base : Nat) (digits : List Char) : Nat :=
  digits.foldl (fun n c => base * n + (Hex.value? c).getD 0) 0

/-- Decimal digits without a leading zero. -/
def wholeDigits? (word : List Char) : Option (List Char) :=
  (digits? 10 word).filter fun digits => digits.head? != some '0' || digits.length == 1

/-- Whether a word begins with a minus sign, and the word without its sign. -/
def sign : List Char → Bool × List Char
  | '-' :: rest => (true, rest)
  | '+' :: rest => (false, rest)
  | word => (false, word)

/-- The digits of a word in another number system, which takes no sign. -/
def unsigned? (base : Nat) (word : List Char) : Option Int :=
  (digits? base word).map fun digits => Int.ofNat (digitsValue base digits)

def decimal? (word : List Char) : Option Int :=
  let (negative, word) := sign word
  (wholeDigits? word).map fun digits =>
    let n := Int.ofNat (digitsValue 10 digits)
    if negative then -n else n

/-- The integer that a word spells, if 64 bits hold it. -/
def integer? (word : List Char) : Option Int :=
  let value := match word with
    | '0' :: 'x' :: digits => unsigned? 16 digits
    | '0' :: 'o' :: digits => unsigned? 8 digits
    | '0' :: 'b' :: digits => unsigned? 2 digits
    | word => decimal? word
  value.filter fun n => -0x8000000000000000 ≤ n && n < 0x8000000000000000

/-- Whether `significand * 10 ^ exponent` lies below the numbers that no double is nearest to. -/
def isDouble (significand : Nat) (exponent : Int) : Bool :=
  let size := (Numeral.ofNat significand).length + exponent
  let bound := Nat.pow 2 1024 - Nat.pow 2 970
  if significand = 0 ∨ size < 300 then true
  else if 310 < size then false
  else significand * Nat.pow 10 exponent.toNat < bound * Nat.pow 10 (-exponent).toNat

/-- The exponent behind its mark. -/
def exponent? (word : List Char) : Option Int :=
  let (negative, word) := sign word
  (digits? 10 word).map fun digits =>
    let n := Int.ofNat (digitsValue 10 digits)
    if negative then -n else n

/-- Split a word before its first character of a kind. -/
def splitAt? (isMark : Char → Bool) (word : List Char) : List Char × Option (List Char) :=
  match word.dropWhile (!isMark ·) with
  | [] => (word, none)
  | _ :: rest => (word.takeWhile (!isMark ·), some rest)

/-- Whether a word spells a number with a fraction or an exponent, or one of the special ones. A
positive number must not be too large for a double. -/
def isReal (word : List Char) : Bool :=
  let (negative, word) := sign word
  let (mantissa, exponent) := splitAt? (fun c => c == 'e' || c == 'E') word
  let (whole, fraction) := splitAt? (· == '.') mantissa
  if word = "inf".toList ∨ word = "nan".toList then true
  else if exponent.isNone && fraction.isNone then false
  else
    match wholeDigits? whole, fraction.mapM (digits? 10), exponent.mapM exponent? with
    | some whole, some fraction, some exponent =>
      let fraction := fraction.getD []
      negative ||
        isDouble (digitsValue 10 (whole ++ fraction)) (exponent.getD 0 - fraction.length)
    | _, _, _ => false

/-- Two decimal digits with a value between bounds. -/
def isPair (low high : Nat) (a b : Char) : Bool :=
  Numeral.isDigit a && Numeral.isDigit b && low ≤ Numeral.toNat [a, b] &&
    Numeral.toNat [a, b] ≤ high

def isLeapYear (year : Nat) : Bool := year % 4 == 0 && (year % 100 != 0 || year % 400 == 0)

def daysIn (year month : Nat) : Nat :=
  if month = 2 then if isLeapYear year then 29 else 28
  else if month = 4 ∨ month = 6 ∨ month = 9 ∨ month = 11 then 30
  else 31

def isDate : List Char → Bool
  | [y₁, y₂, y₃, y₄, '-', m₁, m₂, '-', d₁, d₂] =>
    [y₁, y₂, y₃, y₄].all Numeral.isDigit && isPair 1 12 m₁ m₂ &&
      isPair 1 (daysIn (Numeral.toNat [y₁, y₂, y₃, y₄]) (Numeral.toNat [m₁, m₂])) d₁ d₂
  | _ => false

/-- What follows a time of day at the start of a word. -/
def afterTime? : List Char → Option (List Char)
  | h₁ :: h₂ :: ':' :: m₁ :: m₂ :: ':' :: s₁ :: s₂ :: rest =>
    if isPair 0 23 h₁ h₂ && isPair 0 59 m₁ m₂ && isPair 0 60 s₁ s₂ then
      match rest with
      | '.' :: c :: rest =>
        if Numeral.isDigit c then some (rest.dropWhile Numeral.isDigit) else none
      | rest => some rest
    else none
  | _ => none

/-- A distance from universal time, which may be left out. -/
def isOffset : List Char → Bool
  | [] | ['Z'] | ['z'] => true
  | [c, h₁, h₂, ':', m₁, m₂] =>
    (c == '+' || c == '-') && isPair 0 23 h₁ h₂ && isPair 0 59 m₁ m₂
  | _ => false

/-- A time of day that may have an offset. -/
def isTime (word : List Char) : Bool := (afterTime? word).any isOffset

def isMoment (word : List Char) : Bool :=
  isDate word || afterTime? word == some [] ||
    (isDate (word.take 10) && (word[10]? == some 'T' || word[10]? == some 't') &&
      isTime (word.drop 11))

/-- The value that a word stands for. -/
def scalar? (word : List Char) : Option Value :=
  match integer? word with
  | some n => some (.integer n)
  | none =>
    if word = "true".toList ∨ word = "false".toList ∨ isReal word ∨ isMoment word then
      some .other
    else none

/-- Whether a character ends a word. -/
def endsWord (c : Char) : Bool :=
  isBlank c || c == '\n' || c == '#' || c == ',' || c == ']' || c == '\x7d'

/-- Read a value that is one word, or a date and a time with a space between them. -/
def readScalar (input : List Char) : Read Value :=
  let word := input.takeWhile (!endsWord ·)
  let rest := input.dropWhile (!endsWord ·)
  match scalar? word with
  | none => none
  | some value =>
    match rest with
    | ' ' :: more =>
      if isDate word && isTime (more.takeWhile (!endsWord ·)) then
        some (value, more.dropWhile (!endsWord ·))
      else some (value, rest)
    | rest => some (value, rest)

end MovieCatalog.Toml
