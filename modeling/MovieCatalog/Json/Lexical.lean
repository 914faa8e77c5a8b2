import MovieCatalog.Json.Fault

/-! Blanks, words and strings of JSON, read from bytes. -/
namespace MovieCatalog.Json

def isBlank (b : UInt8) : Bool :=
  b == ascii ' ' || b == ascii '\t' || b == ascii '\n' || b == ascii '\r'

def skipBlanks (input : Bytes) : Bytes := input.dropWhile isBlank

/-- Read the letters of a word, or stop after the first byte that is not the expected one. -/
def readWord : List Char → Bytes → Except Fault Bytes
  | [], rest => .ok rest
  | _ :: _, [] => .error ⟨.endOfValue, []⟩
  | c :: cs, b :: rest => if b = ascii c then readWord cs rest else .error ⟨.expectedWord, rest⟩

/-- Where a reader stands inside a string. A code unit of four digits may be the first half of a
pair, whose second half must follow at once as another escape. -/
inductive StringState where
  | plain
  | escape
  | unit (digits : Bytes)
  | halfway (high : Nat)
  | halfwayEscape (high : Nat)
  | halfwayUnit (high : Nat) (digits : Bytes)
  deriving DecidableEq, Repr

/-- The character that an escape letter stands for. -/
def escaped? (b : UInt8) : Option Char :=
  if b = ascii '"' then some '"'
  else if b = ascii '\\' then some '\\'
  else if b = ascii '/' then some '/'
  else if b = ascii 'b' then some '\x08'
  else if b = ascii 'f' then some '\x0c'
  else if b = ascii 'n' then some '\n'
  else if b = ascii 'r' then some '\r'
  else if b = ascii 't' then some '\t'
  else none

def isHighHalf (n : Nat) : Bool := 0xD800 ≤ n && n ≤ 0xDBFF

def isLowHalf (n : Nat) : Bool := 0xDC00 ≤ n && n ≤ 0xDFFF

/-- The character of a pair of halves. -/
def joinHalves (high low : Nat) : Char :=
  Char.ofNat ((high - 0xD800) * 0x400 + (low - 0xDC00) + 0x10000)

/-- What one byte of a string does: it ends the string, or it leads to a state and adds bytes. -/
inductive StringStep where
  | done
  | more (state : StringState) (added : Bytes)

/-- One byte of a string. -/
def stringStep : StringState → UInt8 → Except Cause StringStep
  | .plain, b =>
    if b = ascii '"' then .ok .done
    else if b = ascii '\\' then .ok (.more .escape [])
    else if b < 0x20 then .error .controlCharacter
    else .ok (.more .plain [b])
  | .escape, b =>
    if b = ascii 'u' then .ok (.more (.unit []) [])
    else match escaped? b with
      | some c => .ok (.more .plain (Utf8.encodeChar c))
      | none => .error .badEscape
  | .unit digits, b =>
    if digits.length < 3 then .ok (.more (.unit (digits ++ [b])) [])
    else match Hex.number? (digits ++ [b]) with
      | none => .error .badEscape
      | some n =>
        if isLowHalf n then .error .loneSurrogate
        else if isHighHalf n then .ok (.more (.halfway n) [])
        else .ok (.more .plain (Utf8.encodeChar (Char.ofNat n)))
  | .halfway high, b =>
    if b = ascii '\\' then .ok (.more (.halfwayEscape high) []) else .error .brokenPair
  | .halfwayEscape high, b =>
    if b = ascii 'u' then .ok (.more (.halfwayUnit high []) []) else .error .brokenPair
  | .halfwayUnit high digits, b =>
    if digits.length < 3 then .ok (.more (.halfwayUnit high (digits ++ [b])) [])
    else match Hex.number? (digits ++ [b]) with
      | none => .error .badEscape
      | some n =>
        if isLowHalf n then .ok (.more .plain (Utf8.encodeChar (joinHalves high n)))
        else .error .loneSurrogate

/-- Read the bytes of a string up to its closing quote; `seen` holds those so far, the last one
first. -/
def readStringFrom (state : StringState) (seen : Bytes) : Bytes → Except Fault (Bytes × Bytes)
  | [] => .error ⟨.endOfString, []⟩
  | b :: rest =>
    match stringStep state b with
    | .error cause => .error ⟨cause, rest⟩
    | .ok (.more state added) => readStringFrom state (added.reverse ++ seen) rest
    | .ok .done => .ok (seen.reverse, rest)

/-- The end of an input, of a given length. -/
def ending (length : Nat) (input : Bytes) : Bytes := input.drop (input.length - length)

/-- Read a string whose opening quote has been read. That its bytes spell a text is checked once
the closing quote is found. The place of a malformed byte is counted back from that quote, over the
bytes that the escapes stand for. -/
def readString (input : Bytes) : Except Fault (String × Bytes) :=
  match readStringFrom .plain [] input with
  | .error fault => .error fault
  | .ok (bytes, rest) =>
    match Utf8.decode? bytes with
    | some cs => .ok (String.ofList cs, rest)
    | none => .error ⟨.notUnicode, ending ((Utf8.malformed bytes).length + rest.length) input⟩

/-- Where a reader stands inside a string that nobody keeps. -/
inductive SkipState where
  | plain
  | escape
  | unit (digits : Bytes)
  deriving DecidableEq, Repr

/-- Skip a string up to its closing quote. Its escapes are checked for form alone, and its bytes
need not spell a text. -/
def skipStringFrom (state : SkipState) : Bytes → Except Fault Bytes
  | [] => .error ⟨.endOfString, []⟩
  | b :: rest =>
    match state with
    | .plain =>
      if b = ascii '"' then .ok rest
      else if b = ascii '\\' then skipStringFrom .escape rest
      else if b < 0x20 then .error ⟨.controlCharacter, b :: rest⟩
      else skipStringFrom .plain rest
    | .escape =>
      if b = ascii 'u' then skipStringFrom (.unit []) rest
      else match escaped? b with
        | some _ => skipStringFrom .plain rest
        | none => .error ⟨.badEscape, rest⟩
    | .unit digits =>
      if digits.length < 3 then skipStringFrom (.unit (digits ++ [b])) rest
      else match Hex.number? (digits ++ [b]) with
        | some _ => skipStringFrom .plain rest
        | none => .error ⟨.badEscape, rest⟩

/-- Skip a string whose opening quote has been read. -/
def skipString (input : Bytes) : Except Fault Bytes := skipStringFrom .plain input

theorem readStringFrom_lt {state : StringState} {seen bytes input rest : Bytes}
    (h : readStringFrom state seen input = .ok (bytes, rest)) : rest.length < input.length := by
  induction input generalizing state seen with
  | nil => simp [readStringFrom] at h
  | cons b more ih =>
    rw [readStringFrom] at h
    split at h
    · cases h
    · exact Nat.lt_succ_of_lt (ih h)
    · cases h; exact Nat.lt_succ_self _

theorem readString_lt {input rest : Bytes} {s : String} (h : readString input = .ok (s, rest)) :
    rest.length < input.length := by
  unfold readString at h
  grind [→ readStringFrom_lt]

theorem skipStringFrom_lt {state : SkipState} {input rest : Bytes}
    (h : skipStringFrom state input = .ok rest) : rest.length < input.length := by
  fun_induction skipStringFrom state input <;> grind

theorem skipString_lt {input rest : Bytes} (h : skipString input = .ok rest) :
    rest.length < input.length := skipStringFrom_lt h

theorem length_skipBlanks_le (input : Bytes) : (skipBlanks input).length ≤ input.length :=
  (List.dropWhile_sublist _).length_le

theorem readWord_le {word : List Char} {input rest : Bytes} (h : readWord word input = .ok rest) :
    rest.length ≤ input.length := by
  induction word generalizing input with
  | nil => simp [readWord] at h; simp [h]
  | cons c cs ih =>
    cases input with
    | nil => simp [readWord] at h
    | cons b more =>
      rw [readWord] at h
      split at h
      · exact Nat.le_succ_of_le (ih h)
      · cases h

end MovieCatalog.Json
