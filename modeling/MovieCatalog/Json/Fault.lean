import MovieCatalog.Uuid.Parser
import MovieCatalog.Text.Quoted

/-! What can be wrong with a JSON document, and where. -/
namespace MovieCatalog.Json

/-- A value that stands where another type was expected. -/
inductive Found where
  | null
  | flag (value : Bool)
  | integer (value : Int)
  | real (shown : String)
  | text (value : String)
  | list
  | object
  deriving DecidableEq, Repr

def Found.message : Found → String
  | .null => "null"
  | .flag value => if value then "boolean `true`" else "boolean `false`"
  | .integer value => s!"integer `{Numeral.intText value}`"
  | .real shown => s!"floating point `{shown}`"
  | .text value => s!"string {Quoted.ofText value}"
  | .list => "sequence"
  | .object => "map"

inductive Cause where
  | endOfValue
  | endOfString
  | endOfList
  | endOfObject
  | expectedValue
  | expectedWord
  | expectedColon
  | expectedListCommaOrEnd
  | expectedObjectCommaOrEnd
  | keyNotString
  | trailingComma
  | trailingText
  | badNumber
  | numberOutOfRange
  | badEscape
  | controlCharacter
  | loneSurrogate
  | brokenPair
  | notUnicode
  | wrongType (found : Found) (expected : String)
  | wrongValue (found : Int) (expected : String)
  | duplicateField (name : String)
  | missingField (name : String)
  | shortList (length : Nat) (expected : String)
  | badUuid (fault : Uuid.Fault)
  deriving DecidableEq, Repr

def Cause.message : Cause → String
  | .endOfValue => "EOF while parsing a value"
  | .endOfString => "EOF while parsing a string"
  | .endOfList => "EOF while parsing a list"
  | .endOfObject => "EOF while parsing an object"
  | .expectedValue => "expected value"
  | .expectedWord => "expected ident"
  | .expectedColon => "expected `:`"
  | .expectedListCommaOrEnd => "expected `,` or `]`"
  | .expectedObjectCommaOrEnd => "expected `,` or `\x7d`"
  | .keyNotString => "key must be a string"
  | .trailingComma => "trailing comma"
  | .trailingText => "trailing characters"
  | .badNumber => "invalid number"
  | .numberOutOfRange => "number out of range"
  | .badEscape => "invalid escape"
  | .controlCharacter => "control character (\\u0000-\\u001F) found while parsing a string"
  | .loneSurrogate => "lone leading surrogate in hex escape"
  | .brokenPair => "unexpected end of hex escape"
  | .notUnicode => "invalid unicode code point"
  | .wrongType found expected => s!"invalid type: {found.message}, expected {expected}"
  | .wrongValue found expected =>
    s!"invalid value: integer `{Numeral.intText found}`, expected {expected}"
  | .duplicateField name => s!"duplicate field `{name}`"
  | .missingField name => s!"missing field `{name}`"
  | .shortList length expected =>
    s!"invalid length {Numeral.text length}, expected {expected}"
  | .badUuid fault => s!"UUID parsing failed: {fault.message}"

/-- A cause, and the bytes that were still unread when it arose. -/
structure Fault where
  cause : Cause
  rest : Bytes
  deriving DecidableEq, Repr

/-- A fault raised at the next unread byte counts that byte as read. -/
def Fault.ahead (cause : Cause) (rest : Bytes) : Fault := ⟨cause, rest.tail⟩

/-- A cause with its line, counted from 1, and the number of bytes read on that line. -/
structure Error where
  cause : Cause
  line : Nat
  column : Nat
  deriving DecidableEq, Repr

def Error.message (e : Error) : String :=
  s!"{e.cause.message} at line {Numeral.text e.line} column {Numeral.text e.column}"

/-- Line and column after one more byte. -/
def advance (place : Nat × Nat) (b : UInt8) : Nat × Nat :=
  if b = ascii '\n' then (place.1 + 1, 0) else (place.1, place.2 + 1)

/-- Line and column after the bytes read so far. -/
def position (consumed : Bytes) : Nat × Nat := consumed.foldl advance (1, 0)

/-- The fault as an error about the whole input. -/
def Fault.within (fault : Fault) (input : Bytes) : Error :=
  let (line, column) := position (input.take (input.length - fault.rest.length))
  ⟨fault.cause, line, column⟩

end MovieCatalog.Json
