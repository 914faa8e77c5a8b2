import MovieCatalog.Text.Hex
import MovieCatalog.Text.Numeral

/-! JSON values and their compact text. -/
namespace MovieCatalog

inductive Json where
  | null
  | flag (value : Bool)
  | integer (value : Int)
  | text (value : String)
  | list (items : List Json)
  | object (members : List (String × Json))

namespace Json

/-- A character inside a string. Only the quote, the backslash and the controls below U+0020 are
escaped. -/
def escape (c : Char) : List Char :=
  if c = '"' then ['\\', '"']
  else if c = '\\' then ['\\', '\\']
  else if c = '\x08' then ['\\', 'b']
  else if c = '\x0c' then ['\\', 'f']
  else if c = '\n' then ['\\', 'n']
  else if c = '\r' then ['\\', 'r']
  else if c = '\t' then ['\\', 't']
  else if c.toNat < 0x20 then
    ['\\', 'u', '0', '0', Hex.digit (c.toNat / 16), Hex.digit (c.toNat % 16)]
  else [c]

/-- A string with its quotes. -/
def writeString (cs : List Char) : List Char := '"' :: cs.flatMap escape ++ ['"']

mutual

/-- The compact text of a value. -/
def write : Json → List Char
  | .null => "null".toList
  | .flag value => if value then "true".toList else "false".toList
  | .integer value => Numeral.ofInt value
  | .text value => writeString value.toList
  | .list items => '[' :: writeItems items ++ [']']
  | .object members => '\x7b' :: writeMembers members ++ ['\x7d']

def writeItems : List Json → List Char
  | [] => []
  | [item] => write item
  | item :: next :: items => write item ++ ',' :: writeItems (next :: items)

def writeMembers : List (String × Json) → List Char
  | [] => []
  | [(name, value)] => writeString name.toList ++ ':' :: write value
  | (name, value) :: next :: members =>
    writeString name.toList ++ ':' :: write value ++ ',' :: writeMembers (next :: members)

end

/-- The text of a value. -/
def render (value : Json) : String := String.ofList value.write

/-- A member that is left out when there is nothing to write. -/
def member? {α : Type} (name : String) (toJson : α → Json) : Option α → List (String × Json)
  | none => []
  | some value => [(name, toJson value)]

end Json
end MovieCatalog
