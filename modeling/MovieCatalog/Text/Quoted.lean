import MovieCatalog.Text.Hex
import MovieCatalog.Text.Invisible

/-! Texts as messages quote them: every character that a reader could not see is spelled out. -/
namespace MovieCatalog.Quoted

/-- A character inside the quotes. -/
def escape (c : Char) : List Char :=
  if c = '\x00' then ['\\', '0']
  else if c = '\t' then ['\\', 't']
  else if c = '\r' then ['\\', 'r']
  else if c = '\n' then ['\\', 'n']
  else if c = '"' then ['\\', '"']
  else if c = '\\' then ['\\', '\\']
  else if Invisible.isInvisible c then ['\\', 'u', '{'] ++ Hex.ofNat c.toNat ++ ['}']
  else [c]

/-- The quoted form of a text. -/
def ofText (s : String) : String :=
  String.ofList ('"' :: s.toList.flatMap escape ++ ['"'])

end MovieCatalog.Quoted
