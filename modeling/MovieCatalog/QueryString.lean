import MovieCatalog.Text.Hex
import MovieCatalog.Text.Split

/-! Query strings: pairs of names and values, in which `+` is a space and `%` leads two digits. -/
namespace MovieCatalog.QueryString

/-- Turn `%` with two digits into a byte. A `%` without them stays as it is. -/
def percentDecode : Bytes → Bytes
  | [] => []
  | [a] => [a]
  | [a, b] => [a, b]
  | a :: high :: low :: rest =>
    if a = ascii '%' then
      match Hex.ofByte? high, Hex.ofByte? low with
      | some h, some l => (16 * h + l).toUInt8 :: percentDecode rest
      | _, _ => a :: percentDecode (high :: low :: rest)
    else a :: percentDecode (high :: low :: rest)

def plusToSpace (b : UInt8) : UInt8 := if b = ascii '+' then ascii ' ' else b

/-- The text of a name or a value. -/
def decodeText (piece : Bytes) : String :=
  String.ofList (Utf8.decodeLossy (percentDecode (piece.map plusToSpace)))

/-- A piece parts at its first `=`; without one its value is empty. -/
def pair (piece : Bytes) : String × String :=
  (decodeText (piece.takeWhile (· != ascii '=')),
    decodeText (piece.dropWhile (· != ascii '=')).tail)

/-- The pairs of a query string in order. -/
def pairs (query : String) : List (String × String) :=
  ((split (ascii '&') (Utf8.ofText query)).filter (!·.isEmpty)).map pair

end MovieCatalog.QueryString
