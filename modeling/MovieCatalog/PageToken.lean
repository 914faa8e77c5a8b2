import MovieCatalog.Base64
import MovieCatalog.Uuid.Basic

/-! Page tokens: the four letters `PLAN` and the bytes of the last plan listed, in base 64. A token
carries no filter. -/
namespace MovieCatalog.PageToken

/-- The bytes of `PLAN`. -/
def mark : Bytes := [0x50, 0x4C, 0x41, 0x4E]

/-- The token that resumes after a plan. -/
def encode (last : Uuid) : String := String.ofList (Base64.encode (mark ++ last.bytes))

/-- The plan a token resumes after. -/
def decode? (token : String) : Option Uuid :=
  match Base64.decode? token.toList with
  | some bytes =>
    if bytes.take 4 = mark then
      if h : (bytes.drop 4).length = 16 then some ⟨bytes.drop 4, h⟩ else none
    else none
  | none => none

end MovieCatalog.PageToken
