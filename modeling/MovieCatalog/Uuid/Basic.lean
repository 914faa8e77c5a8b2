import MovieCatalog.Text.Hex

/-! Universally unique identifiers: sixteen bytes, and the one text that stands for them. -/
namespace MovieCatalog

structure Uuid where
  bytes : Bytes
  size_eq : bytes.length = 16
  deriving DecidableEq

namespace Uuid
variable (id : Uuid)

/-- The identifier whose bytes are all zero, which names nothing. -/
def nil : Uuid := ⟨List.replicate 16 0, by decide⟩

def isNil : Bool := id == nil

/-- The five groups of lower-case digits, joined by hyphens. -/
def chars : List Char :=
  Hex.encode (id.bytes.take 4) ++ '-' :: Hex.encode ((id.bytes.drop 4).take 2) ++
    '-' :: Hex.encode ((id.bytes.drop 6).take 2) ++
    '-' :: Hex.encode ((id.bytes.drop 8).take 2) ++ '-' :: Hex.encode (id.bytes.drop 10)

def text : String := String.ofList id.chars

/-- The bytes as one big-endian number. -/
def toNat : Nat := id.bytes.foldl (fun n b => 256 * n + b.toNat) 0

/-- The last `size` bytes of a number, most significant first. -/
def bigEndian : Nat → Nat → Bytes
  | 0, _ => []
  | size + 1, n => bigEndian size (n / 256) ++ [(n % 256).toUInt8]

theorem length_bigEndian (size n : Nat) : (bigEndian size n).length = size := by
  induction size generalizing n with
  | zero => rfl
  | succ size ih => simp [bigEndian, ih]

/-- The identifier with the given number, modulo `2 ^ 128`. -/
def ofNat (n : Nat) : Uuid := ⟨bigEndian 16 n, length_bigEndian 16 n⟩

/-- Identifiers are ordered by their bytes. -/
instance : LT Uuid := ⟨fun a b => a.bytes < b.bytes⟩

instance : ToString Uuid := ⟨text⟩

end Uuid
end MovieCatalog
