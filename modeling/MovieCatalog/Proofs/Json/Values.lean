import MovieCatalog.Proofs.Json.Strings
import MovieCatalog.Proofs.Uuid

/-! Readers of single values take back what was written. -/
namespace MovieCatalog.Json

/-- A reader takes a value from the text of a JSON value, whatever stands behind it. -/
def Reads {α : Type} (reader : Reader α) (json : Json) (value : α) : Prop :=
  ∀ rest, NumberEnds rest → reader.read (Utf8.encode json.write ++ rest) = .ok (value, rest)

theorem narrow_toInt (value : Int32) (rest : Bytes) :
    Reader.narrow (.integer value.toInt) rest = .ok (value, rest) := by
  have hlow := value.le_toInt
  have hhigh := value.toInt_lt
  rw [Reader.narrow, if_pos ⟨hlow, hhigh⟩, Int32.ofInt_toInt]

theorem readBegun_cons {α : Type} {read : UInt8 → Bytes → Except Fault (α × Bytes)} {b : UInt8}
    (h : isBlank b = false) (rest : Bytes) : readBegun read (b :: rest) = read b rest := by
  rw [readBegun, skipBlanks_cons h]

theorem int32_read : Reader.int32.read = readBegun Reader.int32From := rfl

theorem text_read : Reader.text.read = readBegun Reader.textFrom := rfl

theorem uuid_read : Reader.uuid.read = readBegun Reader.uuidFrom := rfl

theorem nullable_read {α : Type} (reader : Reader α) :
    reader.nullable.read = reader.readNullable := rfl

theorem read_int32_ofNat {n : Nat} {rest : Bytes} (hn : n < 0x10000000000000000)
    (h : NumberEnds rest) :
    Reader.int32.read (numeralBytes n ++ rest) = Reader.narrow (.integer n) rest := by
  have hread := readNumber_ofNat h hn
  obtain ⟨b, ds, he, hb, -, -⟩ := numeralBytes_eq_cons n
  rw [he, List.cons_append] at hread ⊢
  rw [int32_read, readBegun_cons (isBlank_of_isDigit hb), Reader.int32From,
    if_neg (ne_of_isDigit hb (by decide)), if_pos hb, hread]

theorem read_int32_neg {n : Nat} {rest : Bytes} (hn : 0 < n) (hn' : n ≤ 0x8000000000000000)
    (h : NumberEnds rest) : Reader.int32.read (ascii '-' :: (numeralBytes n ++ rest)) =
      Reader.narrow (.integer (-n)) rest := by
  rw [int32_read, readBegun_cons (by decide), Reader.int32From, if_pos rfl, readNumber_neg h hn hn']

theorem reads_int32 (value : Int32) : Reads .int32 (.integer value.toInt) value := by
  intro rest h
  have hlow := value.le_toInt
  have hhigh := value.toInt_lt
  rw [← narrow_toInt value rest]
  generalize value.toInt = i at hlow hhigh ⊢
  cases i with
  | ofNat n =>
    rw [Int.ofNat_eq_natCast] at hhigh ⊢
    exact read_int32_ofNat (by omega) h
  | negSucc n =>
    rw [Int.negSucc_eq] at hlow ⊢
    exact read_int32_neg (Nat.succ_pos n) (by omega) h

theorem reads_text (s : String) : Reads .text (.text s) s := by
  intro rest _
  have h := readString_encode s.toList rest
  rw [String.ofList_toList] at h
  rw [write, encode_writeString, quoted_append, text_read, readBegun_cons (by decide),
    Reader.textFrom, if_pos rfl, h]

theorem reads_uuid (id : Uuid) : Reads .uuid (.text id.text) id := by
  intro rest _
  have h := readString_encode id.text.toList rest
  rw [String.ofList_toList] at h
  rw [write, encode_writeString, quoted_append, uuid_read, readBegun_cons (by decide),
    Reader.uuidFrom, if_pos rfl, h]
  simp only [Uuid.parse_text]

theorem reads_flag (value : Bool) : Reads .flag (.flag value) value := by
  intro rest _
  cases value with
  | true => rfl
  | false => rfl

/-- The text of a value begins with a byte that cannot be taken for a blank or for `null`. -/
def Opens (json : Json) : Prop :=
  ∃ b bytes, Utf8.encode json.write = b :: bytes ∧ isBlank b = false ∧ b ≠ ascii 'n'

theorem opens_integer (i : Int) : Opens (.integer i) := by
  cases i with
  | ofNat n =>
    obtain ⟨b, ds, he, hb, -, -⟩ := numeralBytes_eq_cons n
    exact ⟨b, ds, he, isBlank_of_isDigit hb, ne_of_isDigit hb (by decide)⟩
  | negSucc n => exact ⟨ascii '-', _, rfl, by decide, by decide⟩

theorem Reads.nullable {α : Type} {reader : Reader α} {json : Json} {value : α}
    (h : Reads reader json value) (hopens : Opens json) :
    Reads reader.nullable json (some value) := by
  intro rest hrest
  obtain ⟨b, bytes, he, hblank, hn⟩ := hopens
  have hread := h rest hrest
  rw [he, List.cons_append] at hread ⊢
  rw [nullable_read, Reader.readNullable, skipBlanks_cons hblank]
  simp only [if_neg hn, hread]

end MovieCatalog.Json
