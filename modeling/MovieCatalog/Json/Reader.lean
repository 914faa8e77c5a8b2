import MovieCatalog.Json.Skip

/-! Readers of single values. Each consumes at least one byte when it succeeds. -/
namespace MovieCatalog.Json

structure Reader (α : Type) where
  read : Bytes → Except Fault (α × Bytes)
  read_lt : ∀ {input value rest}, read input = .ok (value, rest) → rest.length < input.length

/-- The value that begins with the byte `b`. Lists and objects are not read on. -/
def readFound (b : UInt8) (rest : Bytes) : Except Fault (Found × Bytes) :=
  if b = ascii 'n' then (readWord "ull".toList rest).map fun rest => (.null, rest)
  else if b = ascii 't' then (readWord "rue".toList rest).map fun rest => (.flag true, rest)
  else if b = ascii 'f' then (readWord "alse".toList rest).map fun rest => (.flag false, rest)
  else if b = ascii '-' then (readNumber true rest).map fun (n, rest) => (n.found, rest)
  else if isDigit b then (readNumber false (b :: rest)).map fun (n, rest) => (n.found, rest)
  else if b = ascii '"' then (readString rest).map fun (s, rest) => (.text s, rest)
  else if b = ascii '[' then .ok (.list, b :: rest)
  else if b = ascii '\x7b' then .ok (.object, b :: rest)
  else .error (.ahead .expectedValue (b :: rest))

/-- The fault of a value of the wrong type, or of a value that is malformed itself. -/
def wrongType (expected : String) (b : UInt8) (rest : Bytes) : Fault :=
  match readFound b rest with
  | .ok (found, rest) => ⟨.wrongType found expected, rest⟩
  | .error fault => fault

/-- Read a value from its first byte on. -/
def readBegun {α : Type} (read : UInt8 → Bytes → Except Fault (α × Bytes)) (input : Bytes) :
    Except Fault (α × Bytes) :=
  match skipBlanks input with
  | [] => .error ⟨.endOfValue, []⟩
  | b :: rest => read b rest

theorem readBegun_lt {α : Type} {read : UInt8 → Bytes → Except Fault (α × Bytes)}
    (hread : ∀ {b more value rest}, read b more = .ok (value, rest) → rest.length ≤ more.length)
    {input rest : Bytes} {value : α} (h : readBegun read input = .ok (value, rest)) :
    rest.length < input.length := by
  unfold readBegun at h
  split at h
  · cases h
  · exact Nat.lt_of_le_of_lt (hread h) (skipBlanks_lt ‹_›)

namespace Reader
variable {α : Type}

def textFrom (b : UInt8) (rest : Bytes) : Except Fault (String × Bytes) :=
  if b = ascii '"' then readString rest else .error (wrongType "a string" b rest)

theorem textFrom_le {b : UInt8} {input rest : Bytes} {s : String}
    (h : textFrom b input = .ok (s, rest)) : rest.length ≤ input.length := by
  unfold textFrom at h
  grind [→ readString_lt]

def text : Reader String := ⟨readBegun textFrom, readBegun_lt textFrom_le⟩

def uuidFrom (b : UInt8) (rest : Bytes) : Except Fault (Uuid × Bytes) :=
  if b = ascii '"' then
    match readString rest with
    | .error fault => .error fault
    | .ok (s, rest) =>
      match Uuid.parse s with
      | .ok id => .ok (id, rest)
      | .error fault => .error ⟨.badUuid fault, rest⟩
  else .error (wrongType "a formatted UUID string" b rest)

theorem uuidFrom_le {b : UInt8} {input rest : Bytes} {id : Uuid}
    (h : uuidFrom b input = .ok (id, rest)) : rest.length ≤ input.length := by
  unfold uuidFrom at h
  grind [→ readString_lt]

def uuid : Reader Uuid := ⟨readBegun uuidFrom, readBegun_lt uuidFrom_le⟩

def flagFrom (b : UInt8) (rest : Bytes) : Except Fault (Bool × Bytes) :=
  if b = ascii 't' then
    match readWord "rue".toList rest with
    | .ok rest => .ok (true, rest)
    | .error fault => .error fault
  else if b = ascii 'f' then
    match readWord "alse".toList rest with
    | .ok rest => .ok (false, rest)
    | .error fault => .error fault
  else .error (wrongType "a boolean" b rest)

theorem flagFrom_le {b : UInt8} {input rest : Bytes} {value : Bool}
    (h : flagFrom b input = .ok (value, rest)) : rest.length ≤ input.length := by
  unfold flagFrom at h
  grind [→ readWord_le]

def flag : Reader Bool := ⟨readBegun flagFrom, readBegun_lt flagFrom_le⟩

/-- A number as an integer of 32 bits. -/
def narrow (number : Number) (rest : Bytes) : Except Fault (Int32 × Bytes) :=
  match number with
  | .integer value =>
    if -0x80000000 ≤ value ∧ value < 0x80000000 then .ok (Int32.ofInt value, rest)
    else .error ⟨.wrongValue value "i32", rest⟩
  | .real value => .error ⟨.wrongType (Number.real value).found "i32", rest⟩

theorem narrow_rest {number : Number} {input rest : Bytes} {value : Int32}
    (h : narrow number input = .ok (value, rest)) : rest = input := by
  unfold narrow at h
  grind

def int32From (b : UInt8) (rest : Bytes) : Except Fault (Int32 × Bytes) :=
  if b = ascii '-' then
    match readNumber true rest with
    | .ok (number, rest) => narrow number rest
    | .error fault => .error fault
  else if isDigit b then
    match readNumber false (b :: rest) with
    | .ok (number, rest) => narrow number rest
    | .error fault => .error fault
  else .error (wrongType "i32" b rest)

theorem int32From_le {b : UInt8} {input rest : Bytes} {value : Int32}
    (h : int32From b input = .ok (value, rest)) : rest.length ≤ input.length := by
  unfold int32From at h
  grind [→ readNumber_lt, → narrow_rest]

def int32 : Reader Int32 := ⟨readBegun int32From, readBegun_lt int32From_le⟩

def readNullable (reader : Reader α) (input : Bytes) : Except Fault (Option α × Bytes) :=
  match skipBlanks input with
  | [] => .error ⟨.endOfValue, []⟩
  | b :: rest =>
    if b = ascii 'n' then
      match readWord "ull".toList rest with
      | .ok rest => .ok (none, rest)
      | .error fault => .error fault
    else
      match reader.read input with
      | .ok (value, rest) => .ok (some value, rest)
      | .error fault => .error fault

theorem readNullable_lt {reader : Reader α} {input rest : Bytes} {value : Option α}
    (h : readNullable reader input = .ok (value, rest)) : rest.length < input.length := by
  have := @reader.read_lt
  unfold readNullable at h
  grind [→ skipBlanks_lt, → readWord_le]

/-- A value that may be `null`. -/
def nullable (reader : Reader α) : Reader (Option α) := ⟨readNullable reader, readNullable_lt⟩

def map {β : Type} (f : α → β) (reader : Reader α) : Reader β where
  read input := match reader.read input with
    | .ok (value, rest) => .ok (f value, rest)
    | .error fault => .error fault
  read_lt h := by
    have := @reader.read_lt
    grind

end Reader
end MovieCatalog.Json
