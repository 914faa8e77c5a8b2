import MovieCatalog.Text.Numeral
import MovieCatalog.Text.Split
import MovieCatalog.Uuid.Basic

/-! The accepted spellings of an identifier, and what is wrong with a text that is none. -/
namespace MovieCatalog.Uuid

/-- The identifier that 32 digits spell. -/
def ofDigits? (cs : List Char) : Option Uuid :=
  match Hex.decode? cs with
  | some bytes => if h : bytes.length = 16 then some ⟨bytes, h⟩ else none
  | none => none

/-- The identifier that five groups of digits with hyphens between them spell. -/
def ofGroups? (cs : List Char) : Option Uuid :=
  if cs[8]? = some '-' ∧ cs[13]? = some '-' ∧ cs[18]? = some '-' ∧ cs[23]? = some '-' then
    ofDigits? (cs.take 8 ++ (cs.drop 9).take 4 ++ (cs.drop 14).take 4 ++ (cs.drop 19).take 4 ++
      cs.drop 24)
  else none

/-- What stands before the groups in the form of a resource name. -/
def resourcePrefix : List Char := "urn:uuid:".toList

/-- What stands between braces or behind the name prefix, and the number of bytes before it. -/
def unwrap? : List Char → Option (List Char × Nat)
  | '{' :: rest => if rest.getLast? = some '}' then some (rest.dropLast, 1) else none
  | cs => if (cs.take 9).map Char.toLower = resourcePrefix then some (cs.drop 9, 9) else none

/-- Read one of the four spellings: digits alone, groups, groups in braces, and groups after
`urn:uuid:`. Letters count in either case. -/
def ofChars? (cs : List Char) : Option Uuid :=
  match unwrap? cs with
  | some (inner, _) => ofGroups? inner
  | none => (ofDigits? cs).or (ofGroups? cs)

def ofText? (s : String) : Option Uuid := ofChars? s.toList

/-- Why a text spells no identifier. -/
inductive Fault where
  | length (found : Nat)
  | character (found : Char) (index : Nat)
  | groupCount (found : Nat)
  | groupLength (group expected found : Nat)
  deriving DecidableEq, Repr

def Fault.message : Fault → String
  | .length found => s!"invalid length: found {Numeral.text found}"
  | .character found index => s!"invalid character: found `{found}` at {Numeral.text index}"
  | .groupCount found => s!"invalid group count: expected 5, found {Numeral.text found}"
  | .groupLength group expected found =>
    s!"invalid group length in group {Numeral.text group}: " ++
      s!"expected {Numeral.text expected}, found {Numeral.text found}"

/-- The number of bytes of five groups with their hyphens. -/
def groupsSize : Nat := 36

/-- What a fault is looked for in. `offset` is the place of the first character, and `grouped`
tells that only groups may stand there. -/
structure Core where
  chars : List Char
  offset : Nat
  grouped : Bool

/-- Take off braces or the name prefix. A text as long as the groups is taken for groups as it
stands, and groups of the right length count their places from their own start. -/
def Core.ofChars (cs : List Char) : Core :=
  if Utf8.size cs = groupsSize then ⟨cs, 0, true⟩
  else match unwrap? cs with
    | some (inner, offset) => ⟨inner, if Utf8.size inner = groupsSize then 0 else offset, true⟩
    | none => ⟨cs, 0, false⟩

/-- The first character that is neither a digit nor a hyphen, with its place in bytes. -/
def stranger (index : Nat) : List Char → Option (Char × Nat)
  | [] => none
  | c :: rest =>
    if c = '-' ∨ (Hex.value? c).isSome then stranger (index + 1) rest else some (c, index)

/-- The sizes of the groups between hyphens. -/
def groupSizes (cs : List Char) : List Nat := (split '-' cs).map List.length

/-- The first group whose size is not the expected one. -/
def oddGroup (group : Nat) : List Nat → List Nat → Option Fault
  | expected :: more, found :: sizes =>
    if expected = found then oddGroup (group + 1) more sizes
    else some (.groupLength group expected found)
  | _, _ => none

/-- What is wrong with a text that spells no identifier. The last group is said to hold all bytes
of the text but the 24 that come before it in plain groups. -/
def diagnose (cs : List Char) : Fault :=
  let size := Utf8.size cs
  if 45 < size then .length size
  else
    let core := Core.ofChars cs
    match stranger core.offset core.chars with
    | some (c, index) => .character c index
    | none =>
      let sizes := groupSizes core.chars
      if sizes.length = 1 ∧ !core.grouped then .length size
      else if sizes.length ≠ 5 then .groupCount sizes.length
      else (oddGroup 0 [8, 4, 4, 4] sizes).getD (.groupLength 4 12 (size - 24))

/-- Read an identifier, or say what is wrong. -/
def parse (s : String) : Except Fault Uuid :=
  match ofText? s with
  | some id => .ok id
  | none => .error (diagnose s.toList)

end MovieCatalog.Uuid
