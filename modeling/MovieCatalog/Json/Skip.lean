import MovieCatalog.Json.Number

/-! Values that nobody keeps: they are checked for form, at any depth, and passed over. -/
namespace MovieCatalog.Json

/-- The kind of an open bracket. -/
inductive Bracket where
  | list
  | object
  deriving DecidableEq, Repr

def Bracket.closing : Bracket → UInt8
  | .list => ascii ']'
  | .object => ascii '\x7d'

def Bracket.ofOpening? (b : UInt8) : Option Bracket :=
  if b = ascii '[' then some .list else if b = ascii '\x7b' then some .object else none

def Bracket.endCause : Bracket → Cause
  | .list => .endOfList
  | .object => .endOfObject

def Bracket.separatorCause : Bracket → Cause
  | .list => .expectedListCommaOrEnd
  | .object => .expectedObjectCommaOrEnd

/-- What comes next inside brackets: a value, the first item or the end, an item for certain, or a
comma or the end. -/
inductive Phase where
  | value
  | first
  | item
  | next
  deriving DecidableEq, Repr

def Phase.rank : Phase → Nat
  | .value | .next => 0
  | .item => 1
  | .first => 2

/-- Skip a word, a number or a string that begins with the byte `b`. -/
def skipScalar (b : UInt8) (rest : Bytes) : Except Fault Bytes :=
  if b = ascii 'n' then readWord "ull".toList rest
  else if b = ascii 't' then readWord "rue".toList rest
  else if b = ascii 'f' then readWord "alse".toList rest
  else if b = ascii '-' then skipNumber rest
  else if isDigit b then skipNumber (b :: rest)
  else if b = ascii '"' then skipString rest
  else .error (.ahead .expectedValue (b :: rest))

/-- Skip a key and its colon. -/
def skipKey (input : Bytes) : Except Fault Bytes :=
  match skipBlanks input with
  | [] => .error ⟨.endOfObject, []⟩
  | b :: rest =>
    if b = ascii '"' then
      match skipString rest with
      | .error fault => .error fault
      | .ok rest =>
        match skipBlanks rest with
        | [] => .error ⟨.endOfObject, []⟩
        | c :: rest =>
          if c = ascii ':' then .ok rest else .error (.ahead .expectedColon (c :: rest))
    else .error (.ahead .keyNotString (b :: rest))

theorem skipBlanks_lt {input rest : Bytes} {b : UInt8} (h : skipBlanks input = b :: rest) :
    rest.length < input.length := by
  have := length_skipBlanks_le input
  rw [h] at this
  exact this

theorem skipBlanks_le {input rest : Bytes} {b : UInt8} (h : skipBlanks input = b :: rest) :
    (b :: rest).length ≤ input.length := skipBlanks_lt h

theorem skipScalar_le {b : UInt8} {input rest : Bytes} (h : skipScalar b input = .ok rest) :
    rest.length ≤ input.length := by
  unfold skipScalar at h
  grind [→ readWord_le, → skipNumber_lt, → skipString_lt]

theorem skipKey_le {input rest : Bytes} (h : skipKey input = .ok rest) :
    rest.length ≤ input.length := by
  unfold skipKey at h
  grind [→ skipBlanks_lt, → skipString_lt]

/-- Skip what is left of a value inside the brackets that are `opened`, the innermost first. -/
def skipFrom (phase : Phase) (opened : List Bracket) (input : Bytes) : Except Fault Bytes :=
  match phase, opened with
  | .value, opened =>
    match _ : skipBlanks input with
    | [] => .error ⟨.endOfValue, []⟩
    | b :: rest =>
      match Bracket.ofOpening? b with
      | some kind => skipFrom .first (kind :: opened) rest
      | none =>
        match _ : skipScalar b rest with
        | .error fault => .error fault
        | .ok rest => skipFrom .next opened rest
  | .first, [] | .next, [] => .ok input
  | .first, kind :: outer =>
    match _ : skipBlanks input with
    | [] => .error ⟨kind.endCause, []⟩
    | b :: rest =>
      if b = kind.closing then skipFrom .next outer rest
      else skipFrom .item (kind :: outer) (b :: rest)
  | .next, kind :: outer =>
    match _ : skipBlanks input with
    | [] => .error ⟨kind.endCause, []⟩
    | b :: rest =>
      if b = ascii ',' then skipFrom .item (kind :: outer) rest
      else if b = kind.closing then skipFrom .next outer rest
      else .error (.ahead kind.separatorCause (b :: rest))
  | .item, .object :: outer =>
    match _ : skipKey input with
    | .error fault => .error fault
    | .ok rest => skipFrom .value (.object :: outer) rest
  | .item, opened => skipFrom .value opened input
termination_by (input.length, phase.rank)
decreasing_by
  · exact Prod.Lex.left _ _ (skipBlanks_lt ‹_›)
  · exact Prod.Lex.left _ _ (Nat.lt_of_le_of_lt (skipScalar_le ‹_›) (skipBlanks_lt ‹_›))
  · exact Prod.Lex.left _ _ (skipBlanks_lt ‹_›)
  · have := skipBlanks_le ‹_›
    simp only [Phase.rank, Prod.lex_def]
    omega
  · exact Prod.Lex.left _ _ (skipBlanks_lt ‹_›)
  · exact Prod.Lex.left _ _ (skipBlanks_lt ‹_›)
  · have := skipKey_le ‹_›
    simp only [Phase.rank, Prod.lex_def]
    omega
  · exact Prod.Lex.right _ (by decide)

/-- Skip one value. -/
def skipValue (input : Bytes) : Except Fault Bytes := skipFrom .value [] input

theorem skipFrom_le {phase : Phase} {opened : List Bracket} {input rest : Bytes}
    (h : skipFrom phase opened input = .ok rest) : rest.length ≤ input.length := by
  fun_induction skipFrom phase opened input <;>
    grind [→ skipBlanks_lt, → skipScalar_le, → skipKey_le, length_skipBlanks_le]

theorem skipValue_le {input rest : Bytes} (h : skipValue input = .ok rest) :
    rest.length ≤ input.length := skipFrom_le h

end MovieCatalog.Json
