import MovieCatalog.Field
import MovieCatalog.Json.Reader

/-! Records: objects with known members in any order, or lists of the same values in a fixed
order. Members that no column names are skipped. -/
namespace MovieCatalog.Json

/-- A known member: how its value is read, and what stands in when it is missing. -/
structure Column where
  name : String
  Cell : Type
  reader : Reader Cell
  absent : Option Cell

namespace Column
variable {α : Type}

/-- A member that must be there. -/
abbrev required (name : String) (reader : Reader α) : Column := ⟨name, α, reader, none⟩

/-- A member that may be missing or `null`. -/
abbrev optional (name : String) (reader : Reader α) : Column :=
  ⟨name, Option α, reader.nullable, some none⟩

/-- A member that may be missing. -/
abbrev defaulted (name : String) (reader : Reader α) (value : α) : Column :=
  ⟨name, α, reader, some value⟩

/-- A member that keeps apart whether it was missing, `null` or a value. -/
abbrev field (name : String) (reader : Reader α) : Column :=
  ⟨name, Field α, reader.nullable.map .ofOption, some .absent⟩

end Column

/-- A value for each column. -/
def Row : List Column → Type
  | [] => Unit
  | column :: columns => column.Cell × Row columns

/-- The values read so far. -/
def Cells : List Column → Type
  | [] => Unit
  | column :: columns => Option column.Cell × Cells columns

namespace Cells

def empty : (columns : List Column) → Cells columns
  | [] => ()
  | _ :: columns => (none, empty columns)

/-- The row of a record that has ended, or the name of the first member it lacks. -/
def complete : (columns : List Column) → Cells columns → Except String (Row columns)
  | [], () => .ok ()
  | column :: columns, (cell, cells) =>
    match cell.or column.absent with
    | none => .error column.name
    | some value =>
      match complete columns cells with
      | .ok row => .ok (value, row)
      | .error name => .error name

end Cells

/-- Read the colon after a key. -/
def readColon (input : Bytes) : Except Fault Bytes :=
  match skipBlanks input with
  | [] => .error ⟨.endOfObject, []⟩
  | b :: rest =>
    if b = ascii ':' then .ok rest else .error (.ahead .expectedColon (b :: rest))

/-- Where a record that cannot be completed is given up: behind its end, if that comes next. -/
def abandon (input : Bytes) : Bytes :=
  match skipBlanks input with
  | [] => []
  | b :: rest => if b = ascii '\x7d' then rest else b :: rest

/-- Read the value of a member into its column. A second value for a column is a fault, and a
member without a column is skipped. -/
def readMember : (columns : List Column) → Cells columns → String → Bytes →
    Except Fault (Cells columns × Bytes)
  | [], (), _, input =>
    match readColon input with
    | .error fault => .error fault
    | .ok rest =>
      match skipValue rest with
      | .error fault => .error fault
      | .ok rest => .ok ((), rest)
  | column :: columns, (cell, cells), key, input =>
    if key = column.name then
      match cell with
      | some _ => .error ⟨.duplicateField key, abandon input⟩
      | none =>
        match readColon input with
        | .error fault => .error fault
        | .ok rest =>
          match column.reader.read rest with
          | .error fault => .error fault
          | .ok (value, rest) => .ok ((some value, cells), rest)
    else
      match readMember columns cells key input with
      | .error fault => .error fault
      | .ok (cells, rest) => .ok ((cell, cells), rest)

/-- Find the opening quote of the next key, or the end of the object. -/
def readSeparator (first : Bool) (input : Bytes) : Except Fault (Option Bytes × Bytes) :=
  match skipBlanks input with
  | [] => .error ⟨.endOfObject, []⟩
  | b :: rest =>
    if b = ascii '\x7d' then .ok (none, rest)
    else if first then
      if b = ascii '"' then .ok (some rest, rest) else .error (.ahead .keyNotString (b :: rest))
    else if b = ascii ',' then
      match skipBlanks rest with
      | [] => .error ⟨.endOfValue, []⟩
      | c :: more =>
        if c = ascii '"' then .ok (some more, more)
        else if c = ascii '\x7d' then .error (.ahead .trailingComma (c :: more))
        else .error (.ahead .keyNotString (c :: more))
    else .error (.ahead .expectedObjectCommaOrEnd (b :: rest))

theorem readColon_lt {input rest : Bytes} (h : readColon input = .ok rest) :
    rest.length < input.length := by
  unfold readColon at h
  grind [→ skipBlanks_lt]

theorem readMember_lt {columns : List Column} {cells cells' : Cells columns} {key : String}
    {input rest : Bytes} (h : readMember columns cells key input = .ok (cells', rest)) :
    rest.length < input.length := by
  induction columns with
  | nil =>
    rw [readMember.eq_def] at h
    grind [→ readColon_lt, → skipValue_le]
  | cons column columns ih =>
    have := @column.reader.read_lt
    rw [readMember.eq_def] at h
    grind [→ readColon_lt]

theorem readSeparator_lt {first : Bool} {input key rest : Bytes}
    (h : readSeparator first input = .ok (some key, rest)) : key.length < input.length := by
  unfold readSeparator at h
  grind [→ skipBlanks_lt]

/-- Read the members of an object up to its end. -/
def readMembers (columns : List Column) (cells : Cells columns) (first : Bool) (input : Bytes) :
    Except Fault (Cells columns × Bytes) :=
  match _ : readSeparator first input with
  | .error fault => .error fault
  | .ok (none, rest) => .ok (cells, rest)
  | .ok (some start, _) =>
    match _ : readString start with
    | .error fault => .error fault
    | .ok (key, rest) =>
      match _ : readMember columns cells key rest with
      | .error fault => .error fault
      | .ok (cells, rest) => readMembers columns cells false rest
termination_by input.length
decreasing_by
  have := readSeparator_lt ‹_›
  have := readString_lt ‹_›
  have := readMember_lt ‹_›
  omega

/-- Find the next item of a list, or its end. -/
def readItemStart (first : Bool) (input : Bytes) : Except Fault (Option Bytes) :=
  match skipBlanks input with
  | [] => .error ⟨.endOfList, []⟩
  | b :: rest =>
    if b = ascii ']' then .ok none
    else if first then .ok (some (b :: rest))
    else if b = ascii ',' then
      match skipBlanks rest with
      | [] => .error ⟨.endOfValue, []⟩
      | c :: more =>
        if c = ascii ']' then .error (.ahead .trailingComma (c :: more))
        else .ok (some (c :: more))
    else .error (.ahead .expectedListCommaOrEnd (b :: rest))

/-- What a message expects of a record of `count` values. -/
def expectedItems (name : String) (count : Nat) : String :=
  if count = 1 then s!"struct {name} with 1 element"
  else s!"struct {name} with {Numeral.text count} elements"

/-- Read the values of a list in the order of the columns. A list that ends early leaves the
absent values of the columns that are left. -/
def readItems (expected : String) : (columns : List Column) → Nat → Bool → Bytes →
    Except Fault (Row columns × Bytes)
  | [], _, _, input => .ok ((), input)
  | column :: columns, index, first, input =>
    match readItemStart first input with
    | .error fault => .error fault
    | .ok none =>
      match column.absent with
      | none => .error ⟨.shortList index expected, (skipBlanks input).tail⟩
      | some value =>
        match readItems expected columns (index + 1) first input with
        | .error fault => .error fault
        | .ok (row, rest) => .ok ((value, row), rest)
    | .ok (some start) =>
      match column.reader.read start with
      | .error fault => .error fault
      | .ok (value, rest) =>
        match readItems expected columns (index + 1) false rest with
        | .error fault => .error fault
        | .ok (row, rest) => .ok ((value, row), rest)

/-- Read the end of a list all of whose items have been read. -/
def closeList (input : Bytes) : Except Fault Bytes :=
  match skipBlanks input with
  | [] => .error ⟨.endOfList, []⟩
  | b :: rest =>
    if b = ascii ']' then .ok rest
    else if b = ascii ',' then
      match skipBlanks rest with
      | [] => .error ⟨.trailingText, []⟩
      | c :: more =>
        if c = ascii ']' then .error (.ahead .trailingComma (c :: more))
        else .error (.ahead .trailingText (c :: more))
    else .error (.ahead .trailingText (b :: rest))

/-- The name that messages give a record, and its columns. -/
structure Shape where
  name : String
  columns : List Column

namespace Shape
variable (shape : Shape)

/-- Read a record from its first byte on. -/
def readFrom (b : UInt8) (rest : Bytes) : Except Fault (Row shape.columns × Bytes) :=
  if b = ascii '[' then
    let expected := expectedItems shape.name shape.columns.length
    match readItems expected shape.columns 0 true rest with
    | .error fault => .error fault
    | .ok (row, rest) =>
      match closeList rest with
      | .error fault => .error fault
      | .ok rest => .ok (row, rest)
  else if b = ascii '\x7b' then
    match readMembers shape.columns (.empty shape.columns) true rest with
    | .error fault => .error fault
    | .ok (cells, rest) =>
      match cells.complete shape.columns with
      | .ok row => .ok (row, rest)
      | .error name => .error ⟨.missingField name, rest⟩
  else .error (wrongType s!"struct {shape.name}" b rest)

/-- Read a whole document. -/
def readDocument (input : Bytes) : Except Fault (Row shape.columns) :=
  match readBegun shape.readFrom input with
  | .error fault => .error fault
  | .ok (row, rest) =>
    match skipBlanks rest with
    | [] => .ok row
    | b :: more => .error (.ahead .trailingText (b :: more))

/-- The record that a document holds. -/
def decode (input : Bytes) : Except Error (Row shape.columns) :=
  match shape.readDocument input with
  | .ok row => .ok row
  | .error fault => .error (fault.within input)

end Shape

/-- A record shape and what its rows stand for. -/
structure Decoder (α : Type) where
  shape : Shape
  build : Row shape.columns → α

/-- The value that a document stands for. -/
def Decoder.decode {α : Type} (decoder : Decoder α) (input : Bytes) : Except Error α :=
  match decoder.shape.decode input with
  | .ok row => .ok (decoder.build row)
  | .error error => .error error

end MovieCatalog.Json
