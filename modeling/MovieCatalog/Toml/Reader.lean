import MovieCatalog.Toml.Table

/-! Reading TOML documents. -/
namespace MovieCatalog.Toml

/-- Read the items of a list whose bracket has been read; `fuel` bounds their number. -/
def readItems (value : List Char → Read Value) : (fuel : Nat) → List Char → Option (List Char)
  | 0, _ => none
  | fuel + 1, input =>
    match skipGap false input with
    | none => none
    | some (']' :: rest) => some rest
    | some rest =>
      match value rest with
      | none => none
      | some (_, rest) =>
        match skipGap false rest with
        | some (',' :: rest) => readItems value fuel rest
        | some (']' :: rest) => some rest
        | _ => none

/-- Read the pairs of a table that stands on one line; `fuel` bounds their number. -/
def readPairs (value : List Char → Read Value) : (fuel : Nat) → Members → List Char →
    Option (List Char)
  | 0, _, _ => none
  | fuel + 1, members, input =>
    match readKey input with
    | some (key, '=' :: rest) =>
      match value (skipBlanks rest) with
      | none => none
      | some (value', rest) =>
        match members.add key.name value' key.path with
        | none => none
        | some members =>
          match skipBlanks rest with
          | ',' :: rest => readPairs value fuel members rest
          | '\x7d' :: rest => some rest
          | _ => none
    | _ => none

/-- Read a table that stands on one line, behind its brace. -/
def readInline (value : List Char → Read Value) (input : List Char) : Option (List Char) :=
  match skipBlanks input with
  | '\x7d' :: rest => some rest
  | rest => readPairs value (rest.length + 1) [] rest

/-- Read a value that holds no others. -/
def readPlain : List Char → Read Value
  | '"' :: rest => (readText '"' rest).map fun (s, rest) => (.text s, rest)
  | '\'' :: rest => (readText '\'' rest).map fun (s, rest) => (.text s, rest)
  | input => readScalar input

/-- Read a value in which lists and tables are nested at most `depth` deep. -/
def readValue : (depth : Nat) → List Char → Read Value
  | 0, input => readPlain input
  | depth + 1, '[' :: rest =>
    (readItems (readValue depth) (rest.length + 1) rest).map fun rest => (.other, rest)
  | depth + 1, '\x7b' :: rest =>
    (readInline (readValue depth) rest).map fun rest => (.other, rest)
  | _ + 1, input => readPlain input

/-- Read a key and its value up to the end of the line. -/
def readPair (document : Document) (input : List Char) : Read Document :=
  match readKey input with
  | some (key, '=' :: rest) =>
    match readValue maxDepth (skipBlanks rest) with
    | none => none
    | some (value, rest) =>
      match endLine? rest, document.add key value with
      | some rest, some document => some (document, rest)
      | _, _ => none
  | _ => none

/-- The header of a table stands in single brackets. -/
def readHeader (document : Document) (input : List Char) : Read Document :=
  match readKey input with
  | some (key, ']' :: rest) =>
    match endLine? rest, document.turnTo Members.openTable key with
    | some rest, some document => some (document, rest)
    | _, _ => none
  | _ => none

/-- The header of a table in a list of tables stands in double brackets. -/
def readListHeader (document : Document) (input : List Char) : Read Document :=
  match readKey input with
  | some (key, ']' :: ']' :: rest) =>
    match endLine? rest, document.turnTo Members.openTables key with
    | some rest, some document => some (document, rest)
    | _, _ => none
  | _ => none

/-- Read what stands next: nothing up to the end of a line, a header, or a key with its value. -/
def readNext (document : Document) (input : List Char) : Read Document :=
  match skipBlanks input with
  | '[' :: '[' :: rest => readListHeader document rest
  | '[' :: rest => readHeader document rest
  | rest =>
    match endLine? rest with
    | some rest => some (document, rest)
    | none => readPair document rest

/-- The line on which a document is malformed or gives a name twice. -/
structure Fault where
  line : Nat
  deriving DecidableEq, Repr

def Fault.message (fault : Fault) : String :=
  s!"line {Numeral.text fault.line} is malformed or gives a name twice"

/-- Read line after line; `fuel` bounds their number. -/
def readDocument (line : Nat) : (fuel : Nat) → Document → List Char → Except Fault Members
  | _, document, [] => .ok document.root
  | 0, _, _ :: _ => .error ⟨line⟩
  | fuel + 1, document, c :: input =>
    match readNext document (c :: input) with
    | none => .error ⟨line⟩
    | some (document, rest) =>
      let read := (c :: input).take ((c :: input).length - rest.length)
      readDocument (line + read.count '\n') fuel document rest

/-- The members of a document. A byte order mark before it does not count. -/
def read (text : String) : Except Fault Members :=
  let input := foldLineEnds (match text.toList with
    | '\uFEFF' :: rest => rest
    | input => input)
  readDocument 1 input.length .empty input

end MovieCatalog.Toml
