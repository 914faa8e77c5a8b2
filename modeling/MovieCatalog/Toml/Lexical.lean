import MovieCatalog.Text.Hex

/-! Blanks, line ends, strings and keys of TOML documents. -/
namespace MovieCatalog.Toml

/-- What a reader has read, and the text that follows. -/
abbrev Read (α : Type) := Option (α × List Char)

/-- A carriage return before a line feed does not count. -/
def foldLineEnds : List Char → List Char
  | [] => []
  | '\r' :: '\n' :: rest => '\n' :: foldLineEnds rest
  | c :: rest => c :: foldLineEnds rest

def isBlank (c : Char) : Bool := c == ' ' || c == '\t'

def skipBlanks (input : List Char) : List Char := input.dropWhile isBlank

/-- A character of comments and strings: any but the controls, among which the tab is allowed. -/
def isPlain (c : Char) : Bool := c == '\t' || (0x20 ≤ c.toNat && c.toNat != 0x7F)

/-- Skip blanks and a comment, which the end of the line must follow. -/
def endLine? (input : List Char) : Option (List Char) :=
  let rest := match skipBlanks input with
    | '#' :: rest => rest.dropWhile isPlain
    | rest => rest
  match rest with
  | [] => some []
  | '\n' :: rest => some rest
  | _ => none

/-- Skip blanks, line ends and whole comments. -/
def skipGap (comment : Bool) : List Char → Option (List Char)
  | [] => if comment then none else some []
  | c :: rest =>
    if c = '\n' then skipGap false rest
    else if comment then if isPlain c then skipGap true rest else none
    else if c = '#' then skipGap true rest
    else if isBlank c then skipGap false rest
    else some (c :: rest)

/-- A string stands in double quotes, where a backslash escapes, or in single quotes, where none
does. With three quotes on each side it may hold line ends. -/
structure Quotes where
  mark : Char
  tripled : Bool
  deriving DecidableEq, Repr

/-- Where a reader stands inside a string: between characters, where it may be passing over what
follows an escaped line end; behind a backslash; among the digits of a code point, with `left`
more after the next one; or among the blanks before an escaped line end. -/
inductive TextState where
  | between (trimming : Bool)
  | escape
  | code (left value : Nat)
  | lineEnd
  deriving DecidableEq, Repr

/-- The character that an escape letter stands for. -/
def escaped? (c : Char) : Option Char :=
  if c = 'b' then some '\x08'
  else if c = 't' then some '\t'
  else if c = 'n' then some '\n'
  else if c = 'f' then some '\x0c'
  else if c = 'r' then some '\r'
  else if c = '"' then some '"'
  else if c = '\\' then some '\\'
  else none

/-- Put a character before a text that has been read. -/
def push (c : Char) : Read (List Char) → Read (List Char)
  | none => none
  | some (cs, rest) => some (c :: cs, rest)

/-- Up to two more marks behind three closing ones belong to the string. -/
def closing (mark : Char) (input : List Char) : List Char × List Char :=
  let marks := (input.takeWhile (· == mark)).take 2
  (marks, input.drop marks.length)

/-- Read a string up to its closing quotes. -/
def Quotes.readFrom (quotes : Quotes) (state : TextState) : List Char → Read (List Char)
  | [] => none
  | c :: rest =>
    match state with
    | .between trimming =>
      if trimming && (isBlank c || c == '\n') then quotes.readFrom (.between true) rest
      else if c = quotes.mark then
        if !quotes.tripled then some ([], rest)
        else if rest.take 2 = [c, c] then some (closing c (rest.drop 2))
        else push c (quotes.readFrom (.between false) rest)
      else if c = '\\' ∧ quotes.mark = '"' then quotes.readFrom .escape rest
      else if isPlain c || (quotes.tripled && c == '\n') then
        push c (quotes.readFrom (.between false) rest)
      else none
    | .escape =>
      if c = 'u' then quotes.readFrom (.code 3 0) rest
      else if c = 'U' then quotes.readFrom (.code 7 0) rest
      else if quotes.tripled && isBlank c then quotes.readFrom .lineEnd rest
      else if quotes.tripled && c == '\n' then quotes.readFrom (.between true) rest
      else match escaped? c with
        | none => none
        | some x => push x (quotes.readFrom (.between false) rest)
    | .code left value =>
      match Hex.value? c with
      | none => none
      | some digit =>
        let value := 16 * value + digit
        match left with
        | left + 1 => quotes.readFrom (.code left value) rest
        | 0 =>
          if value.isValidChar then
            push (Char.ofNat value) (quotes.readFrom (.between false) rest)
          else none
    | .lineEnd =>
      if isBlank c then quotes.readFrom .lineEnd rest
      else if c = '\n' then quotes.readFrom (.between true) rest
      else none

/-- Read a string whose opening quotes have been read. -/
def Quotes.read (quotes : Quotes) (input : List Char) : Read String :=
  match quotes.readFrom (.between false) input with
  | none => none
  | some (cs, rest) => some (String.ofList cs, rest)

/-- Read a string behind its first quote. A line end right behind three quotes does not count. -/
def readText (mark : Char) (input : List Char) : Read String :=
  if input.take 2 = [mark, mark] then
    match input.drop 2 with
    | '\n' :: rest => Quotes.read ⟨mark, true⟩ rest
    | rest => Quotes.read ⟨mark, true⟩ rest
  else Quotes.read ⟨mark, false⟩ input

/-- The parts of a dotted key: the tables that it leads through and a name in the last of them. -/
structure Key where
  path : List String
  name : String
  deriving DecidableEq, Repr

/-- A character of a part without quotes. -/
def isBare (c : Char) : Bool := c.isAlphanum || c == '-' || c == '_'

/-- Read one part of a key. -/
def readName : List Char → Read String
  | '"' :: rest => Quotes.read ⟨'"', false⟩ rest
  | '\'' :: rest => Quotes.read ⟨'\'', false⟩ rest
  | input =>
    let name := input.takeWhile isBare
    if name.isEmpty then none else some (String.ofList name, input.dropWhile isBare)

/-- Read a key of at most `parts` parts with the blanks around them. -/
def readKeyOf : (parts : Nat) → List Char → Read Key
  | 0, _ => none
  | parts + 1, input =>
    match readName (skipBlanks input) with
    | none => none
    | some (name, rest) =>
      match skipBlanks rest with
      | '.' :: rest =>
        match readKeyOf parts rest with
        | none => none
        | some (key, rest) => some (⟨name :: key.path, key.name⟩, rest)
      | rest => some (⟨[], name⟩, rest)

/-- How many parts a key may have, and how deep lists and tables may be nested. -/
def maxDepth : Nat := 79

def readKey (input : List Char) : Read Key := readKeyOf maxDepth input

end MovieCatalog.Toml
