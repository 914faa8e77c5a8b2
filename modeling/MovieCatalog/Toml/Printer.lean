import MovieCatalog.Toml.Lexical

/-! Writing strings of TOML documents with as few escapes as possible. -/
namespace MovieCatalog.Toml

/-- The length of the longest run of a character, of which `run` have just been seen. -/
def longestRun (mark : Char) (run : Nat) : List Char → Nat
  | [] => run
  | c :: rest =>
    if c = mark then longestRun mark (run + 1) rest else max run (longestRun mark 0 rest)

/-- A control that only an escape can write. -/
def needsEscape (c : Char) : Bool := !isPlain c && c != '\n'

/-- A character between double quotes. -/
def escape (c : Char) : List Char :=
  if c = '\x08' then ['\\', 'b']
  else if c = '\t' then ['\\', 't']
  else if c = '\n' then ['\\', 'n']
  else if c = '\x0c' then ['\\', 'f']
  else if c = '\r' then ['\\', 'r']
  else if c = '"' then ['\\', '"']
  else if c = '\\' then ['\\', '\\']
  else if isPlain c then [c]
  else
    ['\\', 'u', '0', '0', (Hex.digit (c.toNat / 16)).toUpper, (Hex.digit (c.toNat % 16)).toUpper]

/-- The characters between three double quotes, where a line end stands for itself, and so do up to
two quotes together. -/
def escapeLines (run : Nat) : List Char → List Char
  | [] => []
  | c :: rest =>
    if c = '\n' then c :: escapeLines 0 rest
    else if c = '"' ∧ run < 2 then c :: escapeLines (run + 1) rest
    else escape c ++ escapeLines 0 rest

/-- A text between three marks on each side; one with several lines begins on a line of its own. -/
def between (mark : Char) (cs inner : List Char) : List Char :=
  [mark, mark, mark] ++ (if cs.contains '\n' then ['\n'] else []) ++ inner ++ [mark, mark, mark]

/-- A string with its quotes: the first form that needs no escape but for tabs, or else the double
quotes that escape what they must. -/
def writeText (cs : List Char) : List Char :=
  let plain := !cs.any needsEscape
  let lines := cs.contains '\n'
  let basic := plain && !cs.contains '\\'
  if basic && !lines && !cs.contains '"' then '"' :: cs.flatMap escape ++ ['"']
  else if plain && !lines && !cs.contains '\'' then '\'' :: cs ++ ['\'']
  else if basic && longestRun '"' 0 cs ≤ 2 then between '"' cs (escapeLines 0 cs)
  else if plain && longestRun '\'' 0 cs ≤ 2 then between '\'' cs cs
  else if lines then between '"' cs (escapeLines 0 cs)
  else '"' :: cs.flatMap escape ++ ['"']

end MovieCatalog.Toml
