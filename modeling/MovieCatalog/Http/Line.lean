import MovieCatalog.Http.Server

/-! Requests and answers as single lines of text. -/
namespace MovieCatalog

/-- The request of a line: a method, a target and a body, with blanks between them. The body goes
up to the end of the line. -/
def Request.ofLine (line : String) : Request :=
  let word (cs : List Char) := (cs.takeWhile (· != ' '), (cs.dropWhile (· != ' ')).drop 1)
  let (method, rest) := word line.toList
  let (target, body) := word rest
  let (path, query) := splitTarget (String.ofList target)
  ⟨.ofToken (String.ofList method), path, query, Utf8.encode body⟩

/-- The status and the body of an answer. -/
def Response.line (response : Response) : String :=
  s!"{Numeral.text response.status} {response.text}"

end MovieCatalog
