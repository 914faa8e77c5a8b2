import MovieCatalog.Http.Response
import MovieCatalog.ListRequest
import MovieCatalog.Submission
import MovieCatalog.Text.Split

/-! Requests and the operations that their paths and methods mean. Everything about a request that
can be judged without the database is judged before the database is touched. -/
namespace MovieCatalog

inductive Method where
  | get
  | put
  | patch
  | other
  deriving DecidableEq, Repr

/-- The method of a token. Tokens are case-sensitive. -/
def Method.ofToken : String → Method
  | "GET" => .get
  | "PUT" => .put
  | "PATCH" => .patch
  | _ => .other

structure Request where
  method : Method
  path : String
  query : Option String
  body : Bytes
  deriving DecidableEq

/-- The path and the query of a request target, which part at its first `?`. -/
def splitTarget (target : String) : String × Option String :=
  let path := target.toList.takeWhile (· != '?')
  match target.toList.dropWhile (· != '?') with
  | [] => (String.ofList path, none)
  | _ :: query => (String.ofList path, some (String.ofList query))

/-- What a path names. -/
inductive Route where
  | health
  | listing
  | entity (table : Table) (id : String)
  | submission (kind : Kind) (id : String)
  deriving DecidableEq, Repr

namespace Route

/-- The segments of a path. Slashes at its ends do not count. -/
def segments (path : String) : List String :=
  let slash (c : Char) := c == '/'
  let inner := ((path.toList.dropWhile slash).reverse.dropWhile slash).reverse
  (split '/' inner).map String.ofList

def ofSegments? : List String → Option Route
  | ["health"] => some .health
  | ["plans"] => some .listing
  | [table, id] => (Table.ofName? table).map fun table => .entity table id
  | [table, id, kind] => do
    let table ← Table.ofName? table
    let kind ← table.kindOfSegment? kind
    return .submission kind id
  | _ => none

def ofPath? (path : String) : Option Route := ofSegments? (segments path)

end Route

/-- Blanks between the tokens of a body, with the form feed. -/
def isBodyBlank (b : UInt8) : Bool := Json.isBlank b || b == ascii '\x0c'

/-- The submission in a body, which must not be blank. -/
def readBody (kind : Kind) (body : Bytes) : Except CatalogError Submission :=
  if body.all isBodyBlank then .error (.invalidInput .noBody)
  else match Submission.decode kind body with
    | .ok submission => .ok submission
    | .error error => .error (.invalidInput (.badBody error))

/-- The identifier in a path. -/
def pathId (text : String) : Except CatalogError Uuid := parseId "uuid" text

/-- The identifier and the entity that a request puts. -/
def putArguments (kind : Kind) (id : String) (body : Bytes) :
    Except CatalogError (Uuid × Entity) := do
  let id ← pathId id
  let submission ← readBody kind body
  return (id, ← submission.entity)

/-- The identifier and the patch of a request. -/
def patchArguments (kind : Kind) (id : String) (body : Bytes) :
    Except CatalogError (Uuid × Patch) := do
  let id ← pathId id
  let submission ← readBody kind body
  return (id, ← submission.patch)

namespace Catalog
variable {α : Type}

/-- Run an operation and answer with its result. -/
def answer (operation : CatalogM α) (render : α → Response) : StateM Catalog Response := do
  return Response.ofResult render (← operation.run)

def answerHealth : StateM Catalog Response := answer stats fun stats => ⟨200, stats.health⟩

def answerEntity (table : Table) (id : String) : StateM Catalog Response :=
  answer (do
      let id ← ofExcept (pathId id)
      return (id, ← getEntity table id))
    fun (id, entity) => ⟨200, entity.view id⟩

def answerPut (kind : Kind) (id : String) (body : Bytes) : StateM Catalog Response :=
  answer (do
      let (id, entity) ← ofExcept (putArguments kind id body)
      putEntity id entity)
    Response.ofOutcome

def answerPatch (kind : Kind) (id : String) (body : Bytes) : StateM Catalog Response :=
  answer (do
      let (id, patch) ← ofExcept (patchArguments kind id body)
      patchEntity id patch)
    Response.ofPatch

def answerListing (query : Option String) : StateM Catalog Response :=
  match ListParams.ofQuery (query.getD "") with
  | .error fault => return .failure 400 s!"Invalid query: {fault.message}"
  | .ok params =>
    answer (do
        let request ← ofExcept params.request
        listPlans request.filter request.pageToken request.pageSize)
      fun listing => ⟨200, listing.toJson⟩

/-- Answer a request. -/
def respond (request : Request) : StateM Catalog Response :=
  match Route.ofPath? request.path, request.method with
  | none, _ => return .noRoute request.path
  | some .health, .get => answerHealth
  | some .listing, .get => answerListing request.query
  | some (.entity table id), .get => answerEntity table id
  | some (.submission kind id), .put => answerPut kind id request.body
  | some (.submission kind id), .patch => answerPatch kind id request.body
  | some _, _ => return .methodNotAllowed

end Catalog
end MovieCatalog
