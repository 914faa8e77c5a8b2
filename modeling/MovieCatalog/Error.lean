import MovieCatalog.Json.Fault
import MovieCatalog.Kind

/-! Everything that can go wrong with a request or with the catalog, and how it is told. -/
namespace MovieCatalog

inductive FieldProblem where
  | missing
  | null
  | empty
  | malformedId
  deriving DecidableEq, Repr

def FieldProblem.message : FieldProblem → String
  | .missing => "is required"
  | .null => "cannot be null"
  | .empty => "cannot be empty"
  | .malformedId => "invalid UUID format"

/-- What a caller got wrong. -/
inductive InputFault where
  | field (name : String) (problem : FieldProblem)
  | nilId (table : Table)
  | kind (table : Table) (tag : String)
  | noBody
  | badBody (error : Json.Error)
  | refused (reason : String)
  deriving DecidableEq, Repr

def InputFault.message : InputFault → String
  | .field name problem => s!"{name}: {problem.message}"
  | .nilId table => s!"{table.name} id cannot be nil"
  | .kind table tag => s!"invalid {table.name} kind: {Quoted.ofText tag}"
  | .noBody => "request body is required"
  | .badBody error => s!"Invalid JSON body: {error.message}"
  | .refused reason => reason

/-- What the tables do not allow, or hold and should not. -/
inductive StorageFault where
  | foreignKey
  | duplicateId (table : Table)
  | badId (column : Nat) (fault : Uuid.Fault)
  | versionText
  | versionReal
  | versionRange (version : Int)
  | parameterName (name : String)
  deriving DecidableEq, Repr

def StorageFault.message : StorageFault → String
  | .foreignKey => "FOREIGN KEY constraint failed"
  | .duplicateId table => s!"UNIQUE constraint failed: {table.name}.id"
  | .badId column fault =>
    s!"Conversion error from type Text at index: {Numeral.text column}, {fault.message}"
  | .versionText => "Invalid column type Text at index: 0, name: version"
  | .versionReal => "Invalid column type Real at index: 0, name: version"
  | .versionRange version => s!"Integer {Numeral.intText version} out of range at index 0"
  | .parameterName name => s!"Invalid parameter name: {name}"

/-- What a file does not allow. -/
inductive FileFault where
  | missing
  | notUnicode
  | other (reason : String)
  deriving DecidableEq, Repr

def FileFault.message : FileFault → String
  | .missing => "No such file or directory (os error 2)"
  | .notUnicode => "stream did not contain valid UTF-8"
  | .other reason => reason

inductive CatalogError where
  | kindConflict (table : Table) (id : Uuid)
  | notFound (table : Table) (id : Uuid)
  | invalidToken
  | invalidInput (fault : InputFault)
  | storage (fault : StorageFault)
  | body (error : Json.Error)
  | unknownKind (table : Table) (tag : String)
  | lockPoisoned
  | file (fault : FileFault)
  | config (reason : String)
  deriving DecidableEq

namespace CatalogError

def message : CatalogError → String
  | .kindConflict table id =>
    s!"{table.name} entry {id.text} already exists with a different kind"
  | .notFound table id => s!"{table.name} entry {id.text} not found"
  | .invalidToken => "invalid page token"
  | .invalidInput fault => fault.message
  | .storage fault => s!"Database error: {fault.message}"
  | .body error => s!"Body encoding error: {error.message}"
  | .unknownKind table tag => s!"Unknown {table.name} kind in database: {Quoted.ofText tag}"
  | .lockPoisoned => "Database lock poisoned"
  | .file fault => s!"IO error: {fault.message}"
  | .config reason => s!"Configuration error: {reason}"

/-- Whether the catalog is at fault rather than the caller. -/
def isStorage : CatalogError → Bool
  | .kindConflict .. | .notFound .. | .invalidToken | .invalidInput _ => false
  | .storage _ | .body _ | .unknownKind .. | .lockPoisoned | .file _ | .config _ => true

/-- The status of the answer that tells the error. -/
def status : CatalogError → Nat
  | .invalidInput _ | .invalidToken => 400
  | .notFound .. => 404
  | .kindConflict .. => 409
  | .storage _ | .body _ | .unknownKind .. | .lockPoisoned | .file _ | .config _ => 500

end CatalogError
end MovieCatalog
