import MovieCatalog.QueryString
import MovieCatalog.Store.Listing

/-! Requests for a page of plans, as query strings ask for them. -/
namespace MovieCatalog

/-- The parameters of a query string. -/
structure ListParams where
  source : Option String
  work : Option String
  pageSize : Option Int
  pageToken : Option String
  deriving DecidableEq

/-- Why a query string has no parameters. -/
inductive QueryFault where
  | duplicateField (name : String)
  | badNumber (fault : Numeral.Fault)
  deriving DecidableEq, Repr

def QueryFault.message : QueryFault → String
  | .duplicateField name => s!"duplicate field `{name}`"
  | .badNumber fault => fault.message

namespace ListParams

def empty : ListParams := ⟨none, none, none, none⟩

/-- Set a parameter that has not been set. -/
def assign {α : Type} (name : String) (current : Option α) (value : α) :
    Except QueryFault (Option α) :=
  match current with
  | some _ => .error (.duplicateField name)
  | none => .ok (some value)

/-- Read the number of a page size that has not been set. -/
def assignNumber (name : String) (current : Option Int) (value : String) :
    Except QueryFault (Option Int) :=
  match current with
  | some _ => .error (.duplicateField name)
  | none =>
    match Numeral.readInt64 value.toList with
    | .ok n => .ok (some n)
    | .error fault => .error (.badNumber fault)

/-- Take in one pair. Names that mean nothing here are passed over. -/
def add (params : ListParams) (pair : String × String) : Except QueryFault ListParams :=
  match pair with
  | ("sourceUuid", value) =>
    (assign "sourceUuid" params.source value).map fun source => { params with source }
  | ("workUuid", value) =>
    (assign "workUuid" params.work value).map fun work => { params with work }
  | ("pageSize", value) =>
    (assignNumber "pageSize" params.pageSize value).map fun pageSize => { params with pageSize }
  | ("pageToken", value) =>
    (assign "pageToken" params.pageToken value).map fun pageToken => { params with pageToken }
  | _ => .ok params

/-- Take in pairs in order. -/
def addAll (params : ListParams) : List (String × String) → Except QueryFault ListParams
  | [] => .ok params
  | pair :: pairs =>
    match params.add pair with
    | .ok params => params.addAll pairs
    | .error fault => .error fault

/-- The parameters of a query string. -/
def ofQuery (query : String) : Except QueryFault ListParams :=
  empty.addAll (QueryString.pairs query)

end ListParams

/-- A request for a page: a filter, where to resume, and a page size within its bounds. -/
structure ListRequest where
  filter : PlanFilter
  pageToken : Option String
  pageSize : Nat
  deriving DecidableEq

/-- The identifier that a filter asks for. An empty text and the nil identifier ask for none. -/
def filterId (name : String) (value : Option String) : Except CatalogError (Option Uuid) :=
  match value with
  | none => .ok none
  | some text =>
    if text.isEmpty then .ok none
    else match Uuid.ofText? text with
      | none => .error (.invalidInput (.field name .malformedId))
      | some id => .ok (if id.isNil then none else some id)

/-- The request that parameters make. An empty token is none. -/
def ListParams.request (params : ListParams) : Except CatalogError ListRequest := do
  let source ← filterId "sourceUuid" params.source
  let work ← filterId "workUuid" params.work
  return ⟨⟨source, work⟩, params.pageToken.filter (!·.isEmpty), requestedPageSize params.pageSize⟩

end MovieCatalog
