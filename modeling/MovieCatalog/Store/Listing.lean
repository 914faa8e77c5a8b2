import MovieCatalog.Store.Entries
import MovieCatalog.Store.Links

/-! Pages of plans: a query over the tables, its text, and the page that its rows make. -/
namespace MovieCatalog

/-- Which plans are wanted. Both conditions together must hold. -/
structure PlanFilter where
  source : Option Uuid
  work : Option Uuid
  deriving DecidableEq

def defaultPageSize : Nat := 50

def minPageSize : Nat := 1

def maxPageSize : Nat := 500

/-- A page size within its bounds. -/
def clampPageSize (size : Nat) : Nat := max minPageSize (min size maxPageSize)

/-- The page size of a request: the default when it names none. -/
def requestedPageSize : Option Int → Nat
  | none => defaultPageSize
  | some size => clampPageSize size.toNat

/-- The plans after an identifier that a filter lets through, up to a number of rows. -/
structure PlanQuery where
  filter : PlanFilter
  after : Option Uuid
  limit : Nat
  deriving DecidableEq

/-- The query for one page. One row more than the page holds shows whether another follows. -/
def PlanQuery.page (filter : PlanFilter) (after : Option Uuid) (size : Nat) : PlanQuery :=
  ⟨filter, after, size + 1⟩

inductive Parameter where
  | text (value : String)
  | number (value : Nat)
  deriving DecidableEq, Repr

namespace PlanQuery
variable (query : PlanQuery)

/-- The conditions of the query and their parameters. -/
def conditions : List (String × Parameter) :=
  (query.filter.source.map fun id => ("pi.source_id = ?", Parameter.text id.text)).toList ++
  (query.filter.work.map fun id => ("po.work_id = ?", Parameter.text id.text)).toList ++
  (query.after.map fun id => ("p.id > ?", Parameter.text id.text)).toList

/-- The query in words of SQL. -/
def sql : String :=
  "SELECT DISTINCT p.id, p.kind, p.body FROM plans p" ++
  (if query.filter.source.isSome then " INNER JOIN plan_inputs pi ON p.id = pi.plan_id" else "") ++
  (if query.filter.work.isSome then " INNER JOIN plan_outputs po ON p.id = po.plan_id" else "") ++
  (if query.conditions.isEmpty then ""
    else " WHERE " ++ " AND ".intercalate (query.conditions.map Prod.fst)) ++
  " ORDER BY p.id ASC LIMIT ?"

/-- The parameters of the query in order. -/
def parameters : List Parameter := query.conditions.map Prod.snd ++ [.number query.limit]

/-- The links through which a plan passes one side of a filter; without a condition there is one
way to pass. -/
def ways (links : List Link) (plan : String) : Option Uuid → List Unit
  | none => [()]
  | some target =>
    (links.filter fun link => link.plan == plan && link.target == target.text).map fun _ => ()

/-- A plan for each combination of links through which it passes the filter. -/
def joined (store : Store) : List Entry :=
  store.plans.flatMap fun entry =>
    (ways store.inputs entry.id query.filter.source).flatMap fun _ =>
      (ways store.outputs entry.id query.filter.work).map fun _ => entry

/-- Whether an id text lies after the one to resume after. -/
def isAfter (id : String) : Bool :=
  match query.after with
  | none => true
  | some after => decide (after.text < id)

/-- The rows of the query: each plan once, in the order of the id texts. -/
def rows (store : Store) : List Entry :=
  ((((query.joined store).filter fun entry => query.isAfter entry.id).eraseDups).mergeSort
    fun a b => decide (a.id ≤ b.id)).take query.limit

end PlanQuery

/-- A listed plan. -/
structure PlanRecord where
  id : Uuid
  plan : Entity
  deriving DecidableEq

/-- A page of plans, whether more follow, and the identifier of the last one. -/
structure PlanPage where
  items : List PlanRecord
  hasMore : Bool
  lastKey : Option Uuid
  deriving DecidableEq

/-- Where the next page resumes, if there is one. -/
def PlanPage.next? (page : PlanPage) : Option Uuid := if page.hasMore then page.lastKey else none

/-- Read the plans of rows whose identifiers are known. -/
def PlanRecord.ofEntries : List (Uuid × Entry) → Except CatalogError (List PlanRecord)
  | [] => .ok []
  | (id, entry) :: more =>
    match Entity.ofStored .plans entry.tag entry.body with
    | .error error => .error error
    | .ok plan =>
      match ofEntries more with
      | .error error => .error error
      | .ok records => .ok (⟨id, plan⟩ :: records)

/-- The page that rows make. Every row must have an identifier, and every row kept a plan. -/
def PlanPage.ofRows (size : Nat) (rows : List Entry) : Except CatalogError PlanPage :=
  match Statement.parseColumns 0 (rows.map Entry.id) with
  | .error error => .error error
  | .ok ids =>
    match PlanRecord.ofEntries ((ids.zip rows).take size) with
    | .error error => .error error
    | .ok items => .ok ⟨items, decide (size < rows.length), items.getLast?.map PlanRecord.id⟩

/-- One page of plans. -/
def Statement.listPlans (filter : PlanFilter) (after : Option Uuid) (size : Nat) :
    Statement PlanPage := do
  let size := clampPageSize size
  ofExcept (PlanPage.ofRows size ((PlanQuery.page filter after size).rows (← get)))

end MovieCatalog
