import MovieCatalog.PageToken
import MovieCatalog.Patch
import MovieCatalog.Schema
import MovieCatalog.Store.Listing

/-! The catalog: a database behind a lock, and the operations on it. Each write is one transaction,
which takes effect as a whole or not at all. -/
namespace MovieCatalog

/-- The lock is poisoned when an operation broke off while it held the database. Operations work on
the rows of `store` without a look at the layout: `Catalog.Housed` tells that it has the tables of
those rows. -/
structure Catalog where
  layout : Layout
  store : Store
  poisoned : Bool
  deriving DecidableEq

/-- An operation on the catalog. -/
abbrev CatalogM (α : Type) := ExceptT CatalogError (StateM Catalog) α

/-- The numbers of rows. -/
structure Stats where
  works : Nat
  sources : Nat
  plans : Nat
  deriving DecidableEq, Repr

/-- A page of plans as callers see it. -/
structure PlanListing where
  plans : List PlanRecord
  nextToken : Option String
  deriving DecidableEq

namespace Statement

/-- Write an entity; a plan also gets one link on each side. -/
def putLinked (id : Uuid) (entity : Entity) : Statement Outcome := do
  let outcome ← put id entity
  match entity.ends? with
  | none => return outcome
  | some ends =>
    relink .input id ends.source
    relink .output id ends.work
    return outcome

/-- Replace the link of a side when a target is given. -/
def relink? (side : Side) (plan : Uuid) : Option Uuid → Statement Unit
  | none => return ()
  | some target => relink side plan target

/-- Patch an entity; of a plan's links those are replaced whose targets the patch gives. -/
def patchLinked (id : Uuid) (patch : Patch) : Statement Unit := do
  let entity ← load patch.kind.table id
  let entity ← ofExcept (patch.apply id entity)
  let _ ← put id entity
  match patch.planChange? with
  | none => return ()
  | some change =>
    relink? .input id change.source
    relink? .output id change.work

end Statement

namespace Catalog
variable {α : Type}

/-- A catalog on a database without tables. -/
def new : Catalog := ⟨Layout.blank.initialise.2, .empty, false⟩

/-- An operation that has its result already. -/
def ofExcept : Except CatalogError α → CatalogM α
  | .ok value => pure value
  | .error error => throw error

/-- Run a statement by itself. -/
def perform (statement : Statement α) : CatalogM α := do
  let catalog ← get
  if catalog.poisoned then throw .lockPoisoned
  else
    let (result, store) := statement.run.run catalog.store
    set { catalog with store }
    ofExcept result

/-- Run a statement as a transaction: a failure brings the tables back to where they were. -/
def transact (statement : Statement α) : CatalogM α := do
  let catalog ← get
  if catalog.poisoned then throw .lockPoisoned
  else
    match statement.run.run catalog.store with
    | (.ok value, store) =>
      set { catalog with store }
      return value
    | (.error error, _) => throw error

def stats : CatalogM Stats :=
  perform do
    let works ← Statement.count .works
    let sources ← Statement.count .sources
    let plans ← Statement.count .plans
    return ⟨works, sources, plans⟩

def getEntity (table : Table) (id : Uuid) : CatalogM Entity := transact (Statement.load table id)

def putEntity (id : Uuid) (entity : Entity) : CatalogM Outcome :=
  transact (Statement.putLinked id entity)

def patchEntity (id : Uuid) (patch : Patch) : CatalogM Unit :=
  transact (Statement.patchLinked id patch)

/-- The identifier that a token resumes after. -/
def resumePoint : Option String → Except CatalogError (Option Uuid)
  | none => .ok none
  | some token =>
    match PageToken.decode? token with
    | none => .error .invalidToken
    | some id => .ok (some id)

/-- One page of plans. The token is read before the database is. -/
def listPlans (filter : PlanFilter) (token : Option String) (size : Nat) :
    CatalogM PlanListing := do
  let after ← ofExcept (resumePoint token)
  let page ← transact (Statement.listPlans filter after size)
  return ⟨page.items, page.next?.map PageToken.encode⟩

/-- Break off while holding the lock. -/
def poison : StateM Catalog Unit := modify fun catalog => { catalog with poisoned := true }

/-- Close the database and open it again. -/
def reopen : CatalogM Unit := do
  let catalog ← get
  let (result, layout) := catalog.layout.initialise
  set { catalog with layout, poisoned := false }
  match result with
  | .ok () => return ()
  | .error fault => throw (.storage fault)

end Catalog
end MovieCatalog
