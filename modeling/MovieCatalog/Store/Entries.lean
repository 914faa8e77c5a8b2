import MovieCatalog.Store.Basic
import MovieCatalog.StoredBody

/-! Statements on entity rows. A row keeps the kind that it was created with. -/
namespace MovieCatalog

/-- What an accepted write did to its row. -/
inductive Outcome where
  | created
  | updated
  deriving DecidableEq, Repr

/-- A row at its first revision has just been created. -/
def Outcome.ofRevision (revision : Nat) : Outcome := if revision = 1 then .created else .updated

/-- A row that was found by its identifier. Its revision is the count of its `Entry`, and no negative
one is represented. -/
structure StoredEntity where
  id : Uuid
  tag : String
  body : String
  revision : Nat
  deriving DecidableEq

namespace Statement

/-- Insert a row, or overwrite the body of a row of the same kind. -/
def upsert (table : Table) (id : Uuid) (tag body : String) : Statement Outcome := do
  if id.isNil then throw (.invalidInput (.nilId table))
  else if !table.tags.contains tag then throw (.invalidInput (.kind table tag))
  else
    match (← get).find? table id.text with
    | none =>
      modify (·.append table ⟨id.text, tag, body, 1⟩)
      return .created
    | some entry =>
      if entry.tag = tag then
        modify (·.overwrite table id.text body)
        return .ofRevision (entry.revision + 1)
      else throw (.kindConflict table id)

/-- The row with an identifier. -/
def getEntity (table : Table) (id : Uuid) : Statement StoredEntity := do
  match (← get).find? table id.text with
  | none => throw (.notFound table id)
  | some entry => return ⟨id, entry.tag, entry.body, entry.revision⟩

/-- Write an entity into the table of its kind. -/
def put (id : Uuid) (entity : Entity) : Statement Outcome :=
  upsert entity.kind.table id entity.kind.tag entity.body

/-- The entity with an identifier. -/
def load (table : Table) (id : Uuid) : Statement Entity := do
  let stored ← getEntity table id
  ofExcept (Entity.ofStored table stored.tag stored.body)

/-- The number of rows of a table. -/
def count (table : Table) : Statement Nat := do
  return ((← get).entries table).length

/-- Insert a row as it is given. -/
def insertEntry (table : Table) (id tag body : String) : Statement Unit := do
  if (← get).has table id then throw (.storage (.duplicateId table))
  else modify (·.append table ⟨id, tag, body, 1⟩)

end Statement
end MovieCatalog
