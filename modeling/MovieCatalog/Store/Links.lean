import MovieCatalog.Store.Basic

/-! Statements on the links of plans. Both ends of a link must exist when it is inserted. -/
namespace MovieCatalog

namespace Statement

/-- Insert a link beside those that are there. -/
def insertLink (side : Side) (plan target : String) : Statement Unit := do
  let store ← get
  if store.has .plans plan && store.has side.target target then
    set (store.link side plan target)
  else throw (.storage .foreignKey)

/-- Remove the links of a plan on one side and insert a single one. -/
def relink (side : Side) (plan target : Uuid) : Statement Unit := do
  modify (·.unlink side plan.text)
  insertLink side plan.text target.text

/-- Read an identifier from a column. -/
def parseColumn (column : Nat) (text : String) : Except CatalogError Uuid :=
  match Uuid.parse text with
  | .ok id => .ok id
  | .error fault => .error (.storage (.badId column fault))

/-- Read an identifier from each row, or give the fault of the first row that has none. -/
def parseColumns (column : Nat) : List String → Except CatalogError (List Uuid)
  | [] => .ok []
  | text :: texts =>
    match parseColumn column text, parseColumns column texts with
    | .error error, _ => .error error
    | .ok _, .error error => .error error
    | .ok id, .ok ids => .ok (id :: ids)

/-- What a plan is linked to on one side, in the order of the links. -/
def linked (side : Side) (plan : Uuid) : Statement (List Uuid) := do
  let links := ((← get).links side).filter fun link => link.plan == plan.text
  ofExcept (parseColumns 0 (links.map Link.target))

end Statement
end MovieCatalog
