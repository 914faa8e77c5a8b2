import MovieCatalog.Error
import MovieCatalog.Field

/-! Rules for single fields of a request. -/
namespace MovieCatalog

variable {α : Type}

def invalidField (name : String) (problem : FieldProblem) : Except CatalogError α :=
  .error (.invalidInput (.field name problem))

/-- An identifier other than nil. -/
def parseId (name text : String) : Except CatalogError Uuid :=
  match Uuid.ofText? text with
  | none => invalidField name .malformedId
  | some id => if id.isNil then invalidField name .empty else .ok id

namespace Field

/-- The field must have a value. -/
def required (name : String) : Field α → Except CatalogError α
  | .absent => invalidField name .missing
  | .null => invalidField name .null
  | .value content => .ok content

/-- The field may be left out, but must not be `null`. -/
def notNull (name : String) : Field α → Except CatalogError (Option α)
  | .absent => .ok none
  | .null => invalidField name .null
  | .value content => .ok (some content)

/-- The field must have a text with at least one character. -/
def requiredText (name : String) (field : Field String) : Except CatalogError String := do
  let text ← field.required name
  if text.isEmpty then invalidField name .empty else .ok text

/-- The field may be left out; otherwise it must have a text with at least one character. -/
def patchText (name : String) (field : Field String) : Except CatalogError (Option String) := do
  match ← field.notNull name with
  | none => .ok none
  | some text => if text.isEmpty then invalidField name .empty else .ok (some text)

/-- The field must have an identifier other than nil. -/
def requiredId (name : String) (field : Field String) : Except CatalogError Uuid := do
  parseId name (← field.required name)

/-- The field may be left out; otherwise it must have an identifier other than nil. -/
def patchId (name : String) (field : Field String) : Except CatalogError (Option Uuid) := do
  match ← field.notNull name with
  | none => .ok none
  | some text => (parseId name text).map some

end Field
end MovieCatalog
