/-! A field of a request: left out, sent as `null`, or sent with a value. -/
namespace MovieCatalog

inductive Field (α : Type) where
  | absent
  | null
  | value (content : α)
  deriving DecidableEq, Repr

namespace Field
variable {α : Type}

/-- The value of a member that was sent. -/
def ofOption : Option α → Field α
  | none => .null
  | some content => .value content

/-- The value, if there is one. -/
def toOption : Field α → Option α
  | .value content => some content
  | .absent | .null => none

/-- A field that was left out keeps the target, `null` clears it, and a value sets it. -/
def applyTo (field : Field α) (target : Option α) : Option α :=
  match field with
  | .absent => target
  | .null => none
  | .value content => some content

end Field
end MovieCatalog
