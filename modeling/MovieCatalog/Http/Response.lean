import MovieCatalog.Catalog

/-! Answers to requests: a status and a JSON body. -/
namespace MovieCatalog

structure Response where
  status : Nat
  body : Json

namespace Response

/-- The media type of every answer. -/
def contentType : String := "application/json"

/-- The text of the body. -/
def text (response : Response) : String := response.body.render

def failure (status : Nat) (message : String) : Response :=
  ⟨status, .object [("error", .text message)]⟩

def methodNotAllowed : Response := failure 405 "Method not allowed"

def noRoute (path : String) : Response := failure 404 s!"No route for {path}"

def ofError (error : CatalogError) : Response := failure error.status error.message

def emptyObject : Json := .object []

/-- A write answers 201 when it created its row. -/
def ofOutcome : Outcome → Response
  | .created => ⟨201, emptyObject⟩
  | .updated => ⟨200, emptyObject⟩

def ofPatch (_ : Unit) : Response := ⟨200, emptyObject⟩

/-- The answer that a result makes. -/
def ofResult {α : Type} (answer : α → Response) : Except CatalogError α → Response
  | .ok value => answer value
  | .error error => ofError error

end Response

def Stats.toJson (stats : Stats) : Json :=
  .object [("work_count", .integer stats.works), ("source_count", .integer stats.sources),
    ("plan_count", .integer stats.plans)]

/-- The health of the catalog with its numbers of rows. -/
def Stats.health (stats : Stats) : Json :=
  .object [("status", .text "ok"), ("work_count", .integer stats.works),
    ("source_count", .integer stats.sources), ("plan_count", .integer stats.plans)]

def PlanListing.toJson (listing : PlanListing) : Json :=
  .object (("plans", .list (listing.plans.map fun record => record.plan.view record.id)) ::
    Json.member? "nextPageToken" Json.text listing.nextToken)

end MovieCatalog
