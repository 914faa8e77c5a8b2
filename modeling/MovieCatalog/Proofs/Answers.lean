import MovieCatalog.Proofs.Json.Grammar
import MovieCatalog.Proofs.Json.Strings
import MovieCatalog.Proofs.Runs

/-! The text of an answer. Whatever a request says and whatever the tables hold, it is one object,
and a request that fails is told why in a single member. -/
namespace MovieCatalog

open Json (IsObject Spells quoted)

/-- Why a request fails. -/
inductive Failure where
  | unrouted (path : String)
  | disallowed
  | query (fault : QueryFault)
  | catalog (error : CatalogError)

namespace Failure

def status : Failure → Nat
  | .unrouted _ => 404
  | .disallowed => 405
  | .query _ => 400
  | .catalog error => error.status

def message : Failure → String
  | .unrouted path => "No route for " ++ path
  | .disallowed => "Method not allowed"
  | .query fault => "Invalid query: " ++ fault.message
  | .catalog error => error.message

end Failure

/-- The methods that a path has an answer for. -/
def Route.Allows : Route → Method → Prop
  | .health, method | .listing, method | .entity .., method => method = .get
  | .submission .., method => method = .put ∨ method = .patch

namespace Catalog

/-- A check by itself fails, or else the operation on what it lets through. -/
def EndsIn {α β : Type} (c : Catalog) (checked : Except CatalogError α) (operation : α → CatalogM β)
    (error : CatalogError) : Prop :=
  checked = .error error ∨
    ∃ value, checked = .ok value ∧ ((operation value).run.run c).1 = .error error

end Catalog

open Catalog

/-- A request fails on a catalog: by its path, its method, its query, or with an error of its own
operation. -/
inductive Request.FailsWith (request : Request) (c : Catalog) : Failure → Prop where
  | unrouted (hroute : Route.ofPath? request.path = none) :
      FailsWith request c (.unrouted request.path)
  | disallowed {route : Route} (hroute : Route.ofPath? request.path = some route)
      (hmethod : ¬ route.Allows request.method) : FailsWith request c .disallowed
  | query {fault : QueryFault} (hroute : Route.ofPath? request.path = some .listing)
      (hmethod : request.method = .get)
      (hquery : ListParams.ofQuery (request.query.getD "") = .error fault) :
      FailsWith request c (.query fault)
  | health {error : CatalogError} (hroute : Route.ofPath? request.path = some .health)
      (hmethod : request.method = .get) (h : (stats.run.run c).1 = .error error) :
      FailsWith request c (.catalog error)
  | listing {params : ListParams} {error : CatalogError}
      (hroute : Route.ofPath? request.path = some .listing) (hmethod : request.method = .get)
      (hquery : ListParams.ofQuery (request.query.getD "") = .ok params)
      (h : c.EndsIn params.request
        (fun asked => listPlans asked.filter asked.pageToken asked.pageSize) error) :
      FailsWith request c (.catalog error)
  | entity {table : Table} {text : String} {error : CatalogError}
      (hroute : Route.ofPath? request.path = some (.entity table text))
      (hmethod : request.method = .get) (h : c.EndsIn (pathId text) (getEntity table) error) :
      FailsWith request c (.catalog error)
  | put {kind : Kind} {text : String} {error : CatalogError}
      (hroute : Route.ofPath? request.path = some (.submission kind text))
      (hmethod : request.method = .put)
      (h : c.EndsIn (putArguments kind text request.body) (fun arguments =>
        putEntity arguments.1 arguments.2) error) :
      FailsWith request c (.catalog error)
  | patch {kind : Kind} {text : String} {error : CatalogError}
      (hroute : Route.ofPath? request.path = some (.submission kind text))
      (hmethod : request.method = .patch)
      (h : c.EndsIn (patchArguments kind text request.body) (fun arguments =>
        patchEntity arguments.1 arguments.2) error) :
      FailsWith request c (.catalog error)

namespace Response

/-- The text is an object with the single member `error`, a string that spells the message and no
other text. -/
def Tells (answer : Response) (message : String) : Prop :=
  ∃ spelling, Utf8.ofText answer.text =
      Utf8.ofText "\x7b\"error\":" ++ (quoted spelling ++ Utf8.ofText "\x7d") ∧
    ∀ text : String, Spells spelling text.toList ↔ text = message

end Response

/-- The answer to a request is an object, and a failure, if there is one, is told in full. -/
structure Request.AnsweredWell (request : Request) (c : Catalog) (answer : Response) : Prop where
  object : IsObject (Utf8.ofText answer.text)
  failed : 400 ≤ answer.status ↔ ∃ failure, request.FailsWith c failure
  told : ∀ failure, request.FailsWith c failure →
    answer.status = failure.status ∧ answer.Tells failure.message

variable {α β : Type} {request : Request} {c : Catalog} {reason : Failure} {error : CatalogError}
  {checked : Except CatalogError α} {operation : α → CatalogM β}

theorem Failure.le_status (reason : Failure) : 400 ≤ reason.status := by
  cases reason with
  | catalog error => cases error <;> simp [status, CatalogError.status]
  | _ => simp [status]

theorem Response.tells_failure (status : Nat) (message : String) :
    (Response.failure status message).Tells message := by
  have hlabel : Utf8.ofText "\x7b\"error\":" =
      Utf8.encode ('\x7b' :: Json.writeString "error".toList ++ [':']) := by decide
  have hclose : Utf8.ofText "\x7d" = Utf8.encode ['\x7d'] := rfl
  refine ⟨Utf8.encode (message.toList.flatMap Json.escape), ?_, ?_⟩
  · rw [hlabel, hclose, ← Json.encode_writeString, ← Utf8.encode_append, ← Utf8.encode_append]
    simp [Response.text, Json.render, Response.failure, Json.write, Json.writeMembers, Utf8.ofText]
  · intro text
    constructor
    · intro h
      exact String.toList_injective (h.unique (Json.spells_escapes _))
    · rintro rfl
      exact Json.spells_escapes _

example : (Response.noRoute "/\"\n").text =
    "\x7b\"error\":\"No route for /\\\"\\n\"\x7d" := by decide

/-- What is answered where nothing fails. -/
def Response.Serves (answer : Response) : Prop :=
  answer.status < 400 ∧ ∃ members, answer.body = .object members

theorem Response.isObject_failure (status : Nat) (message : String) :
    IsObject (Utf8.ofText (Response.failure status message).text) := by
  rw [Response.text, Json.render, Utf8.ofText_ofList]
  exact Json.isObject_write _

theorem Response.Serves.isObject {answer : Response} (h : answer.Serves) :
    IsObject (Utf8.ofText answer.text) := by
  obtain ⟨-, members, hbody⟩ := h
  rw [Response.text, hbody, Json.render, Utf8.ofText_ofList]
  exact Json.isObject_write members

theorem Response.serves_object (members : List (String × Json)) :
    (Response.mk 200 (.object members)).Serves :=
  ⟨show 200 < 400 by decide, members, rfl⟩

theorem Response.serves_ofOutcome (outcome : Outcome) : (Response.ofOutcome outcome).Serves := by
  cases outcome with
  | created => exact ⟨by decide, [], rfl⟩
  | updated => exact ⟨by decide, [], rfl⟩

namespace Catalog

theorem endsIn_iff : ((ofExcept checked >>= operation).run.run c).1 = .error error ↔
    c.EndsIn checked operation error := by
  rw [ofExcept_bind_run, EndsIn]
  cases checked with
  | error fault => simp
  | ok value => simp

theorem endsIn_bind_pure {γ : Type} {f : α → β → γ} :
    c.EndsIn checked (fun value => operation value >>= fun result => pure (f value result)) error ↔
      c.EndsIn checked operation error := by
  have hbind : ∀ value, ((operation value >>= fun result => pure (f value result)).run.run c).1 =
      .error error ↔ ((operation value).run.run c).1 = .error error := by
    intro value
    rw [bind_run]
    rcases (operation value).run.run c with ⟨⟨fault⟩ | ⟨result⟩, after⟩
    · simp
    · exact ⟨nofun, nofun⟩
  simp only [EndsIn, hbind]

/-- An operation answers with the error that it ends in, or with what it renders. -/
theorem error_or_serves {operation : CatalogM α} {render : α → Response}
    (hrender : ∀ value, (render value).Serves) :
    (∃ error, (operation.run.run c).1 = .error error) ∨
      ((answer operation render).run c).1.Serves := by
  rw [answer_run]
  cases (operation.run.run c).1 with
  | error error => exact .inl ⟨error, rfl⟩
  | ok value => exact .inr (hrender value)

theorem answer_of_error {operation : CatalogM α} {render : α → Response}
    (h : (operation.run.run c).1 = .error error) :
    ((answer operation render).run c).1 = .ofError error := by
  rw [answer_run, h]
  rfl

/-- A request that fails is answered with the status and the message of its failure. -/
theorem respond_failure (h : request.FailsWith c reason) :
    ((respond request).run c).1 = .failure reason.status reason.message := by
  unfold respond
  cases h with
  | unrouted hroute =>
    rw [hroute]
    rfl
  | @disallowed route hroute hmethod =>
    rw [hroute]
    cases route <;> cases hm : request.method <;> simp_all [Route.Allows] <;> rfl
  | query hroute hmethod hquery =>
    rw [hroute, hmethod]
    change ((answerListing request.query).run c).1 = _
    rw [answerListing, hquery]
    rfl
  | health hroute hmethod h =>
    rw [hroute, hmethod]
    exact answer_of_error h
  | listing hroute hmethod hquery h =>
    rw [hroute, hmethod]
    change ((answerListing request.query).run c).1 = _
    rw [answerListing, hquery]
    exact answer_of_error (endsIn_iff.2 h)
  | entity hroute hmethod h =>
    rw [hroute, hmethod]
    exact answer_of_error (endsIn_iff.2 (endsIn_bind_pure.2 h))
  | put hroute hmethod h =>
    rw [hroute, hmethod]
    exact answer_of_error (endsIn_iff.2 h)
  | patch hroute hmethod h =>
    rw [hroute, hmethod]
    exact answer_of_error (endsIn_iff.2 h)

/-- A request fails, or it is served. -/
theorem fails_or_serves (request : Request) (c : Catalog) :
    (∃ reason, request.FailsWith c reason) ∨ ((respond request).run c).1.Serves := by
  cases hroute : Route.ofPath? request.path with
  | none => exact .inl ⟨_, .unrouted hroute⟩
  | some route =>
    by_cases hallows : route.Allows request.method
    · unfold respond
      rw [hroute]
      cases route with
      | health =>
        rw [show request.method = .get from hallows]
        refine (error_or_serves fun stats => Response.serves_object _).imp_left ?_
        rintro ⟨error, h⟩
        exact ⟨_, .health hroute hallows h⟩
      | listing =>
        rw [show request.method = .get from hallows]
        change _ ∨ ((answerListing request.query).run c).1.Serves
        rw [answerListing]
        cases hquery : ListParams.ofQuery (request.query.getD "") with
        | error fault => exact .inl ⟨_, .query hroute hallows hquery⟩
        | ok params =>
          refine (error_or_serves fun listing => Response.serves_object _).imp_left ?_
          rintro ⟨error, h⟩
          exact ⟨_, .listing hroute hallows hquery (endsIn_iff.1 h)⟩
      | entity table text =>
        rw [show request.method = .get from hallows]
        refine (error_or_serves fun found => Response.serves_object _).imp_left ?_
        rintro ⟨error, h⟩
        exact ⟨_, .entity hroute hallows (endsIn_bind_pure.1 (endsIn_iff.1 h))⟩
      | submission kind text =>
        rcases hallows with hput | hpatch
        · rw [hput]
          refine (error_or_serves Response.serves_ofOutcome).imp_left ?_
          rintro ⟨error, h⟩
          exact ⟨_, .put hroute hput (endsIn_iff.1 h)⟩
        · rw [hpatch]
          refine (error_or_serves fun done => Response.serves_object _).imp_left ?_
          rintro ⟨error, h⟩
          exact ⟨_, .patch hroute hpatch (endsIn_iff.1 h)⟩
    · exact .inl ⟨_, .disallowed hroute hallows⟩

/-- Every answer is one object, on any tables and under a poisoned lock as well; and those of status
400 or more, which are exactly the failures, hold nothing but the whole message of the failure. -/
theorem answered_well (request : Request) (c : Catalog) :
    request.AnsweredWell c ((respond request).run c).1 := by
  constructor
  case object =>
    rcases fails_or_serves request c with ⟨reason, h⟩ | h
    · rw [respond_failure h]
      exact Response.isObject_failure _ _
    · exact h.isObject
  case failed =>
    constructor
    · intro hstatus
      rcases fails_or_serves request c with h | h
      · exact h
      · exact absurd hstatus (Nat.not_le.2 h.1)
    · rintro ⟨reason, h⟩
      rw [respond_failure h]
      exact reason.le_status
  case told =>
    intro reason h
    rw [respond_failure h]
    exact ⟨rfl, Response.tells_failure _ _⟩

end Catalog
end MovieCatalog
