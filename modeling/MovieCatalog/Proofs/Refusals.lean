import MovieCatalog.Proofs.Statuses
import MovieCatalog.Proofs.WriteEffects

/-! Refusals need no database. What is wrong with a request by itself is told alike by all catalogs,
and what the tables do not allow is never told as if the request were wrong by itself. -/
namespace MovieCatalog

/-- The answer that blames the caller for a failed check. -/
def Response.refusal? {α : Type} : Except CatalogError α → Option Response
  | .ok _ => none
  | .error error => some (.ofError error)

/-- The status is one that blames a request for what it says or for its method. -/
def Response.Blames (answer : Response) : Prop := answer.status = 400 ∨ answer.status = 405

namespace Request

/-- The answer to a query string that asks for no page. -/
def listingRefusal? (query : Option String) : Option Response :=
  match ListParams.ofQuery (query.getD "") with
  | .error fault => some (.failure 400 s!"Invalid query: {fault.message}")
  | .ok params =>
    Response.refusal? (params.request >>= fun asked => Catalog.resumePoint asked.pageToken)

/-- The answer that a request gets without the database, if it gets one. -/
def refusal? (request : Request) : Option Response :=
  match Route.ofPath? request.path, request.method with
  | none, _ => some (.noRoute request.path)
  | some .health, .get => none
  | some .listing, .get => listingRefusal? request.query
  | some (.entity _ text), .get => Response.refusal? (pathId text)
  | some (.submission kind text), .put =>
    Response.refusal? (putArguments kind text request.body)
  | some (.submission kind text), .patch =>
    Response.refusal? (patchArguments kind text request.body)
  | some _, _ => some .methodNotAllowed

/-- A catalog answers that the request is wrong by itself: it matches no route, or the answer blames
it. -/
def Faulted (request : Request) (c : Catalog) : Prop :=
  Route.ofPath? request.path = none ∨ ((Catalog.respond request).run c).1.Blames

/-- A request is judged by itself before the database has a part in it. -/
structure JudgedAlone (request : Request) : Prop where
  alike : ∀ c c', request.Faulted c → ∃ answer,
    (Catalog.respond request).run c = (answer, c) ∧
      (Catalog.respond request).run c' = (answer, c')
  poisoned : ∀ c c', c.poisoned = true → ¬ request.Faulted c' →
    (Catalog.respond request).run c = (.failure 500 "Database lock poisoned", c)
  only : ∀ c c', c.poisoned = true →
    (request.Faulted c' ↔ ((Catalog.respond request).run c).1.status ≠ 500)
  computed : ∀ c, request.Faulted c ↔ request.refusal? ≠ none

end Request

variable {α β : Type} {c : Catalog} {id : Uuid} {row : Option Entry} {request : Request}

/-- Whatever fails here is not told as a bad request. -/
def Spares (x : Except CatalogError α) : Prop := ∀ error, x = .error error → error.status ≠ 400

theorem spares_ok (value : α) : Spares (.ok value : Except CatalogError α) := by
  intro error h
  cases h

theorem spares_error {error : CatalogError} (h : (error.status == 400) = false) :
    Spares (.error error : Except CatalogError α) := by
  intro error' he
  cases he
  exact ne_of_beq_false h

/-- An error that is handed on. -/
theorem Spares.error {x : Except CatalogError α} {error : CatalogError} (hx : Spares x)
    (h : x = .error error) : Spares (.error error : Except CatalogError β) := by
  intro error' he
  cases he
  exact hx error h

theorem Spares.bind {x : Except CatalogError α} {f : α → Except CatalogError β} (hx : Spares x)
    (hf : ∀ value, Spares (f value)) : Spares (x >>= f) := by
  intro error h
  rcases bind_eq_error.1 h with h | ⟨value, -, h⟩
  · exact hx error h
  · exact hf value error h

theorem Spares.map {x : Except CatalogError α} (hx : Spares x) (f : α → β) : Spares (x.map f) := by
  cases x with
  | error error => exact hx.error rfl
  | ok value => exact spares_ok _

theorem Entity.spares_ofStored (table : Table) (tag body : String) :
    Spares (Entity.ofStored table tag body) := by
  rw [ofStored]
  split
  · exact spares_error rfl
  · split
    · exact spares_ok _
    · exact spares_error rfl

theorem Patch.spares_apply (patch : Patch) (id : Uuid) (entity : Entity) :
    Spares (patch.apply id entity) := by
  by_cases hkind : entity.kind = patch.kind
  · obtain ⟨entity', happly⟩ := exists_apply hkind id
    rw [happly]
    exact spares_ok _
  · rw [apply_of_ne hkind]
    exact spares_error rfl

/-- Only the nil identifier is the caller's fault, and no request gets as far with it. -/
theorem Entity.spares_admitted (hid : id.isNil = false) (entity : Entity) (row : Option Entry) :
    Spares (entity.admitted id row) := by
  rw [admitted, hid, if_neg Bool.false_ne_true]
  split
  · exact spares_ok _
  · exact spares_error rfl

theorem Write.spares_entity {write : Write} (hid : write.id.isNil = false) (row : Option Entry) :
    Spares (write.entity row) := by
  cases write with
  | put id entity => exact entity.spares_admitted hid row
  | patch id change =>
    cases row with
    | none => exact spares_error rfl
    | some found =>
      exact (Entity.spares_ofStored _ _ _).bind fun stored =>
        (change.spares_apply id stored).bind fun patched => patched.spares_admitted hid _

theorem Statement.spares_parseColumns (column : Nat) (texts : List String) :
    Spares (parseColumns column texts) := by
  induction texts with
  | nil => exact spares_ok _
  | cons text texts ih =>
    rw [parseColumns, parseColumn]
    cases Uuid.parse text with
    | error fault => exact spares_error rfl
    | ok id =>
      cases hrest : parseColumns column texts with
      | error error => exact ih.error hrest
      | ok ids => exact spares_ok _

theorem PlanRecord.spares_ofEntries (entries : List (Uuid × Entry)) :
    Spares (PlanRecord.ofEntries entries) := by
  induction entries with
  | nil => exact spares_ok _
  | cons entry more ih =>
    rw [ofEntries]
    cases hplan : Entity.ofStored .plans entry.2.tag entry.2.body with
    | error error => exact (Entity.spares_ofStored _ _ _).error hplan
    | ok plan =>
      cases hmore : ofEntries more with
      | error error => exact ih.error hmore
      | ok records => exact spares_ok _

theorem PlanPage.spares_ofRows (size : Nat) (rows : List Entry) :
    Spares (PlanPage.ofRows size rows) := by
  rw [ofRows]
  cases hids : Statement.parseColumns 0 (rows.map Entry.id) with
  | error error => exact (Statement.spares_parseColumns _ _).error hids
  | ok ids =>
    simp only
    cases hitems : PlanRecord.ofEntries ((ids.zip rows).take size) with
    | error error => exact (PlanRecord.spares_ofEntries _).error hitems
    | ok items => exact spares_ok _

namespace Catalog

/-- The operation asks the database: a poisoned lock stops it, and its failures spare the caller. -/
structure Asks (operation : CatalogM α) : Prop where
  poisoned : ∀ c, c.poisoned = true → operation.run.run c = (.error .lockPoisoned, c)
  spares : ∀ c, Spares (operation.run.run c).1

theorem asks_transact {statement : Statement α} (h : ∀ s, Spares (statement.run.run s).1) :
    Asks (transact statement) := by
  constructor
  case poisoned =>
    intro c hp
    exact transact_poisoned hp statement
  case spares =>
    intro c
    cases hp : c.poisoned with
    | true =>
      rw [transact_poisoned hp]
      exact spares_error rfl
    | false =>
      have hspares := h c.store
      rcases transact_cases hp statement with ⟨value, s, -, hrun⟩ | ⟨error, s, hs, hrun⟩
      · rw [hrun]
        exact spares_ok _
      · rw [hrun]
        rw [hs] at hspares
        exact hspares

theorem Asks.bind_pure {operation : CatalogM α} (h : Asks operation) (f : α → β) :
    Asks (operation >>= fun value => pure (f value)) := by
  constructor
  case poisoned =>
    intro c hp
    rw [bind_run, h.poisoned c hp]
  case spares =>
    intro c
    have hspares := h.spares c
    rw [bind_run]
    rcases hrun : operation.run.run c with ⟨⟨error⟩ | ⟨value⟩, after⟩
    · rw [hrun] at hspares
      exact hspares.error rfl
    · exact spares_ok _

theorem asks_stats : Asks stats := by
  constructor
  case poisoned =>
    intro c hp
    change (if c.poisoned then _ else _ : CatalogM Stats).run.run c = _
    rw [hp]
    rfl
  case spares =>
    intro c
    change Spares ((if c.poisoned then _ else _ : CatalogM Stats).run.run c).1
    cases c.poisoned with
    | true => exact spares_error rfl
    | false => exact spares_ok _

theorem asks_getEntity (table : Table) (id : Uuid) : Asks (getEntity table id) := by
  refine asks_transact ?_
  intro s
  rw [Statement.load_run]
  cases s.find? table id.text with
  | none => exact spares_error rfl
  | some row => exact Entity.spares_ofStored _ _ _

theorem asks_page (filter : PlanFilter) (after : Option Uuid) (size : Nat) :
    Asks (transact (Statement.listPlans filter after size)) := by
  refine asks_transact ?_
  intro s
  rw [Statement.listPlans_eq]
  exact PlanPage.spares_ofRows _ _

/-- The checks of the store that blame the caller are never reached by a request: only the nil
identifier fails them, and it has been refused before. -/
theorem spares_write (write : Write) (hid : write.id.isNil = false) (c : Catalog) :
    ∃ result, (write.run.run c).1 = write.reply result ∧ Spares result := by
  cases hp : c.poisoned with
  | true =>
    rw [Write.run_poisoned hp]
    exact ⟨_, rfl, spares_error rfl⟩
  | false =>
    have hresult := Write.result hp write
    generalize write.run.run c = answered at hresult ⊢
    cases hresult with
    | refused judged => exact ⟨_, rfl, (Write.spares_entity hid _).error judged⟩
    | dangles judged missing => exact ⟨_, rfl, spares_error rfl⟩
    | stored judged targets => exact ⟨_, rfl, spares_ok _⟩

theorem asks_putEntity (hid : id.isNil = false) (entity : Entity) : Asks (putEntity id entity) := by
  constructor
  case poisoned =>
    intro c hp
    exact transact_poisoned hp _
  case spares =>
    intro c
    obtain ⟨result, hreply, hspares⟩ := spares_write (.put id entity) hid c
    have hresult : ((putEntity id entity).run.run c).1 = result := Reply.put.inj hreply
    rw [hresult]
    exact hspares

theorem asks_patchEntity (hid : id.isNil = false) (patch : Patch) :
    Asks (patchEntity id patch) := by
  constructor
  case poisoned =>
    intro c hp
    exact transact_poisoned hp _
  case spares =>
    intro c
    obtain ⟨result, hreply, hspares⟩ := spares_write (.patch id patch) hid c
    have hresult : ((patchEntity id patch).run.run c).1 = result.map fun _ => () :=
      Reply.patch.inj hreply
    rw [hresult]
    exact hspares.map _

/-- The run of a request, and the answer that it gets without the database, if it gets one. -/
inductive Settles (run : StateM Catalog Response) : Option Response → Prop where
  | refused {answer : Response} (blames : answer.Blames) (answered : ∀ c, run.run c = (answer, c)) :
      Settles run (some answer)
  | asks (poisoned : ∀ c, c.poisoned = true → run.run c = (.ofError .lockPoisoned, c))
      (spared : ∀ c, ¬ (run.run c).1.Blames) : Settles run none

theorem not_blames_ofError {error : CatalogError} (h : error.status ≠ 400) :
    ¬ (Response.ofError error).Blames := by
  rintro (h' | h')
  · exact h h'
  · cases error <;> cases h'

theorem settles_asks {operation : CatalogM α} {render : α → Response} (h : Asks operation)
    (hrender : ∀ value, ¬ (render value).Blames) : Settles (answer operation render) none := by
  refine .asks ?_ ?_
  · intro c hp
    rw [answer_run, h.poisoned c hp]
    rfl
  · intro c
    have hspares := h.spares c
    rw [answer_run]
    generalize (operation.run.run c).1 = result at hspares ⊢
    cases result with
    | error error => exact not_blames_ofError (hspares error rfl)
    | ok value => exact hrender value

/-- A check by itself, and an operation on what it lets through. -/
theorem settles_checked {checked : Except CatalogError α} {operation : α → CatalogM β}
    {render : β → Response} (hchecked : Refuses checked)
    (hasks : ∀ value, checked = .ok value → Asks (operation value))
    (hrender : ∀ value, ¬ (render value).Blames) :
    Settles (answer (ofExcept checked >>= operation) render) (Response.refusal? checked) := by
  cases checked with
  | error error => exact .refused (.inl (hchecked error rfl)) fun c => rfl
  | ok value => exact settles_asks (hasks value rfl) hrender

theorem not_blames_ok (body : Json) : ¬ (Response.mk 200 body).Blames := by
  rintro (h | h) <;> cases h

theorem not_blames_ofOutcome (outcome : Outcome) : ¬ (Response.ofOutcome outcome).Blames := by
  cases outcome <;> rintro (h | h) <;> cases h

theorem settles_listing (query : Option String) :
    Settles (answerListing query) (Request.listingRefusal? query) := by
  unfold answerListing Request.listingRefusal?
  cases ListParams.ofQuery (query.getD "") with
  | error fault => exact .refused (.inl rfl) fun c => rfl
  | ok params =>
    simp only
    cases hasked : params.request with
    | error error => exact .refused (.inl (refuses_request params error hasked)) fun c => rfl
    | ok asked =>
      exact settles_checked (refuses_resumePoint asked.pageToken)
        (fun after _ => (asks_page asked.filter after asked.pageSize).bind_pure _)
        fun listing => not_blames_ok _

theorem settles_entity (table : Table) (text : String) :
    Settles (answerEntity table text) (Response.refusal? (pathId text)) :=
  settles_checked (refuses_parseId _ _) (fun id _ => (asks_getEntity table id).bind_pure _)
    fun _ => not_blames_ok _

theorem settles_put (kind : Kind) (text : String) (body : Bytes) :
    Settles (answerPut kind text body) (Response.refusal? (putArguments kind text body)) := by
  refine settles_checked (refuses_putArguments kind text body) ?_ not_blames_ofOutcome
  intro arguments harguments
  exact asks_putEntity (putArguments_wellFormed harguments).1 arguments.2

theorem settles_patch (kind : Kind) (text : String) (body : Bytes) :
    Settles (answerPatch kind text body) (Response.refusal? (patchArguments kind text body)) := by
  refine settles_checked (refuses_patchArguments kind text body) ?_ fun _ => not_blames_ok _
  intro arguments harguments
  exact asks_patchEntity (parseId_named (patchArguments_ok harguments).1) arguments.2

/-- Where there is a route, the request is refused without the database or asks it. -/
theorem settles_respond (hroute : Route.ofPath? request.path ≠ none) :
    Settles (respond request) request.refusal? := by
  have hmethod : Settles (pure .methodNotAllowed) (some .methodNotAllowed) :=
    .refused (.inr rfl) fun c => rfl
  unfold respond Request.refusal?
  cases hpath : Route.ofPath? request.path with
  | none => exact absurd hpath hroute
  | some route =>
    cases route with
    | health =>
      cases request.method with
      | get => exact settles_asks asks_stats fun stats => not_blames_ok _
      | _ => exact hmethod
    | listing =>
      cases request.method with
      | get => exact settles_listing request.query
      | _ => exact hmethod
    | entity table text =>
      cases request.method with
      | get => exact settles_entity table text
      | _ => exact hmethod
    | submission kind text =>
      cases request.method with
      | put => exact settles_put kind text request.body
      | patch => exact settles_patch kind text request.body
      | _ => exact hmethod

/-- A refusal is the answer of all catalogs, and tells that the request is at fault. -/
theorem respond_refused {answer : Response} (h : request.refusal? = some answer) (c : Catalog) :
    (respond request).run c = (answer, c) ∧ request.Faulted c ∧ answer.status ≠ 500 := by
  by_cases hroute : Route.ofPath? request.path = none
  -- A path without a route is answered 404, as is a row that is missing; only the path can tell.
  · unfold Request.refusal? at h
    rw [hroute] at h
    cases h
    refine ⟨?_, .inl hroute, ?_⟩
    · unfold respond
      rw [hroute]
      rfl
    · intro hstatus
      cases hstatus
  · have hsettles := settles_respond hroute
    rw [h] at hsettles
    cases hsettles with
    | refused blames answered =>
      refine ⟨answered c, .inr ?_, ?_⟩
      · rw [answered c]
        exact blames
      · intro hstatus
        rcases blames with hblames | hblames <;> rw [hstatus] at hblames <;> cases hblames

/-- Without a refusal the database has the last word, which is never that the request is at
fault. -/
theorem respond_asks (h : request.refusal? = none) (c : Catalog) :
    (c.poisoned = true → (respond request).run c = (.ofError .lockPoisoned, c)) ∧
      ¬ request.Faulted c := by
  have hroute : Route.ofPath? request.path ≠ none := by
    intro hnone
    unfold Request.refusal? at h
    rw [hnone] at h
    cases h
  have hsettles := settles_respond hroute
  rw [h] at hsettles
  cases hsettles with
  | asks poisoned spared =>
    refine ⟨poisoned c, ?_⟩
    rintro (hnone | hblames)
    · exact hroute hnone
    · exact spared c hblames

theorem faulted_iff (c : Catalog) : request.Faulted c ↔ request.refusal? ≠ none := by
  constructor
  · intro hfaulted hnone
    exact (respond_asks hnone c).2 hfaulted
  · intro hrefusal
    obtain ⟨answer, hanswer⟩ := Option.ne_none_iff_exists'.1 hrefusal
    exact (respond_refused hanswer c).2.1

/-- Validation is independent of the database. What one catalog blames a request for, every other
one does alike, sound or not, poisoned or not; and a poisoned catalog tells of its lock in answer to
exactly the other requests. -/
theorem judged_alone (request : Request) : request.JudgedAlone := by
  constructor
  case alike =>
    intro c c' hfaulted
    obtain ⟨answer, hanswer⟩ := Option.ne_none_iff_exists'.1 ((faulted_iff c).1 hfaulted)
    exact ⟨answer, (respond_refused hanswer c).1, (respond_refused hanswer c').1⟩
  case poisoned =>
    intro c c' hp hfaulted
    rw [faulted_iff, Classical.not_not] at hfaulted
    exact (respond_asks hfaulted c).1 hp
  case only =>
    intro c c' hp
    rw [faulted_iff]
    cases hrefusal : request.refusal? with
    | none =>
      rw [(respond_asks hrefusal c).1 hp]
      exact ⟨fun h => absurd rfl h, fun h => absurd rfl h⟩
    | some answer =>
      rw [(respond_refused hrefusal c).1]
      exact ⟨fun _ => (respond_refused hrefusal c).2.2, fun _ => Option.some_ne_none _⟩
  case computed => exact faulted_iff

end Catalog
end MovieCatalog
