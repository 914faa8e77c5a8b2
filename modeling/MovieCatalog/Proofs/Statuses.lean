import MovieCatalog.Proofs.Listing
import MovieCatalog.Proofs.ProperRows

/-! The status of an answer. What a request demands is judged without the tables; after that only
the kinds of the rows that it names matter. -/
namespace MovieCatalog

/-- The kind tags of rows by table and identifier, where there are rows. -/
abbrev Kinds := Table → Uuid → Option String

/-- The kind tag of a row. -/
def Store.tag? (s : Store) (table : Table) (id : Uuid) : Option String :=
  (s.find? table id.text).map Entry.tag

/-- Whether all targets have rows. -/
def Kinds.present (kinds : Kinds) (targets : Side → Option Uuid) : Bool :=
  [Side.input, .output].all fun side =>
    (targets side).all fun target => (kinds side.target target).isSome

/-- What a request demands of the tables. Puts and patches are demanded by valid requests only. -/
inductive Demand where
  | unrouted
  | disallowed
  | refused
  | overview
  | get (table : Table) (id : Uuid)
  | put (id : Uuid) (entity : Entity)
  | patch (id : Uuid) (patch : Patch)

namespace Demand

/-- The demand of a request for a page, whose query string and token must be readable. -/
def ofQuery (query : Option String) : Demand :=
  match ListParams.ofQuery (query.getD "") with
  | .error _ => .refused
  | .ok params =>
    match params.request >>= fun asked => Catalog.resumePoint asked.pageToken with
    | .error _ => .refused
    | .ok _ => .overview

def ofGet (table : Table) (text : String) : Demand :=
  match pathId text with
  | .error _ => .refused
  | .ok id => .get table id

def ofPut (kind : Kind) (text : String) (body : Bytes) : Demand :=
  match putArguments kind text body with
  | .error _ => .refused
  | .ok (id, entity) => .put id entity

def ofPatch (kind : Kind) (text : String) (body : Bytes) : Demand :=
  match patchArguments kind text body with
  | .error _ => .refused
  | .ok (id, change) => .patch id change

end Demand

/-- The demand of a request, by its path and its method. -/
def Request.demand (request : Request) : Demand :=
  match Route.ofPath? request.path, request.method with
  | none, _ => .unrouted
  | some .health, .get => .overview
  | some .listing, .get => .ofQuery request.query
  | some (.entity table text), .get => .ofGet table text
  | some (.submission kind text), .put => .ofPut kind text request.body
  | some (.submission kind text), .patch => .ofPatch kind text request.body
  | some _, _ => .disallowed

/-- The status of the answer to a demand. A write is held against the kind of its row before its
targets are looked for. -/
def Demand.status (kinds : Kinds) : Demand → Nat
  | .unrouted => 404
  | .disallowed => 405
  | .refused => 400
  | .overview => 200
  | .get table id =>
    match kinds table id with
    | none => 404
    | some _ => 200
  | .put id entity =>
    match kinds entity.kind.table id with
    | none => if kinds.present entity.targets then 201 else 500
    | some tag =>
      if tag = entity.kind.tag then if kinds.present entity.targets then 200 else 500 else 409
  | .patch id change =>
    match kinds change.kind.table id with
    | none => 404
    | some tag =>
      if tag = change.kind.tag then if kinds.present change.targets then 200 else 500 else 409

/-- Which demands get which status, by the kinds of rows alone. -/
structure Demand.Decides (demand : Demand) (kinds : Kinds) (status : Nat) : Prop where
  determined : status = demand.status kinds
  created : status = 201 ↔ ∃ id entity, demand = .put id entity ∧
    kinds entity.kind.table id = none ∧
    ∀ side target, entity.targets side = some target → kinds side.target target ≠ none
  conflict : status = 409 ↔
    (∃ id entity tag, demand = .put id entity ∧
      kinds entity.kind.table id = some tag ∧ tag ≠ entity.kind.tag) ∨
    ∃ id patch tag, demand = .patch id patch ∧
      kinds patch.kind.table id = some tag ∧ tag ≠ patch.kind.tag
  missing : status = 404 ↔ demand = .unrouted ∨
    (∃ table id, demand = .get table id ∧ kinds table id = none) ∨
    ∃ id patch, demand = .patch id patch ∧ kinds patch.kind.table id = none
  broken : status = 500 ↔
    (∃ id entity, demand = .put id entity ∧
      (kinds entity.kind.table id = none ∨ kinds entity.kind.table id = some entity.kind.tag) ∧
      ∃ side target, entity.targets side = some target ∧ kinds side.target target = none) ∨
    ∃ id patch, demand = .patch id patch ∧ kinds patch.kind.table id = some patch.kind.tag ∧
      ∃ side target, patch.targets side = some target ∧ kinds side.target target = none

variable {α β : Type} {c : Catalog} {s : Store} {kinds : Kinds} {targets : Side → Option Uuid}
  {demand : Demand} {id : Uuid} {entity : Entity} {patch : Patch} {table : Table}

theorem Kinds.present_iff : kinds.present targets = true ↔
    ∀ side target, targets side = some target → kinds side.target target ≠ none := by
  simp only [present, List.all_cons, List.all_nil, Bool.and_true, Bool.and_eq_true,
    Option.all_eq_true, Option.isSome_iff_ne_none]
  constructor
  · rintro ⟨hin, hout⟩ side
    cases side with
    | input => exact hin
    | output => exact hout
  · intro h
    exact ⟨h .input, h .output⟩

theorem Kinds.not_present_iff : ¬ kinds.present targets = true ↔
    ∃ side target, targets side = some target ∧ kinds side.target target = none := by
  rw [present_iff]
  simp

/-- The targets that tables have are those whose kinds they have. -/
theorem Store.present_tag? : Kinds.present s.tag? targets = true ↔ s.HasTargets targets := by
  rw [Kinds.present_iff, HasTargets]
  simp only [tag?, ne_eq, Option.map_eq_none_iff, has, Option.isSome_iff_ne_none, Option.mem_def]

theorem Demand.decides (demand : Demand) (kinds : Kinds) :
    demand.Decides kinds (demand.status kinds) := by
  constructor
  -- With the targets as a single test the cases are about tags alone.
  case determined => rfl
  case created =>
    simp only [← Kinds.present_iff]
    cases demand <;> grind [status]
  case conflict => cases demand <;> grind [status]
  case missing => cases demand <;> grind [status]
  case broken =>
    simp only [← Kinds.not_present_iff]
    cases demand <;> grind [status]

/-- To get is never to break anything. -/
theorem Request.status_of_get {request : Request} (h : request.method = .get) (kinds : Kinds) :
    request.demand.status kinds ≠ 500 := by
  unfold demand
  rw [h]
  cases Route.ofPath? request.path with
  | none => simp [Demand.status]
  | some route =>
    cases route with
    | health => simp [Demand.status]
    | listing =>
      simp only [Demand.ofQuery]
      split
      · simp [Demand.status]
      · split <;> simp [Demand.status]
    | entity table text =>
      simp only [Demand.ofGet]
      split
      · simp [Demand.status]
      · rename_i id hid
        cases hkind : kinds table id <;> simp [Demand.status, hkind]
    | submission kind text => simp [Demand.status]

/-- Whatever fails here is told to the caller as a bad request. -/
def Refuses (x : Except CatalogError α) : Prop := ∀ error, x = .error error → error.status = 400

theorem refuses_ok (value : α) : Refuses (.ok value : Except CatalogError α) := by
  intro error h
  cases h

theorem refuses_invalidField (name : String) (problem : FieldProblem) :
    Refuses (invalidField name problem : Except CatalogError α) := by
  intro error h
  cases h
  rfl

theorem Refuses.bind {x : Except CatalogError α} {f : α → Except CatalogError β}
    (hx : Refuses x) (hf : ∀ value, Refuses (f value)) : Refuses (x >>= f) := by
  intro error h
  cases x with
  | error fault =>
    cases h
    exact hx error rfl
  | ok value => exact hf value error h

theorem refuses_parseId (name text : String) : Refuses (parseId name text) := by
  rw [parseId]
  split
  · exact refuses_invalidField _ _
  · split
    · exact refuses_invalidField _ _
    · exact refuses_ok _

namespace Field

theorem refuses_required (name : String) (field : Field α) : Refuses (field.required name) := by
  cases field with
  | absent => exact refuses_invalidField _ _
  | null => exact refuses_invalidField _ _
  | value content => exact refuses_ok _

theorem refuses_notNull (name : String) (field : Field α) : Refuses (field.notNull name) := by
  cases field with
  | absent => exact refuses_ok _
  | null => exact refuses_invalidField _ _
  | value content => exact refuses_ok _

theorem refuses_requiredText (name : String) (field : Field String) :
    Refuses (field.requiredText name) := by
  refine (refuses_required name field).bind ?_
  intro text
  split
  · exact refuses_invalidField _ _
  · exact refuses_ok _

theorem refuses_patchText (name : String) (field : Field String) :
    Refuses (field.patchText name) := by
  refine (refuses_notNull name field).bind ?_
  intro given
  split
  · exact refuses_ok _
  · split
    · exact refuses_invalidField _ _
    · exact refuses_ok _

theorem refuses_requiredId (name : String) (field : Field String) :
    Refuses (field.requiredId name) :=
  (refuses_required name field).bind (refuses_parseId name)

theorem refuses_patchId (name : String) (field : Field String) : Refuses (field.patchId name) := by
  refine (refuses_notNull name field).bind ?_
  intro given
  split
  · exact refuses_ok _
  · exact (refuses_parseId name _).bind fun id => refuses_ok _

end Field

namespace Submission

open MovieCatalog.Field

theorem refuses_ends (source work : Field String) : Refuses (Submission.ends source work) :=
  (refuses_requiredId _ _).bind fun _ => (refuses_requiredId _ _).bind fun _ => refuses_ok _

theorem refuses_planChange (source work : Field String) (start stop : Field Int32) :
    Refuses (planChange source work start stop) :=
  (refuses_patchId _ _).bind fun _ => (refuses_patchId _ _).bind fun _ => refuses_ok _

theorem refuses_entity (submission : Submission) : Refuses submission.entity := by
  cases submission with
  | movie => exact (refuses_requiredText _ _).bind fun _ => refuses_ok _
  | edition => exact (refuses_requiredText _ _).bind fun _ => refuses_ok _
  | file => exact (refuses_requiredText _ _).bind fun _ => refuses_ok _
  | disc =>
    exact (refuses_requiredText _ _).bind fun _ => (refuses_requiredText _ _).bind fun _ =>
      (refuses_notNull _ _).bind fun _ => refuses_ok _
  | direct => exact (refuses_ends _ _).bind fun _ => refuses_ok _
  | chapterRange => exact (refuses_ends _ _).bind fun _ => refuses_ok _

theorem refuses_patch (submission : Submission) : Refuses submission.patch := by
  cases submission with
  | movie => exact (refuses_patchText _ _).bind fun _ => refuses_ok _
  | edition => exact (refuses_patchText _ _).bind fun _ => refuses_ok _
  | file => exact (refuses_patchText _ _).bind fun _ => refuses_ok _
  | disc =>
    exact (refuses_patchText _ _).bind fun _ => (refuses_patchText _ _).bind fun _ =>
      (refuses_notNull _ _).bind fun _ => refuses_ok _
  | direct => exact (refuses_planChange _ _ _ _).bind fun _ => refuses_ok _
  | chapterRange => exact (refuses_planChange _ _ _ _).bind fun _ => refuses_ok _

end Submission

theorem refuses_readBody (kind : Kind) (body : Bytes) : Refuses (readBody kind body) := by
  intro error h
  rw [readBody] at h
  split at h
  · cases h
    rfl
  · split at h
    · cases h
    · cases h
      rfl

theorem refuses_putArguments (kind : Kind) (text : String) (body : Bytes) :
    Refuses (putArguments kind text body) :=
  (refuses_parseId _ _).bind fun _ => (refuses_readBody _ _).bind fun submission =>
    submission.refuses_entity.bind fun _ => refuses_ok _

theorem refuses_patchArguments (kind : Kind) (text : String) (body : Bytes) :
    Refuses (patchArguments kind text body) :=
  (refuses_parseId _ _).bind fun _ => (refuses_readBody _ _).bind fun submission =>
    submission.refuses_patch.bind fun _ => refuses_ok _

theorem refuses_filterId (name : String) (value : Option String) :
    Refuses (filterId name value) := by
  intro error h
  cases value with
  | none => cases h
  | some text =>
    rw [filterId] at h
    split at h
    · cases h
    · split at h
      · cases h
        rfl
      · cases h

theorem refuses_request (params : ListParams) : Refuses params.request :=
  (refuses_filterId _ _).bind fun _ => (refuses_filterId _ _).bind fun _ => refuses_ok _

theorem refuses_resumePoint (token : Option String) : Refuses (Catalog.resumePoint token) := by
  intro error h
  cases token with
  | none => cases h
  | some token =>
    rw [Catalog.resumePoint] at h
    split at h
    · cases h
      rfl
    · cases h

namespace Catalog

theorem status_health (hp : c.poisoned = false) :
    (answerHealth.run c).1.status = Demand.overview.status c.store.tag? := by
  have hstats : (stats.run.run c).1 =
      .ok ⟨c.store.works.length, c.store.sources.length, c.store.plans.length⟩ := by
    change ((if c.poisoned then _ else _ : CatalogM Stats).run.run c).1 = _
    rw [hp]
    rfl
  rw [answerHealth, answer_run, hstats]
  rfl

/-- On sound tables a request for a page fails only by its query. -/
theorem status_listing (hp : c.poisoned = false) (h : c.store.Sound) (query : Option String) :
    ((answerListing query).run c).1.status = (Demand.ofQuery query).status c.store.tag? := by
  unfold answerListing Demand.ofQuery
  cases ListParams.ofQuery (query.getD "") with
  | error fault => rfl
  | ok params =>
    simp only
    rw [answer_run, ofExcept_bind_run]
    have hrefuses := refuses_request params
    generalize params.request = asked at hrefuses ⊢
    cases asked with
    | error error => exact hrefuses error rfl
    | ok asked =>
      change (Response.ofResult _ ((listPlans _ _ _).run.run c).1).status =
        (match resumePoint asked.pageToken with
          | .error _ => Demand.refused
          | .ok _ => Demand.overview).status c.store.tag?
      cases ht : resumePoint asked.pageToken with
      | error error =>
        rw [listPlans, ofExcept_bind_run, ht]
        exact refuses_resumePoint _ error ht
      | ok after =>
        obtain ⟨records, hl, -⟩ := h.exists_lists asked.filter after
        rw [listPlans_run hp h hl ht]
        rfl

/-- On sound tables whatever row is there can be read. -/
theorem status_entity (hp : c.poisoned = false) (h : c.store.Sound) (table : Table)
    (text : String) :
    ((answerEntity table text).run c).1.status = (Demand.ofGet table text).status c.store.tag? := by
  rw [answerEntity, answer_run, ofExcept_bind_run, Demand.ofGet]
  cases hid : pathId text with
  | error error => exact refuses_parseId _ _ error hid
  | ok id =>
    simp only
    rw [bind_run, Demand.status, Store.tag?, getEntity]
    cases hf : c.store.find? table id.text with
    | none =>
      rw [transact_error hp (Statement.load_absent hf)]
      rfl
    | some row =>
      obtain ⟨-, entity, -, -, hstored⟩ := h.holds_of_find? hf
      rw [transact_ok hp (Statement.load_ok.2 ⟨rfl, row, hf, hstored⟩)]
      rfl

theorem status_putEntity (hp : c.poisoned = false) (h : c.store.Proper) (hid : id.isNil = false)
    (entity : Entity) :
    (Response.ofResult Response.ofOutcome ((putEntity id entity).run.run c).1).status =
      (Demand.put id entity).status c.store.tag? := by
  have hresult := putEntity_result hp hid entity
  generalize (putEntity id entity).run.run c = result at hresult ⊢
  rw [Demand.status, Store.tag?]
  cases hresult with
  | conflict found other =>
    rw [found]
    exact (if_neg other).symm
  | dangles accepts missing =>
    rw [← Store.present_tag?] at missing
    cases hf : c.store.find? entity.kind.table id.text with
    | none => exact (if_neg missing).symm
    | some row =>
      simp only [Option.map_some, accepts.agrees row hf, if_true]
      exact (if_neg missing).symm
  | stored accepts targets =>
    rw [← Store.present_tag?] at targets
    cases hf : c.store.find? entity.kind.table id.text with
    | none =>
      simp only [Option.map_none, Store.outcome, hf]
      exact (if_pos targets).symm
    | some row =>
      -- A row that is there has a revision, so the write is not its first.
      have hrevision := h.revised _ _ _ hf
      have hupdated : Outcome.ofRevision (row.revision + 1) = .updated := if_neg (by omega)
      simp only [Option.map_some, accepts.agrees row hf, Store.outcome, hf, hupdated, if_true]
      exact (if_pos targets).symm

theorem status_put (hp : c.poisoned = false) (h : c.store.Proper) (kind : Kind) (text : String)
    (body : Bytes) : ((answerPut kind text body).run c).1.status =
      (Demand.ofPut kind text body).status c.store.tag? := by
  rw [answerPut_run, Demand.ofPut]
  cases harguments : putArguments kind text body with
  | error error => exact refuses_putArguments _ _ _ error harguments
  | ok arguments => exact status_putEntity hp h (putArguments_wellFormed harguments).1 arguments.2

theorem status_patchEntity (hp : c.poisoned = false) (h : c.store.Sound) (id : Uuid)
    (patch : Patch) :
    (Response.ofResult Response.ofPatch ((patchEntity id patch).run.run c).1).status =
      (Demand.patch id patch).status c.store.tag? := by
  have hresult := patchEntity_result hp h id patch
  generalize (patchEntity id patch).run.run c = result at hresult ⊢
  rw [Demand.status, Store.tag?]
  cases hresult with
  | absent none =>
    rw [none]
    rfl
  | conflict found other =>
    rw [found]
    exact (if_neg other).symm
  | dangles held same missing =>
    obtain ⟨revision, hf⟩ := held.2
    rw [← Store.present_tag?] at missing
    simp only [hf, Option.map_some, same, if_true]
    exact (if_neg missing).symm
  | stored held applied accepts targets =>
    obtain ⟨revision, hf⟩ := held.2
    rw [← Store.present_tag?] at targets
    simp only [hf, Option.map_some, (Patch.kind_of_apply applied).1, if_true]
    exact (if_pos targets).symm

theorem status_patch (hp : c.poisoned = false) (h : c.store.Sound) (kind : Kind) (text : String)
    (body : Bytes) : ((answerPatch kind text body).run c).1.status =
      (Demand.ofPatch kind text body).status c.store.tag? := by
  rw [answerPatch_run, Demand.ofPatch]
  cases harguments : patchArguments kind text body with
  | error error => exact refuses_patchArguments _ _ _ error harguments
  | ok arguments => exact status_patchEntity hp h arguments.1 arguments.2

/-- The status of every answer is that of the demand over the kinds of the rows. -/
theorem status_respond (hp : c.poisoned = false) (h : c.store.Proper) (request : Request) :
    ((respond request).run c).1.status = request.demand.status c.store.tag? := by
  unfold respond Request.demand
  cases Route.ofPath? request.path with
  | none => rfl
  | some route =>
    cases route with
    | health =>
      cases request.method with
      | get => exact status_health hp
      | _ => rfl
    | listing =>
      cases request.method with
      | get => exact status_listing hp h.sound request.query
      | _ => rfl
    | entity table text =>
      cases request.method with
      | get => exact status_entity hp h.sound table text
      | _ => rfl
    | submission kind text =>
      cases request.method with
      | put => exact status_put hp h kind text request.body
      | patch => exact status_patch hp h.sound kind text request.body
      | _ => rfl

/-- The request and the kinds of the rows decide the status of an answer, and nothing that is only
read is ever answered 500. -/
theorem status_served (requests : List Request) (request : Request) :
    request.demand.Decides (served requests).store.tag?
        ((respond request).run (served requests)).1.status ∧
      (request.method = .get → ((respond request).run (served requests)).1.status ≠ 500) := by
  rw [status_respond (poisoned_served requests) (proper_served requests)]
  exact ⟨Demand.decides _ _, fun hget => Request.status_of_get hget _⟩

end Catalog
end MovieCatalog
