import MovieCatalog.Proofs.Runs
import MovieCatalog.Proofs.Soundness
import MovieCatalog.Proofs.Submissions

/-! Operations in a history: calls, and writes of rows whose bodies nothing reads. Each one is
refused, reads only, or writes the one row that it is about. -/
namespace MovieCatalog

/-- A call, or the write of a row as it is given, in a transaction of its own. -/
inductive Operation where
  | call (call : Call)
  | upsert (table : Table) (id : Uuid) (tag body : String)

def Operation.run : Operation → StateM Catalog Reply
  | .call made => made.run
  | .upsert table id tag body => do
    return .put (← (Catalog.transact (Statement.upsert table id tag body)).run)

/-- The row that a write is about, the kind that it names, and whether it puts or patches. -/
structure Aim where
  table : Table
  id : Uuid
  tag : String
  puts : Bool

/-- The aim of a request to write, as its path and method tell. -/
def Request.aim? (request : Request) : Option Aim :=
  match Route.ofPath? request.path, request.method with
  | some (.submission kind text), .put =>
    (pathId text).toOption.map fun id => ⟨kind.table, id, kind.tag, true⟩
  | some (.submission kind text), .patch =>
    (pathId text).toOption.map fun id => ⟨kind.table, id, kind.tag, false⟩
  | _, _ => none

def Operation.aim? : Operation → Option Aim
  | .call (.put id entity) => some ⟨entity.kind.table, id, entity.kind.tag, true⟩
  | .call (.patch id patch) => some ⟨patch.kind.table, id, patch.kind.tag, false⟩
  | .call (.request request) => request.aim?
  | .upsert table id tag _ => some ⟨table, id, tag, true⟩

/-- Whether the identifier and the body of a request to put are valid. -/
def Request.isValid (request : Request) : Bool :=
  match Route.ofPath? request.path with
  | some (.submission kind text) => (putArguments kind text request.body).isOk
  | _ => false

/-- Whether an operation is judged by the tables alone. -/
def Operation.isValid : Operation → Bool
  | .call (.request request) => request.isValid
  | _ => true

namespace Reply

/-- An answer of success has status 200 or 201. -/
def succeeded : Reply → Bool
  | .put (.ok _) | .patch (.ok _) => true
  | .put (.error _) | .patch (.error _) => false
  | .answer response => response.status == 200 || response.status == 201

/-- What a reply to a put reports. -/
def outcome? : Reply → Option Outcome
  | .put (.ok outcome) => some outcome
  | .put (.error _) | .patch _ => none
  | .answer response =>
    if response.status = 201 then some .created
    else if response.status = 200 then some .updated else none

/-- The reply says that the row is of another kind. -/
def IsConflict (table : Table) (id : Uuid) : Reply → Prop
  | .put result => result = .error (.kindConflict table id)
  | .patch _ => False
  | .answer response => response = .ofError (.kindConflict table id)

end Reply

variable {c : Catalog} {operation : Operation} {reply : Reply} {request : Request} {kind : Kind}
  {text : String} {body : Bytes} {id : Uuid} {entity : Entity} {patch : Patch}
  {submission : Submission}

/-- An operation that a table accepted, and its reply: a put reports what it did to the row, and a
patch has found one. -/
structure Operation.Writes (operation : Operation) (reply : Reply) (aim : Aim) (s : Store) :
    Prop where
  aimed : operation.aim? = some aim
  succeeded : reply.succeeded = true
  accepts : s.Accepts aim.table aim.id aim.tag
  reported : aim.puts = true → reply.outcome? = some (s.outcome aim.table aim.id.text)
  found : aim.puts = false → s.has aim.table aim.id.text = true

/-- What an operation did: it was refused, it had no row in view, or it wrote its row. -/
inductive Operation.Effect (c : Catalog) (operation : Operation) : Reply → Catalog → Prop where
  | refused {reply : Reply} (failed : reply.succeeded = false) : Effect c operation reply c
  | passed {reply : Reply} (aimless : operation.aim? = none) : Effect c operation reply c
  | wrote {reply : Reply} {s : Store} {aim : Aim} {body : String}
      (writes : operation.Writes reply aim c.store)
      (entries : ∀ table, s.entries table =
        (c.store.write aim.table aim.id.text aim.tag body).entries table) :
      Effect c operation reply { c with store := s }

namespace Catalog

theorem putEntity_cases (hp : c.poisoned = false) (id : Uuid) (entity : Entity) :
    (∃ s, (putEntity id entity).run.run c =
        (.ok (c.store.outcome entity.kind.table id.text), { c with store := s }) ∧
      c.store.Accepts entity.kind.table id entity.kind.tag ∧ ∀ table, s.entries table =
        (c.store.write entity.kind.table id.text entity.kind.tag entity.body).entries table) ∨
    ∃ error, (putEntity id entity).run.run c = (.error error, c) := by
  rcases transact_cases hp (Statement.putLinked id entity) with
    ⟨outcome, s, hs, hrun⟩ | ⟨error, _, -, hrun⟩
  · obtain ⟨haccepts, -, rfl, rfl⟩ := Statement.putLinked_ok.1 hs
    exact .inl ⟨_, hrun, haccepts, Store.entries_rewritten⟩
  · exact .inr ⟨error, hrun⟩

theorem patchEntity_cases (hp : c.poisoned = false) (id : Uuid) (patch : Patch) :
    (∃ s body, (patchEntity id patch).run.run c = (.ok (), { c with store := s }) ∧
      c.store.Accepts patch.kind.table id patch.kind.tag ∧
      c.store.has patch.kind.table id.text = true ∧ ∀ table, s.entries table =
        (c.store.write patch.kind.table id.text patch.kind.tag body).entries table) ∨
    ∃ error, (patchEntity id patch).run.run c = (.error error, c) := by
  rcases transact_cases hp (Statement.patchLinked id patch) with
    ⟨_, s, hs, hrun⟩ | ⟨error, _, -, hrun⟩
  · obtain ⟨row, entity, entity', hfound, -, happlied, haccepts, -, rfl⟩ :=
      Statement.patchLinked_ok.1 hs
    have hkind := (Patch.kind_of_apply happlied).2
    rw [hkind] at haccepts
    refine .inl ⟨_, entity'.body, hrun, haccepts, Store.has_iff.2 ⟨row, hfound⟩, ?_⟩
    intro table
    rw [Store.entries_rewritten, hkind]
  · exact .inr ⟨error, hrun⟩

end Catalog

theorem Response.succeeded_ofError (error : CatalogError) :
    Reply.succeeded (.answer (.ofError error)) = false := by
  cases error <;> rfl

theorem outcome?_ofOutcome (outcome : Outcome) :
    Reply.succeeded (.answer (.ofOutcome outcome)) = true ∧
      Reply.outcome? (.answer (.ofOutcome outcome)) = some outcome := by
  cases outcome <;> exact ⟨rfl, rfl⟩

namespace Operation

theorem effect_answerPut (hp : c.poisoned = false)
    (hroute : Route.ofPath? request.path = some (.submission kind text))
    (hmethod : request.method = .put) :
    Effect c (.call (.request request))
      (.answer ((Catalog.answerPut kind text request.body).run c).1)
      ((Catalog.answerPut kind text request.body).run c).2 := by
  rw [Catalog.answerPut_run]
  cases harguments : putArguments kind text request.body with
  | error error => exact .refused (Response.succeeded_ofError error)
  | ok arguments =>
    obtain ⟨id, entity⟩ := arguments
    obtain ⟨hid, rfl⟩ := putArguments_ok harguments
    simp only
    rcases Catalog.putEntity_cases hp id entity with ⟨s, hrun, haccepts, hentries⟩ | ⟨error, hrun⟩
    · rw [hrun]
      obtain ⟨hsucceeded, houtcome⟩ :=
        outcome?_ofOutcome (c.store.outcome entity.kind.table id.text)
      have haimed : request.aim? = some ⟨entity.kind.table, id, entity.kind.tag, true⟩ := by
        rw [Request.aim?, hroute, hmethod]
        simp only [hid]
        rfl
      refine .wrote ⟨haimed, hsucceeded, haccepts, fun _ => houtcome, ?_⟩ hentries
      intro h
      cases h
    · rw [hrun]
      exact .refused (Response.succeeded_ofError error)

theorem effect_answerPatch (hp : c.poisoned = false)
    (hroute : Route.ofPath? request.path = some (.submission kind text))
    (hmethod : request.method = .patch) :
    Effect c (.call (.request request))
      (.answer ((Catalog.answerPatch kind text request.body).run c).1)
      ((Catalog.answerPatch kind text request.body).run c).2 := by
  rw [Catalog.answerPatch_run]
  cases harguments : patchArguments kind text request.body with
  | error error => exact .refused (Response.succeeded_ofError error)
  | ok arguments =>
    obtain ⟨id, patch⟩ := arguments
    obtain ⟨hid, rfl⟩ := patchArguments_ok harguments
    simp only
    rcases Catalog.patchEntity_cases hp id patch with
      ⟨s, body, hrun, haccepts, hfound, hentries⟩ | ⟨error, hrun⟩
    · rw [hrun]
      have haimed : request.aim? = some ⟨patch.kind.table, id, patch.kind.tag, false⟩ := by
        rw [Request.aim?, hroute, hmethod]
        simp only [hid]
        rfl
      refine .wrote ⟨haimed, rfl, haccepts, ?_, fun _ => hfound⟩ hentries
      intro h
      cases h
    · rw [hrun]
      exact .refused (Response.succeeded_ofError error)

theorem effect_respond (hp : c.poisoned = false) (request : Request) :
    Effect c (.call (.request request)) (.answer ((Catalog.respond request).run c).1)
      ((Catalog.respond request).run c).2 := by
  have haim : (Operation.call (.request request)).aim? = request.aim? := rfl
  unfold Catalog.respond
  split
  · rename_i hroute
    refine .passed ?_
    rw [haim, Request.aim?, hroute]
  · rename_i hroute hmethod
    rw [Catalog.answerHealth_reads]
    refine .passed ?_
    rw [haim, Request.aim?, hroute, hmethod]
  · rename_i hroute hmethod
    rw [Catalog.answerListing_reads]
    refine .passed ?_
    rw [haim, Request.aim?, hroute, hmethod]
  · rename_i hroute hmethod
    rw [Catalog.answerEntity_reads]
    refine .passed ?_
    rw [haim, Request.aim?, hroute, hmethod]
  · rename_i hroute hmethod
    exact effect_answerPut hp hroute hmethod
  · rename_i hroute hmethod
    exact effect_answerPatch hp hroute hmethod
  · exact .refused rfl

theorem effect (hp : c.poisoned = false) (operation : Operation) :
    operation.Effect c (operation.run.run c).1 (operation.run.run c).2 := by
  cases operation with
  | upsert table id tag body =>
    change Effect c _ (.put ((Catalog.transact (Statement.upsert table id tag body)).run.run c).1)
      ((Catalog.transact (Statement.upsert table id tag body)).run.run c).2
    rcases Catalog.transact_cases hp (Statement.upsert table id tag body) with
      ⟨outcome, s, hs, hrun⟩ | ⟨error, _, -, hrun⟩
    · obtain ⟨haccepts, rfl, rfl⟩ := Statement.upsert_ok.1 hs
      rw [hrun]
      refine .wrote ⟨rfl, rfl, haccepts, fun _ => rfl, ?_⟩ (fun _ => rfl)
      intro h
      cases h
    · rw [hrun]
      exact .refused rfl
  | call call =>
    cases call with
    | put id entity =>
      change Effect c _ (.put ((Catalog.putEntity id entity).run.run c).1)
        ((Catalog.putEntity id entity).run.run c).2
      rcases Catalog.putEntity_cases hp id entity with ⟨s, hrun, haccepts, hentries⟩ | ⟨error, hrun⟩
      · rw [hrun]
        refine .wrote ⟨rfl, rfl, haccepts, fun _ => rfl, ?_⟩ hentries
        intro h
        cases h
      · rw [hrun]
        exact .refused rfl
    | patch id patch =>
      change Effect c _ (.patch ((Catalog.patchEntity id patch).run.run c).1)
        ((Catalog.patchEntity id patch).run.run c).2
      rcases Catalog.patchEntity_cases hp id patch with
        ⟨s, body, hrun, haccepts, hfound, hentries⟩ | ⟨error, hrun⟩
      · rw [hrun]
        refine .wrote ⟨rfl, rfl, haccepts, ?_, fun _ => hfound⟩ hentries
        intro h
        cases h
      · rw [hrun]
        exact .refused rfl
    | request request => exact effect_respond hp request

end Operation

end MovieCatalog
