import MovieCatalog.Http.Server
import MovieCatalog.Proofs.Statements

/-! Calls on a catalog and the states that they reach. A call either fails and leaves the catalog as
it was, or makes one accepted write. -/
namespace MovieCatalog

/-- A write by a caller in the same program, or a request. -/
inductive Call where
  | put (id : Uuid) (entity : Entity)
  | patch (id : Uuid) (patch : Patch)
  | request (request : Request)

/-- What a caller gets back. -/
inductive Reply where
  | put (result : Except CatalogError Outcome)
  | patch (result : Except CatalogError Unit)
  | answer (response : Response)

def Call.run : Call → StateM Catalog Reply
  | .put id entity => do return .put (← (Catalog.putEntity id entity).run)
  | .patch id change => do return .patch (← (Catalog.patchEntity id change).run)
  | .request asked => do return .answer (← Catalog.respond asked)

/-- The catalog after calls in order. -/
def Catalog.after (c : Catalog) (calls : List Call) : Catalog :=
  calls.foldl (fun c call => (call.run.run c).2) c

/-- An accepted write of an entity, or of a patched one. -/
inductive Store.Step (s : Store) : Store → Prop where
  | put {id : Uuid} {entity : Entity} (accepts : s.Accepts entity.kind.table id entity.kind.tag)
      (targets : s.HasTargets entity.targets) : Step s (s.rewritten id entity entity.targets)
  | patch {id : Uuid} {patch : Patch} {row : Entry} {entity entity' : Entity}
      (found : s.find? patch.kind.table id.text = some row)
      (stored : Entity.ofStored patch.kind.table row.tag row.body = .ok entity)
      (applied : patch.apply id entity = .ok entity')
      (accepts : s.Accepts entity'.kind.table id entity'.kind.tag)
      (targets : s.HasTargets patch.targets) : Step s (s.rewritten id entity' patch.targets)

namespace Catalog

variable {α β : Type} {c c' : Catalog} {s : Store} {statement : Statement α} {id : Uuid}
  {entity : Entity} {patch : Patch} {request : Request} {kind : Kind} {text : String}
  {calls : List Call}

theorem perform_run (h : c.poisoned = false) (statement : Statement α) :
    (perform statement).run.run c =
      ((statement.run.run c.store).1, { c with store := (statement.run.run c.store).2 }) := by
  change (if c.poisoned then _ else _ : CatalogM α).run.run c = _
  rw [if_neg (by rw [h]; exact Bool.false_ne_true)]
  change (ofExcept (statement.run.run c.store).1).run.run
    { c with store := (statement.run.run c.store).2 } = _
  generalize statement.run.run c.store = result
  obtain ⟨⟨error⟩ | ⟨value⟩, s⟩ := result
  · rfl
  · rfl

theorem transact_run (h : c.poisoned = false) (statement : Statement α) :
    (transact statement).run.run c = match statement.run.run c.store with
      | (.ok value, store) => (.ok value, { c with store })
      | (.error error, _) => (.error error, c) := by
  change (if c.poisoned then _ else _ : CatalogM α).run.run c = _
  rw [h]
  change (match statement.run.run c.store with
    | (.ok value, store) => _
    | (.error error, _) => _ : CatalogM α).run.run c = _
  rcases statement.run.run c.store with ⟨⟨error⟩ | ⟨value⟩, s⟩
  · rfl
  · rfl

/-- A transaction takes effect as a whole or not at all. -/
theorem transact_cases (h : c.poisoned = false) (statement : Statement α) :
    (∃ value s, statement.run.run c.store = (.ok value, s) ∧
      (transact statement).run.run c = (.ok value, { c with store := s })) ∨
    (∃ error s, statement.run.run c.store = (.error error, s) ∧
      (transact statement).run.run c = (.error error, c)) := by
  rw [transact_run h]
  rcases hrun : statement.run.run c.store with ⟨⟨error⟩ | ⟨value⟩, s⟩
  · exact .inr ⟨error, s, rfl, rfl⟩
  · exact .inl ⟨value, s, rfl, rfl⟩

theorem transact_poisoned (h : c.poisoned = true) (statement : Statement α) :
    (transact statement).run.run c = (.error .lockPoisoned, c) := by
  change (if c.poisoned then _ else _ : CatalogM α).run.run c = _
  rw [h]
  rfl

theorem transact_eq_ok {value : α} : (transact statement).run.run c = (.ok value, c') ↔
    c.poisoned = false ∧
      ∃ s, statement.run.run c.store = (.ok value, s) ∧ c' = { c with store := s } := by
  constructor
  · intro h
    have hp : c.poisoned = false := by
      refine Bool.eq_false_iff.2 fun hp => ?_
      rw [transact_poisoned hp] at h
      cases h
    rcases transact_cases hp statement with ⟨first, s, hs, hrun⟩ | ⟨error, s, -, hrun⟩
    · rw [hrun] at h
      cases h
      exact ⟨hp, s, hs, rfl⟩
    · rw [hrun] at h
      cases h
  · rintro ⟨hp, s, hs, rfl⟩
    rw [transact_run hp, hs]

/-- A transaction that fails leaves the catalog as it was. -/
theorem transact_failed {error : CatalogError}
    (h : (transact statement).run.run c = (.error error, c')) : c' = c := by
  cases hp : c.poisoned with
  | true =>
    rw [transact_poisoned hp] at h
    cases h
    rfl
  | false =>
    rcases transact_cases hp statement with ⟨value, s, -, hrun⟩ | ⟨error', s, -, hrun⟩
    · rw [hrun] at h
      cases h
    · rw [hrun] at h
      cases h
      rfl

/-- A transaction that only reads leaves the catalog as it was. -/
theorem transact_reads
    (hread : ∀ value s, statement.run.run c.store = (.ok value, s) → s = c.store) :
    ((transact statement).run.run c).2 = c := by
  cases h : c.poisoned with
  | true => rw [transact_poisoned h]
  | false =>
    rcases transact_cases h statement with ⟨value, s, hs, hrun⟩ | ⟨error, s, -, hrun⟩
    · rw [hrun, hread value s hs]
    · rw [hrun]

theorem bind_run (operation : CatalogM α) (f : α → CatalogM β) (c : Catalog) :
    (operation >>= f).run.run c = match operation.run.run c with
      | (.ok value, c) => (f value).run.run c
      | (.error error, c) => (.error error, c) := by
  have hbind : (operation >>= f).run.run c =
      (ExceptT.bindCont f (operation.run.run c).1 : StateM Catalog _) (operation.run.run c).2 := rfl
  rw [hbind]
  rcases operation.run.run c with ⟨⟨error⟩ | ⟨value⟩, c⟩
  · rfl
  · rfl

theorem ofExcept_bind_run (result : Except CatalogError α) (f : α → CatalogM β) (c : Catalog) :
    (ofExcept result >>= f).run.run c = match result with
      | .ok value => (f value).run.run c
      | .error error => (.error error, c) := by
  cases result with
  | error error => rfl
  | ok value => rfl

theorem answer_run (operation : CatalogM α) (render : α → Response) (c : Catalog) :
    (answer operation render).run c =
      (Response.ofResult render (operation.run.run c).1, (operation.run.run c).2) := rfl

theorem answerPut_run (kind : Kind) (text : String) (body : Bytes) (c : Catalog) :
    (answerPut kind text body).run c = match putArguments kind text body with
      | .ok (id, entity) => (Response.ofResult Response.ofOutcome
          ((putEntity id entity).run.run c).1, ((putEntity id entity).run.run c).2)
      | .error error => (Response.ofError error, c) := by
  rw [answerPut, answer_run, ofExcept_bind_run]
  cases putArguments kind text body with
  | error error => rfl
  | ok arguments => rfl

theorem answerPatch_run (kind : Kind) (text : String) (body : Bytes) (c : Catalog) :
    (answerPatch kind text body).run c = match patchArguments kind text body with
      | .ok (id, patch) => (Response.ofResult Response.ofPatch
          ((patchEntity id patch).run.run c).1, ((patchEntity id patch).run.run c).2)
      | .error error => (Response.ofError error, c) := by
  rw [answerPatch, answer_run, ofExcept_bind_run]
  cases patchArguments kind text body with
  | error error => rfl
  | ok arguments => rfl

theorem stats_reads (c : Catalog) : (stats.run.run c).2 = c := by
  change ((if c.poisoned then _ else _ : CatalogM Stats).run.run c).2 = c
  split
  · rfl
  · rfl

/-- Reading and then only reading is reading. -/
theorem bind_reads {operation : CatalogM α} {f : α → CatalogM β}
    (h : (operation.run.run c).2 = c) (hf : ∀ value, ((f value).run.run c).2 = c) :
    ((operation >>= f).run.run c).2 = c := by
  rw [bind_run]
  rcases hrun : operation.run.run c with ⟨⟨error⟩ | ⟨value⟩, c'⟩
  · rw [hrun] at h
    exact h
  · rw [hrun] at h
    cases h
    exact hf value

theorem ofExcept_reads (result : Except CatalogError α) : ((ofExcept result).run.run c).2 = c := by
  cases result with
  | error error => rfl
  | ok value => rfl

theorem getEntity_reads (c : Catalog) (table : Table) (id : Uuid) :
    ((getEntity table id).run.run c).2 = c := by
  refine transact_reads ?_
  intro entity s hs
  exact (Statement.load_ok.1 hs).1

theorem listPlans_reads (c : Catalog) (filter : PlanFilter) (token : Option String) (size : Nat) :
    ((listPlans filter token size).run.run c).2 = c := by
  refine bind_reads (ofExcept_reads _) ?_
  intro after
  refine bind_reads (transact_reads ?_) fun page => rfl
  intro page s hs
  exact (Statement.ofExcept_ok.1 hs).2

theorem answerHealth_reads (c : Catalog) : (answerHealth.run c).2 = c := by
  rw [answerHealth, answer_run]
  exact stats_reads c

theorem answerEntity_reads (c : Catalog) (table : Table) (text : String) :
    ((answerEntity table text).run c).2 = c := by
  rw [answerEntity, answer_run]
  refine bind_reads (ofExcept_reads _) ?_
  intro id
  exact bind_reads (getEntity_reads c table id) fun entity => rfl

theorem answerListing_reads (c : Catalog) (query : Option String) :
    ((answerListing query).run c).2 = c := by
  unfold answerListing
  split
  · rfl
  · rename_i params hparams
    rw [answer_run]
    refine bind_reads (ofExcept_reads _) ?_
    intro request
    exact listPlans_reads c _ _ _

/-- A catalog after a step of its tables, or as it was. -/
def Advances (c c' : Catalog) : Prop :=
  c' = c ∨ ∃ s, c.store.Step s ∧ c' = { c with store := s }

theorem advances_put (h : c.poisoned = false) (id : Uuid) (entity : Entity) :
    c.Advances ((putEntity id entity).run.run c).2 := by
  rcases transact_cases h (Statement.putLinked id entity) with
    ⟨result, s, hs, hrun⟩ | ⟨_, _, -, hrun⟩
  · obtain ⟨haccepts, htargets, -, rfl⟩ := Statement.putLinked_ok.1 hs
    rw [putEntity, hrun]
    exact .inr ⟨_, .put haccepts htargets, rfl⟩
  · rw [putEntity, hrun]
    exact .inl rfl

theorem advances_patch (h : c.poisoned = false) (id : Uuid) (patch : Patch) :
    c.Advances ((patchEntity id patch).run.run c).2 := by
  rcases transact_cases h (Statement.patchLinked id patch) with
    ⟨result, s, hs, hrun⟩ | ⟨_, _, -, hrun⟩
  · obtain ⟨row, entity, entity', hfound, hstored, happlied, haccepts, htargets, rfl⟩ :=
      Statement.patchLinked_ok.1 hs
    rw [patchEntity, hrun]
    exact .inr ⟨_, .patch hfound hstored happlied haccepts htargets, rfl⟩
  · rw [patchEntity, hrun]
    exact .inl rfl

theorem advances_respond (h : c.poisoned = false) (request : Request) :
    c.Advances ((respond request).run c).2 := by
  unfold respond
  split
  · exact .inl rfl
  · exact .inl (answerHealth_reads c)
  · exact .inl (answerListing_reads c request.query)
  · exact .inl (answerEntity_reads c _ _)
  · rename_i kind text _ _
    rw [answerPut_run]
    split
    · exact advances_put h _ _
    · exact .inl rfl
  · rename_i kind text _ _
    rw [answerPatch_run]
    split
    · exact advances_patch h _ _
    · exact .inl rfl
  · exact .inl rfl

theorem advances_call (h : c.poisoned = false) (call : Call) :
    c.Advances (call.run.run c).2 := by
  cases call with
  | put id entity => exact advances_put h id entity
  | patch id patch => exact advances_patch h id patch
  | request request => exact advances_respond h request

theorem Advances.poisoned (h : c.Advances c') : c'.poisoned = c.poisoned := by
  rcases h with rfl | ⟨s, -, rfl⟩
  · rfl
  · rfl

theorem after_cons (c : Catalog) (call : Call) (calls : List Call) :
    c.after (call :: calls) = (call.run.run c).2.after calls := rfl

theorem poisoned_after (h : c.poisoned = false) (calls : List Call) :
    (c.after calls).poisoned = false := by
  induction calls generalizing c with
  | nil => exact h
  | cons call calls ih =>
    rw [after_cons]
    exact ih ((advances_call h call).poisoned.trans h)

/-- What holds of the tables and is kept by each step holds after all calls. -/
theorem after_invariant {P : Store → Prop} (hstep : ∀ s s', P s → s.Step s' → P s')
    (h : c.poisoned = false) (hc : P c.store) (calls : List Call) : P (c.after calls).store := by
  induction calls generalizing c with
  | nil => exact hc
  | cons call calls ih =>
    rw [after_cons]
    have hcall := advances_call h call
    refine ih (hcall.poisoned.trans h) ?_
    rcases hcall with he | ⟨s, hs, he⟩
    · rw [he]
      exact hc
    · rw [he]
      exact hstep c.store s hc hs

end Catalog
end MovieCatalog
