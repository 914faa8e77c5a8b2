import MovieCatalog.Proofs.Submissions
import MovieCatalog.Proofs.WriteResults

/-! The whole effect of a write, on any tables. The row that is there decides which entity a write
leaves in its place, if any. After that only the targets have to be there. -/
namespace MovieCatalog

/-- A write of one row by a caller in the same program. -/
inductive Write where
  | put (id : Uuid) (entity : Entity)
  | patch (id : Uuid) (patch : Patch)

/-- An entity to be written, held against the row that is there. -/
def Entity.admitted (entity : Entity) (id : Uuid) (row : Option Entry) :
    Except CatalogError Entity :=
  if id.isNil then .error (.invalidInput (.nilId entity.kind.table))
  else if row.all fun found => found.tag == entity.kind.tag then .ok entity
  else .error (.kindConflict entity.kind.table id)

namespace Write

def table : Write → Table
  | .put _ entity => entity.kind.table
  | .patch _ change => change.kind.table

def id : Write → Uuid
  | .put id _ | .patch id _ => id

/-- The targets that a write gives to its plan, if its row is one. -/
def targets : Write → Side → Option Uuid
  | .put _ entity => entity.targets
  | .patch _ change => change.targets

def call : Write → Call
  | .put id entity => .put id entity
  | .patch id change => .patch id change

def run (write : Write) : StateM Catalog Reply := write.call.run

/-- What a caller gets back. A patch does not tell what it did to the row. -/
def reply (write : Write) (result : Except CatalogError Outcome) : Reply :=
  match write with
  | .put .. => .put result
  | .patch .. => .patch (result.map fun _ => ())

/-- The entity that a write leaves in the place of a row. -/
def entity (write : Write) (row : Option Entry) : Except CatalogError Entity :=
  match write with
  | .put id entity => entity.admitted id row
  | .patch id change =>
    match row with
    | none => .error (.notFound change.kind.table id)
    | some found => do
      let stored ← Entity.ofStored change.kind.table found.tag found.body
      let changed ← change.apply id stored
      changed.admitted id row

/-- What a write comes to. -/
inductive Result (c : Catalog) (write : Write) : Reply × Catalog → Prop where
  | refused {error : CatalogError}
      (judged : write.entity (c.store.find? write.table write.id.text) = .error error) :
      Result c write (write.reply (.error error), c)
  | dangles {entity : Entity}
      (judged : write.entity (c.store.find? write.table write.id.text) = .ok entity)
      (missing : ¬ c.store.HasTargets write.targets) :
      Result c write (write.reply (.error (.storage .foreignKey)), c)
  | stored {entity : Entity}
      (judged : write.entity (c.store.find? write.table write.id.text) = .ok entity)
      (targets : c.store.HasTargets write.targets) :
      Result c write (write.reply (.ok (c.store.outcome write.table write.id.text)),
        { c with store := c.store.rewritten write.id entity write.targets })

end Write

variable {c : Catalog} {s after : Store} {table : Table} {id : Uuid} {row : Option Entry}
  {entity entity' : Entity} {patch : Patch} {error : CatalogError} {write : Write}

/-- What is admitted is the entity itself. -/
theorem Entity.eq_of_admitted (h : entity.admitted id row = .ok entity') : entity' = entity := by
  rw [admitted] at h
  split at h
  · cases h
  split at h
  · cases h
    rfl
  · cases h

theorem Entity.admitted_ok : entity.admitted id (s.find? entity.kind.table id.text) = .ok entity' ↔
    entity' = entity ∧ s.Accepts entity.kind.table id entity.kind.tag := by
  constructor
  · intro h
    refine ⟨eq_of_admitted h, ?_⟩
    rw [admitted] at h
    split at h
    · cases h
    rename_i hnil
    split at h
    · rename_i hall
      refine Store.accepts_of_agrees (Bool.eq_false_iff.2 hnil) ?_
      intro found hfound
      exact eq_of_beq ((Option.all_eq_true _ _).1 hall found hfound)
    · cases h
  · rintro ⟨rfl, haccepts⟩
    have hall : ((s.find? entity'.kind.table id.text).all fun found =>
        found.tag == entity'.kind.tag) = true := by
      apply (Option.all_eq_true _ _).2
      intro found hfound
      exact beq_iff_eq.2 (haccepts.agrees found hfound)
    rw [admitted, haccepts.named, if_neg Bool.false_ne_true, if_pos hall]

/-- The kind that a write names is the kind that it leaves. -/
theorem Write.table_of_entity (h : write.entity row = .ok entity) :
    entity.kind.table = write.table := by
  cases write with
  | put id given => rw [Entity.eq_of_admitted h, table]
  | patch id change =>
    cases row with
    | none => cases h
    | some found =>
      obtain ⟨stored, -, h⟩ := bind_eq_ok.1 h
      obtain ⟨patched, happlied, h⟩ := bind_eq_ok.1 h
      rw [Entity.eq_of_admitted h, (Patch.kind_of_apply happlied).2, table]

/-- A patch leaves what it makes of the entity that is there. -/
theorem Write.entity_patch_ok
    (h : (Write.patch id patch).entity (s.find? patch.kind.table id.text) = .ok entity) :
    ∃ row stored, s.find? patch.kind.table id.text = some row ∧
      Entity.ofStored patch.kind.table row.tag row.body = .ok stored ∧
      patch.apply id stored = .ok entity ∧ s.Accepts entity.kind.table id entity.kind.tag := by
  cases hfound : s.find? patch.kind.table id.text with
  | none =>
    rw [hfound] at h
    cases h
  | some row =>
    rw [hfound] at h
    obtain ⟨stored, hstored, h⟩ := bind_eq_ok.1 h
    obtain ⟨patched, happlied, h⟩ := bind_eq_ok.1 h
    rw [← hfound, ← (Patch.kind_of_apply happlied).2] at h
    obtain ⟨rfl, haccepts⟩ := Entity.admitted_ok.1 h
    exact ⟨row, stored, rfl, hstored, happlied, haccepts⟩

namespace Statement

theorem load_run (table : Table) (id : Uuid) (s : Store) : (load table id).run.run s =
    (match s.find? table id.text with
      | none => .error (.notFound table id)
      | some row => Entity.ofStored table row.tag row.body, s) := by
  rw [load, bind_run, getEntity_run]
  cases s.find? table id.text with
  | none => rfl
  | some row => exact ofExcept_run _ s

theorem put_refused
    (h : entity.admitted id (s.find? entity.kind.table id.text) = .error error) :
    (put id entity).run.run s = (.error error, s) := by
  rw [Entity.admitted] at h
  split at h
  · rename_i hnil
    cases h
    rw [put, upsert_run, if_pos hnil]
  rename_i hnil
  split at h
  · cases h
  rename_i hall
  cases h
  have hkind : (entity.kind.table.kind? entity.kind.tag).isSome = true := by
    rw [Table.kind?_tag]
    rfl
  cases hfound : s.find? entity.kind.table id.text with
  | none =>
    rw [hfound] at hall
    exact absurd rfl hall
  | some found =>
    rw [hfound] at hall
    have htag : found.tag ≠ entity.kind.tag := fun he => hall (beq_iff_eq.2 he)
    exact upsert_conflict (Bool.eq_false_iff.2 hnil) hkind hfound htag

theorem putLinked_refused
    (h : entity.admitted id (s.find? entity.kind.table id.text) = .error error) :
    (putLinked id entity).run.run s = (.error error, s) := by
  rw [putLinked, bind_run, put_refused h]

theorem patchLinked_refused
    (h : (Write.patch id patch).entity (s.find? patch.kind.table id.text) = .error error) :
    (patchLinked id patch).run.run s = (.error error, s) := by
  rw [patchLinked, bind_run, load_run]
  cases hfound : s.find? patch.kind.table id.text with
  | none =>
    rw [hfound] at h
    cases h
    rfl
  | some row =>
    rw [hfound] at h
    simp only
    rcases bind_eq_error.1 h with hstored | ⟨stored, hstored, h⟩
    · rw [hstored]
    rw [hstored]
    simp only
    rw [bind_run, ofExcept_run]
    rcases bind_eq_error.1 h with happlied | ⟨patched, happlied, h⟩
    · rw [happlied]
    have hput : (put id patched).run.run s = (.error error, s) := by
      apply put_refused
      rw [(Patch.kind_of_apply happlied).2, hfound]
      exact h
    rw [happlied]
    simp only
    rw [bind_run, hput]

end Statement

namespace Write

theorem run_poisoned (hp : c.poisoned = true) (write : Write) :
    write.run.run c = (write.reply (.error .lockPoisoned), c) := by
  cases write with
  | put id entity =>
    change (Reply.put ((Catalog.putEntity id entity).run.run c).1,
      ((Catalog.putEntity id entity).run.run c).2) = _
    rw [Catalog.putEntity, Catalog.transact_poisoned hp]
    rfl
  | patch id patch =>
    change (Reply.patch ((Catalog.patchEntity id patch).run.run c).1,
      ((Catalog.patchEntity id patch).run.run c).2) = _
    rw [Catalog.patchEntity, Catalog.transact_poisoned hp]
    rfl

theorem result_put (hp : c.poisoned = false) (id : Uuid) (entity : Entity) :
    Result c (.put id entity) ((Write.put id entity).run.run c) := by
  have hrun : (Write.put id entity).run.run c = (.put ((Catalog.putEntity id entity).run.run c).1,
      ((Catalog.putEntity id entity).run.run c).2) := rfl
  rw [hrun, Catalog.putEntity]
  cases hjudged : entity.admitted id (c.store.find? entity.kind.table id.text) with
  | error error =>
    rw [Catalog.transact_error hp (Statement.putLinked_refused hjudged)]
    exact .refused hjudged
  | ok given =>
    obtain ⟨rfl, haccepts⟩ := Entity.admitted_ok.1 hjudged
    by_cases htargets : c.store.HasTargets given.targets
    · rw [Catalog.transact_ok hp (Statement.putLinked_ok.2 ⟨haccepts, htargets, rfl, rfl⟩)]
      exact .stored hjudged htargets
    · obtain ⟨after, hdangles⟩ := Statement.putLinked_dangles haccepts htargets
      rw [Catalog.transact_error hp hdangles]
      exact .dangles hjudged htargets

theorem result_patch (hp : c.poisoned = false) (id : Uuid) (patch : Patch) :
    Result c (.patch id patch) ((Write.patch id patch).run.run c) := by
  have hrun : (Write.patch id patch).run.run c =
      (.patch ((Catalog.patchEntity id patch).run.run c).1,
        ((Catalog.patchEntity id patch).run.run c).2) := rfl
  rw [hrun, Catalog.patchEntity]
  cases hjudged : (Write.patch id patch).entity (c.store.find? patch.kind.table id.text) with
  | error error =>
    rw [Catalog.transact_error hp (Statement.patchLinked_refused hjudged)]
    exact .refused hjudged
  | ok given =>
    obtain ⟨row, stored, hfound, hstored, happlied, haccepts⟩ := entity_patch_ok hjudged
    by_cases htargets : c.store.HasTargets patch.targets
    · rw [Catalog.transact_ok hp (Statement.patchLinked_ok.2
        ⟨row, stored, given, hfound, hstored, happlied, haccepts, htargets, rfl⟩)]
      exact .stored hjudged htargets
    · obtain ⟨after, hdangles⟩ :=
        Statement.patchLinked_dangles hfound hstored happlied haccepts htargets
      rw [Catalog.transact_error hp hdangles]
      exact .dangles hjudged htargets

/-- Every write comes to one of three results, whatever the tables hold. -/
theorem result (hp : c.poisoned = false) (write : Write) :
    Result c write (write.run.run c) := by
  cases write with
  | put id entity => exact result_put hp id entity
  | patch id patch => exact result_patch hp id patch

end Write
end MovieCatalog
