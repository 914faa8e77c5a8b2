import MovieCatalog.Proofs.Soundness

/-! What writes come to. A put is stored, conflicts with the kind of its row, or leads to what is
not there; a patch may also find no row. The tables alone decide between these. -/
namespace MovieCatalog

variable {α β : Type} {c : Catalog} {s after : Store} {table : Table} {side : Side}
  {id plan : Uuid} {tag body : String} {row : Entry} {entity entity' : Entity} {patch : Patch}
  {error : CatalogError}

theorem Store.accepts_of_agrees (hid : id.isNil = false)
    (hagrees : ∀ row, s.find? entity.kind.table id.text = some row → row.tag = entity.kind.tag) :
    s.Accepts entity.kind.table id entity.kind.tag := by
  refine ⟨hid, ?_, hagrees⟩
  rw [Table.kind?_tag]
  rfl

/-- A row that is found in sound tables stands for an entity. -/
theorem Store.Sound.holds_of_find? (h : s.Sound) (hf : s.find? table id.text = some row) :
    id.isNil = false ∧ ∃ entity, s.Holds table id entity ∧ row.tag = entity.kind.tag ∧
      Entity.ofStored table row.tag row.body = .ok entity := by
  obtain ⟨id', entity, hid, hnil, hholds⟩ := h.held table id.text
    (has_iff_mem.1 (has_iff.2 ⟨row, hf⟩))
  have hid := Uuid.text_injective hid
  subst hid
  exact ⟨hnil, entity, hholds, hholds.tag_eq hf, hholds.ofStored hf⟩

/-- Within a table the tag tells the kind. -/
theorem Kind.eq_of_tag {kind kind' : Kind} (htable : kind.table = kind'.table)
    (htag : kind.tag = kind'.tag) : kind = kind' := by
  have h := Table.kind?_tag kind
  rw [htable, htag, Table.kind?_tag] at h
  exact (Option.some.inj h).symm

/-- A patch of the kind of an entity applies to it. -/
theorem Patch.exists_apply (h : entity.kind = patch.kind) (id : Uuid) :
    ∃ entity', patch.apply id entity = .ok entity' := by
  cases patch <;> cases entity <;> first | exact ⟨_, rfl⟩ | cases h

theorem Patch.apply_of_ne (h : entity.kind ≠ patch.kind) (id : Uuid) :
    patch.apply id entity = .error (.kindConflict patch.kind.table id) := by
  cases patch <;> cases entity <;> first | exact absurd rfl h | rfl

namespace Statement

theorem upsert_conflict (hid : id.isNil = false) (hkind : (table.kind? tag).isSome = true)
    (hf : s.find? table id.text = some row) (ht : row.tag ≠ tag) :
    (upsert table id tag body).run.run s = (.error (.kindConflict table id), s) := by
  have hvalid : (table.kind? tag).isNone = false := by
    rw [Option.isNone_eq_false_iff]
    exact hkind
  rw [upsert_run, if_neg (by rw [hid]; exact Bool.false_ne_true),
    if_neg (by rw [hvalid]; exact Bool.false_ne_true), hf]
  exact if_neg ht

theorem load_absent (hf : s.find? table id.text = none) :
    (load table id).run.run s = (.error (.notFound table id), s) := by
  rw [load, bind_run, getEntity_run, hf]

/-- The statement fails for no other reason than a link to what is not there. -/
def FailsByLinks (x : Statement α) : Prop :=
  ∀ s error after, x.run.run s = (.error error, after) → error = .storage .foreignKey

theorem FailsByLinks.bind {x : Statement α} {f : α → Statement β} (hx : FailsByLinks x)
    (hf : ∀ value, FailsByLinks (f value)) : FailsByLinks (x >>= f) := by
  intro s error after h
  rw [bind_run] at h
  split at h
  · exact hf _ _ _ _ h
  · rename_i hrun
    cases h
    exact hx _ _ _ hrun

theorem failsByLinks_pure (value : α) : FailsByLinks (pure value : Statement α) := by
  intro s error after h
  cases h

theorem failsByLinks_relink (side : Side) (plan target : Uuid) :
    FailsByLinks (relink side plan target) := by
  intro s error after h
  have hrun : (relink side plan target).run.run s =
      (insertLink side plan.text target.text).run.run (s.unlink side plan.text) := rfl
  rw [hrun, insertLink_run] at h
  split at h
  · cases h
  · cases h
    rfl

theorem failsByLinks_relink? (side : Side) (plan : Uuid) (target : Option Uuid) :
    FailsByLinks (relink? side plan target) := by
  cases target with
  | none => exact failsByLinks_pure ()
  | some target => exact failsByLinks_relink side plan target

/-- A put that its table accepts can fail only by its links. -/
theorem putLinked_dangles (ha : s.Accepts entity.kind.table id entity.kind.tag)
    (ht : ¬ s.HasTargets entity.targets) :
    ∃ after, (putLinked id entity).run.run s = (.error (.storage .foreignKey), after) := by
  rcases hrun : (putLinked id entity).run.run s with ⟨⟨error⟩ | ⟨outcome⟩, after⟩
  · refine ⟨after, ?_⟩
    rw [putLinked, bind_run, put_ok.2 ⟨ha, rfl, rfl⟩] at hrun
    have hlinks : error = .storage .foreignKey := by
      simp only at hrun
      split at hrun
      · exact failsByLinks_pure _ _ _ _ hrun
      · exact (failsByLinks_relink _ _ _).bind (fun _ => (failsByLinks_relink _ _ _).bind
          fun _ => failsByLinks_pure _) _ _ _ hrun
    rw [hlinks]
  · exact absurd (putLinked_ok.1 hrun).2.1 ht

/-- So does a patch of a row that is there and of its kind. -/
theorem patchLinked_dangles (hf : s.find? patch.kind.table id.text = some row)
    (hstored : Entity.ofStored patch.kind.table row.tag row.body = .ok entity)
    (happly : patch.apply id entity = .ok entity')
    (ha : s.Accepts entity'.kind.table id entity'.kind.tag) (ht : ¬ s.HasTargets patch.targets) :
    ∃ after, (patchLinked id patch).run.run s = (.error (.storage .foreignKey), after) := by
  rcases hrun : (patchLinked id patch).run.run s with ⟨⟨error⟩ | ⟨_⟩, after⟩
  · refine ⟨after, ?_⟩
    rw [patchLinked, bind_run, load_ok.2 ⟨rfl, row, hf, hstored⟩] at hrun
    simp only at hrun
    rw [bind_run, ofExcept_ok.2 ⟨happly, rfl⟩] at hrun
    simp only at hrun
    rw [bind_run, put_ok.2 ⟨ha, rfl, rfl⟩] at hrun
    have hlinks : error = .storage .foreignKey := by
      simp only at hrun
      split at hrun
      · exact failsByLinks_pure _ _ _ _ hrun
      · exact (failsByLinks_relink? _ _ _).bind (fun _ => failsByLinks_relink? _ _ _) _ _ _ hrun
    rw [hlinks]
  · obtain ⟨row', stored, applied, hf', hstored', happly', -, ht', -⟩ := patchLinked_ok.1 hrun
    exact absurd ht' ht

end Statement

namespace Catalog

theorem transact_error {statement : Statement α} (hp : c.poisoned = false)
    (h : statement.run.run c.store = (.error error, s)) :
    (transact statement).run.run c = (.error error, c) := by
  rw [transact_run hp, h]

theorem transact_ok {statement : Statement α} {value : α} (hp : c.poisoned = false)
    (h : statement.run.run c.store = (.ok value, s)) :
    (transact statement).run.run c = (.ok value, { c with store := s }) := by
  rw [transact_run hp, h]

theorem putEntity_conflict (hp : c.poisoned = false) (hid : id.isNil = false)
    (hf : c.store.find? entity.kind.table id.text = some row) (ht : row.tag ≠ entity.kind.tag) :
    (putEntity id entity).run.run c = (.error (.kindConflict entity.kind.table id), c) := by
  have hkind : (entity.kind.table.kind? entity.kind.tag).isSome = true := by
    rw [Table.kind?_tag]
    rfl
  refine transact_error hp (s := c.store) ?_
  rw [Statement.putLinked, Statement.bind_run, Statement.put,
    Statement.upsert_conflict hid hkind hf ht]

/-- What putting an entity comes to. -/
inductive PutResult (c : Catalog) (id : Uuid) (entity : Entity) :
    Except CatalogError Outcome × Catalog → Prop where
  | conflict {row : Entry} (found : c.store.find? entity.kind.table id.text = some row)
      (other : row.tag ≠ entity.kind.tag) :
      PutResult c id entity (.error (.kindConflict entity.kind.table id), c)
  | dangles (accepts : c.store.Accepts entity.kind.table id entity.kind.tag)
      (missing : ¬ c.store.HasTargets entity.targets) :
      PutResult c id entity (.error (.storage .foreignKey), c)
  | stored (accepts : c.store.Accepts entity.kind.table id entity.kind.tag)
      (targets : c.store.HasTargets entity.targets) :
      PutResult c id entity (.ok (c.store.outcome entity.kind.table id.text),
        { c with store := c.store.rewritten id entity entity.targets })

theorem putEntity_result (hp : c.poisoned = false) (hid : id.isNil = false) (entity : Entity) :
    PutResult c id entity ((putEntity id entity).run.run c) := by
  by_cases hother : ∃ row, c.store.find? entity.kind.table id.text = some row ∧
      row.tag ≠ entity.kind.tag
  · obtain ⟨row, hf, htag⟩ := hother
    rw [putEntity_conflict hp hid hf htag]
    exact .conflict hf htag
  have haccepts : c.store.Accepts entity.kind.table id entity.kind.tag :=
    Store.accepts_of_agrees hid fun row hf =>
      Decidable.not_not.1 fun htag => hother ⟨row, hf, htag⟩
  by_cases ht : c.store.HasTargets entity.targets
  · rw [putEntity, transact_ok hp (Statement.putLinked_ok.2 ⟨haccepts, ht, rfl, rfl⟩)]
    exact .stored haccepts ht
  · obtain ⟨after, hrun⟩ := Statement.putLinked_dangles haccepts ht
    rw [putEntity, transact_error hp hrun]
    exact .dangles haccepts ht

/-- What patching comes to, on sound tables. -/
inductive PatchResult (c : Catalog) (id : Uuid) (patch : Patch) :
    Except CatalogError Unit × Catalog → Prop where
  | absent (none : c.store.find? patch.kind.table id.text = none) :
      PatchResult c id patch (.error (.notFound patch.kind.table id), c)
  | conflict {row : Entry} (found : c.store.find? patch.kind.table id.text = some row)
      (other : row.tag ≠ patch.kind.tag) :
      PatchResult c id patch (.error (.kindConflict patch.kind.table id), c)
  | dangles {entity : Entity} (held : c.store.Holds patch.kind.table id entity)
      (same : entity.kind = patch.kind) (missing : ¬ c.store.HasTargets patch.targets) :
      PatchResult c id patch (.error (.storage .foreignKey), c)
  | stored {entity entity' : Entity} (held : c.store.Holds patch.kind.table id entity)
      (applied : patch.apply id entity = .ok entity')
      (accepts : c.store.Accepts entity'.kind.table id entity'.kind.tag)
      (targets : c.store.HasTargets patch.targets) :
      PatchResult c id patch
        (.ok (), { c with store := c.store.rewritten id entity' patch.targets })

theorem patchEntity_result (hp : c.poisoned = false) (hs : c.store.Sound) (id : Uuid)
    (patch : Patch) : PatchResult c id patch ((patchEntity id patch).run.run c) := by
  cases hf : c.store.find? patch.kind.table id.text with
  | none =>
    have hrun : (Statement.patchLinked id patch).run.run c.store =
        (.error (.notFound patch.kind.table id), c.store) := by
      rw [Statement.patchLinked, Statement.bind_run, Statement.load_absent hf]
    rw [patchEntity, transact_error hp hrun]
    exact .absent hf
  | some row =>
    obtain ⟨hid, entity, hheld, htag, hstored⟩ := hs.holds_of_find? hf
    by_cases hkind : entity.kind = patch.kind
    · obtain ⟨entity', happly⟩ := Patch.exists_apply hkind id
      have hkind' := (Patch.kind_of_apply happly).2
      have haccepts : c.store.Accepts entity'.kind.table id entity'.kind.tag := by
        refine Store.accepts_of_agrees hid ?_
        rw [hkind', ← hkind, hheld.1, hf]
        intro row' hrow
        rw [← Option.some.inj hrow]
        exact htag
      by_cases ht : c.store.HasTargets patch.targets
      · rw [patchEntity, transact_ok hp (Statement.patchLinked_ok.2
          ⟨row, entity, entity', hf, hstored, happly, haccepts, ht, rfl⟩)]
        exact .stored hheld happly haccepts ht
      · obtain ⟨after, hrun⟩ := Statement.patchLinked_dangles hf hstored happly haccepts ht
        rw [patchEntity, transact_error hp hrun]
        exact .dangles hheld hkind ht
    · have hrun : (Statement.patchLinked id patch).run.run c.store =
          (.error (.kindConflict patch.kind.table id), c.store) := by
        rw [Statement.patchLinked, Statement.bind_run,
          Statement.load_ok.2 ⟨rfl, row, hf, hstored⟩]
        simp only
        rw [Patch.apply_of_ne hkind]
        rfl
      rw [patchEntity, transact_error hp hrun]
      refine .conflict hf fun he => hkind (Kind.eq_of_tag hheld.1 ?_)
      rw [← htag]
      exact he

end Catalog
end MovieCatalog
