import MovieCatalog.Catalog
import MovieCatalog.Proofs.Store

/-! What each statement does to the tables when it succeeds. -/
namespace MovieCatalog

/-- Where the links of one side lead. -/
def Endpoints.target (ends : Endpoints) : Side → Uuid
  | .input => ends.source
  | .output => ends.work

/-- The new target that a change gives for one side. -/
def PlanChange.target? (change : PlanChange) : Side → Option Uuid
  | .input => change.source
  | .output => change.work

namespace Store

/-- What a table asks of a row before it takes it. -/
structure Accepts (s : Store) (table : Table) (id : Uuid) (tag : String) : Prop where
  named : id.isNil = false
  valid : (table.kind? tag).isSome = true
  agrees : ∀ row, s.find? table id.text = some row → row.tag = tag

/-- What an accepted write reports. -/
def outcome (s : Store) (table : Table) (id : String) : Outcome :=
  match s.find? table id with
  | none => .created
  | some row => .ofRevision (row.revision + 1)

/-- Replace the link of a side when a target is given. -/
def relinked? (s : Store) (side : Side) (plan : String) : Option Uuid → Store
  | none => s
  | some target => s.relinked side plan target.text

/-- Write an entity, and replace its links on the sides that have a new target. -/
def rewritten (s : Store) (id : Uuid) (entity : Entity) (targets : Side → Option Uuid) : Store :=
  ((s.write entity.kind.table id.text entity.kind.tag entity.body).relinked? .input id.text
    (targets .input)).relinked? .output id.text (targets .output)

theorem entries_relinked? {s : Store} {side : Side} {plan : String} {target : Option Uuid}
    {table : Table} : (s.relinked? side plan target).entries table = s.entries table := by
  cases target with
  | none => rfl
  | some target => exact entries_relinked

theorem has_relinked? {s : Store} {side : Side} {plan : String} {target : Option Uuid}
    {table : Table} {id : String} :
    (s.relinked? side plan target).has table id = s.has table id := by
  rw [has, find?, entries_relinked?, has, find?]

theorem entries_rewritten {s : Store} {id : Uuid} {entity : Entity}
    {targets : Side → Option Uuid} (table : Table) :
    (s.rewritten id entity targets).entries table =
      (s.write entity.kind.table id.text entity.kind.tag entity.body).entries table := by
  rw [rewritten, entries_relinked?, entries_relinked?]

/-- Every new target is there. -/
def HasTargets (s : Store) (targets : Side → Option Uuid) : Prop :=
  ∀ side, ∀ target ∈ targets side, s.has side.target target.text = true

end Store

/-- An entity replaces the links of its plan on both sides, if it is one. -/
def Entity.targets (entity : Entity) (side : Side) : Option Uuid :=
  entity.ends?.map fun ends => ends.target side

theorem Entity.targets_eq_none {entity : Entity} (h : entity.ends? = none) (side : Side) :
    entity.targets side = none := by
  rw [targets, h, Option.map_none]

theorem Entity.targets_eq_some {entity : Entity} {ends : Endpoints} (h : entity.ends? = some ends)
    (side : Side) : entity.targets side = some (ends.target side) := by
  rw [targets, h, Option.map_some]

/-- A patch replaces the links of its plan on the sides that it changes. -/
def Patch.targets (patch : Patch) (side : Side) : Option Uuid :=
  patch.planChange?.bind fun change => change.target? side

theorem Entity.table_of_ends {entity : Entity} {ends : Endpoints} (h : entity.ends? = some ends) :
    entity.kind.table = .plans := by
  cases entity <;> first | rfl | cases h

theorem Entity.ends_of_table {entity : Entity} (h : entity.kind.table = .plans) :
    ∃ ends, entity.ends? = some ends := by
  cases entity <;> first | exact ⟨_, rfl⟩ | cases h

/-- A patch applies to entities of its own kind, and keeps the kind. -/
theorem Patch.kind_of_apply {patch : Patch} {id : Uuid} {entity entity' : Entity}
    (h : patch.apply id entity = .ok entity') :
    entity.kind = patch.kind ∧ entity'.kind = patch.kind := by
  cases patch <;> cases entity <;> cases h <;> exact ⟨rfl, rfl⟩

theorem Patch.table_of_planChange {patch : Patch} {change : PlanChange}
    (h : patch.planChange? = some change) : patch.kind.table = .plans := by
  cases patch <;> first | rfl | cases h

namespace Statement

variable {α β : Type} {s after : Store} {table : Table} {side : Side} {id plan target : Uuid}
  {tag body : String} {entity : Entity} {patch : Patch} {result : Outcome}

theorem bind_run (x : Statement α) (f : α → Statement β) (s : Store) :
    (x >>= f).run.run s = match x.run.run s with
      | (.ok value, s) => (f value).run.run s
      | (.error error, s) => (.error error, s) := by
  have hbind : (x >>= f).run.run s =
      (ExceptT.bindCont f (x.run.run s).1 : StateM Store _) (x.run.run s).2 := rfl
  rw [hbind]
  rcases x.run.run s with ⟨⟨error⟩ | ⟨value⟩, s⟩
  · rfl
  · rfl

theorem bind_ok {x : Statement α} {f : α → Statement β} {value : β} :
    (x >>= f).run.run s = (.ok value, after) ↔ ∃ first between,
      x.run.run s = (.ok first, between) ∧ (f first).run.run between = (.ok value, after) := by
  rw [bind_run]
  constructor
  · intro h
    split at h
    · rename_i first between he
      exact ⟨first, between, he, h⟩
    · cases h
  · rintro ⟨first, between, he, h⟩
    rw [he]
    exact h

theorem pure_ok {value value' : α} :
    (pure value : Statement α).run.run s = (.ok value', after) ↔ value' = value ∧ after = s := by
  change (Except.ok value, s) = _ ↔ _
  rw [Prod.mk.injEq, Except.ok.injEq]
  exact ⟨fun h => ⟨h.1.symm, h.2.symm⟩, fun h => ⟨h.1.symm, h.2.symm⟩⟩

theorem ofExcept_run (result : Except CatalogError α) (s : Store) :
    (ofExcept result).run.run s = (result, s) := by
  cases result with
  | error error => rfl
  | ok value => rfl

theorem ofExcept_ok {r : Except CatalogError α} {value : α} :
    (ofExcept r).run.run s = (.ok value, after) ↔ r = .ok value ∧ after = s := by
  rw [ofExcept_run, Prod.mk.injEq, eq_comm (a := s)]

theorem upsert_run (s : Store) : (upsert table id tag body).run.run s =
    if id.isNil then (.error (.invalidInput (.nilId table)), s)
    else if (table.kind? tag).isNone then (.error (.invalidInput (.kind table tag)), s)
    else match s.find? table id.text with
      | none => (.ok .created, s.append table ⟨id.text, tag, body, 1⟩)
      | some row =>
        if row.tag = tag then
          (.ok (.ofRevision (row.revision + 1)), s.overwrite table id.text body)
        else (.error (.kindConflict table id), s) := by
  unfold upsert
  rw [Table.contains_tags, Option.not_isSome]
  split
  · rfl
  split
  · rfl
  change (match s.find? table id.text with
    | none => _
    | some row => _ : Statement Outcome).run.run s = _
  cases s.find? table id.text with
  | none => rfl
  | some row =>
    simp only
    split
    · rfl
    · rfl

theorem upsert_ok : (upsert table id tag body).run.run s = (.ok result, after) ↔
    s.Accepts table id tag ∧ result = s.outcome table id.text ∧
      after = s.write table id.text tag body := by
  rw [upsert_run]
  split
  · rename_i hnil
    constructor
    · intro h; cases h
    · rintro ⟨h, -⟩
      rw [h.named] at hnil
      cases hnil
  rename_i hnil
  split
  · rename_i hkind
    constructor
    · intro h; cases h
    · rintro ⟨h, -⟩
      have hv := h.valid
      rw [Option.isNone_iff_eq_none.1 hkind] at hv
      cases hv
  rename_i hkind
  have hvalid : (table.kind? tag).isSome = true := by
    rw [← Option.not_isNone, Bool.eq_false_iff.2 hkind]
    rfl
  -- With a name and a kind it is left to the row that is there.
  have haccepts : s.Accepts table id tag ↔
      ∀ row, s.find? table id.text = some row → row.tag = tag :=
    ⟨Store.Accepts.agrees, fun h => ⟨Bool.eq_false_iff.2 hnil, hvalid, h⟩⟩
  rw [haccepts, Store.outcome, Store.write]
  cases hf : s.find? table id.text with
  | none =>
    constructor
    · intro h
      cases h
      refine ⟨?_, rfl, rfl⟩
      intro row hrow
      cases hrow
    · rintro ⟨-, rfl, rfl⟩
      rfl
  | some row =>
    simp only [Option.some.injEq, forall_eq']
    split
    · rename_i htag
      constructor
      · intro h
        cases h
        exact ⟨htag, rfl, rfl⟩
      · rintro ⟨-, rfl, rfl⟩
        rfl
    · rename_i htag
      constructor
      · intro h; cases h
      · rintro ⟨h, -⟩
        exact absurd h htag

theorem put_ok : (put id entity).run.run s = (.ok result, after) ↔
    s.Accepts entity.kind.table id entity.kind.tag ∧
      result = s.outcome entity.kind.table id.text ∧
      after = s.write entity.kind.table id.text entity.kind.tag entity.body := upsert_ok

theorem getEntity_run (s : Store) : (getEntity table id).run.run s =
    match s.find? table id.text with
    | none => (.error (.notFound table id), s)
    | some row => (.ok ⟨id, row.tag, row.body, row.revision⟩, s) := by
  change (match s.find? table id.text with
    | none => _
    | some row => _ : Statement StoredEntity).run.run s = _
  cases s.find? table id.text with
  | none => rfl
  | some row => rfl

theorem load_ok : (load table id).run.run s = (.ok entity, after) ↔
    after = s ∧ ∃ row, s.find? table id.text = some row ∧
      Entity.ofStored table row.tag row.body = .ok entity := by
  rw [load, bind_ok]
  constructor
  · rintro ⟨stored, between, hget, hload⟩
    rw [getEntity_run] at hget
    split at hget
    · cases hget
    · rename_i row hf
      cases hget
      obtain ⟨he, ha⟩ := ofExcept_ok.1 hload
      exact ⟨ha, row, hf, he⟩
  · rintro ⟨rfl, row, hf, he⟩
    refine ⟨⟨id, row.tag, row.body, row.revision⟩, after, ?_, ofExcept_ok.2 ⟨he, rfl⟩⟩
    rw [getEntity_run, hf]

theorem insertLink_run (side : Side) (plan target : String) (s : Store) :
    (insertLink side plan target).run.run s =
      if s.has .plans plan && s.has side.target target then (.ok (), s.link side plan target)
      else (.error (.storage .foreignKey), s) := by
  change (if s.has .plans plan && s.has side.target target then _ else _ :
    Statement Unit).run.run s = _
  split
  · rfl
  · rfl

theorem relink_ok : (relink side plan target).run.run s = (.ok (), after) ↔
    (s.has .plans plan.text = true ∧ s.has side.target target.text = true) ∧
      after = s.relinked side plan.text target.text := by
  have hhas : ∀ table id, (s.unlink side plan.text).has table id = s.has table id := by
    intro table id
    rw [Store.has, Store.find?, Store.unlink, Store.entries_setLinks, Store.has, Store.find?]
  have hrun : (relink side plan target).run.run s =
      (insertLink side plan.text target.text).run.run (s.unlink side plan.text) := rfl
  rw [hrun, insertLink_run, hhas, hhas, ← Bool.and_eq_true, Store.relinked]
  split
  · rename_i h
    rw [h]
    constructor
    · intro he
      cases he
      exact ⟨rfl, rfl⟩
    · rintro ⟨-, rfl⟩
      rfl
  · rename_i h
    constructor
    · intro he
      cases he
    · rintro ⟨h', -⟩
      exact absurd h' h

theorem relink?_ok {target : Option Uuid} : (relink? side plan target).run.run s = (.ok (), after) ↔
    (∀ id ∈ target, s.has .plans plan.text = true ∧ s.has side.target id.text = true) ∧
      after = s.relinked? side plan.text target := by
  cases target with
  | none =>
    rw [relink?, pure_ok]
    simp [Store.relinked?]
  | some id =>
    rw [relink?, relink_ok]
    simp [Store.relinked?]

/-- Replacing the links of a plan that is there asks for the targets alone. -/
theorem relinkBoth_ok {input output : Option Uuid} (hplan : s.has .plans plan.text = true) :
    (relink? .input plan input >>= fun _ => relink? .output plan output).run.run s =
      (.ok (), after) ↔
    ((∀ target ∈ input, s.has .sources target.text = true) ∧
      (∀ target ∈ output, s.has .works target.text = true)) ∧
      after = (s.relinked? .input plan.text input).relinked? .output plan.text output := by
  rw [bind_ok]
  constructor
  · rintro ⟨_, between, hinput, houtput⟩
    obtain ⟨hin, rfl⟩ := relink?_ok.1 hinput
    obtain ⟨hout, rfl⟩ := relink?_ok.1 houtput
    refine ⟨⟨fun target ht => (hin target ht).2, fun target ht => ?_⟩, rfl⟩
    rw [← (hout target ht).2, Store.has_relinked?]
    rfl
  · rintro ⟨⟨hin, hout⟩, rfl⟩
    refine ⟨(), _, relink?_ok.2 ⟨fun target ht => ⟨hplan, hin target ht⟩, rfl⟩, ?_⟩
    refine relink?_ok.2 ⟨fun target ht => ?_, rfl⟩
    rw [Store.has_relinked?, Store.has_relinked?]
    exact ⟨hplan, hout target ht⟩

/-- Writing a plan changes neither sources nor works. -/
theorem has_target_write {target : String} (h : table = .plans) :
    (s.write table id.text tag body).has side.target target = s.has side.target target := by
  subst h
  rw [Store.has, Store.find?_write_of_ne (.inl _), Store.has]
  cases side <;> exact fun h => by cases h

theorem thenReturn_ok {x y : Statement Unit} {value value' : α} :
    (x >>= fun _ => y >>= fun _ => pure value).run.run s = (.ok value', after) ↔
      (x >>= fun _ => y).run.run s = (.ok (), after) ∧ value' = value := by
  rw [bind_ok, bind_ok]
  constructor
  · rintro ⟨_, between, hx, h⟩
    obtain ⟨_, between', hy, hv⟩ := bind_ok.1 h
    obtain ⟨rfl, rfl⟩ := pure_ok.1 hv
    exact ⟨⟨(), between, hx, hy⟩, rfl⟩
  · rintro ⟨⟨_, between, hx, hy⟩, rfl⟩
    exact ⟨(), between, hx, bind_ok.2 ⟨(), after, hy, pure_ok.2 ⟨rfl, rfl⟩⟩⟩

/-- New targets are asked for alike before and after a plan is written. -/
theorem hasTargets_write {targets : Side → Option Uuid} (h : table = .plans) :
    ((∀ target ∈ targets .input,
        (s.write table id.text tag body).has .sources target.text = true) ∧
      (∀ target ∈ targets .output,
        (s.write table id.text tag body).has .works target.text = true)) ↔
      s.HasTargets targets := by
  have hhas : ∀ side target, (s.write table id.text tag body).has (Side.target side) target =
      s.has (Side.target side) target := fun _ _ => has_target_write h
  constructor
  · rintro ⟨hin, hout⟩ side target ht
    rw [← hhas]
    cases side with
    | input => exact hin target ht
    | output => exact hout target ht
  · intro ht
    refine ⟨fun target hm => ?_, fun target hm => ?_⟩
    · exact (hhas .input target.text).trans (ht .input target hm)
    · exact (hhas .output target.text).trans (ht .output target hm)

/-- Putting an entity succeeds if its table accepts it and what it leads to is there. -/
theorem putLinked_ok : (putLinked id entity).run.run s = (.ok result, after) ↔
    s.Accepts entity.kind.table id entity.kind.tag ∧ s.HasTargets entity.targets ∧
      result = s.outcome entity.kind.table id.text ∧
      after = s.rewritten id entity entity.targets := by
  rw [putLinked, bind_ok]
  cases hends : entity.ends? with
  | none =>
    have htargets := Entity.targets_eq_none hends
    have hafter : s.rewritten id entity entity.targets =
        s.write entity.kind.table id.text entity.kind.tag entity.body := by
      rw [Store.rewritten, htargets, htargets, Store.relinked?, Store.relinked?]
    have hnone : s.HasTargets entity.targets := by
      intro side target ht
      rw [htargets] at ht
      cases ht
    constructor
    · rintro ⟨first, between, hput, hpure⟩
      obtain ⟨hacc, rfl, rfl⟩ := put_ok.1 hput
      obtain ⟨rfl, rfl⟩ := pure_ok.1 hpure
      exact ⟨hacc, hnone, rfl, hafter.symm⟩
    · rintro ⟨hacc, -, rfl, rfl⟩
      exact ⟨_, _, put_ok.2 ⟨hacc, rfl, rfl⟩, pure_ok.2 ⟨rfl, hafter⟩⟩
  | some ends =>
    have htable := Entity.table_of_ends hends
    have htargets := Entity.targets_eq_some hends
    have hplan : (s.write entity.kind.table id.text entity.kind.tag entity.body).has .plans
        id.text = true := by
      rw [htable]
      exact Store.has_write_self
    have hlinks : ∀ after, (relink? .input id (some (ends.target .input)) >>= fun _ =>
        relink? .output id (some (ends.target .output))).run.run
          (s.write entity.kind.table id.text entity.kind.tag entity.body) = (.ok (), after) ↔
        s.HasTargets entity.targets ∧ after = s.rewritten id entity entity.targets := by
      intro after
      rw [← hasTargets_write htable, Store.rewritten, htargets, htargets]
      exact relinkBoth_ok hplan
    constructor
    · rintro ⟨first, between, hput, hrest⟩
      obtain ⟨hacc, rfl, rfl⟩ := put_ok.1 hput
      obtain ⟨hboth, rfl⟩ := thenReturn_ok.1 hrest
      obtain ⟨ht, ha⟩ := (hlinks _).1 hboth
      exact ⟨hacc, ht, rfl, ha⟩
    · rintro ⟨hacc, ht, rfl, rfl⟩
      exact ⟨_, _, put_ok.2 ⟨hacc, rfl, rfl⟩, thenReturn_ok.2 ⟨(hlinks _).2 ⟨ht, rfl⟩, rfl⟩⟩

/-- The links that a patch replaces, once the entity is written. -/
theorem patchLinks_ok (htable : table = patch.kind.table) :
    (match patch.planChange? with
      | none => pure ()
      | some change => do
        relink? .input id change.source
        relink? .output id change.work : Statement Unit).run.run
      (s.write table id.text tag body) = (.ok (), after) ↔
    s.HasTargets patch.targets ∧
      after = ((s.write table id.text tag body).relinked? .input id.text
        (patch.targets .input)).relinked? .output id.text (patch.targets .output) := by
  cases hchange : patch.planChange? with
  | none =>
    have htargets : ∀ side, patch.targets side = none := by
      intro side
      rw [Patch.targets, hchange, Option.bind_none]
    rw [pure_ok, htargets, htargets]
    constructor
    · rintro ⟨-, rfl⟩
      refine ⟨fun side target ht => ?_, rfl⟩
      rw [htargets] at ht
      cases ht
    · rintro ⟨-, rfl⟩
      exact ⟨rfl, rfl⟩
  | some change =>
    have hplans : table = .plans := htable.trans (Patch.table_of_planChange hchange)
    have htargets : ∀ side, patch.targets side = change.target? side := by
      intro side
      rw [Patch.targets, hchange, Option.bind_some]
    have hplan : (s.write table id.text tag body).has .plans id.text = true := by
      rw [hplans]
      exact Store.has_write_self
    rw [← hasTargets_write hplans, htargets, htargets]
    exact relinkBoth_ok hplan

/-- Patching succeeds if the entity is there, the patch is of its kind, the table takes it back,
and what the patch leads to is there. -/
theorem patchLinked_ok : (patchLinked id patch).run.run s = (.ok (), after) ↔
    ∃ row entity entity', s.find? patch.kind.table id.text = some row ∧
      Entity.ofStored patch.kind.table row.tag row.body = .ok entity ∧
      patch.apply id entity = .ok entity' ∧
      s.Accepts entity'.kind.table id entity'.kind.tag ∧ s.HasTargets patch.targets ∧
      after = s.rewritten id entity' patch.targets := by
  rw [patchLinked, bind_ok]
  constructor
  · rintro ⟨entity, between, hload, hrest⟩
    obtain ⟨rfl, row, hfind, hstored⟩ := load_ok.1 hload
    obtain ⟨entity', between', hresult, hrest'⟩ := bind_ok.1 hrest
    obtain ⟨happly, rfl⟩ := ofExcept_ok.1 hresult
    obtain ⟨result, written, hput, hlinks⟩ := bind_ok.1 hrest'
    obtain ⟨hacc, -, rfl⟩ := put_ok.1 hput
    have hkind := (Patch.kind_of_apply happly).2
    obtain ⟨ht, ha⟩ := (patchLinks_ok (by rw [hkind])).1 hlinks
    exact ⟨row, entity, entity', hfind, hstored, happly, hacc, ht, ha⟩
  · rintro ⟨row, entity, entity', hfind, hstored, happly, hacc, ht, ha⟩
    have hkind := (Patch.kind_of_apply happly).2
    refine ⟨entity, s, load_ok.2 ⟨rfl, row, hfind, hstored⟩, ?_⟩
    refine bind_ok.2 ⟨entity', s, ofExcept_ok.2 ⟨happly, rfl⟩, ?_⟩
    refine bind_ok.2 ⟨_, _, put_ok.2 ⟨hacc, rfl, rfl⟩, ?_⟩
    exact (patchLinks_ok (by rw [hkind])).2 ⟨ht, ha⟩

end Statement
end MovieCatalog
