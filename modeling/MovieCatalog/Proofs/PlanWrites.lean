import MovieCatalog.Proofs.Commutation

/-! Writes of plans, in full. On any tables it is told when a plan is put or patched and what the
tables are afterwards: its row, its links, and that nothing else has changed. -/
namespace MovieCatalog

namespace Store

/-- The links of a side after a plan got a target there: those of the other plans as they were, and
the new one behind them. Without a target they stay. -/
def repointed (s : Store) (side : Side) (plan : String) : Option Uuid → List Link
  | none => s.links side
  | some target =>
    ((s.links side).filter fun link => link.plan != plan) ++ [⟨plan, target.text⟩]

/-- The revision of a row after the next write to it. -/
def nextRevision (s : Store) (table : Table) (id : String) : Nat :=
  match s.find? table id with
  | none => 1
  | some row => row.revision + 1

/-- The tables after a plan was written with new targets on some sides, against those before. -/
structure WrotePlan (before after : Store) (id : Uuid) (plan : Entity)
    (targets : Side → Option Uuid) : Prop where
  row : after.find? .plans id.text =
    some ⟨id.text, plan.kind.tag, plan.body, before.nextRevision .plans id.text⟩
  ids : after.ids .plans =
    if before.has .plans id.text then before.ids .plans else before.ids .plans ++ [id.text]
  others : (after.plans.filter fun row => row.id != id.text) =
    before.plans.filter fun row => row.id != id.text
  links : ∀ side, after.links side = before.repointed side id.text (targets side)
  works : after.works = before.works
  sources : after.sources = before.sources

end Store

namespace Catalog

/-- Putting a plan, in full: when it succeeds, and the tables after it. -/
structure PutsPlan (c : Catalog) (id : Uuid) (plan : Entity) (ends : Endpoints)
    (result : Except CatalogError Outcome × Catalog) : Prop where
  succeeds : (∃ outcome, result.1 = .ok outcome) ↔
    (∀ row, c.store.find? .plans id.text = some row → row.tag = plan.kind.tag) ∧
      c.store.has .sources ends.source.text = true ∧ c.store.has .works ends.work.text = true
  stores : ∀ outcome, result.1 = .ok outcome →
    c.store.WrotePlan result.2.store id plan fun side => some (ends.target side)
  fails : ∀ error, result.1 = .error error → result.2 = c

/-- Patching a plan, in full. The row must be there, and what it stands for must have the kind of
the patch. -/
structure PatchesPlan (c : Catalog) (id : Uuid) (patch : Patch) (change : PlanChange)
    (result : Except CatalogError Unit × Catalog) : Prop where
  succeeds : result.1 = .ok () ↔
    (∃ row plan, c.store.find? .plans id.text = some row ∧
      Entity.ofStored .plans row.tag row.body = .ok plan ∧ plan.kind = patch.kind) ∧
      (∀ source ∈ change.source, c.store.has .sources source.text = true) ∧
      ∀ work ∈ change.work, c.store.has .works work.text = true
  stores : result.1 = .ok () → ∃ row plan plan', c.store.find? .plans id.text = some row ∧
    Entity.ofStored .plans row.tag row.body = .ok plan ∧ patch.apply id plan = .ok plan' ∧
      c.store.WrotePlan result.2.store id plan' change.target?
  fails : ∀ error, result.1 = .error error → result.2 = c

end Catalog

variable {c : Catalog} {s : Store} {table : Table} {side side' : Side} {id : Uuid}
  {text tag body plan : String} {entity entity' : Entity} {patch : Patch} {ends : Endpoints}
  {change : PlanChange} {targets : Side → Option Uuid} {target : Option Uuid}

namespace Store

theorem links_relinked?_self :
    (s.relinked? side plan target).links side = s.repointed side plan target := by
  cases target with
  | none => rfl
  | some target => exact links_relinked_self

theorem links_relinked?_of_ne (h : side' ≠ side) :
    (s.relinked? side plan target).links side' = s.links side' := by
  cases target with
  | none => rfl
  | some target => exact links_relinked_of_ne h

theorem repointed_congr {s' : Store} (h : s.links side = s'.links side) :
    s.repointed side plan target = s'.repointed side plan target := by
  cases target with
  | none => exact h
  | some target => rw [repointed, h, repointed]

theorem links_rewritten (s : Store) (id : Uuid) (entity : Entity) (targets : Side → Option Uuid)
    (side : Side) :
    (s.rewritten id entity targets).links side = s.repointed side id.text (targets side) := by
  rw [rewritten]
  cases side with
  | input =>
    have hne : Side.input ≠ .output := by decide
    rw [links_relinked?_of_ne hne, links_relinked?_self]
    exact repointed_congr links_write
  | output =>
    have hne : Side.output ≠ .input := by decide
    rw [links_relinked?_self]
    exact repointed_congr ((links_relinked?_of_ne hne).trans links_write)

/-- What an accepted write leaves in its row. -/
theorem written_of_accepts (h : s.Accepts table id tag) : s.written table id.text tag body =
    ⟨id.text, tag, body, s.nextRevision table id.text⟩ := by
  rw [written, nextRevision]
  cases hfound : s.find? table id.text with
  | none => rfl
  | some row =>
    have hid := id_of_find? hfound
    have htag := h.agrees row hfound
    simp only [← hid, ← htag]

/-- The rows with other id texts stay, in their order. -/
theorem filter_entries_write : (((s.write table text tag body).entries table).filter
      fun row => row.id != text) = (s.entries table).filter fun row => row.id != text := by
  have hadded : (s.added table text tag body).filter (fun row => row.id != text) = [] := by
    rw [added]
    split
    · rfl
    · simp
  have hkept : ∀ row : Entry, ((row.overwritten text body).id != text) = (row.id != text) := by
    intro row
    rw [Entry.overwritten]
    split <;> rfl
  rw [entries_write_self, List.filter_append, hadded, List.append_nil, List.filter_map]
  have hsame : (fun row : Entry => row.id != text) ∘
      (fun row : Entry => row.overwritten text body) = fun row => row.id != text := funext hkept
  rw [hsame]
  refine (List.map_congr_left ?_).trans (List.map_id _)
  intro row hrow
  exact Entry.overwritten_of_ne (bne_iff_ne.1 (List.mem_filter.1 hrow).2) body

theorem ids_write : (s.write table text tag body).ids table =
    if s.has table text then s.ids table else s.ids table ++ [text] := by
  cases h : s.has table text with
  | true => exact ids_write_of_has h
  | false => exact ids_write_of_not_has h

theorem wrotePlan_rewritten (h : s.Accepts entity.kind.table id entity.kind.tag)
    (hplan : entity.kind.table = .plans) :
    s.WrotePlan (s.rewritten id entity targets) id entity targets := by
  have hother : ∀ table : Table, table ≠ .plans →
      (s.rewritten id entity targets).entries table = s.entries table := by
    intro table hne
    rw [entries_rewritten, hplan, entries_write_of_ne hne]
  refine ⟨?_, ?_, ?_, links_rewritten s id entity targets, ?_, ?_⟩
  · rw [find?_rewritten, hplan, find?_write_self, written_of_accepts (hplan ▸ h)]
  · rw [ids_rewritten, hplan, ids_write]
  · change ((s.rewritten id entity targets).entries .plans).filter _ = _
    rw [entries_rewritten, hplan]
    exact filter_entries_write
  · exact hother .works (by decide)
  · exact hother .sources (by decide)

theorem hasTargets_ends : s.HasTargets (fun side => some (ends.target side)) ↔
    s.has .sources ends.source.text = true ∧ s.has .works ends.work.text = true := by
  constructor
  · intro h
    exact ⟨h .input _ rfl, h .output _ rfl⟩
  · rintro ⟨hsource, hwork⟩ side target htarget
    cases htarget
    cases side with
    | input => exact hsource
    | output => exact hwork

theorem hasTargets_change : s.HasTargets change.target? ↔
    (∀ source ∈ change.source, s.has .sources source.text = true) ∧
      ∀ work ∈ change.work, s.has .works work.text = true := by
  constructor
  · intro h
    exact ⟨h .input, h .output⟩
  · rintro ⟨hsource, hwork⟩ side
    cases side with
    | input => exact hsource
    | output => exact hwork

end Store

namespace Catalog

theorem puts_plan (hp : c.poisoned = false) (hid : id.isNil = false)
    (hends : entity.ends? = some ends) :
    c.PutsPlan id entity ends ((putEntity id entity).run.run c) := by
  have htable := Entity.table_of_ends hends
  have htargets : entity.targets = fun side => some (ends.target side) :=
    funext (Entity.targets_eq_some hends)
  rcases hrun : (putEntity id entity).run.run c with ⟨result, after⟩
  refine ⟨?_, ?_, ?_⟩
  · rw [← Store.hasTargets_ends, ← htargets]
    constructor
    · rintro ⟨outcome, rfl⟩
      obtain ⟨-, s, hs, -⟩ := transact_eq_ok.1 hrun
      obtain ⟨haccepts, hthere, -⟩ := Statement.putLinked_ok.1 hs
      rw [htable] at haccepts
      exact ⟨haccepts.agrees, hthere⟩
    · rintro ⟨hagrees, hthere⟩
      rw [← htable] at hagrees
      have haccepts := Store.accepts_of_agrees hid hagrees
      have hput := transact_ok hp (Statement.putLinked_ok.2 ⟨haccepts, hthere, rfl, rfl⟩)
      rw [← putEntity, hrun] at hput
      exact ⟨_, congrArg Prod.fst hput⟩
  · rintro outcome rfl
    obtain ⟨-, s, hs, rfl⟩ := transact_eq_ok.1 hrun
    obtain ⟨haccepts, -, -, rfl⟩ := Statement.putLinked_ok.1 hs
    rw [← htargets]
    exact Store.wrotePlan_rewritten haccepts htable
  · rintro error rfl
    exact transact_failed hrun

theorem patches_plan (hp : c.poisoned = false) (hid : id.isNil = false)
    (hchange : patch.planChange? = some change) :
    c.PatchesPlan id patch change ((patchEntity id patch).run.run c) := by
  have htable := Patch.table_of_planChange hchange
  have htargets : patch.targets = change.target? := by
    funext side
    rw [Patch.targets, hchange, Option.bind_some]
  rcases hrun : (patchEntity id patch).run.run c with ⟨result, after⟩
  refine ⟨?_, ?_, ?_⟩
  · rw [← Store.hasTargets_change, ← htargets]
    constructor
    · rintro rfl
      obtain ⟨-, s, hs, -⟩ := transact_eq_ok.1 hrun
      obtain ⟨row, plan, plan', hfound, hstored, happly, -, hthere, -⟩ :=
        Statement.patchLinked_ok.1 hs
      rw [htable] at hfound hstored
      exact ⟨⟨row, plan, hfound, hstored, (Patch.kind_of_apply happly).1⟩, hthere⟩
    · rintro ⟨⟨row, plan, hfound, hstored, hkind⟩, hthere⟩
      obtain ⟨plan', happly⟩ := Patch.exists_apply hkind id
      have hkind' := (Patch.kind_of_apply happly).2
      -- The row has the tag that its plan is written back with.
      have haccepts : c.store.Accepts plan'.kind.table id plan'.kind.tag := by
        refine Store.accepts_of_agrees hid ?_
        rw [hkind', htable, hfound, ← hkind]
        rintro row' ⟨⟩
        exact (Entity.kind_of_ofStored hstored).2.symm
      rw [← htable] at hfound hstored
      have hpatch := transact_ok hp (Statement.patchLinked_ok.2
        ⟨row, plan, plan', hfound, hstored, happly, haccepts, hthere, rfl⟩)
      rw [← patchEntity, hrun] at hpatch
      exact congrArg Prod.fst hpatch
  · rintro rfl
    obtain ⟨-, s, hs, rfl⟩ := transact_eq_ok.1 hrun
    obtain ⟨row, plan, plan', hfound, hstored, happly, haccepts, -, rfl⟩ :=
      Statement.patchLinked_ok.1 hs
    have htable' : plan'.kind.table = .plans := by rw [(Patch.kind_of_apply happly).2, htable]
    rw [htable] at hfound hstored
    refine ⟨row, plan, plan', hfound, hstored, happly, ?_⟩
    rw [← htargets]
    exact Store.wrotePlan_rewritten haccepts htable'
  · rintro error rfl
    exact transact_failed hrun

/-- What writes of plans come to, whatever the tables hold: when they succeed, and then which row,
which links and which other rows are there afterwards. -/
theorem plan_writes_exact {c : Catalog} {id : Uuid} (hp : c.poisoned = false)
    (hid : id.isNil = false) :
    (∀ plan ends, plan.ends? = some ends →
      c.PutsPlan id plan ends ((putEntity id plan).run.run c)) ∧
    ∀ patch change, patch.planChange? = some change →
      c.PatchesPlan id patch change ((patchEntity id patch).run.run c) :=
  ⟨fun _ _ => puts_plan hp hid, fun _ _ => patches_plan hp hid⟩

/-- A plan that came to have two links on one side and none on the other is put again: it has one on
each side then, and the link of another plan stays before it. -/
theorem plan_writes_of_doubled_links :
    let source := Uuid.ofNat 1
    let work := Uuid.ofNat 2
    let plan := Uuid.ofNat 3
    let entity : Entity := .direct ⟨source, work⟩
    let c : Catalog := { Catalog.new with
      store := ⟨[⟨work.text, "movie", "", 1⟩], [⟨source.text, "file", "", 1⟩],
        [⟨plan.text, "direct", "spoiled", 7⟩],
        [⟨plan.text, source.text⟩, ⟨"other", source.text⟩, ⟨plan.text, source.text⟩], []⟩ }
    let result := (putEntity plan entity).run.run c
    c.poisoned = false ∧ plan.isNil = false ∧ (∃ outcome, result.1 = .ok outcome) ∧
      result.2.store.find? .plans plan.text = some ⟨plan.text, "direct", entity.body, 8⟩ ∧
      result.2.store.inputs = [⟨"other", source.text⟩, ⟨plan.text, source.text⟩] ∧
      result.2.store.outputs = [⟨plan.text, work.text⟩] := by
  intro source work plan entity c result
  have hp : c.poisoned = false := rfl
  have hid : plan.isNil = false := by decide
  have hputs : c.PutsPlan plan entity ⟨source, work⟩ result :=
    (plan_writes_exact hp hid).1 entity ⟨source, work⟩ rfl
  clear_value result
  obtain ⟨outcome, hok⟩ := hputs.succeeds.2 (by decide +kernel)
  have hwrote := hputs.stores outcome hok
  refine ⟨hp, hid, ⟨outcome, hok⟩, hwrote.row.trans ?_, ?_, ?_⟩
  · decide +kernel
  · exact (hwrote.links .input).trans (by decide +kernel)
  · exact (hwrote.links .output).trans (by decide +kernel)

end Catalog
end MovieCatalog
