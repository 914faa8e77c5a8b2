import MovieCatalog.Proofs.Runs
import MovieCatalog.Proofs.StoredBody
import MovieCatalog.Proofs.Uuid

/-! Tables in which every row stands for an entity, and every plan has the links that its body
names. Each accepted write keeps them so. -/
namespace MovieCatalog

/-- A change of a plan gives a side's target or leaves it. -/
theorem PlanChange.target_ends (change : PlanChange) (ends : Endpoints) (side : Side) :
    change.target? side = some ((change.ends ends).target side) ∨
      change.target? side = none ∧ ends.target side = (change.ends ends).target side := by
  rcases change with ⟨source, work, start, stop⟩
  cases side with
  | input =>
    cases source with
    | none => exact .inr ⟨rfl, rfl⟩
    | some id => exact .inl rfl
  | output =>
    cases work with
    | none => exact .inr ⟨rfl, rfl⟩
    | some id => exact .inl rfl

/-- A patch changes the ends of a plan as its plan change says. -/
theorem Patch.ends_of_apply {patch : Patch} {id : Uuid} {entity entity' : Entity}
    (h : patch.apply id entity = .ok entity') :
    (patch.planChange? = none ∧ entity'.ends? = none) ∨ ∃ change ends,
      patch.planChange? = some change ∧ entity.ends? = some ends ∧
        entity'.ends? = some (change.ends ends) := by
  cases patch <;> cases entity <;> cases h <;>
    first | exact .inl ⟨rfl, rfl⟩ | exact .inr ⟨_, _, rfl, rfl, rfl⟩

namespace Store

variable {s s' : Store} {table : Table} {side : Side} {id id' : Uuid} {text : String}
  {entity entity' plan : Entity} {patch : Patch} {ends : Endpoints} {row : Entry} {link : Link}
  {targets : Side → Option Uuid} {target : Uuid}

theorem linksOf_relinked?_of_ne {side' : Side} {given : Option Uuid} {plan plan' : String}
    (h : side' ≠ side ∨ plan' ≠ plan) :
    (s.relinked? side plan given).linksOf side' plan' = s.linksOf side' plan' := by
  cases given with
  | none => rfl
  | some target => exact linksOf_relinked_of_ne h

theorem mem_links_relinked? {side' : Side} {given : Option Uuid} {plan : String}
    (h : link ∈ (s.relinked? side plan given).links side') :
    link.plan = plan ∧ given.isSome = true ∨ link ∈ s.links side' := by
  cases given with
  | none => exact .inr h
  | some target =>
    rcases mem_links_relinked h with hp | hl
    · exact .inl ⟨hp, rfl⟩
    · exact .inr hl

theorem find?_rewritten : (s.rewritten id entity targets).find? table text =
    (s.write entity.kind.table id.text entity.kind.tag entity.body).find? table text := by
  rw [find?, entries_rewritten, find?]

theorem ids_rewritten : (s.rewritten id entity targets).ids table =
    (s.write entity.kind.table id.text entity.kind.tag entity.body).ids table := by
  rw [ids, entries_rewritten, ids]

theorem has_rewritten_of_has (h : s.has table text = true) :
    (s.rewritten id entity targets).has table text = true := by
  rw [has, find?_rewritten, ← has]
  exact has_write_of_has h

theorem linksOf_rewritten_of_ne {plan : String} (h : plan ≠ id.text) :
    (s.rewritten id entity targets).linksOf side plan = s.linksOf side plan := by
  rw [rewritten, linksOf_relinked?_of_ne (.inr h), linksOf_relinked?_of_ne (.inr h), linksOf,
    links_write, linksOf]

theorem linksOf_rewritten_of_some (h : targets side = some target) :
    (s.rewritten id entity targets).linksOf side id.text = [⟨id.text, target.text⟩] := by
  rw [rewritten]
  cases side with
  | input =>
    rw [linksOf_relinked?_of_ne (.inl fun he => by cases he), h]
    exact linksOf_relinked_self
  | output =>
    rw [h]
    exact linksOf_relinked_self

theorem linksOf_rewritten_of_none (h : targets side = none) :
    (s.rewritten id entity targets).linksOf side id.text = s.linksOf side id.text := by
  have hwrite : (s.write entity.kind.table id.text entity.kind.tag entity.body).linksOf side
      id.text = s.linksOf side id.text := by
    rw [linksOf, links_write, linksOf]
  rw [rewritten]
  cases side with
  | input =>
    rw [linksOf_relinked?_of_ne (.inl fun he => by cases he), h]
    exact hwrite
  | output =>
    rw [h]
    change (relinked? _ .input id.text (targets .input)).linksOf .output id.text = _
    rw [linksOf_relinked?_of_ne (.inl fun he => by cases he)]
    exact hwrite

theorem mem_links_rewritten (h : link ∈ (s.rewritten id entity targets).links side) :
    (link.plan = id.text ∧ ∃ side, (targets side).isSome = true) ∨ link ∈ s.links side := by
  rcases mem_links_relinked? h with ⟨hp, ht⟩ | h
  · exact .inl ⟨hp, .output, ht⟩
  rcases mem_links_relinked? h with ⟨hp, ht⟩ | h
  · exact .inl ⟨hp, .input, ht⟩
  rw [links_write] at h
  exact .inr h

/-- The row of an identifier is the stored form of an entity of its table. -/
def Holds (s : Store) (table : Table) (id : Uuid) (entity : Entity) : Prop :=
  entity.kind.table = table ∧
    ∃ revision, s.find? table id.text = some ⟨id.text, entity.kind.tag, entity.body, revision⟩

theorem Holds.has (h : s.Holds table id entity) : s.has table id.text = true := by
  obtain ⟨-, revision, hf⟩ := h
  exact has_iff.2 ⟨_, hf⟩

theorem Holds.ofStored (h : s.Holds table id entity) (hf : s.find? table id.text = some row) :
    Entity.ofStored table row.tag row.body = .ok entity := by
  obtain ⟨rfl, revision, hrow⟩ := h
  rw [hf] at hrow
  cases hrow
  exact entity.ofStored_body

theorem Holds.tag_eq (h : s.Holds table id entity) (hf : s.find? table id.text = some row) :
    row.tag = entity.kind.tag := by
  obtain ⟨-, revision, hrow⟩ := h
  rw [hf] at hrow
  rw [Option.some.inj hrow]

/-- A row stands for one entity only. -/
theorem Holds.unique (h : s.Holds table id entity) (h' : s.Holds table id entity') :
    entity = entity' := by
  obtain ⟨revision, hf⟩ := h.2
  have he := h.ofStored hf
  rw [h'.ofStored hf] at he
  cases he
  rfl

theorem holds_write (h : s.Accepts entity.kind.table id entity.kind.tag) :
    (s.rewritten id entity targets).Holds entity.kind.table id entity := by
  refine ⟨rfl, ?_⟩
  rw [find?_rewritten, find?_write_self, written]
  cases hf : s.find? entity.kind.table id.text with
  | none => exact ⟨1, rfl⟩
  | some row =>
    refine ⟨row.revision + 1, ?_⟩
    rw [← h.agrees row hf, ← id_of_find? hf]

theorem holds_rewritten_of_ne (h : table ≠ entity.kind.table ∨ id' ≠ id) :
    (s.rewritten id entity targets).Holds table id' plan ↔ s.Holds table id' plan := by
  have hne : table ≠ entity.kind.table ∨ id'.text ≠ id.text := by
    rcases h with h | h
    · exact .inl h
    · exact .inr fun he => h (Uuid.text_injective he)
  rw [Holds, find?_rewritten, find?_write_of_ne hne, Holds]

/-- A plan has one link on each side, to the target that its body names, and the target is there. -/
def Linked (s : Store) (id : Uuid) (ends : Endpoints) : Prop :=
  ∀ side, s.linksOf side id.text = [⟨id.text, (ends.target side).text⟩] ∧
    s.has side.target (ends.target side).text = true

structure Sound (s : Store) : Prop where
  distinct : ∀ table, (s.ids table).Nodup
  held : ∀ table, ∀ text ∈ s.ids table, ∃ id entity,
    text = id.text ∧ id.isNil = false ∧ s.Holds table id entity
  linked : ∀ id plan ends, s.Holds .plans id plan → plan.ends? = some ends → s.Linked id ends
  anchored : ∀ side, ∀ link ∈ s.links side, s.has .plans link.plan = true

theorem sound_empty : empty.Sound := by
  refine ⟨?_, ?_, ?_, ?_⟩
  · intro table
    cases table <;> exact List.nodup_nil
  · intro table text h
    cases table <;> cases h
  · rintro id plan ends ⟨-, revision, hf⟩
    cases hf
  · intro side link h
    cases side <;> cases h

/-- Each side of a rewritten plan gets the target of its body, or keeps the one it has. Other
entities change no links. -/
structure Follows (s : Store) (id : Uuid) (entity : Entity) (targets : Side → Option Uuid) :
    Prop where
  none_of_none : entity.ends? = none → ∀ side, targets side = none
  some_or_kept : ∀ ends, entity.ends? = some ends → ∀ side,
    targets side = some (ends.target side) ∨ targets side = none ∧
      ∃ old oldEnds, s.Holds .plans id old ∧ old.ends? = some oldEnds ∧
        oldEnds.target side = ends.target side

theorem linked_rewritten (h : s.Sound) (ht : s.HasTargets targets)
    (hfollows : s.Follows id entity targets) (hends : entity.ends? = some ends) :
    (s.rewritten id entity targets).Linked id ends := by
  intro side
  rcases hfollows.some_or_kept ends hends side with hsome | ⟨hnone, old, oldEnds, hold, hoe, hte⟩
  · exact ⟨linksOf_rewritten_of_some hsome,
      has_rewritten_of_has (ht side (ends.target side) hsome)⟩
  · have hl := h.linked id old oldEnds hold hoe side
    rw [hte] at hl
    rw [linksOf_rewritten_of_none hnone]
    exact ⟨hl.1, has_rewritten_of_has hl.2⟩

theorem sound_rewritten (h : s.Sound) (ha : s.Accepts entity.kind.table id entity.kind.tag)
    (ht : s.HasTargets targets) (hfollows : s.Follows id entity targets) :
    (s.rewritten id entity targets).Sound := by
  refine ⟨?_, ?_, ?_, ?_⟩
  · intro table
    rw [ids_rewritten]
    exact nodup_ids_write h.distinct table
  · intro table text hmem
    by_cases he : table = entity.kind.table ∧ text = id.text
    · obtain ⟨rfl, rfl⟩ := he
      exact ⟨id, entity, rfl, ha.named, holds_write ha⟩
    · rw [ids_rewritten] at hmem
      have hold : text ∈ s.ids table := (mem_ids_write hmem).resolve_left he
      obtain ⟨id', entity', rfl, hnil, hholds⟩ := h.held table text hold
      refine ⟨id', entity', rfl, hnil, (holds_rewritten_of_ne ?_).2 hholds⟩
      rcases Decidable.not_and_iff_not_or_not.1 he with hne | hne
      · exact .inl hne
      · exact .inr fun hid => hne (by rw [hid])
  · intro id' plan ends hholds hends
    by_cases he : Table.plans = entity.kind.table ∧ id' = id
    · obtain ⟨htable, rfl⟩ := he
      rw [htable] at hholds
      have hplan := hholds.unique (holds_write ha)
      subst hplan
      exact linked_rewritten h ht hfollows hends
    · have hne : Table.plans ≠ entity.kind.table ∨ id' ≠ id :=
        Decidable.not_and_iff_not_or_not.1 he
      have hl := h.linked id' plan ends ((holds_rewritten_of_ne hne).1 hholds) hends
      intro side
      refine ⟨?_, has_rewritten_of_has (hl side).2⟩
      rw [← (hl side).1]
      by_cases hid : id' = id
      · -- The row of another table with this identifier changes no links.
        subst hid
        refine linksOf_rewritten_of_none (hfollows.none_of_none ?_ side)
        cases hentity : entity.ends? with
        | none => rfl
        | some _ => exact absurd ⟨(Entity.table_of_ends hentity).symm, rfl⟩ he
      · exact linksOf_rewritten_of_ne fun htext => hid (Uuid.text_injective htext)
  · intro side link hlink
    rcases mem_links_rewritten hlink with ⟨hp, side', hsome⟩ | hold
    · cases hentity : entity.ends? with
      | none =>
        rw [hfollows.none_of_none hentity side'] at hsome
        cases hsome
      | some ends =>
        rw [hp, ← Entity.table_of_ends hentity]
        exact (holds_write ha).has
    · exact has_rewritten_of_has (h.anchored side link hold)

theorem follows_put (s : Store) (id : Uuid) (entity : Entity) :
    s.Follows id entity entity.targets := by
  refine ⟨Entity.targets_eq_none, ?_⟩
  intro ends h side
  exact .inl (Entity.targets_eq_some h side)

/-- The sides of a patched plan that the patch leaves out keep the targets of the plan before. -/
theorem follows_patch (hold : s.Holds entity.kind.table id entity)
    (h : patch.apply id entity = .ok entity') : s.Follows id entity' patch.targets := by
  rcases Patch.ends_of_apply h with ⟨hchange, hends⟩ | ⟨change, ends, hchange, hends, hends'⟩
  · refine ⟨?_, ?_⟩
    · intro _ side
      rw [Patch.targets, hchange, Option.bind_none]
    · intro ends hsome
      rw [hends] at hsome
      cases hsome
  · refine ⟨?_, ?_⟩
    · intro hnone
      rw [hends'] at hnone
      cases hnone
    · intro ends' hsome side
      rw [hends'] at hsome
      cases hsome
      rw [Patch.targets, hchange, Option.bind_some]
      rcases change.target_ends ends side with hgiven | ⟨hleft, hkept⟩
      · exact .inl hgiven
      · rw [Entity.table_of_ends hends] at hold
        exact .inr ⟨hleft, entity, ends, hold, hends, hkept⟩

theorem sound_step (h : s.Sound) (hs : s.Step s') : s'.Sound := by
  cases hs with
  | put accepts targets => exact sound_rewritten h accepts targets (follows_put s _ _)
  | @patch id patch row entity entity' found stored applied accepts targets =>
    refine sound_rewritten h accepts targets (follows_patch ?_ applied)
    have hmem : id.text ∈ s.ids patch.kind.table := has_iff_mem.1 (has_iff.2 ⟨row, found⟩)
    obtain ⟨id', held, hid, -, hholds⟩ := h.held _ _ hmem
    have hid := Uuid.text_injective hid
    subst hid
    have he := hholds.ofStored found
    rw [stored] at he
    cases he
    rw [hholds.1]
    exact hholds

/-- Every plan row reads as a plan; its links, one on each side, lead where the plan does; the
source and the work are there; and no link is left without a plan row. -/
structure Mirrored (s : Store) : Prop where
  plans : ∀ row ∈ s.plans, ∃ plan ends,
    Entity.ofStored .plans row.tag row.body = .ok plan ∧ plan.ends? = some ends ∧
    (s.inputs.filter fun link => link.plan == row.id) = [⟨row.id, ends.source.text⟩] ∧
    (s.outputs.filter fun link => link.plan == row.id) = [⟨row.id, ends.work.text⟩] ∧
    (∃ source ∈ s.sources, source.id = ends.source.text) ∧
    (∃ work ∈ s.works, work.id = ends.work.text)
  links : ∀ link ∈ s.inputs ++ s.outputs, ∃ row ∈ s.plans, row.id = link.plan

theorem exists_row (h : s.has table text = true) : ∃ row ∈ s.entries table, row.id = text := by
  obtain ⟨row, hf⟩ := has_iff.1 h
  exact ⟨row, mem_of_find? hf, id_of_find? hf⟩

/-- The entity that a row of sound tables stands for. -/
theorem Sound.holds_of_mem (h : s.Sound) (hrow : row ∈ s.entries table) : ∃ id entity,
    row.id = id.text ∧ id.isNil = false ∧ s.Holds table id entity ∧
      Entity.ofStored table row.tag row.body = .ok entity := by
  obtain ⟨id, entity, hid, hnil, hholds⟩ := h.held table row.id (List.mem_map_of_mem hrow)
  have hf := find?_of_mem (h.distinct table) hrow
  rw [hid] at hf
  exact ⟨id, entity, hid, hnil, hholds, hholds.ofStored hf⟩

theorem Sound.mirrored (h : s.Sound) : s.Mirrored := by
  refine ⟨?_, ?_⟩
  · intro row hrow
    have hmem : row ∈ s.entries .plans := hrow
    obtain ⟨id, plan, hid, -, hholds, hstored⟩ := h.holds_of_mem hmem
    obtain ⟨ends, hends⟩ := Entity.ends_of_table hholds.1
    have hl := h.linked id plan ends hholds hends
    rw [hid]
    exact ⟨plan, ends, hstored, hends, (hl .input).1, (hl .output).1, exists_row (hl .input).2,
      exists_row (hl .output).2⟩
  · intro link hlink
    rcases List.mem_append.1 hlink with hin | hout
    · exact exists_row (h.anchored .input link hin)
    · exact exists_row (h.anchored .output link hout)

end Store

namespace Catalog

theorem sound_after_of_sound {c : Catalog} (hp : c.poisoned = false) (hs : c.store.Sound)
    (calls : List Call) : (c.after calls).store.Sound :=
  after_invariant (fun _ _ h hs => Store.sound_step h hs) hp hs calls

theorem sound_after (calls : List Call) : (new.after calls).store.Sound :=
  sound_after_of_sound rfl Store.sound_empty calls

/-- Plan bodies, links and references never drift apart, whatever calls are made. -/
theorem mirrored_after (calls : List Call) : (new.after calls).store.Mirrored :=
  (sound_after calls).mirrored

end Catalog
end MovieCatalog
