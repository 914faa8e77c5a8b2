import MovieCatalog.Proofs.ReferencePage
import MovieCatalog.Proofs.Rollback
import MovieCatalog.Proofs.WriteEffects

/-! Stored kinds are understood. A table takes the tags that reading it goes by and no others, so
whatever is written, no row is ever found to be of an unknown kind. -/
namespace MovieCatalog

/-- A write of one row: with a tag and a body that nothing has looked at, or for an entity. -/
inductive RowWrite where
  | upsert (table : Table) (id : Uuid) (tag body : String)
  | put (id : Uuid) (entity : Entity)

def RowWrite.statement : RowWrite → Statement Outcome
  | .upsert table id tag body => Statement.upsert table id tag body
  | .put id entity => Statement.put id entity

/-- What may be done to a catalog: a call, a write of a row by itself, or several such writes in one
transaction. -/
inductive Edit where
  | call (call : Call)
  | alone (write : RowWrite)
  | together (writes : List RowWrite)

/-- The catalog that an edit leaves, whether it succeeds or fails. -/
def Catalog.edit (c : Catalog) : Edit → Catalog
  | .call call => (call.run.run c).2
  | .alone write => ((Catalog.perform write.statement).run.run c).2
  | .together writes =>
    ((Catalog.transact (Statement.inOrder (writes.map RowWrite.statement))).run.run c).2

/-- The catalog after edits in order. -/
def Catalog.edited (c : Catalog) (edits : List Edit) : Catalog := edits.foldl Catalog.edit c

/-- Whatever else is wrong, it is not that a row has an unknown kind. -/
def KnowsKind {α : Type} (result : Except CatalogError α) : Prop :=
  ∀ table tag, result ≠ .error (.unknownKind table tag)

/-- What reading a stored body as one of a kind comes to. -/
def Kind.readStored (kind : Kind) (body : String) : Except CatalogError Entity :=
  match kind.bodyDecoder.decode (Utf8.ofText body) with
  | .ok entity => .ok entity
  | .error error => .error (.body error)

/-- Reading takes a tag for the one of a kind of the table, and goes on to read the body. -/
def Table.Dispatches (table : Table) (tag : String) : Prop :=
  ∃ kind : Kind, kind.table = table ∧ kind.tag = tag ∧
    ∀ body, Entity.ofStored table tag body = kind.readStored body

/-- What is checked of a tag when a row is written, and what becomes of it when the row is read. -/
structure Table.ChecksTag (table : Table) (tag : String) : Prop where
  taken : tag ∈ table.tags ↔ table.Dispatches tag
  unknown : ¬ table.Dispatches tag →
    ∀ body, Entity.ofStored table tag body = .error (.unknownKind table tag)
  checked : ∀ (s : Store) (id : Uuid) (body : String), id.isNil = false →
    (((Statement.upsert table id tag body).run.run s).1 = .error (.invalidInput (.kind table tag)) ↔
      ¬ table.Dispatches tag)
  refused : ∀ (s : Store) (id : Uuid) (body : String), id.isNil = true ∨ ¬ table.Dispatches tag →
    ∃ fault, (Statement.upsert table id tag body).run.run s = (.error (.invalidInput fault), s)

/-- Every row reads as an entity, or has a body that cannot be read, and nothing that reads rows
finds an unknown kind. -/
structure Catalog.KindsKnown (c : Catalog) : Prop where
  rows : ∀ table, ∀ row ∈ c.store.entries table,
    (∃ entity, Entity.ofStored table row.tag row.body = .ok entity) ∨
      ∃ error, Entity.ofStored table row.tag row.body = .error (.body error)
  get : ∀ table id, KnowsKind ((Statement.getEntity table id).run.run c.store).1
  load : ∀ table id, KnowsKind ((Statement.load table id).run.run c.store).1
  list : ∀ filter after size, KnowsKind ((Statement.listPlans filter after size).run.run c.store).1
  getEntity : ∀ table id, KnowsKind ((Catalog.getEntity table id).run.run c).1
  listPlans : ∀ filter token size, KnowsKind ((Catalog.listPlans filter token size).run.run c).1

variable {α β : Type} {c : Catalog} {s s' : Store} {table : Table} {id : Uuid} {tag body : String}
  {entity : Entity} {kind : Kind}

theorem Entity.ofStored_of_kind? (h : table.kind? tag = some kind) (body : String) :
    ofStored table tag body = kind.readStored body := by
  rw [ofStored, h]
  rfl

theorem Entity.ofStored_unknown (h : table.kind? tag = none) (body : String) :
    ofStored table tag body = .error (.unknownKind table tag) := by
  rw [ofStored, h]

theorem Kind.readStored_cases (kind : Kind) (body : String) :
    (∃ entity, kind.readStored body = .ok entity) ∨
      ∃ error, kind.readStored body = .error (.body error) := by
  rw [readStored]
  cases kind.bodyDecoder.decode (Utf8.ofText body) with
  | ok entity => exact .inl ⟨entity, rfl⟩
  | error error => exact .inr ⟨error, rfl⟩

namespace Table

theorem mem_tags : tag ∈ table.tags ↔ (table.kind? tag).isSome = true := by
  rw [← contains_tags, List.contains_iff_mem]

theorem dispatches_iff : table.Dispatches tag ↔ (table.kind? tag).isSome = true := by
  constructor
  · rintro ⟨kind, rfl, rfl, -⟩
    rw [kind?_tag]
    rfl
  · intro h
    obtain ⟨kind, hkind⟩ := Option.isSome_iff_exists.1 h
    obtain ⟨htable, htag⟩ := of_kind?_eq_some hkind
    exact ⟨kind, htable, htag, Entity.ofStored_of_kind? hkind⟩

theorem not_dispatches_iff : ¬ table.Dispatches tag ↔ table.kind? tag = none := by
  rw [dispatches_iff, Bool.not_eq_true, Option.isSome_eq_false_iff, Option.isNone_iff_eq_none]

end Table

namespace Statement

theorem upsert_nil (h : id.isNil = true) (s : Store) :
    (upsert table id tag body).run.run s = (.error (.invalidInput (.nilId table)), s) := by
  rw [upsert_run, if_pos h]

theorem upsert_unknown (hid : id.isNil = false) (h : table.kind? tag = none) (s : Store) :
    (upsert table id tag body).run.run s = (.error (.invalidInput (.kind table tag)), s) := by
  rw [upsert_run, hid, if_neg Bool.false_ne_true, h]
  rfl

/-- With a tag that the table understands nothing is wrong with the request. -/
theorem upsert_understood (hid : id.isNil = false) (h : (table.kind? tag).isSome = true)
    (s : Store) (fault : InputFault) :
    ((upsert table id tag body).run.run s).1 ≠ .error (.invalidInput fault) := by
  obtain ⟨kind, hkind⟩ := Option.isSome_iff_exists.1 h
  rw [upsert_run, hid, if_neg Bool.false_ne_true, hkind]
  simp only [Option.isNone_some, Bool.false_eq_true, if_false]
  cases s.find? table id.text with
  | none => simp
  | some row =>
    simp only
    split <;> simp

end Statement

theorem Table.checksTag (table : Table) (tag : String) : table.ChecksTag tag := by
  constructor
  case taken => rw [mem_tags, dispatches_iff]
  case unknown =>
    intro h
    exact Entity.ofStored_unknown (not_dispatches_iff.1 h)
  case checked =>
    intro s id body hid
    constructor
    · intro hrun h
      exact Statement.upsert_understood hid (dispatches_iff.1 h) s _ hrun
    · intro h
      rw [Statement.upsert_unknown hid (not_dispatches_iff.1 h)]
  case refused =>
    intro s id body h
    cases hid : id.isNil with
    | true => exact ⟨_, Statement.upsert_nil hid s⟩
    | false =>
      rw [hid] at h
      rcases h with h | h
      · cases h
      · exact ⟨_, Statement.upsert_unknown hid (not_dispatches_iff.1 h) s⟩

namespace Store

/-- Every row has a tag that its table understands. -/
def Understood (s : Store) : Prop :=
  ∀ table, ∀ row ∈ s.entries table, (table.kind? row.tag).isSome = true

theorem understood_empty : empty.Understood := by
  intro table row hrow
  cases table <;> cases hrow

theorem understood_write (h : s.Understood) (hv : (table.kind? tag).isSome = true)
    (id : String) : (s.write table id tag body).Understood := by
  intro table' row hrow
  by_cases ht : table' = table
  · subst ht
    rw [write] at hrow
    split at hrow
    · rw [append, entries_setEntries_self, List.mem_append, List.mem_singleton] at hrow
      rcases hrow with hrow | rfl
      · exact h table' row hrow
      · exact hv
    · rw [overwrite, entries_setEntries_self, List.mem_map] at hrow
      obtain ⟨old, hold, rfl⟩ := hrow
      have hkept := h table' old hold
      split
      · exact hkept
      · exact hkept
  · rw [entries_write_of_ne ht] at hrow
    exact h table' row hrow

theorem understood_rewritten {targets : Side → Option Uuid} (h : s.Understood)
    (ha : s.Accepts entity.kind.table id entity.kind.tag) :
    (s.rewritten id entity targets).Understood := by
  intro table row hrow
  rw [entries_rewritten] at hrow
  exact understood_write h ha.valid _ table row hrow

theorem understood_step (h : s.Understood) (hs : s.Step s') : s'.Understood := by
  cases hs with
  | put accepts targets => exact understood_rewritten h accepts
  | patch found stored applied accepts targets => exact understood_rewritten h accepts

end Store

namespace Statement

/-- A statement keeps a property of the tables, whether it succeeds or fails. -/
def Keeps (statement : Statement α) (P : Store → Prop) : Prop :=
  ∀ s, P s → P (statement.run.run s).2

variable {P : Store → Prop}

theorem Keeps.bind {x : Statement α} {f : α → Statement β} (hx : x.Keeps P)
    (hf : ∀ value, (f value).Keeps P) : (x >>= f).Keeps P := by
  intro s h
  have hfirst := hx s h
  rw [bind_run]
  generalize x.run.run s = first at hfirst ⊢
  obtain ⟨⟨error⟩ | ⟨value⟩, between⟩ := first
  · exact hfirst
  · exact hf value between hfirst

theorem keeps_pure (value : α) : (pure value : Statement α).Keeps P := fun _ h => h

theorem keeps_inOrder {steps : List (Statement α)} (h : ∀ step ∈ steps, step.Keeps P) :
    (inOrder steps).Keeps P := by
  induction steps with
  | nil => exact keeps_pure []
  | cons step steps ih =>
    rw [List.forall_mem_cons] at h
    exact h.1.bind fun value => (ih h.2).bind fun values => keeps_pure (value :: values)

end Statement

theorem Statement.understood_upsert (h : s.Understood) :
    ((upsert table id tag body).run.run s).2.Understood := by
  rcases hrun : (upsert table id tag body).run.run s with ⟨⟨error⟩ | ⟨outcome⟩, after⟩
  · -- A refused upsert has changed nothing.
    rw [upsert_run] at hrun
    split at hrun
    · cases hrun
      exact h
    split at hrun
    · cases hrun
      exact h
    split at hrun
    · cases hrun
    split at hrun
    · cases hrun
    · cases hrun
      exact h
  · obtain ⟨haccepts, -, rfl⟩ := upsert_ok.1 hrun
    exact Store.understood_write h haccepts.valid _

theorem RowWrite.keeps_understood (write : RowWrite) :
    write.statement.Keeps Store.Understood := by
  intro s h
  cases write with
  | upsert table id tag body => exact Statement.understood_upsert h
  | put id entity => exact Statement.understood_upsert h

theorem RowWrite.keeps_inOrder (writes : List RowWrite) :
    (Statement.inOrder (writes.map RowWrite.statement)).Keeps Store.Understood := by
  refine Statement.keeps_inOrder ?_
  intro step hstep
  obtain ⟨write, -, rfl⟩ := List.mem_map.1 hstep
  exact write.keeps_understood

namespace Catalog

/-- An unpoisoned catalog with rows that are all understood. -/
structure Sensible (c : Catalog) : Prop where
  usable : c.poisoned = false
  understood : c.store.Understood

theorem sensible_edit (h : c.Sensible) (edit : Edit) : (c.edit edit).Sensible := by
  cases edit with
  | call call =>
    have hcall := advances_call h.usable call
    refine ⟨hcall.poisoned.trans h.usable, ?_⟩
    rcases hcall with he | ⟨s, hs, he⟩
    · rw [edit, he]
      exact h.understood
    · rw [edit, he]
      exact Store.understood_step h.understood hs
  | alone write =>
    rw [edit, perform_run h.usable]
    exact ⟨h.usable, write.keeps_understood _ h.understood⟩
  | together writes =>
    have hwrites := RowWrite.keeps_inOrder writes _ h.understood
    rcases transact_cases h.usable (Statement.inOrder (writes.map RowWrite.statement)) with
      ⟨outcomes, s, hs, hrun⟩ | ⟨error, s, -, hrun⟩
    · rw [hs] at hwrites
      rw [edit, hrun]
      exact ⟨h.usable, hwrites⟩
    · rw [edit, hrun]
      exact h

theorem sensible_edited (h : c.Sensible) (edits : List Edit) : (c.edited edits).Sensible := by
  induction edits generalizing c with
  | nil => exact h
  | cons edit edits ih => exact ih (sensible_edit h edit)

end Catalog

theorem knowsKind_ok (value : α) : KnowsKind (.ok value) := by
  intro table tag h
  cases h

/-- An error that is handed on. -/
theorem KnowsKind.error {error : CatalogError} (h : KnowsKind (.error error : Except _ α)) :
    KnowsKind (.error error : Except _ β) := by
  intro table tag he
  cases he
  exact h table tag rfl

theorem knowsKind_body (error : Json.Error) : KnowsKind (.error (.body error) : Except _ α) := by
  intro table tag h
  cases h

/-- Getting a row looks at its identifier alone. -/
theorem Statement.knowsKind_getEntity (s : Store) (table : Table) (id : Uuid) :
    KnowsKind ((getEntity table id).run.run s).1 := by
  rw [getEntity_run]
  cases s.find? table id.text with
  | none =>
    intro table tag h
    cases h
  | some row => exact knowsKind_ok _

namespace Store.Understood

theorem ofStored_cases (h : s.Understood) {row : Entry} (hrow : row ∈ s.entries table) :
    (∃ entity, Entity.ofStored table row.tag row.body = .ok entity) ∨
      ∃ error, Entity.ofStored table row.tag row.body = .error (.body error) := by
  obtain ⟨kind, hkind⟩ := Option.isSome_iff_exists.1 (h table row hrow)
  rw [Entity.ofStored_of_kind? hkind]
  exact kind.readStored_cases row.body

theorem knowsKind_ofStored (h : s.Understood) {row : Entry} (hrow : row ∈ s.entries table) :
    KnowsKind (Entity.ofStored table row.tag row.body) := by
  rcases h.ofStored_cases hrow with ⟨entity, he⟩ | ⟨error, he⟩
  · rw [he]
    exact knowsKind_ok entity
  · rw [he]
    exact knowsKind_body error

theorem load (h : s.Understood) (table : Table) (id : Uuid) :
    KnowsKind ((Statement.load table id).run.run s).1 := by
  rw [Statement.load_run]
  cases hf : s.find? table id.text with
  | none =>
    intro table tag h
    cases h
  | some row => exact h.knowsKind_ofStored (mem_of_find? hf)

/-- The first row of a page that cannot be read has a body that cannot. -/
theorem list (h : s.Understood) (filter : PlanFilter) (after : Option Uuid) (size : Nat) :
    KnowsKind ((Statement.listPlans filter after size).run.run s).1 := by
  rw [Statement.listPlans_eq, PlanQuery.rows_eq_take]
  have hread := PlanPage.reading_ofRows
    ((PlanQuery.page filter after (clampPageSize size)).sorted s) (clampPageSize size)
  rw [PlanQuery.page] at hread ⊢
  generalize PlanPage.ofRows _ _ = result at hread ⊢
  cases hread with
  | unnamed first why =>
    intro table tag he
    cases he
  | spoiled named first why =>
    have hrow := (PlanQuery.mem_sorted.1
      (List.mem_of_mem_take (List.mem_of_find?_eq_some first))).1.1
    have hkind : KnowsKind (Entity.ofStored .plans _ _) := h.knowsKind_ofStored hrow
    rw [why] at hkind
    intro table tag he
    cases he
    exact hkind table tag rfl
  | page named read => exact knowsKind_ok _

end Store.Understood

namespace Catalog

theorem knowsKind_transact {statement : Statement α} (hp : c.poisoned = false)
    (h : KnowsKind (statement.run.run c.store).1) :
    KnowsKind ((transact statement).run.run c).1 := by
  rw [transact_run hp]
  generalize statement.run.run c.store = result at h ⊢
  obtain ⟨⟨error⟩ | ⟨value⟩, s⟩ := result
  · exact h
  · exact knowsKind_ok value

theorem knowsKind_resumePoint (token : Option String) : KnowsKind (resumePoint token) := by
  cases token with
  | none => exact knowsKind_ok none
  | some token =>
    intro table tag he
    simp only [resumePoint] at he
    split at he <;> cases he

theorem Sensible.listPlans (h : c.Sensible) (filter : PlanFilter) (token : Option String)
    (size : Nat) : KnowsKind ((listPlans filter token size).run.run c).1 := by
  have hafter := knowsKind_resumePoint token
  rw [Catalog.listPlans, ofExcept_bind_run]
  generalize resumePoint token = resumed at hafter ⊢
  cases resumed with
  | error error => exact hafter.error
  | ok after =>
    have hpage := knowsKind_transact h.usable (h.understood.list filter after size)
    simp only
    rw [bind_run]
    generalize (transact (Statement.listPlans filter after size)).run.run c = answered at hpage ⊢
    obtain ⟨⟨error⟩ | ⟨page⟩, c'⟩ := answered
    · exact hpage.error
    · exact knowsKind_ok _

theorem Sensible.kindsKnown (h : c.Sensible) : c.KindsKnown := by
  constructor
  case rows => exact fun table row hrow => h.understood.ofStored_cases hrow
  case get => exact Statement.knowsKind_getEntity c.store
  case load => exact h.understood.load
  case list => exact h.understood.list
  case getEntity =>
    exact fun table id => knowsKind_transact h.usable (h.understood.load table id)
  case listPlans => exact h.listPlans

/-- A stored kind can always be read back: after any edits no row is of an unknown kind, since a tag
is taken when a row is written just if reading goes by it, and what is not taken changes nothing. -/
theorem stored_kinds_known : (∀ edits : List Edit, (new.edited edits).KindsKnown) ∧
    ∀ (table : Table) (tag : String), table.ChecksTag tag := by
  refine ⟨?_, Table.checksTag⟩
  intro edits
  have hnew : new.Sensible := ⟨rfl, Store.understood_empty⟩
  exact (sensible_edited hnew edits).kindsKnown

end Catalog
end MovieCatalog
