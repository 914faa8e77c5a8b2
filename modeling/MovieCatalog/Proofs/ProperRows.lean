import MovieCatalog.Proofs.Submissions
import MovieCatalog.Proofs.WriteResults

/-! Rows that requests have written. A request writes only well-formed entities, whole or patched,
so every row of a catalog that has served requests is the stored form of one. -/
namespace MovieCatalog

namespace Store

/-- Sound tables whose rows have been written and stand for well-formed entities. -/
structure Proper (s : Store) : Prop where
  sound : s.Sound
  revised : ∀ table text row, s.find? table text = some row → 1 ≤ row.revision
  wellFormed : ∀ table id entity, s.Holds table id entity → entity.WellFormed

variable {s : Store} {table : Table} {id : Uuid} {entity : Entity} {targets : Side → Option Uuid}

theorem proper_empty : empty.Proper := by
  refine ⟨sound_empty, ?_, ?_⟩
  · intro table text row h
    cases table <;> cases h
  · rintro table id entity ⟨-, revision, h⟩
    cases table <;> cases h

/-- Writing a well-formed entity keeps the tables proper. -/
theorem proper_rewritten (h : s.Proper) (hentity : entity.WellFormed)
    (ha : s.Accepts entity.kind.table id entity.kind.tag) (ht : s.HasTargets targets)
    (hfollows : s.Follows id entity targets) : (s.rewritten id entity targets).Proper := by
  refine ⟨sound_rewritten h.sound ha ht hfollows, ?_, ?_⟩
  · intro table text row hf
    rw [find?_rewritten] at hf
    by_cases hne : table ≠ entity.kind.table ∨ text ≠ id.text
    · rw [find?_write_of_ne hne] at hf
      exact h.revised table text row hf
    · rw [not_or, Decidable.not_not, Decidable.not_not] at hne
      obtain ⟨rfl, rfl⟩ := hne
      rw [find?_write_self, Option.some.injEq] at hf
      rw [← hf, written]
      split
      · exact Nat.le_refl 1
      · exact Nat.le_add_left 1 _
  · intro table id' entity' hholds
    by_cases hne : table ≠ entity.kind.table ∨ id' ≠ id
    · exact h.wellFormed table id' entity' ((holds_rewritten_of_ne hne).1 hholds)
    · rw [not_or, Decidable.not_not, Decidable.not_not] at hne
      obtain ⟨rfl, rfl⟩ := hne
      rw [hholds.unique (holds_write ha)]
      exact hentity

end Store

variable {c : Catalog} {kind : Kind} {text : String} {body : Bytes} {id : Uuid} {entity : Entity}
  {entity' : Entity} {patch : Patch}

theorem putArguments_wellFormed (h : putArguments kind text body = .ok (id, entity)) :
    id.isNil = false ∧ entity.WellFormed := by
  simp only [putArguments, bind_eq_ok] at h
  obtain ⟨id', hid, submission, -, entity', hentity, h⟩ := h
  cases h
  exact ⟨parseId_named hid, Submission.wellFormed_of_entity hentity⟩

/-- A patched entity is the one that the submission in full describes. -/
theorem patchArguments_wellFormed (h : patchArguments kind text body = .ok (id, patch))
    (hentity : entity.WellFormed) (happly : patch.apply id entity = .ok entity') :
    entity'.WellFormed := by
  simp only [patchArguments, bind_eq_ok] at h
  obtain ⟨id', -, submission, -, patch', hpatch, h⟩ := h
  cases h
  have hkind : entity.kind = submission.kind :=
    (Patch.kind_of_apply happly).1.trans (Submission.kind_of_patch hpatch)
  have hfill := Submission.entity_fill hentity hkind id
  rw [hpatch] at hfill
  exact Submission.wellFormed_of_entity (hfill.trans happly)

namespace Catalog

theorem proper_put (hp : c.poisoned = false) (h : c.store.Proper) (hid : id.isNil = false)
    (hentity : entity.WellFormed) : ((putEntity id entity).run.run c).2.store.Proper := by
  have hresult := putEntity_result hp hid entity
  generalize (putEntity id entity).run.run c = result at hresult ⊢
  cases hresult with
  | conflict => exact h
  | dangles => exact h
  | stored accepts targets =>
    exact Store.proper_rewritten h hentity accepts targets (Store.follows_put _ _ _)

theorem proper_patch (hp : c.poisoned = false) (h : c.store.Proper)
    (harguments : patchArguments kind text body = .ok (id, patch)) :
    ((patchEntity id patch).run.run c).2.store.Proper := by
  have hresult := patchEntity_result hp h.sound id patch
  generalize (patchEntity id patch).run.run c = result at hresult ⊢
  cases hresult with
  | absent => exact h
  | conflict => exact h
  | dangles => exact h
  | stored held applied accepts targets =>
    have hwell := patchArguments_wellFormed harguments (h.wellFormed _ _ _ held) applied
    refine Store.proper_rewritten h hwell accepts targets (Store.follows_patch ?_ applied)
    rw [held.1]
    exact held

theorem proper_respond (hp : c.poisoned = false) (h : c.store.Proper) (request : Request) :
    ((respond request).run c).2.store.Proper := by
  unfold respond
  split
  · exact h
  · rw [answerHealth_reads]
    exact h
  · rw [answerListing_reads]
    exact h
  · rw [answerEntity_reads]
    exact h
  · rw [answerPut_run]
    split
    · rename_i id entity harguments
      obtain ⟨hid, hentity⟩ := putArguments_wellFormed harguments
      exact proper_put hp h hid hentity
    · exact h
  · rw [answerPatch_run]
    split
    · rename_i id patch harguments
      exact proper_patch hp h harguments
    · exact h
  · exact h

/-- A new catalog after requests in order. -/
def served (requests : List Request) : Catalog := new.after (requests.map .request)

theorem poisoned_served (requests : List Request) : (served requests).poisoned = false :=
  poisoned_after rfl _

/-- Whatever requests a catalog has served, its tables are proper. -/
theorem proper_served (requests : List Request) : (served requests).store.Proper := by
  have hrun : ∀ c : Catalog, c.poisoned = false → c.store.Proper →
      (c.after (requests.map .request)).store.Proper := by
    induction requests with
    | nil =>
      intro c _ hc
      exact hc
    | cons request requests ih =>
      intro c hp hc
      exact ih _ ((advances_respond hp request).poisoned.trans hp) (proper_respond hp hc request)
  exact hrun new rfl Store.proper_empty

end Catalog

/-- A row of a table as requests leave it: its id text is the text of an identifier that is not nil,
its kind is one of the table's, it has been written, and its body is exactly what is stored for the
well-formed entity that it is read as. -/
structure Entry.Proper (table : Table) (row : Entry) : Prop where
  id : ∃ id : Uuid, row.id = id.text ∧ id.isNil = false
  revision : 1 ≤ row.revision
  content : ∃ kind ∈ table.kinds, ∃ entity : Entity, row.tag = kind.tag ∧ entity.kind = kind ∧
    Entity.ofStored table row.tag row.body = .ok entity ∧ row.body = entity.body ∧
      entity.WellFormed

theorem Store.Proper.row {s : Store} (h : s.Proper) {table : Table} {row : Entry}
    (hrow : row ∈ s.entries table) : row.Proper table := by
  have hf := Store.find?_of_mem (h.sound.distinct table) hrow
  obtain ⟨id, entity, hid, hnil, hholds, hstored⟩ := h.sound.holds_of_mem hrow
  obtain ⟨revision, hheld⟩ := hholds.2
  rw [← hid, hf, Option.some.injEq] at hheld
  refine ⟨⟨id, hid, hnil⟩, h.revised _ _ _ hf, entity.kind, Table.mem_kinds.2 hholds.1, entity, ?_,
    rfl, hstored, ?_, h.wellFormed _ _ _ hholds⟩
  · rw [hheld]
  · rw [hheld]

namespace Catalog

/-- Requests, whatever they ask for, leave only proper rows, with an id text at most once in a
table. -/
theorem rows_proper_served (requests : List Request) (table : Table) :
    (((served requests).store.entries table).map Entry.id).Nodup ∧
      ∀ row ∈ (served requests).store.entries table, row.Proper table :=
  ⟨(proper_served requests).sound.distinct table, fun _ => (proper_served requests).row⟩

end Catalog
end MovieCatalog
