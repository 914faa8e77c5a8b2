import Mathlib.Data.Prod.Basic
import MovieCatalog.Proofs.PlanWrites

/-! Two patches of one kind are one patch, in which the later counts wherever it gives something.
This holds for entities, and for catalogs in which both patches succeed one after the other. -/
namespace MovieCatalog

variable {α : Type}

/-- A later field over an earlier one, which counts where the later was left out. -/
def Field.over (later earlier : Field α) : Field α :=
  match later with
  | .absent => earlier
  | .null => .null
  | .value content => .value content

def PlanChange.merge (first second : PlanChange) : PlanChange where
  source := second.source.or first.source
  work := second.work.or first.work
  start := second.start.over first.start
  stop := second.stop.over first.stop

/-- Two patches of one kind in one. Of different kinds the later is left. -/
def Patch.merge : Patch → Patch → Patch
  | .movie title releaseYear tmdbId, .movie title' releaseYear' tmdbId' =>
    .movie (title'.or title) (releaseYear'.over releaseYear) (tmdbId'.over tmdbId)
  | .edition editionType, .edition editionType' => .edition (editionType'.or editionType)
  | .file path, .file path' => .file (path'.or path)
  | .disc directory path complete, .disc directory' path' complete' =>
    .disc (directory'.or directory) (path'.or path) (complete'.or complete)
  | .direct change, .direct change' => .direct (change.merge change')
  | .chapterRange change, .chapterRange change' => .chapterRange (change.merge change')
  | _, second => second

/-- The row after one more write that leaves its body as it is. -/
def Entry.recounted (row : Entry) (id : String) : Entry :=
  if row.id = id then { row with revision := row.revision + 1 } else row

/-- The tables with one more revision of a row, and nothing else different. -/
def Store.recounted (s : Store) (table : Table) (id : String) : Store :=
  s.setEntries table ((s.entries table).map fun row => row.recounted id)

/-- Two patches, applied in order, against both in one. -/
structure Patch.Composes (first second : Patch) (id : Uuid) : Prop where
  applied : ∀ entity, (first.apply id entity >>= second.apply id) =
    (first.merge second).apply id entity
  conflicts : ∀ entity, entity.kind ≠ first.kind →
    first.apply id entity = .error (.kindConflict first.kind.table id) ∧
      (first.merge second).apply id entity = .error (.kindConflict first.kind.table id)
  stored : ∀ c c' c'' : Catalog, (Catalog.patchEntity id first).run.run c = (.ok (), c') →
    (Catalog.patchEntity id second).run.run c' = (.ok (), c'') →
    ∃ once, (Catalog.patchEntity id (first.merge second)).run.run c = (.ok (), once) ∧
      c'' = { once with store := once.store.recounted first.kind.table id.text }
  refused : ∀ (c : Catalog) (row : Entry) (entity : Entity), c.poisoned = false →
    c.store.find? first.kind.table id.text = some row →
    Entity.ofStored first.kind.table row.tag row.body = .ok entity → entity.kind ≠ first.kind →
    (Catalog.patchEntity id first).run.run c = (.error (.kindConflict first.kind.table id), c) ∧
      (Catalog.patchEntity id (first.merge second)).run.run c =
        (.error (.kindConflict first.kind.table id), c)

variable {s s' : Store} {table : Table} {side : Side} {id : Uuid} {text plan body body' : String}
  {entity entity' : Entity} {row : Entry} {first second : Patch} {target target' : Option Uuid}
  {targets targets' : Side → Option Uuid}

theorem Field.applyTo_over (earlier later : Field α) (target : Option α) :
    (later.over earlier).applyTo target = later.applyTo (earlier.applyTo target) := by
  cases later <;> rfl

namespace PlanChange

theorem ends_merge (first second : PlanChange) (given : Endpoints) :
    (first.merge second).ends given = second.ends (first.ends given) := by
  simp only [ends, merge, Option.getD_or]

theorem chapters_merge (first second : PlanChange) (given : Chapters) :
    (first.merge second).chapters given = second.chapters (first.chapters given) := by
  simp only [chapters, merge, Field.applyTo_over]

theorem target?_merge (first second : PlanChange) (side : Side) :
    (first.merge second).target? side = (second.target? side).or (first.target? side) := by
  cases side <;> rfl

end PlanChange

namespace Patch

theorem kind_merge (h : first.kind = second.kind) : (first.merge second).kind = first.kind := by
  cases first <;> cases second <;> first | rfl | cases h

theorem apply_merge (h : first.kind = second.kind) (id : Uuid) (entity : Entity) :
    (first.apply id entity >>= second.apply id) = (first.merge second).apply id entity := by
  by_cases hkind : entity.kind = first.kind
  · cases first <;> cases second <;> cases h <;> cases entity <;> cases hkind <;>
      simp only [merge, apply, Option.getD_or, Field.applyTo_over, PlanChange.ends_merge,
        PlanChange.chapters_merge] <;>
      rfl
  · have hkind' : entity.kind ≠ (first.merge second).kind := by
      rw [kind_merge h]
      exact hkind
    rw [apply_of_ne hkind, apply_of_ne hkind', kind_merge h]
    rfl

theorem targets_merge (h : first.kind = second.kind) (side : Side) :
    (first.merge second).targets side = (second.targets side).or (first.targets side) := by
  cases first <;> cases second <;> first | rfl | exact PlanChange.target?_merge _ _ side | cases h

end Patch

namespace Store

theorem ext_tables (hentries : ∀ table, s.entries table = s'.entries table)
    (hlinks : ∀ side, s.links side = s'.links side) : s = s' := by
  cases s
  cases s'
  congr
  · exact hentries .works
  · exact hentries .sources
  · exact hentries .plans
  · exact hlinks .input
  · exact hlinks .output

/-- What is linked last counts, and what a later write leaves alone stays as the earlier put it. -/
theorem repointed_repointed (h : s'.links side = s.repointed side plan target) :
    s'.repointed side plan target' = s.repointed side plan (target'.or target) := by
  cases target' with
  | none => exact h
  | some new =>
    rw [repointed, h, Option.some_or, repointed]
    cases target with
    | none => rfl
    | some old =>
      have hlast : [(⟨plan, old.text⟩ : Link)].filter (fun link => link.plan != plan) = [] := by
        simp
      rw [repointed, List.filter_append, List.filter_filter, hlast, List.append_nil]
      simp only [Bool.and_self]

theorem recounted_overwritten (row : Entry) : (row.overwritten text body').recounted text =
    (row.overwritten text body).overwritten text body' := by
  by_cases h : row.id = text
  · simp [Entry.recounted, Entry.overwritten, h]
  · simp [Entry.recounted, Entry.overwritten, h]

theorem entries_write_of_has {tag : String} (h : s.has table text = true) :
    (s.write table text tag body).entries table =
      (s.entries table).map fun row => row.overwritten text body := by
  rw [entries_write_self, added, h, if_pos rfl, List.append_nil]

/-- Two writes to a row that is there leave what the later would alone, but for the revision. -/
theorem rewritten_rewritten (hhas : s.has entity.kind.table id.text = true)
    (hkind : entity'.kind = entity.kind) :
    (s.rewritten id entity targets).rewritten id entity' targets' =
      (s.rewritten id entity' fun side => (targets' side).or (targets side)).recounted
        entity.kind.table id.text := by
  have hhas' : (s.rewritten id entity targets).has entity.kind.table id.text = true :=
    has_rewritten_of_has hhas
  refine ext_tables ?_ ?_
  · intro table
    rw [entries_rewritten, hkind]
    by_cases htable : table = entity.kind.table
    · subst htable
      rw [entries_write_of_has hhas', entries_rewritten, entries_write_of_has hhas, recounted,
        entries_setEntries_self, entries_rewritten, hkind, entries_write_of_has hhas, List.map_map,
        List.map_map]
      refine List.map_congr_left ?_
      intro row _
      rw [Function.comp, Function.comp, recounted_overwritten]
    · rw [entries_write_of_ne htable, entries_rewritten, entries_write_of_ne htable, recounted,
        entries_setEntries_of_ne htable, entries_rewritten, hkind, entries_write_of_ne htable]
  · intro side
    rw [links_rewritten, repointed_repointed (links_rewritten s id entity targets side), recounted,
      links_setEntries, links_rewritten]

/-- What a patch leads to is there before another write of its plan if it is there after it. -/
theorem hasTargets_rewritten (hkind : entity.kind = second.kind) :
    (s.rewritten id entity targets).HasTargets second.targets → s.HasTargets second.targets := by
  intro h side target htarget
  obtain ⟨change, hchange, -⟩ := Option.bind_eq_some_iff.1 htarget
  have hplans : entity.kind.table = .plans := by
    rw [hkind]
    exact Patch.table_of_planChange hchange
  have hthere := h side target htarget
  rw [has, find?_rewritten, ← has, Statement.has_target_write hplans] at hthere
  exact hthere

end Store

namespace Patch

/-- The row that a patch leaves is read as the entity that it made. -/
theorem ofStored_rewritten (h : s.Accepts entity.kind.table id entity.kind.tag)
    (hfound : (s.rewritten id entity targets).find? entity.kind.table id.text = some row) :
    Entity.ofStored entity.kind.table row.tag row.body = .ok entity := by
  rw [Store.find?_rewritten, Store.find?_write_self, Store.written_of_accepts h] at hfound
  cases hfound
  exact Entity.ofStored_body entity

theorem merge_stored (h : first.kind = second.kind) {c c' c'' : Catalog}
    (hfirst : (Catalog.patchEntity id first).run.run c = (.ok (), c'))
    (hsecond : (Catalog.patchEntity id second).run.run c' = (.ok (), c'')) :
    ∃ once, (Catalog.patchEntity id (first.merge second)).run.run c = (.ok (), once) ∧
      c'' = { once with store := once.store.recounted first.kind.table id.text } := by
  obtain ⟨hp, s', hs', rfl⟩ := Catalog.transact_eq_ok.1 hfirst
  obtain ⟨-, s'', hs'', rfl⟩ := Catalog.transact_eq_ok.1 hsecond
  obtain ⟨row, entity, entity', hfound, hstored, happly, haccepts, htargets, rfl⟩ :=
    Statement.patchLinked_ok.1 hs'
  obtain ⟨row', between, entity'', hfound', hstored', happly', haccepts', htargets', rfl⟩ :=
    Statement.patchLinked_ok.1 hs''
  have hkind := (kind_of_apply happly).2
  have hkind' := (kind_of_apply happly').2.trans h.symm
  -- The second patch starts from the entity that the first one made.
  have hbetween : between = entity' := by
    rw [← h, ← hkind] at hfound' hstored'
    have hread := ofStored_rewritten haccepts hfound'
    rw [hstored'] at hread
    exact Except.ok.inj hread
  subst hbetween
  have hmerged : (first.merge second).apply id entity = .ok entity'' := by
    rw [← apply_merge h, happly]
    exact happly'
  have hthere : c.store.HasTargets (first.merge second).targets := by
    intro side target htarget
    rw [targets_merge h, Option.mem_def, Option.or_eq_some_iff] at htarget
    rcases htarget with hsecond | ⟨-, hfirst⟩
    · exact Store.hasTargets_rewritten (hkind.trans h) htargets' side target hsecond
    · exact htargets side target hfirst
  have hhas : c.store.has between.kind.table id.text = true := by
    rw [hkind]
    exact Store.has_iff.2 ⟨row, hfound⟩
  have hsame : entity''.kind = between.kind := hkind'.trans hkind.symm
  refine ⟨_, Catalog.transact_eq_ok.2 ⟨hp, _, Statement.patchLinked_ok.2 ⟨row, entity, entity'',
    ?_, ?_, hmerged, ?_, hthere, rfl⟩, rfl⟩, ?_⟩
  · rw [kind_merge h]
    exact hfound
  · rw [kind_merge h]
    exact hstored
  · rw [hsame]
    exact haccepts
  · rw [Store.rewritten_rewritten hhas hsame, hkind, ← funext (targets_merge h)]

theorem refused_of_ne {c : Catalog} (hp : c.poisoned = false)
    (hfound : c.store.find? first.kind.table id.text = some row)
    (hstored : Entity.ofStored first.kind.table row.tag row.body = .ok entity)
    (hkind : entity.kind ≠ first.kind) :
    (Catalog.patchEntity id first).run.run c =
      (.error (.kindConflict first.kind.table id), c) := by
  refine Catalog.transact_error hp (Statement.patchLinked_refused ?_)
  rw [hfound, Write.entity, hstored]
  change (first.apply id entity >>= fun changed => changed.admitted id (some row)) = _
  rw [apply_of_ne hkind]
  rfl

/-- Patches compose. Where one patch and then another of its kind succeed, both in one do too, and
leave the same rows and links but for the one revision. -/
theorem patches_compose {first second : Patch} (h : first.kind = second.kind) (id : Uuid) :
    first.Composes second id := by
  constructor
  case applied => exact apply_merge h id
  case conflicts =>
    intro entity hkind
    refine ⟨apply_of_ne hkind id, ?_⟩
    rw [← kind_merge h] at hkind ⊢
    exact apply_of_ne hkind id
  case stored => exact fun c c' c'' => merge_stored h
  case refused =>
    intro c row entity hp hfound hstored hkind
    refine ⟨refused_of_ne hp hfound hstored hkind, ?_⟩
    rw [← kind_merge h] at hfound hstored hkind ⊢
    exact refused_of_ne hp hfound hstored hkind

/-- A movie gets a year and loses its number; then it gets a title, loses the year again and gets
another number. In one patch the year is cleared, and the title and the number are set. -/
theorem patches_compose_of_movie :
    let id := Uuid.ofNat 1
    let first := Patch.movie none (.value 1999) .null
    let second := Patch.movie (some "b") .null (.value 9)
    let movie : Entity := .movie ⟨"a", none, some 5⟩
    let c : Catalog := { Catalog.new with
      store := ⟨[⟨id.text, "movie", movie.body, 1⟩], [], [], [], []⟩ }
    let c' := ((Catalog.patchEntity id first).run.run c).2
    let c'' := ((Catalog.patchEntity id second).run.run c').2
    first.kind = second.kind ∧ first.merge second = .movie (some "b") .null (.value 9) ∧
      ∃ once, (Catalog.patchEntity id (first.merge second)).run.run c = (.ok (), once) ∧
        c'' = { once with store := once.store.recounted .works id.text } := by
  intro id first second movie c c' c''
  have hfirst : (Catalog.patchEntity id first).run.run c = (.ok (), c') :=
    Prod.fst_eq_iff.1 (by decide +kernel)
  have hsecond : (Catalog.patchEntity id second).run.run c' = (.ok (), c'') :=
    Prod.fst_eq_iff.1 (by decide +kernel)
  clear_value c' c''
  have hkind : first.kind = second.kind := rfl
  exact ⟨hkind, rfl, (patches_compose hkind id).stored c c' c'' hfirst hsecond⟩

end Patch
end MovieCatalog
