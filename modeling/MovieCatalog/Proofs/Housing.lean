import MovieCatalog.Proofs.Bootstrap
import MovieCatalog.Proofs.Runs

/-! Rows and the tables that hold them. Bringing a database to the current version drops nothing, so
rows are still in their tables when the database is opened again. -/
namespace MovieCatalog

/-- The table that holds the links of a side. -/
def Side.name : Side → String
  | .input => "plan_inputs"
  | .output => "plan_outputs"

variable {layout next last : Layout} {c : Catalog} {version : Int}

namespace Layout

/-- The tables and indexes of a database are the first ones of another. -/
structure Extends (layout next : Layout) : Prop where
  tables : layout.tables <+: next.tables
  indexes : layout.indexes <+: next.indexes

/-- A database with all tables that rows are put into. -/
structure Furnished (layout : Layout) : Prop where
  entries : ∀ table : Table, table.name ∈ layout.tables
  links : ∀ side : Side, side.name ∈ layout.tables

theorem Extends.refl (layout : Layout) : layout.Extends layout :=
  ⟨List.prefix_refl _, List.prefix_refl _⟩

theorem Extends.trans (h : layout.Extends next) (h' : next.Extends last) : layout.Extends last :=
  ⟨h.tables.trans h'.tables, h.indexes.trans h'.indexes⟩

theorem extends_migrate (layout : Layout) (step : Migration × Nat) :
    layout.Extends (layout.migrate step) := ⟨List.prefix_append _ _, List.prefix_append _ _⟩

theorem extends_migrations (layout : Layout) (steps : List (Migration × Nat)) :
    layout.Extends (steps.foldl migrate layout) := by
  induction steps generalizing layout with
  | nil => exact .refl layout
  | cons step steps ih => exact (extends_migrate layout step).trans (ih _)

/-- The tables and indexes of a database stay, whatever its version rows are. -/
theorem extends_initialise (layout : Layout) : layout.Extends layout.initialise.2 := by
  have hversions : layout.Extends layout.withVersions := ⟨List.prefix_refl _, List.prefix_refl _⟩
  cases h : layout.version with
  | error fault =>
    rw [initialise_error h]
    exact hversions
  | ok version =>
    by_cases hv : schemaVersion ≤ version
    · rw [initialise_newer h hv]
      exact hversions
    · rw [initialise_older h (Int.not_le.1 hv)]
      exact hversions.trans (extends_migrations _ _)

theorem mem_addMissing {name : String} {wanted : List String} (h : name ∈ wanted)
    (present : List String) : name ∈ addMissing present wanted := by
  rw [addMissing, List.mem_append, List.mem_filter]
  by_cases hpresent : name ∈ present
  · exact .inl hpresent
  · exact .inr ⟨h, by simpa using hpresent⟩

/-- A database below the current version gets all tables. -/
theorem furnished_initialise (h : layout.version = .ok version) (hv : version < schemaVersion) :
    layout.initialise.2.Furnished := by
  have htables : ∀ name ∈ ["works", "sources", "plans", "plan_inputs", "plan_outputs"],
      name ∈ layout.initialise.2.tables := by
    intro name hname
    rw [initialise_older h hv, pending, toNat_of_older hv]
    exact mem_addMissing hname layout.tables
  constructor
  case entries =>
    intro table
    exact htables _ (by cases table <;> decide)
  case links =>
    intro side
    exact htables _ (by cases side <;> decide)

end Layout

namespace Catalog

/-- Every row is in a table that the database has. -/
structure Housed (c : Catalog) : Prop where
  entries : ∀ table, c.store.entries table ≠ [] → table.name ∈ c.layout.tables
  links : ∀ side, c.store.links side ≠ [] → side.name ∈ c.layout.tables

/-- Where all tables are there, rows may be put into any. -/
theorem housed_of_furnished (h : c.layout.Furnished) : c.Housed :=
  ⟨fun table _ => h.entries table, fun side _ => h.links side⟩

theorem reopen_run (c : Catalog) : reopen.run.run c =
    (c.layout.initialise.1.mapError .storage,
      { c with layout := c.layout.initialise.2, poisoned := false }) := by
  have hread : (get : CatalogM Catalog).run.run c = (.ok c, c) := rfl
  rw [reopen, bind_run, hread]
  simp only
  obtain ⟨result, layout⟩ := c.layout.initialise
  cases result <;> rfl

/-- Whether or not the database can be opened again, its rows stay, and so do their tables. -/
theorem Housed.reopen (h : c.Housed) :
    (reopen.run.run c).2.store = c.store ∧ (reopen.run.run c).2.Housed := by
  have htables := (Layout.extends_initialise c.layout).tables
  rw [reopen_run]
  refine ⟨rfl, ?_, ?_⟩
  · exact fun table hrows => htables.subset (h.entries table hrows)
  · exact fun side hlinks => htables.subset (h.links side hlinks)

end Catalog
end MovieCatalog
