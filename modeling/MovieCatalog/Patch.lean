import MovieCatalog.Entity
import MovieCatalog.Error
import MovieCatalog.Field

/-! Partial changes of an entity. What a patch leaves out stays as it is. -/
namespace MovieCatalog

/-- A change of a plan. The chapters concern chapter ranges alone. -/
structure PlanChange where
  source : Option Uuid
  work : Option Uuid
  start : Field Int32
  stop : Field Int32
  deriving DecidableEq

inductive Patch where
  | movie (title : Option String) (releaseYear tmdbId : Field Int32)
  | edition (editionType : Option String)
  | file (path : Option String)
  | disc (directory path : Option String) (complete : Option Bool)
  | direct (change : PlanChange)
  | chapterRange (change : PlanChange)
  deriving DecidableEq

def PlanChange.ends (change : PlanChange) (ends : Endpoints) : Endpoints :=
  ⟨change.source.getD ends.source, change.work.getD ends.work⟩

def PlanChange.chapters (change : PlanChange) (chapters : Chapters) : Chapters :=
  ⟨change.start.applyTo chapters.start, change.stop.applyTo chapters.stop⟩

namespace Patch

def kind : Patch → Kind
  | .movie .. => .movie
  | .edition _ => .edition
  | .file _ => .file
  | .disc .. => .disc
  | .direct _ => .direct
  | .chapterRange _ => .chapterRange

/-- What a patch changes in a plan. -/
def planChange? : Patch → Option PlanChange
  | .direct change | .chapterRange change => some change
  | _ => none

/-- The entity after a patch of its kind. -/
def apply (id : Uuid) (patch : Patch) (entity : Entity) : Except CatalogError Entity :=
  match patch, entity with
  | .movie title releaseYear tmdbId, .movie m =>
    .ok (.movie ⟨title.getD m.title, releaseYear.applyTo m.releaseYear, tmdbId.applyTo m.tmdbId⟩)
  | .edition editionType, .edition current => .ok (.edition (editionType.getD current))
  | .file path, .file current => .ok (.file (path.getD current))
  | .disc directory path complete, .disc d =>
    .ok (.disc ⟨directory.getD d.directory, path.getD d.path, complete.getD d.complete⟩)
  | .direct change, .direct ends => .ok (.direct (change.ends ends))
  | .chapterRange change, .chapterRange ends chapters =>
    .ok (.chapterRange (change.ends ends) (change.chapters chapters))
  | patch, _ => .error (.kindConflict patch.kind.table id)

end Patch
end MovieCatalog
