import MovieCatalog.Uuid.Basic
import MovieCatalog.Kind

/-! Works, sources and plans: what a row of the catalog stands for. -/
namespace MovieCatalog

structure Movie where
  title : String
  releaseYear : Option Int32
  tmdbId : Option Int32
  deriving DecidableEq

/-- A directory with the files of a disc. -/
structure Disc where
  directory : String
  path : String
  complete : Bool
  deriving DecidableEq

/-- The source that a plan starts from and the work that it makes. -/
structure Endpoints where
  source : Uuid
  work : Uuid
  deriving DecidableEq

/-- A span of chapters, open on a side without a number. -/
structure Chapters where
  start : Option Int32
  stop : Option Int32
  deriving DecidableEq

/-- A direct plan uses the whole source, and a chapter range a span of it. -/
inductive Entity where
  | movie (movie : Movie)
  | edition (editionType : String)
  | file (path : String)
  | disc (disc : Disc)
  | direct (ends : Endpoints)
  | chapterRange (ends : Endpoints) (chapters : Chapters)
  deriving DecidableEq

namespace Entity

def kind : Entity → Kind
  | .movie _ => .movie
  | .edition _ => .edition
  | .file _ => .file
  | .disc _ => .disc
  | .direct _ => .direct
  | .chapterRange .. => .chapterRange

/-- The source and the work of a plan. -/
def ends? : Entity → Option Endpoints
  | .direct ends | .chapterRange ends _ => some ends
  | _ => none

/-- Change the source and the work of a plan. -/
def mapEnds (f : Endpoints → Endpoints) : Entity → Entity
  | .direct ends => .direct (f ends)
  | .chapterRange ends chapters => .chapterRange (f ends) chapters
  | entity => entity

end Entity
end MovieCatalog
