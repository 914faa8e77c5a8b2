import MovieCatalog.Entity
import MovieCatalog.Error
import MovieCatalog.Json.Record
import MovieCatalog.Json.Value

/-! The stored form of an entity: a tag and a body, which reading takes back to the entity. -/
namespace MovieCatalog

open Json (Column Reader)

/-- How the bodies of a kind are read. -/
def Kind.bodyDecoder : Kind → Json.Decoder Entity
  | .movie =>
    { shape := ⟨"MovieWork", [Column.required "title" .text,
        Column.optional "releaseYear" .int32, Column.optional "tmdbId" .int32]⟩
      build := fun (title, releaseYear, tmdbId, ()) => .movie ⟨title, releaseYear, tmdbId⟩ }
  | .edition =>
    { shape := ⟨"MovieEditionWork", [Column.required "editionType" .text]⟩
      build := fun (editionType, ()) => .edition editionType }
  | .file =>
    { shape := ⟨"FileSource", [Column.required "path" .text]⟩
      build := fun (path, ()) => .file path }
  | .disc =>
    { shape := ⟨"DiscSource", [Column.required "origDirName" .text, Column.required "path" .text,
        Column.defaulted "allFilesAdded" .flag false]⟩
      build := fun (directory, path, complete, ()) => .disc ⟨directory, path, complete⟩ }
  | .direct =>
    { shape := ⟨"DirectPlan", [Column.required "sourceUuid" .uuid,
        Column.required "workUuid" .uuid]⟩
      build := fun (source, work, ()) => .direct ⟨source, work⟩ }
  | .chapterRange =>
    { shape := ⟨"ChapterRangePlan", [Column.required "sourceUuid" .uuid,
        Column.required "workUuid" .uuid, Column.optional "startChapter" .int32,
        Column.optional "endChapter" .int32]⟩
      build := fun (source, work, start, stop, ()) =>
        .chapterRange ⟨source, work⟩ ⟨start, stop⟩ }

namespace Entity

def number (value : Int32) : Json := .integer value.toInt

def idText (id : Uuid) : Json := .text id.text

def endMembers (ends : Endpoints) : List (String × Json) :=
  [("sourceUuid", idText ends.source), ("workUuid", idText ends.work)]

/-- The members of an entity's body. Numbers that are not set are left out. -/
def members : Entity → List (String × Json)
  | .movie m =>
    ("title", .text m.title) :: (Json.member? "releaseYear" number m.releaseYear ++
      Json.member? "tmdbId" number m.tmdbId)
  | .edition editionType => [("editionType", .text editionType)]
  | .file path => [("path", .text path)]
  | .disc d =>
    [("origDirName", .text d.directory), ("path", .text d.path),
      ("allFilesAdded", .flag d.complete)]
  | .direct ends => endMembers ends
  | .chapterRange ends chapters =>
    endMembers ends ++ (Json.member? "startChapter" number chapters.start ++
      Json.member? "endChapter" number chapters.stop)

variable (entity : Entity)

/-- The body that is stored for an entity. -/
def body : String := (Json.object entity.members).render

/-- An entity under the name of its kind. -/
def tagged : Json := .object [(entity.kind.label, .object entity.members)]

/-- An entity with its identifier. -/
def view (id : Uuid) : Json :=
  .object [("uuid", idText id), (entity.kind.label, .object entity.members)]

/-- The entity that a tag and a body of a table's row stand for. -/
def ofStored (table : Table) (tag body : String) : Except CatalogError Entity :=
  match table.kind? tag with
  | none => .error (.unknownKind table tag)
  | some kind =>
    match kind.bodyDecoder.decode (Utf8.ofText body) with
    | .ok entity => .ok entity
    | .error error => .error (.body error)

end Entity
end MovieCatalog
