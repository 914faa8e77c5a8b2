import MovieCatalog.Json.Record
import MovieCatalog.Patch
import MovieCatalog.Validation

/-! The bodies of write requests. One body can ask for a whole entity or for a patch; the rules
that its fields must keep differ. -/
namespace MovieCatalog

open Json (Column Reader)

inductive Submission where
  | movie (title : Field String) (releaseYear tmdbId : Field Int32)
  | edition (editionType : Field String)
  | file (path : Field String)
  | disc (directory path : Field String) (complete : Field Bool)
  | direct (source work : Field String)
  | chapterRange (source work : Field String) (start stop : Field Int32)
  deriving DecidableEq

/-- How the bodies of requests for a kind are read. -/
def Kind.submissionDecoder : Kind → Json.Decoder Submission
  | .movie =>
    { shape := ⟨"MovieWorkInputView", [Column.field "title" .text,
        Column.field "releaseYear" .int32, Column.field "tmdbId" .int32]⟩
      build := fun (title, releaseYear, tmdbId, ()) => .movie title releaseYear tmdbId }
  | .edition =>
    { shape := ⟨"MovieEditionInputView", [Column.field "editionType" .text]⟩
      build := fun (editionType, ()) => .edition editionType }
  | .file =>
    { shape := ⟨"FileSourceInputView", [Column.field "path" .text]⟩
      build := fun (path, ()) => .file path }
  | .disc =>
    { shape := ⟨"DiscSourceInputView", [Column.field "origDirName" .text,
        Column.field "path" .text, Column.field "allFilesAdded" .flag]⟩
      build := fun (directory, path, complete, ()) => .disc directory path complete }
  | .direct =>
    { shape := ⟨"DirectPlanInputView", [Column.field "sourceUuid" .text,
        Column.field "workUuid" .text]⟩
      build := fun (source, work, ()) => .direct source work }
  | .chapterRange =>
    { shape := ⟨"ChapterRangePlanInputView", [Column.field "sourceUuid" .text,
        Column.field "workUuid" .text, Column.field "startChapter" .int32,
        Column.field "endChapter" .int32]⟩
      build := fun (source, work, start, stop, ()) => .chapterRange source work start stop }

namespace Submission

/-- The submission in the body of a request for a kind. -/
def decode (kind : Kind) (input : Bytes) : Except Json.Error Submission :=
  kind.submissionDecoder.decode input

def kind : Submission → Kind
  | .movie .. => .movie
  | .edition _ => .edition
  | .file _ => .file
  | .disc .. => .disc
  | .direct .. => .direct
  | .chapterRange .. => .chapterRange

def ends (source work : Field String) : Except CatalogError Endpoints := do
  let source ← source.requiredId "sourceUuid"
  let work ← work.requiredId "workUuid"
  return ⟨source, work⟩

def planChange (source work : Field String) (start stop : Field Int32) :
    Except CatalogError PlanChange := do
  let source ← source.patchId "sourceUuid"
  let work ← work.patchId "workUuid"
  return ⟨source, work, start, stop⟩

/-- The entity that a submission describes in full. -/
def entity : Submission → Except CatalogError Entity
  | .movie title releaseYear tmdbId => do
    let title ← title.requiredText "title"
    return .movie ⟨title, releaseYear.toOption, tmdbId.toOption⟩
  | .edition editionType => do
    return .edition (← editionType.requiredText "editionType")
  | .file path => do
    return .file (← path.requiredText "path")
  | .disc directory path complete => do
    let directory ← directory.requiredText "origDirName"
    let path ← path.requiredText "path"
    let complete ← complete.notNull "allFilesAdded"
    return .disc ⟨directory, path, complete.getD false⟩
  | .direct source work => do
    return .direct (← ends source work)
  | .chapterRange source work start stop => do
    return .chapterRange (← ends source work) ⟨start.toOption, stop.toOption⟩

/-- The patch that a submission asks for. -/
def patch : Submission → Except CatalogError Patch
  | .movie title releaseYear tmdbId => do
    return .movie (← title.patchText "title") releaseYear tmdbId
  | .edition editionType => do
    return .edition (← editionType.patchText "editionType")
  | .file path => do
    return .file (← path.patchText "path")
  | .disc directory path complete => do
    let directory ← directory.patchText "origDirName"
    let path ← path.patchText "path"
    let complete ← complete.notNull "allFilesAdded"
    return .disc directory path complete
  | .direct source work => do
    return .direct (← planChange source work .absent .absent)
  | .chapterRange source work start stop => do
    return .chapterRange (← planChange source work start stop)

end Submission
end MovieCatalog
