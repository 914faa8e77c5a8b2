import MovieCatalog.Http.Server
import MovieCatalog.Proofs.Uuid

/-! Submissions in full and in part. A whole entity that a submission describes is well formed; to
patch a well-formed entity is to put the submission with the stored values in place of what it
leaves out. -/
namespace MovieCatalog

/-- Both ends name something. -/
def Endpoints.Named (ends : Endpoints) : Prop := ends.source.isNil = false ∧ ends.work.isNil = false

/-- The texts of an entity are not empty, and the ends of a plan name something. -/
def Entity.WellFormed : Entity → Prop
  | .movie m => m.title ≠ ""
  | .edition editionType => editionType ≠ ""
  | .file path => path ≠ ""
  | .disc d => d.directory ≠ "" ∧ d.path ≠ ""
  | .direct ends => ends.Named
  | .chapterRange ends _ => ends.Named

variable {α β : Type} {name text stored : String} {id : Uuid} {field : Field String} {kind : Kind}
  {body : Bytes} {submission : Submission} {entity : Entity} {patch : Patch}

theorem bind_eq_ok {α β : Type} {x : Except CatalogError α} {f : α → Except CatalogError β}
    {value : β} : (x >>= f) = .ok value ↔ ∃ a, x = .ok a ∧ f a = .ok value := by
  cases x with
  | error error =>
    constructor
    · intro h
      cases h
    · rintro ⟨a, h, -⟩
      cases h
  | ok a =>
    constructor
    · intro h
      exact ⟨a, rfl, h⟩
    · rintro ⟨a', h, hf⟩
      cases h
      exact hf

theorem bind_eq_error {α β : Type} {x : Except CatalogError α} {f : α → Except CatalogError β}
    {error : CatalogError} :
    (x >>= f) = .error error ↔ x = .error error ∨ ∃ a, x = .ok a ∧ f a = .error error := by
  cases x with
  | error fault =>
    constructor
    · intro h
      cases h
      exact .inl rfl
    · rintro (h | ⟨a, h, -⟩)
      · cases h
        rfl
      · cases h
  | ok a =>
    constructor
    · intro h
      exact .inr ⟨a, rfl, h⟩
    · rintro (h | ⟨a', h, hf⟩)
      · cases h
      · cases h
        exact hf

theorem parseId_named (h : parseId name text = .ok id) : id.isNil = false := by
  rw [parseId] at h
  split at h
  · cases h
  · split at h
    · cases h
    · rename_i hnil
      cases h
      exact Bool.eq_false_iff.2 hnil

theorem parseId_text (h : id.isNil = false) : parseId name id.text = .ok id := by
  rw [parseId, Uuid.ofText?_text]
  simp only [h, Bool.false_eq_true, if_false]

theorem Submission.kind_of_decode (h : Submission.decode kind body = .ok submission) :
    submission.kind = kind := by
  rw [Submission.decode, Json.Decoder.decode] at h
  split at h
  · rename_i row hrow
    cases h
    cases kind <;> rfl
  · cases h

theorem readBody_kind (h : readBody kind body = .ok submission) : submission.kind = kind := by
  rw [readBody] at h
  split at h
  · cases h
  · split at h
    · rename_i hdecode
      cases h
      exact Submission.kind_of_decode hdecode
    · cases h

theorem Submission.kind_of_entity (h : submission.entity = .ok entity) :
    entity.kind = submission.kind := by
  cases submission <;> simp only [Submission.entity, bind_eq_ok] at h
  case movie => obtain ⟨_, -, h⟩ := h; cases h; rfl
  case edition => obtain ⟨_, -, h⟩ := h; cases h; rfl
  case file => obtain ⟨_, -, h⟩ := h; cases h; rfl
  case disc => obtain ⟨_, -, _, -, _, -, h⟩ := h; cases h; rfl
  case direct => obtain ⟨_, -, h⟩ := h; cases h; rfl
  case chapterRange => obtain ⟨_, -, h⟩ := h; cases h; rfl

theorem Submission.kind_of_patch (h : submission.patch = .ok patch) :
    patch.kind = submission.kind := by
  cases submission <;> simp only [Submission.patch, bind_eq_ok] at h
  case movie => obtain ⟨_, -, h⟩ := h; cases h; rfl
  case edition => obtain ⟨_, -, h⟩ := h; cases h; rfl
  case file => obtain ⟨_, -, h⟩ := h; cases h; rfl
  case disc => obtain ⟨_, -, _, -, _, -, h⟩ := h; cases h; rfl
  case direct => obtain ⟨_, -, h⟩ := h; cases h; rfl
  case chapterRange => obtain ⟨_, -, h⟩ := h; cases h; rfl

theorem putArguments_ok (h : putArguments kind text body = .ok (id, entity)) :
    pathId text = .ok id ∧ entity.kind = kind := by
  simp only [putArguments, bind_eq_ok] at h
  obtain ⟨id', hid, submission, hbody, entity', hentity, h⟩ := h
  cases h
  exact ⟨hid, (Submission.kind_of_entity hentity).trans (readBody_kind hbody)⟩

theorem patchArguments_ok (h : patchArguments kind text body = .ok (id, patch)) :
    pathId text = .ok id ∧ patch.kind = kind := by
  simp only [patchArguments, bind_eq_ok] at h
  obtain ⟨id', hid, submission, hbody, patch', hpatch, h⟩ := h
  cases h
  exact ⟨hid, (Submission.kind_of_patch hpatch).trans (readBody_kind hbody)⟩

namespace Field

/-- The field with a stored value in its place if it was left out. -/
def fill (stored : Option α) : Field α → Field α
  | .absent => ofOption stored
  | .null => .null
  | .value content => .value content

/-- The field was sent, with a value or as `null`. -/
def IsSent (field : Field α) : Prop := field ≠ .absent

theorem fill_of_isSent {field : Field α} (h : field.IsSent) (stored : Option α) :
    field.fill stored = field := by
  cases field with
  | absent => exact absurd rfl h
  | null => rfl
  | value content => rfl

theorem toOption_fill (field : Field α) (stored : Option α) :
    (field.fill stored).toOption = field.applyTo stored := by
  cases field with
  | absent => cases stored <;> rfl
  | null => rfl
  | value content => rfl

theorem requiredText_ne_empty (h : field.requiredText name = .ok text) : text ≠ "" := by
  obtain ⟨given, -, h⟩ := bind_eq_ok.1 h
  split at h
  · cases h
  · rename_i hempty
    cases h
    exact fun he => hempty (String.isEmpty_iff.2 he)

theorem requiredId_named (h : field.requiredId name = .ok id) : id.isNil = false := by
  obtain ⟨given, -, h⟩ := bind_eq_ok.1 h
  exact parseId_named h

theorem requiredText_fill (h : stored ≠ "") : (field.fill (some stored)).requiredText name =
    (field.patchText name).map fun given => given.getD stored := by
  cases field with
  | absent =>
    have hempty : stored.isEmpty = false :=
      Bool.eq_false_iff.2 fun he => h (String.isEmpty_iff.1 he)
    change (if stored.isEmpty then _ else _ : Except CatalogError String) = .ok stored
    rw [hempty]
    rfl
  | null => rfl
  | value content =>
    change (if content.isEmpty then invalidField name .empty else .ok content) =
      (if content.isEmpty then invalidField name .empty else .ok (some content)).map _
    split
    · rfl
    · rfl

theorem requiredId_fill (h : id.isNil = false) : (field.fill (some id.text)).requiredId name =
    (field.patchId name).map fun given => given.getD id := by
  cases field with
  | absent =>
    change parseId name id.text = .ok id
    exact parseId_text h
  | null => rfl
  | value content =>
    change parseId name content = ((parseId name content).map some).map _
    cases parseId name content with
    | error error => rfl
    | ok given => rfl

theorem notNull_fill (field : Field α) (stored : α) : (field.fill (some stored)).notNull name =
    (field.notNull name).map fun given => some (given.getD stored) := by
  cases field with
  | absent => rfl
  | null => rfl
  | value content => rfl

end Field

namespace Submission

theorem named_of_ends {source work : Field String} {ends : Endpoints}
    (h : Submission.ends source work = .ok ends) : ends.Named := by
  simp only [Submission.ends, bind_eq_ok] at h
  obtain ⟨source', hsource, work', hwork, h⟩ := h
  cases h
  exact ⟨Field.requiredId_named hsource, Field.requiredId_named hwork⟩

/-- What a submission describes in full is well formed. -/
theorem wellFormed_of_entity (h : submission.entity = .ok entity) : entity.WellFormed := by
  cases submission <;> simp only [Submission.entity, bind_eq_ok] at h
  case movie =>
    obtain ⟨title, htitle, h⟩ := h
    cases h
    exact Field.requiredText_ne_empty htitle
  case edition =>
    obtain ⟨editionType, htype, h⟩ := h
    cases h
    exact Field.requiredText_ne_empty htype
  case file =>
    obtain ⟨path, hpath, h⟩ := h
    cases h
    exact Field.requiredText_ne_empty hpath
  case disc =>
    obtain ⟨directory, hdirectory, path, hpath, complete, -, h⟩ := h
    cases h
    exact ⟨Field.requiredText_ne_empty hdirectory, Field.requiredText_ne_empty hpath⟩
  case direct =>
    obtain ⟨ends, hends, h⟩ := h
    cases h
    exact named_of_ends hends
  case chapterRange =>
    obtain ⟨ends, hends, h⟩ := h
    cases h
    exact named_of_ends hends

/-- The submission with the values of an entity of its kind in place of what it leaves out. A
number that is not set is filled in as `null`. -/
def fill : Submission → Entity → Submission
  | .movie title releaseYear tmdbId, .movie m =>
    .movie (title.fill (some m.title)) (releaseYear.fill m.releaseYear) (tmdbId.fill m.tmdbId)
  | .edition editionType, .edition current => .edition (editionType.fill (some current))
  | .file path, .file current => .file (path.fill (some current))
  | .disc directory path complete, .disc d =>
    .disc (directory.fill (some d.directory)) (path.fill (some d.path))
      (complete.fill (some d.complete))
  | .direct source work, .direct ends =>
    .direct (source.fill (some ends.source.text)) (work.fill (some ends.work.text))
  | .chapterRange source work start stop, .chapterRange ends chapters =>
    .chapterRange (source.fill (some ends.source.text)) (work.fill (some ends.work.text))
      (start.fill chapters.start) (stop.fill chapters.stop)
  | submission, _ => submission

/-- Every field of the submission was sent. -/
def IsFull : Submission → Prop
  | .movie title releaseYear tmdbId => title.IsSent ∧ releaseYear.IsSent ∧ tmdbId.IsSent
  | .edition editionType => editionType.IsSent
  | .file path => path.IsSent
  | .disc directory path complete => directory.IsSent ∧ path.IsSent ∧ complete.IsSent
  | .direct source work => source.IsSent ∧ work.IsSent
  | .chapterRange source work start stop =>
    source.IsSent ∧ work.IsSent ∧ start.IsSent ∧ stop.IsSent

theorem fill_of_isFull (h : submission.IsFull) (entity : Entity) :
    submission.fill entity = submission := by
  cases submission <;> cases entity <;>
    first | rfl | simp_all only [fill, IsFull, Field.fill_of_isSent]

/-- The ends of a plan, filled in, against a change of the ends. -/
theorem ends_fill {ends : Endpoints} (h : ends.Named) (source work : Field String)
    (start stop : Field Int32) :
    Submission.ends (source.fill (some ends.source.text)) (work.fill (some ends.work.text)) =
      (planChange source work start stop).map fun change => change.ends ends := by
  rw [Submission.ends, planChange, Field.requiredId_fill h.1, Field.requiredId_fill h.2]
  cases source.patchId "sourceUuid" with
  | error error => rfl
  | ok source' => cases work.patchId "workUuid" <;> rfl

theorem planChange_chapters {source work : Field String} {start stop : Field Int32}
    {change : PlanChange} (h : planChange source work start stop = .ok change) :
    change.start = start ∧ change.stop = stop := by
  simp only [planChange, bind_eq_ok] at h
  obtain ⟨source', -, work', -, h⟩ := h
  cases h
  exact ⟨rfl, rfl⟩

/-- Putting a submission that is filled in from an entity is patching that entity: the checks fail
alike, and what they let through comes to the same. -/
theorem entity_fill (h : entity.WellFormed) (hk : entity.kind = submission.kind) (id : Uuid) :
    (submission.fill entity).entity = submission.patch >>= fun patch => patch.apply id entity := by
  cases submission <;> cases entity <;> cases hk
  case movie title releaseYear tmdbId m =>
    simp only [fill, Submission.entity, Submission.patch, Field.requiredText_fill h,
      Field.toOption_fill]
    cases title.patchText "title" <;> rfl
  case edition editionType current =>
    simp only [fill, Submission.entity, Submission.patch, Field.requiredText_fill h]
    cases editionType.patchText "editionType" <;> rfl
  case file path current =>
    simp only [fill, Submission.entity, Submission.patch, Field.requiredText_fill h]
    cases path.patchText "path" <;> rfl
  case disc directory path complete d =>
    simp only [fill, Submission.entity, Submission.patch, Field.requiredText_fill h.1,
      Field.requiredText_fill h.2, Field.notNull_fill]
    cases directory.patchText "origDirName" with
    | error error => rfl
    | ok directory' =>
      cases path.patchText "path" with
      | error error => rfl
      | ok path' => cases complete.notNull "allFilesAdded" <;> rfl
  case direct source work ends =>
    simp only [fill, Submission.entity, Submission.patch, ends_fill h source work .absent .absent]
    cases planChange source work .absent .absent <;> rfl
  case chapterRange source work start stop ends chapters =>
    simp only [fill, Submission.entity, Submission.patch, ends_fill h source work start stop,
      Field.toOption_fill]
    cases hchange : planChange source work start stop with
    | error error => rfl
    | ok change =>
      obtain ⟨hstart, hstop⟩ := planChange_chapters hchange
      rw [← hstart, ← hstop]
      rfl

end Submission
end MovieCatalog
