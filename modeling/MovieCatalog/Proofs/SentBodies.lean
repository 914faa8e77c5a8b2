import MovieCatalog.Proofs.Json.Objects
import MovieCatalog.Proofs.Refusals
import MovieCatalog.Proofs.Routes

/-! Bodies are read as what was sent: whether a member is missing, `null` or a value is kept apart,
in every order of the members and among others, and what cannot be kept is refused as a whole. -/
namespace MovieCatalog

open Json (Column Members IsObjectOf valuesOf)

namespace Json

/-- The token of a text, in any spelling. -/
def SendsText (text : String) (tokens : List Bytes) : Prop :=
  ∃ spelling, Spells spelling text.toList ∧ tokens = [quoted spelling]

/-- The token of an integer. -/
def SendsInteger (n : Int) (tokens : List Bytes) : Prop := tokens = [Utf8.encode (Numeral.ofInt n)]

def SendsNumber (n : Int32) (tokens : List Bytes) : Prop := SendsInteger n.toInt tokens

def SendsFlag (value : Bool) (tokens : List Bytes) : Prop :=
  tokens = [Utf8.ofText (if value then "true" else "false")]

end Json

open Json (SendsText SendsInteger SendsNumber SendsFlag)

/-- The values that an object has for a field. -/
inductive Field.Sent {α : Type} (sends : α → List Bytes → Prop) :
    Field α → List (List Bytes) → Prop where
  | absent : Sent sends .absent []
  | null : Sent sends .null [[Utf8.ofText "null"]]
  | value {content : α} {tokens : List Bytes} (h : sends content tokens) :
      Sent sends (.value content) [tokens]

/-- The members send each field of the submission under its name. -/
def Submission.SentBy (members : Members) : Submission → Prop
  | .movie title releaseYear tmdbId =>
    title.Sent SendsText (valuesOf "title" members) ∧
      releaseYear.Sent SendsNumber (valuesOf "releaseYear" members) ∧
      tmdbId.Sent SendsNumber (valuesOf "tmdbId" members)
  | .edition editionType => editionType.Sent SendsText (valuesOf "editionType" members)
  | .file path => path.Sent SendsText (valuesOf "path" members)
  | .disc directory path complete =>
    directory.Sent SendsText (valuesOf "origDirName" members) ∧
      path.Sent SendsText (valuesOf "path" members) ∧
      complete.Sent SendsFlag (valuesOf "allFilesAdded" members)
  | .direct source work =>
    source.Sent SendsText (valuesOf "sourceUuid" members) ∧
      work.Sent SendsText (valuesOf "workUuid" members)
  | .chapterRange source work start stop =>
    source.Sent SendsText (valuesOf "sourceUuid" members) ∧
      work.Sent SendsText (valuesOf "workUuid" members) ∧
      start.Sent SendsNumber (valuesOf "startChapter" members) ∧
      stop.Sent SendsNumber (valuesOf "endChapter" members)

namespace Kind

/-- The names of a kind's fields. -/
def fields : Kind → List String
  | .movie => ["title", "releaseYear", "tmdbId"]
  | .edition => ["editionType"]
  | .file => ["path"]
  | .disc => ["origDirName", "path", "allFilesAdded"]
  | .direct => ["sourceUuid", "workUuid"]
  | .chapterRange => ["sourceUuid", "workUuid", "startChapter", "endChapter"]

/-- The names of a kind's numbers. -/
def numbers : Kind → List String
  | .movie => ["releaseYear", "tmdbId"]
  | .chapterRange => ["startChapter", "endChapter"]
  | .edition | .file | .disc | .direct => []

/-- The members have a field twice, or a number that does not fit. -/
inductive Garbled (kind : Kind) (members : Members) : Prop where
  | twice (name : String) (hname : name ∈ kind.fields)
      (h : 2 ≤ (valuesOf name members).length) : Garbled kind members
  | beyond {name : String} {n : Int} {tokens : List Bytes} (hname : name ∈ kind.numbers)
      (hn : n < -0x80000000 ∨ 0x80000000 ≤ n) (htokens : SendsInteger n tokens)
      (h : tokens ∈ valuesOf name members) : Garbled kind members

end Kind

/-- The request puts or patches an entity of a kind. -/
def Request.Writes (request : Request) (kind : Kind) (text : String) : Prop :=
  Route.ofPath? request.path = some (.submission kind text) ∧
    (request.method = .put ∨ request.method = .patch)

variable {α : Type} {kind : Kind} {name text : String} {n : Int} {tokens : List Bytes}
  {values : List (List Bytes)} {members : Members} {body : Bytes} {submission : Submission}
  {request : Request} {fault : InputFault}

namespace Json

theorem takes_sentText {s : String} (h : SendsText s tokens) :
    Reader.text.nullable.Takes tokens (some s) := by
  obtain ⟨spelling, hspells, rfl⟩ := h
  exact Reader.takes_nullable (by decide) (by decide) (Reader.takes_text hspells)

theorem takes_sentNumber {n : Int32} (h : SendsNumber n tokens) :
    Reader.int32.nullable.Takes tokens (some n) := by
  obtain ⟨b, bytes, he, hblank, hn⟩ := opens_integer n.toInt
  change Utf8.encode (Numeral.ofInt n.toInt) = b :: bytes at he
  have htakes := Reader.takes_int32 n
  cases h
  rw [he] at htakes ⊢
  exact Reader.takes_nullable hblank hn htakes

theorem takes_sentFlag {value : Bool} (h : SendsFlag value tokens) :
    Reader.flag.nullable.Takes tokens (some value) := by
  have htakes := Reader.takes_flag value
  cases h
  cases value with
  | true => exact Reader.takes_nullable (b := ascii 't') (by decide) (by decide) htakes
  | false => exact Reader.takes_nullable (b := ascii 'f') (by decide) (by decide) htakes

/-- A number that does not fit is refused where a number may be missing. -/
theorem refuses_sentInteger (hn : n < -0x80000000 ∨ 0x80000000 ≤ n) (h : SendsInteger n tokens) :
    (Column.field name .int32).reader.Refuses tokens := by
  obtain ⟨b, bytes, he, hblank, hnull⟩ := opens_integer n
  change Utf8.encode (Numeral.ofInt n) = b :: bytes at he
  have hrefuses := Reader.refuses_int32 (i := n) (by omega)
  cases h
  rw [he] at hrefuses ⊢
  exact (Reader.refuses_nullable hblank hnull hrefuses).map _

/-- A field is read from the values that it is sent as. -/
theorem wants_field {reader : Reader α} {sends : α → List Bytes → Prop} {field : Field α}
    (htakes : ∀ {content tokens}, sends content tokens →
      reader.nullable.Takes tokens (some content))
    (h : field.Sent sends values) : (Column.field name reader).Wants field none values := by
  cases h with
  | absent => exact .never rfl
  | null => exact .once (Reader.takes_null.map Field.ofOption)
  | value hsent => exact .once ((htakes hsent).map Field.ofOption)

theorem keeps_field {reader : Reader α} (h : reader.Keeps) :
    (reader.nullable.map Field.ofOption).Keeps := Reader.keeps_map _ (Reader.keeps_nullable h)

end Json

theorem Kind.names_columns (kind : Kind) :
    kind.submissionDecoder.shape.columns.map Column.name = kind.fields := by
  cases kind <;> rfl

theorem Kind.fields_nodup (kind : Kind) : kind.fields.Nodup := by
  cases kind <;> decide

theorem Kind.keeps_columns (kind : Kind) :
    ∀ column ∈ kind.submissionDecoder.shape.columns, column.reader.Keeps := by
  have htext : (Json.Reader.text.nullable.map Field.ofOption).Keeps :=
    Json.keeps_field Json.Reader.keeps_text
  have hnumber : (Json.Reader.int32.nullable.map Field.ofOption).Keeps :=
    Json.keeps_field Json.Reader.keeps_int32
  have hflag : (Json.Reader.flag.nullable.map Field.ofOption).Keeps :=
    Json.keeps_field Json.Reader.keeps_flag
  cases kind <;> simp [Kind.submissionDecoder, htext, hnumber, hflag]

/-- A column that is named like a number reads numbers. -/
theorem Kind.column_of_number {column : Column}
    (hcolumn : column ∈ kind.submissionDecoder.shape.columns) (h : column.name ∈ kind.numbers) :
    column = Column.field column.name .int32 := by
  cases kind <;> simp [Kind.submissionDecoder, Kind.numbers] at hcolumn h ⊢
  case movie =>
    rcases hcolumn with rfl | rfl | rfl
    · simp at h
    · rfl
    · rfl
  case chapterRange =>
    rcases hcolumn with rfl | rfl | rfl | rfl
    · simp at h
    · simp at h
    · rfl
    · rfl

theorem Submission.decode_sent (hbody : IsObjectOf members body) (h : submission.SentBy members) :
    Submission.decode submission.kind body = .ok submission := by
  have hdistinct : ∀ kind : Kind,
      (kind.submissionDecoder.shape.columns.map Column.name).Nodup := by
    intro kind
    rw [kind.names_columns]
    exact kind.fields_nodup
  have htext := @Json.takes_sentText
  have hnumber := @Json.takes_sentNumber
  have hflag := @Json.takes_sentFlag
  cases submission with
  | movie title releaseYear tmdbId =>
    obtain ⟨htitle, hyear, hid⟩ := h
    exact Json.decode_object Kind.movie.submissionDecoder (hdistinct .movie) hbody
      (.cons (Json.wants_field htext htitle) (.cons (Json.wants_field hnumber hyear)
        (.cons (Json.wants_field hnumber hid) .nil)))
  | edition editionType =>
    exact Json.decode_object Kind.edition.submissionDecoder (hdistinct .edition) hbody
      (.cons (Json.wants_field htext h) .nil)
  | file path =>
    exact Json.decode_object Kind.file.submissionDecoder (hdistinct .file) hbody
      (.cons (Json.wants_field htext h) .nil)
  | disc directory path complete =>
    obtain ⟨hdirectory, hpath, hcomplete⟩ := h
    exact Json.decode_object Kind.disc.submissionDecoder (hdistinct .disc) hbody
      (.cons (Json.wants_field htext hdirectory) (.cons (Json.wants_field htext hpath)
        (.cons (Json.wants_field hflag hcomplete) .nil)))
  | direct source work =>
    obtain ⟨hsource, hwork⟩ := h
    exact Json.decode_object Kind.direct.submissionDecoder (hdistinct .direct) hbody
      (.cons (Json.wants_field htext hsource) (.cons (Json.wants_field htext hwork) .nil))
  | chapterRange source work start stop =>
    obtain ⟨hsource, hwork, hstart, hstop⟩ := h
    exact Json.decode_object Kind.chapterRange.submissionDecoder
      (hdistinct .chapterRange) hbody
      (.cons (Json.wants_field htext hsource) (.cons (Json.wants_field htext hwork)
        (.cons (Json.wants_field hnumber hstart) (.cons (Json.wants_field hnumber hstop) .nil))))

theorem Submission.decode_garbled (hbody : IsObjectOf members body) (h : kind.Garbled members) :
    Submission.decode kind body ≠ .ok submission := by
  intro hdecode
  have haccepted := Json.accepted_of_decode kind.keeps_columns hbody hdecode
  cases h with
  | twice name hname htwice =>
    rw [← kind.names_columns] at hname
    exact absurd (haccepted.once _ hname) (Nat.not_le.2 htwice)
  | @beyond name n tokens hname hn htokens hvalue =>
    have hfield : name ∈ kind.submissionDecoder.shape.columns.map Column.name := by
      rw [kind.names_columns]
      revert hname
      cases kind <;> simp [Kind.numbers, Kind.fields] <;> grind
    obtain ⟨column, hcolumn, rfl, hrefuses⟩ := haccepted.taken _ hfield _ hvalue
    rw [Kind.column_of_number hcolumn hname] at hrefuses
    exact hrefuses (Json.refuses_sentInteger hn htokens)

/-- A document with an object is not blank. -/
theorem not_blank_of_isObjectOf (h : IsObjectOf members body) : body.all isBodyBlank = false := by
  obtain ⟨tokens, -, hbody⟩ := h
  obtain ⟨rest, -, hblanks⟩ := hbody.first (by decide)
  rw [List.all_eq_false]
  refine ⟨ascii '\x7b', ?_, by decide⟩
  have hmem : ascii '\x7b' ∈ Json.skipBlanks body := hblanks ▸ List.mem_cons_self
  exact (List.dropWhile_sublist _).subset hmem

theorem readBody_sent (hbody : IsObjectOf members body) (h : submission.SentBy members) :
    readBody submission.kind body = .ok submission := by
  rw [readBody, not_blank_of_isObjectOf hbody, if_neg Bool.false_ne_true,
    Submission.decode_sent hbody h]

theorem readBody_garbled (hbody : IsObjectOf members body) (h : kind.Garbled members) :
    ∃ error, readBody kind body = .error (.invalidInput (.badBody error)) := by
  rw [readBody, not_blank_of_isObjectOf hbody, if_neg Bool.false_ne_true]
  cases hdecode : Submission.decode kind body with
  | ok submission => exact absurd hdecode (Submission.decode_garbled hbody h)
  | error error => exact ⟨error, rfl⟩

/-- A request with a body that cannot be read is refused. The body is to blame unless the identifier
in the path is wrong already. -/
theorem refusal?_unreadable (hwrites : request.Writes kind text)
    (hbody : readBody kind request.body = .error (.invalidInput fault)) :
    ∃ error, request.refusal? = some (.ofError error) ∧ error.status = 400 ∧
      ∀ id, pathId text = .ok id → error = .invalidInput fault := by
  obtain ⟨hroute, hmethod⟩ := hwrites
  have hrefusal : ∀ error, (pathId text = .error error ∨
      (∃ id, pathId text = .ok id) ∧ error = .invalidInput fault) →
        request.refusal? = some (.ofError error) := by
    intro error herror
    rw [Request.refusal?, hroute]
    rcases hmethod with hmethod | hmethod <;> rw [hmethod]
    · change Response.refusal? (putArguments kind text request.body) = _
      rcases herror with hid | ⟨⟨id, hid⟩, rfl⟩ <;> rw [putArguments, hid, hbody] <;> rfl
    · change Response.refusal? (patchArguments kind text request.body) = _
      rcases herror with hid | ⟨⟨id, hid⟩, rfl⟩ <;> rw [patchArguments, hid, hbody] <;> rfl
  cases hid : pathId text with
  | ok id => exact ⟨_, hrefusal _ (.inr ⟨⟨id, hid⟩, rfl⟩), rfl, fun _ _ => rfl⟩
  | error error =>
    refine ⟨error, hrefusal _ (.inl hid), refuses_parseId _ _ error hid, ?_⟩
    intro id hok
    cases hok

/-- A body means exactly what was sent. From an object that sends the fields of a submission, in any
order, with any blanks and among any other members, that submission is read; an object that has a
field twice, or a number beyond 32 bits, is refused with a 400 and changes nothing. -/
theorem body_means_what_was_sent (h : IsObjectOf members body) :
    (∀ submission : Submission, submission.kind = kind → submission.SentBy members →
      readBody kind body = .ok submission) ∧
    (kind.Garbled members →
      ∃ error, readBody kind body = .error (.invalidInput (.badBody error)) ∧
        ∀ request text c, request.Writes kind text → request.body = body →
          ∃ answer, (Catalog.respond request).run c = (answer, c) ∧ answer.status = 400 ∧
            ∀ id, pathId text = .ok id → answer = .ofError (.invalidInput (.badBody error))) := by
  constructor
  · rintro submission rfl hsent
    exact readBody_sent h hsent
  · intro hgarbled
    obtain ⟨error, herror⟩ := readBody_garbled h hgarbled
    refine ⟨error, herror, ?_⟩
    rintro request text c hwrites rfl
    obtain ⟨error', hrefusal, hstatus, hfault⟩ := refusal?_unreadable hwrites herror
    exact ⟨_, (Catalog.respond_refused hrefusal c).1, hstatus,
      fun id hid => congrArg Response.ofError (hfault id hid)⟩

/-- A movie's title spelled with escapes, behind blanks and a member of its own; and a file whose
path is given twice, the second time under an escaped name, put and patched at the file's path. -/
theorem bodies_of_a_movie_and_of_no_file :
    let movie := Utf8.ofText
      " \x7b\n\"x\":[1,\x7b\"title\":[]\x7d],\"t\\u0069tle\":\"\\\"\\u00E9\",\"tmdbId\":null\x7d"
    let file := Utf8.ofText " \x7b\n\"path\":\"a\",\"p\\u0061th\":null\x7d"
    let path := "/sources/00000000-0000-0000-0000-000000000001/file"
    readBody .movie movie = .ok (.movie (.value "\"\u00e9") .absent .null) ∧
      ∃ error, readBody .file file = .error (.invalidInput (.badBody error)) ∧
        ∀ method ∈ [Method.put, .patch], ∀ c,
          (Catalog.respond ⟨method, path, none, file⟩).run c =
            (.ofError (.invalidInput (.badBody error)), c) := by
  open Json in
  intro movie file path
  have hdocument : ∀ {members tokens body}, SpellsMembers true members tokens →
      body = [ascii ' '] ++ ([ascii '\x7b'] ++ ([ascii '\n'] ++
        (tokens ++ [[ascii '\x7d']]).flatten)) → IsObjectOf members body := by
    have hblank : ∀ b, isBlank b = true → Blanks [b] := by simp [Blanks]
    rintro members tokens body hmembers rfl
    refine ⟨tokens, hmembers, .cons (hblank _ rfl) ?_⟩
    cases htokens : tokens ++ [[ascii '\x7d']] with
    | nil => simp at htokens
    | cons token tokens => exact .cons (hblank _ rfl) (spaced_flatten _)
  have hname : ∀ name : String, Spells (Utf8.encode (name.toList.flatMap escape)) name.toList :=
    fun name => spells_escapes name.toList
  have hnull : Derives .value [Utf8.ofText "null"] := .scalar (.word (w := "null") (by decide))
  have hx : Derives .value ([ascii '['] :: ([Utf8.encode (Numeral.ofInt 1)] ++ [ascii ','] ::
      ([ascii '\x7b'] :: ((quoted (Utf8.encode ("title".toList.flatMap escape)) :: [ascii ':'] ::
        [[ascii '['], [ascii ']']]) ++ [[ascii '\x7d']])) ++ [[ascii ']']])) :=
    .list (.items (.scalar (isScalar_integer 1))
      (.item (.object (.filledObject (.member (hname "title").quotable .emptyList)))))
  have hplain : ∀ c, c.toNat < 0x80 → IsPlain c → ∀ {bytes cs}, Spells bytes cs →
      Spells (ascii c :: bytes) (c :: cs) := by
    intro c hc hplain bytes cs h
    have hcons := Spells.plain hplain h
    rwa [Utf8.encodeChar_of_lt hc] at hcons
  have htitle : Spells (ascii 't' :: ascii '\\' :: ascii 'u' :: ([ascii '0', ascii '0', ascii '6',
      ascii '9'] ++ Utf8.encode ("tle".toList.flatMap escape))) "title".toList :=
    hplain 't' (by decide) ⟨by decide, by decide, by decide⟩
      (.unit (c := 'i') ⟨0, 0, 6, 9, by decide, by decide⟩ (hname "tle"))
  have htext : Spells (ascii '\\' :: ascii '"' :: ascii '\\' :: ascii 'u' :: ([ascii '0', ascii '0',
      ascii 'E', ascii '9'] ++ [])) "\"\u00e9".toList :=
    .short (c := '"') (by decide)
      (.unit (c := '\u00e9') ⟨0, 0, 14, 9, by decide, by decide⟩ .nil)
  have hmovie : IsObjectOf _ movie := hdocument (.cons (hname "x") hx
    (.cons htitle (.scalar (.string htext.quotable)) (.cons (hname "tmdbId") hnull .nil)))
      (by decide +kernel)
  have hpath : Spells (ascii 'p' :: ascii '\\' :: ascii 'u' :: ([ascii '0', ascii '0', ascii '6',
      ascii '1'] ++ Utf8.encode ("th".toList.flatMap escape))) "path".toList :=
    hplain 'p' (by decide) ⟨by decide, by decide, by decide⟩
      (.unit (c := 'a') ⟨0, 0, 6, 1, by decide, by decide⟩ (hname "th"))
  have hfile : IsObjectOf _ file := hdocument (.cons (hname "path")
    (.scalar (.string (hname "a").quotable)) (.cons hpath hnull .nil)) (by decide +kernel)
  refine ⟨?_, ?_⟩
  · refine (body_means_what_was_sent hmovie).1 _ rfl ⟨?_, ?_, ?_⟩
    · exact .value ⟨_, htext, rfl⟩
    · exact .absent
    · exact .null
  · obtain ⟨error, herror, hanswer⟩ := (@body_means_what_was_sent .file _ file hfile).2
      (.twice "path" (by decide) (by decide))
    refine ⟨error, herror, ?_⟩
    intro method hmethod c
    have hpath : path = "/" ++ Kind.file.table.name ++ "/" ++ (Uuid.ofNat 1).text ++ "/" ++
        Kind.file.segment := by decide
    have hroute : Route.ofPath? path = some (.submission .file (Uuid.ofNat 1).text) :=
      hpath ▸ Route.ofPath?_submission .file (Uuid.ofNat 1).slash_not_mem_text
    have hwrites : Request.Writes ⟨method, path, none, file⟩ .file (Uuid.ofNat 1).text :=
      ⟨hroute, by simpa using hmethod⟩
    obtain ⟨answer, hrun, -, hfault⟩ := hanswer _ _ c hwrites rfl
    rw [hrun, hfault (.ofNat 1) (parseId_text rfl)]

end MovieCatalog
