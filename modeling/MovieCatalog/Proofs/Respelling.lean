import Mathlib.Logic.Relation
import MovieCatalog.Proofs.QueryString
import MovieCatalog.Proofs.Runs
import MovieCatalog.Proofs.Spelling

/-! The spelling of identifiers never matters: requests that differ in nothing else get one answer
and leave one catalog. In a query, a filter that asks for nothing may as well be left out. -/
namespace MovieCatalog

/-- Texts that are the same but for the spelling of an identifier. -/
def Uuid.Respelled (a b : String) : Prop :=
  a = b ∨ ∃ id : Uuid, id.Spells a.toList ∧ id.Spells b.toList

/-- Segments of a path that are the same but for the spelling of the identifier in it. -/
inductive Route.Respelled : List String → List String → Prop where
  | same (segments : List String) : Respelled segments segments
  | id {table a b : String} {rest : List String} (h : Uuid.Respelled a b) :
      Respelled (table :: a :: rest) (table :: b :: rest)

inductive Field.Respelled : Field String → Field String → Prop where
  | same (field : Field String) : Respelled field field
  | value {a b : String} (h : Uuid.Respelled a b) : Respelled (.value a) (.value b)

/-- Submissions that are the same but for the spelling of the source and of the work. -/
inductive Submission.Respelled : Submission → Submission → Prop where
  | same (submission : Submission) : Respelled submission submission
  | direct {source source' work work' : Field String} (hsource : source.Respelled source')
      (hwork : work.Respelled work') : Respelled (.direct source work) (.direct source' work')
  | chapterRange {source source' work work' : Field String} {start stop : Field Int32}
      (hsource : source.Respelled source') (hwork : work.Respelled work') :
      Respelled (.chapterRange source work start stop) (.chapterRange source' work' start stop)

/-- Bodies from which such submissions are read. -/
def BodyRespelled (kind : Kind) (body body' : Bytes) : Prop :=
  ∃ submission submission', readBody kind body = .ok submission ∧
    readBody kind body' = .ok submission' ∧ submission.Respelled submission'

/-- The name of a side's identifier in a query. -/
def Side.filterName : Side → String
  | .input => "sourceUuid"
  | .output => "workUuid"

/-- Values that ask for no filter: the empty text, and nil in any spelling. -/
def AsksNothing (text : String) : Prop := text = "" ∨ Uuid.nil.Spells text.toList

/-- One change of a query that must not matter: an identifier is spelled in another way, a value
that asks for nothing takes the place of another one, or it is left out where it is the only one. -/
inductive QueryEdit : List (String × String) → List (String × String) → Prop where
  | respell {before after : List (String × String)} {a b : String} (side : Side)
      (h : Uuid.Respelled a b) :
      QueryEdit (before ++ (side.filterName, a) :: after) (before ++ (side.filterName, b) :: after)
  | blank {before after : List (String × String)} {a b : String} (side : Side)
      (ha : AsksNothing a) (hb : AsksNothing b) :
      QueryEdit (before ++ (side.filterName, a) :: after) (before ++ (side.filterName, b) :: after)
  | absent {before after : List (String × String)} {a : String} (side : Side)
      (ha : AsksNothing a) (hbefore : ∀ pair ∈ before, pair.1 ≠ side.filterName)
      (hafter : ∀ pair ∈ after, pair.1 ≠ side.filterName) :
      QueryEdit (before ++ (side.filterName, a) :: after) (before ++ after)

/-- Requests to one route that are the same but for the spelling of identifiers. -/
structure Request.Respelled (a b : Request) : Prop where
  method : a.method = b.method
  routed : (Route.ofPath? a.path).isSome = true
  path : Route.Respelled (Route.segments a.path) (Route.segments b.path)
  query : Relation.EqvGen QueryEdit (QueryString.pairs (a.query.getD ""))
    (QueryString.pairs (b.query.getD ""))
  body : a.body = b.body ∨ ∃ kind id, Route.ofPath? a.path = some (.submission kind id) ∧
    BodyRespelled kind a.body b.body

section Texts

variable {a b name : String}

theorem Uuid.Respelled.ofText?_eq (h : Respelled a b) : ofText? a = ofText? b := by
  rcases h with rfl | ⟨id, ha, hb⟩
  · rfl
  · rw [ofText?_eq_some_iff.2 ha, ofText?_eq_some_iff.2 hb]

theorem Uuid.Respelled.parseId_eq (h : Respelled a b) (name : String) :
    parseId name a = parseId name b := by
  rw [parseId, parseId, h.ofText?_eq]

theorem Uuid.Spells.filterId {id : Uuid} (h : id.Spells a.toList) (name : String) :
    filterId name (some a) = .ok (if id.isNil then none else some id) := by
  have hread := Uuid.ofText?_eq_some_iff.2 h
  have hne : a.isEmpty = false := by
    rw [Bool.eq_false_iff]
    intro hempty
    rw [String.isEmpty_iff.1 hempty] at hread
    cases hread
  rw [MovieCatalog.filterId, hne, hread]
  rfl

theorem Uuid.Respelled.filterId_eq (h : Respelled a b) (name : String) :
    filterId name (some a) = filterId name (some b) := by
  rcases h with rfl | ⟨id, ha, hb⟩
  · rfl
  · rw [ha.filterId, hb.filterId]

theorem AsksNothing.filterId (h : AsksNothing a) (name : String) :
    filterId name (some a) = .ok none := by
  rcases h with rfl | hnil
  · rfl
  · rw [hnil.filterId]
    rfl

end Texts

section Bodies

variable {field field' : Field String} {submission submission' : Submission}

theorem Field.Respelled.requiredId_eq (h : field.Respelled field') (name : String) :
    field.requiredId name = field'.requiredId name := by
  cases h with
  | same => rfl
  | value h => exact h.parseId_eq name

theorem Field.Respelled.patchId_eq (h : field.Respelled field') (name : String) :
    field.patchId name = field'.patchId name := by
  cases h with
  | same => rfl
  | value h => exact congrArg (Except.map some) (h.parseId_eq name)

namespace Submission.Respelled

theorem entity_eq (h : submission.Respelled submission') :
    submission.entity = submission'.entity := by
  cases h with
  | same => rfl
  | direct hsource hwork | chapterRange hsource hwork =>
    simp only [entity, ends, hsource.requiredId_eq, hwork.requiredId_eq]

theorem patch_eq (h : submission.Respelled submission') :
    submission.patch = submission'.patch := by
  cases h with
  | same => rfl
  | direct hsource hwork | chapterRange hsource hwork =>
    simp only [patch, planChange, hsource.patchId_eq, hwork.patchId_eq]

end Submission.Respelled

end Bodies

namespace ListParams

variable {p q params params' : ListParams} {side : Side} {name : String}
  {pairs : List (String × String)}

/-- The text of a side's identifier. -/
def value (params : ListParams) : Side → Option String
  | .input => params.source
  | .output => params.work

def fill (params : ListParams) (text : String) : Side → ListParams
  | .input => { params with source := some text }
  | .output => { params with work := some text }

theorem value_fill (params : ListParams) (text : String) (side side' : Side) :
    (params.fill text side).value side' =
      if side' = side then some text else params.value side' := by
  cases side <;> cases side' <;> rfl

theorem add_filter (params : ListParams) (side : Side) (text : String) :
    params.add (side.filterName, text) = if (params.value side).isSome then
      .error (.duplicateField side.filterName) else .ok (params.fill text side) := by
  obtain ⟨source, work, pageSize, pageToken⟩ := params
  cases side with
  | input => cases source <;> rfl
  | output => cases work <;> rfl

/-- Parameters that make one request. -/
structure Alike (p q : ListParams) : Prop where
  ends : ∀ side : Side,
    filterId side.filterName (p.value side) = filterId side.filterName (q.value side)
  pageSize : p.pageSize = q.pageSize
  pageToken : p.pageToken = q.pageToken

theorem Alike.request_eq (h : p.Alike q) : p.request = q.request := by
  have hsource : filterId "sourceUuid" p.source = filterId "sourceUuid" q.source := h.ends .input
  have hwork : filterId "workUuid" p.work = filterId "workUuid" q.work := h.ends .output
  rw [request, request, hsource, hwork, h.pageSize, h.pageToken]

theorem Alike.fill (h : p.Alike q) {a b : String}
    (hab : filterId side.filterName (some a) = filterId side.filterName (some b)) :
    (p.fill a side).Alike (q.fill b side) where
  ends := by
    intro side'
    rw [value_fill, value_fill]
    split
    · rename_i hside
      rw [hside]
      exact hab
    · exact h.ends side'
  pageSize := by cases side <;> exact h.pageSize
  pageToken := by cases side <;> exact h.pageToken

/-- Pairs of other names leave both sides as they are. -/
theorem value_add {pair : String × String} (h : params.add pair = .ok params')
    (hname : pair.1 ≠ side.filterName) : params'.value side = params.value side := by
  unfold add at h
  split at h
  · cases hassign : assign "sourceUuid" params.source _ <;> rw [hassign] at h <;> cases h
    cases side with
    | input => exact absurd rfl hname
    | output => rfl
  · cases hassign : assign "workUuid" params.work _ <;> rw [hassign] at h <;> cases h
    cases side with
    | input => rfl
    | output => exact absurd rfl hname
  · cases hassign : assignNumber "pageSize" params.pageSize _ <;> rw [hassign] at h <;> cases h
    cases side <;> rfl
  · cases hassign : assign "pageToken" params.pageToken _ <;> rw [hassign] at h <;> cases h
    cases side <;> rfl
  · cases h
    rfl

theorem value_addAll (h : params.addAll pairs = .ok params')
    (hnames : ∀ pair ∈ pairs, pair.1 ≠ side.filterName) :
    params'.value side = params.value side := by
  induction pairs generalizing params with
  | nil =>
    cases h
    rfl
  | cons pair pairs ih =>
    rw [addAll] at h
    split at h
    · rename_i next hadd
      rw [ih h fun other hmem => hnames other (List.mem_cons_of_mem _ hmem)]
      exact value_add hadd (hnames pair List.mem_cons_self)
    · cases h

/-- A pair that names no side is taken in without a look at the sides. -/
theorem Alike.add_other (h : p.Alike q) (hname : ∀ side : Side, name ≠ side.filterName)
    (text : String) :
    (∃ fault, p.add (name, text) = .error fault ∧ q.add (name, text) = .error fault) ∨
    ∃ p' q', p.add (name, text) = .ok p' ∧ q.add (name, text) = .ok q' ∧ p'.Alike q' := by
  have hsource : name ≠ "sourceUuid" := hname .input
  have hwork : name ≠ "workUuid" := hname .output
  unfold add
  split
  · rename_i heq
    exact absurd (Prod.mk.inj heq).1 hsource
  · rename_i heq
    exact absurd (Prod.mk.inj heq).1 hwork
  · rw [h.pageSize]
    cases assignNumber "pageSize" q.pageSize _ with
    | error fault => exact .inl ⟨fault, rfl, rfl⟩
    | ok pageSize => exact .inr ⟨_, _, rfl, rfl, h.ends, rfl, h.pageToken⟩
  · rw [h.pageToken]
    cases assign "pageToken" q.pageToken _ with
    | error fault => exact .inl ⟨fault, rfl, rfl⟩
    | ok pageToken => exact .inr ⟨_, _, rfl, rfl, h.ends, h.pageSize, rfl⟩
  · exact .inr ⟨p, q, rfl, rfl, h⟩

/-- Alike parameters stay alike when pairs are taken in, as long as no pair comes upon a side that
only one of them has filled. -/
theorem Alike.addAll_eq (h : p.Alike q)
    (hopen : ∀ side : Side, (p.value side).isSome = (q.value side).isSome ∨
      ∀ pair ∈ pairs, pair.1 ≠ side.filterName) :
    (p.addAll pairs).map request = (q.addAll pairs).map request := by
  induction pairs generalizing p q with
  | nil => exact congrArg Except.ok h.request_eq
  | cons pair pairs ih =>
    obtain ⟨name, text⟩ := pair
    rw [addAll, addAll]
    by_cases hname : ∃ side : Side, name = side.filterName
    · obtain ⟨side, rfl⟩ := hname
      have hfilled : (p.value side).isSome = (q.value side).isSome :=
        (hopen side).resolve_right fun hnames => hnames _ List.mem_cons_self rfl
      rw [add_filter, add_filter, hfilled]
      by_cases hsome : (q.value side).isSome = true
      · rw [if_pos hsome, if_pos hsome]
      · rw [if_neg hsome, if_neg hsome]
        refine ih (h.fill rfl) ?_
        intro side'
        rw [value_fill, value_fill]
        split
        · exact .inl rfl
        · exact (hopen side').imp_right fun hnames other hmem =>
          hnames other (List.mem_cons_of_mem _ hmem)
    · have hother : ∀ side : Side, name ≠ side.filterName := fun side he => hname ⟨side, he⟩
      rcases h.add_other hother text with ⟨fault, hp, hq⟩ | ⟨p', q', hp, hq, h'⟩
      · rw [hp, hq]
      · rw [hp, hq]
        refine ih h' ?_
        intro side
        rw [value_add hp (hother side), value_add hq (hother side)]
        exact (hopen side).imp_right fun hnames other hmem =>
          hnames other (List.mem_cons_of_mem _ hmem)

theorem alike_refl (params : ListParams) : params.Alike params := ⟨fun _ => rfl, rfl, rfl⟩

/-- One value in place of another one for which the filter is the same. -/
theorem addAll_replaced {before after : List (String × String)} {a b : String}
    (hab : filterId side.filterName (some a) = filterId side.filterName (some b)) :
    (params.addAll (before ++ (side.filterName, a) :: after)).map request =
      (params.addAll (before ++ (side.filterName, b) :: after)).map request := by
  rw [addAll_append, addAll_append]
  cases params.addAll before with
  | error fault => rfl
  | ok next =>
    simp only [Except.bind, addAll, add_filter]
    by_cases hsome : (next.value side).isSome = true
    · rw [if_pos hsome, if_pos hsome]
    · rw [if_neg hsome, if_neg hsome]
      refine (next.alike_refl.fill hab).addAll_eq ?_
      intro side'
      rw [value_fill, value_fill]
      split
      · exact .inl rfl
      · exact .inl rfl

/-- A value that asks for nothing is left out. -/
theorem addAll_absent {before after : List (String × String)} {a : String} (ha : AsksNothing a)
    (hnone : params.value side = none) (hbefore : ∀ pair ∈ before, pair.1 ≠ side.filterName)
    (hafter : ∀ pair ∈ after, pair.1 ≠ side.filterName) :
    (params.addAll (before ++ (side.filterName, a) :: after)).map request =
      (params.addAll (before ++ after)).map request := by
  rw [addAll_append, addAll_append]
  cases hnext : params.addAll before with
  | error fault => rfl
  | ok next =>
    have hopen : next.value side = none := (value_addAll hnext hbefore).trans hnone
    simp only [Except.bind, addAll, add_filter, hopen]
    have halike : (next.fill a side).Alike next := {
      ends := by
        intro side'
        rw [value_fill]
        split
        · rename_i hside
          rw [hside, hopen, ha.filterId]
          rfl
        · rfl
      pageSize := by cases side <;> rfl
      pageToken := by cases side <;> rfl }
    refine halike.addAll_eq ?_
    intro side'
    rw [value_fill]
    split
    · rename_i hside
      rw [hside]
      exact .inr hafter
    · exact .inl rfl

end ListParams

theorem QueryEdit.request_eq {pairs pairs' : List (String × String)} (h : QueryEdit pairs pairs') :
    (ListParams.empty.addAll pairs).map ListParams.request =
      (ListParams.empty.addAll pairs').map ListParams.request := by
  cases h with
  | respell side h => exact ListParams.addAll_replaced (h.filterId_eq _)
  | blank side ha hb =>
    exact ListParams.addAll_replaced ((ha.filterId _).trans (hb.filterId _).symm)
  | absent side ha hbefore hafter =>
    exact ListParams.addAll_absent ha (by cases side <;> rfl) hbefore hafter

theorem request_eq_of_edits {pairs pairs' : List (String × String)}
    (h : Relation.EqvGen QueryEdit pairs pairs') :
    (ListParams.empty.addAll pairs).map ListParams.request =
      (ListParams.empty.addAll pairs').map ListParams.request := by
  induction h with
  | rel pairs pairs' h => exact h.request_eq
  | refl pairs => rfl
  | symm pairs pairs' _ ih => exact ih.symm
  | trans pairs pairs' pairs'' _ _ ih ih' => exact ih.trans ih'

/-- Paths name one thing, or they name it by two spellings of one identifier. -/
theorem Route.Respelled.ofSegments?_cases {segments segments' : List String}
    (h : Route.Respelled segments segments') :
    Route.ofSegments? segments = Route.ofSegments? segments' ∨
    (∃ table a b, Uuid.Respelled a b ∧ Route.ofSegments? segments = some (.entity table a) ∧
      Route.ofSegments? segments' = some (.entity table b)) ∨
    ∃ kind a b, Uuid.Respelled a b ∧ Route.ofSegments? segments = some (.submission kind a) ∧
      Route.ofSegments? segments' = some (.submission kind b) := by
  cases h with
  | same => exact .inl rfl
  | @id name a b rest hid =>
    rcases rest with - | ⟨kindName, - | ⟨more, rest⟩⟩
    · simp only [Route.ofSegments?]
      cases Table.ofName? name with
      | none => exact .inl rfl
      | some table => exact .inr (.inl ⟨table, a, b, hid, rfl, rfl⟩)
    · simp only [Route.ofSegments?]
      cases Table.ofName? name with
      | none => exact .inl rfl
      | some table =>
        cases hkind : table.kindOfSegment? kindName with
        | none =>
          simp only [Option.bind_eq_bind, Option.bind_some, hkind]
          exact .inl rfl
        | some kind =>
          simp only [Option.bind_eq_bind, Option.bind_some, hkind]
          exact .inr (.inr ⟨kind, a, b, hid, rfl, rfl⟩)
    · exact .inl (by simp only [Route.ofSegments?])

namespace Catalog

variable {a b : String} {kind : Kind} {body body' : Bytes}

theorem pathId_congr (h : Uuid.Respelled a b) : pathId a = pathId b := h.parseId_eq "uuid"

theorem answerEntity_congr (h : Uuid.Respelled a b) (table : Table) :
    answerEntity table a = answerEntity table b := by
  rw [answerEntity, answerEntity, pathId_congr h]

theorem putArguments_congr (hid : Uuid.Respelled a b)
    (hbody : body = body' ∨ BodyRespelled kind body body') :
    putArguments kind a body = putArguments kind b body' := by
  rw [putArguments, putArguments, pathId_congr hid]
  rcases hbody with rfl | ⟨submission, submission', hread, hread', hsubmission⟩
  · rfl
  · rw [hread, hread']
    simp only [hsubmission.entity_eq, Except.bind, bind]

theorem patchArguments_congr (hid : Uuid.Respelled a b)
    (hbody : body = body' ∨ BodyRespelled kind body body') :
    patchArguments kind a body = patchArguments kind b body' := by
  rw [patchArguments, patchArguments, pathId_congr hid]
  rcases hbody with rfl | ⟨submission, submission', hread, hread', hsubmission⟩
  · rfl
  · rw [hread, hread']
    simp only [hsubmission.patch_eq, Except.bind, bind]

/-- What a query asks for is all that matters of it. -/
theorem answerListing_eq (query : Option String) : answerListing query =
    match (ListParams.ofQuery (query.getD "")).map ListParams.request with
    | .error fault => pure (Response.failure 400 s!"Invalid query: {fault.message}")
    | .ok request => answer (do
        let request ← ofExcept request
        listPlans request.filter request.pageToken request.pageSize)
      fun listing => ⟨200, listing.toJson⟩ := by
  rw [answerListing]
  cases ListParams.ofQuery (query.getD "") with
  | error fault => rfl
  | ok params => rfl

/-- Writes of one kind with two spellings of one identifier. -/
theorem respond_submission {request request' : Request} (h : request.Respelled request')
    (hid : Uuid.Respelled a b) (ha : Route.ofPath? request.path = some (.submission kind a))
    (hb : Route.ofPath? request'.path = some (.submission kind b)) :
    respond request = respond request' := by
  have hbody : request.body = request'.body ∨ BodyRespelled kind request.body request'.body := by
    rcases h.body with hsame | ⟨kind', id, hroute, hread⟩
    · exact .inl hsame
    · rw [ha] at hroute
      cases hroute
      exact .inr hread
  rw [respond, respond, ha, hb, ← h.method]
  cases request.method with
  | get => rfl
  | put => simp only [answerPut, putArguments_congr hid hbody]
  | patch => simp only [answerPatch, patchArguments_congr hid hbody]
  | other => rfl

/-- The spelling of identifiers matters neither to the answer nor to the catalog. -/
theorem respond_respelled {request request' : Request} (h : request.Respelled request')
    (c : Catalog) : (respond request).run c = (respond request').run c := by
  suffices hanswer : respond request = respond request' by rw [hanswer]
  obtain ⟨route, hroute⟩ := Option.isSome_iff_exists.1 h.routed
  rcases h.path.ofSegments?_cases with hsame | ⟨table, a, b, hid, ha, hb⟩ |
    ⟨kind, a, b, hid, ha, hb⟩
  · have hroute' : Route.ofPath? request'.path = some route := hsame.symm.trans hroute
    cases route with
    | submission kind id => exact respond_submission h (.inl rfl) hroute hroute'
    | listing =>
      have hlisting : answerListing request.query = answerListing request'.query := by
        rw [answerListing_eq, answerListing_eq, ListParams.ofQuery, ListParams.ofQuery,
          request_eq_of_edits h.query]
      rw [respond, respond, hroute, hroute', ← h.method, hlisting]
      cases request.method <;> rfl
    | health | entity table id =>
      rw [respond, respond, hroute, hroute', ← h.method]
      cases request.method <;> rfl
  · rw [respond, respond, Route.ofPath?, ha, Route.ofPath?, hb, ← h.method]
    cases request.method with
    | get => exact answerEntity_congr hid table
    | put | patch | other => rfl
  · exact respond_submission h hid ha hb

/-- A plan is put with all three of its identifiers in other spellings. -/
theorem respond_respelled_of_plan :
    let request : Request := ⟨.put, "/plans/urn:UUID:ABCDEF00-0000-0000-0000-000000000003/direct",
      none, Utf8.ofText ("\x7b\"sourceUuid\":\"ABCDEF00000000000000000000000001\"," ++
        "\"workUuid\":\"abcdef00-0000-0000-0000-000000000002\"\x7d")⟩
    let request' : Request := ⟨.put, "/plans/abcdef00-0000-0000-0000-000000000003/direct",
      none, Utf8.ofText ("\x7b\"sourceUuid\":\"abcdef00-0000-0000-0000-000000000001\"," ++
        "\"workUuid\":\"\x7bABCDEF00-0000-0000-0000-000000000002\x7d\"\x7d")⟩
    request.Respelled request' ∧
      (respond request).run Catalog.new = (respond request').run Catalog.new := by
  intro request request'
  have hid : ∀ a b, (Uuid.ofText? a).isSome = true → Uuid.ofText? a = Uuid.ofText? b →
      Uuid.Respelled a b := by
    intro a b ha hab
    obtain ⟨id, hread⟩ := Option.isSome_iff_exists.1 ha
    refine .inr ⟨id, Uuid.ofText?_eq_some_iff.1 hread, Uuid.ofText?_eq_some_iff.1 ?_⟩
    rw [← hab, hread]
  have hok : ∀ body submission, (readBody .direct body).toOption = some submission →
      readBody .direct body = .ok submission := by
    intro body submission h
    cases hread : readBody .direct body with
    | error error =>
      rw [hread] at h
      cases h
    | ok found =>
      rw [hread] at h
      cases h
      rfl
  have hroute : Route.segments request.path =
    ["plans", "urn:UUID:ABCDEF00-0000-0000-0000-000000000003", "direct"] := by decide +kernel
  have hroute' : Route.segments request'.path =
    ["plans", "abcdef00-0000-0000-0000-000000000003", "direct"] := by decide +kernel
  have hread : (readBody .direct request.body).toOption =
    some (.direct (.value "ABCDEF00000000000000000000000001")
      (.value "abcdef00-0000-0000-0000-000000000002")) := by decide +kernel
  have hread' : (readBody .direct request'.body).toOption =
    some (.direct (.value "abcdef00-0000-0000-0000-000000000001")
      (.value "\x7bABCDEF00-0000-0000-0000-000000000002\x7d")) := by decide +kernel
  have h : request.Respelled request' := {
    method := rfl
    routed := by decide +kernel
    path := by
      rw [hroute, hroute']
      exact .id (hid _ _ (by decide +kernel) (by decide +kernel))
    query := .refl _
    body := by
      refine .inr ⟨.direct, "urn:UUID:ABCDEF00-0000-0000-0000-000000000003", ?_, _, _,
        hok _ _ hread, hok _ _ hread', ?_⟩
      · rw [Route.ofPath?, hroute]
        rfl
      · exact .direct (.value (hid _ _ (by decide +kernel) (by decide +kernel)))
          (.value (hid _ _ (by decide +kernel) (by decide +kernel))) }
  exact ⟨h, respond_respelled h _⟩

end Catalog

end MovieCatalog
