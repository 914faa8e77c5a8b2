import MovieCatalog.Proofs.Answers
import MovieCatalog.Proofs.QueryString
import MovieCatalog.Proofs.Routes
import MovieCatalog.Proofs.Statuses
import MovieCatalog.Proofs.TokenSpelling

/-! Answers show the bytes that are stored: an entity is answered with the very body of its row, and
a page is the answers of its plans side by side. -/
namespace MovieCatalog

/-- The request to read a row. -/
def Request.read (table : Table) (id : String) : Request :=
  ⟨.get, "/" ++ table.name ++ "/" ++ id, none, []⟩

/-- A row of a kind as callers see it. -/
def Entry.shown (row : Entry) (kind : Kind) : String :=
  "\x7b\"uuid\":\"" ++ row.id ++ "\",\"" ++ kind.label ++ "\":" ++ row.body ++ "\x7d"

/-- Plans as callers see them, with the token of the next page. -/
def pageText (plans : List String) : Option String → String
  | none => "\x7b\"plans\":[" ++ ",".intercalate plans ++ "]\x7d"
  | some token =>
    "\x7b\"plans\":[" ++ ",".intercalate plans ++ "],\"nextPageToken\":\"" ++ token ++ "\"\x7d"

/-- Whoever reads a row, by its identifier in any spelling, is shown what is stored. -/
structure Entry.Shown (c : Catalog) (table : Table) (row : Entry) (kind : Kind) : Prop where
  stored : kind.table = table ∧ row.tag = kind.tag
  read : Route.ofPath? (Request.read table row.id).path = some (.entity table row.id) ∧
    (Uuid.ofText? row.id).isSome = true
  answer : ∀ (request : Request) (text : String), request.method = .get →
    Route.ofPath? request.path = some (.entity table text) →
      Uuid.ofText? text = Uuid.ofText? row.id → ∃ answer,
        (Catalog.respond request).run c = (answer, c) ∧ answer.status = 200 ∧
          answer.text = row.shown kind

/-- The request asks for a page and gets the listing. -/
def Request.Lists (request : Request) (c : Catalog) (listing : PlanListing) : Prop :=
  ∃ params asked, ListParams.ofQuery (request.query.getD "") = .ok params ∧
    params.request = .ok asked ∧
      (Catalog.listPlans asked.filter asked.pageToken asked.pageSize).run.run c = (.ok listing, c)

/-- A page is the answers of its plans, in order. -/
structure Request.ShowsPage (request : Request) (c : Catalog) (listing : PlanListing) : Prop where
  listed : request.Lists c listing
  status : ((Catalog.respond request).run c).1.status = 200
  text : ((Catalog.respond request).run c).1.text = pageText (listing.plans.map fun record =>
    ((Catalog.respond (.read .plans record.id.text)).run c).1.text) listing.nextToken
  plans : ∀ record ∈ listing.plans,
    ((Catalog.respond (.read .plans record.id.text)).run c).1.status = 200

variable {c : Catalog} {table : Table} {id : Uuid} {entity : Entity} {row : Entry} {kind : Kind}
  {cs : List Char} {text : String} {bytes : Bytes} {request : Request}

namespace Json

/-- No character needs an escape. -/
def Unescaped (cs : List Char) : Prop := ∀ c ∈ cs, escape c = [c]

theorem writeString_unescaped (h : Unescaped cs) : writeString cs = '"' :: (cs ++ ['"']) := by
  have hflat : cs.flatMap escape = cs := by
    induction cs with
    | nil => rfl
    | cons c cs ih =>
      rw [Unescaped, List.forall_mem_cons] at h
      rw [List.flatMap_cons, h.1, ih h.2, List.singleton_append]
  rw [writeString, hflat, List.cons_append]

theorem writeItems_eq (items : List Json) :
    writeItems items = List.intercalate [','] (items.map write) := by
  induction items with
  | nil => rfl
  | cons item items ih =>
    cases items with
    | nil => simp [writeItems]
    | cons next items =>
      simp only [writeItems, ih, List.map_cons, List.intercalate_cons_cons, List.append_assoc,
        List.singleton_append]

end Json

open Json (Unescaped)

theorem Uuid.unescaped_text (id : Uuid) : Unescaped id.text.toList := by
  have hall : ∀ n < 16, Json.escape (Hex.digit n) = [Hex.digit n] := by decide
  rw [Uuid.text, String.toList_ofList]
  intro c hc
  rcases Uuid.mem_chars hc with rfl | ⟨n, hn, rfl⟩
  · decide
  · exact hall n hn

theorem Kind.unescaped_label (kind : Kind) : Unescaped kind.label.toList := by
  have hall : (kind.label.toList.all fun c => decide (Json.escape c = [c])) = true := by
    cases kind <;> decide
  intro c hc
  exact of_decide_eq_true (List.all_eq_true.1 hall c hc)

theorem PageToken.unescaped_encode (id : Uuid) : Unescaped (PageToken.encode id).toList := by
  have hall : ∀ n < 64, Json.escape (Base64.digit n) = [Base64.digit n] := by decide
  obtain ⟨values, -, hlt, htoken, -⟩ := PageToken.spells_encode id
  rw [htoken]
  intro c hc
  rw [List.mem_append, List.mem_map, List.mem_singleton] at hc
  rcases hc with ⟨n, hn, rfl⟩ | rfl
  · rw [PageToken.alphabet_getD (hlt n hn)]
    exact hall n (hlt n hn)
  · decide

/-- An entity under its identifier is shown with the very body that is stored for it. -/
theorem Entity.render_view (entity : Entity) (hid : row.id = id.text)
    (hbody : row.body = entity.body) : (entity.view id).render = row.shown entity.kind := by
  have hlabel : Json.writeString "uuid".toList = "\"uuid\"".toList := by decide
  apply String.toList_injective
  rw [Json.render, Entity.view, Entry.shown, hid, hbody, Entity.body, Json.render]
  simp only [Json.write, Json.writeMembers, Entity.idText, hlabel,
    Json.writeString_unescaped entity.kind.unescaped_label,
    Json.writeString_unescaped id.unescaped_text, String.toList_ofList, String.toList_append]
  simp

/-- A listing is shown as the views of its plans. -/
theorem PlanListing.render_toJson {listing : PlanListing}
    (htoken : ∀ token ∈ listing.nextToken, Unescaped token.toList) :
    listing.toJson.render =
      pageText (listing.plans.map fun record => (record.plan.view record.id).render)
        listing.nextToken := by
  have hplans : Json.writeString "plans".toList = "\"plans\"".toList := by decide
  have hnext : Json.writeString "nextPageToken".toList = "\"nextPageToken\"".toList := by decide
  have hviews :
      (listing.plans.map fun record => (record.plan.view record.id).render).map String.toList =
        (listing.plans.map fun record => record.plan.view record.id).map Json.write := by
    simp [Json.render]
  apply String.toList_injective
  rw [Json.render, PlanListing.toJson]
  cases hlisting : listing.nextToken with
  | none =>
    simp only [Json.member?, Json.write, Json.writeMembers, Json.writeItems_eq, pageText, hplans,
      String.toList_ofList, String.toList_append, String.toList_intercalate, hviews]
    simp
  | some token =>
    rw [hlisting] at htoken
    simp only [Json.member?, Json.write, Json.writeMembers, Json.writeItems_eq, pageText, hplans,
      hnext, Json.writeString_unescaped (htoken token rfl), String.toList_ofList,
      String.toList_append, String.toList_intercalate, hviews]
    simp

theorem Uuid.route_read (table : Table) (id : Uuid) :
    Route.ofPath? (Request.read table id.text).path = some (.entity table id.text) :=
  Route.ofPath?_entity table id.slash_not_mem_text id.text_ne_empty

namespace Catalog

/-- A row that can be read is answered with its entity, however its identifier is spelled. -/
theorem respond_read (hp : c.poisoned = false) (hd : (c.store.ids table).Nodup)
    (hrow : row ∈ c.store.entries table) (hid : row.id = id.text) (hnil : id.isNil = false)
    (hstored : Entity.ofStored table row.tag row.body = .ok entity)
    (hmethod : request.method = .get)
    (hroute : Route.ofPath? request.path = some (.entity table text))
    (htext : Uuid.ofText? text = some id) :
    (respond request).run c = (⟨200, entity.view id⟩, c) := by
  have hpath : pathId text = .ok id := by
    rw [pathId, parseId, htext]
    exact if_neg (by rw [hnil]; exact Bool.false_ne_true)
  have hf : c.store.find? table id.text = some row := hid ▸ Store.find?_of_mem hd hrow
  have hget : (getEntity table id).run.run c = (.ok entity, c) :=
    transact_ok hp (Statement.load_ok.2 ⟨rfl, row, hf, hstored⟩)
  unfold respond
  rw [hroute, hmethod]
  change (answerEntity table text).run c = _
  rw [answerEntity, answer_run, ofExcept_bind_run, hpath]
  simp only [bind_run, hget]
  rfl

/-- Proper rows are shown as they are stored. -/
theorem shown_of_proper (hp : c.poisoned = false) (hd : (c.store.ids table).Nodup)
    (hrow : row ∈ c.store.entries table) (hproper : row.Proper table) :
    ∃ kind, row.Shown c table kind := by
  obtain ⟨⟨id, hid, hnil⟩, -, kind, hkind, entity, htag, rfl, hstored, hbody, -⟩ := hproper
  refine ⟨entity.kind, ⟨Table.mem_kinds.1 hkind, htag⟩, ⟨?_, ?_⟩, ?_⟩
  · rw [hid]
    exact id.route_read table
  · rw [hid, Uuid.ofText?_text]
    rfl
  · intro request text hmethod hroute htext
    rw [hid, Uuid.ofText?_text] at htext
    exact ⟨_, respond_read hp hd hrow hid hnil hstored hmethod hroute htext, rfl,
      Entity.render_view entity hid hbody⟩

/-- A listed plan is read by its identifier as it is listed. -/
theorem respond_listed (hp : c.poisoned = false) (h : c.store.Sound) {filter : PlanFilter}
    {record : PlanRecord} (hrecord : record ∈ c.store.wanted filter) :
    (respond (.read .plans record.id.text)).run c = (⟨200, record.plan.view record.id⟩, c) := by
  obtain ⟨⟨row, hrow, hread⟩, -⟩ := mem_wanted.1 hrecord
  have hmem : row ∈ c.store.entries .plans := hrow
  obtain ⟨id, plan, hid, hnil, -, hstored⟩ := h.holds_of_mem hmem
  rw [PlanRecord.ofEntry?, hid, Uuid.parse_text, hstored] at hread
  cases hread
  exact respond_read hp (h.distinct .plans) hmem hid hnil hstored rfl (id.route_read .plans)
    (Uuid.ofText?_text id)

/-- A page of wanted plans shows the answers that they have by themselves. -/
theorem showsPage_of_answer (hp : c.poisoned = false) (h : c.store.Sound) {filter : PlanFilter}
    {listing : PlanListing} (hlisted : request.Lists c listing)
    (hanswer : ((respond request).run c).1 = ⟨200, listing.toJson⟩)
    (hwanted : ∀ record ∈ listing.plans, record ∈ c.store.wanted filter)
    (htoken : ∀ token ∈ listing.nextToken, ∃ id, PageToken.encode id = token) :
    request.ShowsPage c listing := by
  have hunescaped : ∀ token ∈ listing.nextToken, Unescaped token.toList := by
    intro token hmem
    obtain ⟨id, rfl⟩ := htoken token hmem
    exact PageToken.unescaped_encode id
  refine ⟨hlisted, ?_, ?_, ?_⟩
  · rw [hanswer]
  · have hviews : listing.plans.map (fun record => (record.plan.view record.id).render) =
        listing.plans.map fun record =>
          ((respond (.read .plans record.id.text)).run c).1.text := by
      apply List.map_congr_left
      intro record hrecord
      rw [respond_listed hp h (hwanted record hrecord), Response.text]
    rw [hanswer, Response.text, PlanListing.render_toJson hunescaped, hviews]
  · intro record hrecord
    rw [respond_listed hp h (hwanted record hrecord)]

/-- A page is asked for with a token that is refused, or has wanted plans and a token of its own. -/
theorem listPlans_cases (hp : c.poisoned = false) (h : c.store.Sound) (filter : PlanFilter)
    (token : Option String) (size : Nat) :
    (∃ error, ((listPlans filter token size).run.run c).1 = .error error ∧ error.status = 400) ∨
      ∃ listing, (listPlans filter token size).run.run c = (.ok listing, c) ∧
        (∀ record ∈ listing.plans, record ∈ c.store.wanted filter) ∧
        ∀ next ∈ listing.nextToken, ∃ id, PageToken.encode id = next := by
  cases htoken : resumePoint token with
  | error error =>
    refine .inl ⟨error, ?_, refuses_resumePoint token error htoken⟩
    rw [listPlans, ofExcept_bind_run, htoken]
  | ok after =>
    obtain ⟨records, hlists, -⟩ := h.exists_lists filter after
    refine .inr ⟨_, listPlans_run hp h hlists htoken size, ?_, ?_⟩
    · intro record hrecord
      exact ((hlists.mem_iff record).1 (List.mem_of_mem_take hrecord)).1
    · intro next hnext
      obtain ⟨id, -, he⟩ := Option.map_eq_some_iff.1 hnext
      exact ⟨id, he⟩

/-- The parameters of a page decide about it before the database does. -/
theorem respond_listing {params : ListParams} (hmethod : request.method = .get)
    (hroute : Route.ofPath? request.path = some .listing)
    (hquery : ListParams.ofQuery (request.query.getD "") = .ok params) :
    ((respond request).run c).1 = Response.ofResult
      (fun listing : PlanListing => ⟨200, listing.toJson⟩) (params.request.bind fun asked =>
        ((listPlans asked.filter asked.pageToken asked.pageSize).run.run c).1) := by
  unfold respond
  rw [hroute, hmethod]
  change ((answerListing request.query).run c).1 = _
  rw [answerListing, hquery]
  change Response.ofResult _ ((ofExcept params.request >>= _).run.run c).1 = _
  rw [ofExcept_bind_run]
  cases params.request <;> rfl

/-- A request for a page is refused, or shows it. -/
theorem showsPage (hp : c.poisoned = false) (h : c.store.Sound) (hmethod : request.method = .get)
    (hroute : Route.ofPath? request.path = some .listing) :
    ((respond request).run c).1.status = 400 ∨ ∃ listing, request.ShowsPage c listing := by
  cases hquery : ListParams.ofQuery (request.query.getD "") with
  | error fault =>
    rw [respond_failure (.query hroute hmethod hquery)]
    exact .inl rfl
  | ok params =>
    have hanswer := respond_listing (c := c) hmethod hroute hquery
    cases hasked : params.request with
    | error error =>
      rw [hanswer, hasked]
      exact .inl (refuses_request params error hasked)
    | ok asked =>
      rw [hasked, Except.bind] at hanswer
      rcases listPlans_cases hp h asked.filter asked.pageToken asked.pageSize with
        ⟨error, hlist, hstatus⟩ | ⟨listing, hlist, hwanted, htoken⟩
      · rw [hanswer, hlist]
        exact .inl hstatus
      · rw [hlist] at hanswer
        exact .inr ⟨listing, showsPage_of_answer hp h ⟨params, asked, hquery, hasked, hlist⟩
          hanswer hwanted htoken⟩

/-- All readers show the stored bytes. Whatever requests a catalog has served, a row is read as an
object of its identifier and, under the name of its kind, of its very body; and a page of plans is
what its plans are read as one by one. -/
theorem stored_bytes_shown (requests : List Request) :
    (∀ table, ∀ row ∈ (served requests).store.entries table,
      ∃ kind, row.Shown (served requests) table kind) ∧
    ∀ request : Request, request.method = .get → Route.ofPath? request.path = some .listing →
      ((respond request).run (served requests)).1.status = 400 ∨
        ∃ listing, request.ShowsPage (served requests) listing := by
  have hp := poisoned_served requests
  have h := proper_served requests
  constructor
  · intro table row hrow
    exact shown_of_proper hp (h.sound.distinct table) hrow (h.row hrow)
  · intro request hmethod hroute
    exact showsPage hp h.sound hmethod hroute

/-- A movie that was put with an escape and a `null` is read with neither, by another spelling of
its identifier. -/
theorem stored_bytes_of_a_movie :
    let put : Request := ⟨.put, "/works/00000000-0000-0000-0000-00000000000a/movie", none,
      Utf8.ofText "\x7b\"tmdbId\":null,\"title\":\"\\u00e9\"\x7d"⟩
    let get : Request := ⟨.get, "/works/0000000000000000000000000000000A/", none, []⟩
    ∃ answer, (respond get).run (served [put]) = (answer, served [put]) ∧ answer.status = 200 ∧
      answer.text = "\x7b\"uuid\":\"00000000-0000-0000-0000-00000000000a\"," ++
        "\"movie\":\x7b\"title\":\"\u00e9\"\x7d\x7d" := by
  intro put get
  have hrow : (⟨"00000000-0000-0000-0000-00000000000a", "movie",
      "\x7b\"title\":\"\u00e9\"\x7d", 1⟩ : Entry) ∈ (served [put]).store.entries .works := by
    decide +kernel
  obtain ⟨kind, hshown⟩ := (stored_bytes_shown [put]).1 .works _ hrow
  obtain ⟨answer, hanswer, hstatus, htext⟩ := hshown.answer get
    "0000000000000000000000000000000A" rfl (by decide +kernel) (by decide +kernel)
  refine ⟨answer, hanswer, hstatus, htext.trans ?_⟩
  obtain ⟨htable, htag⟩ := hshown.stored
  cases kind with
  | movie => decide +kernel
  | edition => exact absurd htag (by decide)
  | _ => cases htable

end Catalog
end MovieCatalog
