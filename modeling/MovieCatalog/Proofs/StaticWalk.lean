import MovieCatalog.Proofs.Listing
import MovieCatalog.Proofs.QueryString
import MovieCatalog.Proofs.Routes

/-! Page walks over a catalog that does not change: from a query without a token, through the token
of each answer, to an answer without one. -/
namespace MovieCatalog

namespace Json

/-- The member of an object with a name. -/
def get? (name : String) : Json → Option Json
  | .object members => members.lookup name
  | _ => none

def text? : Json → Option String
  | .text value => some value
  | _ => none

def items : Json → List Json
  | .list items => items
  | _ => []

end Json

namespace Response
variable (answer : Response)

/-- The token that an answer passes on. -/
def nextPageToken? : Option String := (answer.body.get? "nextPageToken").bind Json.text?

/-- The identifier texts of the plans in an answer. -/
def planIds : List String :=
  (((answer.body.get? "plans").map Json.items).getD []).filterMap fun item =>
    (item.get? "uuid").bind Json.text?

end Response

/-- The request for the plans of a query. -/
def Request.plans (query : String) : Request := ⟨.get, "/plans", some query, []⟩

/-- The answers to a query and to the queries that follow from it: each answer's token, behind the
query that the walk began with, asks for the next one. -/
inductive PageWalk (base : String) : Catalog → String → List Response → Prop where
  | last {c c' : Catalog} {query : String} {answer : Response}
      (asked : (Catalog.respond (.plans query)).run c = (answer, c'))
      (ended : answer.nextPageToken? = none) : PageWalk base c query [answer]
  | next {c c' : Catalog} {query token : String} {answer : Response} {answers : List Response}
      (asked : (Catalog.respond (.plans query)).run c = (answer, c'))
      (passed : answer.nextPageToken? = some token)
      (rest : PageWalk base c' (base ++ "&pageToken=" ++ token) answers) :
      PageWalk base c query (answer :: answers)

namespace ListParams

/-- The identifier that a parameter asks for. An absent, an empty and a nil one ask for none. -/
def wantedId (value : Option String) : Option Uuid :=
  (value.bind Uuid.ofText?).filter fun id => !id.isNil

/-- What the parameters ask of a plan. -/
def wanted (params : ListParams) : PlanFilter := ⟨wantedId params.source, wantedId params.work⟩

/-- The page size within its bounds. -/
def size (params : ListParams) : Nat :=
  match params.pageSize with
  | none => 50
  | some n => if n < 1 then 1 else if n < 500 then n.toNat else 500

end ListParams

/-- The walk is exact: every page is answered, all but the last are full, there are as many as it
takes, and together they hold the wanted plans, each once and in order. -/
structure ExactWalk (s : Store) (filter : PlanFilter) (size : Nat) (answers : List Response) :
    Prop where
  answered : ∀ answer ∈ answers, answer.status = 200
  count : answers.length = max 1 (((s.wanted filter).length + size - 1) / size)
  full : ∀ answer ∈ answers.dropLast, answer.planIds.length = size
  ids : ∃ ids : List Uuid, ids.Pairwise (· < ·) ∧
    ids.Perm ((s.wanted filter).map PlanRecord.id) ∧
      answers.flatMap Response.planIds = ids.map Uuid.text

variable {c c' : Catalog} {s : Store} {filter : PlanFilter} {after : Option Uuid}
  {records : List PlanRecord} {params : ListParams} {request : ListRequest}
  {base query : String} {answers answers' : List Response}

theorem filterId_ok {name : String} {value : Option String} {id : Option Uuid}
    (h : filterId name value = .ok id) : id = ListParams.wantedId value := by
  cases value with
  | none =>
    cases h
    rfl
  | some text =>
    rw [filterId] at h
    split at h
    · rename_i hempty
      cases h
      rw [String.isEmpty_iff.1 hempty]
      decide
    · rw [ListParams.wantedId, Option.bind_some]
      cases hid : Uuid.ofText? text with
      | none =>
        rw [hid] at h
        cases h
      | some id' =>
        rw [hid] at h
        cases h
        rw [Option.filter_some]
        cases id'.isNil <;> rfl

theorem clampPageSize_requested (params : ListParams) :
    clampPageSize (requestedPageSize params.pageSize) = params.size := by
  rw [ListParams.size]
  cases params.pageSize with
  | none => rfl
  | some n =>
    simp only [requestedPageSize, clampPageSize, minPageSize, maxPageSize]
    split
    · omega
    · split <;> omega

theorem request_ok : params.request = .ok request → request.filter = params.wanted ∧
    request.pageToken = params.pageToken.filter (!·.isEmpty) ∧
      clampPageSize request.pageSize = params.size := by
  rw [ListParams.request]
  cases hsource : filterId "sourceUuid" params.source with
  | error error =>
    intro h
    cases h
  | ok source =>
    cases hwork : filterId "workUuid" params.work with
    | error error =>
      intro h
      cases h
    | ok work =>
      intro h
      cases h
      rw [ListParams.wanted, ← filterId_ok hsource, ← filterId_ok hwork]
      exact ⟨rfl, rfl, clampPageSize_requested params⟩

/-- A token changes nothing in the request but where to resume. -/
theorem request_pageToken (h : params.request = .ok request) (id : Uuid) :
    ({ params with pageToken := some (PageToken.encode id) } : ListParams).request =
      .ok { request with pageToken := some (PageToken.encode id) } := by
  have htoken : (some (PageToken.encode id)).filter (!·.isEmpty) = some (PageToken.encode id) := by
    rw [Option.filter_some, PageToken.isEmpty_encode]
    rfl
  rw [ListParams.request] at h ⊢
  simp only [htoken]
  cases hsource : filterId "sourceUuid" params.source with
  | error error =>
    rw [hsource] at h
    cases h
  | ok source =>
    cases hwork : filterId "workUuid" params.work with
    | error error =>
      rw [hsource, hwork] at h
      cases h
    | ok work =>
      rw [hsource, hwork] at h
      cases h
      rfl

/-- The answer with the first of all records that are listed. -/
def pageAnswer (records : List PlanRecord) (size : Nat) : Response :=
  ⟨200, PlanListing.toJson ⟨records.take size,
    (PlanPage.first records size).next?.map PageToken.encode⟩⟩

theorem nextPageToken?_pageAnswer (records : List PlanRecord) (size : Nat) :
    (pageAnswer records size).nextPageToken? =
      (PlanPage.first records size).next?.map PageToken.encode := by
  rw [Response.nextPageToken?, pageAnswer]
  cases (PlanPage.first records size).next? with
  | none => rfl
  | some id => rfl

theorem planIds_pageAnswer (records : List PlanRecord) (size : Nat) :
    (pageAnswer records size).planIds = (records.take size).map fun record => record.id.text := by
  have hitems : (((pageAnswer records size).body.get? "plans").map Json.items).getD [] =
      (records.take size).map fun record => record.plan.view record.id := rfl
  have hitem : ((fun item : Json => (item.get? "uuid").bind Json.text?) ∘
      fun record : PlanRecord => record.plan.view record.id) =
        fun record => some record.id.text := rfl
  rw [Response.planIds, hitems, List.filterMap_map, hitem, List.filterMap_eq_map']

theorem respond_plans (hp : c.poisoned = false) (h : c.store.Sound)
    (hquery : ListParams.ofQuery query = .ok params) (hrequest : params.request = .ok request)
    (ht : Catalog.resumePoint request.pageToken = .ok after)
    (hl : c.store.Lists params.wanted after records) :
    (Catalog.respond (.plans query)).run c = (pageAnswer records params.size, c) := by
  obtain ⟨hfilter, -, hsize⟩ := request_ok hrequest
  rw [← hfilter] at hl
  have hrespond : Catalog.respond (.plans query) = Catalog.answerListing (some query) := by
    rw [Catalog.respond, Request.plans, Route.ofPath?_plans]
  rw [hrespond, Catalog.answerListing, Option.getD_some, hquery]
  simp only
  rw [Catalog.answer_run, Catalog.ofExcept_bind_run, hrequest]
  simp only
  rw [Catalog.listPlans_run hp h hl ht request.pageSize, hsize]
  rfl

/-- Answers that go through records page by page. -/
structure Pages (records : List PlanRecord) (size : Nat) (answers : List Response) : Prop where
  answered : ∀ answer ∈ answers, answer.status = 200
  count : answers.length = max 1 ((records.length + size - 1) / size)
  full : ∀ answer ∈ answers.dropLast, answer.planIds.length = size
  ids : answers.flatMap Response.planIds = records.map fun record => record.id.text

namespace Pages

variable {size : Nat} {last : PlanRecord}

theorem single (hsize : 0 < size) (hlen : records.length ≤ size) :
    Pages records size [pageAnswer records size] := by
  refine ⟨?_, ?_, ?_, ?_⟩
  · intro answer h
    rw [List.mem_singleton.1 h]
    rfl
  · have hdiv : (records.length + size - 1) / size ≤ 1 := by
      rw [← Nat.lt_succ_iff, Nat.div_lt_iff_lt_mul hsize]
      omega
    rw [List.length_singleton]
    omega
  · intro answer h
    cases h
  · rw [List.flatMap_singleton, planIds_pageAnswer, List.take_of_length_le hlen]

theorem cons (hsize : 0 < size) (hlen : size < records.length)
    (h : Pages (records.drop size) size answers) :
    Pages records size (pageAnswer records size :: answers) := by
  have hids : (pageAnswer records size).planIds.length = size := by
    rw [planIds_pageAnswer, List.length_map, List.length_take]
    omega
  have hcount := h.count
  have hdiv : (records.length + size - 1) / size =
      ((records.drop size).length + size - 1) / size + 1 := by
    rw [← Nat.add_div_right _ hsize, List.length_drop]
    congr 1
    omega
  have hpos : 0 < ((records.drop size).length + size - 1) / size := by
    apply Nat.div_pos _ hsize
    rw [List.length_drop]
    omega
  refine ⟨?_, ?_, ?_, ?_⟩
  · intro answer ha
    rcases List.mem_cons.1 ha with rfl | ha
    · rfl
    · exact h.answered answer ha
  · rw [List.length_cons, hcount, hdiv]
    omega
  · have hne : answers ≠ [] := by
      intro hnil
      rw [hnil, List.length_nil] at hcount
      omega
    rw [List.dropLast_cons_of_ne_nil hne]
    intro answer ha
    rcases List.mem_cons.1 ha with rfl | ha
    · exact hids
    · exact h.full answer ha
  · rw [List.flatMap_cons, h.ids, planIds_pageAnswer, ← List.map_append, List.take_append_drop]

theorem exact {size : Nat} (h : Pages records size answers) (hascending : Ascending records)
    (hperm : records.Perm (s.wanted filter)) : ExactWalk s filter size answers := by
  refine ⟨h.answered, ?_, h.full, records.map PlanRecord.id, ?_, hperm.map _, ?_⟩
  · rw [← hperm.length_eq]
    exact h.count
  · exact List.pairwise_map.2 hascending
  · rw [h.ids, List.map_map]
    rfl

end Pages

theorem PageWalk.unique (h : PageWalk base c query answers) (h' : PageWalk base c query answers') :
    answers' = answers := by
  induction h generalizing answers' with
  | last asked ended =>
    cases h' with
    | last asked' ended' =>
      rw [asked] at asked'
      cases asked'
      rfl
    | next asked' passed' rest' =>
      rw [asked] at asked'
      cases asked'
      rw [ended] at passed'
      cases passed'
  | next asked passed rest ih =>
    cases h' with
    | last asked' ended' =>
      rw [asked] at asked'
      cases asked'
      rw [passed] at ended'
      cases ended'
    | next asked' passed' rest' =>
      rw [asked] at asked'
      cases asked'
      rw [passed] at passed'
      cases passed'
      rw [ih rest']

/-- From where a query resumes, the walk goes through what is left. Each page leaves less. -/
theorem exists_pageWalk (hp : c.poisoned = false) (h : c.store.Sound)
    (hbase : ListParams.ofQuery base = .ok params) (hrequest : params.request = .ok request)
    (hnames : ∀ pair ∈ QueryString.pairs base, pair.1 ≠ "pageToken") (hsize : 0 < params.size)
    (hl : c.store.Lists params.wanted after records)
    (hasked : (Catalog.respond (.plans query)).run c = (pageAnswer records params.size, c)) :
    ∃ answers, PageWalk base c query answers ∧ Pages records params.size answers := by
  induction hn : records.length using Nat.strongRecOn generalizing records after query
  rename_i n ih
  rcases PlanPage.next?_first hsize records with ⟨hlen, hnext⟩ | ⟨last, hlen, hlast, hnext⟩
  · refine ⟨[pageAnswer records params.size], .last hasked ?_, .single hsize hlen⟩
    rw [nextPageToken?_pageAnswer, hnext]
    rfl
  · have hmore := ListParams.ofQuery_pageToken hbase hnames last.id
    have hrest := respond_plans hp h hmore (request_pageToken hrequest last.id)
      (Catalog.resumePoint_encode last.id) (hl.drop hlast)
    have hless : (records.drop params.size).length < n := by
      rw [List.length_drop]
      omega
    obtain ⟨answers, hwalk, hpages⟩ := ih _ hless (hl.drop hlast) hrest rfl
    refine ⟨pageAnswer records params.size :: answers, .next hasked ?_ hwalk,
      .cons hsize hlen hpages⟩
    rw [nextPageToken?_pageAnswer, hnext]
    rfl

theorem ListParams.size_pos (params : ListParams) : 0 < params.size := by
  rw [← clampPageSize_requested]
  exact clampPageSize_pos _

namespace Catalog

/-- In a catalog that calls have led to, the walk of a valid query without a token ends, and it is
exact. -/
theorem static_walk_exact (calls : List Call) (hquery : ListParams.ofQuery query = .ok params)
    (hrequest : params.request = .ok request)
    (hnames : ∀ pair ∈ QueryString.pairs query, pair.1 ≠ "pageToken") :
    ∃ answers, PageWalk query (new.after calls) query answers ∧
      (∀ answers', PageWalk query (new.after calls) query answers' → answers' = answers) ∧
      ExactWalk (new.after calls).store params.wanted params.size answers := by
  have hp : (new.after calls).poisoned = false := poisoned_after rfl calls
  have hs := sound_after calls
  obtain ⟨records, hl, -⟩ := hs.exists_lists params.wanted none
  have hnone : params.pageToken = none := ListParams.pageToken_addAll hquery hnames
  have ht : resumePoint request.pageToken = .ok none := by
    rw [(request_ok hrequest).2.1, hnone]
    rfl
  obtain ⟨answers, hwalk, hpages⟩ := exists_pageWalk hp hs hquery hrequest hnames params.size_pos hl
    (respond_plans hp hs hquery hrequest ht hl)
  exact ⟨answers, hwalk, fun answers' h' => hwalk.unique h',
    hpages.exact hl.ascending (hl.perm hs)⟩

/-- Two plans of one work, a page for each. -/
theorem static_walk_of_two_plans :
    let query := "pageSize=1&workUuid=00000000-0000-0000-0000-000000000002&sourceUuid="
    let params : ListParams :=
      ⟨some "", some "00000000-0000-0000-0000-000000000002", some 1, none⟩
    let c := new.after [.put (.ofNat 1) (.file "a"), .put (.ofNat 2) (.edition "b"),
      .put (.ofNat 4) (.direct ⟨.ofNat 1, .ofNat 2⟩),
      .put (.ofNat 3) (.direct ⟨.ofNat 1, .ofNat 2⟩)]
    ∃ answers, PageWalk query c query answers ∧
      (∀ answers', PageWalk query c query answers' → answers' = answers) ∧
      ExactWalk c.store params.wanted params.size answers :=
  static_walk_exact _ rfl rfl (by decide)

end Catalog
end MovieCatalog
