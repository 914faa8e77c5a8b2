import MovieCatalog.Proofs.Select

/-! One page of plans on tables that need not be sound: id texts, kinds and bodies may be anything,
and links may repeat or lead nowhere. Only the key of the table is relied on. -/
namespace MovieCatalog

/-- Whether a plan with an id text comes after where to resume, and has the links that a filter asks
for. -/
def Store.passes (s : Store) (filter : PlanFilter) (after : Option Uuid) (plan : String) : Bool :=
  after.all (fun last => decide (last.text < plan)) &&
  filter.source.all (fun source => decide (⟨plan, source.text⟩ ∈ s.inputs)) &&
  filter.work.all (fun work => decide (⟨plan, work.text⟩ ∈ s.outputs))

/-- The rows of plans that pass, each once, in the order of id texts. -/
def Store.matching (s : Store) (filter : PlanFilter) (after : Option Uuid) : List Entry :=
  (s.plans.filter fun row => s.passes filter after row.id).mergeSort
    fun a b => decide (a.id ≤ b.id)

/-- Whether an id text spells no identifier. -/
def Entry.isUnnamed (row : Entry) : Bool := (Uuid.ofText? row.id).isNone

/-- Whether a row of plans stands for no plan. -/
def Entry.isSpoiled (row : Entry) : Bool :=
  (Entity.ofStored .plans row.tag row.body).toOption.isNone

/-- What a page of some size is when all these rows match. The row behind the page is looked at for
its identifier, but its plan is not read. -/
inductive PageReading (rows : List Entry) (size : Nat) : Except CatalogError PlanPage → Prop where
  | unnamed {row : Entry} {fault : Uuid.Fault}
      (first : (rows.take (size + 1)).find? Entry.isUnnamed = some row)
      (why : Uuid.parse row.id = .error fault) :
      PageReading rows size (.error (.storage (.badId 0 fault)))
  | spoiled {row : Entry} {error : CatalogError}
      (named : ∀ row ∈ rows.take (size + 1), row.isUnnamed = false)
      (first : (rows.take size).find? Entry.isSpoiled = some row)
      (why : Entity.ofStored .plans row.tag row.body = .error error) :
      PageReading rows size (.error error)
  | page {records : List PlanRecord}
      (named : ∀ row ∈ rows.take (size + 1), row.isUnnamed = false)
      (read : ReadAs (rows.take size) records) :
      PageReading rows size
        (.ok ⟨records, decide (size < rows.length), records.getLast?.map PlanRecord.id⟩)

/-- What the tables make the page after some plan. -/
structure Store.ReferencePage (s : Store) (filter : PlanFilter) (after : Option Uuid) (size : Nat)
    (result : Except CatalogError PlanPage) : Prop where
  reading : PageReading (s.matching filter after) (clampPageSize size) result
  storage : (∃ fault, result = .error (.storage fault)) ↔
    ∃ row ∈ (s.matching filter after).take (clampPageSize size + 1), row.isUnnamed = true
  resumes : ∀ page, result = .ok page → (page.next?.isSome = true ↔ page.hasMore = true)
  ascending : ((s.matching filter after).map Entry.id).Pairwise (· < ·)
  spelled : (PlanQuery.page filter after (clampPageSize size)).select.text =
    (PlanQuery.page filter after (clampPageSize size)).sql
  evaluated : (PlanQuery.page filter after (clampPageSize size)).select.rows
      (PlanQuery.page filter after (clampPageSize size)).parameters s =
    some (((s.matching filter after).take (clampPageSize size + 1)).map Entry.columns)

variable {s : Store} {filter : PlanFilter} {after : Option Uuid} {row : Entry} {rows : List Entry}
  {records : List PlanRecord} {size : Nat} {result : Except CatalogError PlanPage}

theorem Store.mem_matching : row ∈ s.matching filter after ↔
    row ∈ s.plans ∧ s.passes filter after row.id = true := by
  rw [matching, List.mem_mergeSort, List.mem_filter]

theorem Store.matching_pairwise (hd : (s.ids .plans).Nodup) :
    (s.matching filter after).Pairwise fun a b => a.id < b.id := by
  have hplans : s.plans.Nodup := List.Nodup.of_map Entry.id hd
  refine mergeSort_pairwise_lt Entry.id (hplans.filter _) ?_
  intro a ha b hb
  exact Store.eq_of_id_eq hd (List.mem_of_mem_filter ha) (List.mem_of_mem_filter hb)

/-- A query joins, but the rows it finds are those that pass. -/
theorem PlanQuery.mem_sorted_iff {query : PlanQuery} :
    row ∈ query.sorted s ↔ row ∈ s.matching query.filter query.after := by
  have hlater : query.isAfter row.id =
      query.after.all fun last => decide (last.text < row.id) := by
    rw [isAfter]
    cases query.after <;> rfl
  rw [mem_sorted, ways_ne_nil_iff, ways_ne_nil_iff, hlater, Store.mem_matching, Store.passes,
    Bool.and_eq_true, Bool.and_eq_true]
  simp only [Option.all_eq_true, decide_eq_true_eq, Option.mem_def]
  constructor
  · rintro ⟨⟨hrow, hin, hout⟩, hafter⟩
    exact ⟨hrow, ⟨hafter, hin⟩, hout⟩
  · rintro ⟨hrow, ⟨hafter, hin⟩, hout⟩
    exact ⟨⟨hrow, hin, hout⟩, hafter⟩

theorem PlanQuery.sorted_eq (hd : (s.ids .plans).Nodup) (query : PlanQuery) :
    query.sorted s = s.matching query.filter query.after :=
  eq_of_pairwise_key_lt Entry.id (sorted_pairwise hd query) (Store.matching_pairwise hd)
    fun _ => mem_sorted_iff

theorem Entry.isUnnamed_iff : row.isUnnamed = true ↔ ∃ fault, Uuid.parse row.id = .error fault := by
  rw [isUnnamed, Uuid.parse]
  cases Uuid.ofText? row.id <;> simp

theorem Entry.isUnnamed_eq_false : row.isUnnamed = false ↔ ∃ id, Uuid.parse row.id = .ok id := by
  rw [isUnnamed, Uuid.parse]
  cases Uuid.ofText? row.id <;> simp

/-- The identifiers of rows are read up to the first row that has none. -/
theorem Statement.parseColumns_cases (rows : List Entry) :
    (∃ row fault, rows.find? Entry.isUnnamed = some row ∧ Uuid.parse row.id = .error fault ∧
      parseColumns 0 (rows.map Entry.id) = .error (.storage (.badId 0 fault))) ∨
    ∃ ids, parseColumns 0 (rows.map Entry.id) = .ok ids ∧
      List.Forall₂ (fun row id => Uuid.parse row.id = .ok id) rows ids := by
  induction rows with
  | nil => exact .inr ⟨[], rfl, .nil⟩
  | cons row rows ih =>
    rw [List.map_cons, parseColumns, parseColumn]
    cases hrow : Uuid.parse row.id with
    | error fault =>
      have hunnamed : row.isUnnamed = true := Entry.isUnnamed_iff.2 ⟨fault, hrow⟩
      exact .inl ⟨row, fault, List.find?_cons_of_pos hunnamed, hrow, rfl⟩
    | ok id =>
      have hnamed : ¬ row.isUnnamed = true := by
        rw [Bool.not_eq_true]
        exact Entry.isUnnamed_eq_false.2 ⟨id, hrow⟩
      rcases ih with ⟨bad, fault, hfirst, hwhy, hids⟩ | ⟨ids, hids, hread⟩
      · rw [hids]
        exact .inl ⟨bad, fault, by rw [List.find?_cons_of_neg hnamed, hfirst], hwhy, rfl⟩
      · rw [hids]
        exact .inr ⟨id :: ids, rfl, .cons hrow hread⟩

/-- The plans of rows with identifiers are read up to the first row that stands for none. -/
theorem PlanRecord.ofEntries_cases {ids : List Uuid}
    (hids : List.Forall₂ (fun row id => Uuid.parse row.id = .ok id) rows ids) :
    (∃ row error, rows.find? Entry.isSpoiled = some row ∧
      Entity.ofStored .plans row.tag row.body = .error error ∧
        ofEntries (ids.zip rows) = .error error) ∨
    ∃ records, ofEntries (ids.zip rows) = .ok records ∧ ReadAs rows records := by
  induction hids with
  | nil => exact .inr ⟨[], rfl, rfl⟩
  | @cons row id rows ids hid _ ih =>
    rw [List.zip_cons_cons, ofEntries]
    cases hplan : Entity.ofStored .plans row.tag row.body with
    | error error =>
      have hspoiled : row.isSpoiled = true := by
        rw [Entry.isSpoiled, hplan]
        rfl
      exact .inl ⟨row, error, List.find?_cons_of_pos hspoiled, hplan, rfl⟩
    | ok plan =>
      have hwhole : ¬ row.isSpoiled = true := by
        rw [Entry.isSpoiled, hplan]
        exact Bool.false_ne_true
      rcases ih with ⟨bad, error, hfirst, hwhy, hrest⟩ | ⟨records, hrest, hread⟩
      · simp only [hrest]
        exact .inl ⟨bad, error, by rw [List.find?_cons_of_neg hwhole, hfirst], hwhy, rfl⟩
      · simp only [hrest]
        refine .inr ⟨⟨id, plan⟩ :: records, rfl, ?_⟩
        rw [ReadAs, List.map_cons, List.map_cons, hread, PlanRecord.ofEntry?, hid, hplan]

/-- Reading one row more than a page holds tells what the page is. -/
theorem PlanPage.reading_ofRows (rows : List Entry) (size : Nat) :
    PageReading rows size (PlanPage.ofRows size (rows.take (size + 1))) := by
  rw [ofRows]
  rcases Statement.parseColumns_cases (rows.take (size + 1)) with
    ⟨row, fault, hfirst, hwhy, hids⟩ | ⟨ids, hids, hread⟩
  · rw [hids]
    exact .unnamed hfirst hwhy
  · have hnamed : ∀ row ∈ rows.take (size + 1), row.isUnnamed = false := by
      intro row hrow
      obtain ⟨i, hi, rfl⟩ := List.mem_iff_getElem.1 hrow
      have hi' : i < ids.length := by
        rw [← hread.length_eq]
        exact hi
      exact Entry.isUnnamed_eq_false.2 ⟨ids[i], hread.get hi hi'⟩
    have hkept : List.Forall₂ (fun row id => Uuid.parse row.id = .ok id) (rows.take size)
        (ids.take size) := by
      have htake := List.forall₂_take size hread
      rw [List.take_take, Nat.min_eq_left (Nat.le_succ size)] at htake
      exact htake
    have hzip : (ids.zip (rows.take (size + 1))).take size =
        (ids.take size).zip (rows.take size) := by
      rw [List.zip_eq_zipWith, List.take_zipWith, List.take_take,
        Nat.min_eq_left (Nat.le_succ size)]
      rfl
    have hmore : size < (rows.take (size + 1)).length ↔ size < rows.length := by
      rw [List.length_take]
      omega
    rw [hids]
    simp only [hzip, hmore]
    rcases PlanRecord.ofEntries_cases hkept with ⟨row, error, hfirst, hwhy, hplans⟩ |
      ⟨records, hplans, hrecords⟩
    · rw [hplans]
      exact .spoiled hnamed hfirst hwhy
    · rw [hplans]
      exact .page hnamed hrecords

theorem Entity.ofStored_ne_storage {table : Table} {tag body : String} {fault : StorageFault} :
    ofStored table tag body ≠ .error (.storage fault) := by
  rw [ofStored]
  cases table.kind? tag with
  | none => simp
  | some kind =>
    simp only
    cases kind.bodyDecoder.decode (Utf8.ofText body) <;> simp

namespace PageReading

/-- The storage is to blame just when a row that is looked at has no identifier. -/
theorem storage_iff (h : PageReading rows size result) :
    (∃ fault, result = .error (.storage fault)) ↔
      ∃ row ∈ rows.take (size + 1), row.isUnnamed = true := by
  have hnone : (∀ row ∈ rows.take (size + 1), row.isUnnamed = false) →
      ¬ ∃ row ∈ rows.take (size + 1), row.isUnnamed = true := by
    rintro named ⟨row, hrow, hunnamed⟩
    rw [named row hrow] at hunnamed
    cases hunnamed
  cases h with
  | @unnamed row fault first why =>
    exact iff_of_true ⟨_, rfl⟩ ⟨row, List.mem_of_find?_eq_some first, List.find?_some first⟩
  | spoiled named first why =>
    refine iff_of_false ?_ (hnone named)
    rintro ⟨fault, hfault⟩
    cases hfault
    exact Entity.ofStored_ne_storage why
  | page named read =>
    refine iff_of_false ?_ (hnone named)
    rintro ⟨fault, hfault⟩
    cases hfault

/-- A page that is not the last has a plan to resume after. -/
theorem next?_isSome (hsize : 0 < size) (h : PageReading rows size result) :
    ∀ page, result = .ok page → (page.next?.isSome = true ↔ page.hasMore = true) := by
  rintro page rfl
  cases h with
  | @page records named read =>
    rw [PlanPage.next?]
    by_cases hmore : size < rows.length
    · have hlen := read.length_eq
      rw [List.length_take, Nat.min_eq_left (Nat.le_of_lt hmore)] at hlen
      have hne : records ≠ [] := by
        rintro rfl
        rw [List.length_nil] at hlen
        omega
      simp [hmore, List.getLast?_eq_some_getLast hne]
    · simp [hmore]

end PageReading

/-- One page of plans is the reference page whatever the tables hold, and listing changes none of
them. That no two plans have one id text is what the key of their table says. -/
theorem Statement.listPlans_reference (hd : (s.ids .plans).Nodup) (filter : PlanFilter)
    (after : Option Uuid) (size : Nat) :
    ∃ result, (Statement.listPlans filter after size).run.run s = (result, s) ∧
      s.ReferencePage filter after size result := by
  let query := PlanQuery.page filter after (clampPageSize size)
  have hrows : query.rows s = (s.matching filter after).take (clampPageSize size + 1) := by
    rw [PlanQuery.rows_eq_take, PlanQuery.sorted_eq hd]
    rfl
  have hread := PlanPage.reading_ofRows (s.matching filter after) (clampPageSize size)
  rw [← hrows] at hread
  refine ⟨_, Statement.listPlans_eq filter after size s, ?_⟩
  exact {
    reading := hread
    storage := hread.storage_iff
    resumes := hread.next?_isSome (clampPageSize_pos size)
    ascending := List.pairwise_map.2 (Store.matching_pairwise hd)
    spelled := PlanQuery.text_select query
    evaluated := by rw [← hrows]; exact PlanQuery.rows_select hd query }

/-- The row behind a page of one has no identifier: the storage is to blame, though the plan of the
page cannot be read either. -/
theorem Statement.listPlans_of_unnamed_row :
    let source := Uuid.ofNat 1
    let plan := Uuid.ofNat 3
    let s : Store := ⟨[], [],
      [⟨"unnamed", "direct", "spoiled", 1⟩, ⟨plan.text, "direct", "spoiled", 1⟩],
      [⟨plan.text, source.text⟩, ⟨plan.text, source.text⟩, ⟨"unnamed", source.text⟩], []⟩
    (s.ids .plans).Nodup ∧
      ∃ fault, (Statement.listPlans ⟨some source, none⟩ none 1).run.run s =
        (.error (.storage fault), s) := by
  intro source plan s
  have hd : (s.ids .plans).Nodup := by decide +kernel
  obtain ⟨result, hrun, hpage⟩ := Statement.listPlans_reference hd ⟨some source, none⟩ none 1
  have hshort : (s.matching ⟨some source, none⟩ none).length ≤ clampPageSize 1 + 1 := by
    rw [Store.matching, List.length_mergeSort]
    exact List.length_filter_le _ _
  have hmem : ⟨"unnamed", "direct", "spoiled", 1⟩ ∈ s.matching ⟨some source, none⟩ none :=
    Store.mem_matching.2 ⟨List.mem_cons_self, by decide +kernel⟩
  rw [← List.take_of_length_le hshort] at hmem
  obtain ⟨fault, rfl⟩ := hpage.storage.2 ⟨_, hmem, by decide +kernel⟩
  exact ⟨hd, fault, hrun⟩

end MovieCatalog
