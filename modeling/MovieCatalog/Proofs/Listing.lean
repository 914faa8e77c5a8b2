import MovieCatalog.Proofs.PageToken
import MovieCatalog.Proofs.Soundness

/-! Pages of plans. The query passes through links, in the order of id texts; on sound tables a page
holds the first of the plans whose bodies name what is wanted, in the order of identifiers. -/
namespace MovieCatalog

/-- The plan of a row with its identifier. -/
def PlanRecord.ofEntry? (row : Entry) : Option PlanRecord :=
  match Uuid.parse row.id, Entity.ofStored .plans row.tag row.body with
  | .ok id, .ok plan => some ⟨id, plan⟩
  | _, _ => none

/-- Whether the source and the work of a plan are those that a filter names. -/
def PlanFilter.admits (filter : PlanFilter) (plan : Entity) : Bool :=
  match plan.ends? with
  | none => false
  | some ends => filter.source.all (· == ends.source) && filter.work.all (· == ends.work)

/-- The plans whose bodies name what a filter wants, in the order of their rows. -/
def Store.wanted (s : Store) (filter : PlanFilter) : List PlanRecord :=
  (s.plans.filterMap PlanRecord.ofEntry?).filter fun record => filter.admits record.plan

/-- Records in strictly ascending order of their identifiers. -/
def Ascending (records : List PlanRecord) : Prop := records.Pairwise fun a b => a.id < b.id

/-- The wanted plans after an identifier, in order. -/
structure Store.Lists (s : Store) (filter : PlanFilter) (after : Option Uuid)
    (records : List PlanRecord) : Prop where
  ascending : Ascending records
  mem_iff : ∀ record, record ∈ records ↔
    record ∈ s.wanted filter ∧ ∀ last ∈ after, last < record.id

variable {s : Store} {filter : PlanFilter} {after : Option Uuid} {query : PlanQuery}
  {records records' : List PlanRecord} {record : PlanRecord} {row : Entry} {rows : List Entry}
  {links : List Link} {plan : String} {id : Uuid}

theorem Uuid.lt_irrefl (id : Uuid) : ¬ id < id := List.lt_irrefl id.bytes

theorem Uuid.lt_trans {a b c : Uuid} (hab : a < b) (hbc : b < c) : a < c :=
  List.lt_trans hab hbc

theorem Ascending.nodup (h : Ascending records) : records.Nodup := by
  refine List.Pairwise.imp ?_ h
  rintro a b hab rfl
  exact Uuid.lt_irrefl a.id hab

theorem Ascending.eq_of_mem_iff (h : Ascending records) (h' : Ascending records')
    (hm : ∀ record, record ∈ records ↔ record ∈ records') : records = records' := by
  have hp := (List.perm_ext_iff_of_nodup h.nodup h'.nodup).2 hm
  refine List.Perm.eq_of_pairwise ?_ h h' hp
  intro a b _ _ hab hba
  exact absurd (Uuid.lt_trans hab hba) (Uuid.lt_irrefl a.id)

theorem Store.Lists.unique (h : s.Lists filter after records) (h' : s.Lists filter after records') :
    records = records' :=
  h.ascending.eq_of_mem_iff h'.ascending fun record => by rw [h.mem_iff, h'.mem_iff]

theorem nodup_eraseDups {α : Type} [BEq α] [LawfulBEq α] (l : List α) : l.eraseDups.Nodup := by
  induction hn : l.length using Nat.strongRecOn generalizing l
  rename_i n ih
  cases l with
  | nil => exact List.nodup_nil
  | cons a l =>
    have hshorter : (l.filter fun b => !b == a).length < n := by
      rw [← hn, List.length_cons]
      exact Nat.lt_succ_of_le (List.length_filter_le _ l)
    have hout : a ∉ l.filter fun b => !b == a := by simp
    rw [List.eraseDups_cons]
    exact List.nodup_cons.2 ⟨fun hm => hout (List.mem_eraseDups.1 hm), ih _ hshorter _ rfl⟩

/-- Sorting values that differ in their keys makes the keys ascend strictly. -/
theorem mergeSort_pairwise_lt {α : Type} (key : α → String) {l : List α} (hne : l.Nodup)
    (hkey : ∀ a ∈ l, ∀ b ∈ l, key a = key b → a = b) :
    (l.mergeSort fun a b => decide (key a ≤ key b)).Pairwise fun a b => key a < key b := by
  have hle : (l.mergeSort fun a b => decide (key a ≤ key b)).Pairwise
      fun a b => decide (key a ≤ key b) = true := by
    refine List.pairwise_mergeSort ?_ ?_ _
    · intro a b c hab hbc
      rw [decide_eq_true_eq] at hab hbc ⊢
      exact String.le_trans hab hbc
    · intro a b
      rw [Bool.or_eq_true, decide_eq_true_eq, decide_eq_true_eq]
      exact String.le_total (key a) (key b)
  have hnodup := (List.mergeSort_perm l fun a b => decide (key a ≤ key b)).nodup_iff.2 hne
  refine List.Pairwise.imp_of_mem ?_ (hle.and hnodup)
  rintro a b ha hb ⟨hab, hdiff⟩
  refine Decidable.not_not.1 fun hlt => hdiff ?_
  exact hkey a (List.mem_mergeSort.1 ha) b (List.mem_mergeSort.1 hb)
    (String.le_antisymm (of_decide_eq_true hab) hlt)

namespace PlanQuery

/-- The rows of a query without its limit. -/
def sorted (query : PlanQuery) (s : Store) : List Entry :=
  (((query.joined s).filter fun row => query.isAfter row.id).eraseDups).mergeSort
    fun a b => decide (a.id ≤ b.id)

theorem rows_eq_take (query : PlanQuery) (s : Store) :
    query.rows s = (query.sorted s).take query.limit := rfl

theorem mem_joined : row ∈ query.joined s ↔ row ∈ s.plans ∧
    ways s.inputs row.id query.filter.source ≠ [] ∧
      ways s.outputs row.id query.filter.work ≠ [] := by
  simp only [joined, List.mem_flatMap, List.mem_map]
  constructor
  · rintro ⟨row', hrow, _, hin, _, hout, rfl⟩
    exact ⟨hrow, List.ne_nil_of_mem hin, List.ne_nil_of_mem hout⟩
  · rintro ⟨hrow, hin, hout⟩
    obtain ⟨a, ha⟩ := List.exists_mem_of_ne_nil _ hin
    obtain ⟨b, hb⟩ := List.exists_mem_of_ne_nil _ hout
    exact ⟨row, hrow, a, ha, b, hb, rfl⟩

theorem mem_sorted : row ∈ query.sorted s ↔ (row ∈ s.plans ∧
    ways s.inputs row.id query.filter.source ≠ [] ∧
      ways s.outputs row.id query.filter.work ≠ []) ∧ query.isAfter row.id = true := by
  rw [sorted, List.mem_mergeSort, List.mem_eraseDups, List.mem_filter, mem_joined]

/-- A plan passes one side when it has a link there to what is wanted. -/
theorem ways_ne_nil_iff {wanted : Option Uuid} :
    ways links plan wanted ≠ [] ↔ ∀ target ∈ wanted, (⟨plan, target.text⟩ : Link) ∈ links := by
  cases wanted with
  | none => simp [ways]
  | some target =>
    simp only [ways, ne_eq, List.map_eq_nil_iff, List.filter_eq_nil_iff, Bool.and_eq_true,
      beq_iff_eq, Option.mem_def, Option.some.injEq, forall_eq', not_forall, Decidable.not_not]
    constructor
    · rintro ⟨link, hlink, rfl, htarget⟩
      rw [← htarget]
      exact hlink
    · intro hlink
      exact ⟨_, hlink, rfl, rfl⟩

/-- A plan with one link on a side passes there when the link leads to what is wanted. -/
theorem ways_ne_nil (h : (links.filter fun link => link.plan == plan) = [⟨plan, id.text⟩])
    (wanted : Option Uuid) : ways links plan wanted ≠ [] ↔ wanted.all (· == id) = true := by
  have hlink : ∀ target : Uuid, (⟨plan, target.text⟩ : Link) ∈ links ↔ target = id := by
    intro target
    have hmem : (⟨plan, target.text⟩ : Link) ∈ links ↔
        (⟨plan, target.text⟩ : Link) ∈ links.filter fun link => link.plan == plan := by
      simp [List.mem_filter]
    rw [hmem, h, List.mem_singleton, Link.mk.injEq, eq_self, true_and]
    exact ⟨fun ht => Uuid.text_injective ht, fun ht => by rw [ht]⟩
  rw [ways_ne_nil_iff]
  simp only [hlink, Option.all_eq_true, beq_iff_eq, Option.mem_def]

theorem sorted_pairwise (hd : (s.ids .plans).Nodup) (query : PlanQuery) :
    (query.sorted s).Pairwise fun a b => a.id < b.id := by
  refine mergeSort_pairwise_lt Entry.id (nodup_eraseDups _) ?_
  intro a ha b hb
  have hplan : ∀ row ∈ ((query.joined s).filter fun row => query.isAfter row.id).eraseDups,
      row ∈ s.entries .plans := fun row hrow =>
    (mem_joined.1 (List.mem_filter.1 (List.mem_eraseDups.1 hrow)).1).1
  exact Store.eq_of_id_eq hd (hplan a ha) (hplan b hb)

end PlanQuery

/-- A row of sound tables reads as a plan; what the plan passes through its links is what its body
names. -/
theorem Store.Sound.ofEntry? (h : s.Sound) (hrow : row ∈ s.plans) : ∃ record,
    PlanRecord.ofEntry? row = some record ∧ row.id = record.id.text ∧ ∀ filter : PlanFilter,
      filter.admits record.plan = true ↔ PlanQuery.ways s.inputs row.id filter.source ≠ [] ∧
        PlanQuery.ways s.outputs row.id filter.work ≠ [] := by
  have hmem : row ∈ s.entries .plans := hrow
  obtain ⟨id, plan, hid, -, hholds, hstored⟩ := h.holds_of_mem hmem
  obtain ⟨ends, hends⟩ := Entity.ends_of_table hholds.1
  have hl := h.linked id plan ends hholds hends
  refine ⟨⟨id, plan⟩, ?_, hid, ?_⟩
  · rw [PlanRecord.ofEntry?, hid, Uuid.parse_text, hstored]
  · intro filter
    have hin : PlanQuery.ways s.inputs id.text filter.source ≠ [] ↔
        filter.source.all (· == ends.source) = true := PlanQuery.ways_ne_nil (hl .input).1 _
    have hout : PlanQuery.ways s.outputs id.text filter.work ≠ [] ↔
        filter.work.all (· == ends.work) = true := PlanQuery.ways_ne_nil (hl .output).1 _
    rw [hid, hin, hout, PlanFilter.admits, hends, Bool.and_eq_true]

theorem mem_wanted : record ∈ s.wanted filter ↔
    (∃ row ∈ s.plans, PlanRecord.ofEntry? row = some record) ∧
      filter.admits record.plan = true := by
  rw [Store.wanted, List.mem_filter, List.mem_filterMap]

theorem isAfter_iff (h : row.id = id.text) :
    query.isAfter row.id = true ↔ ∀ last ∈ query.after, last < id := by
  rw [PlanQuery.isAfter, h]
  cases query.after with
  | none => simp
  | some last =>
    simp only [decide_eq_true_eq, Option.mem_def, Option.some.injEq, forall_eq']
    exact Uuid.text_lt_text

/-- The rows of a query are those of the wanted plans. -/
theorem exists_mem_sorted (h : s.Sound) :
    (∃ row ∈ query.sorted s, PlanRecord.ofEntry? row = some record) ↔
      record ∈ s.wanted query.filter ∧ ∀ last ∈ query.after, last < record.id := by
  have hread : ∀ row ∈ s.plans, PlanRecord.ofEntry? row = some record →
      (row ∈ query.sorted s ↔ query.filter.admits record.plan = true ∧
        ∀ last ∈ query.after, last < record.id) := by
    intro row hrow hrecord
    obtain ⟨record', hrecord', hid, hadmits⟩ := h.ofEntry? hrow
    rw [hrecord] at hrecord'
    cases hrecord'
    rw [PlanQuery.mem_sorted, hadmits, isAfter_iff hid]
    exact ⟨fun hs => ⟨hs.1.2, hs.2⟩, fun hs => ⟨⟨hrow, hs.1⟩, hs.2⟩⟩
  rw [mem_wanted]
  constructor
  · rintro ⟨row, hsorted, hrecord⟩
    have hrow := (PlanQuery.mem_sorted.1 hsorted).1.1
    obtain ⟨hadmits, hafter⟩ := (hread row hrow hrecord).1 hsorted
    exact ⟨⟨⟨row, hrow, hrecord⟩, hadmits⟩, hafter⟩
  · rintro ⟨⟨⟨row, hrow, hrecord⟩, hadmits⟩, hafter⟩
    exact ⟨row, (hread row hrow hrecord).2 ⟨hadmits, hafter⟩, hrecord⟩

/-- The records of rows, one for each. -/
def ReadAs (rows : List Entry) (records : List PlanRecord) : Prop :=
  rows.map PlanRecord.ofEntry? = records.map some

namespace ReadAs

theorem exists_of_forall (h : ∀ row ∈ rows, ∃ record, PlanRecord.ofEntry? row = some record) :
    ∃ records, ReadAs rows records := by
  induction rows with
  | nil => exact ⟨[], rfl⟩
  | cons row rows ih =>
    obtain ⟨record, hrecord⟩ := h row List.mem_cons_self
    obtain ⟨records, hrecords⟩ := ih fun row hrow => h row (List.mem_cons_of_mem _ hrow)
    refine ⟨record :: records, ?_⟩
    rw [ReadAs, List.map_cons, List.map_cons, hrecord, hrecords]

theorem length_eq (h : ReadAs rows records) : rows.length = records.length := by
  have hl := congrArg List.length h
  rw [List.length_map, List.length_map] at hl
  exact hl

theorem take (h : ReadAs rows records) (n : Nat) : ReadAs (rows.take n) (records.take n) := by
  rw [ReadAs, List.map_take, h, List.map_take]

theorem mem_iff (h : ReadAs rows records) :
    record ∈ records ↔ ∃ row ∈ rows, PlanRecord.ofEntry? row = some record := by
  have hm : some record ∈ records.map some ↔ some record ∈ rows.map PlanRecord.ofEntry? := by
    rw [h]
  simpa using hm

theorem cons (h : ReadAs (row :: rows) records) : ∃ record rest,
    records = record :: rest ∧ PlanRecord.ofEntry? row = some record ∧ ReadAs rows rest := by
  cases records with
  | nil => cases h
  | cons record rest =>
    obtain ⟨hrecord, hrest⟩ := List.cons.inj h
    exact ⟨record, rest, rfl, hrecord, hrest⟩

theorem parseColumns (h : ReadAs rows records) :
    Statement.parseColumns 0 (rows.map Entry.id) = .ok (records.map PlanRecord.id) := by
  induction rows generalizing records with
  | nil =>
    cases records with
    | nil => rfl
    | cons record records => cases h
  | cons row rows ih =>
    obtain ⟨record, rest, rfl, hrecord, hrest⟩ := h.cons
    rw [PlanRecord.ofEntry?] at hrecord
    split at hrecord
    · rename_i id plan hid hplan
      cases hrecord
      rw [List.map_cons, Statement.parseColumns, ih hrest, Statement.parseColumn, hid]
      rfl
    · cases hrecord

theorem ofEntries (h : ReadAs rows records) :
    PlanRecord.ofEntries ((records.map PlanRecord.id).zip rows) = .ok records := by
  induction rows generalizing records with
  | nil =>
    cases records with
    | nil => rfl
    | cons record records => cases h
  | cons row rows ih =>
    obtain ⟨record, rest, rfl, hrecord, hrest⟩ := h.cons
    rw [PlanRecord.ofEntry?] at hrecord
    split at hrecord
    · rename_i id plan hid hplan
      cases hrecord
      rw [List.map_cons, List.zip_cons_cons, PlanRecord.ofEntries, hplan, ih hrest]
    · cases hrecord

/-- Rows in the order of id texts are records in the order of identifiers. -/
theorem ascending (h : ReadAs rows records) (hs : s.Sound) (hrows : ∀ row ∈ rows, row ∈ s.plans)
    (hp : rows.Pairwise fun a b => a.id < b.id) : Ascending records := by
  have hids : records.map (fun record => record.id.text) = rows.map Entry.id := by
    induction rows generalizing records with
    | nil =>
      cases records with
      | nil => rfl
      | cons record records => cases h
    | cons row rows ih =>
      obtain ⟨record, rest, rfl, hrecord, hrest⟩ := h.cons
      obtain ⟨record', hrecord', hid, -⟩ := hs.ofEntry? (hrows row List.mem_cons_self)
      rw [hrecord] at hrecord'
      cases hrecord'
      have hmore : ∀ row ∈ rows, row ∈ s.plans :=
        fun row hrow => hrows row (List.mem_cons_of_mem _ hrow)
      rw [List.map_cons, List.map_cons, hid, ih hrest hmore (List.pairwise_cons.1 hp).2]
  have hpairs : (rows.map Entry.id).Pairwise (· < ·) := List.pairwise_map.2 hp
  rw [← hids, List.pairwise_map] at hpairs
  exact hpairs.imp fun hab => Uuid.text_lt_text.1 hab

end ReadAs

/-- Without a condition every plan is wanted. -/
theorem Store.Sound.length_wanted (h : s.Sound) :
    (s.wanted ⟨none, none⟩).length = s.plans.length := by
  obtain ⟨records, hread⟩ := ReadAs.exists_of_forall fun row hrow => by
    obtain ⟨record, hrecord, -⟩ := h.ofEntry? hrow
    exact ⟨record, hrecord⟩
  have hrecords : s.plans.filterMap PlanRecord.ofEntry? = records := by
    have hmap : s.plans.filterMap PlanRecord.ofEntry? =
        (s.plans.map PlanRecord.ofEntry?).filterMap id := by
      rw [List.filterMap_map]
      rfl
    rw [hmap, hread, List.filterMap_map]
    exact List.filterMap_some
  have hall : ∀ record ∈ records, (⟨none, none⟩ : PlanFilter).admits record.plan = true := by
    intro record hr
    obtain ⟨row, hrow, hrecord⟩ := hread.mem_iff.1 hr
    obtain ⟨_, hrecord', -, hadmits⟩ := h.ofEntry? hrow
    rw [hrecord] at hrecord'
    cases hrecord'
    exact (hadmits ⟨none, none⟩).2 ⟨List.cons_ne_nil _ _, List.cons_ne_nil _ _⟩
  rw [Store.wanted, hrecords, List.filter_eq_self.2 hall, hread.length_eq]

/-- The page with the first of all records that are listed. -/
def PlanPage.first (records : List PlanRecord) (size : Nat) : PlanPage :=
  ⟨records.take size, decide (size < records.length),
    (records.take size).getLast?.map PlanRecord.id⟩

theorem PlanPage.ofRows_take (h : ReadAs rows records) (size : Nat) :
    PlanPage.ofRows size (rows.take (size + 1)) = .ok (PlanPage.first records size) := by
  have hread := h.take (size + 1)
  have hzip : (((records.take (size + 1)).map PlanRecord.id).zip (rows.take (size + 1))).take size =
      ((records.take size).map PlanRecord.id).zip (rows.take size) := by
    rw [List.zip_eq_zipWith, List.take_zipWith, ← List.map_take, List.take_take, List.take_take,
      Nat.min_eq_left (Nat.le_succ size)]
    rfl
  have hmore : size < (rows.take (size + 1)).length ↔ size < records.length := by
    rw [List.length_take, h.length_eq]
    omega
  rw [PlanPage.ofRows, hread.parseColumns]
  simp only
  rw [hzip, (h.take size).ofEntries, PlanPage.first]
  simp only [hmore]

theorem Statement.listPlans_eq (filter : PlanFilter) (after : Option Uuid) (size : Nat)
    (s : Store) : (Statement.listPlans filter after size).run.run s =
      (PlanPage.ofRows (clampPageSize size)
        ((PlanQuery.page filter after (clampPageSize size)).rows s), s) :=
  Statement.ofExcept_run _ s

/-- On sound tables every page can be read: it holds the first of the wanted plans. -/
theorem Store.Sound.exists_lists (h : s.Sound) (filter : PlanFilter) (after : Option Uuid) :
    ∃ records, s.Lists filter after records ∧ ∀ size,
      (Statement.listPlans filter after size).run.run s =
        (.ok (PlanPage.first records (clampPageSize size)), s) := by
  have hrows : ∀ row ∈ (PlanQuery.page filter after 0).sorted s, row ∈ s.plans :=
    fun row hrow => (PlanQuery.mem_sorted.1 hrow).1.1
  obtain ⟨records, hread⟩ := ReadAs.exists_of_forall fun row hrow => by
    obtain ⟨record, hrecord, -⟩ := h.ofEntry? (hrows row hrow)
    exact ⟨record, hrecord⟩
  have hsorted := PlanQuery.sorted_pairwise (h.distinct .plans) (PlanQuery.page filter after 0)
  refine ⟨records, ⟨hread.ascending h hrows hsorted, ?_⟩, ?_⟩
  · intro record
    rw [hread.mem_iff]
    exact exists_mem_sorted h
  · intro size
    rw [Statement.listPlans_eq, PlanQuery.rows_eq_take]
    exact congrArg (·, s) (PlanPage.ofRows_take hread (clampPageSize size))

theorem Store.Lists.page (hl : s.Lists filter after records) (h : s.Sound) (size : Nat) :
    (Statement.listPlans filter after size).run.run s =
      (.ok (PlanPage.first records (clampPageSize size)), s) := by
  obtain ⟨records', hl', hpage⟩ := h.exists_lists filter after
  rw [hl.unique hl']
  exact hpage size

theorem nodup_wanted (h : s.Sound) (filter : PlanFilter) : (s.wanted filter).Nodup := by
  refine List.Pairwise.sublist List.filter_sublist ?_
  have hids : s.plans.Pairwise fun a b => a.id ≠ b.id := List.pairwise_map.1 (h.distinct .plans)
  rw [List.pairwise_filterMap]
  refine List.Pairwise.imp_of_mem ?_ hids
  rintro row row' hrow hrow' hne record hr record' hr' rfl
  obtain ⟨_, he, hid, -⟩ := h.ofEntry? hrow
  obtain ⟨_, he', hid', -⟩ := h.ofEntry? hrow'
  rw [hr] at he
  rw [hr'] at he'
  cases he
  cases he'
  exact hne (hid.trans hid'.symm)

theorem Store.Lists.perm (h : s.Lists filter none records) (hs : s.Sound) :
    records.Perm (s.wanted filter) := by
  refine (List.perm_ext_iff_of_nodup h.ascending.nodup (nodup_wanted hs filter)).2 ?_
  intro record
  rw [h.mem_iff]
  simp

section Resuming

variable {last : PlanRecord} {n : Nat}

theorem Ascending.lt_of_mem_drop (h : Ascending records)
    (hlast : (records.take n).getLast? = some last) (hr : record ∈ records.drop n) :
    last.id < record.id := by
  rw [Ascending, ← List.take_append_drop n records, List.pairwise_append] at h
  exact h.2.2 last (List.mem_of_getLast? hlast) record hr

/-- The last record of a page comes after its others. -/
theorem Ascending.lt_of_mem_take (h : Ascending records)
    (hlast : (records.take n).getLast? = some last) (hr : record ∈ records.take n)
    (hlt : last.id < id) : record.id < id := by
  obtain ⟨before, hbefore⟩ := List.getLast?_eq_some_iff.1 hlast
  have htake : Ascending (records.take n) := List.Pairwise.sublist (List.take_sublist n records) h
  rw [Ascending, hbefore, List.pairwise_append] at htake
  rw [hbefore, List.mem_append, List.mem_singleton] at hr
  rcases hr with hr | rfl
  · exact Uuid.lt_trans (htake.2.2 record hr last (List.mem_singleton.2 rfl)) hlt
  · exact hlt

/-- What a page leaves out is what its last record resumes after. -/
theorem Store.Lists.drop (h : s.Lists filter after records)
    (hlast : (records.take n).getLast? = some last) :
    s.Lists filter (some last.id) (records.drop n) := by
  have hsplit : ∀ record, record ∈ records ↔
      record ∈ records.take n ∨ record ∈ records.drop n := by
    intro record
    rw [← List.mem_append, List.take_append_drop]
  have hmem : last ∈ records := (hsplit last).2 (.inl (List.mem_of_getLast? hlast))
  refine ⟨List.Pairwise.sublist (List.drop_sublist n records) h.ascending, ?_⟩
  intro record
  simp only [Option.mem_def, Option.some.injEq, forall_eq']
  constructor
  · intro hr
    exact ⟨((h.mem_iff record).1 ((hsplit record).2 (.inr hr))).1,
      h.ascending.lt_of_mem_drop hlast hr⟩
  · rintro ⟨hwanted, hlt⟩
    have hafter : ∀ a ∈ after, a < record.id := fun a ha =>
      Uuid.lt_trans (((h.mem_iff last).1 hmem).2 a ha) hlt
    rcases (hsplit record).1 ((h.mem_iff record).2 ⟨hwanted, hafter⟩) with hr | hr
    · exact absurd (h.ascending.lt_of_mem_take hlast hr hlt) (Uuid.lt_irrefl record.id)
    · exact hr

/-- Either a page holds all that is left, or it is full and its last record is where to resume. -/
theorem PlanPage.next?_first {size : Nat} (hsize : 0 < size) (records : List PlanRecord) :
    (records.length ≤ size ∧ (PlanPage.first records size).next? = none) ∨
      ∃ last, size < records.length ∧ (records.take size).getLast? = some last ∧
        (PlanPage.first records size).next? = some last.id := by
  by_cases hmore : size < records.length
  · have hne : records.take size ≠ [] := by
      intro hnil
      have hlen := congrArg List.length hnil
      rw [List.length_take, List.length_nil] at hlen
      omega
    have hlast := List.getLast?_eq_some_getLast hne
    refine .inr ⟨_, hmore, hlast, ?_⟩
    rw [PlanPage.next?, PlanPage.first, hlast]
    exact if_pos (decide_eq_true hmore)
  · refine .inl ⟨Nat.le_of_not_lt hmore, ?_⟩
    exact if_neg (by simpa [PlanPage.first] using hmore)

theorem clampPageSize_pos (size : Nat) : 0 < clampPageSize size :=
  Nat.lt_of_lt_of_le Nat.zero_lt_one (Nat.le_max_left _ _)

namespace Catalog

variable {c : Catalog} {token : Option String}

theorem resumePoint_encode (id : Uuid) :
    resumePoint (some (PageToken.encode id)) = .ok (some id) := by
  rw [resumePoint, PageToken.decode?_encode]

/-- Reading a page of a sound catalog never fails. -/
theorem listPlans_run (hp : c.poisoned = false) (h : c.store.Sound)
    (hl : c.store.Lists filter after records) (ht : resumePoint token = .ok after) (size : Nat) :
    (listPlans filter token size).run.run c =
      (.ok ⟨records.take (clampPageSize size),
        (PlanPage.first records (clampPageSize size)).next?.map PageToken.encode⟩, c) := by
  rw [listPlans, ofExcept_bind_run, ht]
  simp only
  rw [bind_run, transact_run hp, hl.page h size]
  rfl

end Catalog

end Resuming

end MovieCatalog
