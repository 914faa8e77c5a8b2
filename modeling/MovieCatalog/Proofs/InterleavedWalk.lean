import MovieCatalog.Proofs.Listing

/-! Page walks over a catalog that changes between the pages. Each page covers the identifiers from
where it resumes to its last plan, and the last page all that follow. -/
namespace MovieCatalog

/-- A page that was read, with the tables at that time. -/
structure PageRead where
  store : Store
  plans : List PlanRecord

/-- Pages read one after another, each with a size of its own and from the token of the one before,
with any calls in between, until a page passes on no token. -/
inductive InterleavedWalk (filter : PlanFilter) :
    Catalog → Option String → List PageRead → Prop where
  | last {c c' : Catalog} {token : Option String} {size : Nat} {listing : PlanListing}
      (read : (Catalog.listPlans filter token size).run.run c = (.ok listing, c'))
      (ended : listing.nextToken = none) :
      InterleavedWalk filter c token [⟨c.store, listing.plans⟩]
  | next {c c' : Catalog} {token : Option String} {size : Nat} {listing : PlanListing}
      {passedOn : String} {calls : List Call} {reads : List PageRead}
      (read : (Catalog.listPlans filter token size).run.run c = (.ok listing, c'))
      (passed : listing.nextToken = some passedOn)
      (rest : InterleavedWalk filter (c'.after calls) (some passedOn) reads) :
      InterleavedWalk filter c token (⟨c.store, listing.plans⟩ :: reads)

/-- The identifiers that pages hold, in the order in which they were read. -/
def readIds (reads : List PageRead) : List Uuid :=
  reads.flatMap fun read => read.plans.map PlanRecord.id

/-- No plan comes twice, every plan was wanted when its page was read, and a plan that was wanted
each time is there. -/
structure WeaklyConsistent (filter : PlanFilter) (reads : List PageRead) : Prop where
  ascending : (readIds reads).Pairwise (· < ·)
  matched : ∀ read ∈ reads, ∀ record ∈ read.plans, record ∈ read.store.wanted filter
  complete : ∀ id, (∀ read ∈ reads, ∃ record ∈ read.store.wanted filter, record.id = id) →
    id ∈ readIds reads

variable {c c' : Catalog} {filter : PlanFilter} {after : Option Uuid} {token : Option String}
  {size : Nat} {listing : PlanListing} {records : List PlanRecord} {last : PlanRecord}
  {read : PageRead} {reads : List PageRead}

/-- What a page holds and where the next one resumes. -/
theorem listPlans_ok (hp : c.poisoned = false) (hs : c.store.Sound)
    (ht : Catalog.resumePoint token = .ok after)
    (hread : (Catalog.listPlans filter token size).run.run c = (.ok listing, c')) :
    c' = c ∧ ∃ records n, c.store.Lists filter after records ∧ listing.plans = records.take n ∧
      (listing.nextToken = none ∧ records.take n = records ∨
        ∃ last, (records.take n).getLast? = some last ∧
          listing.nextToken = some (PageToken.encode last.id)) := by
  obtain ⟨records, hl, -⟩ := hs.exists_lists filter after
  rw [Catalog.listPlans_run hp hs hl ht size] at hread
  cases hread
  refine ⟨rfl, records, clampPageSize size, hl, rfl, ?_⟩
  rcases PlanPage.next?_first (clampPageSize_pos size) records with
    ⟨hlen, hnext⟩ | ⟨last, -, hlast, hnext⟩
  · refine .inl ⟨?_, List.take_of_length_le hlen⟩
    rw [hnext]
    rfl
  · refine .inr ⟨last, hlast, ?_⟩
    rw [hnext]
    rfl

/-- Pages that are consistent beyond an identifier. -/
structure ConsistentBeyond (filter : PlanFilter) (after : Option Uuid) (reads : List PageRead) :
    Prop where
  beyond : ∀ id ∈ readIds reads, ∀ a ∈ after, a < id
  ascending : (readIds reads).Pairwise (· < ·)
  matched : ∀ read ∈ reads, ∀ record ∈ read.plans, record ∈ read.store.wanted filter
  complete : ∀ id, (∀ a ∈ after, a < id) →
    (∀ read ∈ reads, ∃ record ∈ read.store.wanted filter, record.id = id) → id ∈ readIds reads

namespace ConsistentBeyond

theorem single (h : read.store.Lists filter after read.plans) :
    ConsistentBeyond filter after [read] := by
  have hids : readIds [read] = read.plans.map PlanRecord.id := List.flatMap_singleton _ _
  refine ⟨?_, ?_, ?_, ?_⟩
  · intro id hid
    rw [hids] at hid
    obtain ⟨record, hrecord, rfl⟩ := List.mem_map.1 hid
    exact ((h.mem_iff record).1 hrecord).2
  · rw [hids]
    exact List.pairwise_map.2 h.ascending
  · intro read' hread record hrecord
    rw [List.mem_singleton.1 hread] at hrecord ⊢
    exact ((h.mem_iff record).1 hrecord).1
  · intro id hafter hall
    obtain ⟨record, hwanted, rfl⟩ := hall read (List.mem_singleton.2 rfl)
    rw [hids]
    exact List.mem_map_of_mem ((h.mem_iff record).2 ⟨hwanted, hafter⟩)

/-- A page in front covers the identifiers up to its last plan. -/
theorem cons {n : Nat} (hl : read.store.Lists filter after records)
    (hplans : read.plans = records.take n) (hlast : (records.take n).getLast? = some last)
    (h : ConsistentBeyond filter (some last.id) reads) :
    ConsistentBeyond filter after (read :: reads) := by
  have hmem : ∀ record ∈ records.take n, record ∈ records := fun record hr =>
    List.mem_of_mem_take hr
  have hids : readIds (read :: reads) = (records.take n).map PlanRecord.id ++ readIds reads := by
    rw [readIds, List.flatMap_cons, hplans, readIds]
  have hlastmem : last ∈ records.take n := List.mem_of_getLast? hlast
  have hrest : ∀ id ∈ readIds reads, last.id < id := fun id hid => h.beyond id hid last.id rfl
  refine ⟨?_, ?_, ?_, ?_⟩
  · intro id hid a ha
    rw [hids, List.mem_append] at hid
    rcases hid with hid | hid
    · obtain ⟨record, hrecord, rfl⟩ := List.mem_map.1 hid
      exact ((hl.mem_iff record).1 (hmem record hrecord)).2 a ha
    · have hstart := ((hl.mem_iff last).1 (hmem last hlastmem)).2 a ha
      exact Uuid.lt_trans hstart (hrest id hid)
  · rw [hids, List.pairwise_append]
    have htake : Ascending (records.take n) :=
      List.Pairwise.sublist (List.take_sublist n records) hl.ascending
    refine ⟨List.pairwise_map.2 htake, h.ascending, ?_⟩
    intro id hid id' hid'
    obtain ⟨record, hrecord, rfl⟩ := List.mem_map.1 hid
    exact hl.ascending.lt_of_mem_take hlast hrecord (hrest id' hid')
  · intro read' hread record hrecord
    rcases List.mem_cons.1 hread with rfl | hread
    · rw [hplans] at hrecord
      exact ((hl.mem_iff record).1 (hmem record hrecord)).1
    · exact h.matched read' hread record hrecord
  · intro id hafter hall
    rw [hids, List.mem_append]
    by_cases hlt : last.id < id
    · right
      refine h.complete id ?_ fun read' hread => hall read' (List.mem_cons_of_mem _ hread)
      rintro a ⟨⟩
      exact hlt
    · left
      obtain ⟨record, hwanted, rfl⟩ := hall read List.mem_cons_self
      have hrecord := (hl.mem_iff record).2 ⟨hwanted, hafter⟩
      rw [← List.take_append_drop n records, List.mem_append] at hrecord
      rcases hrecord with hr | hr
      · exact List.mem_map_of_mem hr
      · exact absurd (hl.ascending.lt_of_mem_drop hlast hr) hlt

end ConsistentBeyond

/-- The walk from a token covers what lies beyond the identifier in it. -/
theorem InterleavedWalk.consistentBeyond (h : InterleavedWalk filter c token reads)
    (hp : c.poisoned = false) (hs : c.store.Sound) (ht : Catalog.resumePoint token = .ok after) :
    ConsistentBeyond filter after reads := by
  induction h generalizing after with
  | last read ended =>
    obtain ⟨rfl, records, n, hl, hplans, ⟨-, hall⟩ | ⟨last, -, hnext⟩⟩ := listPlans_ok hp hs ht read
    · apply ConsistentBeyond.single
      rw [hplans, hall]
      exact hl
    · rw [ended] at hnext
      cases hnext
  | @next c c' token size listing passedOn calls reads read passed rest ih =>
    obtain ⟨rfl, records, n, hl, hplans, ⟨hnext, -⟩ | ⟨last, hlast, hnext⟩⟩ :=
      listPlans_ok hp hs ht read
    · rw [passed] at hnext
      cases hnext
    · rw [passed] at hnext
      cases hnext
      have hafter := Catalog.sound_after_of_sound hp hs calls
      exact .cons hl hplans hlast
        (ih (Catalog.poisoned_after hp calls) hafter (Catalog.resumePoint_encode last.id))

namespace Catalog

/-- A walk whose pages calls come between is weakly consistent. -/
theorem interleaved_walk_weaklyConsistent (calls : List Call)
    (h : InterleavedWalk filter (new.after calls) none reads) : WeaklyConsistent filter reads := by
  have hp : (new.after calls).poisoned = false := poisoned_after rfl calls
  have hbeyond := h.consistentBeyond hp (sound_after calls) (rfl : resumePoint none = .ok none)
  refine ⟨hbeyond.ascending, hbeyond.matched, ?_⟩
  intro id hall
  refine hbeyond.complete id ?_ hall
  intro a ha
  cases ha

/-- A page with one of two plans, a third plan, and a page with all that are left. -/
theorem interleaved_walk_of_two_pages :
    let c := new.after [.put (.ofNat 1) (.file "a"), .put (.ofNat 2) (.edition "b"),
      .put (.ofNat 4) (.direct ⟨.ofNat 1, .ofNat 2⟩),
      .put (.ofNat 3) (.direct ⟨.ofNat 1, .ofNat 2⟩)]
    ∃ reads, reads.length = 2 ∧ InterleavedWalk ⟨none, none⟩ c none reads ∧
      WeaklyConsistent ⟨none, none⟩ reads := by
  intro c
  have hp : c.poisoned = false := poisoned_after rfl _
  have hs : c.store.Sound := sound_after _
  have hplans : c.store.plans.length = 2 := by decide +kernel
  obtain ⟨records, hl, -⟩ := hs.exists_lists ⟨none, none⟩ none
  rcases PlanPage.next?_first (clampPageSize_pos 1) records with
    ⟨hlen, -⟩ | ⟨last, hlen, hlast, hnext⟩
  · rw [(hl.perm hs).length_eq, hs.length_wanted, hplans] at hlen
    exact absurd hlen (by decide)
  let calls : List Call := [.put (.ofNat 5) (.direct ⟨.ofNat 1, .ofNat 2⟩)]
  have hp' : (c.after calls).poisoned = false := poisoned_after hp calls
  have hs' : (c.after calls).store.Sound := sound_after_of_sound hp hs calls
  have hplans' : (c.after calls).store.plans.length = 3 := by decide +kernel
  obtain ⟨records', hl', -⟩ := hs'.exists_lists ⟨none, none⟩ (some last.id)
  have hlen' : records'.length ≤ 3 := by
    rw [← hplans', ← hs'.length_wanted]
    exact hl'.ascending.nodup.length_le_of_subset fun record hr => ((hl'.mem_iff record).1 hr).1
  have hwalk : InterleavedWalk ⟨none, none⟩ c none [⟨c.store, records.take 1⟩,
      ⟨(c.after calls).store, records'.take 500⟩] := by
    refine .next (listPlans_run hp hs hl rfl 1) ?_ (.last
      (listPlans_run hp' hs' hl' (resumePoint_encode last.id) 500) ?_)
    · rw [hnext]
      rfl
    · rcases PlanPage.next?_first (clampPageSize_pos 500) records' with ⟨-, hend⟩ | ⟨_, hmore, -⟩
      · rw [hend]
        rfl
      · exact absurd (Nat.lt_of_lt_of_le hmore hlen') (by decide)
  exact ⟨_, rfl, hwalk, interleaved_walk_weaklyConsistent _ hwalk⟩

end Catalog
end MovieCatalog
