import MovieCatalog.Proofs.WriteResults
import MovieCatalog.Proofs.Operations

/-! Histories: operations with their replies. The replies to the accepted operations on a row tell
the row's kind and revision, and the rows of each table are the ones reported as created. -/
namespace MovieCatalog

structure Event where
  operation : Operation
  reply : Reply

namespace Event
variable (event : Event)

/-- Whether the operation is about a row. -/
def concerns (table : Table) (id : Uuid) : Bool :=
  event.operation.aim?.any fun aim => aim.table == table && aim.id == id

/-- Whether the operation puts its row. -/
def puts : Bool := event.operation.aim?.any Aim.puts

/-- The kind that the operation names. -/
def tag? : Option String := event.operation.aim?.map Aim.tag

/-- What the reply to a put reports. -/
def outcome? : Option Outcome := if event.puts then event.reply.outcome? else none

/-- Whether a row was reported as created in a table. -/
def creates (table : Table) : Bool :=
  (event.operation.aim?.any fun aim => aim.table == table) && event.outcome? == some .created

end Event

/-- The accepted operations on a row, in order. -/
def accepted (events : List Event) (table : Table) (id : Uuid) : List Event :=
  events.filter fun event => event.concerns table id && event.reply.succeeded

/-- The events of operations in order, and the catalog after them. -/
def Catalog.history (c : Catalog) : List Operation → List Event × Catalog
  | [] => ([], c)
  | operation :: operations =>
    let step := operation.run.run c
    let rest := step.2.history operations
    (⟨operation, step.1⟩ :: rest.1, rest.2)

/-- A row with the accepted operations on it: the first created it, the later puts updated it, all
name its kind, and its revision is their number. -/
structure WrittenBy (row : Entry) (events : List Event) : Prop where
  reported : ∃ first later, events = first :: later ∧ first.outcome? = some .created ∧
    ∀ event ∈ later, event.puts = true → event.outcome? = some .updated
  kind : ∀ event ∈ events, event.tag? = some row.tag
  revision : row.revision = events.length

/-- The tables as the events tell them. -/
structure Told (events : List Event) (s : Store) : Prop where
  distinct : ∀ table, (s.ids table).Nodup
  named : ∀ table, ∀ text ∈ s.ids table, ∃ id : Uuid, text = id.text ∧ id.isNil = false
  rows : ∀ table id, (accepted events table id = [] ∧ s.find? table id.text = none) ∨
    ∃ row, s.find? table id.text = some row ∧ WrittenBy row (accepted events table id)
  counts : ∀ table, (s.entries table).length = events.countP fun event => event.creates table

variable {c c' : Catalog} {s : Store} {events : List Event} {event : Event} {table : Table}
  {id : Uuid} {operation : Operation} {operations : List Operation} {reply : Reply} {aim : Aim}
  {row : Entry} {tag body : String}

theorem told_empty : Told [] .empty := by
  refine ⟨?_, ?_, ?_, ?_⟩
  · intro table
    cases table <;> exact List.nodup_nil
  · intro table text h
    cases table <;> cases h
  · intro table id
    cases table <;> exact .inl ⟨rfl, rfl⟩
  · intro table
    cases table <;> rfl

theorem accepted_append (events : List Event) (event : Event) (table : Table) (id : Uuid) :
    accepted (events ++ [event]) table id = accepted events table id ++
      if event.concerns table id && event.reply.succeeded then [event] else [] := by
  rw [accepted, List.filter_append, ← accepted, List.filter_cons, List.filter_nil]

/-- An event that is not accepted, or has no row in view, leaves the tables as they are told. -/
theorem Told.silent (h : Told events s) (hrow : ∀ table id,
    (event.concerns table id && event.reply.succeeded) = false)
    (hcreates : ∀ table, event.creates table = false) : Told (events ++ [event]) s := by
  have haccepted : ∀ table id,
      accepted (events ++ [event]) table id = accepted events table id := by
    intro table id
    rw [accepted_append, hrow]
    exact List.append_nil _
  refine ⟨h.distinct, h.named, ?_, ?_⟩
  · intro table id
    rw [haccepted]
    exact h.rows table id
  · intro table
    rw [List.countP_append, ← h.counts table, List.countP_singleton, hcreates]
    rfl

theorem Reply.outcome?_of_failed (h : reply.succeeded = false) : reply.outcome? = none := by
  cases reply with
  | put result =>
    cases result with
    | error error => rfl
    | ok outcome => cases h
  | patch result => rfl
  | answer response =>
    rw [succeeded, Bool.or_eq_false_iff, beq_eq_false_iff_ne, beq_eq_false_iff_ne] at h
    rw [outcome?, if_neg h.2, if_neg h.1]

theorem Told.refused (h : Told events s) (hf : event.reply.succeeded = false) :
    Told (events ++ [event]) s := by
  refine h.silent ?_ ?_
  · intro table id
    rw [hf, Bool.and_false]
  · intro table
    have hnone : event.outcome? = none := by
      rw [Event.outcome?, Reply.outcome?_of_failed hf]
      split <;> rfl
    rw [Event.creates, hnone]
    exact Bool.and_false _

theorem Told.passed (h : Told events s) (ha : event.operation.aim? = none) :
    Told (events ++ [event]) s := by
  refine h.silent ?_ ?_
  · intro table id
    rw [Event.concerns, ha]
    rfl
  · intro table
    rw [Event.creates, ha]
    rfl

section Write

variable (ha : event.operation.aim? = some aim)

include ha

theorem puts_of_aim : event.puts = aim.puts := by
  rw [Event.puts, ha, Option.any_some]

theorem tag?_of_aim : event.tag? = some aim.tag := by
  rw [Event.tag?, ha, Option.map_some]

theorem concerns_of_aim : event.concerns table id = true ↔ aim.table = table ∧ aim.id = id := by
  rw [Event.concerns, ha, Option.any_some, Bool.and_eq_true, beq_iff_eq, beq_iff_eq]

end Write

/-- The first accepted operation on a row inserts it. -/
theorem writtenBy_created (ha : event.operation.aim? = some aim)
    (ho : event.outcome? = some .created) (text : String) :
    WrittenBy ⟨text, aim.tag, body, 1⟩ [event] := by
  refine ⟨⟨event, [], rfl, ho, ?_⟩, ?_, rfl⟩
  · intro later hlater
    cases hlater
  · intro event' hevent
    rw [List.mem_singleton.1 hevent]
    exact tag?_of_aim ha

/-- A further accepted operation overwrites the row and counts its revision. -/
theorem WrittenBy.append (h : WrittenBy row events) (ht : event.tag? = some row.tag)
    (ho : event.puts = true → event.outcome? = some .updated) :
    WrittenBy { row with body, revision := row.revision + 1 } (events ++ [event]) := by
  obtain ⟨first, later, rfl, hfirst, hlater⟩ := h.reported
  refine ⟨⟨first, later ++ [event], rfl, hfirst, ?_⟩, ?_, ?_⟩
  · intro event' hevent hputs
    rcases List.mem_append.1 hevent with hevent | hevent
    · exact hlater event' hevent hputs
    · rw [List.mem_singleton.1 hevent] at hputs ⊢
      exact ho hputs
  · intro event' hevent
    rcases List.mem_append.1 hevent with hevent | hevent
    · exact h.kind event' hevent
    · rw [List.mem_singleton.1 hevent]
      exact ht
  · rw [List.length_append, ← h.revision]
    rfl

theorem WrittenBy.revision_pos (h : WrittenBy row events) : 0 < row.revision := by
  obtain ⟨first, later, rfl, -, -⟩ := h.reported
  rw [h.revision]
  exact Nat.succ_pos _

namespace Operation.Writes

theorem created (h : event.operation.Writes event.reply aim s)
    (hf : s.find? aim.table aim.id.text = none) : event.outcome? = some .created := by
  have hputs : aim.puts = true := by
    rw [← Bool.not_eq_false]
    intro hpatch
    have hhas := h.found hpatch
    rw [Store.has, hf] at hhas
    cases hhas
  rw [Event.outcome?, puts_of_aim h.aimed, if_pos hputs, h.reported hputs, Store.outcome, hf]

theorem updated (h : event.operation.Writes event.reply aim s)
    (hf : s.find? aim.table aim.id.text = some row) (hpos : 0 < row.revision)
    (hputs : event.puts = true) : event.outcome? = some .updated := by
  have hputs' := hputs
  rw [puts_of_aim h.aimed] at hputs'
  rw [Event.outcome?, if_pos hputs, h.reported hputs', Store.outcome, hf]
  simp only
  rw [Outcome.ofRevision, if_neg (by omega)]

theorem creates_eq (h : event.operation.Writes event.reply aim s)
    (hpos : ∀ row, s.find? aim.table aim.id.text = some row → 0 < row.revision) (table : Table) :
    event.creates table = (aim.table == table && !s.has aim.table aim.id.text) := by
  rw [Event.creates, h.aimed, Option.any_some]
  congr 1
  cases hf : s.find? aim.table aim.id.text with
  | none =>
    rw [h.created hf, Store.has, hf]
    rfl
  | some row =>
    rw [Store.has, hf]
    cases hputs : event.puts with
    | true =>
      rw [h.updated hf (hpos row hf) hputs]
      rfl
    | false =>
      rw [Event.outcome?, hputs]
      rfl

end Operation.Writes

namespace Told

theorem writtenBy (h : Told events s) (hf : s.find? table id.text = some row) :
    WrittenBy row (accepted events table id) := by
  rcases h.rows table id with ⟨-, hnone⟩ | ⟨row', hsome, hw⟩
  · rw [hf] at hnone
    cases hnone
  · rw [hf] at hsome
    cases hsome
    exact hw

theorem revision_pos (h : Told events s) (hf : s.find? table id.text = some row) :
    0 < row.revision := (h.writtenBy hf).revision_pos

/-- A revision counts operations, from one. -/
theorem revision_le (h : Told events s) (hrow : row ∈ s.entries table) :
    0 < row.revision ∧ row.revision ≤ events.length := by
  have hf := Store.find?_of_mem (h.distinct table) hrow
  obtain ⟨id, hid, -⟩ := h.named table row.id (List.mem_map_of_mem hrow)
  rw [hid] at hf
  refine ⟨h.revision_pos hf, ?_⟩
  rw [(h.writtenBy hf).revision]
  exact List.length_filter_le _ _

/-- The row that a write is about has one more accepted operation. -/
theorem row_wrote (h : Told events s) (hr : event.operation.Writes event.reply aim s) :
    WrittenBy (s.written aim.table aim.id.text aim.tag body)
      (accepted events aim.table aim.id ++ [event]) := by
  rcases h.rows aim.table aim.id with ⟨hnil, hf⟩ | ⟨row, hf, hw⟩
  · rw [hnil, Store.written, hf]
    exact writtenBy_created hr.aimed (hr.created hf) _
  · rw [Store.written, hf]
    refine hw.append ?_ (hr.updated hf hw.revision_pos)
    rw [hr.accepts.agrees row hf]
    exact tag?_of_aim hr.aimed

theorem count_wrote (h : Told events s) (hr : event.operation.Writes event.reply aim s)
    (table : Table) :
    ((s.write aim.table aim.id.text aim.tag body).entries table).length =
      (events ++ [event]).countP fun event => event.creates table := by
  have hlength : ∀ (s : Store) table, (s.entries table).length = (s.ids table).length :=
    fun s table => (List.length_map _).symm
  rw [List.countP_append, ← h.counts table, List.countP_singleton,
    hr.creates_eq (fun row hf => h.revision_pos hf) table, hlength, hlength]
  by_cases ht : table = aim.table
  · subst ht
    cases hhas : s.has aim.table aim.id.text with
    | true =>
      rw [Store.ids_write_of_has hhas]
      simp
    | false =>
      rw [Store.ids_write_of_not_has hhas, List.length_append]
      simp
  · have hne : (aim.table == table) = false := beq_eq_false_iff_ne.2 fun he => ht he.symm
    rw [Store.ids_write_of_ne ht, hne]
    rfl

theorem wrote (h : Told events s) (hr : event.operation.Writes event.reply aim s)
    {s' : Store} (hentries : ∀ table,
      s'.entries table = (s.write aim.table aim.id.text aim.tag body).entries table) :
    Told (events ++ [event]) s' := by
  have hfind : ∀ table text, s'.find? table text =
      (s.write aim.table aim.id.text aim.tag body).find? table text := by
    intro table text
    rw [Store.find?, hentries, Store.find?]
  have hids : ∀ table, s'.ids table =
      (s.write aim.table aim.id.text aim.tag body).ids table := by
    intro table
    rw [Store.ids, hentries, Store.ids]
  refine ⟨?_, ?_, ?_, ?_⟩
  · intro table
    rw [hids]
    exact Store.nodup_ids_write h.distinct table
  · intro table text hmem
    rw [hids] at hmem
    rcases Store.mem_ids_write hmem with ⟨-, htext⟩ | hold
    · exact ⟨aim.id, htext, hr.accepts.named⟩
    · exact h.named table text hold
  · intro table id
    rw [hfind, accepted_append, hr.succeeded, Bool.and_true]
    by_cases he : aim.table = table ∧ aim.id = id
    · rw [if_pos ((concerns_of_aim hr.aimed).2 he)]
      obtain ⟨rfl, rfl⟩ := he
      exact .inr ⟨_, Store.find?_write_self, h.row_wrote hr⟩
    · have hne : table ≠ aim.table ∨ id.text ≠ aim.id.text := by
        by_cases htable : table = aim.table
        · exact .inr fun htext => he ⟨htable.symm, (Uuid.text_injective htext).symm⟩
        · exact .inl htable
      rw [if_neg fun hc => he ((concerns_of_aim hr.aimed).1 hc), List.append_nil,
        Store.find?_write_of_ne hne]
      exact h.rows table id
  · intro table
    rw [hentries]
    exact h.count_wrote hr table

/-- Whatever an operation does, the tables stay as the events tell them. -/
theorem step (h : Told events c.store) (he : operation.Effect c reply c') :
    Told (events ++ [⟨operation, reply⟩]) c'.store := by
  cases he with
  | refused failed => exact h.refused failed
  | passed aimless => exact h.passed aimless
  | wrote writes entries => exact h.wrote writes entries

end Told

theorem Operation.Effect.poisoned (he : operation.Effect c reply c') :
    c'.poisoned = c.poisoned := by
  cases he <;> rfl

theorem Operation.Effect.ids_prefix (he : operation.Effect c reply c') (table : Table) :
    c.store.ids table <+: c'.store.ids table := by
  cases he with
  | refused failed => exact List.prefix_refl _
  | passed aimless => exact List.prefix_refl _
  | @wrote s aim body writes entries =>
    have hids : s.ids table = (c.store.write aim.table aim.id.text aim.tag body).ids table := by
      rw [Store.ids, entries, Store.ids]
    rw [hids]
    by_cases ht : table = aim.table
    · subst ht
      cases hhas : c.store.has aim.table aim.id.text with
      | true =>
        exact ⟨[], by rw [List.append_nil, Store.ids_write_of_has hhas]⟩
      | false =>
        rw [Store.ids_write_of_not_has hhas]
        exact List.prefix_append _ _
    · exact ⟨[], by rw [List.append_nil, Store.ids_write_of_ne ht]⟩

theorem respond_conflict (hp : c.poisoned = false) (haim : request.aim? = some aim)
    (hputs : aim.puts = true) (hvalid : request.isValid = true) (hid : aim.id.isNil = false)
    (hf : c.store.find? aim.table aim.id.text = some row) (ht : row.tag ≠ aim.tag) :
    ((Catalog.respond request).run c).1 = .ofError (.kindConflict aim.table aim.id) := by
  rw [Request.aim?] at haim
  unfold Catalog.respond
  split at haim
  · rename_i kind text hroute hmethod
    rw [Request.isValid, hroute] at hvalid
    simp only at hvalid
    rw [hroute, hmethod]
    simp only
    rw [Catalog.answerPut_run]
    cases harguments : putArguments kind text request.body with
    | error error =>
      rw [harguments] at hvalid
      cases hvalid
    | ok arguments =>
      obtain ⟨id, entity⟩ := arguments
      obtain ⟨hpath, rfl⟩ := putArguments_ok harguments
      rw [hpath] at haim
      cases haim
      simp only
      rw [Catalog.putEntity_conflict hp hid hf ht]
      rfl
  · obtain ⟨id, -, rfl⟩ := Option.map_eq_some_iff.1 haim
    cases hputs
  · cases haim

/-- A valid put that names a kind other than the stored one conflicts with it. -/
theorem Told.conflict (h : Told events c.store) (hp : c.poisoned = false)
    (ha : operation.aim? = some aim) (hputs : aim.puts = true) (hvalid : operation.isValid = true)
    (hkind : (aim.table.kind? aim.tag).isSome = true)
    (hf : c.store.find? aim.table aim.id.text = some row) (ht : row.tag ≠ aim.tag) :
    (operation.run.run c).1.IsConflict aim.table aim.id := by
  have hid : aim.id.isNil = false := by
    obtain ⟨id, htext, hnil⟩ := h.named aim.table aim.id.text
      (Store.has_iff_mem.1 (Store.has_iff.2 ⟨row, hf⟩))
    rw [Uuid.text_injective htext]
    exact hnil
  cases operation with
  | upsert table id tag body =>
    cases ha
    change ((Catalog.transact (Statement.upsert table id tag body)).run.run c).1 = _
    rw [Catalog.transact_error hp (Statement.upsert_conflict hid hkind hf ht)]
  | call call =>
    cases call with
    | put id entity =>
      cases ha
      change ((Catalog.putEntity id entity).run.run c).1 = _
      rw [Catalog.putEntity_conflict hp hid hf ht]
    | patch id patch =>
      cases ha
      cases hputs
    | request request => exact respond_conflict hp ha hputs hvalid hid hf ht

theorem told_history (h : Told events c.store) (hp : c.poisoned = false)
    (operations : List Operation) :
    Told (events ++ (c.history operations).1) (c.history operations).2.store ∧
      (c.history operations).2.poisoned = false := by
  induction operations generalizing events c with
  | nil =>
    rw [Catalog.history, List.append_nil]
    exact ⟨h, hp⟩
  | cons operation operations ih =>
    have he := Operation.effect hp operation
    have hrest := ih (h.step he) (he.poisoned.trans hp)
    rw [List.append_assoc] at hrest
    exact hrest

theorem Catalog.length_history (c : Catalog) (operations : List Operation) :
    (c.history operations).1.length = operations.length := by
  induction operations generalizing c with
  | nil => rfl
  | cons operation operations ih => exact congrArg (· + 1) (ih _)

/-- Short of `2 ^ 63` operations every revision is positive, and its column takes it as it is. -/
theorem Catalog.revision_fits (hlength : operations.length < 0x8000000000000000)
    (hrow : row ∈ (new.history operations).2.store.entries table) :
    0 < row.revision ∧ (Int64.ofNat row.revision).toInt = row.revision := by
  have hnew : Told [] new.store := told_empty
  obtain ⟨htold, -⟩ := told_history hnew rfl operations
  obtain ⟨hpos, hle⟩ := htold.revision_le hrow
  rw [List.nil_append, length_history] at hle
  exact ⟨hpos, Int64.toInt_ofNat_of_lt (Nat.lt_of_le_of_lt hle hlength)⟩

theorem ids_prefix_history (hp : c.poisoned = false) (operations : List Operation) (table : Table) :
    c.store.ids table <+: (c.history operations).2.store.ids table := by
  induction operations generalizing c with
  | nil => exact List.prefix_refl _
  | cons operation operations ih =>
    have he := Operation.effect hp operation
    exact (he.ids_prefix table).trans (ih (he.poisoned.trans hp))

/-- What a history says of the catalog after it. -/
structure HistoryDecides (events : List Event) (c : Catalog) : Prop where
  absent : ∀ table id, accepted events table id = [] →
    ((c.store.entries table).filter fun row => row.id == id.text) = []
  present : ∀ table id, accepted events table id ≠ [] → ∃ row,
    ((c.store.entries table).filter fun row => row.id == id.text) = [row] ∧
      WrittenBy row (accepted events table id)
  conflicts : ∀ (operation : Operation) (aim : Aim) (row : Entry),
    operation.aim? = some aim → aim.puts = true → operation.isValid = true →
    (aim.table.kind? aim.tag).isSome = true → row ∈ c.store.entries aim.table →
    row.id = aim.id.text → row.tag ≠ aim.tag →
    (operation.run.run c).1.IsConflict aim.table aim.id
  kept : ∀ operations table,
    c.store.ids table <+: (c.history operations).2.store.ids table
  counts : ∀ table, (c.store.entries table).length = events.countP fun event => event.creates table

theorem Told.decides (h : Told events c.store) (hp : c.poisoned = false) :
    HistoryDecides events c := by
  refine ⟨?_, ?_, ?_, ?_, h.counts⟩
  · intro table id hnil
    rw [Store.filter_id (h.distinct table)]
    rcases h.rows table id with ⟨-, hf⟩ | ⟨row, -, hw⟩
    · rw [hf]
      rfl
    · obtain ⟨first, later, hcons, -, -⟩ := hw.reported
      rw [hnil] at hcons
      cases hcons
  · intro table id hne
    rw [Store.filter_id (h.distinct table)]
    rcases h.rows table id with ⟨hnil, -⟩ | ⟨row, hf, hw⟩
    · exact absurd hnil hne
    · refine ⟨row, ?_, hw⟩
      rw [hf]
      rfl
  · intro operation aim row ha hputs hvalid hkind hrow hid ht
    have hf := Store.find?_of_mem (h.distinct aim.table) hrow
    rw [hid] at hf
    exact h.conflict hp ha hputs hvalid hkind hf ht
  · exact fun operations table => ids_prefix_history hp operations table

/-- The history of writes decides every row. -/
theorem Catalog.history_decides (operations : List Operation) :
    HistoryDecides (new.history operations).1 (new.history operations).2 := by
  have hnew : Told [] new.store := told_empty
  obtain ⟨htold, hp⟩ := told_history hnew rfl operations
  exact htold.decides hp

end MovieCatalog
