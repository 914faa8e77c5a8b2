import MovieCatalog.Store.Links

/-! What writes do to the rows and the links of the tables, and what they leave alone. -/
namespace MovieCatalog.Store

variable {s : Store} {table table' : Table} {side side' : Side} {id id' tag body : String}
  {plan plan' target : String} {entry : Entry} {entries : List Entry} {links : List Link}

@[simp] theorem entries_setEntries_self : (s.setEntries table entries).entries table = entries := by
  cases table <;> rfl

theorem entries_setEntries_of_ne (h : table' ≠ table) :
    (s.setEntries table entries).entries table' = s.entries table' := by
  cases table <;> cases table' <;> first | rfl | exact absurd rfl h

@[simp] theorem links_setEntries : (s.setEntries table entries).links side = s.links side := by
  cases table <;> rfl

@[simp] theorem entries_setLinks : (s.setLinks side links).entries table = s.entries table := by
  cases side <;> cases table <;> rfl

@[simp] theorem links_setLinks_self : (s.setLinks side links).links side = links := by
  cases side <;> rfl

theorem links_setLinks_of_ne (h : side' ≠ side) :
    (s.setLinks side links).links side' = s.links side' := by
  cases side <;> cases side' <;> first | rfl | exact absurd rfl h

/-- The id texts of a table in the order of its rows. -/
def ids (s : Store) (table : Table) : List String := (s.entries table).map Entry.id

theorem mem_of_find? (h : s.find? table id = some entry) : entry ∈ s.entries table :=
  List.mem_of_find?_eq_some h

theorem id_of_find? (h : s.find? table id = some entry) : entry.id = id := by
  have he := List.find?_some h
  exact eq_of_beq he

theorem has_iff : s.has table id = true ↔ ∃ entry, s.find? table id = some entry :=
  Option.isSome_iff_exists

theorem has_iff_mem : s.has table id = true ↔ id ∈ s.ids table := by
  rw [has, find?, List.find?_isSome, ids, List.mem_map]
  simp only [beq_iff_eq]

/-- With distinct id texts a text has the row that looking up finds, and no other. -/
theorem filter_id (hd : (s.ids table).Nodup) (id : String) :
    ((s.entries table).filter fun row => row.id == id) = (s.find? table id).toList := by
  rw [ids] at hd
  rw [find?]
  generalize s.entries table = rows at hd ⊢
  induction rows with
  | nil => rfl
  | cons first rows ih =>
    rw [List.map_cons, List.nodup_cons] at hd
    rw [List.filter_cons, List.find?_cons]
    cases hfirst : first.id == id with
    | true =>
      have hrest : (rows.filter fun row => row.id == id) = [] := by
        rw [List.filter_eq_nil_iff]
        intro row hrow hid
        rw [eq_of_beq hfirst, ← eq_of_beq hid] at hd
        exact hd.1 (List.mem_map_of_mem hrow)
      rw [if_pos rfl, hrest]
      rfl
    | false =>
      rw [if_neg Bool.false_ne_true]
      exact ih hd.2

theorem find?_of_mem (hd : (s.ids table).Nodup) (h : entry ∈ s.entries table) :
    s.find? table entry.id = some entry := by
  have hmem : entry ∈ (s.entries table).filter fun row => row.id == entry.id :=
    List.mem_filter.2 ⟨h, beq_self_eq_true entry.id⟩
  rw [filter_id hd, Option.mem_toList] at hmem
  exact hmem

/-- Rows with one id text are one row. -/
theorem eq_of_id_eq {entry' : Entry} (hd : (s.ids table).Nodup) (h : entry ∈ s.entries table)
    (h' : entry' ∈ s.entries table) (hid : entry.id = entry'.id) : entry = entry' := by
  have hfound := find?_of_mem hd h
  rw [hid, find?_of_mem hd h'] at hfound
  exact (Option.some.inj hfound).symm

/-- Insert a row, or overwrite the one that has the id text. -/
def write (s : Store) (table : Table) (id tag body : String) : Store :=
  match s.find? table id with
  | none => s.append table ⟨id, tag, body, 1⟩
  | some _ => s.overwrite table id body

/-- The row that a write leaves. -/
def written (s : Store) (table : Table) (id tag body : String) : Entry :=
  match s.find? table id with
  | none => ⟨id, tag, body, 1⟩
  | some entry => { entry with body, revision := entry.revision + 1 }

theorem find?_overwrite (id' : String) : (s.overwrite table id body).find? table id' =
    (s.find? table id').map fun entry =>
      if entry.id = id then { entry with body, revision := entry.revision + 1 } else entry := by
  rw [find?, overwrite, entries_setEntries_self, List.find?_map, find?]
  congr 2
  funext entry
  simp only [Function.comp]
  split <;> rfl

theorem find?_write_self :
    (s.write table id tag body).find? table id = some (s.written table id tag body) := by
  rw [write, written]
  split
  · rename_i h
    have hn : List.find? (fun entry => entry.id == id) (s.entries table) = none := h
    rw [find?, append, entries_setEntries_self, List.find?_append, hn]
    simp
  · rename_i entry h
    rw [find?_overwrite, h, Option.map_some, if_pos (id_of_find? h)]

theorem find?_write_of_ne_id (h : id' ≠ id) :
    (s.write table id tag body).find? table id' = s.find? table id' := by
  rw [write]
  split
  · rw [find?, append, entries_setEntries_self, List.find?_append, find?]
    simp [h.symm]
  · rw [find?_overwrite]
    cases hf : s.find? table id' with
    | none => rfl
    | some entry =>
      have hne : entry.id ≠ id := by
        rw [id_of_find? hf]
        exact h
      rw [Option.map_some, if_neg hne]

theorem entries_write_of_ne (h : table' ≠ table) :
    (s.write table id tag body).entries table' = s.entries table' := by
  rw [write]
  split
  · exact entries_setEntries_of_ne h
  · exact entries_setEntries_of_ne h

theorem find?_write_of_ne (h : table' ≠ table ∨ id' ≠ id) :
    (s.write table id tag body).find? table' id' = s.find? table' id' := by
  by_cases ht : table' = table
  · subst ht
    exact find?_write_of_ne_id (h.resolve_left fun hne => hne rfl)
  · rw [find?, entries_write_of_ne ht, find?]

@[simp] theorem links_write : (s.write table id tag body).links side = s.links side := by
  rw [write]
  split
  · exact links_setEntries
  · exact links_setEntries

theorem ids_write_of_has (h : s.has table id = true) :
    (s.write table id tag body).ids table = s.ids table := by
  obtain ⟨entry, hf⟩ := has_iff.1 h
  rw [write, hf, ids, overwrite, entries_setEntries_self, List.map_map, ids]
  congr 1
  funext row
  simp only [Function.comp]
  split <;> rfl

theorem ids_write_of_not_has (h : s.has table id = false) :
    (s.write table id tag body).ids table = s.ids table ++ [id] := by
  have hf : s.find? table id = none := by
    rw [has, Option.isSome_eq_false_iff, Option.isNone_iff_eq_none] at h
    exact h
  rw [write, hf, ids, append, entries_setEntries_self, List.map_append, ids]
  rfl

theorem ids_write_of_ne (h : table' ≠ table) :
    (s.write table id tag body).ids table' = s.ids table' := by
  rw [ids, entries_write_of_ne h, ids]

/-- A write adds an id text only to its own table, and only one that was missing. -/
theorem nodup_ids_write (h : ∀ table, (s.ids table).Nodup) (table' : Table) :
    ((s.write table id tag body).ids table').Nodup := by
  by_cases ht : table' = table
  · subst ht
    cases hh : s.has table' id with
    | true =>
      rw [ids_write_of_has hh]
      exact h table'
    | false =>
      have hn : id ∉ s.ids table' := by
        rw [← has_iff_mem, hh]
        exact Bool.false_ne_true
      rw [ids_write_of_not_has hh, List.nodup_append]
      refine ⟨h table', by simp, ?_⟩
      intro a ha b hb he
      rw [List.mem_singleton.1 hb] at he
      exact hn (he ▸ ha)
  · rw [ids_write_of_ne ht]
    exact h table'

theorem has_write_self : (s.write table id tag body).has table id = true := by
  rw [has, find?_write_self]
  rfl

/-- A write adds no id text but its own. -/
theorem mem_ids_write (h : id' ∈ (s.write table id tag body).ids table') :
    (table' = table ∧ id' = id) ∨ id' ∈ s.ids table' := by
  by_cases he : table' = table ∧ id' = id
  · exact .inl he
  · rw [← has_iff_mem, has, find?_write_of_ne (Decidable.not_and_iff_not_or_not.1 he), ← has,
      has_iff_mem] at h
    exact .inr h

/-- Rows are never removed by a write. -/
theorem has_write_of_has (h : s.has table' id' = true) :
    (s.write table id tag body).has table' id' = true := by
  by_cases hne : table' ≠ table ∨ id' ≠ id
  · rw [has, find?_write_of_ne hne]
    exact h
  · rw [not_or, Decidable.not_not, Decidable.not_not] at hne
    rw [hne.1, hne.2]
    exact has_write_self

/-- The links of a plan on one side. -/
def linksOf (s : Store) (side : Side) (plan : String) : List Link :=
  (s.links side).filter fun link => link.plan == plan

/-- Make a link the only one of its plan on a side. -/
def relinked (s : Store) (side : Side) (plan target : String) : Store :=
  (s.unlink side plan).link side plan target

@[simp] theorem entries_relinked :
    (s.relinked side plan target).entries table = s.entries table := by
  rw [relinked, link, entries_setLinks, unlink, entries_setLinks]

theorem links_relinked_self : (s.relinked side plan target).links side =
    ((s.links side).filter fun link => link.plan != plan) ++ [⟨plan, target⟩] := by
  rw [relinked, link, links_setLinks_self, unlink, links_setLinks_self]

theorem links_relinked_of_ne (h : side' ≠ side) :
    (s.relinked side plan target).links side' = s.links side' := by
  rw [relinked, link, links_setLinks_of_ne h, unlink, links_setLinks_of_ne h]

theorem linksOf_relinked_self :
    (s.relinked side plan target).linksOf side plan = [⟨plan, target⟩] := by
  have hnone : (((s.links side).filter fun link => link.plan != plan).filter
      fun link => link.plan == plan) = [] := by
    rw [List.filter_filter, List.filter_eq_nil_iff]
    intro link _
    cases h : link.plan == plan <;> simp [h, bne]
  rw [linksOf, links_relinked_self, List.filter_append, hnone]
  simp

theorem linksOf_relinked_of_ne (h : side' ≠ side ∨ plan' ≠ plan) :
    (s.relinked side plan target).linksOf side' plan' = s.linksOf side' plan' := by
  by_cases hs : side' = side
  · subst hs
    have hp : plan' ≠ plan := h.resolve_left fun hne => hne rfl
    rw [linksOf, links_relinked_self, List.filter_append, List.filter_filter, linksOf]
    have hlast : ([⟨plan, target⟩] : List Link).filter (fun link => link.plan == plan') = [] := by
      simp [hp.symm]
    rw [hlast, List.append_nil]
    apply List.filter_congr
    intro link _
    by_cases he : link.plan = plan'
    · simp [he, hp]
    · simp [he]
  · rw [linksOf, links_relinked_of_ne hs, linksOf]

/-- Replacing links adds none but the new one. -/
theorem mem_links_relinked {link : Link} (h : link ∈ (s.relinked side plan target).links side') :
    link.plan = plan ∨ link ∈ s.links side' := by
  by_cases hs : side' = side
  · subst hs
    rw [links_relinked_self, List.mem_append, List.mem_filter, List.mem_singleton] at h
    rcases h with h | h
    · exact .inr h.1
    · exact .inl (by rw [h])
  · rw [links_relinked_of_ne hs] at h
    exact .inr h

end MovieCatalog.Store
