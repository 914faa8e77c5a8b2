import MovieCatalog.Proofs.WriteEffects

/-! Writes to different rows commute. A write looks only at its own row and at whether its targets
are there, and it changes only its own row and the links of its plan. -/
namespace MovieCatalog

/-- The same rows in every table, in whatever order they came in, and the same links of every
plan. -/
structure Store.SameTables (s s' : Store) : Prop where
  rows : ∀ table, (s.entries table).Perm (s'.entries table)
  found : ∀ table id, s.find? table id = s'.find? table id
  links : ∀ side plan, s.linksOf side plan = s'.linksOf side plan

/-- The writes are about different rows. What one of them leads to is not the row of the other, or
is there already. -/
structure Write.Independent (s : Store) (a b : Write) : Prop where
  apart : a.table ≠ b.table ∨ a.id ≠ b.id
  first : ∀ side, ∀ target ∈ a.targets side,
    (side.target ≠ b.table ∨ target ≠ b.id) ∨ s.has side.target target.text = true
  second : ∀ side, ∀ target ∈ b.targets side,
    (side.target ≠ a.table ∨ target ≠ a.id) ∨ s.has side.target target.text = true

/-- In either order the writes get the same results and leave the same tables. -/
structure Write.Commute (c : Catalog) (a b : Write) : Prop where
  first : (a.run.run c).1 = (a.run.run (b.run.run c).2).1
  second : (b.run.run (a.run.run c).2).1 = (b.run.run c).1
  tables : (b.run.run (a.run.run c).2).2.store.SameTables (a.run.run (b.run.run c).2).2.store

/-- A row after a body was written to an id text. -/
def Entry.overwritten (row : Entry) (id body : String) : Entry :=
  if row.id = id then { row with body, revision := row.revision + 1 } else row

theorem Entry.overwritten_of_ne {row : Entry} {id : String} (h : row.id ≠ id) (body : String) :
    row.overwritten id body = row := if_neg h

theorem Entry.overwritten_comm {id id' : String} (h : id ≠ id') (body body' : String)
    (row : Entry) : (row.overwritten id body).overwritten id' body' =
      (row.overwritten id' body').overwritten id body := by
  by_cases hid : row.id = id
  · have hne : row.id ≠ id' := fun he => h (hid.symm.trans he)
    simp [overwritten, hid, h]
  · by_cases hid' : row.id = id'
    · simp [overwritten, hid', h.symm]
    · simp [overwritten, hid, hid']

namespace Store

variable {s s' : Store} {table table' : Table} {id id' tag tag' body body' : String}

theorem SameTables.refl (s : Store) : s.SameTables s :=
  ⟨fun _ => .refl _, fun _ _ => rfl, fun _ _ => rfl⟩

/-- The row that a write adds, if it adds one. -/
def added (s : Store) (table : Table) (id tag body : String) : List Entry :=
  if s.has table id then [] else [⟨id, tag, body, 1⟩]

theorem entries_write_self : (s.write table id tag body).entries table =
    (s.entries table).map (fun row => row.overwritten id body) ++ s.added table id tag body := by
  cases hfound : s.find? table id with
  | none =>
    have hkept : (s.entries table).map (fun row => row.overwritten id body) = s.entries table := by
      refine (List.map_congr_left ?_).trans (List.map_id _)
      intro row hrow
      apply Entry.overwritten_of_ne
      intro hid
      have hnone := List.find?_eq_none.1 hfound row hrow
      exact hnone (beq_iff_eq.2 hid)
    rw [hkept, added, has, hfound, write, hfound]
    exact entries_setEntries_self
  | some row =>
    rw [added, has, hfound, write, hfound]
    exact entries_setEntries_self.trans (List.append_nil _).symm

theorem has_write_of_ne (h : table' ≠ table ∨ id' ≠ id) :
    (s.write table id tag body).has table' id' = s.has table' id' := by
  rw [has, find?_write_of_ne h, has]

/-- What a write adds is as another write left it. -/
theorem added_write_of_ne (h : table' ≠ table ∨ id' ≠ id) :
    (s.write table id tag body).added table' id' tag' body' = s.added table' id' tag' body' := by
  rw [added, has_write_of_ne h, added]

theorem map_overwritten_added (h : id ≠ id') :
    (s.added table id tag body).map (fun row => row.overwritten id' body') =
      s.added table id tag body := by
  rw [added]
  split
  · rfl
  · rw [List.map_singleton, Entry.overwritten_of_ne h]

/-- Two writes to one table leave the same rows in either order. Rows that both add come in the
order of the writes. -/
theorem entries_write_write (h : id ≠ id') :
    (((s.write table id tag body).write table id' tag' body').entries table).Perm
      (((s.write table id' tag' body').write table id tag body).entries table) := by
  have hcomm : (s.entries table).map
      ((fun row => row.overwritten id' body') ∘ fun row => row.overwritten id body) =
      (s.entries table).map
        ((fun row => row.overwritten id body) ∘ fun row => row.overwritten id' body') :=
    List.map_congr_left fun row _ => Entry.overwritten_comm h body body' row
  rw [entries_write_self, entries_write_self, entries_write_self, entries_write_self,
    added_write_of_ne (.inr h.symm), added_write_of_ne (.inr h), List.map_append, List.map_append,
    map_overwritten_added h, map_overwritten_added h.symm, List.map_map, List.map_map, hcomm,
    List.append_assoc, List.append_assoc]
  exact .append_left _ List.perm_append_comm

theorem perm_write_write (h : table ≠ table' ∨ id ≠ id') (table'' : Table) :
    (((s.write table id tag body).write table' id' tag' body').entries table'').Perm
      (((s.write table' id' tag' body').write table id tag body).entries table'') := by
  by_cases he : table'' = table
  · subst he
    by_cases he' : table'' = table'
    · subst he'
      exact entries_write_write (h.resolve_left fun hne => hne rfl)
    · rw [entries_write_of_ne he', entries_write_self, entries_write_self,
        added_write_of_ne (.inl he'), entries_write_of_ne he']
  · by_cases he' : table'' = table'
    · subst he'
      rw [entries_write_of_ne he, entries_write_self, entries_write_self,
        added_write_of_ne (.inl he), entries_write_of_ne he]
    · rw [entries_write_of_ne he', entries_write_of_ne he, entries_write_of_ne he,
        entries_write_of_ne he']

/-- The rows after a write depend on the rows before it alone. -/
theorem entries_write_congr (h : ∀ table, s.entries table = s'.entries table) (table' : Table) :
    (s.write table id tag body).entries table' = (s'.write table id tag body).entries table' := by
  by_cases he : table' = table
  · subst he
    rw [entries_write_self, entries_write_self, added, has, find?, h, ← find?, ← has, ← added]
  · rw [entries_write_of_ne he, entries_write_of_ne he, h]

theorem written_of_find? (h : s.find? table id = s'.find? table id) :
    s.written table id tag body = s'.written table id tag body := by
  rw [written, h, written]

theorem find?_write_write (h : table ≠ table' ∨ id ≠ id') (table'' : Table) (id'' : String) :
    ((s.write table id tag body).write table' id' tag' body').find? table'' id'' =
      ((s.write table' id' tag' body').write table id tag body).find? table'' id'' := by
  have h' : table' ≠ table ∨ id' ≠ id := h.imp Ne.symm Ne.symm
  by_cases he : table'' ≠ table ∨ id'' ≠ id
  · by_cases he' : table'' ≠ table' ∨ id'' ≠ id'
    · rw [find?_write_of_ne he', find?_write_of_ne he, find?_write_of_ne he, find?_write_of_ne he']
    · obtain ⟨rfl, rfl⟩ : table'' = table' ∧ id'' = id' := by
        simpa only [not_or, Decidable.not_not] using he'
      rw [find?_write_self, find?_write_of_ne he, find?_write_self,
        written_of_find? (find?_write_of_ne h')]
  · obtain ⟨rfl, rfl⟩ : table'' = table ∧ id'' = id := by
      simpa only [not_or, Decidable.not_not] using he
    rw [find?_write_of_ne h, find?_write_self, find?_write_self,
      written_of_find? (find?_write_of_ne h)]

/-- What a rewritten plan is linked to. -/
theorem linksOf_rewritten (s : Store) (id : Uuid) (entity : Entity) (targets : Side → Option Uuid)
    (side : Side) (plan : String) : (s.rewritten id entity targets).linksOf side plan =
      match targets side with
      | none => s.linksOf side plan
      | some target =>
        if plan = id.text then [⟨id.text, target.text⟩] else s.linksOf side plan := by
  by_cases hplan : plan = id.text
  · subst hplan
    cases htarget : targets side with
    | none => exact linksOf_rewritten_of_none htarget
    | some target => exact (linksOf_rewritten_of_some htarget).trans (if_pos rfl).symm
  · rw [linksOf_rewritten_of_ne hplan]
    cases targets side with
    | none => rfl
    | some target => exact (if_neg hplan).symm

end Store

namespace Write

variable {c c' : Catalog} {s s' : Store} {a b write : Write} {entity : Entity}
  {change change' : Store → Store}

/-- Tables that look alike to a write: its row and whether its targets are there. -/
structure LookAlike (write : Write) (s s' : Store) : Prop where
  row : s.find? write.table write.id.text = s'.find? write.table write.id.text
  targets : s.HasTargets write.targets ↔ s'.HasTargets write.targets

/-- What a write does to the tables. -/
inductive Changes (write : Write) : (Store → Store) → Prop where
  | nothing : Changes write fun s => s
  | rewrites {entity : Entity} (table : entity.kind.table = write.table) :
      Changes write fun s => s.rewritten write.id entity write.targets

/-- On tables that look alike to it a write gets the same result and does the same. -/
theorem exists_changes (hp : c.poisoned = false) (hp' : c'.poisoned = false)
    (h : write.LookAlike c.store c'.store) : ∃ change, write.Changes change ∧
      write.run.run c = ((write.run.run c).1, { c with store := change c.store }) ∧
      write.run.run c' = ((write.run.run c).1, { c' with store := change c'.store }) := by
  have hresult := result hp write
  have hresult' := result hp' write
  have houtcome : c.store.outcome write.table write.id.text =
      c'.store.outcome write.table write.id.text := by
    rw [Store.outcome, h.row, Store.outcome]
  generalize write.run.run c = r at hresult ⊢
  generalize write.run.run c' = r' at hresult' ⊢
  cases hresult with
  | refused judged =>
    rw [h.row] at judged
    cases hresult' with
    | refused judged' =>
      rw [judged] at judged'
      cases judged'
      exact ⟨_, .nothing, rfl, rfl⟩
    | dangles judged' =>
      rw [judged] at judged'
      cases judged'
    | stored judged' =>
      rw [judged] at judged'
      cases judged'
  | dangles judged missing =>
    rw [h.row] at judged
    cases hresult' with
    | refused judged' =>
      rw [judged] at judged'
      cases judged'
    | dangles => exact ⟨_, .nothing, rfl, rfl⟩
    | stored _ targets => exact absurd (h.targets.2 targets) missing
  | stored judged targets =>
    rw [h.row] at judged
    cases hresult' with
    | refused judged' =>
      rw [judged] at judged'
      cases judged'
    | dangles _ missing => exact absurd (h.targets.1 targets) missing
    | stored judged' =>
      rw [judged] at judged'
      cases judged'
      exact ⟨_, .rewrites (table_of_entity judged), rfl, by rw [houtcome]⟩

theorem LookAlike.refl (write : Write) (s : Store) : write.LookAlike s s := ⟨rfl, .rfl⟩

/-- A write leaves alone what an independent one looks at. -/
theorem lookAlike_changes (happart : b.table ≠ a.table ∨ b.id ≠ a.id)
    (htargets : ∀ side, ∀ target ∈ b.targets side,
      (side.target ≠ a.table ∨ target ≠ a.id) ∨ s.has side.target target.text = true)
    (h : a.Changes change) : b.LookAlike s (change s) := by
  cases h with
  | nothing => exact .refl b s
  | @rewrites entity htable =>
    have hkept : ∀ table (id : Uuid), table ≠ a.table ∨ id ≠ a.id →
        (s.rewritten a.id entity a.targets).find? table id.text = s.find? table id.text := by
      intro table id hne
      rw [Store.find?_rewritten, htable]
      exact Store.find?_write_of_ne (hne.imp_right fun hid he => hid (Uuid.text_injective he))
    refine ⟨(hkept _ _ happart).symm, ?_⟩
    have hhas : ∀ side, ∀ target ∈ b.targets side,
        (s.rewritten a.id entity a.targets).has side.target target.text =
          s.has side.target target.text := by
      intro side target htarget
      rcases htargets side target htarget with hne | hthere
      · rw [Store.has, hkept _ _ hne, Store.has]
      · rw [hthere, Store.has_rewritten_of_has hthere]
    constructor
    · intro h side target htarget
      rw [hhas side target htarget]
      exact h side target htarget
    · intro h side target htarget
      rw [← hhas side target htarget]
      exact h side target htarget

/-- Only plans have targets. -/
theorem table_of_targets {side : Side} {target : Uuid} (h : write.targets side = some target) :
    write.table = .plans := by
  cases write with
  | put id entity =>
    obtain ⟨ends, hends, -⟩ := Option.map_eq_some_iff.1 h
    exact Entity.table_of_ends hends
  | patch id change =>
    obtain ⟨planChange, hchange, -⟩ := Option.bind_eq_some_iff.1 h
    exact Patch.table_of_planChange hchange

/-- The links of a plan do not depend on the order in which different rows are rewritten. -/
theorem linksOf_rewritten_rewritten (hapart : a.table ≠ b.table ∨ a.id ≠ b.id)
    {first second : Entity} (side : Side) (plan : String) :
    ((s.rewritten a.id first a.targets).rewritten b.id second b.targets).linksOf side plan =
      ((s.rewritten b.id second b.targets).rewritten a.id first a.targets).linksOf side plan := by
  simp only [Store.linksOf_rewritten]
  cases ha : a.targets side with
  | none => rfl
  | some target =>
    cases hb : b.targets side with
    | none => rfl
    | some target' =>
      have hid : a.id ≠ b.id := by
        rcases hapart with htable | hid
        · exact absurd ((table_of_targets ha).trans (table_of_targets hb).symm) htable
        · exact hid
      have htext : a.id.text ≠ b.id.text := fun he => hid (Uuid.text_injective he)
      by_cases hplan : plan = a.id.text
      · simp [hplan, htext]
      · simp [hplan]

theorem sameTables_changes (hapart : a.table ≠ b.table ∨ a.id ≠ b.id) (ha : a.Changes change)
    (hb : b.Changes change') (s : Store) :
    (change' (change s)).SameTables (change (change' s)) := by
  cases ha with
  | nothing => exact .refl _
  | @rewrites first hA =>
    cases hb with
    | nothing => exact .refl _
    | @rewrites second hB =>
      have hne : first.kind.table ≠ second.kind.table ∨ a.id.text ≠ b.id.text := by
        rw [hA, hB]
        exact hapart.imp_right fun hid he => hid (Uuid.text_injective he)
      refine ⟨?_, ?_, linksOf_rewritten_rewritten hapart⟩
      · intro table
        rw [Store.entries_rewritten, Store.entries_rewritten,
          Store.entries_write_congr Store.entries_rewritten,
          Store.entries_write_congr Store.entries_rewritten]
        exact Store.perm_write_write hne table
      · intro table id
        rw [Store.find?, Store.entries_rewritten,
          Store.entries_write_congr Store.entries_rewritten, Store.find?, Store.entries_rewritten,
          Store.entries_write_congr Store.entries_rewritten]
        exact Store.find?_write_write hne table id

/-- After a write the catalog still looks alike to an independent one. -/
theorem lookAlike_after (hp : c.poisoned = false) (hapart : b.table ≠ a.table ∨ b.id ≠ a.id)
    (htargets : ∀ side, ∀ target ∈ b.targets side,
      (side.target ≠ a.table ∨ target ≠ a.id) ∨ c.store.has side.target target.text = true) :
    (a.run.run c).2.poisoned = false ∧ b.LookAlike c.store (a.run.run c).2.store := by
  obtain ⟨change, hchange, hrun, -⟩ := exists_changes hp hp (.refl a c.store)
  rw [hrun]
  exact ⟨hp, lookAlike_changes hapart htargets hchange⟩

/-- Writes to different rows commute, whatever the tables hold, unless one of them makes the row
that the other leads to. -/
theorem writes_commute (c : Catalog) (h : Independent c.store a b) : Commute c a b := by
  cases hp : c.poisoned with
  | true =>
    have hrun : ∀ write : Write, write.run.run c = (write.reply (.error .lockPoisoned), c) :=
      run_poisoned hp
    have hkept : ∀ write : Write, (write.run.run c).2 = c := fun write => by rw [hrun]
    refine ⟨?_, ?_, ?_⟩
    · rw [hkept]
    · rw [hkept]
    · rw [hkept a, hkept b, hkept a]
      exact .refl _
  | false =>
    obtain ⟨hpA, hlookB⟩ := lookAlike_after hp (h.apart.imp Ne.symm Ne.symm) h.second
    obtain ⟨hpB, hlookA⟩ := lookAlike_after hp h.apart h.first
    obtain ⟨changeA, hA, hrunA, hrunA'⟩ := exists_changes hp hpB hlookA
    obtain ⟨changeB, hB, hrunB, hrunB'⟩ := exists_changes hp hpA hlookB
    refine ⟨?_, ?_, ?_⟩
    · rw [hrunA']
    · rw [hrunB']
    · rw [hrunA', hrunB', hrunA, hrunB]
      exact sameTables_changes h.apart hA hB c.store

/-- A new plan and a patch of the source that it leads to, which is there. -/
theorem writes_commute_of_plan_and_source :
    let c := Catalog.new.after [.put (.ofNat 1) (.file "a"), .put (.ofNat 2) (.edition "b"),
      .put (.ofNat 4) (.direct ⟨.ofNat 1, .ofNat 2⟩)]
    let plan := Write.put (.ofNat 3) (.direct ⟨.ofNat 1, .ofNat 2⟩)
    let source := Write.patch (.ofNat 1) (.file (some "c"))
    Independent c.store plan source ∧ Commute c plan source := by
  intro c plan source
  have h : Independent c.store plan source := by
    refine ⟨.inl (by decide), ?_, ?_⟩
    · intro side target htarget
      right
      cases side with
      | input =>
        cases htarget
        decide +kernel
      | output =>
        cases htarget
        decide +kernel
    · intro side target htarget
      cases htarget
  exact ⟨h, writes_commute c h⟩

end Write
end MovieCatalog
