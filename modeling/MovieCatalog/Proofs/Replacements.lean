import MovieCatalog.Proofs.WriteResults

/-! Replacing links in bulk. A list of replacements, for any plans on either side, runs as one
transaction. It takes effect if both ends of every new link are there; then each plan that it names
has the link that it was given last, behind the links of the others. -/
namespace MovieCatalog

/-- A link that is to become the only one of its plan on a side. -/
structure Replacement where
  side : Side
  plan : Uuid
  target : Uuid
  deriving DecidableEq

namespace Replacement

def statement (step : Replacement) : Statement Unit :=
  Statement.relink step.side step.plan step.target

def link (step : Replacement) : Link := ⟨step.plan.text, step.target.text⟩

/-- Both ends of the link are there. -/
def Grounded (step : Replacement) (s : Store) : Prop :=
  s.has .plans step.plan.text = true ∧ s.has step.side.target step.target.text = true

/-- Whether one of the steps replaces the links of a plan on a side. -/
def names (steps : List Replacement) (side : Side) (plan : String) : Bool :=
  steps.any fun step => step.side == side && step.plan.text == plan

/-- The step is one of the steps, and no later one replaces what it makes. -/
def IsLast (step : Replacement) (steps : List Replacement) : Prop :=
  ∃ earlier later, steps = earlier ++ step :: later ∧
    names later step.side step.plan.text = false

/-- The links of a side that no later step replaces, in the order in which they are made. -/
def lasting (side : Side) : List Replacement → List Link
  | [] => []
  | step :: later =>
    if step.side = side ∧ names later side step.plan.text = false then
      step.link :: lasting side later
    else lasting side later

end Replacement

open Replacement (names lasting)

namespace Store

/-- The tables after some steps, against those before. -/
structure LinksReplaced (before after : Store) (steps : List Replacement) : Prop where
  single : ∀ step ∈ steps, ∃ last : Replacement, last.IsLast steps ∧ last.side = step.side ∧
    last.plan = step.plan ∧ after.linksOf step.side step.plan.text = [last.link] ∧
      (Statement.linked step.side step.plan).run.run after = (.ok [last.target], after)
  others : ∀ side plan, names steps side plan = false →
    after.linksOf side plan = before.linksOf side plan
  arranged : ∀ side, after.links side =
    ((before.links side).filter fun link => !names steps side link.plan) ++ lasting side steps
  entries : ∀ table, after.entries table = before.entries table

/-- Replace links step by step, whether or not their ends are there. -/
def replaced (s : Store) (steps : List Replacement) : Store :=
  steps.foldl (fun s step => s.relinked step.side step.plan.text step.target.text) s

end Store

namespace Catalog

/-- Some steps as one transaction: when it commits, and what the tables are then. Otherwise the
catalog stays as it was. -/
structure ReplacesLinks (c : Catalog) (steps : List Replacement)
    (result : Except CatalogError Unit × Catalog) : Prop where
  commits : result.1 = .ok () ↔ c.poisoned = false ∧ ∀ step ∈ steps, step.Grounded c.store
  stores : result.1 = .ok () → result.2 = { c with store := result.2.store } ∧
    c.store.LinksReplaced result.2.store steps
  fails : ∀ error, result.1 = .error error → result.2 = c ∧
    error = if c.poisoned then .lockPoisoned else .storage .foreignKey

end Catalog

variable {c : Catalog} {s after : Store} {side : Side} {plan : String} {step : Replacement}
  {steps later : List Replacement}

namespace Replacement

theorem names_cons : names (step :: later) side plan =
    (step.side == side && step.plan.text == plan || names later side plan) := rfl

theorem names_of_mem (h : step ∈ steps) : names steps step.side step.plan.text = true :=
  List.any_eq_true.2 ⟨step, h, by simp⟩

/-- Where links are replaced there is a last step that replaces them. -/
theorem exists_isLast (h : names steps side plan = true) :
    ∃ last : Replacement, last.IsLast steps ∧ last.side = side ∧ last.plan.text = plan := by
  induction steps with
  | nil => cases h
  | cons first later ih =>
    cases hlater : names later side plan with
    | true =>
      obtain ⟨last, ⟨earlier, rest, rfl, hlast⟩, hslot⟩ := ih hlater
      exact ⟨last, ⟨first :: earlier, rest, rfl, hlast⟩, hslot⟩
    | false =>
      rw [names_cons, hlater, Bool.or_false, Bool.and_eq_true, beq_iff_eq, beq_iff_eq] at h
      obtain ⟨rfl, rfl⟩ := h
      exact ⟨first, ⟨[], later, rfl, hlater⟩, rfl, rfl⟩

end Replacement

namespace Store

theorem replaced_cons (s : Store) (step : Replacement) (later : List Replacement) :
    s.replaced (step :: later) =
      (s.relinked step.side step.plan.text step.target.text).replaced later := rfl

theorem entries_replaced (s : Store) (steps : List Replacement) (table : Table) :
    (s.replaced steps).entries table = s.entries table := by
  induction steps generalizing s with
  | nil => rfl
  | cons step later ih => rw [replaced_cons, ih, entries_relinked]

theorem linksOf_replaced_of_not_names (s : Store) (h : names steps side plan = false) :
    (s.replaced steps).linksOf side plan = s.linksOf side plan := by
  induction steps generalizing s with
  | nil => rfl
  | cons step later ih =>
    rw [Replacement.names_cons, Bool.or_eq_false_iff] at h
    have hne : side ≠ step.side ∨ plan ≠ step.plan.text := by
      rw [← Decidable.not_and_iff_not_or_not]
      rintro ⟨rfl, rfl⟩
      simp at h
    rw [replaced_cons, ih _ h.2, linksOf_relinked_of_ne hne]

/-- What the last step of a plan has made stays. -/
theorem linksOf_replaced_of_isLast (s : Store) (h : step.IsLast steps) :
    (s.replaced steps).linksOf step.side step.plan.text = [step.link] := by
  obtain ⟨earlier, later, rfl, hlater⟩ := h
  have hsplit : s.replaced (earlier ++ step :: later) =
      (s.replaced earlier).replaced (step :: later) := List.foldl_append
  rw [hsplit, replaced_cons, linksOf_replaced_of_not_names _ hlater, linksOf_relinked_self]
  rfl

/-- What a step makes stands behind what it leaves, and goes when a later step replaces it. -/
theorem links_replaced (s : Store) (steps : List Replacement) (side : Side) :
    (s.replaced steps).links side =
      ((s.links side).filter fun link => !names steps side link.plan) ++ lasting side steps := by
  induction steps generalizing s with
  | nil =>
    have hall : ((s.links side).filter fun link => !names [] side link.plan) = s.links side :=
      List.filter_eq_self.2 fun _ _ => rfl
    rw [hall, lasting, List.append_nil]
    rfl
  | cons step later ih =>
    rw [replaced_cons, ih, lasting]
    by_cases hside : step.side = side
    · subst hside
      have hkept : ∀ link : Link,
          (!names later step.side link.plan && link.plan != step.plan.text) =
            !names (step :: later) step.side link.plan := by
        intro link
        rw [Replacement.names_cons, beq_self_eq_true, Bool.true_and, Bool.not_or, Bool.and_comm,
          bne_comm, bne]
      rw [links_relinked_self, List.filter_append, List.filter_filter, List.append_assoc]
      simp only [hkept, true_and]
      congr 1
      -- A later step of the same plan takes the new link away with the old ones.
      cases hlater : names later step.side step.plan.text with
      | true => simp [hlater]
      | false => simp [hlater, Replacement.link]
    · have hother : ∀ plan, names (step :: later) side plan = names later side plan := by
        intro plan
        rw [Replacement.names_cons, beq_false_of_ne hside, Bool.false_and, Bool.false_or]
      rw [links_relinked_of_ne (Ne.symm hside)]
      simp only [hother, hside, false_and, if_false]

/-- Of two plans the one that is replaced again comes to stand behind the other. -/
example : lasting .input [⟨.input, .ofNat 1, .ofNat 7⟩, ⟨.output, .ofNat 1, .ofNat 7⟩,
    ⟨.input, .ofNat 2, .ofNat 7⟩, ⟨.input, .ofNat 1, .ofNat 8⟩] =
      [⟨(Uuid.ofNat 2).text, (Uuid.ofNat 7).text⟩, ⟨(Uuid.ofNat 1).text, (Uuid.ofNat 8).text⟩] := by
  decide +kernel

theorem linksReplaced (s : Store) (steps : List Replacement) :
    s.LinksReplaced (s.replaced steps) steps := by
  refine ⟨?_, ?_, s.links_replaced steps, s.entries_replaced steps⟩
  · intro step hstep
    obtain ⟨last, hlast, hside, hplan⟩ :=
      Replacement.exists_isLast (Replacement.names_of_mem hstep)
    have hlinks := s.linksOf_replaced_of_isLast hlast
    rw [hside, hplan] at hlinks
    refine ⟨last, hlast, hside, Uuid.text_injective hplan, hlinks, ?_⟩
    have hread : Statement.parseColumns 0 ([last.link].map Link.target) = .ok [last.target] := by
      simp [Statement.parseColumns, Statement.parseColumn, Replacement.link]
    rw [← hread, ← hlinks]
    exact Statement.ofExcept_run _ _
  · intro side plan hnames
    exact s.linksOf_replaced_of_not_names hnames

end Store

namespace Statement

/-- Replacing links adds and removes no row, so each step asks what it would have asked at first. -/
theorem relinkAll_ok : (forM steps Replacement.statement).run.run s = (.ok (), after) ↔
    (∀ step ∈ steps, step.Grounded s) ∧ after = s.replaced steps := by
  induction steps generalizing s with
  | nil =>
    rw [List.forM_nil, pure_ok]
    simp [Store.replaced]
  | cons step later ih =>
    have hgrounded : ∀ other : Replacement,
        other.Grounded (s.relinked step.side step.plan.text step.target.text) ↔
          other.Grounded s := by
      intro other
      simp only [Replacement.Grounded, Store.has, Store.find?, Store.entries_relinked]
    rw [List.forM_cons, bind_ok, List.forall_mem_cons, Store.replaced_cons]
    constructor
    · rintro ⟨_, between, hstep, hlater⟩
      obtain ⟨hfirst, rfl⟩ := relink_ok.1 hstep
      obtain ⟨hrest, rfl⟩ := ih.1 hlater
      exact ⟨⟨hfirst, fun other hother => (hgrounded other).1 (hrest other hother)⟩, rfl⟩
    · rintro ⟨⟨hfirst, hrest⟩, rfl⟩
      exact ⟨(), _, relink_ok.2 ⟨hfirst, rfl⟩,
        ih.2 ⟨fun other hother => (hgrounded other).2 (hrest other hother), rfl⟩⟩

theorem failsByLinks_relinkAll (steps : List Replacement) :
    FailsByLinks (forM steps Replacement.statement) := by
  induction steps with
  | nil => exact failsByLinks_pure ()
  | cons step later ih => exact (failsByLinks_relink _ _ _).bind fun _ => ih

end Statement

namespace Catalog

/-- A transaction fails by its links or by the lock, if nothing else can fail in it. -/
theorem error_of_failsByLinks {α : Type} {statement : Statement α} {error : CatalogError}
    {c' : Catalog} (h : Statement.FailsByLinks statement)
    (hrun : (transact statement).run.run c = (.error error, c')) :
    error = if c.poisoned then .lockPoisoned else .storage .foreignKey := by
  cases hp : c.poisoned with
  | true =>
    rw [transact_poisoned hp] at hrun
    cases hrun
    rfl
  | false =>
    rcases transact_cases hp statement with ⟨value, s, -, hcommits⟩ | ⟨failed, s, hs, hfails⟩
    · rw [hcommits] at hrun
      cases hrun
    · rw [hfails] at hrun
      cases hrun
      exact h _ _ _ hs

/-- Replacements in one transaction take effect together if both ends of all their links are there,
and leave no trace otherwise. Of several for one plan on one side the last one stands. -/
theorem last_replacement_stands (c : Catalog) (steps : List Replacement) :
    c.ReplacesLinks steps ((transact (forM steps Replacement.statement)).run.run c) := by
  rcases hrun : (transact (forM steps Replacement.statement)).run.run c with ⟨result, after⟩
  refine ⟨?_, ?_, ?_⟩
  · constructor
    · rintro rfl
      obtain ⟨hp, s, hs, -⟩ := transact_eq_ok.1 hrun
      exact ⟨hp, (Statement.relinkAll_ok.1 hs).1⟩
    · rintro ⟨hp, hgrounded⟩
      have hcommits := transact_ok hp (Statement.relinkAll_ok.2 ⟨hgrounded, rfl⟩)
      rw [hrun] at hcommits
      exact congrArg Prod.fst hcommits
  · rintro rfl
    obtain ⟨-, s, hs, rfl⟩ := transact_eq_ok.1 hrun
    obtain ⟨-, rfl⟩ := Statement.relinkAll_ok.1 hs
    exact ⟨rfl, c.store.linksReplaced steps⟩
  · rintro error rfl
    exact ⟨transact_failed hrun,
      error_of_failsByLinks (Statement.failsByLinks_relinkAll steps) hrun⟩

end Catalog
end MovieCatalog
