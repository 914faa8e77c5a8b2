import MovieCatalog.Proofs.Housing

/-! Sessions: uses of a catalog one after another, with the database closed and opened again at any
points in between. Whoever uses the catalog cannot tell that it was. -/
namespace MovieCatalog

/-- A step of a session: the database is opened again, or the catalog is used. The statements that
run by themselves or in a transaction are any that there are. -/
inductive SessionStep (α : Type) where
  | reopen
  | call (call : Call)
  | get (table : Table) (id : Uuid)
  | list (filter : PlanFilter) (token : Option String) (size : Nat)
  | stats
  | alone (statement : Statement α)
  | together (statement : Statement α)

/-- The answer to a step. -/
inductive SessionAnswer (α : Type) where
  | opened (result : Except CatalogError Unit)
  | replied (reply : Reply)
  | got (result : Except CatalogError Entity)
  | listed (result : Except CatalogError PlanListing)
  | counted (result : Except CatalogError Stats)
  | done (result : Except CatalogError α)

/-- A list with any number of copies of a value inserted at any points. -/
inductive Interspersed {α : Type} (extra : α) : List α → List α → Prop where
  | nil : Interspersed extra [] []
  | kept (value : α) {values more : List α} (rest : Interspersed extra values more) :
      Interspersed extra (value :: values) (value :: more)
  | inserted {values more : List α} (rest : Interspersed extra values more) :
      Interspersed extra values (extra :: more)

variable {α : Type} {c : Catalog} {steps more : List (SessionStep α)}

def SessionStep.run : SessionStep α → StateM Catalog (SessionAnswer α)
  | .reopen => do return .opened (← Catalog.reopen.run)
  | .call made => do return .replied (← made.run)
  | .get table id => do return .got (← (Catalog.getEntity table id).run)
  | .list filter token size => do return .listed (← (Catalog.listPlans filter token size).run)
  | .stats => do return .counted (← Catalog.stats.run)
  | .alone statement => do return .done (← (Catalog.perform statement).run)
  | .together statement => do return .done (← (Catalog.transact statement).run)

namespace Catalog

/-- The steps of a session with their answers, and the catalog after them. -/
def session (c : Catalog) :
    List (SessionStep α) → List (SessionStep α × SessionAnswer α) × Catalog
  | [] => ([], c)
  | step :: steps =>
    let first := step.run.run c
    let rest := first.2.session steps
    ((step, first.1) :: rest.1, rest.2)

/-- A catalog whose lock is free and whose database is at the version that opening leads to, with
all tables. -/
structure Opened (c : Catalog) : Prop where
  free : c.poisoned = false
  settled : c.layout.initialise = (.ok (), c.layout)
  furnished : c.layout.Furnished

theorem opened_new : new.Opened := by
  have hrun : Layout.blank.initialise = (.ok (), Layout.current) :=
    Layout.initialise_bare_older rfl Int.one_pos
  have hfurnished : Layout.blank.initialise.2.Furnished :=
    Layout.furnished_initialise rfl Int.one_pos
  refine ⟨rfl, ?_, hfurnished⟩
  change Layout.blank.initialise.2.initialise = (.ok (), Layout.blank.initialise.2)
  rw [Layout.initialise_initialise, hrun]

/-- Opening such a catalog again leaves everything as it is. -/
theorem Opened.reopen (h : c.Opened) : reopen.run.run c = (.ok (), c) := by
  rw [reopen_run, h.settled]
  obtain ⟨layout, store, poisoned⟩ := c
  cases h.free
  rfl

theorem Opened.withStore (h : c.Opened) (s : Store) : ({ c with store := s } : Catalog).Opened :=
  ⟨h.free, h.settled, h.furnished⟩

/-- What uses the catalog leaves its layout and its lock alone. -/
theorem Opened.step (h : c.Opened) (step : SessionStep α) : (step.run.run c).2.Opened := by
  cases step with
  | reopen =>
    change (Catalog.reopen.run.run c).2.Opened
    rw [h.reopen]
    exact h
  | call call =>
    change (call.run.run c).2.Opened
    rcases advances_call h.free call with he | ⟨s, -, he⟩
    · rw [he]
      exact h
    · rw [he]
      exact h.withStore s
  | get table id =>
    change ((getEntity table id).run.run c).2.Opened
    rw [getEntity_reads]
    exact h
  | list filter token size =>
    change ((listPlans filter token size).run.run c).2.Opened
    rw [listPlans_reads]
    exact h
  | stats =>
    change (Catalog.stats.run.run c).2.Opened
    rw [stats_reads]
    exact h
  | alone statement =>
    change ((perform statement).run.run c).2.Opened
    rw [perform_run h.free]
    exact h.withStore _
  | together statement =>
    change ((transact statement).run.run c).2.Opened
    rcases transact_cases h.free statement with ⟨value, s, -, hrun⟩ | ⟨error, s, -, hrun⟩
    · rw [hrun]
      exact h.withStore s
    · rw [hrun]
      exact h

theorem session_cons (c : Catalog) (step : SessionStep α) (steps : List (SessionStep α)) :
    c.session (step :: steps) =
      ((step, (step.run.run c).1) :: ((step.run.run c).2.session steps).1,
        ((step.run.run c).2.session steps).2) := rfl

theorem Opened.session (h : c.Opened) (steps : List (SessionStep α)) :
    (c.session steps).2.Opened := by
  induction steps generalizing c with
  | nil => exact h
  | cons step steps ih => exact ih (h.step step)

/-- At every point of a session the rows are in tables that the database has. -/
theorem session_housed (steps : List (SessionStep α)) : (new.session steps).2.Housed :=
  housed_of_furnished (opened_new.session steps).furnished

theorem Opened.session_reopen (h : c.Opened) (steps : List (SessionStep α)) :
    c.session (.reopen :: steps) =
      ((.reopen, .opened (.ok ())) :: (c.session steps).1, (c.session steps).2) := by
  have hrun : (SessionStep.reopen : SessionStep α).run.run c = (.opened (.ok ()), c) := by
    change (SessionAnswer.opened (Catalog.reopen.run.run c).1, (Catalog.reopen.run.run c).2) = _
    rw [h.reopen]
  rw [session_cons, hrun]

/-- The steps of two sessions that differ in reopens alone have the same answers, and the sessions
end with the same catalog. -/
theorem Opened.session_interspersed (h : c.Opened) (hmore : Interspersed .reopen steps more) :
    Interspersed (.reopen, .opened (.ok ())) (c.session steps).1 (c.session more).1 ∧
      (c.session more).2 = (c.session steps).2 := by
  induction hmore generalizing c with
  | nil => exact ⟨.nil, rfl⟩
  | kept step rest ih =>
    obtain ⟨hanswers, hend⟩ := ih (h.step step)
    exact ⟨.kept _ hanswers, hend⟩
  | inserted rest ih =>
    obtain ⟨hanswers, hend⟩ := ih h
    rw [h.session_reopen]
    exact ⟨.inserted hanswers, hend⟩

/-- Bringing a database to the current version is done with after one run, whatever its version rows
are. So a session into which reopens of the database are inserted gets the same answers to its other
steps, and leaves the same catalog. -/
theorem bootstrap_settles : (∀ runs, Layout.Bootstraps runs) ∧
    ∀ (α : Type) (steps more : List (SessionStep α)), Interspersed .reopen steps more →
      Interspersed (.reopen, .opened (.ok ())) (new.session steps).1 (new.session more).1 ∧
        (new.session more).2 = (new.session steps).2 :=
  ⟨Layout.bootstraps, fun _ _ _ => opened_new.session_interspersed⟩

/-- Two runs over a version below zero with a text behind it, and two reopens around a step. -/
theorem bootstrap_settles_of_two :
    Layout.initialiseRuns 2 (Layout.bare (some [.integer (-7), .text "x"])) =
        [(.ok (), Layout.current), (.ok (), Layout.current)] ∧
      (new.session ([.reopen, .stats, .reopen] : List (SessionStep Unit))).2 =
        (new.session ([.stats] : List (SessionStep Unit))).2 := by
  have hreopens : Interspersed .reopen ([.stats] : List (SessionStep Unit))
      [.reopen, .stats, .reopen] := .inserted (.kept _ (.inserted .nil))
  exact ⟨(bootstrap_settles.1 2).older (-7) [.text "x"] (by decide) (by decide),
    (bootstrap_settles.2 Unit _ _ hreopens).2⟩

end Catalog
end MovieCatalog
