import MovieCatalog.Proofs.WriteResults
import MovieCatalog.Proofs.Operations

/-! Failures leave no trace. A request changes the tables only if it writes and is answered with
success, and a transaction over statements takes effect when all of them and its end succeed. -/
namespace MovieCatalog

variable {α β : Type} {c : Catalog} {s s' s'' : Store} {step : Statement α}
  {steps : List (Statement α)} {finish : List α → Except CatalogError β} {values : List α}
  {value : α} {result : β} {error : CatalogError}

namespace Statement

/-- Run steps one after another and collect their results. The first failure ends the run. -/
def inOrder : List (Statement α) → Statement (List α)
  | [] => return []
  | step :: steps => do
    let value ← step
    let values ← inOrder steps
    return value :: values

/-- Steps in order, and an end of its own that may still fail on their results. -/
def block (steps : List (Statement α)) (finish : List α → Except CatalogError β) : Statement β := do
  let values ← inOrder steps
  ofExcept (finish values)

/-- Steps that all succeed when each runs on the tables of the one before, with their results and
the tables after the last one. -/
inductive Completes : List (Statement α) → Store → List α → Store → Prop where
  | nil (s : Store) : Completes [] s [] s
  | cons {step : Statement α} {steps : List (Statement α)} {s s' s'' : Store} {value : α}
      {values : List α} (first : step.run.run s = (.ok value, s'))
      (rest : Completes steps s' values s'') : Completes (step :: steps) s (value :: values) s''

/-- Steps of which one fails, the ones before it having succeeded. -/
def Stops (steps : List (Statement α)) (s : Store) (error : CatalogError) : Prop :=
  ∃ before step later values between left, steps = before ++ step :: later ∧
    Completes before s values between ∧ step.run.run between = (.error error, left)

theorem inOrder_completes (h : Completes steps s values s') :
    (inOrder steps).run.run s = (.ok values, s') := by
  induction h with
  | nil s => rfl
  | cons first rest ih => exact bind_ok.2 ⟨_, _, first, bind_ok.2 ⟨_, _, ih, pure_ok.2 ⟨rfl, rfl⟩⟩⟩

/-- What the steps before it changed is still in the tables when a step fails. -/
theorem inOrder_stops (h : Stops steps s error) :
    ∃ left, (inOrder steps).run.run s = (.error error, left) := by
  obtain ⟨before, step, later, values, between, left, rfl, hbefore, hstep⟩ := h
  refine ⟨left, ?_⟩
  induction hbefore with
  | nil s =>
    rw [List.nil_append, inOrder, bind_run, hstep]
  | cons first rest ih =>
    rw [List.cons_append, inOrder, bind_run, first]
    simp only
    rw [bind_run, ih hstep]

/-- Either all steps succeed or one of them is the first to fail. -/
theorem completes_or_stops (steps : List (Statement α)) (s : Store) :
    (∃ values s', Completes steps s values s') ∨ ∃ error, Stops steps s error := by
  induction steps generalizing s with
  | nil => exact .inl ⟨[], s, .nil s⟩
  | cons step steps ih =>
    rcases hstep : step.run.run s with ⟨⟨error⟩ | ⟨value⟩, s'⟩
    · exact .inr ⟨error, [], step, steps, [], s, s', rfl, .nil s, hstep⟩
    · rcases ih s' with ⟨values, s'', hrest⟩ | ⟨error, hstops⟩
      · exact .inl ⟨value :: values, s'', .cons hstep hrest⟩
      · obtain ⟨before, failing, later, values, between, left, rfl, hbefore, hfailing⟩ := hstops
        exact .inr ⟨error, step :: before, failing, later, value :: values, between, left, rfl,
          .cons hstep hbefore, hfailing⟩

end Statement

open Statement (Completes Stops block inOrder)

namespace Catalog

/-- A transaction over steps takes effect as a whole or not at all. All steps succeed or one is the
first to fail. If they and the end succeed, the tables are what the steps one after another make of
them; otherwise the catalog is as it was. -/
structure Atomic (c : Catalog) (steps : List (Statement α))
    (finish : List α → Except CatalogError β) : Prop where
  settled : (∃ values s, Completes steps c.store values s) ∨ ∃ error, Stops steps c.store error
  commits : c.poisoned = false → ∀ values s result, Completes steps c.store values s →
    finish values = .ok result →
      (transact (block steps finish)).run.run c = (.ok result, { c with store := s })
  declines : c.poisoned = false → ∀ values s error, Completes steps c.store values s →
    finish values = .error error → (transact (block steps finish)).run.run c = (.error error, c)
  stops : c.poisoned = false → ∀ error, Stops steps c.store error →
    (transact (block steps finish)).run.run c = (.error error, c)
  poisoned : c.poisoned = true →
    (transact (block steps finish)).run.run c = (.error .lockPoisoned, c)

theorem atomic (c : Catalog) (steps : List (Statement α))
    (finish : List α → Except CatalogError β) : c.Atomic steps finish := by
  constructor
  case settled => exact Statement.completes_or_stops steps c.store
  case commits =>
    intro hp values s result hcompletes hend
    exact transact_ok hp (Statement.bind_ok.2 ⟨values, s, Statement.inOrder_completes hcompletes,
      Statement.ofExcept_ok.2 ⟨hend, rfl⟩⟩)
  case declines =>
    intro hp values s error hcompletes hend
    refine transact_error (s := s) hp ?_
    rw [block, Statement.bind_run, Statement.inOrder_completes hcompletes]
    simp only [hend]
    rfl
  case stops =>
    intro hp error hstops
    obtain ⟨left, hleft⟩ := Statement.inOrder_stops hstops
    refine transact_error (s := left) hp ?_
    rw [block, Statement.bind_run, hleft]
  case poisoned =>
    intro hp
    exact transact_poisoned hp _

/-- While the lock is poisoned no request changes the catalog. -/
theorem respond_poisoned (hp : c.poisoned = true) (request : Request) :
    ((respond request).run c).2 = c := by
  unfold respond
  split
  · rfl
  · exact answerHealth_reads c
  · exact answerListing_reads c request.query
  · exact answerEntity_reads c _ _
  · rw [answerPut_run]
    split
    · rw [putEntity, transact_poisoned hp]
    · rfl
  · rw [answerPatch_run]
    split
    · rw [patchEntity, transact_poisoned hp]
    · rfl
  · rfl

end Catalog

/-- What has an aim is a put or a patch. -/
theorem Request.method_of_aim {request : Request} {aim : Aim} (h : request.aim? = some aim) :
    request.method ≠ .get := by
  intro hget
  rw [aim?, hget] at h
  split at h
  · rename_i hmethod
    cases hmethod
  · rename_i hmethod
    cases hmethod
  · cases h

namespace Catalog

/-- A request that is answered with a failure, or only gets, leaves the catalog as it was. -/
theorem respond_unchanged (c : Catalog) (request : Request)
    (h : (((respond request).run c).1.status ≠ 200 ∧ ((respond request).run c).1.status ≠ 201) ∨
      request.method = .get) : ((respond request).run c).2 = c := by
  cases hp : c.poisoned with
  | true => exact respond_poisoned hp request
  | false =>
    have heffect := Operation.effect_respond hp request
    generalize (respond request).run c = answered at h heffect ⊢
    obtain ⟨answer, after⟩ := answered
    cases heffect with
    | refused => rfl
    | passed => rfl
    | wrote writes =>
      have hsucceeded := writes.succeeded
      simp only [Reply.succeeded, Bool.or_eq_true, beq_iff_eq] at hsucceeded
      rcases h with ⟨hok, hcreated⟩ | hget
      · rcases hsucceeded with hs | hs
        · exact absurd hs hok
        · exact absurd hs hcreated
      · exact absurd hget (Request.method_of_aim writes.aimed)

/-- Failures leave no trace. Whatever the tables hold, a request that is not answered with success
leaves them as they are, and one that only gets always does; and transactions over any steps are
atomic. -/
theorem failures_leave_no_trace (c : Catalog) :
    (∀ request : Request,
      (((respond request).run c).1.status ≠ 200 ∧ ((respond request).run c).1.status ≠ 201) ∨
        request.method = .get → ((respond request).run c).2.store = c.store) ∧
    ∀ (α β : Type) (steps : List (Statement α)) (finish : List α → Except CatalogError β),
      c.Atomic steps finish := by
  refine ⟨?_, fun _ _ => c.atomic⟩
  intro request h
  rw [respond_unchanged c request h]

end Catalog
end MovieCatalog
