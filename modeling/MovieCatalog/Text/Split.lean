/-! Splitting at separators. -/
namespace MovieCatalog

variable {α : Type} [DecidableEq α]

/-- The pieces between separators, of which there is one more than there are separators. -/
def split (separator : α) : List α → List (List α)
  | [] => [[]]
  | a :: rest =>
    if a = separator then [] :: split separator rest
    else match split separator rest with
      | piece :: pieces => (a :: piece) :: pieces
      | [] => [[a]]

variable {separator : α} {piece : List α}

theorem split_eq_splitOn (separator : α) (xs : List α) :
    split separator xs = xs.splitOn separator := by
  induction xs with
  | nil => rfl
  | cons x xs ih =>
    rw [split, ih, List.splitOn_cons_eq_if_modifyHead]
    by_cases hx : x = separator
    · rw [if_pos hx, if_pos (beq_iff_eq.2 hx)]
    · rw [if_neg hx, if_neg (mt beq_iff_eq.1 hx)]
      cases h : xs.splitOn separator with
      | nil => exact absurd h (List.splitOn_ne_nil _ _)
      | cons piece pieces => rfl

theorem not_mem_of_mem_split {xs : List α} (h : piece ∈ split separator xs) :
    separator ∉ piece := by
  fun_induction split separator xs generalizing piece with
  | case1 =>
    rw [List.mem_singleton.1 h]
    exact List.not_mem_nil
  | case2 rest ih =>
    rcases List.mem_cons.1 h with rfl | h
    · exact List.not_mem_nil
    · exact ih h
  | case3 a rest hne first pieces heq ih =>
    rw [heq] at ih
    rcases List.mem_cons.1 h with rfl | h
    · rw [List.mem_cons, not_or]
      exact ⟨Ne.symm hne, ih List.mem_cons_self⟩
    · exact ih (List.mem_cons_of_mem _ h)
  | case4 a rest hne heq ih =>
    rw [List.mem_singleton.1 h]
    exact List.not_mem_cons_of_ne_of_not_mem (Ne.symm hne) List.not_mem_nil

end MovieCatalog
