import Mathlib.Data.List.Sort
import MovieCatalog.Proofs.Listing

/-! The query of a page as a statement of SQL, evaluated clause by clause: joins, conditions,
distinct columns, order, limit. Placeholders take the parameters by position. -/
namespace MovieCatalog

/-- What a query shows of a plan's row. -/
structure Columns where
  id : String
  tag : String
  body : String
  deriving DecidableEq

def Entry.columns (row : Entry) : Columns := ⟨row.id, row.tag, row.body⟩

/-- A row of the joined tables: a plan, and the link of each joined side. -/
structure Joined where
  plan : Entry
  link : Side → Option Link

/-- Put a link beside a row. -/
def Joined.beside (row : Joined) (side : Side) (link : Link) : Joined :=
  { row with link := fun other => if other = side then some link else row.link other }

/-- A condition with a placeholder. -/
inductive Condition where
  | leadsTo (side : Side)
  | follows
  deriving DecidableEq

namespace Condition

def text : Condition → String
  | .leadsTo .input => "pi.source_id = ?"
  | .leadsTo .output => "po.work_id = ?"
  | .follows => "p.id > ?"

/-- Whether a row meets a condition. A column of a table that is not joined meets none. -/
def holds (value : String) (row : Joined) : Condition → Bool
  | .leadsTo side => (row.link side).any fun link => link.target == value
  | .follows => decide (value < row.plan.id)

end Condition

/-- The clauses that differ between queries of plans. -/
structure Select where
  joins : List Side
  conditions : List Condition
  deriving DecidableEq

namespace Select

def joinText : Side → String
  | .input => " INNER JOIN plan_inputs pi ON p.id = pi.plan_id"
  | .output => " INNER JOIN plan_outputs po ON p.id = po.plan_id"

def text (select : Select) : String :=
  "SELECT DISTINCT p.id, p.kind, p.body FROM plans p" ++
  "".intercalate (select.joins.map joinText) ++
  (if select.conditions.isEmpty then ""
    else " WHERE " ++ " AND ".intercalate (select.conditions.map Condition.text)) ++
  " ORDER BY p.id ASC LIMIT ?"

/-- Each row with each link of a side that is a link of its plan. -/
def join (s : Store) (rows : List Joined) (side : Side) : List Joined :=
  rows.flatMap fun row =>
    ((s.links side).filter fun link => row.plan.id == link.plan).map (row.beside side)

def joined (select : Select) (s : Store) : List Joined :=
  select.joins.foldl (join s) (s.plans.map fun plan => ⟨plan, fun _ => none⟩)

/-- Each condition with its value, and the limit; `none` when the parameters are too few, too many
or of the wrong kind. -/
def bind : List Condition → List Parameter → Option (List (Condition × String) × Nat)
  | [], [.number limit] => some ([], limit)
  | condition :: conditions, .text value :: parameters =>
    (bind conditions parameters).map fun bound => ((condition, value) :: bound.1, bound.2)
  | _, _ => none

/-- The rows of a statement with its parameters. -/
def rows (select : Select) (parameters : List Parameter) (s : Store) : Option (List Columns) :=
  (bind select.conditions parameters).map fun bound =>
    (((((select.joined s).filter fun row => bound.1.all fun part => part.1.holds part.2 row).map
      fun row => row.plan.columns).eraseDups).mergeSort
        fun a b => decide (a.id ≤ b.id)).take bound.2

end Select

namespace PlanQuery

/-- The conditions of a query with their values. -/
def bound (query : PlanQuery) : List (Condition × String) :=
  (query.filter.source.map fun id => (Condition.leadsTo .input, id.text)).toList ++
  (query.filter.work.map fun id => (Condition.leadsTo .output, id.text)).toList ++
  (query.after.map fun id => (Condition.follows, id.text)).toList

/-- The statement of a query. -/
def select (query : PlanQuery) : Select :=
  ⟨(query.filter.source.map fun _ => Side.input).toList ++
    (query.filter.work.map fun _ => Side.output).toList, query.bound.map Prod.fst⟩

end PlanQuery

variable {s : Store} {query : PlanQuery} {rows : List Joined} {row : Joined} {side side' : Side}
  {link : Link} {wanted : Option Uuid} {plan : Entry}

/-- Lists with ascending keys and the same members are the same. -/
theorem eq_of_pairwise_key_lt {α : Type} (key : α → String) {l l' : List α}
    (h : l.Pairwise fun a b => key a < key b) (h' : l'.Pairwise fun a b => key a < key b)
    (hm : ∀ a, a ∈ l ↔ a ∈ l') : l = l' := by
  have : Std.Irrefl fun a b : α => key a < key b := ⟨fun a => String.lt_irrefl (key a)⟩
  have : Std.Antisymm fun a b : α => key a < key b :=
    ⟨fun a b hab hba => absurd hba (String.lt_asymm hab)⟩
  exact h.eq_of_mem_iff h' hm

theorem Joined.link_beside_self : (row.beside side link).link side = some link := if_pos rfl

theorem Joined.link_beside_of_ne (h : side' ≠ side) :
    (row.beside side link).link side' = row.link side' := if_neg h

/-- Whether the link of a side leads to what is wanted there, if anything is. -/
def Joined.Leads (row : Joined) (side : Side) (wanted : Option Uuid) : Prop :=
  ∀ target ∈ wanted, (Condition.leadsTo side).holds target.text row = true

theorem Select.mem_join : row ∈ Select.join s rows side ↔ ∃ row' ∈ rows, ∃ link ∈ s.links side,
    row'.plan.id = link.plan ∧ row = row'.beside side link := by
  simp only [Select.join, List.mem_flatMap, List.mem_map, List.mem_filter, beq_iff_eq]
  constructor
  · rintro ⟨row', hrow', link, ⟨hlink, hplan⟩, rfl⟩
    exact ⟨row', hrow', link, hlink, hplan, rfl⟩
  · rintro ⟨row', hrow', link, hlink, hplan, rfl⟩
    exact ⟨row', hrow', link, ⟨hlink, hplan⟩, rfl⟩

/-- Joining the links of a side where something is wanted there keeps the rows whose plan has such a
link. What is asked besides (`P`) must not look at the side. -/
theorem Select.exists_mem_join {P : Joined → Prop}
    (hP : ∀ row link, P (row.beside side link) ↔ P row) :
    (∃ row ∈ (wanted.map fun _ => side).toList.foldl (Select.join s) rows,
      row.Leads side wanted ∧ P row) ↔
    ∃ row ∈ rows, P row ∧
      ∀ target ∈ wanted, (⟨row.plan.id, target.text⟩ : Link) ∈ s.links side := by
  cases wanted with
  | none => simp [Joined.Leads]
  | some target =>
    have hleads : ∀ row link, (Joined.beside row side link).Leads side (some target) ↔
        link.target = target.text := by
      intro row link
      simp [Joined.Leads, Condition.holds, Joined.link_beside_self]
    simp only [Option.map_some, Option.toList_some, List.foldl_cons, List.foldl_nil,
      Option.mem_def, Option.some.injEq, forall_eq']
    constructor
    · rintro ⟨_, hrow, htarget, hrest⟩
      obtain ⟨row, hmem, link, hlink, hplan, rfl⟩ := Select.mem_join.1 hrow
      rw [hleads] at htarget
      refine ⟨row, hmem, (hP row link).1 hrest, ?_⟩
      rw [hplan, ← htarget]
      exact hlink
    · rintro ⟨row, hmem, hrest, hlink⟩
      refine ⟨_, Select.mem_join.2 ⟨row, hmem, _, hlink, rfl, rfl⟩, ?_, (hP row _).2 hrest⟩
      exact (hleads row _).2 rfl

namespace PlanQuery

/-- The plans that meet all conditions in the joined tables. -/
theorem exists_mem_joined :
    (∃ row ∈ query.select.joined s, (row.Leads .input query.filter.source ∧
      row.Leads .output query.filter.work ∧ query.isAfter row.plan.id = true) ∧ row.plan = plan) ↔
    plan ∈ s.plans ∧ (∀ target ∈ query.filter.source,
        (⟨plan.id, target.text⟩ : Link) ∈ s.inputs) ∧
      (∀ target ∈ query.filter.work, (⟨plan.id, target.text⟩ : Link) ∈ s.outputs) ∧
      query.isAfter plan.id = true := by
  have hswap : ∀ row : Joined, (row.Leads .input query.filter.source ∧
        row.Leads .output query.filter.work ∧ query.isAfter row.plan.id = true) ∧ row.plan = plan ↔
      row.Leads .output query.filter.work ∧ row.Leads .input query.filter.source ∧
        query.isAfter row.plan.id = true ∧ row.plan = plan := by
    intro row
    rw [and_left_comm, and_assoc, and_assoc]
  simp only [hswap, Select.joined, select, List.foldl_append]
  rw [Select.exists_mem_join]
  · simp only [and_assoc]
    rw [Select.exists_mem_join]
    · simp only [List.mem_map]
      constructor
      · rintro ⟨_, ⟨plan', hplan, rfl⟩, ⟨hafter, rfl, hout⟩, hin⟩
        exact ⟨hplan, hin, hout, hafter⟩
      · rintro ⟨hplan, hin, hout, hafter⟩
        exact ⟨_, ⟨plan, hplan, rfl⟩, ⟨hafter, rfl, hout⟩, hin⟩
    · intro row link
      rfl
  · intro row link
    have hlink : (row.beside .output link).link .input = row.link .input :=
      Joined.link_beside_of_ne (by decide)
    simp only [Joined.Leads, Condition.holds, hlink]
    rfl

theorem text_select (query : PlanQuery) : query.select.text = query.sql := by
  obtain ⟨⟨source, work⟩, after, limit⟩ := query
  cases source <;> cases work <;> cases after <;> rfl

theorem parameters_eq (query : PlanQuery) : query.parameters =
    query.bound.map (fun part => Parameter.text part.2) ++ [.number query.limit] := by
  obtain ⟨⟨source, work⟩, after, limit⟩ := query
  cases source <;> cases work <;> cases after <;> rfl

theorem bind_map (bound : List (Condition × String)) (limit : Nat) :
    Select.bind (bound.map Prod.fst)
      (bound.map (fun part => Parameter.text part.2) ++ [.number limit]) = some (bound, limit) := by
  induction bound with
  | nil => rfl
  | cons part bound ih =>
    rw [List.map_cons, List.map_cons, List.cons_append, Select.bind, ih]
    rfl

/-- Every placeholder of a query has its parameter. -/
theorem bind_select (query : PlanQuery) :
    Select.bind query.select.conditions query.parameters = some (query.bound, query.limit) := by
  rw [parameters_eq]
  exact bind_map query.bound query.limit

theorem all_bound : (query.bound.all fun part => part.1.holds part.2 row) = true ↔
    row.Leads .input query.filter.source ∧ row.Leads .output query.filter.work ∧
      query.isAfter row.plan.id = true := by
  have hleads : ∀ (side : Side) (wanted : Option Uuid),
      ((wanted.map fun id => (Condition.leadsTo side, id.text)).toList.all fun part =>
        part.1.holds part.2 row) = true ↔ row.Leads side wanted := by
    intro side wanted
    cases wanted <;> simp [Joined.Leads]
  have hafter : ((query.after.map fun id => (Condition.follows, id.text)).toList.all fun part =>
      part.1.holds part.2 row) = query.isAfter row.plan.id := by
    rw [isAfter]
    cases query.after <;> simp [Condition.holds]
  rw [bound, List.all_append, List.all_append, Bool.and_eq_true, Bool.and_eq_true, hleads, hleads,
    hafter, and_assoc]

/-- Evaluating the statement of a query with its parameters gives the rows of the query. -/
theorem rows_select (hd : (s.ids .plans).Nodup) (query : PlanQuery) :
    query.select.rows query.parameters s = some ((query.rows s).map Entry.columns) := by
  rw [Select.rows, bind_select, rows_eq_take, Option.map_some, List.map_take]
  simp only
  congr 2
  have hmem : ∀ columns, columns ∈ ((query.select.joined s).filter fun row =>
      query.bound.all fun part => part.1.holds part.2 row).map (fun row => row.plan.columns) ↔
        ∃ plan ∈ query.sorted s, plan.columns = columns := by
    intro columns
    simp only [List.mem_map, List.mem_filter, all_bound, mem_sorted, ways_ne_nil_iff]
    constructor
    · rintro ⟨row, ⟨hrow, hconditions⟩, rfl⟩
      have hplan := exists_mem_joined.1 ⟨row, hrow, hconditions, rfl⟩
      exact ⟨row.plan, ⟨⟨hplan.1, hplan.2.1, hplan.2.2.1⟩, hplan.2.2.2⟩, rfl⟩
    · rintro ⟨plan, ⟨⟨hplan, hin, hout⟩, hafter⟩, rfl⟩
      obtain ⟨row, hrow, hconditions, rfl⟩ := exists_mem_joined.2 ⟨hplan, hin, hout, hafter⟩
      exact ⟨row, ⟨hrow, hconditions⟩, rfl⟩
  refine eq_of_pairwise_key_lt Columns.id ?_ ?_ ?_
  · refine mergeSort_pairwise_lt Columns.id (nodup_eraseDups _) ?_
    intro a ha b hb hid
    obtain ⟨plan, hplan, rfl⟩ := (hmem a).1 (List.mem_eraseDups.1 ha)
    obtain ⟨plan', hplan', rfl⟩ := (hmem b).1 (List.mem_eraseDups.1 hb)
    rw [Store.eq_of_id_eq hd (mem_sorted.1 hplan).1.1 (mem_sorted.1 hplan').1.1 hid]
  · exact List.pairwise_map.2 (sorted_pairwise hd query)
  · intro columns
    rw [List.mem_mergeSort, List.mem_eraseDups, hmem, List.mem_map]

end PlanQuery

end MovieCatalog
