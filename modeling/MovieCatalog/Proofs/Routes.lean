import MovieCatalog.Http.Server
import MovieCatalog.Proofs.Uuid

/-! The paths of the routes. A path has the names of its route between single slashes, and any
number of slashes at either end. -/
namespace MovieCatalog

variable {α : Type} [DecidableEq α] {a : α} {xs ys cs inner : List α} {parts : List String}
  {path : String} {route : Route}

theorem dropWhile_eq_iff :
    xs.dropWhile (· == a) = ys ↔ ys.head? ≠ some a ∧ ∃ n, xs = List.replicate n a ++ ys := by
  constructor
  · rintro rfl
    constructor
    · intro h
      have hnot := List.head?_dropWhile_not (· == a) xs
      rw [h] at hnot
      exact absurd hnot (by simp)
    · have hall : ∀ b ∈ xs.takeWhile (· == a), b = a :=
        fun b hb => beq_iff_eq.1 (List.all_eq_true.1 List.all_takeWhile b hb)
      refine ⟨(xs.takeWhile (· == a)).length, ?_⟩
      rw [← List.eq_replicate_iff.2 ⟨rfl, hall⟩, List.takeWhile_append_dropWhile]
  · rintro ⟨hhead, n, rfl⟩
    rw [List.dropWhile_append_of_pos fun b hb => beq_iff_eq.2 (List.eq_of_mem_replicate hb)]
    cases ys with
    | nil => rfl
    | cons y ys =>
      exact List.dropWhile_cons_of_neg fun he => hhead (congrArg some (beq_iff_eq.1 he))

/-- What is left of a list without the copies of a value at its ends. -/
theorem trimmed_eq_iff (hne : inner ≠ []) :
    ((cs.dropWhile (· == a)).reverse.dropWhile (· == a)).reverse = inner ↔
      inner.head? ≠ some a ∧ inner.getLast? ≠ some a ∧
        ∃ front back, cs = List.replicate front a ++ inner ++ List.replicate back a := by
  -- With an element in it, `inner` has the same head before and after the back is dropped.
  obtain ⟨x, rest, rfl⟩ := List.exists_cons_of_ne_nil hne
  have hback : ∀ n,
      (cs.dropWhile (· == a)).reverse = List.replicate n a ++ (x :: rest).reverse ↔
        cs.dropWhile (· == a) = x :: rest ++ List.replicate n a := by
    intro n
    rw [List.reverse_eq_iff, List.reverse_append, List.reverse_reverse, List.reverse_replicate]
  rw [List.reverse_eq_iff, dropWhile_eq_iff, List.head?_reverse]
  simp only [hback, dropWhile_eq_iff, List.cons_append, List.head?_cons, List.append_assoc]
  constructor
  · rintro ⟨hlast, back, hfirst, front, hcs⟩
    exact ⟨hfirst, hlast, front, back, hcs⟩
  · rintro ⟨hfirst, hlast, front, back, hcs⟩
    exact ⟨hlast, back, hfirst, front, hcs⟩

namespace Route

/-- The characters of names with a slash between each two. -/
def joined (parts : List String) : List Char := ['/'].intercalate (parts.map String.toList)

theorem split_eq_iff {cs : List Char} (hne : parts ≠ []) :
    (split '/' cs).map String.ofList = parts ↔
      (∀ name ∈ parts, '/' ∉ name.toList) ∧ cs = joined parts := by
  constructor
  · rintro rfl
    refine ⟨?_, ?_⟩
    · intro name hname
      obtain ⟨piece, hpiece, rfl⟩ := List.mem_map.1 hname
      rw [String.toList_ofList]
      exact not_mem_of_mem_split hpiece
    · have hpieces : ((split '/' cs).map String.ofList).map String.toList = split '/' cs := by
        simp
      rw [joined, hpieces, split_eq_splitOn, List.intercalate_splitOn]
  · rintro ⟨hapart, rfl⟩
    rw [joined, split_eq_splitOn, List.splitOn_intercalate _ (by simpa using hapart)
      (by simpa using hne)]
    simp

/-- The paths with given segments. -/
theorem segments_eq_iff (hne : joined parts ≠ []) : segments path = parts ↔
    (∀ name ∈ parts, '/' ∉ name.toList) ∧
      (joined parts).head? ≠ some '/' ∧ (joined parts).getLast? ≠ some '/' ∧
        ∃ front back, path.toList =
          List.replicate front '/' ++ joined parts ++ List.replicate back '/' := by
  have hparts : parts ≠ [] := by
    rintro rfl
    exact hne rfl
  rw [segments, split_eq_iff hparts, trimmed_eq_iff hne]

/-- The names on the paths of a route. -/
def names : Route → List String
  | .health => ["health"]
  | .listing => ["plans"]
  | .entity table id => [table.name, id]
  | .submission kind id => [kind.table.name, id, kind.segment]

/-- Whether paths can have the identifier of a route in them. At the end of a path there must be
something of it. -/
def Fits : Route → Prop
  | .health | .listing => True
  | .entity _ id => '/' ∉ id.toList ∧ id ≠ ""
  | .submission _ id => '/' ∉ id.toList

theorem ofSegments?_eq_some_iff : ofSegments? parts = some route ↔ parts = route.names := by
  constructor
  · intro h
    unfold ofSegments? at h
    split at h
    · cases h
      rfl
    · cases h
      rfl
    · obtain ⟨table, htable, rfl⟩ := Option.map_eq_some_iff.1 h
      have hname := List.find?_some htable
      rw [Route.names, beq_iff_eq.1 hname]
    · obtain ⟨table, htable, h⟩ := Option.bind_eq_some_iff.1 h
      obtain ⟨kind, hkind, h⟩ := Option.bind_eq_some_iff.1 h
      cases h
      have hname := List.find?_some htable
      have hsegment := List.find?_some hkind
      have hmem := Table.mem_kinds.1 (List.mem_of_find?_eq_some hkind)
      rw [Route.names, hmem, beq_iff_eq.1 hname, beq_iff_eq.1 hsegment]
    · cases h
  · rintro rfl
    cases route with
    | health | listing => rfl
    | entity table id => cases table <;> rfl
    | submission kind id => cases kind <;> rfl

theorem getLast?_slash {id : String} (h : '/' ∉ id.toList) :
    ('/' :: id.toList).getLast? = some '/' ↔ id = "" := by
  rw [List.getLast?_cons, Option.some_inj]
  constructor
  · intro hlast
    cases hid : id.toList.getLast? with
    | none => exact String.toList_injective (List.getLast?_eq_none_iff.1 hid)
    | some c =>
      rw [hid, Option.getD_some] at hlast
      exact absurd (List.mem_of_getLast? hid) (hlast ▸ h)
  · rintro rfl
    rfl

theorem fits_iff : route.Fits ↔ (∀ name ∈ route.names, '/' ∉ name.toList) ∧
    (joined route.names).head? ≠ some '/' ∧ (joined route.names).getLast? ≠ some '/' := by
  cases route with
  | health | listing => simp [Fits, joined, names]
  | entity table id =>
    cases table <;> simp +contextual [Fits, joined, names, Table.name, getLast?_slash]
  | submission kind id =>
    cases kind <;>
      simp [Fits, joined, names, Kind.table, Table.name, Kind.segment, List.getLast?_cons]

theorem joined_names (route : Route) : joined route.names ≠ [] := by
  cases route with
  | health | listing => decide
  | entity table id | submission kind id => simp [joined, names]

/-- Exactly the paths of a route lead to it. -/
theorem ofPath?_eq_some_iff : ofPath? path = some route ↔ route.Fits ∧
    ∃ front back, path.toList =
      List.replicate front '/' ++ joined route.names ++ List.replicate back '/' := by
  rw [ofPath?, ofSegments?_eq_some_iff, segments_eq_iff route.joined_names, fits_iff, and_assoc,
    and_assoc]

/-- An identifier may be missing before a kind, and not at the end. -/
example : ofPath? "//works//movie/" = some (.submission .movie "") ∧ ofPath? "/works/" = none := by
  decide

theorem ofPath?_of_fits (h : route.Fits) :
    ofPath? ("/" ++ "/".intercalate route.names) = some route :=
  ofPath?_eq_some_iff.2 ⟨h, 1, 0, by simp [joined]⟩

theorem ofPath?_plans : ofPath? "/plans" = some .listing := by
  have hfits : Fits .listing := trivial
  exact ofPath?_of_fits hfits

theorem ofPath?_entity (table : Table) {id : String} (h : '/' ∉ id.toList) (hne : id ≠ "") :
    ofPath? ("/" ++ table.name ++ "/" ++ id) = some (.entity table id) := by
  have hfits : Fits (.entity table id) := ⟨h, hne⟩
  simpa only [names, String.intercalate_cons_cons, String.intercalate_singleton,
    String.append_assoc] using ofPath?_of_fits hfits

theorem ofPath?_submission (kind : Kind) {id : String} (h : '/' ∉ id.toList) :
    ofPath? ("/" ++ kind.table.name ++ "/" ++ id ++ "/" ++ kind.segment) =
      some (.submission kind id) := by
  have hfits : Fits (.submission kind id) := h
  simpa only [names, String.intercalate_cons_cons, String.intercalate_singleton,
    String.append_assoc] using ofPath?_of_fits hfits

end Route

namespace Uuid

theorem slash_not_mem_text (id : Uuid) : '/' ∉ id.text.toList := by
  have hslash : ∀ n < 16, Hex.digit n ≠ '/' := by decide
  rw [text, String.toList_ofList]
  intro hmem
  rcases mem_chars hmem with h | ⟨n, hn, h⟩
  · exact absurd h (by decide)
  · exact hslash n hn h.symm

theorem text_ne_empty (id : Uuid) : id.text ≠ "" := by
  obtain ⟨n, -, cs, hchars⟩ := id.chars_eq_cons
  intro h
  have hnil : id.text.toList = [] := congrArg String.toList h
  rw [text, String.toList_ofList, hchars] at hnil
  cases hnil

end Uuid
end MovieCatalog
