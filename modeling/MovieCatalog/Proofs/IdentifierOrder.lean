import MovieCatalog.Proofs.Listing

/-! Identifiers in text columns. Their texts compare byte by byte as the identifiers do, so a query
over the column selects and orders plans as one over the identifiers would. -/
namespace MovieCatalog

instance : DecidableLT Uuid := fun a b => inferInstanceAs (Decidable (a.bytes < b.bytes))

/-- The rows of a query that compares and sorts identifiers, once it is known which one each row
has. -/
def PlanQuery.rowsByIdentifier (query : PlanQuery) (identify : Entry → Uuid) (s : Store) :
    List Entry :=
  ((((query.joined s).filter fun row =>
      query.after.all fun last => decide (last < identify row)).eraseDups).mergeSort
    fun a b => decide (¬ identify b < identify a)).take query.limit

namespace Uuid

variable {a b : Uuid} (id : Uuid)

theorem chars_ascii : ∀ c ∈ id.chars, c.toNat < 0x80 := by
  intro c hc
  rcases mem_chars hc with rfl | ⟨n, hn, rfl⟩
  · decide
  · exact Hex.digit_toNat_lt hn

/-- The bytes of the texts are ordered as the texts are, character by character. -/
theorem ofText_text_lt : Utf8.ofText a.text < Utf8.ofText b.text ↔ a.text < b.text := by
  have htext : a.text < b.text ↔ a.chars < b.chars := by
    change a.text.toList < b.text.toList ↔ _
    rw [text, text, String.toList_ofList, String.toList_ofList]
  rw [htext, text, text, Utf8.ofText_ofList, Utf8.ofText_ofList]
  exact Utf8.encode_lt_encode a.chars_ascii b.chars_ascii

theorem text_le_text : a.text ≤ b.text ↔ ¬ b < a := by
  rw [← text_lt_text, String.not_lt]

theorem parseColumn_text (column : Nat) : Statement.parseColumn column id.text = .ok id := by
  rw [Statement.parseColumn, parse_text]

end Uuid

/-- Orders that agree on the values of a list sort it alike. -/
theorem mergeSort_congr {α : Type} {le le' : α → α → Bool} {l : List α}
    (h : ∀ a ∈ l, ∀ b ∈ l, le a b = le' a b) : l.mergeSort le = l.mergeSort le' := by
  have hmap := List.map_mergeSort (f := id) h
  rwa [List.map_id, List.map_id] at hmap

namespace PlanQuery

variable {s : Store} {identify : Entry → Uuid} {row : Entry}

theorem isAfter_eq (query : PlanQuery) (h : row.id = (identify row).text) :
    query.isAfter row.id = query.after.all fun last => decide (last < identify row) := by
  rw [Bool.eq_iff_iff, isAfter_iff h]
  cases query.after <;> simp

/-- Where the id texts are those of identifiers, it does not matter which of them are compared. -/
theorem rows_eq_rowsByIdentifier (query : PlanQuery)
    (h : ∀ row ∈ s.plans, row.id = (identify row).text) :
    query.rows s = query.rowsByIdentifier identify s := by
  have hjoined : ∀ row ∈ query.joined s, row.id = (identify row).text :=
    fun row hrow => h row (mem_joined.1 hrow).1
  have hfilter : ((query.joined s).filter fun row => query.isAfter row.id) =
      (query.joined s).filter fun row =>
        query.after.all fun last => decide (last < identify row) :=
    List.filter_congr fun row hrow => query.isAfter_eq (hjoined row hrow)
  rw [rows, rowsByIdentifier, hfilter]
  congr 1
  refine mergeSort_congr ?_
  have hid : ∀ row ∈ ((query.joined s).filter fun row =>
      query.after.all fun last => decide (last < identify row)).eraseDups,
      row.id = (identify row).text := fun row hrow =>
    hjoined row (List.mem_filter.1 (List.mem_eraseDups.1 hrow)).1
  intro a ha b hb
  rw [hid a ha, hid b hb]
  exact decide_eq_decide.2 Uuid.text_le_text

end PlanQuery

/-- The text of an identifier is as good as the identifier: the order of its bytes is that of the
identifier's, no other identifier has it, every column reads it back, and queries over the column
give the rows that queries over the identifiers do. -/
theorem Uuid.texts_order_faithfully :
    (∀ a b : Uuid, (Utf8.ofText a.text < Utf8.ofText b.text ↔ a.bytes < b.bytes) ∧
      (a.text < b.text ↔ a.bytes < b.bytes)) ∧
    Function.Injective Uuid.text ∧
    (∀ (column : Nat) (id : Uuid), Statement.parseColumn column id.text = .ok id) ∧
    ∀ (query : PlanQuery) (s : Store) (identify : Entry → Uuid),
      (∀ row ∈ s.plans, row.id = (identify row).text) →
        query.rows s = query.rowsByIdentifier identify s := by
  refine ⟨fun a b => ⟨Uuid.ofText_text_lt.trans Uuid.text_lt_text, Uuid.text_lt_text⟩, ?_, ?_, ?_⟩
  · intro a b h
    exact Uuid.text_injective h
  · exact fun column id => id.parseColumn_text column
  · exact fun query s identify h => query.rows_eq_rowsByIdentifier h

/-- The digits 9 and a are neighbours, though other characters lie between them in texts. -/
theorem Uuid.texts_order_faithfully_past_nine :
    let plan (id : Uuid) : Entry := ⟨id.text, "direct", "", 1⟩
    let s : Store := { Store.empty with
      plans := [plan (.ofNat 0x10), plan (.ofNat 0xa), plan (.ofNat 0x9), plan (.ofNat 0x8)] }
    let query : PlanQuery := ⟨⟨none, none⟩, some (.ofNat 0x8), 3⟩
    let identify (row : Entry) : Uuid := (Uuid.ofText? row.id).getD .nil
    (∀ row ∈ s.plans, row.id = (identify row).text) ∧
      query.rows s = query.rowsByIdentifier identify s := by
  intro plan s query identify
  have hid : ∀ row ∈ s.plans, row.id = (identify row).text := by decide +kernel
  exact ⟨hid, texts_order_faithfully.2.2.2 query s identify hid⟩

end MovieCatalog
