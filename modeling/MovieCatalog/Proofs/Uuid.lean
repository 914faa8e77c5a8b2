import MovieCatalog.Uuid.Parser
import MovieCatalog.Proofs.Hex

/-! The text of an identifier: it is read back, and it is ordered as the identifier is. -/
namespace MovieCatalog.Uuid

variable {a b : Uuid} (id : Uuid)

/-- Five groups of the right sizes are read as their digits without the hyphens. -/
theorem ofGroups?_of_length {c₁ c₂ c₃ c₄ c₅ : List Char} (h₁ : c₁.length = 8)
    (h₂ : c₂.length = 4) (h₃ : c₃.length = 4) (h₄ : c₄.length = 4) :
    ofGroups? (c₁ ++ '-' :: c₂ ++ '-' :: c₃ ++ '-' :: c₄ ++ '-' :: c₅) =
      ofDigits? (c₁ ++ c₂ ++ c₃ ++ c₄ ++ c₅) := by
  simp [ofGroups?, List.getElem?_append, List.drop_append, List.drop_eq_nil_of_le, h₁, h₂,
    h₃, h₄]

theorem length_take_bytes {size start : Nat} (h : start + size ≤ 16) :
    ((id.bytes.drop start).take size).length = size := by
  rw [List.length_take, List.length_drop, id.size_eq]
  omega

theorem bytes_eq_append : id.bytes.take 4 ++ (id.bytes.drop 4).take 2 ++
    (id.bytes.drop 6).take 2 ++ (id.bytes.drop 8).take 2 ++ id.bytes.drop 10 = id.bytes := by
  have h : ∀ m n, (id.bytes.drop m).take n ++ id.bytes.drop (m + n) = id.bytes.drop m := by
    intro m n
    rw [← List.drop_drop, List.take_append_drop]
  rw [List.append_assoc, h 8 2, List.append_assoc, h 6 2, List.append_assoc, h 4 2,
    List.take_append_drop]

theorem ofDigits?_encode : ofDigits? (Hex.encode id.bytes) = some id := by
  rw [ofDigits?, Hex.decode?_encode]
  exact dif_pos id.size_eq

theorem ofGroups?_chars : ofGroups? id.chars = some id := by
  have h₁ : (id.bytes.take 4).length = 4 := id.length_take_bytes (by decide : 0 + 4 ≤ 16)
  rw [chars, ofGroups?_of_length]
  · simp only [← Hex.encode_append, bytes_eq_append, ofDigits?_encode]
  · rw [Hex.length_encode, h₁]
  · rw [Hex.length_encode, length_take_bytes _ (by decide)]
  · rw [Hex.length_encode, length_take_bytes _ (by decide)]
  · rw [Hex.length_encode, length_take_bytes _ (by decide)]

theorem decode?_hyphen (cs : List Char) : Hex.decode? ('-' :: cs) = none := by
  have hv : Hex.value? '-' = none := by decide
  cases cs with
  | nil => rfl
  | cons c cs => simp only [Hex.decode?, hv]

theorem ofDigits?_chars : ofDigits? id.chars = none := by
  have h : Hex.decode? id.chars = none := by
    simp only [chars, List.append_assoc, List.cons_append, Hex.decode?_encode_append,
      decode?_hyphen, Option.map_none]
  rw [ofDigits?, h]

theorem chars_eq_cons : ∃ n < 16, ∃ cs, id.chars = Hex.digit n :: cs := by
  obtain ⟨bytes, h⟩ := id
  cases bytes with
  | nil => simp at h
  | cons b bytes => exact ⟨_, Hex.byte_div_lt b, _, rfl⟩

/-- The text of an identifier is made of digits and hyphens. -/
theorem mem_chars {id : Uuid} {c : Char} (h : c ∈ id.chars) :
    c = '-' ∨ ∃ n < 16, c = Hex.digit n := by
  simp only [chars, List.mem_append, List.mem_cons] at h
  rcases h with (((h | h | h) | h | h) | h | h) | h | h
  all_goals first | exact .inl h | exact .inr (Hex.mem_encode h)

/-- A text that begins with a digit has neither braces nor a name prefix. -/
theorem unwrap?_digit {n : Nat} (hn : n < 16) (cs : List Char) :
    unwrap? (Hex.digit n :: cs) = none := by
  have hall : ∀ n < 16, Hex.digit n ≠ '{' ∧ (Hex.digit n).toLower ≠ 'u' := by decide
  obtain ⟨hbrace, hu⟩ := hall n hn
  unfold unwrap?
  split
  · rename_i h
    exact absurd (List.cons.inj h).1 hbrace
  · rw [if_neg]
    intro h
    exact hu (List.cons.inj h).1

/-- The text of an identifier is read as that identifier. -/
theorem ofText?_text : ofText? id.text = some id := by
  obtain ⟨n, hn, cs, h⟩ := id.chars_eq_cons
  rw [ofText?, text, String.toList_ofList, ofChars?, h, unwrap?_digit hn]
  simp only [← h, ofDigits?_chars, ofGroups?_chars, Option.none_or]

@[simp] theorem parse_text : parse id.text = .ok id := by
  rw [parse, ofText?_text]

theorem text_injective (h : a.text = b.text) : a = b := by
  have ha := ofText?_text a
  rw [h, ofText?_text] at ha
  exact (Option.some.inj ha).symm

/-- Two texts of one length compare as two byte sequences of one length do. -/
structure CompareAlike (cs ds : List Char) (xs ys : Bytes) : Prop where
  length_chars : cs.length = ds.length
  length_bytes : xs.length = ys.length
  lt_iff : cs < ds ↔ xs < ys
  eq_iff : cs = ds ↔ xs = ys

namespace CompareAlike
variable {cs ds cs' ds' : List Char} {xs ys xs' ys' : Bytes}

theorem encode (h : xs.length = ys.length) :
    CompareAlike (Hex.encode xs) (Hex.encode ys) xs ys where
  length_chars := by rw [Hex.length_encode, Hex.length_encode, h]
  length_bytes := h
  lt_iff := Hex.encode_lt_encode h
  eq_iff := ⟨Hex.encode_injective, fun h => by rw [h]⟩

theorem hyphen (h : CompareAlike cs ds xs ys) : CompareAlike ('-' :: cs) ('-' :: ds) xs ys where
  length_chars := by rw [List.length_cons, List.length_cons, h.length_chars]
  length_bytes := h.length_bytes
  lt_iff := by
    rw [List.cons_lt_cons_iff, ← h.lt_iff]
    constructor
    · rintro (hlt | ⟨-, hlt⟩)
      · exact absurd hlt (Char.lt_irrefl _)
      · exact hlt
    · intro hlt
      exact .inr ⟨rfl, hlt⟩
  eq_iff := by rw [← h.eq_iff, List.cons.injEq, eq_self, true_and]

theorem append (h : CompareAlike cs ds xs ys) (h' : CompareAlike cs' ds' xs' ys') :
    CompareAlike (cs ++ cs') (ds ++ ds') (xs ++ xs') (ys ++ ys') where
  length_chars := by rw [List.length_append, List.length_append, h.length_chars, h'.length_chars]
  length_bytes := by rw [List.length_append, List.length_append, h.length_bytes, h'.length_bytes]
  lt_iff := by
    rw [Hex.append_lt_append_iff h.length_chars, Hex.append_lt_append_iff h.length_bytes,
      h.lt_iff, h.eq_iff, h'.lt_iff]
  eq_iff := by
    constructor
    · intro he
      obtain ⟨hl, hr⟩ := List.append_inj he h.length_chars
      rw [h.eq_iff.1 hl, h'.eq_iff.1 hr]
    · intro he
      obtain ⟨hl, hr⟩ := List.append_inj he h.length_bytes
      rw [h.eq_iff.2 hl, h'.eq_iff.2 hr]

end CompareAlike

theorem chars_compareAlike (a b : Uuid) : CompareAlike a.chars b.chars a.bytes b.bytes := by
  have hpart : ∀ start size, start + size ≤ 16 → CompareAlike
      (Hex.encode ((a.bytes.drop start).take size)) (Hex.encode ((b.bytes.drop start).take size))
      ((a.bytes.drop start).take size) ((b.bytes.drop start).take size) := by
    intro start size h
    apply CompareAlike.encode
    rw [length_take_bytes _ h, length_take_bytes _ h]
  have hlast : CompareAlike (Hex.encode (a.bytes.drop 10)) (Hex.encode (b.bytes.drop 10))
      (a.bytes.drop 10) (b.bytes.drop 10) := by
    apply CompareAlike.encode
    rw [List.length_drop, List.length_drop, a.size_eq, b.size_eq]
  have h := ((((hpart 0 4 (by decide)).append (hpart 4 2 (by decide)).hyphen).append
    (hpart 6 2 (by decide)).hyphen).append (hpart 8 2 (by decide)).hyphen).append hlast.hyphen
  rw [List.drop_zero, List.drop_zero, bytes_eq_append, bytes_eq_append] at h
  exact h

/-- Texts of identifiers are ordered as the identifiers are. -/
theorem text_lt_text : a.text < b.text ↔ a < b := by
  have hchars : a.text < b.text ↔ a.chars < b.chars := by
    change a.text.toList < b.text.toList ↔ _
    rw [text, text, String.toList_ofList, String.toList_ofList]
  rw [hchars]
  exact (chars_compareAlike a b).lt_iff

end MovieCatalog.Uuid
