import MovieCatalog.Proofs.Uuid

/-! The texts that are read as an identifier: four forms, in any case of letters, and no others. -/
namespace MovieCatalog.Uuid

/-- The spellings of an identifier: its 32 digits, its groups with hyphens between them, and these
groups in braces or behind `urn:uuid:`. Letters may have either case. -/
inductive Spells (id : Uuid) : List Char → Prop where
  | digits {cs : List Char} (h : cs.map Char.toLower = Hex.encode id.bytes) : Spells id cs
  | hyphenated {cs : List Char} (h : cs.map Char.toLower = id.chars) : Spells id cs
  | braced {inner : List Char} (h : inner.map Char.toLower = id.chars) :
      Spells id ('{' :: inner ++ ['}'])
  | named {start inner : List Char} (hstart : start.map Char.toLower = "urn:uuid:".toList)
      (h : inner.map Char.toLower = id.chars) : Spells id (start ++ inner)

variable {id : Uuid} {cs ds inner start : List Char} {c : Char} {n : Nat}

theorem ofDigits?_eq_some_iff :
    ofDigits? cs = some id ↔ cs.map Char.toLower = Hex.encode id.bytes := by
  rw [← Hex.decode?_eq_some_iff, ofDigits?]
  cases Hex.decode? cs with
  | none => simp
  | some bytes =>
    obtain ⟨expected, hsize⟩ := id
    simp only [Option.some.injEq]
    constructor
    · intro h
      split at h
      · cases h
        rfl
      · cases h
    · rintro rfl
      exact dif_pos hsize

/-- Where the hyphens of the groups stand. -/
def IsGrouped (cs : List Char) : Prop :=
  cs[8]? = some '-' ∧ cs[13]? = some '-' ∧ cs[18]? = some '-' ∧ cs[23]? = some '-'

/-- The groups without what stands between them. -/
def ungrouped (cs : List Char) : List Char :=
  cs.take 8 ++ (cs.drop 9).take 4 ++ (cs.drop 14).take 4 ++ (cs.drop 19).take 4 ++ cs.drop 24

theorem ofGroups?_eq_some_iff :
    ofGroups? cs = some id ↔ IsGrouped cs ∧ ofDigits? (ungrouped cs) = some id := by
  rw [ofGroups?]
  constructor
  · intro h
    split at h
    · rename_i hgrouped
      exact ⟨hgrouped, h⟩
    · cases h
  · rintro ⟨hgrouped, h⟩
    exact (if_pos hgrouped).trans h

theorem map_ungrouped (f : Char → Char) (cs : List Char) :
    (ungrouped cs).map f = ungrouped (cs.map f) := by
  simp only [ungrouped, List.map_append, List.map_take, List.map_drop]

theorem toLower_eq_hyphen : c.toLower = '-' ↔ c = '-' := by
  by_cases hc : c.toNat < 0x80
  · exact Hex.forall_ascii (p := fun c => c.toLower = '-' ↔ c = '-') (by decide +kernel) hc
  · rw [Hex.toLower_of_not_ascii hc]

theorem getElem?_map_toLower_eq_hyphen (i : Nat) :
    (cs.map Char.toLower)[i]? = some '-' ↔ cs[i]? = some '-' := by
  rw [List.getElem?_map, Option.map_eq_some_iff]
  simp [toLower_eq_hyphen]

theorem isGrouped_map_toLower : IsGrouped (cs.map Char.toLower) ↔ IsGrouped cs := by
  simp only [IsGrouped, getElem?_map_toLower_eq_hyphen]

theorem drop_eq_of_getElem? (start : Nat) {size : Nat} (h : cs[start + size]? = some c) :
    cs.drop start = (cs.drop start).take size ++ c :: cs.drop (start + size + 1) := by
  obtain ⟨hi, hc⟩ := List.getElem?_eq_some_iff.1 h
  rw [← hc, ← List.drop_eq_getElem_cons hi, ← List.drop_drop, List.take_append_drop]

theorem IsGrouped.eq_append (h : IsGrouped cs) : cs = cs.take 8 ++ '-' :: ((cs.drop 9).take 4 ++
    '-' :: ((cs.drop 14).take 4 ++ '-' :: ((cs.drop 19).take 4 ++ '-' :: cs.drop 24))) := by
  obtain ⟨h₁, h₂, h₃, h₄⟩ := h
  have h₁ : cs[0 + 8]? = some '-' := h₁
  rw [← drop_eq_of_getElem? 19 h₄, ← drop_eq_of_getElem? 14 h₃,
    ← drop_eq_of_getElem? 9 h₂]
  exact drop_eq_of_getElem? 0 h₁

theorem IsGrouped.eq_of_ungrouped (h : IsGrouped cs) (h' : IsGrouped ds)
    (he : ungrouped cs = ungrouped ds) : cs = ds := by
  have hsize : ∀ {es : List Char}, IsGrouped es → 23 < es.length := fun hg =>
    (List.getElem?_eq_some_iff.1 hg.2.2.2).1
  have hcs := hsize h
  have hds := hsize h'
  have hpart : ∀ start size, start + size ≤ 23 →
      ((cs.drop start).take size).length = ((ds.drop start).take size).length := by
    intro start size hle
    simp only [List.length_take, List.length_drop]
    omega
  have hfirst : (cs.take 8).length = (ds.take 8).length := hpart 0 8 (by decide)
  have hsecond := hpart 9 4 (by decide)
  have hthird := hpart 14 4 (by decide)
  have hfourth := hpart 19 4 (by decide)
  obtain ⟨he, he₅⟩ := List.append_inj he (by simp only [List.length_append]; omega)
  obtain ⟨he, he₄⟩ := List.append_inj he (by simp only [List.length_append]; omega)
  obtain ⟨he, he₃⟩ := List.append_inj he (by simp only [List.length_append]; omega)
  obtain ⟨he₁, he₂⟩ := List.append_inj he hfirst
  rw [h.eq_append, h'.eq_append, he₁, he₂, he₃, he₄, he₅]

theorem ungrouped_chars (id : Uuid) : ungrouped id.chars = Hex.encode id.bytes := by
  have hfirst : (id.bytes.take 4).length = 4 := id.length_take_bytes (by decide : 0 + 4 ≤ 16)
  have h₁ : (Hex.encode (id.bytes.take 4)).length = 8 := by
    rw [Hex.length_encode, hfirst]
  have hgroup : ∀ start, start + 2 ≤ 16 →
      (Hex.encode ((id.bytes.drop start).take 2)).length = 4 := by
    intro start h
    rw [Hex.length_encode, id.length_take_bytes h]
  have h₂ := hgroup 4 (by decide)
  have h₃ := hgroup 6 (by decide)
  have h₄ := hgroup 8 (by decide)
  rw [← congrArg Hex.encode id.bytes_eq_append]
  simp [ungrouped, chars, List.drop_append, List.drop_eq_nil_of_le, h₁, h₂, h₃, h₄]

theorem length_chars (id : Uuid) : id.chars.length = 36 := by
  simp [chars, id.size_eq]

theorem isGrouped_chars (id : Uuid) : IsGrouped id.chars :=
  (ofGroups?_eq_some_iff.1 id.ofGroups?_chars).1

theorem ofGroups?_eq_some_iff_chars : ofGroups? cs = some id ↔ cs.map Char.toLower = id.chars := by
  rw [ofGroups?_eq_some_iff, ofDigits?_eq_some_iff, map_ungrouped, ← ungrouped_chars,
    ← isGrouped_map_toLower]
  constructor
  · rintro ⟨hgrouped, h⟩
    exact hgrouped.eq_of_ungrouped id.isGrouped_chars h
  · intro h
    rw [h]
    exact ⟨id.isGrouped_chars, rfl⟩

theorem unwrap?_braced (inner : List Char) :
    unwrap? ('{' :: inner ++ ['}']) = some (inner, 1) := by
  simp [unwrap?]

theorem ne_brace_of_toLower (h : c.toLower ≠ '{') : c ≠ '{' := by
  rintro rfl
  exact h (by decide)

theorem unwrap?_named (h : start.map Char.toLower = resourcePrefix) :
    unwrap? (start ++ inner) = some (inner, 9) := by
  have hsize : start.length = 9 := by
    rw [← List.length_map Char.toLower, h]
    rfl
  obtain ⟨c, more, rfl, hc, -⟩ := List.map_eq_cons_iff.1 h
  have hbrace : c ≠ '{' := ne_brace_of_toLower (by rw [hc]; decide)
  unfold unwrap?
  split
  · rename_i heq
    exact absurd (List.cons.inj heq).1 hbrace
  · rw [List.take_left' hsize, List.drop_left' hsize]
    exact if_pos h

/-- What is unwrapped stood in braces or behind the name prefix. -/
theorem unwrap?_cases (h : unwrap? cs = some (inner, n)) : cs = '{' :: inner ++ ['}'] ∨
    ∃ start, start.map Char.toLower = resourcePrefix ∧ cs = start ++ inner := by
  unfold unwrap? at h
  split at h
  · rename_i rest
    split at h
    · rename_i hlast
      cases h
      obtain ⟨before, rfl⟩ := List.getLast?_eq_some_iff.1 hlast
      exact .inl (by rw [List.dropLast_concat]; rfl)
    · cases h
  · split at h
    · rename_i hstart
      cases h
      exact .inr ⟨cs.take 9, hstart, (List.take_append_drop 9 cs).symm⟩
    · cases h

/-- A text that begins with a digit is not wrapped. -/
theorem unwrap?_eq_none (hn : n < 16) (h : cs.map Char.toLower = Hex.digit n :: ds) :
    unwrap? cs = none := by
  have hall : ∀ n < 16, Hex.digit n ≠ '{' ∧ Hex.digit n ≠ 'u' := by decide
  obtain ⟨hbrace, hu⟩ := hall n hn
  obtain ⟨c, rest, rfl, hc, -⟩ := List.map_eq_cons_iff.1 h
  unfold unwrap?
  split
  · rename_i heq
    exact absurd (List.cons.inj heq).1 (ne_brace_of_toLower (by rw [hc]; exact hbrace))
  · rw [if_neg]
    intro hstart
    exact hu (hc.symm.trans (List.cons.inj hstart).1)

theorem encode_eq_cons (id : Uuid) :
    ∃ n < 16, ∃ cs, Hex.encode id.bytes = Hex.digit n :: cs := by
  obtain ⟨bytes, hsize⟩ := id
  cases bytes with
  | nil => cases hsize
  | cons b bytes => exact ⟨_, Hex.byte_div_lt b, _, rfl⟩

/-- The texts that are read as an identifier are its spellings. -/
theorem ofChars?_eq_some_iff : ofChars? cs = some id ↔ Spells id cs := by
  rw [ofChars?]
  constructor
  · intro h
    split at h
    · rename_i inner n hinner
      have hchars := ofGroups?_eq_some_iff_chars.1 h
      rcases unwrap?_cases hinner with rfl | ⟨start, hstart, rfl⟩
      · exact .braced hchars
      · exact .named hstart hchars
    · rcases Option.or_eq_some_iff.1 h with h | ⟨-, h⟩
      · exact .digits (ofDigits?_eq_some_iff.1 h)
      · exact .hyphenated (ofGroups?_eq_some_iff_chars.1 h)
  · intro h
    cases h with
    | digits h =>
      obtain ⟨m, hm, rest, hrest⟩ := id.encode_eq_cons
      rw [unwrap?_eq_none hm (h.trans hrest), ofDigits?_eq_some_iff.2 h]
      rfl
    | hyphenated h =>
      obtain ⟨m, hm, rest, hrest⟩ := id.chars_eq_cons
      -- Bare digits are fewer than digits with hyphens.
      have hdigits : ofDigits? cs = none := by
        rw [Option.eq_none_iff_forall_ne_some]
        intro other hother
        have hsize := congrArg List.length (h.symm.trans (ofDigits?_eq_some_iff.1 hother))
        rw [Hex.length_encode, other.size_eq, length_chars] at hsize
        omega
      rw [unwrap?_eq_none hm (h.trans hrest), hdigits]
      exact ofGroups?_eq_some_iff_chars.2 h
    | braced h =>
      rw [unwrap?_braced]
      exact ofGroups?_eq_some_iff_chars.2 h
    | named hstart h =>
      rw [unwrap?_named hstart]
      exact ofGroups?_eq_some_iff_chars.2 h

theorem ofText?_eq_some_iff {text : String} : ofText? text = some id ↔ Spells id text.toList :=
  ofChars?_eq_some_iff

end MovieCatalog.Uuid
