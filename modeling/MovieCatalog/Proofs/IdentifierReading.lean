import MovieCatalog.Proofs.Spelling
import MovieCatalog.Validation

/-! Identifiers in fields. A text is read as the identifier that it spells, if that is not nil.
Every other text is refused, and a text that only comes close to a spelling is malformed like any
other. -/
namespace MovieCatalog

namespace Uuid

/-- Hyphens stand where groups meet, and nowhere else. -/
def Divided (cs : List Char) : Prop :=
  ∀ i : Nat, cs[i]? = some '-' ↔ i = 8 ∨ i = 13 ∨ i = 18 ∨ i = 23

/-- The digits of an identifier, and how its text lays them out. -/
structure LaidOut (id : Uuid) : Prop where
  digits : (Hex.encode id.bytes).length = 32
  size : id.chars.length = 36
  divided : Divided id.chars
  between : (id.chars.filter fun c => c != '-') = Hex.encode id.bytes

/-- The texts that hold another one as it stands, in braces, or behind `urn:uuid:`. -/
inductive Wraps (core : List Char) : List Char → Prop where
  | bare : Wraps core core
  | braced : Wraps core ('{' :: core ++ ['}'])
  | named {start : List Char} (h : start.map Char.toLower = "urn:uuid:".toList) :
      Wraps core (start ++ core)

/-- Texts that come close to a spelling and are none. -/
inductive Misspelt : List Char → Prop where
  | foreign {cs : List Char} {c : Char} (h : c ∈ cs) (hc : 0x80 ≤ c.toNat) : Misspelt cs
  | blank {cs : List Char} {c : Char} (h : c ∈ cs) (hc : c.isWhitespace = true) : Misspelt cs
  | size {cs : List Char} (h : cs.length ∉ [32, 36, 38, 45]) : Misspelt cs
  | hyphens {core cs : List Char} (wrapped : Wraps core cs)
      (plain : ∀ c ∈ core, c = '-' ∨ (Hex.value? c).isSome) (h : '-' ∈ core)
      (odd : ¬ Divided core) : Misspelt cs
  | bracedDigits {core : List Char} (h : '-' ∉ core) : Misspelt ('{' :: core ++ ['}'])

end Uuid

/-- The text is refused as the identifier of a field, with the name of the field and a problem. -/
def RefusesId (name text problem : String) : Prop :=
  ∃ fault, parseId name text = .error (.invalidInput fault) ∧
    fault.message = name ++ ": " ++ problem

/-- What a text is read as. -/
structure ReadsId (name text : String) : Prop where
  accepts : ∀ id, parseId name text = .ok id ↔ id ≠ .nil ∧ id.Spells text.toList
  empty : RefusesId name text "cannot be empty" ↔ Uuid.nil.Spells text.toList
  malformed : RefusesId name text "invalid UUID format" ↔ ∀ id : Uuid, ¬ id.Spells text.toList
  misspelt : Uuid.Misspelt text.toList → RefusesId name text "invalid UUID format"

namespace Uuid

variable {id : Uuid} {cs core xs ys : List Char} {c : Char}

theorem digit_ne_hyphen {n : Nat} (h : n < 16) : Hex.digit n ≠ '-' := by
  have hall : ∀ n < 16, Hex.digit n ≠ '-' := by decide
  exact hall n h

theorem hyphen_not_mem_encode (bytes : Bytes) : '-' ∉ Hex.encode bytes := by
  intro h
  obtain ⟨n, hn, he⟩ := Hex.mem_encode h
  exact digit_ne_hyphen hn he.symm

/-- The first hyphen stands behind what has none, and the others are those that follow. -/
theorem getElem?_append_eq_hyphen (h : '-' ∉ xs) (i : Nat) : (xs ++ '-' :: ys)[i]? = some '-' ↔
    i = xs.length ∨ xs.length < i ∧ ys[i - (xs.length + 1)]? = some '-' := by
  rcases Nat.lt_trichotomy i xs.length with hlt | rfl | hgt
  · rw [List.getElem?_append_left hlt]
    constructor
    · intro he
      exact absurd (List.mem_of_getElem? he) h
    · omega
  · simp
  · obtain ⟨j, rfl⟩ := Nat.exists_eq_add_of_lt hgt
    have hi : xs.length + j + 1 - (xs.length + 1) = j := by omega
    have hcons : xs.length + j + 1 - xs.length = j + 1 := by omega
    rw [List.getElem?_append_right (Nat.le_of_lt hgt), hi, hcons, List.getElem?_cons_succ]
    constructor
    · intro he
      exact .inr ⟨hgt, he⟩
    · rintro (he | ⟨-, he⟩)
      · omega
      · exact he

theorem divided_chars (id : Uuid) : Divided id.chars := by
  intro i
  have hgroup : ∀ start size, start + size ≤ 16 →
      (Hex.encode ((id.bytes.drop start).take size)).length = 2 * size := by
    intro start size h
    rw [Hex.length_encode, id.length_take_bytes h]
  have hfirst : (Hex.encode (id.bytes.take 4)).length = 8 := hgroup 0 4 (by decide)
  have hlast : ∀ j : Nat, (Hex.encode (id.bytes.drop 10))[j]? ≠ some '-' := fun j hj =>
    hyphen_not_mem_encode _ (List.mem_of_getElem? hj)
  simp only [chars, List.append_assoc, List.cons_append,
    getElem?_append_eq_hyphen (hyphen_not_mem_encode _), hfirst, hgroup 4 2 (by decide),
    hgroup 6 2 (by decide), hgroup 8 2 (by decide), hlast, and_false, or_false]
  omega

theorem filter_chars (id : Uuid) :
    (id.chars.filter fun c => c != '-') = Hex.encode id.bytes := by
  have hdigits : ∀ bytes, (Hex.encode bytes).filter (fun c => c != '-') = Hex.encode bytes := by
    intro bytes
    rw [List.filter_eq_self]
    intro c hc
    rw [bne_iff_ne]
    rintro rfl
    exact hyphen_not_mem_encode bytes hc
  rw [← congrArg Hex.encode id.bytes_eq_append]
  simp [chars, hdigits]

theorem laidOut (id : Uuid) : LaidOut id :=
  ⟨by rw [Hex.length_encode, id.size_eq], id.length_chars, id.divided_chars, id.filter_chars⟩

/-- The characters of all spellings, in lower case. -/
def alphabet : List Char := "0123456789abcdef-urnid:".toList ++ ['{', '}']

theorem digit_mem_alphabet {n : Nat} (h : n < 16) : Hex.digit n ∈ alphabet := by
  have hall : ∀ n < 16, Hex.digit n ∈ alphabet := by decide
  exact hall n h

theorem mem_alphabet_of_chars (h : c ∈ id.chars) : c ∈ alphabet := by
  rcases mem_chars h with rfl | ⟨n, hn, rfl⟩
  · decide
  · exact digit_mem_alphabet hn

theorem Spells.mem_alphabet (h : Spells id cs) (hc : c ∈ cs) : c.toLower ∈ alphabet := by
  -- Each part of a spelling is a known text but for the case of its letters.
  have hpart : ∀ {part whole : List Char}, part.map Char.toLower = whole →
      (∀ d ∈ whole, d ∈ alphabet) → c ∈ part → c.toLower ∈ alphabet := by
    rintro part _ rfl hwhole hmem
    exact hwhole _ (List.mem_map_of_mem hmem)
  cases h with
  | digits h =>
    refine hpart h ?_ hc
    intro d hd
    obtain ⟨n, hn, rfl⟩ := Hex.mem_encode hd
    exact digit_mem_alphabet hn
  | hyphenated h => exact hpart h (fun d => mem_alphabet_of_chars) hc
  | braced h =>
    rw [List.cons_append, List.mem_cons, List.mem_append, List.mem_singleton] at hc
    rcases hc with rfl | hc | rfl
    · decide
    · exact hpart h (fun d => mem_alphabet_of_chars) hc
    · decide
  | named hstart h =>
    rcases List.mem_append.1 hc with hc | hc
    · have hall : ("urn:uuid:".toList.all fun d => decide (d ∈ alphabet)) = true := by decide
      exact hpart hstart (fun d hd => of_decide_eq_true (List.all_eq_true.1 hall d hd)) hc
    · exact hpart h (fun d => mem_alphabet_of_chars) hc

theorem ascii_of_mem_alphabet (h : c.toLower ∈ alphabet) :
    c.toNat < 0x80 ∧ c.isWhitespace = false := by
  by_cases hc : c.toNat < 0x80
  · exact ⟨hc, Hex.forall_ascii (p := fun c => c.toLower ∈ alphabet → c.isWhitespace = false)
      (by decide +kernel) hc h⟩
  · have hall : (alphabet.all fun d => decide (d.toNat < 0x80)) = true := by decide
    rw [Hex.toLower_of_not_ascii hc] at h
    exact absurd (of_decide_eq_true (List.all_eq_true.1 hall c h)) hc

theorem Spells.length_mem (h : Spells id cs) : cs.length ∈ [32, 36, 38, 45] := by
  have hgroups : ∀ {inner : List Char}, inner.map Char.toLower = id.chars →
      inner.length = 36 := by
    intro inner h
    rw [← List.length_map Char.toLower, h, length_chars]
  cases h with
  | digits h =>
    rw [← List.length_map Char.toLower, h, Hex.length_encode, id.size_eq]
    decide
  | hyphenated h =>
    rw [hgroups h]
    decide
  | braced h =>
    rw [List.length_append, List.length_cons, hgroups h]
    decide
  | named hstart h =>
    rw [List.length_append, hgroups h, ← List.length_map Char.toLower, hstart]
    decide

theorem Spells.groups_of_braced (h : Spells id ('{' :: core ++ ['}'])) :
    core.map Char.toLower = id.chars := by
  rw [← ofChars?_eq_some_iff, ofChars?, unwrap?_braced] at h
  exact ofGroups?_eq_some_iff_chars.1 h

/-- Digits and hyphens alone are not wrapped. -/
theorem unwrap?_plain (plain : ∀ c ∈ core, c = '-' ∨ (Hex.value? c).isSome) :
    unwrap? core = none := by
  cases hunwrap : unwrap? core with
  | none => rfl
  | some wrapped =>
    rcases unwrap?_cases hunwrap with rfl | ⟨start, hstart, rfl⟩
    · exact absurd (plain '{' (List.mem_append_left _ List.mem_cons_self)) (by decide)
    · obtain ⟨c, more, rfl, hc, -⟩ := List.map_eq_cons_iff.1 hstart
      have hu : ∀ n < 16, Hex.digit n ≠ 'u' := by decide
      rcases plain c (List.mem_append_left _ List.mem_cons_self) with rfl | hdigit
      · exact absurd hc (by decide)
      · obtain ⟨n, hn⟩ := Option.isSome_iff_exists.1 hdigit
        obtain ⟨hlt, hlower⟩ := Hex.value?_eq_some_iff.1 hn
        exact absurd (hlower.symm.trans hc) (hu n hlt)

/-- What is wrapped in a spelling are its groups. Unwrapped it may also be bare digits. -/
theorem Spells.core_eq (h : Spells id cs) (wrapped : Wraps core cs)
    (plain : ∀ c ∈ core, c = '-' ∨ (Hex.value? c).isSome) :
    core.map Char.toLower = Hex.encode id.bytes ∨ core.map Char.toLower = id.chars := by
  cases wrapped with
  | bare =>
    rw [← ofChars?_eq_some_iff, ofChars?, unwrap?_plain plain] at h
    rcases Option.or_eq_some_iff.1 h with h | ⟨-, h⟩
    · exact .inl (ofDigits?_eq_some_iff.1 h)
    · exact .inr (ofGroups?_eq_some_iff_chars.1 h)
  | braced => exact .inr h.groups_of_braced
  | named hstart =>
    rw [← ofChars?_eq_some_iff, ofChars?, unwrap?_named hstart] at h
    exact .inr (ofGroups?_eq_some_iff_chars.1 h)

theorem divided_of_map_toLower (h : core.map Char.toLower = id.chars) : Divided core := by
  intro i
  rw [← getElem?_map_toLower_eq_hyphen, h]
  exact id.divided_chars i

theorem Misspelt.not_spells (h : Misspelt cs) : ¬ Spells id cs := by
  intro hspells
  cases h with
  | foreign hmem hc =>
    have := (ascii_of_mem_alphabet (hspells.mem_alphabet hmem)).1
    omega
  | blank hmem hc =>
    rw [(ascii_of_mem_alphabet (hspells.mem_alphabet hmem)).2] at hc
    cases hc
  | size h => exact h hspells.length_mem
  | hyphens wrapped plain hmem odd =>
    rcases hspells.core_eq wrapped plain with hdigits | hgroups
    · have hlower : ('-').toLower ∈ Hex.encode id.bytes := hdigits ▸ List.mem_map_of_mem hmem
      exact hyphen_not_mem_encode _ hlower
    · exact odd (divided_of_map_toLower hgroups)
  | bracedDigits hmem =>
    have hdivided := divided_of_map_toLower hspells.groups_of_braced
    exact hmem (List.mem_of_getElem? ((hdivided 8).2 (.inl rfl)))

end Uuid

variable {id : Uuid} {name text : String}

theorem parseId_eq_ok_iff :
    parseId name text = .ok id ↔ id ≠ .nil ∧ id.Spells text.toList := by
  constructor
  · intro h
    rw [parseId] at h
    split at h
    · cases h
    rename_i hread
    split at h
    · cases h
    rename_i hnil
    cases h
    exact ⟨fun he => hnil (beq_iff_eq.2 he), Uuid.ofText?_eq_some_iff.1 hread⟩
  · rintro ⟨hne, hspells⟩
    rw [parseId, Uuid.ofText?_eq_some_iff.2 hspells]
    exact if_neg fun hnil => hne (beq_iff_eq.1 hnil)

theorem parseId_eq_empty_iff :
    parseId name text = invalidField name .empty ↔ Uuid.nil.Spells text.toList := by
  constructor
  · intro h
    rw [parseId] at h
    split at h
    · cases h
    rename_i hread
    split at h
    · rename_i hnil
      rw [beq_iff_eq.1 hnil] at hread
      exact Uuid.ofText?_eq_some_iff.1 hread
    · cases h
  · intro h
    rw [parseId, Uuid.ofText?_eq_some_iff.2 h]
    rfl

theorem parseId_eq_malformed_iff : parseId name text = invalidField name .malformedId ↔
    ∀ id : Uuid, ¬ id.Spells text.toList := by
  constructor
  · intro h id hspells
    rw [parseId, Uuid.ofText?_eq_some_iff.2 hspells] at h
    simp only at h
    split at h
    · cases h
    · cases h
  · intro h
    rw [parseId]
    cases hread : Uuid.ofText? text with
    | none => rfl
    | some id => exact absurd (Uuid.ofText?_eq_some_iff.1 hread) (h id)

theorem exists_problem_of_parseId {error : CatalogError} (h : parseId name text = .error error) :
    ∃ problem, error = .invalidInput (.field name problem) := by
  rw [parseId] at h
  split at h
  · cases h
    exact ⟨_, rfl⟩
  split at h
  · cases h
    exact ⟨_, rfl⟩
  · cases h

theorem FieldProblem.message_injective : Function.Injective FieldProblem.message := by
  intro a b
  cases a <;> cases b <;> decide

/-- The message tells which problem was found. -/
theorem refusesId_message_iff {problem : FieldProblem} :
    RefusesId name text problem.message ↔ parseId name text = invalidField name problem := by
  constructor
  · rintro ⟨fault, hfault, hmessage⟩
    obtain ⟨found, he⟩ := exists_problem_of_parseId hfault
    cases he
    have hfound : found.message = problem.message := (String.append_right_inj _).1 hmessage
    rw [hfault, FieldProblem.message_injective hfound]
    rfl
  · intro h
    exact ⟨_, h, rfl⟩

/-- Reading an identifier is exact. A text that spells one, in one of four forms and in any case of
letters, is read as this identifier, but refused as empty if it is nil. All other texts are refused
as malformed. -/
theorem identifiers_read_exactly :
    (∀ name text, ReadsId name text) ∧ ∀ id : Uuid, id.LaidOut := by
  refine ⟨fun name text => ?_, Uuid.laidOut⟩
  have hmalformed : RefusesId name text "invalid UUID format" ↔
      ∀ id : Uuid, ¬ id.Spells text.toList :=
    refusesId_message_iff.trans parseId_eq_malformed_iff
  exact ⟨fun _ => parseId_eq_ok_iff, refusesId_message_iff.trans parseId_eq_empty_iff,
    hmalformed, fun h => hmalformed.2 fun _ => h.not_spells⟩

/-- A name prefix in capitals is read over, and nil is empty in braces too. Malformed are digits
alone in braces, a hyphen that has slipped by one place, and groups in which a letter of two bytes
stands for two digits. -/
theorem identifiers_read_of_near_misses :
    parseId "uuid" "URN:Uuid:00000000-0000-0000-0000-00000000000A" = .ok (.ofNat 10) ∧
      RefusesId "uuid" "\x7b00000000-0000-0000-0000-000000000000\x7d" "cannot be empty" ∧
      RefusesId "uuid" "\x7b0000000000000000000000000000000a\x7d" "invalid UUID format" ∧
      RefusesId "uuid" "0000000-00000-0000-0000-00000000000a" "invalid UUID format" ∧
      RefusesId "uuid" "000000\u00e9-0000-0000-0000-00000000000a" "invalid UUID format" := by
  have hreads := identifiers_read_exactly.1 "uuid"
  refine ⟨((hreads _).accepts _).2 ⟨by decide, ?_⟩, (hreads _).empty.2 ?_,
    (hreads _).misspelt ?_, (hreads _).misspelt ?_, (hreads _).misspelt ?_⟩
  · have h : (Uuid.ofNat 10).Spells ("URN:Uuid:".toList ++
        "00000000-0000-0000-0000-00000000000A".toList) := .named (by decide) (by decide +kernel)
    exact (congrArg (Uuid.Spells _) (by decide)).mp h
  · have h : Uuid.nil.Spells
        ('{' :: "00000000-0000-0000-0000-000000000000".toList ++ ['}']) :=
      .braced (by decide +kernel)
    exact (congrArg (Uuid.Spells _) (by decide)).mp h
  · have h : Uuid.Misspelt
        ('{' :: "0000000000000000000000000000000a".toList ++ ['}']) :=
      .bracedDigits (by decide)
    exact (congrArg Uuid.Misspelt (by decide)).mp h
  · have hall : ("0000000-00000-0000-0000-00000000000a".toList.all fun c =>
        decide (c = '-' ∨ (Hex.value? c).isSome)) = true := by decide +kernel
    refine .hyphens .bare (fun c hc => of_decide_eq_true (List.all_eq_true.1 hall c hc))
      (by decide) ?_
    intro hdivided
    exact absurd ((hdivided 8).2 (.inl rfl)) (by decide)
  · exact .foreign (c := '\u00e9') (by decide) (by decide)

end MovieCatalog
