import MovieCatalog.Json.Lexical
import MovieCatalog.Proofs.Json.Grammar

/-! Strings of JSON are read as the texts that they spell. -/
namespace MovieCatalog.Json

variable {bytes digits seen more : Bytes} {cs : List Char} {n : Nat}

theorem IsUnit.length_eq (h : IsUnit digits n) : digits.length = 4 := by
  obtain ⟨a, b, c, d, hdigits, -⟩ := h
  have hlength := congrArg List.length hdigits
  rwa [List.length_map] at hlength

theorem IsUnit.number? (h : IsUnit digits n) : Hex.number? digits = some n := by
  have hlength := h.length_eq
  obtain ⟨a, b, c, d, hdigits, rfl⟩ := h
  match digits, hlength with
  | [w, x, y, z], _ =>
    simp only [List.map_cons, List.map_nil, List.cons.injEq, and_true] at hdigits
    obtain ⟨hw, hx, hy, hz⟩ := hdigits
    simp only [Hex.number?, List.foldl_cons, List.foldl_nil, Option.bind_some, hw, hx, hy, hz,
      Option.map_some, Nat.mul_zero, Nat.zero_add]

theorem readStringFrom_more {state next : StringState} {b : UInt8} {added : Bytes}
    (h : stringStep state b = .ok (.more next added)) (seen rest : Bytes) :
    readStringFrom state seen (b :: rest) = readStringFrom next (added.reverse ++ seen) rest := by
  rw [readStringFrom, h]

/-- Bytes that stand for themselves in a string are taken in as they are. -/
theorem readStringFrom_bytes (h : ∀ b ∈ bytes, b ≠ ascii '"' ∧ b ≠ ascii '\\' ∧ 0x20 ≤ b.toNat) :
    readStringFrom .plain seen (bytes ++ more) =
      readStringFrom .plain (bytes.reverse ++ seen) more := by
  induction bytes generalizing seen with
  | nil => rfl
  | cons b bytes ih =>
    obtain ⟨hquote, hslash, hb⟩ := h b List.mem_cons_self
    have hstep : stringStep .plain b = .ok (.more .plain [b]) := by
      have hlt : ¬ b < 0x20 := by
        rw [UInt8.lt_iff_toNat_lt]
        exact Nat.not_lt.2 hb
      rw [stringStep, if_neg hquote, if_neg hslash, if_neg hlt]
    rw [List.cons_append, readStringFrom_more hstep, ih fun d hd => h d (List.mem_cons_of_mem b hd)]
    simp only [List.reverse_cons, List.reverse_nil, List.nil_append, List.append_assoc,
      List.cons_append]

/-- The bytes of a plain character neither end a string nor escape anything. -/
theorem IsPlain.mem_encodeChar {c : Char} (h : IsPlain c) :
    ∀ b ∈ Utf8.encodeChar c, b ≠ ascii '"' ∧ b ≠ ascii '\\' ∧ 0x20 ≤ b.toNat := by
  obtain ⟨hquote, hslash, hcontrol⟩ := h
  intro b hb
  by_cases hc : c.toNat < 0x80
  · rw [Utf8.encodeChar_of_lt hc, List.mem_singleton] at hb
    have hne : ∀ d : Char, c ≠ d → d.toNat < 0x80 → b ≠ ascii d := by
      intro d hcd hd he
      exact hcd (Utf8.ascii_inj hc hd (hb.symm.trans he))
    refine ⟨hne _ hquote (by decide), hne _ hslash (by decide), ?_⟩
    rw [hb, Utf8.toNat_ascii hc]
    exact hcontrol
  · have hb' := Utf8.le_of_mem_encodeChar (by omega) hb
    refine ⟨?_, ?_, by omega⟩
    · intro he
      rw [he] at hb'
      exact absurd hb' (by decide)
    · intro he
      rw [he] at hb'
      exact absurd hb' (by decide)

theorem escaped?_of_mem {letter c : Char} (h : (letter, c) ∈ shortEscapes) :
    escaped? (ascii letter) = some c ∧ ascii letter ≠ ascii 'u' := by
  have hall : ∀ pair ∈ shortEscapes,
      escaped? (ascii pair.1) = some pair.2 ∧ ascii pair.1 ≠ ascii 'u' := by decide
  exact hall _ h

theorem readStringFrom_short {letter c : Char} (h : (letter, c) ∈ shortEscapes) :
    readStringFrom .plain seen (ascii '\\' :: ascii letter :: more) =
      readStringFrom .plain ((Utf8.encodeChar c).reverse ++ seen) more := by
  obtain ⟨hescaped, hne⟩ := escaped?_of_mem h
  have hslash : stringStep .plain (ascii '\\') = .ok (.more .escape []) := rfl
  have hletter : stringStep .escape (ascii letter) = .ok (.more .plain (Utf8.encodeChar c)) := by
    rw [stringStep, if_neg hne, hescaped]
  rw [readStringFrom_more hslash, readStringFrom_more hletter]
  rfl

/-- What four digits lead to from a state that collects them. -/
theorem readStringFrom_digits {collect : Bytes → StringState} {next : StringState} {added : Bytes}
    (h : IsUnit digits n)
    (hcollect : ∀ (ds : Bytes) (b : UInt8), ds.length < 3 →
      stringStep (collect ds) b = .ok (.more (collect (ds ++ [b])) []))
    (hlast : ∀ (ds : Bytes) (b : UInt8), ds.length = 3 → Hex.number? (ds ++ [b]) = some n →
      stringStep (collect ds) b = .ok (.more next added)) :
    readStringFrom (collect []) seen (digits ++ more) =
      readStringFrom next (added.reverse ++ seen) more := by
  have hnumber := h.number?
  match digits, h.length_eq with
  | [w, x, y, z], _ =>
    have hfirst : stringStep (collect []) w = .ok (.more (collect [w]) []) :=
      hcollect [] w (by simp)
    have hsecond : stringStep (collect [w]) x = .ok (.more (collect [w, x]) []) :=
      hcollect [w] x (by simp)
    have hthird : stringStep (collect [w, x]) y = .ok (.more (collect [w, x, y]) []) :=
      hcollect [w, x] y (by simp)
    change readStringFrom (collect []) seen (w :: x :: y :: z :: more) = _
    rw [readStringFrom_more hfirst, readStringFrom_more hsecond, readStringFrom_more hthird,
      readStringFrom_more (hlast [w, x, y] z rfl hnumber)]
    rfl

theorem stringStep_unit (ds : Bytes) (b : UInt8) (h : ds.length < 3) :
    stringStep (.unit ds) b = .ok (.more (.unit (ds ++ [b])) []) := by
  rw [stringStep, if_pos h]

theorem stringStep_halfwayUnit (high : Nat) (ds : Bytes) (b : UInt8) (h : ds.length < 3) :
    stringStep (.halfwayUnit high ds) b = .ok (.more (.halfwayUnit high (ds ++ [b])) []) := by
  rw [stringStep, if_pos h]

/-- An escape with digits begins in the state that collects them. -/
theorem readStringFrom_unit (seen more : Bytes) :
    readStringFrom .plain seen (ascii '\\' :: ascii 'u' :: more) =
      readStringFrom (.unit []) seen more := rfl

theorem not_half (c : Char) : isHighHalf c.toNat = false ∧ isLowHalf c.toNat = false := by
  have hv : c.toNat < 0xD800 ∨ (0xDFFF < c.toNat ∧ c.toNat < 0x110000) := c.valid
  simp only [isHighHalf, isLowHalf, Bool.and_eq_false_iff, decide_eq_false_iff_not]
  omega

theorem readStringFrom_char {c : Char} (h : IsUnit digits c.toNat) :
    readStringFrom .plain seen (ascii '\\' :: ascii 'u' :: (digits ++ more)) =
      readStringFrom .plain ((Utf8.encodeChar c).reverse ++ seen) more := by
  obtain ⟨hhigh, hlow⟩ := not_half c
  rw [readStringFrom_unit]
  refine readStringFrom_digits h stringStep_unit ?_
  intro ds b hds hnumber
  rw [stringStep, if_neg (by omega), hnumber]
  simp only [hhigh, hlow, Bool.false_eq_true, if_false, Char.ofNat_toNat]

/-- The halves of a character beyond U+FFFF make it up again. -/
theorem joinHalves_toNat {c : Char} (h : 0x10000 ≤ c.toNat) :
    joinHalves (0xD800 + (c.toNat - 0x10000) / 0x400)
      (0xDC00 + (c.toNat - 0x10000) % 0x400) = c := by
  have hsum : (0xD800 + (c.toNat - 0x10000) / 0x400 - 0xD800) * 0x400 +
      (0xDC00 + (c.toNat - 0x10000) % 0x400 - 0xDC00) + 0x10000 = c.toNat := by omega
  rw [joinHalves, hsum, Char.ofNat_toNat]

theorem readStringFrom_pair {c : Char} {high low : Bytes} (h : 0x10000 ≤ c.toNat)
    (hhigh : IsUnit high (0xD800 + (c.toNat - 0x10000) / 0x400))
    (hlow : IsUnit low (0xDC00 + (c.toNat - 0x10000) % 0x400)) :
    readStringFrom .plain seen (ascii '\\' :: ascii 'u' ::
        (high ++ ascii '\\' :: ascii 'u' :: (low ++ more))) =
      readStringFrom .plain ((Utf8.encodeChar c).reverse ++ seen) more := by
  have hv : c.toNat < 0xD800 ∨ (0xDFFF < c.toNat ∧ c.toNat < 0x110000) := c.valid
  have hfirst : isLowHalf (0xD800 + (c.toNat - 0x10000) / 0x400) = false ∧
      isHighHalf (0xD800 + (c.toNat - 0x10000) / 0x400) = true := by
    simp only [isHighHalf, isLowHalf, Bool.and_eq_false_iff, decide_eq_false_iff_not,
      Bool.and_eq_true, decide_eq_true_eq]
    omega
  have hsecond : isLowHalf (0xDC00 + (c.toNat - 0x10000) % 0x400) = true := by
    simp only [isLowHalf, Bool.and_eq_true, decide_eq_true_eq]
    omega
  have hhalf : ∀ (ds : Bytes) (b : UInt8), ds.length = 3 →
      Hex.number? (ds ++ [b]) = some (0xD800 + (c.toNat - 0x10000) / 0x400) →
        stringStep (.unit ds) b =
          .ok (.more (.halfway (0xD800 + (c.toNat - 0x10000) / 0x400)) []) := by
    intro ds b hds hnumber
    rw [stringStep, if_neg (by omega), hnumber]
    simp only [hfirst.1, hfirst.2, Bool.false_eq_true, if_false, if_true]
  rw [readStringFrom_unit, readStringFrom_digits hhigh stringStep_unit hhalf]
  change readStringFrom (.halfwayUnit _ []) seen (low ++ more) = _
  refine readStringFrom_digits hlow (stringStep_halfwayUnit _) ?_
  intro ds b hds hnumber
  rw [stringStep, if_neg (by omega), hnumber]
  simp only [hsecond, if_true, joinHalves_toNat h]

theorem readStringFrom_spells (h : Spells bytes cs) : readStringFrom .plain seen (bytes ++ more) =
    readStringFrom .plain ((Utf8.encode cs).reverse ++ seen) more := by
  induction h generalizing seen with
  | nil => rfl
  | plain hc _ ih =>
    rw [List.append_assoc, readStringFrom_bytes hc.mem_encodeChar, ih, Utf8.encode_cons,
      List.reverse_append, List.append_assoc]
  | short hc _ ih =>
    rw [List.cons_append, List.cons_append, readStringFrom_short hc, ih, Utf8.encode_cons,
      List.reverse_append, List.append_assoc]
  | unit hc _ ih =>
    rw [List.cons_append, List.cons_append, List.append_assoc, readStringFrom_char hc, ih,
      Utf8.encode_cons, List.reverse_append, List.append_assoc]
  | pair hc hhigh hlow _ ih =>
    simp only [List.cons_append, List.append_assoc]
    rw [readStringFrom_pair hc hhigh hlow, ih, Utf8.encode_cons, List.reverse_append,
      List.append_assoc]

/-- A string is read as the text that it spells. -/
theorem readString_spells (h : Spells bytes cs) (rest : Bytes) :
    readString (bytes ++ ascii '"' :: rest) = .ok (String.ofList cs, rest) := by
  have hdone : stringStep .plain (ascii '"') = .ok .done := rfl
  have hread : readStringFrom .plain [] (bytes ++ ascii '"' :: rest) =
      .ok (Utf8.encode cs, rest) := by
    rw [readStringFrom_spells h, readStringFrom, hdone]
    simp only [List.append_nil, List.reverse_reverse]
  rw [readString, hread]
  simp only [Utf8.decode?_encode]

/-- A string spells one text. -/
theorem Spells.unique {cs' : List Char} (h : Spells bytes cs) (h' : Spells bytes cs') :
    cs = cs' := by
  have hread := readString_spells h []
  rw [readString_spells h' [], Except.ok.injEq, Prod.mk.injEq] at hread
  exact (String.ofList_injective hread.1).symm

/-- A written string is read as its text. -/
theorem readString_encode (cs : List Char) (rest : Bytes) :
    readString (Utf8.encode (cs.flatMap escape) ++ ascii '"' :: rest) =
      .ok (String.ofList cs, rest) := readString_spells (spells_escapes cs) rest

end MovieCatalog.Json
