import MovieCatalog.Text.Hex

/-! Hexadecimal digits: reading undoes writing, whatever the case of letters, and both keep the
order. -/
namespace MovieCatalog.Hex

theorem value?_digit {n : Nat} (h : n < 16) : value? (digit n) = some n := by
  have hall : ∀ n < 16, value? (digit n) = some n := by decide
  exact hall n h

theorem digit_lt_digit {m n : Nat} (hm : m < 16) (hn : n < 16) :
    digit m < digit n ↔ m < n := by
  have hall : ∀ m < 16, ∀ n < 16, digit m < digit n ↔ m < n := by decide
  exact hall m hm n hn

theorem digit_inj {m n : Nat} (hm : m < 16) (hn : n < 16) (h : digit m = digit n) : m = n := by
  have hv := value?_digit hm
  rw [h, value?_digit hn] at hv
  exact (Option.some.inj hv).symm

theorem digit_toNat_lt {n : Nat} (h : n < 16) : (digit n).toNat < 0x80 := by
  have hall : ∀ n < 16, (digit n).toNat < 0x80 := by decide
  exact hall n h

theorem byte_div_lt (b : UInt8) : b.toNat / 16 < 16 := by
  have := b.toNat_lt
  omega

theorem byte_mod_lt (b : UInt8) : b.toNat % 16 < 16 := Nat.mod_lt _ (by decide)

theorem toUInt8_div_mod (b : UInt8) : (16 * (b.toNat / 16) + b.toNat % 16).toUInt8 = b := by
  rw [Nat.div_add_mod]
  exact UInt8.ofNat_toNat

theorem decode?_ofByte (b : UInt8) (cs : List Char) :
    decode? (ofByte b ++ cs) = (decode? cs).map (b :: ·) := by
  simp only [ofByte, List.cons_append, List.nil_append, decode?, value?_digit (byte_div_lt b),
    value?_digit (byte_mod_lt b), toUInt8_div_mod]

theorem decode?_encode_append (bytes : Bytes) (cs : List Char) :
    decode? (encode bytes ++ cs) = (decode? cs).map (bytes ++ ·) := by
  induction bytes with
  | nil => simp [encode]
  | cons b bytes ih =>
    rw [encode, List.flatMap_cons, List.append_assoc, decode?_ofByte, ← encode, ih, Option.map_map]
    rfl

theorem decode?_encode (bytes : Bytes) : decode? (encode bytes) = some bytes := by
  have h := decode?_encode_append bytes []
  simpa [decode?] using h

@[simp] theorem encode_nil : encode [] = [] := rfl

@[simp] theorem encode_cons (b : UInt8) (bytes : Bytes) :
    encode (b :: bytes) = ofByte b ++ encode bytes := rfl

@[simp] theorem encode_append (xs ys : Bytes) : encode (xs ++ ys) = encode xs ++ encode ys :=
  List.flatMap_append

@[simp] theorem length_encode (bytes : Bytes) : (encode bytes).length = 2 * bytes.length := by
  induction bytes with
  | nil => rfl
  | cons b bytes ih =>
    rw [encode_cons, List.length_append, ih, List.length_cons]
    simp only [ofByte, List.length_cons, List.length_nil]
    omega

theorem encode_injective {xs ys : Bytes} (h : encode xs = encode ys) : xs = ys := by
  have hx := decode?_encode xs
  rw [h, decode?_encode] at hx
  exact (Option.some.inj hx).symm

theorem mem_encode {c : Char} {bytes : Bytes} (h : c ∈ encode bytes) :
    ∃ n < 16, c = digit n := by
  obtain ⟨b, -, hc⟩ := List.mem_flatMap.1 h
  rw [ofByte, List.mem_cons, List.mem_singleton] at hc
  rcases hc with rfl | rfl
  · exact ⟨_, byte_div_lt b, rfl⟩
  · exact ⟨_, byte_mod_lt b, rfl⟩

/-- What holds of the first 128 codes holds of the characters that have them. -/
theorem forall_ascii {p : Char → Prop} (h : ∀ k < 0x80, p (Char.ofNat k)) {c : Char}
    (hc : c.toNat < 0x80) : p c := by
  rw [← Char.ofNat_toNat c]
  exact h c.toNat hc

theorem toLower_of_not_ascii {c : Char} (h : ¬ c.toNat < 0x80) : c.toLower = c := by
  have hv : ¬ (c.val ≥ 'A'.val ∧ c.val ≤ 'Z'.val) := by
    rintro ⟨-, hle⟩
    have : c.toNat ≤ 90 := UInt32.le_iff_toNat_le.1 hle
    omega
  exact dif_neg hv

theorem value?_of_not_ascii {c : Char} (h : ¬ c.toNat < 0x80) : value? c = none := by
  have hle : ∀ d : Char, d.toNat < 0x80 → ¬ c ≤ d := by
    intro d hd hcd
    have : c.toNat ≤ d.toNat := UInt32.le_iff_toNat_le.1 hcd
    omega
  rw [value?, if_neg fun hr => hle '9' (by decide) hr.2, if_neg fun hr => hle 'f' (by decide) hr.2,
    if_neg fun hr => hle 'F' (by decide) hr.2]

/-- A character is a digit when it is one in lower case. -/
theorem value?_eq_some_iff {c : Char} {n : Nat} :
    value? c = some n ↔ n < 16 ∧ c.toLower = digit n := by
  by_cases hc : c.toNat < 0x80
  · have hread := forall_ascii
      (p := fun c => (value? c).all (fun n => n < 16 ∧ c.toLower = digit n) = true)
      (by decide +kernel) hc
    have hlower := forall_ascii (p := fun c => ∀ n < 16, c.toLower = digit n → value? c = some n)
      (by decide +kernel) hc
    constructor
    · intro hv
      rw [hv, Option.all_some, decide_eq_true_eq] at hread
      exact hread
    · rintro ⟨hn, hl⟩
      exact hlower n hn hl
  · rw [value?_of_not_ascii hc, toLower_of_not_ascii hc]
    constructor
    · rintro ⟨⟩
    · rintro ⟨hn, rfl⟩
      exact absurd (digit_toNat_lt hn) hc

/-- Digits that spell bytes are those that are written for them, but for the case of letters. -/
theorem decode?_eq_some_iff {cs : List Char} {bytes : Bytes} :
    decode? cs = some bytes ↔ cs.map Char.toLower = encode bytes := by
  constructor
  · intro h
    fun_induction decode? cs generalizing bytes with
    | case1 =>
      cases h
      rfl
    | case2 c => cases h
    | case3 high low rest a b ha hb ih =>
      obtain ⟨more, hmore, rfl⟩ := Option.map_eq_some_iff.1 h
      obtain ⟨ha, hhigh⟩ := value?_eq_some_iff.1 ha
      obtain ⟨hb, hlow⟩ := value?_eq_some_iff.1 hb
      have hbyte : (16 * a + b).toUInt8.toNat = 16 * a + b := 
        UInt8.toNat_ofNat_of_lt (show 16 * a + b < 256 by omega)
      have hdiv : (16 * a + b) / 16 = a := by omega
      have hmod : (16 * a + b) % 16 = b := by omega
      rw [List.map_cons, List.map_cons, hhigh, hlow, ih hmore, encode_cons, ofByte, hbyte, hdiv,
        hmod]
      rfl
    | case4 high low rest hno => cases h
  · intro h
    induction bytes generalizing cs with
    | nil =>
      rw [List.map_eq_nil_iff.1 h]
      rfl
    | cons b bytes ih =>
      obtain ⟨high, more, rfl, hhigh, h⟩ := List.map_eq_cons_iff.1 h
      obtain ⟨low, rest, rfl, hlow, h⟩ := List.map_eq_cons_iff.1 h
      have ha := value?_eq_some_iff.2 ⟨byte_div_lt b, hhigh⟩
      have hb := value?_eq_some_iff.2 ⟨byte_mod_lt b, hlow⟩
      simp only [decode?, ha, hb, ih h, toUInt8_div_mod, Option.map_some]

/-- Two lists whose first parts are equally long compare by these parts first. -/
theorem append_lt_append_iff {α : Type} [LT α] {xs ys us vs : List α}
    (h : xs.length = ys.length) : xs ++ us < ys ++ vs ↔ xs < ys ∨ (xs = ys ∧ us < vs) := by
  induction xs generalizing ys with
  | nil =>
    cases ys with
    | nil => simp
    | cons y ys => simp at h
  | cons x xs ih =>
    cases ys with
    | nil => simp at h
    | cons y ys =>
      simp only [List.length_cons, Nat.add_right_cancel_iff] at h
      simp only [List.cons_append, List.cons_lt_cons_iff, ih h, List.cons.injEq]
      constructor
      · rintro (hxy | ⟨hxy, hlt | ⟨heq, hlt⟩⟩)
        · exact .inl (.inl hxy)
        · exact .inl (.inr ⟨hxy, hlt⟩)
        · exact .inr ⟨⟨hxy, heq⟩, hlt⟩
      · rintro ((hxy | ⟨hxy, hlt⟩) | ⟨⟨hxy, heq⟩, hlt⟩)
        · exact .inl hxy
        · exact .inr ⟨hxy, .inl hlt⟩
        · exact .inr ⟨hxy, .inr ⟨heq, hlt⟩⟩

theorem ofByte_lt_ofByte (a b : UInt8) : ofByte a < ofByte b ↔ a < b := by
  have ha := byte_div_lt a
  have hb := byte_div_lt b
  have ha' := byte_mod_lt a
  have hb' := byte_mod_lt b
  simp only [ofByte, List.cons_lt_cons_iff, digit_lt_digit ha hb, digit_lt_digit ha' hb',
    List.not_lt_nil, and_false, or_false, UInt8.lt_iff_toNat_lt]
  constructor
  · rintro (h | ⟨h, h'⟩)
    · omega
    · have := digit_inj ha hb h
      omega
  · intro h
    by_cases he : a.toNat / 16 = b.toNat / 16
    · exact .inr ⟨by rw [he], by omega⟩
    · exact .inl (by omega)

theorem encode_lt_encode {xs ys : Bytes} (h : xs.length = ys.length) :
    encode xs < encode ys ↔ xs < ys := by
  induction xs generalizing ys with
  | nil =>
    cases ys with
    | nil => simp
    | cons y ys => simp at h
  | cons x xs ih =>
    cases ys with
    | nil => simp at h
    | cons y ys =>
      simp only [List.length_cons, Nat.add_right_cancel_iff] at h
      rw [encode_cons, encode_cons, append_lt_append_iff (by rfl), ofByte_lt_ofByte,
        List.cons_lt_cons_iff, ih h]
      have hinj : ofByte x = ofByte y ↔ x = y := by
        constructor
        · intro he
          have hc : encode [x] = encode [y] := by rw [encode_cons, encode_cons, he]
          simpa using encode_injective hc
        · intro he
          rw [he]
      rw [hinj]

end MovieCatalog.Hex
