import MovieCatalog.Text.Utf8

/-! Decoding undoes encoding. -/
namespace MovieCatalog.Utf8

theorem toNat_toUInt8 {n : Nat} (h : n < 256) : n.toUInt8.toNat = n := by
  simpa using h

theorem pieces_settled {b : UInt8} {c : Char} (h : lead b.toNat = (some c, .start))
    (rest : Bytes) : pieces .start (b :: rest) = some c :: pieces .start rest := by
  simp [pieces, h, settled]

theorem pieces_opened {b : UInt8} {value left low high : Nat}
    (h : lead b.toNat = (none, .inside value left low high)) (rest : Bytes) :
    pieces .start (b :: rest) = pieces (.inside value left low high) rest := by
  simp [pieces, h, settled]

theorem pieces_last {value low high n : Nat} (h : low ≤ n ∧ n ≤ high) (hn : n < 256)
    (rest : Bytes) : pieces (.inside value 0 low high) (n.toUInt8 :: rest) =
      some (Char.ofNat (value * 64 + (n - 0x80))) :: pieces .start rest := by
  simp only [pieces, toNat_toUInt8 hn, h, and_self, if_true]

theorem pieces_further {value left low high n : Nat} (h : low ≤ n ∧ n ≤ high) (hn : n < 256)
    (rest : Bytes) : pieces (.inside value (left + 1) low high) (n.toUInt8 :: rest) =
      pieces (.inside (value * 64 + (n - 0x80)) left 0x80 0xBF) rest := by
  simp only [pieces, toNat_toUInt8 hn, h, and_self, if_true]

theorem lead_two {n : Nat} (h : 0x80 ≤ n) (h' : n < 0x800) :
    lead (0xC0 + n / 64) = (none, .inside (n / 64) 0 0x80 0xBF) := by
  unfold lead
  rw [if_neg (by omega), if_neg (by omega), if_pos (by omega)]
  simp

/-- The bounds for the second of three bytes. -/
theorem lead_three {n : Nat} (h : 0x800 ≤ n) (h' : n < 0x10000)
    (hs : n < 0xD800 ∨ 0xDFFF < n) :
    ∃ low high, lead (0xE0 + n / 4096) = (none, .inside (n / 4096) 1 low high) ∧
      low ≤ 0x80 + n / 64 % 64 ∧ 0x80 + n / 64 % 64 ≤ high := by
  unfold lead
  rw [if_neg (by omega), if_neg (by omega), if_neg (by omega)]
  by_cases h0 : n / 4096 = 0
  · exact ⟨0xA0, 0xBF, by simp [h0], by omega, by omega⟩
  · rw [if_neg (by omega)]
    by_cases hd : n / 4096 = 13
    · exact ⟨0x80, 0x9F, by simp [hd], by omega, by omega⟩
    · rw [if_neg (by omega), if_pos (by omega)]
      exact ⟨0x80, 0xBF, by simp, by omega, by omega⟩

theorem lead_four {n : Nat} (h : 0x10000 ≤ n) (h' : n < 0x110000) :
    ∃ low high, lead (0xF0 + n / 262144) = (none, .inside (n / 262144) 2 low high) ∧
      low ≤ 0x80 + n / 4096 % 64 ∧ 0x80 + n / 4096 % 64 ≤ high := by
  unfold lead
  rw [if_neg (by omega), if_neg (by omega), if_neg (by omega), if_neg (by omega),
    if_neg (by omega), if_neg (by omega)]
  by_cases h0 : n / 262144 = 0
  · exact ⟨0x90, 0xBF, by simp [h0], by omega, by omega⟩
  · rw [if_neg (by omega)]
    by_cases hd : n / 262144 = 4
    · exact ⟨0x80, 0x8F, by simp [hd], by omega, by omega⟩
    · rw [if_pos (by omega)]
      exact ⟨0x80, 0xBF, by simp, by omega, by omega⟩

/-- The bytes of a character are read as that character. -/
theorem pieces_encodeChar (c : Char) (rest : Bytes) :
    pieces .start (encodeChar c ++ rest) = some c :: pieces .start rest := by
  have hv : c.toNat < 0xD800 ∨ (0xDFFF < c.toNat ∧ c.toNat < 0x110000) := c.valid
  have hc : Char.ofNat c.toNat = c := Char.ofNat_toNat c
  unfold encodeChar
  generalize c.toNat = n at hv hc
  simp only
  split
  · apply pieces_settled
    rw [toNat_toUInt8 (by omega)]
    unfold lead
    rw [if_pos (by omega), hc]
  split
  · have hl := lead_two (n := n) (by omega) (by omega)
    rw [← toNat_toUInt8 (n := 0xC0 + n / 64) (by omega)] at hl
    have hn : n / 64 * 64 + (0x80 + n % 64 - 0x80) = n := by omega
    rw [List.cons_append, pieces_opened hl, List.cons_append, List.nil_append,
      pieces_last (by omega) (by omega), hn, hc]
  split
  · obtain ⟨low, high, hl, hb⟩ := lead_three (n := n) (by omega) (by omega) (by omega)
    rw [← toNat_toUInt8 (n := 0xE0 + n / 4096) (by omega)] at hl
    have hn : (n / 4096 * 64 + (0x80 + n / 64 % 64 - 0x80)) * 64 + (0x80 + n % 64 - 0x80) = n := by
      omega
    rw [List.cons_append, pieces_opened hl, List.cons_append, pieces_further hb (by omega),
      List.cons_append, List.nil_append, pieces_last (by omega) (by omega), hn, hc]
  · obtain ⟨low, high, hl, hb⟩ := lead_four (n := n) (by omega) (by omega)
    rw [← toNat_toUInt8 (n := 0xF0 + n / 262144) (by omega)] at hl
    have hn : ((n / 262144 * 64 + (0x80 + n / 4096 % 64 - 0x80)) * 64 +
        (0x80 + n / 64 % 64 - 0x80)) * 64 + (0x80 + n % 64 - 0x80) = n := by omega
    rw [List.cons_append, pieces_opened hl, List.cons_append, pieces_further hb (by omega),
      List.cons_append, pieces_further (by omega) (by omega),
      List.cons_append, List.nil_append, pieces_last (by omega) (by omega), hn, hc]

theorem pieces_encode (cs : List Char) : pieces .start (encode cs) = cs.map some := by
  induction cs with
  | nil => rfl
  | cons c cs ih => rw [encode, List.flatMap_cons, pieces_encodeChar, List.map_cons, ← ih, encode]

theorem sequence_map_some (cs : List Char) : sequence (cs.map some) = some cs := by
  induction cs with
  | nil => rfl
  | cons c cs ih => rw [List.map_cons, sequence, ih, Option.map_some]

theorem decode?_encode (cs : List Char) : decode? (encode cs) = some cs := by
  rw [decode?, pieces_encode, sequence_map_some]

theorem decodeLossy_encode (cs : List Char) : decodeLossy (encode cs) = cs := by
  rw [decodeLossy, pieces_encode, List.map_map]
  exact List.map_id cs

@[simp] theorem encode_nil : encode [] = [] := rfl

@[simp] theorem encode_append (cs ds : List Char) : encode (cs ++ ds) = encode cs ++ encode ds :=
  List.flatMap_append

@[simp] theorem encode_cons (c : Char) (cs : List Char) :
    encode (c :: cs) = encodeChar c ++ encode cs := rfl

@[simp] theorem ofText_ofList (cs : List Char) : ofText (String.ofList cs) = encode cs := by
  rw [ofText, String.toList_ofList]

theorem ofText_append (s t : String) : ofText (s ++ t) = ofText s ++ ofText t := by
  rw [ofText, String.toList_append, encode_append, ofText, ofText]

theorem toNat_ascii {c : Char} (h : c.toNat < 0x80) : (ascii c).toNat = c.toNat := by
  change c.val.toUInt8.toNat = c.val.toNat
  have hc : c.val.toNat < 0x80 := h
  rw [UInt32.toNat_toUInt8]
  omega

theorem ascii_inj {c d : Char} (hc : c.toNat < 0x80) (hd : d.toNat < 0x80)
    (h : ascii c = ascii d) : c = d := by
  have hn := toNat_ascii hc
  rw [h, toNat_ascii hd] at hn
  exact (Char.toNat_inj.1 hn).symm

/-- Characters below U+0080 are one byte each. -/
theorem encodeChar_of_lt {c : Char} (h : c.toNat < 0x80) : encodeChar c = [ascii c] := by
  rw [encodeChar, if_pos h]
  rfl

theorem encode_of_lt {cs : List Char} (h : ∀ c ∈ cs, c.toNat < 0x80) :
    encode cs = cs.map ascii := by
  induction cs with
  | nil => rfl
  | cons c cs ih =>
    rw [encode_cons, encodeChar_of_lt (h c List.mem_cons_self),
      ih fun d hd => h d (List.mem_cons_of_mem c hd)]
    rfl

theorem ascii_lt_ascii {c d : Char} (hc : c.toNat < 0x80) (hd : d.toNat < 0x80) :
    ascii c < ascii d ↔ c < d := by
  rw [UInt8.lt_iff_toNat_lt, toNat_ascii hc, toNat_ascii hd]
  exact UInt32.lt_iff_toNat_lt.symm

/-- Texts below U+0080 are ordered as their bytes are. -/
theorem encode_lt_encode {cs ds : List Char} (hcs : ∀ c ∈ cs, c.toNat < 0x80)
    (hds : ∀ d ∈ ds, d.toNat < 0x80) : encode cs < encode ds ↔ cs < ds := by
  rw [encode_of_lt hcs, encode_of_lt hds]
  induction cs generalizing ds with
  | nil => cases ds <;> simp
  | cons c cs ih =>
    cases ds with
    | nil => simp
    | cons d ds =>
      rw [List.forall_mem_cons] at hcs hds
      have heq : ascii c = ascii d ↔ c = d :=
        ⟨ascii_inj hcs.1 hds.1, fun h => by rw [h]⟩
      rw [List.map_cons, List.map_cons, List.cons_lt_cons_iff, List.cons_lt_cons_iff,
        ascii_lt_ascii hcs.1 hds.1, heq, ih hcs.2 hds.2]

/-- A character from U+0080 on has no byte below 0x80. -/
theorem le_of_mem_encodeChar {c : Char} {b : UInt8} (hc : 0x80 ≤ c.toNat)
    (hb : b ∈ encodeChar c) : 0x80 ≤ b.toNat := by
  have hv : c.toNat < 0xD800 ∨ (0xDFFF < c.toNat ∧ c.toNat < 0x110000) := c.valid
  unfold encodeChar at hb
  generalize c.toNat = n at hv hc hb
  simp only at hb
  rw [if_neg (by omega)] at hb
  split at hb
  · simp only [List.mem_cons, List.not_mem_nil, or_false] at hb
    rcases hb with rfl | rfl <;> rw [toNat_toUInt8 (by omega)] <;> omega
  split at hb
  · simp only [List.mem_cons, List.not_mem_nil, or_false] at hb
    rcases hb with rfl | rfl | rfl <;> rw [toNat_toUInt8 (by omega)] <;> omega
  · simp only [List.mem_cons, List.not_mem_nil, or_false] at hb
    rcases hb with rfl | rfl | rfl | rfl <;> rw [toNat_toUInt8 (by omega)] <;> omega

end MovieCatalog.Utf8
