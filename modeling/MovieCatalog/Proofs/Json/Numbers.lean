import MovieCatalog.Json.Reader
import MovieCatalog.Json.Value
import MovieCatalog.Proofs.Utf8

/-! Integers of JSON are read as the numbers that they were written from. -/
namespace MovieCatalog

namespace Numeral

/-- A numeral is made of digits, and it begins with a zero only if it is the numeral of zero. -/
theorem ofNat_eq_cons (n : Nat) : ∃ d < 10, ∃ ds, ofNat n = digit d :: ds ∧
    (∀ c ∈ ds, ∃ d < 10, c = digit d) ∧ (d = 0 → n = 0 ∧ ds = []) := by
  induction n using Nat.strongRecOn with
  | _ n ih =>
    rw [ofNat]
    split
    · rename_i h
      refine ⟨n, h, [], rfl, ?_, fun h0 => ⟨h0, rfl⟩⟩
      intro c hc
      simp at hc
    · rename_i h
      obtain ⟨d, hd, ds, he, hds, hz⟩ := ih (n / 10) (by omega)
      refine ⟨d, hd, ds ++ [digit (n % 10)], by rw [he]; rfl, ?_, ?_⟩
      · intro c hc
        rcases List.mem_append.1 hc with hc | hc
        · exact hds c hc
        · exact ⟨n % 10, by omega, List.mem_singleton.1 hc⟩
      · intro h0
        have := (hz h0).1
        omega

end Numeral

namespace Json

/-- What stands behind a number does not continue it. -/
def NumberEnds (rest : Bytes) : Prop :=
  ∀ b ∈ rest.head?, isDigit b = false ∧ b ≠ ascii '.' ∧ isExponentMark b = false

/-- The bytes of a numeral. -/
def numeralBytes (n : Nat) : Bytes := Utf8.encode (Numeral.ofNat n)

theorem digit_facts {d : Nat} (h : d < 10) : (Numeral.digit d).toNat < 0x80 ∧
    isDigit (ascii (Numeral.digit d)) = true ∧ digitValue (ascii (Numeral.digit d)) = d ∧
    (ascii (Numeral.digit d) = ascii '0' → d = 0) := by
  have hall : ∀ d < 10, (Numeral.digit d).toNat < 0x80 ∧
    isDigit (ascii (Numeral.digit d)) = true ∧ digitValue (ascii (Numeral.digit d)) = d ∧
    (ascii (Numeral.digit d) = ascii '0' → d = 0) := by decide
  exact hall d h

theorem encode_digit {d : Nat} (h : d < 10) :
    Utf8.encode [Numeral.digit d] = [ascii (Numeral.digit d)] := by
  rw [Utf8.encode_cons, Utf8.encode_nil, Utf8.encodeChar_of_lt (digit_facts h).1]
  rfl

theorem isDigit_of_mem_encode {cs : List Char} (h : ∀ c ∈ cs, ∃ d < 10, c = Numeral.digit d) :
    ∀ b ∈ Utf8.encode cs, isDigit b = true := by
  intro b hb
  obtain ⟨c, hc, hbc⟩ := List.mem_flatMap.1 hb
  obtain ⟨d, hd, rfl⟩ := h c hc
  rw [Utf8.encodeChar_of_lt (digit_facts hd).1, List.mem_singleton] at hbc
  rw [hbc]
  exact (digit_facts hd).2.1

/-- The bytes of a numeral are digits, and they begin with a zero only if it is the numeral of
zero. -/
theorem numeralBytes_eq_cons (n : Nat) : ∃ b ds, numeralBytes n = b :: ds ∧ isDigit b = true ∧
    (∀ d ∈ ds, isDigit d = true) ∧ (b = ascii '0' → ds = []) := by
  obtain ⟨d, hd, ds, he, hds, hz⟩ := Numeral.ofNat_eq_cons n
  obtain ⟨hlt, hdigit, -, hzero⟩ := digit_facts hd
  refine ⟨ascii (Numeral.digit d), Utf8.encode ds, ?_, hdigit, isDigit_of_mem_encode hds, ?_⟩
  · rw [numeralBytes, he, Utf8.encode_cons, Utf8.encodeChar_of_lt hlt]
    rfl
  · intro h
    rw [(hz (hzero h)).2, Utf8.encode_nil]

theorem digitsValue_append_singleton (digits : Bytes) (b : UInt8) :
    digitsValue (digits ++ [b]) = 10 * digitsValue digits + digitValue b := by
  rw [digitsValue, List.foldl_append]
  rfl

theorem digitsValue_numeralBytes (n : Nat) : digitsValue (numeralBytes n) = n := by
  induction n using Nat.strongRecOn with
  | _ n ih =>
    rw [numeralBytes, Numeral.ofNat]
    split
    · rename_i h
      rw [encode_digit h, ← List.nil_append [ascii _], digitsValue_append_singleton,
        (digit_facts h).2.2.1]
      exact Nat.zero_add n
    · rename_i h
      have hmod : n % 10 < 10 := by omega
      have hdiv := ih (n / 10) (by omega)
      rw [numeralBytes] at hdiv
      rw [Utf8.encode_append, encode_digit hmod, digitsValue_append_singleton, hdiv,
        (digit_facts hmod).2.2.1]
      omega

theorem NumberEnds.takeWhile {rest : Bytes} (h : NumberEnds rest) :
    rest.takeWhile isDigit = [] := by
  cases rest with
  | nil => rfl
  | cons b rest => rw [List.takeWhile_cons, (h b rfl).1]; rfl

theorem NumberEnds.dropWhile {rest : Bytes} (h : NumberEnds rest) :
    rest.dropWhile isDigit = rest := by
  cases rest with
  | nil => rfl
  | cons b rest => rw [List.dropWhile_cons, (h b rfl).1]; rfl

theorem NumberEnds.startsWithDigit {rest : Bytes} (h : NumberEnds rest) :
    startsWithDigit rest = false := by
  cases rest with
  | nil => rfl
  | cons b rest => exact (h b rfl).1

theorem readAfterWhole_of_numberEnds {rest : Bytes} (h : NumberEnds rest) (negative : Bool)
    (digits : Bytes) : readAfterWhole negative digits rest = wholeNumber negative digits rest := by
  cases rest with
  | nil => rfl
  | cons b rest =>
    obtain ⟨-, hpoint, hmark⟩ := h b rfl
    rw [readAfterWhole, if_neg hpoint, hmark]
    rfl

/-- A numeral is read to its end. -/
theorem readNumber_numeralBytes {rest : Bytes} (h : NumberEnds rest) (negative : Bool) (n : Nat) :
    readNumber negative (numeralBytes n ++ rest) =
      wholeNumber negative (numeralBytes n) rest := by
  obtain ⟨b, ds, he, hb, hds, hz⟩ := numeralBytes_eq_cons n
  rw [he, List.cons_append, readNumber]
  split
  · rename_i h0
    rw [hz h0, List.nil_append, h.startsWithDigit]
    exact readAfterWhole_of_numberEnds h negative [b]
  · rw [List.takeWhile_append_of_pos hds, List.dropWhile_append_of_pos hds, h.takeWhile,
      h.dropWhile, List.append_nil, readAfterWhole_of_numberEnds h]

theorem readNumber_ofNat {rest : Bytes} (h : NumberEnds rest) {n : Nat}
    (hn : n < 0x10000000000000000) :
    readNumber false (numeralBytes n ++ rest) = .ok (.integer n, rest) := by
  rw [readNumber_numeralBytes h, wholeNumber, digitsValue_numeralBytes]
  simp only [Bool.not_false, Bool.true_and, decide_eq_true_eq, hn, if_true]

theorem readNumber_neg {rest : Bytes} (h : NumberEnds rest) {n : Nat} (hn : 0 < n)
    (hn' : n ≤ 0x8000000000000000) :
    readNumber true (numeralBytes n ++ rest) = .ok (.integer (-n), rest) := by
  have hrange : (true && decide (0 < n) && decide (n ≤ 0x8000000000000000)) = true := by
    rw [decide_eq_true hn, decide_eq_true hn']
    rfl
  rw [readNumber_numeralBytes h, wholeNumber, digitsValue_numeralBytes]
  simp only [hrange, Bool.not_true, Bool.false_and, Bool.false_eq_true, if_false, if_true]

theorem ne_of_isDigit {b : UInt8} (hb : isDigit b = true) {c : Char}
    (hc : isDigit (ascii c) = false) : b ≠ ascii c := by
  intro h
  rw [h, hc] at hb
  cases hb

theorem isBlank_of_isDigit {b : UInt8} (hb : isDigit b = true) : isBlank b = false := by
  have hne : ∀ c : Char, isDigit (ascii c) = false → (b == ascii c) = false :=
    fun c hc => beq_eq_false_iff_ne.2 (ne_of_isDigit hb hc)
  rw [isBlank, hne ' ' (by decide), hne '\t' (by decide), hne '\n' (by decide),
    hne '\r' (by decide)]
  rfl

end Json
end MovieCatalog
