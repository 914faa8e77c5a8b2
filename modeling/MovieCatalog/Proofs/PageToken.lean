import MovieCatalog.PageToken
import MovieCatalog.Proofs.Utf8
import MovieCatalog.Proofs.Uuid

/-! Base 64 and page tokens: reading undoes writing, and what is written needs no escaping in a
query string. -/
namespace MovieCatalog.Base64

variable {n : Nat} {c : Char}

theorem value?_digit (h : n < 64) : value? (digit n) = some n := by
  have hall : ∀ n < 64, value? (digit n) = some n := by decide
  exact hall n h

theorem digit_ne_pad (h : n < 64) : digit n ≠ '=' := by
  intro he
  have hv := value?_digit h
  rw [he] at hv
  cases hv

theorem toUInt8_eq {b : UInt8} {n : Nat} (h : n = b.toNat) : n.toUInt8 = b := by
  rw [h]
  exact UInt8.ofNat_toNat

theorem byte?_digits (a : UInt8) :
    byte? (digit (a.toNat / 4)) (digit (a.toNat % 4 * 16)) = some [a] := by
  have ha := a.toNat_lt
  have hw : a.toNat / 4 < 64 := by omega
  have hx : a.toNat % 4 * 16 < 64 := by omega
  rw [byte?, value?_digit hw, value?_digit hx]
  simp only
  rw [if_pos (by omega), toUInt8_eq (b := a) (by omega)]

theorem twoBytes?_digits (a b : UInt8) : twoBytes? (digit (a.toNat / 4))
    (digit (a.toNat % 4 * 16 + b.toNat / 16)) (digit (b.toNat % 16 * 4)) = some [a, b] := by
  have ha := a.toNat_lt
  have hb := b.toNat_lt
  have hw : a.toNat / 4 < 64 := by omega
  have hx : a.toNat % 4 * 16 + b.toNat / 16 < 64 := by omega
  have hy : b.toNat % 16 * 4 < 64 := by omega
  rw [twoBytes?, value?_digit hw, value?_digit hx, value?_digit hy]
  simp only
  rw [if_pos (by omega), toUInt8_eq (b := a) (by omega), toUInt8_eq (b := b) (by omega)]

theorem threeBytes?_digits (a b c : UInt8) : threeBytes? (digit (a.toNat / 4))
    (digit (a.toNat % 4 * 16 + b.toNat / 16)) (digit (b.toNat % 16 * 4 + c.toNat / 64))
    (digit (c.toNat % 64)) = some [a, b, c] := by
  have ha := a.toNat_lt
  have hb := b.toNat_lt
  have hc := c.toNat_lt
  have hw : a.toNat / 4 < 64 := by omega
  have hx : a.toNat % 4 * 16 + b.toNat / 16 < 64 := by omega
  have hy : b.toNat % 16 * 4 + c.toNat / 64 < 64 := by omega
  have hz : c.toNat % 64 < 64 := by omega
  rw [threeBytes?, value?_digit hw, value?_digit hx, value?_digit hy, value?_digit hz]
  simp only
  rw [toUInt8_eq (b := a) (by omega), toUInt8_eq (b := b) (by omega),
    toUInt8_eq (b := c) (by omega)]

theorem decode?_encode (bytes : Bytes) : decode? (encode bytes) = some bytes := by
  fun_induction encode bytes with
  | case1 => rfl
  | case2 a => rw [decode?, if_pos rfl, if_pos rfl, if_pos rfl, byte?_digits]
  | case3 a b =>
    have hy : digit (b.toNat % 16 * 4) ≠ '=' := digit_ne_pad (by omega)
    rw [decode?, if_pos rfl, if_pos rfl, if_neg hy, twoBytes?_digits]
  | case4 a b c rest ih =>
    have hz : digit (c.toNat % 64) ≠ '=' := digit_ne_pad (by omega)
    rw [decode?, if_neg hz, threeBytes?_digits, ih]
    rfl

/-- Characters that stand for themselves in the value of a query string. -/
def Plain (c : Char) : Prop := c.toNat < 0x80 ∧ c ≠ '%' ∧ c ≠ '+' ∧ c ≠ '&'

instance : DecidablePred Plain := fun _ => inferInstanceAs (Decidable (_ ∧ _))

theorem plain_digit (h : n < 64) : Plain (digit n) := by
  have hall : ∀ n < 64, Plain (digit n) := by decide
  exact hall n h

theorem plain_encode (bytes : Bytes) : ∀ c ∈ encode bytes, Plain c := by
  have hpad : Plain '=' := by decide
  fun_induction encode bytes with
  | case1 =>
    intro c hc
    cases hc
  | case2 a =>
    have ha := a.toNat_lt
    simp only [List.forall_mem_cons, List.not_mem_nil, false_implies, implies_true, and_true]
    exact ⟨plain_digit (by omega), plain_digit (by omega), hpad, hpad⟩
  | case3 a b =>
    have ha := a.toNat_lt
    have hb := b.toNat_lt
    simp only [List.forall_mem_cons, List.not_mem_nil, false_implies, implies_true, and_true]
    exact ⟨plain_digit (by omega), plain_digit (by omega), plain_digit (by omega), hpad⟩
  | case4 a b c rest ih =>
    have ha := a.toNat_lt
    have hb := b.toNat_lt
    have hc := c.toNat_lt
    simp only [List.forall_mem_cons]
    exact ⟨plain_digit (by omega), plain_digit (by omega), plain_digit (by omega),
      plain_digit (by omega), ih⟩

end MovieCatalog.Base64

namespace MovieCatalog.PageToken

variable (id : Uuid)

theorem decode?_encode : decode? (encode id) = some id := by
  have hmark : (mark ++ id.bytes).take 4 = mark := rfl
  have hdrop : (mark ++ id.bytes).drop 4 = id.bytes := rfl
  rw [decode?, encode, String.toList_ofList, Base64.decode?_encode]
  simp only
  rw [if_pos hmark]
  simp only [hdrop]
  rw [dif_pos id.size_eq]

/-- A token is never empty. -/
theorem isEmpty_encode : (encode id).isEmpty = false := by
  rw [Bool.eq_false_iff]
  intro h
  have hnil := congrArg String.toList (String.isEmpty_iff.1 h)
  rw [encode, String.toList_ofList] at hnil
  cases hnil

end MovieCatalog.PageToken
