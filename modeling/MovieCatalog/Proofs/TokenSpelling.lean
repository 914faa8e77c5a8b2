import Mathlib.Data.Nat.Digits.Defs
import MovieCatalog.Catalog
import MovieCatalog.Proofs.PageToken

/-! The one spelling of a page token. Base 64 reads only what it writes, so a text is the token of
one identifier or of none; and a token is a numeral of twenty-seven digits with a pad behind it. -/
namespace MovieCatalog.Base64

variable {w x y z c : Char} {n base : Nat} {cs : List Char} {bytes : Bytes}
  {values values' : List Nat}

/-- A character that has a value is the digit of that value. -/
theorem digit_of_value? (h : value? c = some n) : n < 64 ∧ c = digit n := by
  have hle : ∀ a b : Char, a ≤ b ↔ a.toNat ≤ b.toNat := fun _ _ => Iff.rfl
  have hc : ∀ m, m = c.toNat → Char.ofNat m = c := by
    rintro m rfl
    exact Char.ofNat_toNat c
  simp only [value?, hle] at h
  split at h
  · rename_i hrange
    cases h
    obtain ⟨hlow, hhigh⟩ : 65 ≤ c.toNat ∧ c.toNat ≤ 90 := hrange
    refine ⟨by omega, ?_⟩
    rw [digit, if_pos (by omega), hc _ (by omega)]
  split at h
  · rename_i hrange
    cases h
    obtain ⟨hlow, hhigh⟩ : 97 ≤ c.toNat ∧ c.toNat ≤ 122 := hrange
    refine ⟨by omega, ?_⟩
    rw [digit, if_neg (by omega), if_pos (by omega), hc _ (by omega)]
  split at h
  · rename_i hrange
    cases h
    obtain ⟨hlow, hhigh⟩ : 48 ≤ c.toNat ∧ c.toNat ≤ 57 := hrange
    refine ⟨by omega, ?_⟩
    rw [digit, if_neg (by omega), if_neg (by omega), if_pos (by omega), hc _ (by omega)]
  split at h
  · rename_i hdash
    cases h
    exact ⟨by decide, hdash⟩
  split at h
  · rename_i hline
    cases h
    exact ⟨by decide, hline⟩
  · cases h

theorem toNat_toUInt8_of_lt (h : n < 256) : n.toUInt8.toNat = n := by
  simp [Nat.toUInt8, Nat.mod_eq_of_lt h]

theorem byte?_eq_some (h : byte? w x = some bytes) :
    ∃ a : UInt8, bytes = [a] ∧ w = digit (a.toNat / 4) ∧ x = digit (a.toNat % 4 * 16) := by
  unfold byte? at h
  split at h
  · rename_i m k hw hx
    obtain ⟨hm, rfl⟩ := digit_of_value? hw
    obtain ⟨hk, rfl⟩ := digit_of_value? hx
    split at h
    · cases h
      refine ⟨_, rfl, ?_, ?_⟩
      all_goals
        rw [toNat_toUInt8_of_lt (by omega)]
        congr 1
        omega
    · cases h
  · cases h

theorem twoBytes?_eq_some (h : twoBytes? w x y = some bytes) :
    ∃ a b : UInt8, bytes = [a, b] ∧ w = digit (a.toNat / 4) ∧
      x = digit (a.toNat % 4 * 16 + b.toNat / 16) ∧ y = digit (b.toNat % 16 * 4) := by
  unfold twoBytes? at h
  split at h
  · rename_i m k l hw hx hy
    obtain ⟨hm, rfl⟩ := digit_of_value? hw
    obtain ⟨hk, rfl⟩ := digit_of_value? hx
    obtain ⟨hl, rfl⟩ := digit_of_value? hy
    split at h
    · cases h
      refine ⟨_, _, rfl, ?_, ?_, ?_⟩
      all_goals
        repeat rw [toNat_toUInt8_of_lt (by omega)]
        congr 1
        omega
    · cases h
  · cases h

theorem threeBytes?_eq_some (h : threeBytes? w x y z = some bytes) :
    ∃ a b c : UInt8, bytes = [a, b, c] ∧ w = digit (a.toNat / 4) ∧
      x = digit (a.toNat % 4 * 16 + b.toNat / 16) ∧
      y = digit (b.toNat % 16 * 4 + c.toNat / 64) ∧ z = digit (c.toNat % 64) := by
  unfold threeBytes? at h
  split at h
  · rename_i m k l j hw hx hy hz
    obtain ⟨hm, rfl⟩ := digit_of_value? hw
    obtain ⟨hk, rfl⟩ := digit_of_value? hx
    obtain ⟨hl, rfl⟩ := digit_of_value? hy
    obtain ⟨hj, rfl⟩ := digit_of_value? hz
    cases h
    refine ⟨_, _, _, rfl, ?_, ?_, ?_, ?_⟩
    all_goals
      repeat rw [toNat_toUInt8_of_lt (by omega)]
      congr 1
      omega
  · cases h

/-- What is read is what is written for the bytes. -/
theorem eq_encode_of_decode? (h : decode? cs = some bytes) : cs = encode bytes := by
  fun_induction decode? cs generalizing bytes with
  | case1 =>
    cases h
    rfl
  | case2 w x =>
    obtain ⟨a, rfl, rfl, rfl⟩ := byte?_eq_some h
    rfl
  | case3 w x y hpad =>
    obtain ⟨a, b, rfl, rfl, rfl, rfl⟩ := twoBytes?_eq_some h
    rfl
  | case4 => cases h
  | case5 w x y z rest hpad group more hmore hgroup ih =>
    cases h
    obtain ⟨a, b, c, rfl, rfl, rfl, rfl, rfl⟩ := threeBytes?_eq_some hgroup
    rw [ih hmore]
    rfl
  | case6 => cases h
  | case7 => cases h

theorem decode?_eq_some_iff : decode? cs = some bytes ↔ cs = encode bytes := by
  refine ⟨eq_encode_of_decode?, ?_⟩
  rintro rfl
  exact decode?_encode bytes

/-- The number that values write in a base, the most significant one first. -/
def numeral (base : Nat) (values : List Nat) : Nat :=
  values.foldl (fun n value => base * n + value) 0

theorem numeral_eq_ofDigits (base : Nat) (values : List Nat) :
    numeral base values = Nat.ofDigits base values.reverse := by
  rw [Nat.ofDigits_eq_foldr, List.foldr_reverse, numeral]
  congr 1
  funext n value
  exact Nat.add_comm _ _

/-- Numerals of one length write different numbers. -/
theorem numeral_injective (hb : 1 < base) (hlen : values.length = values'.length)
    (h : ∀ value ∈ values, value < base) (h' : ∀ value ∈ values', value < base)
    (heq : numeral base values = numeral base values') : values = values' := by
  rw [numeral_eq_ofDigits, numeral_eq_ofDigits] at heq
  apply List.reverse_inj.1
  refine Nat.ofDigits_inj_of_len_eq hb ?_ ?_ ?_ heq
  · simpa using hlen
  · simpa using h
  · simpa using h'

/-- Bytes whose last group has two of them are written as a numeral for four times their number,
with a pad behind it. The number before them is carried along. -/
theorem exists_values_encode (bytes : Bytes) (h : bytes.length % 3 = 2) (n : Nat) :
    ∃ values : List Nat, values.length = bytes.length / 3 * 4 + 3 ∧ (∀ value ∈ values, value < 64) ∧
      encode bytes = values.map digit ++ ['='] ∧
      values.foldl (fun n value => 64 * n + value) n =
        4 * bytes.foldl (fun n b => 256 * n + b.toNat) n := by
  fun_induction encode bytes generalizing n with
  | case1 => cases h
  | case2 a => cases h
  | case3 a b =>
    have ha := a.toNat_lt
    have hb := b.toNat_lt
    refine ⟨[a.toNat / 4, a.toNat % 4 * 16 + b.toNat / 16, b.toNat % 16 * 4], by simp, ?_, rfl, ?_⟩
    · simp only [List.forall_mem_cons, List.not_mem_nil, false_implies, implies_true, and_true]
      omega
    · simp only [List.foldl_cons, List.foldl_nil]
      omega
  | case4 a b c rest ih =>
    have ha := a.toNat_lt
    have hb := b.toNat_lt
    have hc := c.toNat_lt
    have hrest : rest.length % 3 = 2 := by
      simp only [List.length_cons] at h
      omega
    obtain ⟨values, hlength, hlt, hencode, hvalue⟩ :=
      ih hrest (256 * (256 * (256 * n + a.toNat) + b.toNat) + c.toNat)
    refine ⟨a.toNat / 4 :: (a.toNat % 4 * 16 + b.toNat / 16) :: (b.toNat % 16 * 4 + c.toNat / 64) ::
      c.toNat % 64 :: values, ?_, ?_, ?_, ?_⟩
    · simp only [List.length_cons, hlength]
      omega
    · simp only [List.forall_mem_cons]
      exact ⟨by omega, by omega, by omega, by omega, hlt⟩
    · rw [hencode]
      rfl
    · simp only [List.foldl_cons, ← hvalue]
      congr 1
      omega

end MovieCatalog.Base64

namespace MovieCatalog.PageToken

open Base64 (numeral)

/-- The digits of base 64 in the order of their values. -/
def alphabet : List Char :=
  "ABCDEFGHIJKLMNOPQRSTUVWXYZabcdefghijklmnopqrstuvwxyz0123456789-_".toList

/-- The text is a numeral of twenty-seven digits with a pad behind it. The number is that of `PLAN`
and the identifier behind each other, with two zero bits at the end. -/
def Spells (token : String) (id : Uuid) : Prop :=
  ∃ values : List Nat, values.length = 27 ∧ (∀ value ∈ values, value < 64) ∧
    token.toList = values.map (fun value => alphabet.getD value '=') ++ ['='] ∧
    numeral 64 values = 4 * (0x504C414E * 2 ^ 128 + id.toNat)

variable {token : String} {id : Uuid}

theorem decode?_eq_some_iff : decode? token = some id ↔ token = encode id := by
  constructor
  · intro h
    unfold decode? at h
    split at h
    · rename_i bytes hbytes
      split at h
      · rename_i hmark
        split at h
        · cases h
          rw [encode, ← hmark, List.take_append_drop, ← Base64.decode?_eq_some_iff.1 hbytes,
            String.ofList_toList]
        · cases h
      · cases h
    · cases h
  · rintro rfl
    exact decode?_encode id

theorem alphabet_getD {n : Nat} (h : n < 64) : alphabet.getD n '=' = Base64.digit n := by
  have hall : ∀ n < 64, alphabet.getD n '=' = Base64.digit n := by decide +kernel
  exact hall n h

/-- The number of an identifier goes behind the one before it. -/
theorem foldl_bytes (n : Nat) (bytes : Bytes) :
    bytes.foldl (fun n b => 256 * n + b.toNat) n =
      n * 256 ^ bytes.length + bytes.foldl (fun n b => 256 * n + b.toNat) 0 := by
  induction bytes generalizing n with
  | nil => simp
  | cons b bytes ih =>
    rw [List.foldl_cons, List.foldl_cons, ih, ih (256 * 0 + b.toNat), List.length_cons]
    ring

theorem spells_encode (id : Uuid) : Spells (encode id) id := by
  have hlen : (mark ++ id.bytes).length = 20 := by
    rw [List.length_append, id.size_eq]
    rfl
  obtain ⟨values, hlength, hlt, hencode, hvalue⟩ :=
    Base64.exists_values_encode (mark ++ id.bytes) (by rw [hlen]) 0
  refine ⟨values, ?_, hlt, ?_, ?_⟩
  · rw [hlength, hlen]
  · rw [encode, String.toList_ofList, hencode]
    congr 1
    apply List.map_congr_left
    intro value hvalue
    exact (alphabet_getD (hlt value hvalue)).symm
  · rw [numeral, hvalue, List.foldl_append, foldl_bytes, id.size_eq, Uuid.toNat]
    rfl

/-- An identifier has no second spelling. -/
theorem Spells.unique {token' : String} (h : Spells token id) (h' : Spells token' id) :
    token = token' := by
  obtain ⟨values, hlength, hlt, htoken, hvalue⟩ := h
  obtain ⟨values', hlength', hlt', htoken', hvalue'⟩ := h'
  have heq : values = values' := by
    refine Base64.numeral_injective (by decide) ?_ hlt hlt' ?_
    · rw [hlength, hlength']
    · rw [hvalue, hvalue']
  apply String.toList_injective
  rw [htoken, htoken', heq]

theorem spells_iff : Spells token id ↔ token = encode id := by
  constructor
  · intro h
    exact h.unique (spells_encode id)
  · rintro rfl
    exact spells_encode id

/-- What a text resumes after, or that it is refused. -/
theorem resumePoint_some (token : String) : Catalog.resumePoint (some token) =
    match decode? token with
    | none => .error .invalidToken
    | some id => .ok (some id) := rfl

/-- Every identifier has one token, which is its only spelling, and only tokens are read: a text is
read as an identifier if it is the token of it, and is an invalid token if it is that of none. -/
theorem token_canonical (token : String) :
    (∀ id, (decode? token = some id ↔ token = encode id) ∧ (Spells token id ↔ token = encode id)) ∧
    (∀ id, Catalog.resumePoint (some token) = .ok (some id) ↔ token = encode id) ∧
    (Catalog.resumePoint (some token) = .error .invalidToken ↔ ∀ id, token ≠ encode id) := by
  refine ⟨fun id => ⟨decode?_eq_some_iff, spells_iff⟩, ?_, ?_⟩
  · intro id
    rw [resumePoint_some, ← decode?_eq_some_iff]
    cases decode? token <;> simp
  · simp only [resumePoint_some, ne_eq, ← decode?_eq_some_iff]
    cases decode? token <;> simp

/-- The last digit of the token of the nil identifier must not use its last two bits. -/
example : Catalog.resumePoint (some "UExBTgAAAAAAAAAAAAAAAAAAAAA=") = .ok (some .nil) ∧
    Catalog.resumePoint (some "UExBTgAAAAAAAAAAAAAAAAAAAAB=") = .error .invalidToken := by
  decide +kernel

end MovieCatalog.PageToken
