import MovieCatalog.Proofs.Json.Skipping
import MovieCatalog.Proofs.Json.Values

/-! Readers of single values. What is read ends where it would end if it were skipped, and a value
is read from its tokens, whatever ends them. -/
namespace MovieCatalog.Json

variable {α : Type} {bytes rest input : Bytes} {tokens : List Bytes}

namespace Reader

/-- What is read ends where it would end if it were skipped. -/
def Keeps (reader : Reader α) : Prop :=
  ∀ {input value rest}, reader.read input = .ok (value, rest) → skipValue input = .ok rest

/-- The tokens are read as the value, whatever ends them. -/
def Takes (reader : Reader α) (tokens : List Bytes) (value : α) : Prop :=
  ∀ further input, Ends further → Spaced (tokens ++ further) input →
    ∃ rest, Spaced further rest ∧ reader.read input = .ok (value, rest)

/-- The tokens are refused, whatever ends them. -/
def Refuses (reader : Reader α) (tokens : List Bytes) : Prop :=
  ∀ further input, Ends further → Spaced (tokens ++ further) input →
    ∃ fault, reader.read input = .error fault

end Reader

/-- The state in which a string is skipped where it would be read in another one. Halves of pairs
make no difference there. -/
def StringState.skip : StringState → SkipState
  | .plain | .halfway _ => .plain
  | .escape | .halfwayEscape _ => .escape
  | .unit digits | .halfwayUnit _ digits => .unit digits

theorem skipStringFrom_step {state next : StringState} {b : UInt8} {added : Bytes}
    (h : stringStep state b = .ok (.more next added)) (rest : Bytes) :
    skipStringFrom state.skip (b :: rest) = skipStringFrom next.skip rest := by
  have hne : ascii '\\' ≠ ascii '"' := by decide
  fun_cases stringStep state b <;> grind [stringStep, skipStringFrom, StringState.skip]

/-- Only the closing quote ends a string. -/
theorem eq_of_stringStep_done {state : StringState} {b : UInt8}
    (h : stringStep state b = .ok .done) : state = .plain ∧ b = ascii '"' := by
  fun_cases stringStep state b <;> grind [stringStep]

theorem skipStringFrom_read {state : StringState} {seen : Bytes}
    (h : readStringFrom state seen input = .ok (bytes, rest)) :
    skipStringFrom state.skip input = .ok rest := by
  fun_induction readStringFrom state seen input with
  | case1 => cases h
  | case2 => cases h
  | case3 state seen b more next added hstep ih => rw [skipStringFrom_step hstep, ih h]
  | case4 state seen b more hstep =>
    cases h
    obtain ⟨rfl, rfl⟩ := eq_of_stringStep_done hstep
    rfl

theorem skipString_read {s : String} (h : readString input = .ok (s, rest)) :
    skipString input = .ok rest := by
  rw [readString] at h
  split at h
  · cases h
  · rename_i hread
    split at h
    · cases h
      exact skipStringFrom_read hread
    · cases h

variable {negative : Bool} {value : Int}

theorem Scaled.number_ne_integer (x : Scaled) :
    x.number negative input ≠ .ok (.integer value, rest) := by
  intro h
  rw [Scaled.number] at h
  split at h <;> cases h

theorem readExponent_ne_integer (x : Scaled) :
    readExponent negative x input ≠ .ok (.integer value, rest) := by
  intro h
  unfold readExponent at h
  split at h
  grind [Scaled.number_ne_integer]

theorem readFraction_ne_integer (x : Scaled) :
    readFraction negative x input ≠ .ok (.integer value, rest) := by
  intro h
  unfold readFraction at h
  grind [Scaled.number_ne_integer, readExponent_ne_integer]

theorem skipAfterWhole_read {digits : Bytes}
    (h : readAfterWhole negative digits input = .ok (.integer value, rest)) :
    skipAfterWhole input = .ok rest := by
  cases input with
  | nil =>
    cases wholeNumber_rest h
    rfl
  | cons b input =>
    rw [readAfterWhole] at h
    split at h
    · exact absurd h (readFraction_ne_integer _)
    · rename_i hpoint
      split at h
      · exact absurd h (readExponent_ne_integer _)
      · rename_i hmark
        cases wholeNumber_rest h
        rw [skipAfterWhole, if_neg hpoint, skipExponent, if_neg hmark]

theorem skipNumber_read (h : readNumber negative input = .ok (.integer value, rest)) :
    skipNumber input = .ok rest := by
  cases input with
  | nil => cases h
  | cons b input =>
    rw [readNumber] at h
    rw [skipNumber]
    grind [skipAfterWhole_read]

namespace Reader

theorem keeps_begun {reader : Reader α} {read : UInt8 → Bytes → Except Fault (α × Bytes)}
    (hreader : reader.read = readBegun read)
    (h : ∀ {b more value rest}, read b more = .ok (value, rest) →
      Bracket.ofOpening? b = none ∧ skipScalar b more = .ok rest) : Keeps reader := by
  intro input value rest hok
  rw [hreader, readBegun] at hok
  split at hok
  · cases hok
  · rename_i hblanks
    obtain ⟨hbracket, hskip⟩ := h hok
    rw [skipValue, skipFrom_scalar hblanks hbracket hskip, skipFrom]

theorem keeps_text : Keeps text := by
  refine keeps_begun text_read ?_
  intro b more value rest h
  rw [textFrom] at h
  split at h
  · rename_i hb
    subst hb
    exact ⟨rfl, skipString_read h⟩
  · cases h

theorem keeps_flag : Keeps flag := by
  refine keeps_begun rfl ?_
  intro b more value rest h
  rw [flagFrom] at h
  split at h
  · rename_i hb
    subst hb
    split at h
    · rename_i hword
      cases h
      exact ⟨rfl, hword⟩
    · cases h
  · split at h
    · rename_i hb
      subst hb
      split at h
      · rename_i hword
        cases h
        exact ⟨rfl, hword⟩
      · cases h
    · cases h

theorem keeps_narrow {number : Number} {value : Int32}
    (hread : readNumber negative input = .ok (number, bytes))
    (h : narrow number bytes = .ok (value, rest)) : skipNumber input = .ok rest := by
  cases number with
  | integer n => exact narrow_rest h ▸ skipNumber_read hread
  | real x => cases h

theorem keeps_int32 : Keeps int32 := by
  refine keeps_begun int32_read ?_
  intro b more value rest h
  rw [int32From] at h
  split at h
  · rename_i hb
    subst hb
    split at h
    · rename_i hread
      exact ⟨rfl, keeps_narrow hread h⟩
    · cases h
  · rename_i hminus
    split at h
    · rename_i hb
      have hne : ∀ c : Char, isDigit (ascii c) = false → b ≠ ascii c := fun c => ne_of_isDigit hb
      split at h
      · rename_i hread
        refine ⟨?_, ?_⟩
        · rw [Bracket.ofOpening?, if_neg (hne '[' (by decide)), if_neg (hne '\x7b' (by decide))]
        · rw [skipScalar, if_neg (hne 'n' (by decide)), if_neg (hne 't' (by decide)),
            if_neg (hne 'f' (by decide)), if_neg hminus, if_pos hb]
          exact keeps_narrow hread h
      · cases h
    · cases h

theorem keeps_nullable {reader : Reader α} (h : Keeps reader) : Keeps reader.nullable := by
  intro input value rest hok
  rw [nullable_read, readNullable] at hok
  split at hok
  · cases hok
  · rename_i b more hblanks
    split at hok
    · rename_i hb
      subst hb
      split at hok
      · rename_i hword
        cases hok
        rw [skipValue, skipFrom_scalar hblanks rfl hword, skipFrom]
      · cases hok
    · split at hok
      · rename_i hread
        cases hok
        exact h hread
      · cases hok

theorem map_read {β : Type} (f : α → β) (reader : Reader α) : (reader.map f).read input =
    (reader.read input).map fun (value, rest) => (f value, rest) := by
  unfold Reader.map
  dsimp only
  cases reader.read input with
  | ok pair => rfl
  | error fault => rfl

theorem keeps_map {β : Type} {reader : Reader α} (f : α → β) (h : Keeps reader) :
    Keeps (reader.map f) := by
  intro input value rest hok
  rw [map_read] at hok
  cases hread : reader.read input with
  | ok pair =>
    rw [hread] at hok
    cases hok
    exact h hread
  | error fault =>
    rw [hread] at hok
    cases hok

variable {reader : Reader α} {read : UInt8 → Bytes → Except Fault (α × Bytes)} {b : UInt8}
  {result : α}

theorem takes_begun (hreader : reader.read = readBegun read) (hb : isBlank b = false)
    (h : ∀ rest, NumberEnds rest → read b (bytes ++ rest) = .ok (result, rest)) :
    Takes reader [b :: bytes] result := by
  intro further input hends hinput
  obtain ⟨rest, hrest, hblanks⟩ := hinput.first hb
  refine ⟨rest, hrest, ?_⟩
  rw [hreader, readBegun, hblanks]
  exact h rest (hends.numberEnds hrest)

theorem refuses_begun (hreader : reader.read = readBegun read) (hb : isBlank b = false)
    (h : ∀ rest, NumberEnds rest → ∃ fault, read b (bytes ++ rest) = .error fault) :
    Refuses reader [b :: bytes] := by
  intro further input hends hinput
  obtain ⟨rest, hrest, hblanks⟩ := hinput.first hb
  rw [hreader, readBegun, hblanks]
  exact h rest (hends.numberEnds hrest)

theorem takes_text {s : String} (h : Spells bytes s.toList) : Takes text [quoted bytes] s := by
  refine takes_begun text_read (by decide) ?_
  intro rest _
  have hread := readString_spells h rest
  rw [String.ofList_toList] at hread
  rw [List.append_assoc, List.singleton_append, textFrom, if_pos rfl, hread]

theorem takes_flag (value : Bool) :
    Takes flag [Utf8.ofText (if value then "true" else "false")] value := by
  cases value with
  | true => exact takes_begun (b := ascii 't') rfl (by decide) fun rest _ => rfl
  | false => exact takes_begun (b := ascii 'f') rfl (by decide) fun rest _ => rfl

/-- The text of an integer begins with a sign or a digit. -/
theorem integer_cases (i : Int) : (∃ n b ds, i = Int.ofNat n ∧ numeralBytes n = b :: ds ∧
      isDigit b = true ∧ Utf8.encode (Numeral.ofInt i) = b :: ds) ∨
    ∃ n, i = -(n + 1 : Nat) ∧
      Utf8.encode (Numeral.ofInt i) = ascii '-' :: numeralBytes (n + 1) := by
  cases i with
  | ofNat n =>
    obtain ⟨b, ds, he, hb, -, -⟩ := numeralBytes_eq_cons n
    exact .inl ⟨n, b, ds, rfl, he, hb, he⟩
  | negSucc n => exact .inr ⟨n, rfl, rfl⟩

theorem takes_int32 (value : Int32) :
    Takes int32 [Utf8.encode (Numeral.ofInt value.toInt)] value := by
  have hreads := reads_int32 value
  obtain ⟨b, bytes, he, hblank, -⟩ := opens_integer value.toInt
  change Utf8.encode (Numeral.ofInt value.toInt) = b :: bytes at he
  rw [he]
  refine takes_begun int32_read hblank ?_
  intro rest hrest
  have hread := hreads rest hrest
  change int32.read (Utf8.encode (Numeral.ofInt value.toInt) ++ rest) = _ at hread
  rw [he, int32_read, List.cons_append, readBegun_cons hblank] at hread
  exact hread

/-- An integer is read as such or as no integer at all. -/
theorem wholeNumber_eq_integer {digits : Bytes}
    (h : wholeNumber negative digits input = .ok (.integer value, rest)) :
    value = if negative then -(digitsValue digits : Int) else digitsValue digits := by
  rw [wholeNumber] at h
  split at h
  · rename_i hpositive
    cases h
    grind
  · split at h
    · rename_i hnegative
      cases h
      grind
    · exact absurd h (Scaled.number_ne_integer _)

theorem narrow_in_range {number : Number} {n : Int32} (h : narrow number input = .ok (n, rest)) :
    ∃ i : Int, number = .integer i ∧ -0x80000000 ≤ i ∧ i < 0x80000000 := by
  cases number with
  | integer i =>
    rw [narrow] at h
    split at h
    · rename_i hrange
      exact ⟨i, rfl, hrange⟩
    · cases h
  | real x => cases h

theorem exists_fault {x : Except Fault (α × Bytes)} (h : ∀ value rest, x ≠ .ok (value, rest)) :
    ∃ fault, x = .error fault := by
  cases x with
  | error fault => exact ⟨fault, rfl⟩
  | ok pair => exact absurd rfl (h pair.1 pair.2)

/-- A numeral beyond 32 bits is read as no such integer. -/
theorem narrow_beyond {n : Nat} {number : Number} {result : Int32 × Bytes} {i : Int}
    (hi : i = if negative then -(n : Int) else n) (h : ¬ (-0x80000000 ≤ i ∧ i < 0x80000000))
    (hends : NumberEnds input)
    (hread : readNumber negative (numeralBytes n ++ input) = .ok (number, rest)) :
    narrow number rest ≠ .ok result := by
  intro hok
  obtain ⟨j, rfl, hrange⟩ := narrow_in_range hok
  rw [readNumber_numeralBytes hends] at hread
  have hj := wholeNumber_eq_integer hread
  rw [digitsValue_numeralBytes, ← hi] at hj
  exact h (hj ▸ hrange)

/-- An integer beyond 32 bits is refused, however long it is. -/
theorem refuses_int32 {i : Int} (h : ¬ (-0x80000000 ≤ i ∧ i < 0x80000000)) :
    Refuses int32 [Utf8.encode (Numeral.ofInt i)] := by
  rcases integer_cases i with ⟨n, b, ds, hi, he, hb, hbytes⟩ | ⟨n, hi, hbytes⟩
  · rw [hbytes]
    refine refuses_begun int32_read (isBlank_of_isDigit hb) ?_
    intro rest hrest
    apply exists_fault
    intro value after hok
    rw [int32From, if_neg (ne_of_isDigit hb (by decide)), if_pos hb, ← List.cons_append,
      ← he] at hok
    split at hok
    · rename_i hread
      exact narrow_beyond hi h hrest hread hok
    · cases hok
  · rw [hbytes]
    refine refuses_begun (b := ascii '-') int32_read (by decide) ?_
    intro rest hrest
    apply exists_fault
    intro value after hok
    rw [int32From, if_pos rfl] at hok
    split at hok
    · rename_i hread
      exact narrow_beyond hi h hrest hread hok
    · cases hok

theorem takes_null : Takes reader.nullable [Utf8.ofText "null"] none := by
  intro further input hends hinput
  have hnull : Utf8.ofText "null" = [ascii 'n', ascii 'u', ascii 'l', ascii 'l'] := by decide
  rw [hnull] at hinput
  obtain ⟨rest, hrest, hblanks⟩ := hinput.first (by decide)
  refine ⟨rest, hrest, ?_⟩
  rw [nullable_read, readNullable, hblanks]
  rfl

theorem takes_nullable (hb : isBlank b = false) (hn : b ≠ ascii 'n')
    (h : Takes reader [b :: bytes] result) : Takes reader.nullable [b :: bytes] (some result) := by
  intro further input hends hinput
  obtain ⟨_, _, hblanks⟩ := hinput.first hb
  obtain ⟨rest, hrest, hread⟩ := h further input hends hinput
  refine ⟨rest, hrest, ?_⟩
  rw [nullable_read, readNullable, hblanks]
  simp only [if_neg hn, hread]

theorem refuses_nullable (hb : isBlank b = false) (hn : b ≠ ascii 'n')
    (h : Refuses reader [b :: bytes]) : Refuses reader.nullable [b :: bytes] := by
  intro further input hends hinput
  obtain ⟨_, _, hblanks⟩ := hinput.first hb
  obtain ⟨fault, hread⟩ := h further input hends hinput
  refine ⟨fault, ?_⟩
  rw [nullable_read, readNullable, hblanks]
  simp only [if_neg hn, hread]

theorem Takes.map {β : Type} (f : α → β) (h : Takes reader tokens result) :
    Takes (reader.map f) tokens (f result) := by
  intro further input hends hinput
  obtain ⟨rest, hrest, hread⟩ := h further input hends hinput
  exact ⟨rest, hrest, by rw [map_read, hread]; rfl⟩

theorem Refuses.map {β : Type} (f : α → β) (h : Refuses reader tokens) :
    Refuses (reader.map f) tokens := by
  intro further input hends hinput
  obtain ⟨fault, hread⟩ := h further input hends hinput
  exact ⟨fault, by rw [map_read, hread]; rfl⟩

end Reader

end MovieCatalog.Json
