import MovieCatalog.Proofs.Json.Numbers
import MovieCatalog.Toml.Printer
import MovieCatalog.Toml.Reader

/-! Strings and integers of TOML are read as the values that they were written from. -/
namespace MovieCatalog.Toml

/-- A text without controls but tabs, and not with both a single quote and what is escaped between
double ones. One line holds it, in one kind of quotes or the other. -/
structure Storable (cs : List Char) : Prop where
  plain : ∀ c ∈ cs, isPlain c = true
  quotable : '\'' ∈ cs → '"' ∉ cs ∧ '\\' ∉ cs

/-- A word that is read as a value when the end of the line follows it. -/
structure Spells (word : List Char) (value : Value) : Prop where
  plain : ∀ c ∈ word, isPlain c = true
  solid : ∃ c more, word = c :: more ∧ isBlank c = false
  read : ∀ rest, readValue maxDepth (word ++ '\n' :: rest) = some (value, '\n' :: rest)

instance (cs : List Char) : Decidable (Storable cs) :=
  decidable_of_iff (cs.all isPlain = true ∧ ('\'' ∈ cs → '"' ∉ cs ∧ '\\' ∉ cs))
    ⟨fun h => ⟨List.all_eq_true.1 h.1, h.2⟩, fun h => ⟨List.all_eq_true.2 h.plain, h.quotable⟩⟩

variable {c : Char} {cs word rest : List Char} {quotes : Quotes}

theorem ne_of_test {p : Char → Bool} {d : Char} (h : p c = true) (hd : p d = false) : c ≠ d := by
  rintro rfl
  rw [h] at hd
  cases hd

theorem cons_ne_of_test {p : Char → Bool} {d : Char} (h : p c = true) (hd : p d = false)
    (cs ds : List Char) : c :: cs ≠ d :: ds :=
  fun he => ne_of_test h hd (List.cons.inj he).1

/-- Of what may stand between double quotes only the tab is escaped. -/
theorem escape_of_isPlain (h : isPlain c = true) (hquote : c ≠ '"') (hslash : c ≠ '\\') :
    escape c = if c = '\t' then ['\\', 't'] else [c] := by
  by_cases htab : c = '\t'
  · rw [htab]
    rfl
  · rw [escape, if_neg (ne_of_test h (by decide)), if_neg htab,
      if_neg (ne_of_test h (by decide)), if_neg (ne_of_test h (by decide)),
      if_neg (ne_of_test h (by decide)), if_neg hquote, if_neg hslash, if_pos h, if_neg htab]

theorem mem_escape (h : isPlain c = true) (hquote : c ≠ '"') (hslash : c ≠ '\\') {d : Char}
    (hd : d ∈ escape c) : isPlain d = true ∧ d ≠ '"' := by
  rw [escape_of_isPlain h hquote hslash] at hd
  split at hd
  · rw [List.mem_cons, List.mem_singleton] at hd
    rcases hd with rfl | rfl
    · decide
    · decide
  · rw [List.mem_singleton] at hd
    rw [hd]
    exact ⟨h, hquote⟩

theorem readFrom_close (h : quotes.tripled = false) :
    quotes.readFrom (.between false) (quotes.mark :: rest) = some ([], rest) := by
  rw [Quotes.readFrom]
  simp only [Bool.false_and, Bool.false_eq_true, if_false, if_true, h, Bool.not_false]

theorem readFrom_self (h : isPlain c = true) (hmark : c ≠ quotes.mark)
    (hslash : ¬ (c = '\\' ∧ quotes.mark = '"')) :
    quotes.readFrom (.between false) (c :: rest) =
      push c (quotes.readFrom (.between false) rest) := by
  rw [Quotes.readFrom]
  simp only [Bool.false_and, Bool.false_eq_true, if_false, if_neg hmark, if_neg hslash, h,
    Bool.true_or, if_true]

theorem readFrom_tab : Quotes.readFrom ⟨'"', false⟩ (.between false) ('\\' :: 't' :: rest) =
    push '\t' (Quotes.readFrom ⟨'"', false⟩ (.between false) rest) := rfl

theorem readFrom_escape (h : isPlain c = true) (hquote : c ≠ '"') (hslash : c ≠ '\\') :
    Quotes.readFrom ⟨'"', false⟩ (.between false) (escape c ++ rest) =
      push c (Quotes.readFrom ⟨'"', false⟩ (.between false) rest) := by
  rw [escape_of_isPlain h hquote hslash]
  split
  · rename_i htab
    rw [htab]
    exact readFrom_tab
  · exact readFrom_self h hquote fun hboth => hslash hboth.1

/-- Between double quotes a text is read to its end. -/
theorem readFrom_double (h : ∀ c ∈ cs, isPlain c = true ∧ c ≠ '"' ∧ c ≠ '\\') :
    Quotes.readFrom ⟨'"', false⟩ (.between false) (cs.flatMap escape ++ '"' :: rest) =
      some (cs, rest) := by
  induction cs with
  | nil => exact readFrom_close rfl
  | cons c cs ih =>
    rw [List.forall_mem_cons] at h
    obtain ⟨hplain, hquote, hslash⟩ := h.1
    rw [List.flatMap_cons, List.append_assoc, readFrom_escape hplain hquote hslash, ih h.2, push]

/-- Between single quotes a text is read to its end. -/
theorem readFrom_single (h : ∀ c ∈ cs, isPlain c = true ∧ c ≠ '\'') :
    Quotes.readFrom ⟨'\'', false⟩ (.between false) (cs ++ '\'' :: rest) = some (cs, rest) := by
  induction cs with
  | nil => exact readFrom_close rfl
  | cons c cs ih =>
    rw [List.forall_mem_cons] at h
    rw [List.cons_append, readFrom_self h.1.1 h.1.2 fun hboth => absurd hboth.2 (by decide),
      ih h.2, push]

/-- The quotes of a string that its own mark does not begin are no triple ones. -/
theorem readText_of_not_mem {mark d : Char} {inner : List Char} (h : mark ∉ inner) (hd : d ≠ mark) :
    readText mark (inner ++ mark :: d :: rest) =
      Quotes.read ⟨mark, false⟩ (inner ++ mark :: d :: rest) := by
  refine if_neg ?_
  cases inner with
  | nil =>
    intro htake
    rw [List.nil_append] at htake
    cases htake
    exact hd rfl
  | cons c inner =>
    intro htake
    rw [List.cons_append, List.take_succ_cons, List.cons.injEq] at htake
    rw [htake.1] at h
    exact h List.mem_cons_self

/-- What a reader of strings takes between marks is a string of one line. -/
theorem spells_quoted {mark : Char} {inner : List Char} (hmark : mark = '"' ∨ mark = '\'')
    (hinner : ∀ d ∈ inner, isPlain d = true ∧ d ≠ mark)
    (hread : ∀ rest, Quotes.readFrom ⟨mark, false⟩ (.between false) (inner ++ mark :: rest) =
      some (cs, rest)) : Spells (mark :: inner ++ [mark]) (.text (String.ofList cs)) := by
  have hplain : isPlain mark = true ∧ isBlank mark = false ∧ '\n' ≠ mark := by
    rcases hmark with rfl | rfl
    · decide
    · decide
  constructor
  case plain =>
    intro d hd
    rw [List.cons_append, List.mem_cons, List.mem_append, List.mem_singleton] at hd
    rcases hd with rfl | hd | rfl
    · exact hplain.1
    · exact (hinner d hd).1
    · exact hplain.1
  case solid => exact ⟨mark, _, rfl, hplain.2.1⟩
  case read =>
    intro rest
    have htext : readText mark (inner ++ mark :: '\n' :: rest) =
        some (String.ofList cs, '\n' :: rest) := by
      rw [readText_of_not_mem (fun hmem => (hinner mark hmem).2 rfl) hplain.2.2, Quotes.read, hread]
    rw [List.cons_append, List.cons_append, List.append_assoc, List.singleton_append]
    rcases hmark with rfl | rfl
    · change (readText '"' _).map _ = _
      rw [htext]
      rfl
    · change (readText '\'' _).map _ = _
      rw [htext]
      rfl

/-- A text is written as a string that is read as it. -/
theorem spells_writeText (h : Storable cs) :
    Spells (writeText cs) (.text (String.ofList cs)) := by
  have hescape : cs.any needsEscape = false := by
    refine List.any_eq_false.2 fun c hc => ?_
    rw [needsEscape, h.plain c hc]
    exact Bool.false_ne_true
  have hlines : '\n' ∉ cs := by
    intro hmem
    have hplain := h.plain _ hmem
    cases hplain
  by_cases hdouble : '\\' ∉ cs ∧ '"' ∉ cs
  · have hform : writeText cs = '"' :: cs.flatMap escape ++ ['"'] := by
      rw [writeText, hescape]
      simp [hlines, hdouble.1, hdouble.2]
    have hmem : ∀ c ∈ cs, isPlain c = true ∧ c ≠ '"' ∧ c ≠ '\\' := fun c hc =>
      ⟨h.plain c hc, fun he => hdouble.2 (he ▸ hc), fun he => hdouble.1 (he ▸ hc)⟩
    rw [hform]
    refine spells_quoted (.inl rfl) ?_ fun rest => readFrom_double hmem
    intro d hd
    obtain ⟨c, hc, hd⟩ := List.mem_flatMap.1 hd
    obtain ⟨hplain, hquote, hslash⟩ := hmem c hc
    exact mem_escape hplain hquote hslash hd
  · have hsingle : '\'' ∉ cs := fun hmem => hdouble ⟨(h.quotable hmem).2, (h.quotable hmem).1⟩
    have hform : writeText cs = '\'' :: cs ++ ['\''] := by
      rw [writeText, hescape]
      simpa [hlines, hsingle] using hdouble
    have hmem : ∀ c ∈ cs, isPlain c = true ∧ c ≠ '\'' := fun c hc =>
      ⟨h.plain c hc, fun he => hsingle (he ▸ hc)⟩
    rw [hform]
    exact spells_quoted (.inr rfl) hmem fun rest => readFrom_single hmem

theorem digit_facts {d : Nat} (h : d < 10) : isDigitOf 10 (Numeral.digit d) = true ∧
    Hex.value? (Numeral.digit d) = some d ∧ isPlain (Numeral.digit d) = true ∧
    endsWord (Numeral.digit d) = false ∧ (Numeral.digit d = '0' → d = 0) := by
  have hall : ∀ d < 10, isDigitOf 10 (Numeral.digit d) = true ∧
    Hex.value? (Numeral.digit d) = some d ∧ isPlain (Numeral.digit d) = true ∧
    endsWord (Numeral.digit d) = false ∧ (Numeral.digit d = '0' → d = 0) := by decide
  exact hall d h

theorem mem_ofNat {n : Nat} (h : c ∈ Numeral.ofNat n) : ∃ d < 10, c = Numeral.digit d := by
  obtain ⟨d, hd, ds, he, hds, -⟩ := Numeral.ofNat_eq_cons n
  rw [he, List.mem_cons] at h
  rcases h with rfl | h
  · exact ⟨d, hd, rfl⟩
  · exact hds c h

theorem digits?_of_forall (hne : word ≠ []) (h : ∀ c ∈ word, isDigitOf 10 c = true ∧ c ≠ '_') :
    digits? 10 word = some word := by
  induction word with
  | nil => exact absurd rfl hne
  | cons c word ih =>
    rw [List.forall_mem_cons] at h
    cases word with
    | nil => exact if_pos h.1.1
    | cons d word =>
      have hd := (List.forall_mem_cons.1 h.2).1.2
      rw [digits?, if_pos h.1.1, ih (List.cons_ne_nil _ _) h.2, Option.map_some]
      · exact List.cons_ne_nil d word
      · exact fun rest he => hd (List.cons.inj he).1

theorem digitsValue_append_singleton (base : Nat) (digits : List Char) (c : Char) :
    digitsValue base (digits ++ [c]) =
      base * digitsValue base digits + (Hex.value? c).getD 0 := by
  rw [digitsValue, List.foldl_append]
  rfl

theorem digitsValue_ofNat (n : Nat) : digitsValue 10 (Numeral.ofNat n) = n := by
  induction n using Nat.strongRecOn with
  | _ n ih =>
    rw [Numeral.ofNat]
    split
    · rename_i h
      rw [← List.nil_append [Numeral.digit n], digitsValue_append_singleton, (digit_facts h).2.1]
      exact Nat.zero_add n
    · rename_i h
      rw [digitsValue_append_singleton, ih (n / 10) (by omega),
        (digit_facts (Nat.mod_lt n (by decide))).2.1, Option.getD_some]
      omega

theorem wholeDigits?_ofNat (n : Nat) :
    wholeDigits? (Numeral.ofNat n) = some (Numeral.ofNat n) := by
  obtain ⟨d, hd, ds, he, hds, hz⟩ := Numeral.ofNat_eq_cons n
  have hdigits : digits? 10 (Numeral.ofNat n) = some (Numeral.ofNat n) := by
    refine digits?_of_forall (by rw [he]; exact List.cons_ne_nil _ _) fun c hc => ?_
    obtain ⟨d, hd, rfl⟩ := mem_ofNat hc
    exact ⟨(digit_facts hd).1, ne_of_test (digit_facts hd).1 (by decide)⟩
  rw [wholeDigits?, hdigits, Option.filter_some, if_pos]
  rw [he, Bool.or_eq_true]
  by_cases h0 : d = 0
  · rw [(hz h0).2]
    exact .inr rfl
  · exact .inl (bne_iff_ne.2 fun hzero => h0 ((digit_facts hd).2.2.2.2 (Option.some.inj hzero)))

theorem decimal?_ofNat (n : Nat) : decimal? (Numeral.ofNat n) = some (n : Int) := by
  obtain ⟨d, hd, ds, he, -, -⟩ := Numeral.ofNat_eq_cons n
  have hsign : sign (Numeral.ofNat n) = (false, Numeral.ofNat n) := by
    rw [he, sign]
    · exact fun rest => cons_ne_of_test (digit_facts hd).1 (by decide) _ rest
    · exact fun rest => cons_ne_of_test (digit_facts hd).1 (by decide) _ rest
  rw [decimal?, hsign]
  simp only
  rw [wholeDigits?_ofNat, Option.map_some, digitsValue_ofNat]
  rfl

/-- No letter of another number system follows a leading zero. -/
theorem ofNat_ne_zero_cons (n : Nat) (c : Char) (more : List Char) :
    Numeral.ofNat n ≠ '0' :: c :: more := by
  obtain ⟨d, hd, ds, he, -, hz⟩ := Numeral.ofNat_eq_cons n
  intro h
  rw [he, List.cons.injEq] at h
  have hds := (hz ((digit_facts hd).2.2.2.2 h.1)).2
  rw [hds] at h
  cases h.2

theorem integer?_ofNat {n : Nat} (h : n < 0x8000000000000000) :
    integer? (Numeral.ofNat n) = some (n : Int) := by
  have hrange : (decide (-0x8000000000000000 ≤ (n : Int)) &&
      decide ((n : Int) < 0x8000000000000000)) = true := by
    rw [Bool.and_eq_true, decide_eq_true_eq, decide_eq_true_eq]
    omega
  unfold integer?
  split
  · rename_i he
    exact absurd he (ofNat_ne_zero_cons n _ _)
  · rename_i he
    exact absurd he (ofNat_ne_zero_cons n _ _)
  · rename_i he
    exact absurd he (ofNat_ne_zero_cons n _ _)
  · rw [decimal?_ofNat, Option.filter_some, if_pos hrange]

theorem readScalar_ofNat {n : Nat} (h : n < 0x8000000000000000) (rest : List Char) :
    readScalar (Numeral.ofNat n ++ '\n' :: rest) = some (.integer n, '\n' :: rest) := by
  have hword : ∀ c ∈ Numeral.ofNat n, (!endsWord c) = true := by
    intro c hc
    obtain ⟨d, hd, rfl⟩ := mem_ofNat hc
    rw [(digit_facts hd).2.2.2.1]
    rfl
  have hscalar : scalar? (Numeral.ofNat n) = some (.integer n) := by
    rw [scalar?, integer?_ofNat h]
  rw [readScalar, List.takeWhile_append_of_pos hword, List.dropWhile_append_of_pos hword,
    List.takeWhile_cons_of_neg (by decide), List.dropWhile_cons_of_neg (by decide), List.append_nil,
    hscalar]
  rfl

/-- What begins with a digit, and so with none of the marks of other values, is one word. -/
theorem readValue_eq_readScalar (h : isDigitOf 10 c = true) (rest : List Char) :
    readValue maxDepth (c :: rest) = readScalar (c :: rest) := by
  change readValue (78 + 1) (c :: rest) = _
  rw [readValue, readPlain]
  · exact fun more => cons_ne_of_test h (by decide) rest more
  · exact fun more => cons_ne_of_test h (by decide) rest more
  · exact fun more => cons_ne_of_test h (by decide) rest more
  · exact fun more => cons_ne_of_test h (by decide) rest more

/-- A number is written as an integer that is read as it. -/
theorem spells_ofNat {n : Nat} (h : n < 0x8000000000000000) :
    Spells (Numeral.ofNat n) (.integer n) := by
  obtain ⟨d, hd, ds, he, -, -⟩ := Numeral.ofNat_eq_cons n
  constructor
  case plain =>
    intro c hc
    obtain ⟨d, hd, rfl⟩ := mem_ofNat hc
    exact (digit_facts hd).2.2.1
  case solid =>
    have hblank : ∀ d < 10, isBlank (Numeral.digit d) = false := by decide
    exact ⟨_, _, he, hblank d hd⟩
  case read =>
    intro rest
    have hread := readScalar_ofNat h rest
    rw [he, List.cons_append] at hread ⊢
    rw [readValue_eq_readScalar (digit_facts hd).1, hread]

end MovieCatalog.Toml
