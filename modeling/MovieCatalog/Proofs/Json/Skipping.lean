import MovieCatalog.Json.Skip
import MovieCatalog.Proofs.Json.Strings

/-! Values of the grammar are skipped to their end, at any depth. -/
namespace MovieCatalog.Json

variable {bytes rest input : Bytes} {tokens further : List Bytes} {opened outer : List Bracket}

theorem Blanks.skipBlanks {blanks : Bytes} (h : Blanks blanks) (rest : Bytes) :
    skipBlanks (blanks ++ rest) = Json.skipBlanks rest := List.dropWhile_append_of_pos h

/-- The first token is found behind its blanks. -/
theorem Spaced.first {b : UInt8} (h : Spaced ((b :: bytes) :: tokens) input)
    (hb : isBlank b = false) :
    ∃ rest, Spaced tokens rest ∧ skipBlanks input = b :: (bytes ++ rest) := by
  cases h with
  | cons hblanks more =>
    exact ⟨_, more, by rw [hblanks.skipBlanks, List.cons_append, skipBlanks_cons hb]⟩

theorem Spaced.skipBlanks_nil (h : Spaced [] input) : skipBlanks input = [] := by
  cases h with
  | nil hblanks =>
    have hskip := hblanks.skipBlanks []
    rwa [List.append_nil] at hskip

/-- What follows a value ends it: a comma, a closing bracket, or nothing. -/
def Ends (tokens : List Bytes) : Prop :=
  ∀ token ∈ tokens.head?, token ∈ [[ascii ','], [ascii ']'], [ascii '\x7d']]

theorem ends_cons {c : Char} (h : c ∈ [',', ']', '\x7d']) : Ends ([ascii c] :: tokens) := by
  intro token htoken
  cases htoken
  exact List.mem_map_of_mem (f := fun c => [ascii c]) h

theorem Ends.numberEnds (hends : Ends tokens) (h : Spaced tokens input) : NumberEnds input := by
  have hblank : ∀ b, isBlank b = true →
      isDigit b = false ∧ b ≠ ascii '.' ∧ isExponentMark b = false := by
    intro b hb
    simp only [isBlank, Bool.or_eq_true, beq_iff_eq] at hb
    rcases hb with ((rfl | rfl) | rfl) | rfl <;> decide
  have hblanks : ∀ blanks rest, Blanks blanks → NumberEnds rest → NumberEnds (blanks ++ rest) := by
    intro blanks rest h hrest b hb
    cases blanks with
    | nil => exact hrest b hb
    | cons blank blanks =>
      cases hb
      exact hblank _ (h _ List.mem_cons_self)
  cases h with
  | nil h =>
    rw [← List.append_nil input]
    exact hblanks _ _ h (by intro b hb; cases hb)
  | cons h more =>
    refine hblanks _ _ h ?_
    have htoken := hends _ rfl
    simp only [List.mem_cons, List.not_mem_nil, or_false] at htoken
    rcases htoken with rfl | rfl | rfl <;>
    · intro b hb
      cases hb
      decide

theorem skipStringFrom_bytes (h : ∀ b ∈ bytes, b ≠ ascii '"' ∧ b ≠ ascii '\\' ∧ 0x20 ≤ b.toNat) :
    skipStringFrom .plain (bytes ++ rest) = skipStringFrom .plain rest := by
  induction bytes with
  | nil => rfl
  | cons b bytes ih =>
    obtain ⟨hquote, hslash, hb⟩ := h b List.mem_cons_self
    have hlt : ¬ b < 0x20 := by
      rw [UInt8.lt_iff_toNat_lt]
      exact Nat.not_lt.2 hb
    rw [List.cons_append, skipStringFrom]
    simp only [if_neg hquote, if_neg hslash, if_neg hlt]
    exact ih fun d hd => h d (List.mem_cons_of_mem b hd)

theorem skipStringFrom_unit {digits : Bytes} {n : Nat} (h : IsUnit digits n) :
    skipStringFrom .plain (ascii '\\' :: ascii 'u' :: (digits ++ rest)) =
      skipStringFrom .plain rest := by
  have hnumber := h.number?
  have hstart : skipStringFrom .plain (ascii '\\' :: ascii 'u' :: (digits ++ rest)) =
      skipStringFrom (.unit []) (digits ++ rest) := rfl
  match digits, h.length_eq with
  | [w, x, y, z], _ =>
    have hdigits : skipStringFrom (.unit []) ([w, x, y, z] ++ rest) =
        skipStringFrom (.unit [w, x, y]) (z :: rest) := rfl
    rw [hstart, hdigits, skipStringFrom]
    simp only [List.length_cons, List.length_nil, List.cons_append, List.nil_append, hnumber]
    rfl

theorem skipString_quotable (h : Quotable bytes) (rest : Bytes) :
    skipString (bytes ++ ascii '"' :: rest) = .ok rest := by
  rw [skipString]
  induction h with
  | nil => rfl
  | plain hc _ ih => rw [List.append_assoc, skipStringFrom_bytes hc.mem_encodeChar, ih]
  | short hc _ ih =>
    obtain ⟨hescaped, hne⟩ := escaped?_of_mem hc
    rw [List.cons_append, List.cons_append, ← ih]
    change skipStringFrom .escape _ = _
    rw [skipStringFrom]
    simp only [if_neg hne, hescaped]
  | unit hc _ ih =>
    rw [List.cons_append, List.cons_append, List.append_assoc, skipStringFrom_unit hc, ih]

variable {whole fraction exponent : Bytes}

/-- Digits are dropped as far as something else begins. -/
theorem dropWhile_digits {ds : Bytes} (hds : ∀ d ∈ ds, isDigit d = true)
    (h : rest.dropWhile isDigit = rest) : (ds ++ rest).dropWhile isDigit = rest := by
  rw [List.dropWhile_append_of_pos hds, h]

theorem readSign_sign {sign : Bytes} {d : UInt8} (h : sign = [] ∨ sign = [ascii '+'] ∨
    sign = [ascii '-']) (hd : isDigit d = true) (rest : Bytes) :
    (readSign (sign ++ d :: rest)).2 = d :: rest := by
  rcases h with rfl | rfl | rfl
  · rw [List.nil_append, readSign, if_neg (ne_of_isDigit hd (by decide)),
      if_neg (ne_of_isDigit hd (by decide))]
  · rfl
  · rfl

theorem skipExponent_exponent (h : IsExponent exponent) (hrest : NumberEnds rest) :
    skipExponent (exponent ++ rest) = .ok rest := by
  cases h with
  | none =>
    cases rest with
    | nil => rfl
    | cons b rest =>
      rw [List.nil_append, skipExponent, (hrest b rfl).2.2]
      rfl
  | @digits mark d sign ds hmark hsign hd hds =>
    have hmark : isExponentMark mark = true := by
      rw [isExponentMark, Bool.or_eq_true, beq_iff_eq, beq_iff_eq]
      exact hmark
    rw [List.cons_append, List.append_assoc, List.cons_append, skipExponent, if_pos hmark,
      readSign_sign hsign hd]
    simp only [hd, if_true, dropWhile_digits hds hrest.dropWhile]

/-- An exponent begins with neither a digit nor a point. -/
theorem exponent_head (h : IsExponent exponent) (hrest : NumberEnds rest) :
    ∀ b ∈ (exponent ++ rest).head?, isDigit b = false ∧ b ≠ ascii '.' := by
  cases h with
  | none =>
    intro b hb
    exact ⟨(hrest b hb).1, (hrest b hb).2.1⟩
  | digits hmark =>
    intro b hb
    cases hb
    rcases hmark with rfl | rfl <;> decide

theorem dropWhile_of_head {bytes : Bytes} (h : ∀ b ∈ bytes.head?, isDigit b = false) :
    bytes.dropWhile isDigit = bytes := by
  cases bytes with
  | nil => rfl
  | cons b bytes => rw [List.dropWhile_cons, h b rfl]; rfl

theorem skipAfterWhole_fraction (h : IsFraction fraction) (hexponent : IsExponent exponent)
    (hrest : NumberEnds rest) : skipAfterWhole (fraction ++ (exponent ++ rest)) = .ok rest := by
  have hskip := skipExponent_exponent hexponent hrest
  have hhead := exponent_head hexponent hrest
  cases h with
  | none =>
    rw [List.nil_append]
    generalize exponent ++ rest = input at hskip hhead
    cases input with
    | nil => exact hskip
    | cons b input => rw [skipAfterWhole, if_neg (hhead b rfl).2, hskip]
  | @digits d ds hd hds =>
    have hall : ∀ b ∈ d :: ds, isDigit b = true := by
      intro b hb
      rcases List.mem_cons.1 hb with rfl | hb
      · exact hd
      · exact hds b hb
    have hstarts : startsWithDigit (d :: ds ++ (exponent ++ rest)) = true := hd
    rw [List.cons_append, skipAfterWhole, if_pos rfl, if_pos hstarts,
      dropWhile_digits hall (dropWhile_of_head fun b hb => (hhead b hb).1), hskip]

theorem skipNumber_whole (h : IsWhole whole) (hfraction : IsFraction fraction)
    (hexponent : IsExponent exponent) (hrest : NumberEnds rest) :
    skipNumber (whole ++ (fraction ++ (exponent ++ rest))) = .ok rest := by
  have hskip := skipAfterWhole_fraction hfraction hexponent hrest
  have hhead : ∀ b ∈ (fraction ++ (exponent ++ rest)).head?, isDigit b = false := by
    cases hfraction with
    | none => exact fun b hb => (exponent_head hexponent hrest b hb).1
    | digits =>
      intro b hb
      cases hb
      decide
  generalize fraction ++ (exponent ++ rest) = input at hskip hhead
  cases h with
  | zero =>
    have hstarts : startsWithDigit input = false := by
      cases input with
      | nil => rfl
      | cons b input => exact hhead b rfl
    rw [List.cons_append, List.nil_append, skipNumber, if_pos rfl, hstarts]
    exact hskip
  | digits hb h0 hds =>
    rw [List.cons_append, skipNumber, if_neg h0, if_pos hb,
      dropWhile_digits hds (dropWhile_of_head hhead), hskip]

theorem isWhole_eq_cons (h : IsWhole whole) : ∃ b ds, whole = b :: ds ∧ isDigit b = true := by
  cases h with
  | zero => exact ⟨_, _, rfl, by decide⟩
  | digits hb => exact ⟨_, _, rfl, hb⟩

/-- A scalar is skipped from its first byte on. -/
structure SkippedFrom (b : UInt8) (bytes : Bytes) : Prop where
  blank : isBlank b = false
  bracket : Bracket.ofOpening? b = none
  closing : ∀ kind : Bracket, b ≠ kind.closing
  skip : ∀ rest, NumberEnds rest → skipScalar b (bytes ++ rest) = .ok rest

theorem IsScalar.skipped {token : Bytes} (h : IsScalar token) :
    ∃ b bytes, token = b :: bytes ∧ SkippedFrom b bytes := by
  cases h with
  | word h =>
    simp only [List.mem_cons, List.not_mem_nil, or_false] at h
    rcases h with rfl | rfl | rfl
    · exact ⟨ascii 'n', _, rfl, by decide, rfl, by rintro ⟨⟩ <;> decide, fun rest _ => rfl⟩
    · exact ⟨ascii 't', _, rfl, by decide, rfl, by rintro ⟨⟩ <;> decide, fun rest _ => rfl⟩
    · exact ⟨ascii 'f', _, rfl, by decide, rfl, by rintro ⟨⟩ <;> decide, fun rest _ => rfl⟩
  | string h =>
    refine ⟨ascii '"', _, rfl, by decide, rfl, by rintro ⟨⟩ <;> decide, ?_⟩
    intro rest _
    rw [List.append_assoc]
    exact skipString_quotable h rest
  | @number sign whole fraction exponent hsign hwhole hfraction hexponent =>
    have hskip : ∀ rest, NumberEnds rest →
        skipNumber (whole ++ (fraction ++ (exponent ++ rest))) = .ok rest :=
      fun _ => skipNumber_whole hwhole hfraction hexponent
    rcases hsign with rfl | rfl
    · obtain ⟨b, ds, rfl, hb⟩ := isWhole_eq_cons hwhole
      have hne : ∀ c : Char, isDigit (ascii c) = false → b ≠ ascii c := fun c => ne_of_isDigit hb
      refine ⟨b, ds ++ (fraction ++ exponent), rfl, isBlank_of_isDigit hb, ?_,
        by rintro ⟨⟩ <;> exact hne _ (by decide), ?_⟩
      · rw [Bracket.ofOpening?, if_neg (hne '[' (by decide)), if_neg (hne '\x7b' (by decide))]
      · intro rest hrest
        rw [skipScalar, if_neg (hne 'n' (by decide)), if_neg (hne 't' (by decide)),
          if_neg (hne 'f' (by decide)), if_neg (hne '-' (by decide)), if_pos hb,
          ← hskip rest hrest]
        simp only [List.cons_append, List.append_assoc]
    · refine ⟨ascii '-', whole ++ (fraction ++ exponent), rfl, by decide, rfl,
        by rintro ⟨⟩ <;> decide, ?_⟩
      intro rest hrest
      rw [← hskip rest hrest, List.append_assoc, List.append_assoc]
      rfl

section Steps

variable {b : UInt8} {kind : Bracket} {after : Bytes}

theorem skipFrom_open (h : skipBlanks input = b :: rest)
    (hb : Bracket.ofOpening? b = some kind) :
    skipFrom .value opened input = skipFrom .first (kind :: opened) rest := by
  rw [skipFrom]
  grind

theorem skipFrom_scalar (h : skipBlanks input = b :: rest) (hb : Bracket.ofOpening? b = none)
    (hskip : skipScalar b rest = .ok after) :
    skipFrom .value opened input = skipFrom .next opened after := by
  rw [skipFrom]
  grind

theorem skipFrom_empty (h : skipBlanks input = kind.closing :: rest) :
    skipFrom .first (kind :: outer) input = skipFrom .next outer rest := by
  rw [skipFrom]
  grind

theorem skipFrom_filled (h : skipBlanks input = b :: rest) (hb : b ≠ kind.closing) :
    skipFrom .first (kind :: outer) input = skipFrom .item (kind :: outer) (b :: rest) := by
  rw [skipFrom]
  grind

theorem skipFrom_comma (h : skipBlanks input = ascii ',' :: rest) :
    skipFrom .next (kind :: outer) input = skipFrom .item (kind :: outer) rest := by
  rw [skipFrom]
  grind

theorem skipFrom_close (h : skipBlanks input = kind.closing :: rest) :
    skipFrom .next (kind :: outer) input = skipFrom .next outer rest := by
  have hne : kind.closing ≠ ascii ',' := by cases kind <;> decide
  rw [skipFrom]
  grind

theorem skipFrom_item : skipFrom .item (.list :: outer) input =
    skipFrom .value (.list :: outer) input := by
  conv => lhs; rw [skipFrom.eq_def]

theorem skipFrom_member (h : skipKey input = .ok rest) :
    skipFrom .item (.object :: outer) input = skipFrom .value (.object :: outer) rest := by
  conv => lhs; rw [skipFrom.eq_def]
  grind

end Steps

/-- What begins with a token that is no blank is found behind its blanks. -/
theorem Spaced.skipped {b : UInt8} (h : Spaced ((b :: bytes) :: tokens) input)
    (hb : isBlank b = false) : ∃ rest, skipBlanks input = b :: rest ∧
      Spaced ((b :: bytes) :: tokens) (b :: rest) := by
  obtain ⟨rest, hrest, hskip⟩ := h.first hb
  exact ⟨bytes ++ rest, hskip, .cons blanks_nil hrest⟩

theorem skipKey_spaced (hname : Quotable bytes)
    (h : Spaced (quoted bytes :: [ascii ':'] :: tokens) input) :
    ∃ rest, Spaced tokens rest ∧ skipKey input = .ok rest := by
  obtain ⟨behind, hbehind, hquote⟩ := h.first (by decide)
  obtain ⟨rest, hrest, hcolon⟩ := hbehind.first (by decide)
  refine ⟨rest, hrest, ?_⟩
  rw [List.append_assoc, List.singleton_append] at hquote
  rw [skipKey, hquote]
  simp only [skipString_quotable hname, hcolon, if_true, List.nil_append]

/-- The first token of anything is no blank and closes nothing. -/
theorem Derives.first {symbol : Symbol} (h : Derives symbol tokens) : ∃ b bytes more,
    tokens = (b :: bytes) :: more ∧ isBlank b = false ∧ ∀ kind : Bracket, b ≠ kind.closing := by
  have hquoted : ∀ name more, ∃ b bytes others, quoted name :: more = (b :: bytes) :: others ∧
      isBlank b = false ∧ ∀ kind : Bracket, b ≠ kind.closing := fun name more =>
    ⟨ascii '"', _, more, rfl, by decide, by rintro ⟨⟩ <;> decide⟩
  induction h with
  | scalar h =>
    obtain ⟨b, bytes, rfl, hskip⟩ := h.skipped
    exact ⟨b, bytes, [], rfl, hskip.blank, hskip.closing⟩
  | emptyList | list | emptyObject | filledObject =>
    exact ⟨_, [], _, rfl, by decide, by rintro ⟨⟩ <;> decide⟩
  | object _ ih => exact ih
  | item _ ih => exact ih
  | items _ _ ih =>
    obtain ⟨b, bytes, more, rfl, hb⟩ := ih
    exact ⟨b, bytes, _, rfl, hb⟩
  | member => exact hquoted _ _
  | members => exact hquoted _ _

/-- Skipping goes on behind the tokens of a value. -/
def Passes (phase : Phase) (opened after : List Bracket) (tokens further : List Bytes) : Prop :=
  ∀ input, Spaced (tokens ++ further) input → ∃ rest, Spaced further rest ∧
    skipFrom phase opened input = skipFrom .next after rest

/-- Skipping passes over all that tokens make up, with the brackets around it. -/
def Symbol.Skipped (tokens : List Bytes) : Symbol → Prop
  | .value | .object => ∀ opened further, Ends further → Passes .value opened opened tokens further
  | .items => ∀ outer further,
      Passes .item (.list :: outer) outer (tokens ++ [[ascii ']']]) further
  | .members => ∀ outer further,
      Passes .item (.object :: outer) outer (tokens ++ [[ascii '\x7d']]) further

/-- A closing bracket ends what is skipped inside it. -/
theorem passes_close (kind : Bracket) (outer : List Bracket) (further : List Bytes) :
    Passes .next (kind :: outer) outer [[kind.closing]] further := by
  intro input h
  obtain ⟨rest, hrest, hskip⟩ := h.first (by cases kind <;> decide)
  exact ⟨rest, hrest, skipFrom_close hskip⟩

/-- Brackets with something in between. -/
theorem passes_filled {symbol : Symbol} {kind : Bracket} {b : UInt8} {closing : List Bytes}
    (hopening : Bracket.ofOpening? b = some kind) (hb : isBlank b = false)
    (h : Derives symbol tokens)
    (hpasses : Passes .item (kind :: opened) opened (tokens ++ closing) further) :
    Passes .value opened opened ([b] :: (tokens ++ closing)) further := by
  intro input hinput
  obtain ⟨inside, hinside, hopen⟩ := hinput.first hb
  obtain ⟨c, bytes, others, rfl, hc, hclosing⟩ := h.first
  obtain ⟨content, hcontent, hspaced⟩ := hinside.skipped hc
  obtain ⟨rest, hrest, hskip⟩ := hpasses _ hspaced
  refine ⟨rest, hrest, ?_⟩
  rw [skipFrom_open hopen hopening, List.nil_append, skipFrom_filled hcontent (hclosing kind),
    hskip]

theorem passes_empty (kind : Bracket) {b : UInt8} (hopening : Bracket.ofOpening? b = some kind)
    (hb : isBlank b = false) : Passes .value opened opened [[b], [kind.closing]] further := by
  intro input h
  obtain ⟨inside, hinside, hopen⟩ := h.first hb
  obtain ⟨rest, hrest, hclose⟩ := hinside.first (by cases kind <;> decide)
  refine ⟨rest, hrest, ?_⟩
  rw [skipFrom_open hopen hopening]
  exact skipFrom_empty hclose

/-- A value inside brackets, and what is left to skip up to the closing one. -/
theorem Passes.then {kind : Bracket} {outer after : List Bracket} {others : List Bytes}
    (h : Passes .value (kind :: outer) (kind :: outer) tokens (others ++ further))
    (hmore : Passes .next (kind :: outer) after others further) :
    Passes .value (kind :: outer) after (tokens ++ others) further := by
  intro input hinput
  rw [List.append_assoc] at hinput
  obtain ⟨behind, hbehind, hskip⟩ := h _ hinput
  obtain ⟨rest, hrest, hnext⟩ := hmore _ hbehind
  exact ⟨rest, hrest, hskip.trans hnext⟩

theorem passes_comma {kind : Bracket} {outer after : List Bracket}
    (h : Passes .item (kind :: outer) after tokens further) :
    Passes .next (kind :: outer) after ([ascii ','] :: tokens) further := by
  intro input hinput
  obtain ⟨behind, hbehind, hskip⟩ := hinput.first (by decide)
  obtain ⟨rest, hrest, hitem⟩ := h _ hbehind
  exact ⟨rest, hrest, (skipFrom_comma hskip).trans hitem⟩

theorem passes_item {outer after : List Bracket}
    (h : Passes .value (.list :: outer) after tokens further) :
    Passes .item (.list :: outer) after tokens further := by
  intro input hinput
  rw [skipFrom_item]
  exact h input hinput

theorem passes_member {outer after : List Bracket} (hname : Quotable bytes)
    (h : Passes .value (.object :: outer) after tokens further) :
    Passes .item (.object :: outer) after (quoted bytes :: [ascii ':'] :: tokens) further := by
  intro input hinput
  obtain ⟨behind, hbehind, hkey⟩ := skipKey_spaced hname hinput
  obtain ⟨rest, hrest, hskip⟩ := h _ hbehind
  exact ⟨rest, hrest, (skipFrom_member hkey).trans hskip⟩

theorem passes_scalar {token : Bytes} (h : IsScalar token) (hends : Ends further) :
    Passes .value opened opened [token] further := by
  intro input hinput
  obtain ⟨b, bytes, rfl, hskip⟩ := h.skipped
  obtain ⟨rest, hrest, hblanks⟩ := hinput.first hskip.blank
  exact ⟨rest, hrest,
    skipFrom_scalar hblanks hskip.bracket (hskip.skip rest (hends.numberEnds hrest))⟩

theorem Derives.skipped {symbol : Symbol} (h : Derives symbol tokens) :
    symbol.Skipped tokens := by
  induction h with
  | scalar h => exact fun opened further hends => passes_scalar h hends
  | emptyList => exact fun opened further _ => passes_empty .list rfl (by decide)
  | emptyObject => exact fun opened further _ => passes_empty .object rfl (by decide)
  | list h ih =>
    exact fun opened further _ => passes_filled rfl (by decide) h (ih opened further)
  | filledObject h ih =>
    exact fun opened further _ => passes_filled rfl (by decide) h (ih opened further)
  | object _ ih => exact ih
  | item _ ih =>
    intro outer further
    exact passes_item ((ih _ _ (ends_cons (by decide))).then (passes_close .list outer further))
  | items _ _ ih ihmore =>
    intro outer further
    rw [List.append_assoc, List.cons_append]
    exact passes_item ((ih _ _ (ends_cons (by decide))).then (passes_comma (ihmore outer further)))
  | member hname _ ih =>
    intro outer further
    exact passes_member hname
      ((ih _ _ (ends_cons (by decide))).then (passes_close .object outer further))
  | members hname _ _ ih ihmore =>
    intro outer further
    rw [List.cons_append, List.cons_append, List.append_assoc, List.cons_append]
    exact passes_member hname
      ((ih _ _ (ends_cons (by decide))).then (passes_comma (ihmore outer further)))

/-- A value of the grammar is skipped, whatever ends it. -/
theorem skipValue_derives (h : Derives .value tokens) (hends : Ends further)
    (hinput : Spaced (tokens ++ further) input) :
    ∃ rest, Spaced further rest ∧ skipValue input = .ok rest := by
  obtain ⟨rest, hrest, hskip⟩ := h.skipped [] further hends input hinput
  refine ⟨rest, hrest, ?_⟩
  rw [skipValue, hskip, skipFrom]

end MovieCatalog.Json
