import MovieCatalog.Proofs.Refusals
import MovieCatalog.Proofs.Routes
import MovieCatalog.Proofs.SpelledQueries

/-! Query strings of requests for a page are read as the parameters that they were given, and as
nothing else. -/
namespace MovieCatalog

theorem map_eq_ok {ε α β : Type} {f : α → β} {x : Except ε α} {b : β} :
    x.map f = .ok b ↔ ∃ a, x = .ok a ∧ f a = b := by
  cases x with
  | error error => simp [Except.map]
  | ok a => simp [Except.map]

namespace Numeral

/-- At least one digit. -/
def Digits (cs : List Char) : Prop := cs ≠ [] ∧ ∀ c ∈ cs, isDigit c = true

/-- Digits with an optional sign spell an integer. -/
inductive Spells : List Char → Int → Prop where
  | plain {digits : List Char} (h : Digits digits) : Spells digits (toNat digits)
  | plus {digits : List Char} (h : Digits digits) : Spells ('+' :: digits) (toNat digits)
  | minus {digits : List Char} (h : Digits digits) : Spells ('-' :: digits) (-toNat digits)

/-- The integer has 64 bits. -/
def SpellsInt64 (cs : List Char) (n : Int) : Prop :=
  Spells cs n ∧ -0x8000000000000000 ≤ n ∧ n < 0x8000000000000000

variable {cs : List Char} {c : Char} {limit acc m : Nat} {excess : Fault} {n : Int}

theorem le_foldl (acc : Nat) (cs : List Char) :
    acc ≤ cs.foldl (fun n c => 10 * n + value c) acc := by
  induction cs generalizing acc with
  | nil => exact Nat.le_refl acc
  | cons c cs ih => exact Nat.le_trans (by omega) (ih (10 * acc + value c))

/-- Digits are read up to the limit. -/
theorem magnitude_iff (hacc : acc ≤ limit) : magnitude limit excess acc cs = .ok m ↔
    (∀ c ∈ cs, isDigit c = true) ∧ cs.foldl (fun n c => 10 * n + value c) acc = m ∧ m ≤ limit := by
  induction cs generalizing acc with
  | nil =>
    rw [magnitude, List.foldl_nil, Except.ok.injEq]
    grind
  | cons c cs ih =>
    rw [magnitude, List.forall_mem_cons, List.foldl_cons]
    by_cases hc : isDigit c = true
    · rw [if_pos hc]
      by_cases hnext : 10 * acc + value c ≤ limit
      · simp only [if_pos hnext, ih hnext, hc, true_and]
      · have hle := le_foldl (10 * acc + value c) cs
        simp only [if_neg hnext, reduceCtorEq, false_iff]
        omega
    · rw [if_neg hc]
      simp only [hc, reduceCtorEq, Bool.false_eq_true, false_and]

/-- Digits are read as their value, if that is within the limit. -/
theorem map_magnitude_iff {f : Nat → Int} (hne : cs ≠ []) :
    (magnitude limit excess 0 cs).map f = .ok n ↔
      Digits cs ∧ toNat cs ≤ limit ∧ f (toNat cs) = n := by
  rw [map_eq_ok, Digits]
  simp only [magnitude_iff (Nat.zero_le limit)]
  constructor
  · rintro ⟨m, ⟨hdigits, rfl, hle⟩, hm⟩
    exact ⟨⟨hne, hdigits⟩, hle, hm⟩
  · rintro ⟨⟨-, hdigits⟩, hle, hm⟩
    exact ⟨_, ⟨hdigits, rfl, hle⟩, hm⟩

theorem not_digits_nil : ¬ Digits [] := fun h => h.1 rfl

theorem Digits.ne_sign (h : Digits (c :: cs)) : c ≠ '+' ∧ c ≠ '-' := by
  have hc := h.2 c List.mem_cons_self
  constructor <;> rintro rfl <;> exact absurd hc (by decide)

theorem readInt64_plus : readInt64 ('+' :: cs) = .ok n ↔
    Digits cs ∧ toNat cs ≤ 0x7FFFFFFFFFFFFFFF ∧ toNat cs = n := by
  cases cs with
  | nil => simp [readInt64, not_digits_nil]
  | cons c cs => exact map_magnitude_iff (List.cons_ne_nil c cs)

theorem readInt64_minus : readInt64 ('-' :: cs) = .ok n ↔
    Digits cs ∧ toNat cs ≤ 0x8000000000000000 ∧ -toNat cs = n := by
  cases cs with
  | nil => simp [readInt64, not_digits_nil]
  | cons c cs => exact map_magnitude_iff (List.cons_ne_nil c cs)

theorem readInt64_plain (hplus : c ≠ '+') (hminus : c ≠ '-') : readInt64 (c :: cs) = .ok n ↔
    Digits (c :: cs) ∧ toNat (c :: cs) ≤ 0x7FFFFFFFFFFFFFFF ∧ toNat (c :: cs) = n := by
  have hread : readInt64 (c :: cs) =
      (magnitude 0x7FFFFFFFFFFFFFFF .tooLarge 0 (c :: cs)).map Int.ofNat := by
    rw [readInt64]
    all_goals simp [hplus, hminus]
  rw [hread]
  exact map_magnitude_iff (List.cons_ne_nil c cs)

/-- Exactly the integers of 64 bits are read, from all their spellings. -/
theorem readInt64_iff : readInt64 cs = .ok n ↔ SpellsInt64 cs n := by
  constructor
  · intro h
    cases cs with
    | nil => cases h
    | cons c cs =>
      by_cases hplus : c = '+'
      · subst hplus
        obtain ⟨hdigits, hle, rfl⟩ := readInt64_plus.1 h
        exact ⟨.plus hdigits, by omega, by omega⟩
      by_cases hminus : c = '-'
      · subst hminus
        obtain ⟨hdigits, hle, rfl⟩ := readInt64_minus.1 h
        exact ⟨.minus hdigits, by omega, by omega⟩
      · obtain ⟨hdigits, hle, rfl⟩ := (readInt64_plain hplus hminus).1 h
        exact ⟨.plain hdigits, by omega, by omega⟩
  · rintro ⟨hspells, hlow, hhigh⟩
    cases hspells with
    | plus hdigits => exact readInt64_plus.2 ⟨hdigits, by omega, rfl⟩
    | minus hdigits => exact readInt64_minus.2 ⟨hdigits, by omega, rfl⟩
    | plain hdigits =>
      cases cs with
      | nil => exact absurd hdigits not_digits_nil
      | cons c cs =>
        obtain ⟨hplus, hminus⟩ := hdigits.ne_sign
        exact (readInt64_plain hplus hminus).2 ⟨hdigits, by omega, rfl⟩

end Numeral

namespace ListParams

/-- The values that pairs give to a name. -/
def valuesOf (name : String) (pairs : List (String × String)) : List String :=
  (pairs.filter fun pair => pair.1 == name).map Prod.snd

/-- The integer that values spell, if they are one value. -/
inductive SizeSent : Option Int → List String → Prop where
  | none : SizeSent none []
  | some {text : String} {n : Int} (h : Numeral.SpellsInt64 text.toList n) :
      SizeSent (some n) [text]

/-- The pairs give each parameter its value, and give none to those without one. -/
structure SentBy (params : ListParams) (pairs : List (String × String)) : Prop where
  source : valuesOf "sourceUuid" pairs = params.source.toList
  work : valuesOf "workUuid" pairs = params.work.toList
  pageToken : valuesOf "pageToken" pairs = params.pageToken.toList
  pageSize : SizeSent params.pageSize (valuesOf "pageSize" pairs)

/-- The pairs have a name twice, or a page size that is no integer of 64 bits. -/
inductive Garbled (pairs : List (String × String)) : Prop where
  | twice (name : String) (hname : name ∈ ["sourceUuid", "workUuid", "pageSize", "pageToken"])
      (h : 2 ≤ (valuesOf name pairs).length) : Garbled pairs
  | size {text : String} (h : text ∈ valuesOf "pageSize" pairs)
      (hno : ∀ n, ¬ Numeral.SpellsInt64 text.toList n) : Garbled pairs

variable {α : Type} {name key value : String} {pair : String × String}
  {pairs : List (String × String)} {params params' next : ListParams} {query : String}

theorem valuesOf_cons_self (value : String) (pairs : List (String × String)) :
    valuesOf name ((name, value) :: pairs) = value :: valuesOf name pairs := by
  simp [valuesOf]

theorem valuesOf_cons_of_ne (h : key ≠ name) (value : String) (pairs : List (String × String)) :
    valuesOf name ((key, value) :: pairs) = valuesOf name pairs := by
  simp [valuesOf, h]

/-- The texts that a parameter has and that are left are one text, or none. -/
def TextGathers (current : Option String) (values : List String) (result : Option String) : Prop :=
  current.toList ++ values = result.toList

def SizeGathers (current : Option Int) (values : List String) (result : Option Int) : Prop :=
  ∃ numbers, values.map (fun text => Numeral.readInt64 text.toList) = numbers.map .ok ∧
    current.toList ++ numbers = result.toList

/-- Pairs lead from some parameters to others. -/
structure Gathers (params : ListParams) (pairs : List (String × String)) (params' : ListParams) :
    Prop where
  source : TextGathers params.source (valuesOf "sourceUuid" pairs) params'.source
  work : TextGathers params.work (valuesOf "workUuid" pairs) params'.work
  pageToken : TextGathers params.pageToken (valuesOf "pageToken" pairs) params'.pageToken
  pageSize : SizeGathers params.pageSize (valuesOf "pageSize" pairs) params'.pageSize

theorem gathers_iff : Gathers params pairs params' ↔
    TextGathers params.source (valuesOf "sourceUuid" pairs) params'.source ∧
      TextGathers params.work (valuesOf "workUuid" pairs) params'.work ∧
      TextGathers params.pageToken (valuesOf "pageToken" pairs) params'.pageToken ∧
      SizeGathers params.pageSize (valuesOf "pageSize" pairs) params'.pageSize :=
  ⟨fun h => ⟨h.source, h.work, h.pageToken, h.pageSize⟩, fun ⟨h₁, h₂, h₃, h₄⟩ => ⟨h₁, h₂, h₃, h₄⟩⟩

theorem toList_append_cons {current result : Option α} {x : α} {xs : List α} :
    current.toList ++ x :: xs = result.toList ↔
      current = none ∧ (some x).toList ++ xs = result.toList := by
  cases current with
  | none => simp
  | some y => cases result <;> simp

theorem textGathers_cons {current result : Option String} {values : List String} :
    TextGathers current (value :: values) result ↔
      current = none ∧ TextGathers (some value) values result := toList_append_cons

theorem sizeGathers_cons {current result : Option Int} {values : List String} :
    SizeGathers current (value :: values) result ↔ current = none ∧
      ∃ n, Numeral.readInt64 value.toList = .ok n ∧ SizeGathers (some n) values result := by
  constructor
  · rintro ⟨numbers, hread, hlist⟩
    cases numbers with
    | nil => cases hread
    | cons n numbers =>
      rw [List.map_cons, List.map_cons, List.cons.injEq] at hread
      obtain ⟨hnone, hlist⟩ := toList_append_cons.1 hlist
      exact ⟨hnone, n, hread.1, numbers, hread.2, hlist⟩
  · rintro ⟨hnone, n, hn, numbers, hread, hlist⟩
    refine ⟨n :: numbers, ?_, toList_append_cons.2 ⟨hnone, hlist⟩⟩
    rw [List.map_cons, List.map_cons, hn, hread]

theorem map_assign {β : Type} {result : β} (name : String) (current : Option α) (value : α)
    (f : Option α → β) : (assign name current value).map f = .ok result ↔
      current = none ∧ f (some value) = result := by
  cases current with
  | none => simp [assign, Except.map]
  | some x => simp [assign, Except.map]

theorem map_assignNumber {β : Type} {result : β} (name : String) (current : Option Int)
    (value : String) (f : Option Int → β) : (assignNumber name current value).map f = .ok result ↔
      current = none ∧ ∃ n, Numeral.readInt64 value.toList = .ok n ∧ f (some n) = result := by
  cases current with
  | none =>
    rw [assignNumber]
    cases Numeral.readInt64 value.toList <;> simp [Except.map]
  | some x => simp [assignNumber, Except.map]

theorem add_source : params.add ("sourceUuid", value) = .ok next ↔
    params.source = none ∧ { params with source := some value } = next := by
  change (assign "sourceUuid" params.source value).map _ = _ ↔ _
  exact map_assign _ _ _ _

theorem add_work : params.add ("workUuid", value) = .ok next ↔
    params.work = none ∧ { params with work := some value } = next := by
  change (assign "workUuid" params.work value).map _ = _ ↔ _
  exact map_assign _ _ _ _

theorem add_pageToken : params.add ("pageToken", value) = .ok next ↔
    params.pageToken = none ∧ { params with pageToken := some value } = next := by
  change (assign "pageToken" params.pageToken value).map _ = _ ↔ _
  exact map_assign _ _ _ _

theorem add_pageSize : params.add ("pageSize", value) = .ok next ↔ params.pageSize = none ∧
    ∃ n, Numeral.readInt64 value.toList = .ok n ∧ { params with pageSize := some n } = next := by
  change (assignNumber "pageSize" params.pageSize value).map _ = _ ↔ _
  exact map_assignNumber _ _ _ _

theorem add_other (h : key ∉ ["sourceUuid", "workUuid", "pageSize", "pageToken"]) :
    params.add (key, value) = .ok params := by
  unfold add
  split <;> simp_all

/-- A pair sets the parameter of its name, which must be left to set. -/
theorem gathers_cons : Gathers params ((key, value) :: pairs) params' ↔
    ∃ next, params.add (key, value) = .ok next ∧ Gathers next pairs params' := by
  have hne : ∀ {name}, key ≠ name → valuesOf name ((key, value) :: pairs) = valuesOf name pairs :=
    fun h => valuesOf_cons_of_ne h value pairs
  have hself : ∀ {name}, key = name →
      valuesOf name ((key, value) :: pairs) = value :: valuesOf name pairs := by
    rintro name rfl
    exact valuesOf_cons_self value pairs
  simp only [gathers_iff]
  by_cases hsource : key = "sourceUuid"
  · subst hsource
    rw [hself rfl, hne (by decide), hne (by decide), hne (by decide), textGathers_cons]
    simp only [add_source]
    grind
  by_cases hwork : key = "workUuid"
  · subst hwork
    rw [hself rfl, hne (by decide), hne (by decide), hne (by decide), textGathers_cons]
    simp only [add_work]
    grind
  by_cases htoken : key = "pageToken"
  · subst htoken
    rw [hself rfl, hne (by decide), hne (by decide), hne (by decide), textGathers_cons]
    simp only [add_pageToken]
    grind
  by_cases hsize : key = "pageSize"
  · subst hsize
    rw [hself rfl, hne (by decide), hne (by decide), hne (by decide), sizeGathers_cons]
    simp only [add_pageSize]
    grind
  · rw [hne hsource, hne hwork, hne htoken, hne hsize, add_other (by simp_all)]
    simp

theorem gathers_nil : Gathers params [] params' ↔ params = params' := by
  have htext : ∀ {a b : Option String}, TextGathers a [] b ↔ a = b := by
    intro a b
    cases a <;> cases b <;> simp [TextGathers]
  have hsize : ∀ {a b : Option Int}, SizeGathers a [] b ↔ a = b := by
    intro a b
    cases a <;> cases b <;> simp [SizeGathers]
  rw [gathers_iff]
  cases params
  cases params'
  simp only [valuesOf, List.filter_nil, List.map_nil, htext, hsize, mk.injEq]
  grind

/-- Pairs are taken in exactly when they lead to the result. -/
theorem addAll_iff : params.addAll pairs = .ok params' ↔ Gathers params pairs params' := by
  induction pairs generalizing params with
  | nil => rw [addAll, Except.ok.injEq, gathers_nil]
  | cons pair pairs ih =>
    rw [gathers_cons, addAll]
    simp only [← ih]
    cases params.add pair with
    | error fault => simp
    | ok next => simp

theorem sizeGathers_none {size : Option Int} {values : List String} :
    SizeGathers none values size ↔ SizeSent size values := by
  constructor
  · intro h
    cases values with
    | nil =>
      obtain ⟨numbers, hread, hlist⟩ := h
      rw [List.map_nil, eq_comm, List.map_eq_nil_iff] at hread
      subst hread
      cases size with
      | none => exact .none
      | some n => cases hlist
    | cons text values =>
      obtain ⟨-, n, hn, numbers, hread, hlist⟩ := sizeGathers_cons.1 h
      cases size with
      | none => cases hlist
      | some m =>
        cases hlist
        rw [List.map_nil, List.map_eq_nil_iff] at hread
        subst hread
        exact .some (Numeral.readInt64_iff.1 hn)
  · intro h
    cases h with
    | none => exact ⟨[], rfl, rfl⟩
    | @some text n h =>
      refine ⟨[n], ?_, rfl⟩
      rw [List.map_singleton, Numeral.readInt64_iff.2 h]
      rfl

/-- Exactly the parameters are read that the pairs give. -/
theorem ofQuery_iff (h : QueryString.SpellsPairs pairs query.toList) :
    ofQuery query = .ok params ↔ params.SentBy pairs := by
  rw [ofQuery, h.pairs_eq, addAll_iff]
  constructor
  · intro hgathers
    exact ⟨hgathers.source, hgathers.work, hgathers.pageToken, sizeGathers_none.1 hgathers.pageSize⟩
  · intro hsent
    exact ⟨hsent.source, hsent.work, hsent.pageToken, sizeGathers_none.2 hsent.pageSize⟩

theorem SentBy.not_garbled (h : params.SentBy pairs) : ¬ Garbled pairs := by
  have htext : ∀ {value : Option String} {values}, values = value.toList → values.length ≤ 1 := by
    rintro value values rfl
    cases value <;> simp
  have hsize : (valuesOf "pageSize" pairs).length ≤ 1 ∧ ∀ text ∈ valuesOf "pageSize" pairs,
      ∃ n, Numeral.SpellsInt64 text.toList n := by
    have hsent := h.pageSize
    generalize valuesOf "pageSize" pairs = values at hsent ⊢
    generalize params.pageSize = size at hsent
    cases hsent with
    | none => simp
    | some hspells =>
      refine ⟨Nat.le_refl 1, ?_⟩
      intro text htext
      rw [List.mem_singleton.1 htext]
      exact ⟨_, hspells⟩
  intro hgarbled
  cases hgarbled with
  | twice name hname htwice =>
    simp only [List.mem_cons, List.not_mem_nil, or_false] at hname
    rcases hname with rfl | rfl | rfl | rfl
    · exact absurd (htext h.source) (Nat.not_le.2 htwice)
    · exact absurd (htext h.work) (Nat.not_le.2 htwice)
    · exact absurd hsize.1 (Nat.not_le.2 htwice)
    · exact absurd (htext h.pageToken) (Nat.not_le.2 htwice)
  | size hmem hno =>
    obtain ⟨n, hspells⟩ := hsize.2 _ hmem
    exact hno n hspells

/-- A query string means exactly the parameters that it gives, in whatever order and spelling and
among whatever other pairs. One that gives a parameter twice, or a page size that is no integer of
64 bits, is refused by all catalogs alike, which are left as they are. -/
theorem query_means_what_was_sent (h : QueryString.SpellsPairs pairs query.toList) :
    (∀ params : ListParams, ofQuery query = .ok params ↔ params.SentBy pairs) ∧
    (Garbled pairs → ∃ fault : QueryFault, ofQuery query = .error fault ∧
      ∀ request : Request, Route.ofPath? request.path = some .listing → request.method = .get →
        request.query = some query → ∀ c, (Catalog.respond request).run c =
          (.failure 400 ("Invalid query: " ++ fault.message), c)) := by
  constructor
  · intro params
    exact ofQuery_iff h
  · intro hgarbled
    cases hquery : ofQuery query with
    | ok params => exact absurd hgarbled ((ofQuery_iff h).1 hquery).not_garbled
    | error fault =>
      refine ⟨fault, rfl, ?_⟩
      intro request hroute hmethod hrequest c
      have hrefusal : request.refusal? =
          some (.failure 400 ("Invalid query: " ++ fault.message)) := by
        rw [Request.refusal?, hroute, hmethod]
        change Request.listingRefusal? request.query = _
        rw [hrequest, Request.listingRefusal?, Option.getD_some, hquery]
        rfl
      exact (Catalog.respond_refused hrefusal c).1

/-- A text with an escaped character and a blank at its end, an empty segment, a name that means
nothing here, a size with zeros in front and a token with its pads; and two sizes, of which one has
an escape in its name, asked for at the listing's path. -/
theorem query_of_a_token_and_of_two_sizes :
    let query := "sourceUuid=%C3%a9+&&x&pageSize=-007&pageToken=a=="
    let other := "pageSize=1&page%53ize=2"
    ofQuery query = .ok ⟨some "\u00e9 ", none, some (-7), some "a=="⟩ ∧
      ∃ fault, ofQuery other = .error fault ∧
        ∀ c, (Catalog.respond ⟨.get, "/plans", some other, []⟩).run c =
          (.failure 400 ("Invalid query: " ++ fault.message), c) := by
  open QueryString in
  intro query other
  have hself : ∀ {ofValue} (cs : List Char),
      (cs.all fun c => decide (c ∉ ['&', '=', '+', '%'])) = true → Spells ofValue cs cs :=
    fun cs h => spells_self fun c hc => of_decide_eq_true (List.all_eq_true.1 h c hc)
  have hsource : Segment [("sourceUuid", "\u00e9 ")]
      ("sourceUuid".toList ++ '=' :: "%C3%a9+".toList) :=
    .pair (hself _ (by decide)) (.escaped (c := '\u00e9') (.cons (by decide)
      (.cons (by decide) .nil)) (.plus .nil))
  have hbare : Segment [("x", "")] "x".toList := .bare (by decide) (hself _ (by decide))
  have hsize : Segment [("pageSize", "-007")] ("pageSize".toList ++ '=' :: "-007".toList) :=
    .pair (hself _ (by decide)) (hself _ (by decide))
  have htoken : Segment [("pageToken", "a==")] ("pageToken".toList ++ '=' :: "a==".toList) :=
    .pair (hself _ (by decide)) (.raw (by decide) (.equals trivial (.equals trivial .nil)))
  have hquery : SpellsPairs [("sourceUuid", "\u00e9 "), ("x", ""), ("pageSize", "-007"),
      ("pageToken", "a==")] query.toList := by
    have h := SpellsPairs.more hsource (.more .empty (.more hbare (.more hsize (.last htoken))))
    exact (congrArg (SpellsPairs _) (by decide)).mp h
  have hone : Segment [("pageSize", "1")] ("pageSize".toList ++ '=' :: "1".toList) :=
    .pair (hself _ (by decide)) (hself _ (by decide))
  have htwo : Segment [("pageSize", "2")] ("page%53ize".toList ++ '=' :: "2".toList) :=
    .pair (.raw (by decide) (.raw (by decide) (.raw (by decide) (.raw (by decide)
      (.escaped (c := 'S') (.cons (by decide) .nil) (hself "ize".toList (by decide)))))))
      (hself _ (by decide))
  have hother : SpellsPairs [("pageSize", "1"), ("pageSize", "2")] other.toList := by
    have h := SpellsPairs.more hone (.last htwo)
    exact (congrArg (SpellsPairs _) (by decide)).mp h
  constructor
  · refine ((query_means_what_was_sent hquery).1 _).2 ⟨by decide, by decide, by decide, ?_⟩
    change SizeSent (some (-7)) ["-007"]
    exact .some ⟨.minus ⟨by decide, List.all_eq_true.1 (by decide)⟩, by decide, by decide⟩
  · obtain ⟨fault, hfault, hanswer⟩ := (query_means_what_was_sent hother).2
      (.twice "pageSize" (by decide) (by decide))
    exact ⟨fault, hfault, hanswer _ Route.ofPath?_plans rfl rfl⟩

end ListParams
end MovieCatalog
