import Mathlib.Data.List.TakeWhile
import MovieCatalog.ListRequest
import MovieCatalog.Proofs.Hex
import MovieCatalog.Proofs.Utf8

/-! Query strings in all their spellings: characters as they are or byte by byte, in either case of
the digits, with empty segments between the pairs. -/
namespace MovieCatalog

namespace QueryString

/-- Bytes with a `%` and two digits for each. -/
inductive Escaped : Bytes → List Char → Prop where
  | nil : Escaped [] []
  | cons {b : UInt8} {high low : Char} {bytes : Bytes} {cs : List Char}
      (h : [high, low].map Char.toLower = Hex.ofByte b) (more : Escaped bytes cs) :
      Escaped (b :: bytes) ('%' :: high :: low :: cs)

/-- Characters that spell a text. The `=` stands for itself in values only. -/
inductive Spells (ofValue : Prop) : List Char → List Char → Prop where
  | nil : Spells ofValue [] []
  | raw {c : Char} {cs text : List Char} (h : c ∉ ['&', '=', '+', '%'])
      (more : Spells ofValue cs text) : Spells ofValue (c :: cs) (c :: text)
  | escaped {c : Char} {ds cs text : List Char} (h : Escaped (Utf8.encodeChar c) ds)
      (more : Spells ofValue cs text) : Spells ofValue (ds ++ cs) (c :: text)
  | plus {cs text : List Char} (more : Spells ofValue cs text) :
      Spells ofValue ('+' :: cs) (' ' :: text)
  | equals {cs text : List Char} (h : ofValue) (more : Spells ofValue cs text) :
      Spells ofValue ('=' :: cs) ('=' :: text)

/-- What stands between two `&`: nothing, a name, or a name and a value. -/
inductive Segment : List (String × String) → List Char → Prop where
  | empty : Segment [] []
  | bare {name : String} {cs : List Char} (hne : cs ≠ []) (hname : Spells False cs name.toList) :
      Segment [(name, "")] cs
  | pair {name value : String} {cs ds : List Char} (hname : Spells False cs name.toList)
      (hvalue : Spells True ds value.toList) : Segment [(name, value)] (cs ++ '=' :: ds)

/-- Characters of a query string that spell pairs. -/
inductive SpellsPairs : List (String × String) → List Char → Prop where
  | last {pairs : List (String × String)} {cs : List Char} (h : Segment pairs cs) :
      SpellsPairs pairs cs
  | more {pairs others : List (String × String)} {cs query : List Char} (h : Segment pairs cs)
      (further : SpellsPairs others query) : SpellsPairs (pairs ++ others) (cs ++ '&' :: query)

variable {ofValue : Prop} {cs ds text : List Char} {bytes rest : Bytes} {b : UInt8} {c : Char}
  {pairs : List (String × String)}

theorem percentDecode_cons (h : b ≠ ascii '%') (rest : Bytes) :
    percentDecode (b :: rest) = b :: percentDecode rest := by
  match rest with
  | [] => rfl
  | [_] => rfl
  | _ :: _ :: _ => rw [percentDecode, if_neg h]

theorem percentDecode_append (h : ascii '%' ∉ bytes) (rest : Bytes) :
    percentDecode (bytes ++ rest) = bytes ++ percentDecode rest := by
  induction bytes with
  | nil => rfl
  | cons b bytes ih =>
    have hb : b ≠ ascii '%' := fun he => h (he ▸ List.mem_cons_self)
    rw [List.cons_append, percentDecode_cons hb, ih fun hm => h (List.mem_cons_of_mem _ hm),
      List.cons_append]

/-- An ASCII character is among the bytes of a text only if it is in the text. -/
theorem mem_of_ascii_mem {d : Char} (hd : d.toNat < 0x80) (h : ascii d ∈ Utf8.encode cs) :
    d ∈ cs := by
  obtain ⟨c, hc, hbyte⟩ := List.mem_flatMap.1 h
  by_cases hascii : c.toNat < 0x80
  · rw [Utf8.encodeChar_of_lt hascii, List.mem_singleton] at hbyte
    exact Utf8.ascii_inj hd hascii hbyte ▸ hc
  · have hle := Utf8.le_of_mem_encodeChar (Nat.not_lt.1 hascii) hbyte
    rw [Utf8.toNat_ascii hd] at hle
    omega

theorem plusToSpace_of_not_mem (h : ascii '+' ∉ bytes) : bytes.map plusToSpace = bytes := by
  have hall : ∀ b ∈ bytes, plusToSpace b = b := by
    intro b hb
    have hne : b ≠ ascii '+' := fun he => h (he ▸ hb)
    exact if_neg hne
  rw [List.map_congr_left hall, List.map_id']

variable {n : Nat}

/-- A digit in either case is a character of its own. -/
theorem digit_ne {d : Char} (hn : n < 16) (h : c.toLower = Hex.digit n)
    (hd : d ∈ ['&', '=', '+', '%']) : c ≠ d := by
  have hall : ∀ n < 16,
      (['&', '=', '+', '%'].all fun d => decide (d.toLower ≠ Hex.digit n)) = true := by decide
  rintro rfl
  exact of_decide_eq_true (List.all_eq_true.1 (hall n hn) c hd) h

theorem digit_ascii (hn : n < 16) (h : c.toLower = Hex.digit n) :
    c.toNat < 0x80 ∧ Hex.ofByte? (ascii c) = some n := by
  have hc : c.toNat < 0x80 := by
    apply Decidable.byContradiction
    intro hc
    rw [Hex.toLower_of_not_ascii hc] at h
    exact hc (h ▸ Hex.digit_toNat_lt hn)
  refine ⟨hc, ?_⟩
  rw [Hex.ofByte?, Utf8.toNat_ascii hc, Char.ofNat_toNat]
  exact Hex.value?_eq_some_iff.2 ⟨hn, h⟩

/-- Two digits in either case are read as their byte. -/
theorem escaped_byte {high low : Char} (h : [high, low].map Char.toLower = Hex.ofByte b) :
    high.toLower = Hex.digit (b.toNat / 16) ∧ low.toLower = Hex.digit (b.toNat % 16) := by
  rw [Hex.ofByte, List.map_cons, List.map_singleton, List.cons.injEq, List.cons.injEq] at h
  exact ⟨h.1, h.2.1⟩

theorem Escaped.not_mem {d : Char} (h : Escaped bytes ds) (hd : d ∈ ['&', '=', '+']) : d ∉ ds := by
  have hd' : d ∈ ['&', '=', '+', '%'] := List.mem_append_left ['%'] hd
  have hpercent : d ≠ '%' := by
    rintro rfl
    exact absurd hd (by decide)
  induction h with
  | nil => exact List.not_mem_nil
  | cons hbyte _ ih =>
    obtain ⟨hhigh, hlow⟩ := escaped_byte hbyte
    rw [List.mem_cons, List.mem_cons, List.mem_cons]
    rintro (he | rfl | rfl | hm)
    · exact hpercent he
    · exact digit_ne (Hex.byte_div_lt _) hhigh hd' rfl
    · exact digit_ne (Hex.byte_mod_lt _) hlow hd' rfl
    · exact ih hm

/-- Escaped bytes are read back. -/
theorem Escaped.percentDecode (h : Escaped bytes ds) (rest : Bytes) :
    percentDecode (Utf8.encode ds ++ rest) = bytes ++ percentDecode rest := by
  induction h with
  | nil => rfl
  | @cons b high low bytes cs hbyte _ ih =>
    obtain ⟨hhigh, hlow⟩ := escaped_byte hbyte
    obtain ⟨hh, hhigh⟩ := digit_ascii (Hex.byte_div_lt b) hhigh
    obtain ⟨hl, hlow⟩ := digit_ascii (Hex.byte_mod_lt b) hlow
    have hbytes : Utf8.encode ('%' :: high :: low :: cs) ++ rest =
        ascii '%' :: ascii high :: ascii low :: (Utf8.encode cs ++ rest) := by
      rw [Utf8.encode_cons, Utf8.encode_cons, Utf8.encode_cons, Utf8.encodeChar_of_lt hh,
        Utf8.encodeChar_of_lt hl]
      rfl
    rw [hbytes, QueryString.percentDecode, if_pos rfl, hhigh, hlow]
    simp only [Hex.toUInt8_div_mod, ih, List.cons_append]

theorem Spells.amp_not_mem (h : Spells ofValue cs text) : '&' ∉ cs := by
  induction h with
  | nil => exact List.not_mem_nil
  | raw hc _ ih => grind
  | escaped hds _ ih => grind [Escaped.not_mem]
  | plus _ ih => grind
  | equals _ _ ih => grind

theorem Spells.equals_not_mem (h : Spells False cs text) : '=' ∉ cs := by
  induction h with
  | nil => exact List.not_mem_nil
  | raw hc _ ih => grind
  | escaped hds _ ih => grind [Escaped.not_mem]
  | plus _ ih => grind
  | equals h => exact h.elim

theorem spells_self (h : ∀ c ∈ cs, c ∉ ['&', '=', '+', '%']) : Spells ofValue cs cs := by
  induction cs with
  | nil => exact .nil
  | cons c cs ih =>
    rw [List.forall_mem_cons] at h
    exact .raw h.1 (ih h.2)

theorem spells_value (h : ∀ c ∈ cs, c ∉ ['&', '+', '%']) : Spells True cs cs := by
  induction cs with
  | nil => exact .nil
  | cons c cs ih =>
    rw [List.forall_mem_cons] at h
    by_cases hc : c = '='
    · rw [hc]
      exact .equals trivial (ih h.2)
    · refine .raw ?_ (ih h.2)
      simp only [List.mem_cons, not_or] at h ⊢
      exact ⟨h.1.1, hc, h.1.2⟩

/-- A character that stands for itself keeps its bytes. -/
theorem raw_bytes (h : c ∉ ['&', '=', '+', '%']) {d : Char}
    (hd : d ∈ ['&', '=', '+', '%']) : ascii d ∉ Utf8.encodeChar c := by
  have hall : (['&', '=', '+', '%'].all fun d => decide (d.toNat < 0x80)) = true := by decide
  have hlt : d.toNat < 0x80 := of_decide_eq_true (List.all_eq_true.1 hall d hd)
  intro hm
  have hmem : ascii d ∈ Utf8.encode [c] := by
    rwa [Utf8.encode_cons, Utf8.encode_nil, List.append_nil]
  exact h (List.mem_singleton.1 (mem_of_ascii_mem hlt hmem) ▸ hd)

/-- The bytes of a text are read from every spelling of it. -/
theorem Spells.percentDecode (h : Spells ofValue cs text) :
    percentDecode ((Utf8.encode cs).map plusToSpace) = Utf8.encode text := by
  induction h with
  | nil => rfl
  | raw hc _ ih =>
    rw [Utf8.encode_cons, List.map_append, plusToSpace_of_not_mem (raw_bytes hc (by decide)),
      percentDecode_append (raw_bytes hc (by decide)), ih, Utf8.encode_cons]
  | @escaped c ds cs text hds _ ih =>
    have hplus : ascii '+' ∉ Utf8.encode ds := fun hm =>
      hds.not_mem (by decide) (mem_of_ascii_mem (by decide) hm)
    rw [Utf8.encode_append, List.map_append, plusToSpace_of_not_mem hplus, hds.percentDecode, ih,
      Utf8.encode_cons]
  | plus _ ih =>
    have hplus : ∀ cs, (Utf8.encode ('+' :: cs)).map plusToSpace =
        ascii ' ' :: (Utf8.encode cs).map plusToSpace := fun _ => rfl
    rw [hplus, percentDecode_cons (by decide), ih]
    rfl
  | equals _ _ ih =>
    have hequals : ∀ cs, (Utf8.encode ('=' :: cs)).map plusToSpace =
        ascii '=' :: (Utf8.encode cs).map plusToSpace := fun _ => rfl
    rw [hequals, percentDecode_cons (by decide), ih]
    rfl

theorem Spells.decodeText {s : String} (h : Spells ofValue cs s.toList) :
    decodeText (Utf8.encode cs) = s := by
  rw [QueryString.decodeText, h.percentDecode, Utf8.decodeLossy_encode, String.ofList_toList]

/-- The pairs that pieces stand for. -/
def ofPieces (pieces : List Bytes) : List (String × String) :=
  (pieces.filter (!·.isEmpty)).map pair

theorem pairs_eq_ofPieces (query : String) :
    QueryString.pairs query = ofPieces ((Utf8.ofText query).splitOn (ascii '&')) := by
  rw [← split_eq_splitOn]
  rfl

theorem ofPieces_append (pieces further : List Bytes) :
    ofPieces (pieces ++ further) = ofPieces pieces ++ ofPieces further := by
  rw [ofPieces, List.filter_append, List.map_append]
  rfl

theorem ofPieces_singleton (h : bytes ≠ []) : ofPieces [bytes] = [pair bytes] := by
  cases bytes with
  | nil => exact absurd rfl h
  | cons b bytes => rfl

theorem encode_ne_nil (h : cs ≠ []) : Utf8.encode cs ≠ [] := by
  cases cs with
  | nil => exact absurd rfl h
  | cons c cs =>
    have hc := Utf8.decode?_encode (c :: cs)
    intro he
    rw [he] at hc
    cases hc

theorem encode_append_cons (cs ds : List Char) {c : Char} (hc : c.toNat < 0x80) :
    Utf8.encode (cs ++ c :: ds) = Utf8.encode cs ++ ascii c :: Utf8.encode ds := by
  rw [Utf8.encode_append, Utf8.encode_cons, Utf8.encodeChar_of_lt hc, List.singleton_append]

/-- A name has no `=` among its bytes. -/
theorem Spells.equals_bytes (h : Spells False cs text) :
    ∀ b ∈ Utf8.encode cs, (b != ascii '=') = true := by
  intro b hb
  rw [bne_iff_ne]
  rintro rfl
  exact h.equals_not_mem (mem_of_ascii_mem (by decide) hb)

/-- A name by itself has an empty value. -/
theorem pair_bare {name : String} (h : Spells False cs name.toList) :
    pair (Utf8.encode cs) = (name, "") := by
  rw [QueryString.pair, List.takeWhile_eq_self_iff.2 h.equals_bytes,
    List.dropWhile_eq_nil_iff.2 h.equals_bytes, h.decodeText]
  rfl

/-- A name ends before the first `=`, and the value goes on behind it. -/
theorem pair_of_spells {name value : String} (hname : Spells False cs name.toList)
    (hvalue : Spells True ds value.toList) :
    pair (Utf8.encode cs ++ ascii '=' :: Utf8.encode ds) = (name, value) := by
  have hstop : (ascii '=' != ascii '=') = false := by decide
  rw [QueryString.pair, List.takeWhile_append_of_pos hname.equals_bytes,
    List.dropWhile_append_of_pos hname.equals_bytes, List.takeWhile_cons, List.dropWhile_cons,
    hstop]
  simp only [Bool.false_eq_true, if_false, List.append_nil, List.tail_cons]
  rw [hname.decodeText, hvalue.decodeText]

theorem Segment.ofPieces (h : Segment pairs cs) : ofPieces [Utf8.encode cs] = pairs := by
  cases h with
  | empty => rfl
  | bare hne hname => rw [ofPieces_singleton (encode_ne_nil hne), pair_bare hname]
  | pair hname hvalue =>
    rw [encode_append_cons _ _ (by decide), ofPieces_singleton (by simp),
      pair_of_spells hname hvalue]

theorem Segment.amp_not_mem (h : Segment pairs cs) : '&' ∉ cs := by
  cases h with
  | empty => exact List.not_mem_nil
  | bare _ hname => exact hname.amp_not_mem
  | pair hname hvalue =>
    rw [List.mem_append, List.mem_cons]
    rintro (hm | hm | hm)
    · exact hname.amp_not_mem hm
    · exact absurd hm (by decide)
    · exact hvalue.amp_not_mem hm

theorem Segment.splitOn (h : Segment pairs cs) :
    (Utf8.encode cs).splitOn (ascii '&') = [Utf8.encode cs] :=
  List.splitOn_eq_singleton fun hm => h.amp_not_mem (mem_of_ascii_mem (by decide) hm)

/-- A segment that is written behind a query string comes last. -/
theorem Segment.pairs_append {segment : String} (h : Segment pairs segment.toList)
    (query : String) :
    QueryString.pairs (query ++ "&" ++ segment) = QueryString.pairs query ++ pairs := by
  have hbytes : Utf8.ofText (query ++ "&" ++ segment) =
      Utf8.ofText query ++ ascii '&' :: Utf8.encode segment.toList := by
    have hamp : Utf8.ofText "&" = [ascii '&'] := rfl
    rw [Utf8.ofText_append, Utf8.ofText_append, hamp, List.append_assoc, List.singleton_append]
    rfl
  rw [pairs_eq_ofPieces, hbytes, List.splitOn_append_cons_self, ofPieces_append, h.splitOn,
    h.ofPieces, pairs_eq_ofPieces]

/-- Pairs are read from every spelling of them. -/
theorem SpellsPairs.pairs_eq {query : String} (h : SpellsPairs pairs query.toList) :
    QueryString.pairs query = pairs := by
  have hpieces : ∀ {pairs cs}, SpellsPairs pairs cs →
      QueryString.ofPieces ((Utf8.encode cs).splitOn (ascii '&')) = pairs := by
    intro pairs cs h
    induction h with
    | last h => rw [h.splitOn, h.ofPieces]
    | more h _ ih =>
      rw [encode_append_cons _ _ (by decide), List.splitOn_append_cons_self, ofPieces_append,
        h.splitOn, h.ofPieces, ih]
  rw [pairs_eq_ofPieces]
  exact hpieces h

end QueryString
end MovieCatalog
