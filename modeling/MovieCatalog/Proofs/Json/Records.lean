import MovieCatalog.Json.Record
import MovieCatalog.Proofs.Json.Values

/-! Records are read from the objects that hold their members. -/
namespace MovieCatalog.Json

variable {columns : List Column} {cells cells' : Cells columns}

/-- The bytes of a member. -/
def memberBytes (member : String × Json) : Bytes :=
  Utf8.encode (writeString member.1.toList ++ ':' :: member.2.write)

/-- The bytes of members that follow another one. -/
def furtherBytes (members : List (String × Json)) : Bytes :=
  members.flatMap fun member => ascii ',' :: memberBytes member

theorem furtherBytes_cons (member : String × Json) (members : List (String × Json)) :
    furtherBytes (member :: members) =
      ascii ',' :: (memberBytes member ++ furtherBytes members) := List.flatMap_cons

theorem encode_writeMembers_cons (member : String × Json) (members : List (String × Json)) :
    Utf8.encode (writeMembers (member :: members)) =
      memberBytes member ++ furtherBytes members := by
  induction members generalizing member with
  | nil => rw [writeMembers, furtherBytes, List.flatMap_nil, List.append_nil, memberBytes]
  | cons next members ih =>
    have hcomma : Utf8.encodeChar ',' = [ascii ','] := rfl
    rw [writeMembers, Utf8.encode_append, Utf8.encode_cons ',', ih, hcomma, furtherBytes_cons]
    rfl

/-- Behind the members of an object or between them no number goes on. -/
theorem numberEnds_further (members : List (String × Json)) (rest : Bytes) :
    NumberEnds (furtherBytes members ++ ascii '\x7d' :: rest) := by
  intro b hb
  cases members with
  | nil =>
    have he : ascii '\x7d' = b := Option.some.inj hb
    rw [← he]
    decide
  | cons member members =>
    rw [furtherBytes_cons] at hb
    have he : ascii ',' = b := Option.some.inj hb
    rw [← he]
    decide

/-- Reading a member leads from some cells to others. -/
def Takes (cells : Cells columns) (member : String × Json) (cells' : Cells columns) : Prop :=
  ∀ rest, NumberEnds rest → readMember columns cells member.1
    (ascii ':' :: (Utf8.encode member.2.write ++ rest)) = .ok (cells', rest)

/-- Reading members one after another leads from some cells to others. -/
inductive Fills : Cells columns → List (String × Json) → Cells columns → Prop where
  | nil (cells : Cells columns) : Fills cells [] cells
  | cons {cells cells' cells'' : Cells columns} {member : String × Json}
      {members : List (String × Json)} (first : Takes cells member cells')
      (more : Fills cells' members cells'') : Fills cells (member :: members) cells''

theorem readColon_colon (rest : Bytes) : readColon (ascii ':' :: rest) = .ok rest := rfl

/-- Cells for one column more. -/
def Cells.cons {column : Column} (cell : Option column.Cell) (cells : Cells columns) :
    Cells (column :: columns) := (cell, cells)

theorem takes_here {column : Column} {cells : Cells columns} {json : Json} {value : column.Cell}
    (h : Reads column.reader json value) :
    Takes (.cons none cells) (column.name, json) (.cons (some value) cells) := by
  intro rest hrest
  have hread := h rest hrest
  change (if column.name = column.name then _ else _) = _
  rw [if_pos rfl]
  simp only [readColon_colon, hread]
  rfl

theorem takes_further {column : Column} {cell : Option column.Cell} {member : String × Json}
    (hne : member.1 ≠ column.name) (h : Takes cells member cells') :
    Takes (.cons cell cells) member (.cons cell cells') := by
  intro rest hrest
  have hread := h rest hrest
  change (if member.1 = column.name then _ else _) = _
  rw [if_neg hne, hread]
  rfl

theorem readMembers_step {first : Bool} {input start key rest rest' : Bytes} {name : String}
    (hstart : readSeparator first input = .ok (some start, rest))
    (hkey : readString start = .ok (name, key))
    (hmember : readMember columns cells name key = .ok (cells', rest')) :
    readMembers columns cells first input = readMembers columns cells' false rest' := by
  rw [readMembers]
  split
  · rename_i he
    rw [hstart] at he
    cases he
  · rename_i he
    rw [hstart] at he
    cases he
  · rename_i he
    rw [hstart] at he
    cases he
    split
    · rename_i he
      rw [hkey] at he
      cases he
    · rename_i he
      rw [hkey] at he
      cases he
      split
      · rename_i he
        rw [hmember] at he
        cases he
      · rename_i he
        rw [hmember] at he
        cases he
        rfl

theorem readMembers_end {first : Bool} {input rest : Bytes}
    (hend : readSeparator first input = .ok (none, rest)) :
    readMembers columns cells first input = .ok (cells, rest) := by
  rw [readMembers]
  split
  · rename_i he
    rw [hend] at he
    cases he
  · rename_i he
    rw [hend] at he
    cases he
    rfl
  · rename_i he
    rw [hend] at he
    cases he

/-- The text of a member behind the opening quote of its name. -/
theorem memberBytes_eq (member : String × Json) (rest : Bytes) :
    memberBytes member ++ rest = ascii '"' :: (Utf8.encode (member.1.toList.flatMap escape) ++
      ascii '"' :: ascii ':' :: (Utf8.encode member.2.write ++ rest)) := by
  have hcolon : Utf8.encodeChar ':' = [ascii ':'] := rfl
  rw [memberBytes, Utf8.encode_append, encode_writeString, Utf8.encode_cons, hcolon,
    List.append_assoc, quoted_append]
  simp only [List.cons_append, List.nil_append]

theorem readMembers_member {first : Bool} {input : Bytes} {member : String × Json}
    (htake : Takes cells member cells') {rest : Bytes} (hrest : NumberEnds rest)
    (hstart : readSeparator first input =
      .ok (some (memberBytes member ++ rest).tail, (memberBytes member ++ rest).tail)) :
    readMembers columns cells first input = readMembers columns cells' false rest := by
  rw [memberBytes_eq, List.tail_cons] at hstart
  have hkey := readString_encode member.1.toList
    (ascii ':' :: (Utf8.encode member.2.write ++ rest))
  rw [String.ofList_toList] at hkey
  exact readMembers_step hstart hkey (htake rest hrest)

theorem readMembers_further {members : List (String × Json)} (h : Fills cells members cells')
    (rest : Bytes) : readMembers columns cells false
      (furtherBytes members ++ ascii '\x7d' :: rest) = .ok (cells', rest) := by
  induction h with
  | nil cells => exact readMembers_end rfl
  | @cons cells _ _ member members first more ih =>
    rw [furtherBytes_cons, List.cons_append, List.append_assoc, ← ih]
    apply readMembers_member first (numberEnds_further members rest)
    rw [memberBytes_eq]
    rfl

/-- The members of a written object are read in order. -/
theorem readMembers_writeMembers {members : List (String × Json)}
    (h : Fills cells members cells') (rest : Bytes) : readMembers columns cells true
      (Utf8.encode (writeMembers members) ++ ascii '\x7d' :: rest) = .ok (cells', rest) := by
  cases h with
  | nil => exact readMembers_end rfl
  | @cons _ _ _ member members first more =>
    rw [encode_writeMembers_cons, List.append_assoc, ← readMembers_further more rest]
    apply readMembers_member first (numberEnds_further members rest)
    rw [memberBytes_eq]
    rfl

/-- A written object whose members fill the columns is read as its row. -/
theorem decode_render {α : Type} {decoder : Decoder α} {members : List (String × Json)}
    {cells : Cells decoder.shape.columns} {row : Row decoder.shape.columns}
    (hfill : Fills (.empty decoder.shape.columns) members cells)
    (hrow : cells.complete decoder.shape.columns = .ok row) :
    decoder.decode (Utf8.ofText (object members).render) = .ok (decoder.build row) := by
  have hbytes : Utf8.ofText (object members).render =
      ascii '\x7b' :: (Utf8.encode (writeMembers members) ++ [ascii '\x7d']) := by
    have hopen : Utf8.encodeChar '\x7b' = [ascii '\x7b'] := rfl
    have hclose : Utf8.encodeChar '\x7d' = [ascii '\x7d'] := rfl
    rw [render, Utf8.ofText_ofList, write, Utf8.encode_append, Utf8.encode_cons, Utf8.encode_cons,
      hopen, hclose]
    rfl
  have hread : decoder.shape.readFrom (ascii '\x7b')
      (Utf8.encode (writeMembers members) ++ [ascii '\x7d']) = .ok (row, []) := by
    rw [Shape.readFrom, if_neg (by decide), if_pos rfl, readMembers_writeMembers hfill]
    simp only [hrow]
  have hdocument : decoder.shape.readDocument (Utf8.ofText (object members).render) = .ok row := by
    rw [Shape.readDocument, hbytes, readBegun_cons (by decide), hread]
    rfl
  rw [Decoder.decode, Shape.decode, hdocument]

end MovieCatalog.Json
