import MovieCatalog.Proofs.Json.Records
import MovieCatalog.Proofs.Json.Tokens

/-! Records are read from objects whose members stand in any order, with others among them and
blanks between all tokens. -/
namespace MovieCatalog.Json

/-- Members of an object in order, each a name with the tokens of its value. -/
abbrev Members := List (String × List Bytes)

/-- The values that members give to a name. -/
def valuesOf (name : String) (members : Members) : List (List Bytes) :=
  (members.filter fun member => member.1 == name).map Prod.snd

/-- The comma in front of a member, if it is not the first one. -/
def comma (first : Bool) : List Bytes := if first then [] else [[ascii ',']]

/-- The tokens of members, each in any spelling of its name. -/
inductive SpellsMembers : Bool → Members → List Bytes → Prop where
  | nil {first : Bool} : SpellsMembers first [] []
  | cons {first : Bool} {spelling : Bytes} {name : String} {tokens further : List Bytes}
      {members : Members} (hname : Spells spelling name.toList) (hvalue : Derives .value tokens)
      (more : SpellsMembers false members further) :
      SpellsMembers first ((name, tokens) :: members)
        (comma first ++ quoted spelling :: [ascii ':'] :: (tokens ++ further))

/-- A document that is an object of the given members. -/
def IsObjectOf (members : Members) (bytes : Bytes) : Prop :=
  ∃ tokens, SpellsMembers true members tokens ∧
    Spaced ([ascii '\x7b'] :: (tokens ++ [[ascii '\x7d']])) bytes

variable {α : Type} {input rest : Bytes} {tokens further : List Bytes} {key name : String}
  {first : Bool} {column : Column} {columns : List Column} {cells cells' : Cells columns}
  {row : Row columns} {members : Members}

theorem valuesOf_cons_self (tokens : List Bytes) (members : Members) :
    valuesOf key ((key, tokens) :: members) = tokens :: valuesOf key members := by
  simp [valuesOf]

theorem valuesOf_cons_of_ne (h : key ≠ name) (tokens : List Bytes) (members : Members) :
    valuesOf name ((key, tokens) :: members) = valuesOf name members := by
  simp [valuesOf, h]

theorem readColon_spaced (h : Spaced ([ascii ':'] :: tokens) input) :
    ∃ rest, Spaced tokens rest ∧ readColon input = .ok rest := by
  obtain ⟨rest, hrest, hblanks⟩ := h.first (by decide)
  exact ⟨rest, hrest, by rw [readColon, hblanks]; rfl⟩

theorem readSeparator_end (h : Spaced ([ascii '\x7d'] :: further) input) :
    ∃ rest, Spaced further rest ∧ readSeparator first input = .ok (none, rest) := by
  obtain ⟨rest, hrest, hblanks⟩ := h.first (by decide)
  exact ⟨rest, hrest, by rw [readSeparator, hblanks]; rfl⟩

/-- The name of a member is read from behind its opening quote. -/
theorem readSeparator_member {spelling : Bytes} (hname : Spells spelling name.toList)
    (h : Spaced (comma first ++ quoted spelling :: tokens) input) :
    ∃ start rest, readSeparator first input = .ok (some start, start) ∧
      readString start = .ok (name, rest) ∧ Spaced tokens rest := by
  have hquote : ∀ {input}, Spaced (quoted spelling :: tokens) input →
      ∃ rest, skipBlanks input = ascii '"' :: (spelling ++ ascii '"' :: rest) ∧
        Spaced tokens rest := by
    intro input hinput
    obtain ⟨rest, hrest, hblanks⟩ := hinput.first (by decide)
    rw [List.append_assoc, List.singleton_append] at hblanks
    exact ⟨rest, hblanks, hrest⟩
  have hread := readString_spells hname
  rw [String.ofList_toList] at hread
  cases first with
  | true =>
    obtain ⟨rest, hblanks, hrest⟩ := hquote h
    refine ⟨_, rest, ?_, hread rest, hrest⟩
    rw [readSeparator, hblanks]
    rfl
  | false =>
    obtain ⟨behind, hbehind, hcomma⟩ := h.first (by decide)
    obtain ⟨rest, hblanks, hrest⟩ := hquote hbehind
    refine ⟨_, rest, ?_, hread rest, hrest⟩
    rw [readSeparator, hcomma, List.nil_append]
    dsimp only
    rw [if_neg (by decide), if_neg (by decide), if_pos rfl, hblanks]
    rfl

/-- What stands behind a member ends its value. -/
theorem SpellsMembers.ends (h : SpellsMembers false members tokens) (further : List Bytes) :
    Ends (tokens ++ [ascii '\x7d'] :: further) := by
  cases h with
  | nil => exact ends_cons (by decide)
  | cons => exact ends_cons (by decide)

/-- Where a member goes: into the first column of its name, if nothing has been read for it yet, or
past all columns. -/
inductive Lands (key : String) (input rest : Bytes) : (columns : List Column) →
    Cells columns → Cells columns → Prop where
  | past {behind : Bytes} (hcolon : readColon input = .ok behind)
      (hskip : skipValue behind = .ok rest) : Lands key input rest [] () ()
  | here {column : Column} {columns : List Column} {cells : Cells columns} {behind : Bytes}
      {value : column.Cell} (hkey : key = column.name) (hcolon : readColon input = .ok behind)
      (hread : column.reader.read behind = .ok (value, rest)) :
      Lands key input rest (column :: columns) (.cons none cells) (.cons (some value) cells)
  | further {column : Column} {columns : List Column} {cells cells' : Cells columns}
      (cell : Option column.Cell) (hkey : key ≠ column.name)
      (h : Lands key input rest columns cells cells') :
      Lands key input rest (column :: columns) (.cons cell cells) (.cons cell cells')

/-- Past all columns a member is skipped. -/
theorem readMember_nil (cells : Cells []) (key : String) (input : Bytes) :
    readMember [] cells key input =
      match readColon input with
      | .error fault => .error fault
      | .ok rest =>
        match skipValue rest with
        | .error fault => .error fault
        | .ok rest => .ok (cells, rest) := rfl

theorem readMember_lands (h : Lands key input rest columns cells cells') :
    readMember columns cells key input = .ok (cells', rest) := by
  induction h with
  | past hcolon hskip =>
    refine (readMember_nil _ _ _).trans ?_
    simp only [hcolon, hskip]
  | @here column columns cells behind value hkey hcolon hread =>
    change (if key = column.name then _ else _) = _
    simp only [if_pos hkey, hcolon, hread]
    rfl
  | @further column columns cells cells' cell hkey _ ih =>
    change (if key = column.name then _ else _) = _
    rw [if_neg hkey, ih]
    rfl

theorem lands_of_readMember (h : readMember columns cells key input = .ok (cells', rest)) :
    Lands key input rest columns cells cells' := by
  induction columns with
  | nil =>
    rw [readMember_nil] at h
    split at h
    · cases h
    · rename_i hcolon
      split at h
      · cases h
      · rename_i hskip
        cases h
        exact .past hcolon hskip
  | cons column columns ih =>
    obtain ⟨cell, cells⟩ := cells
    change (if key = column.name then _ else _) = _ at h
    split at h
    · rename_i hkey
      cases cell with
      | some value => cases h
      | none =>
        dsimp only at h
        split at h
        · cases h
        · rename_i hcolon
          split at h
          · cases h
          · rename_i hread
            cases h
            exact .here hkey hcolon hread
    · rename_i hkey
      split at h
      · cases h
      · rename_i hread
        cases h
        exact .further cell hkey (ih hread)

/-- What a column has read of the values that members give to it, and what is left to read, are the
value that it ends up with. -/
inductive Column.Wants (column : Column) (value : column.Cell) :
    Option column.Cell → List (List Bytes) → Prop where
  | done : column.Wants value (some value) []
  | never (h : column.absent = some value) : column.Wants value none []
  | once {tokens : List Bytes} (h : column.reader.Takes tokens value) :
      column.Wants value none [tokens]

/-- The members that are left make up the row, with the cells read so far. -/
inductive Row.Wanted (members : Members) : (columns : List Column) → Row columns →
    Cells columns → Prop where
  | nil : Row.Wanted members [] () ()
  | cons {column : Column} {columns : List Column} {value : column.Cell}
      {cell : Option column.Cell} {row : Row columns} {cells : Cells columns}
      (here : column.Wants value cell (valuesOf column.name members))
      (further : Row.Wanted members columns row cells) :
      Row.Wanted members (column :: columns) (value, row) (.cons cell cells)

/-- A member that no column names is wanted nowhere. -/
theorem Row.Wanted.other (h : row.Wanted ((key, tokens) :: members) columns cells)
    (hkey : key ∉ columns.map Column.name) : row.Wanted members columns cells := by
  induction h with
  | nil => exact .nil
  | cons here _ ih =>
    rw [List.map_cons, List.mem_cons, not_or] at hkey
    rw [valuesOf_cons_of_ne hkey.1] at here
    exact .cons here (ih hkey.2)

/-- A member is read into its column, or skipped, and the others are wanted then. -/
theorem Row.Wanted.lands (hdistinct : (columns.map Column.name).Nodup)
    (h : row.Wanted ((key, tokens) :: members) columns cells) (hvalue : Derives .value tokens)
    (hends : Ends further) (hinput : Spaced ([ascii ':'] :: (tokens ++ further)) input) :
    ∃ cells' rest, Lands key input rest columns cells cells' ∧ Spaced further rest ∧
      row.Wanted members columns cells' := by
  obtain ⟨behind, hbehind, hcolon⟩ := readColon_spaced hinput
  induction h with
  | nil =>
    obtain ⟨rest, hrest, hskip⟩ := skipValue_derives hvalue hends hbehind
    exact ⟨(), rest, .past hcolon hskip, hrest, .nil⟩
  | @cons column columns value cell row cells here others ih =>
    rw [List.map_cons, List.nodup_cons] at hdistinct
    by_cases hkey : key = column.name
    · subst hkey
      rw [valuesOf_cons_self] at here
      generalize hleft : valuesOf column.name members = left at here
      cases here with
      | once htakes =>
        obtain ⟨rest, hrest, hread⟩ := htakes _ _ hends hbehind
        exact ⟨.cons (some value) cells, rest, .here rfl hcolon hread, hrest,
          .cons (hleft ▸ .done) (others.other hdistinct.1)⟩
    · obtain ⟨cells', rest, hlands, hrest, hwanted⟩ := ih hdistinct.2
      rw [valuesOf_cons_of_ne hkey] at here
      exact ⟨.cons cell cells', rest, .further cell hkey hlands, hrest, .cons here hwanted⟩

/-- The members of a row are read into cells that want no more. -/
theorem readMembers_wanted (hdistinct : (columns.map Column.name).Nodup)
    (hmembers : SpellsMembers first members tokens) (h : row.Wanted members columns cells)
    (hinput : Spaced (tokens ++ [ascii '\x7d'] :: further) input) :
    ∃ cells' rest, readMembers columns cells first input = .ok (cells', rest) ∧
      Spaced further rest ∧ row.Wanted [] columns cells' := by
  induction hmembers generalizing cells input with
  | nil =>
    obtain ⟨rest, hrest, hend⟩ := readSeparator_end hinput
    exact ⟨cells, rest, readMembers_end hend, hrest, h⟩
  | cons hname hvalue more ih =>
    simp only [List.append_assoc, List.cons_append] at hinput
    obtain ⟨start, behind, hstart, hkey, hbehind⟩ := readSeparator_member hname hinput
    obtain ⟨cells', rest, hlands, hrest, hwanted⟩ :=
      h.lands hdistinct hvalue (more.ends further) hbehind
    rw [readMembers_step hstart hkey (readMember_lands hlands)]
    exact ih hwanted hrest

/-- With no members left the row is complete. -/
theorem complete_wanted (h : row.Wanted [] columns cells) : cells.complete columns = .ok row := by
  induction h with
  | nil => rfl
  | @cons column columns value cell row cells here _ ih =>
    have hcell : cell.or column.absent = some value := by
      cases here with
      | done => rfl
      | never h => rw [Option.none_or, h]
    simp only [Cells.complete, Cells.cons, hcell, ih]

/-- The first column of a name holds a value. -/
inductive Cells.Filled (name : String) : {columns : List Column} → Cells columns → Prop where
  | here {column : Column} {columns : List Column} {cells : Cells columns} (value : column.Cell)
      (hname : name = column.name) : Filled name (.cons (some value) cells)
  | further {column : Column} {columns : List Column} {cells : Cells columns}
      (cell : Option column.Cell) (hname : name ≠ column.name) (h : Filled name cells) :
      Filled name (.cons cell cells)

/-- A column that holds a value takes no second one. -/
theorem Lands.not_filled (h : Lands key input rest columns cells cells') : ¬ cells.Filled key := by
  induction h with
  | past => intro hfilled; cases hfilled
  | here hkey =>
    intro hfilled
    cases hfilled with
    | further _ hname => exact hname hkey
  | further cell hkey _ ih =>
    intro hfilled
    cases hfilled with
    | here _ hname => exact hkey hname
    | further _ _ hfilled => exact ih hfilled

theorem Lands.keeps_filled (h : Lands key input rest columns cells cells')
    (hfilled : cells.Filled name) : cells'.Filled name := by
  induction h with
  | past => exact hfilled
  | here =>
    cases hfilled with
    | further _ hname hfilled => exact .further _ hname hfilled
  | further cell _ _ ih =>
    cases hfilled with
    | here value hname => exact .here value hname
    | further _ hname hfilled => exact .further cell hname (ih hfilled)

/-- A member of a column's name fills that column. -/
theorem Lands.filled (h : Lands key input rest columns cells cells')
    (hkey : key ∈ columns.map Column.name) : cells'.Filled key := by
  induction h with
  | past => cases hkey
  | here hname => exact .here _ hname
  | further cell hname _ ih =>
    rw [List.map_cons, List.mem_cons] at hkey
    exact .further cell hname (ih (hkey.resolve_left hname))

/-- A member ends where it would be skipped. -/
theorem Lands.ends (h : Lands key input rest columns cells cells')
    (hkeeps : ∀ column ∈ columns, column.reader.Keeps) (hvalue : Derives .value tokens)
    (hends : Ends further) (hinput : Spaced ([ascii ':'] :: (tokens ++ further)) input) :
    Spaced further rest := by
  obtain ⟨behind, hbehind, hcolon⟩ := readColon_spaced hinput
  obtain ⟨after, hafter, hskip⟩ := skipValue_derives hvalue hends hbehind
  induction h with
  | past hcolon' hskip' =>
    cases hcolon.symm.trans hcolon'
    cases hskip.symm.trans hskip'
    exact hafter
  | here _ hcolon' hread =>
    cases hcolon.symm.trans hcolon'
    cases hskip.symm.trans (hkeeps _ List.mem_cons_self hread)
    exact hafter
  | further _ _ _ ih => exact ih fun column hmem => hkeeps column (List.mem_cons_of_mem _ hmem)

/-- A value that every column of its name refuses lands nowhere. -/
theorem Lands.not_refused (h : Lands key input rest columns cells cells')
    (hkey : key ∈ columns.map Column.name) (hends : Ends further)
    (hinput : Spaced ([ascii ':'] :: (tokens ++ further)) input) :
    ∃ column ∈ columns, column.name = key ∧ ¬ column.reader.Refuses tokens := by
  obtain ⟨behind, hbehind, hcolon⟩ := readColon_spaced hinput
  induction h with
  | past => cases hkey
  | here hname hcolon' hread =>
    cases hcolon.symm.trans hcolon'
    refine ⟨_, List.mem_cons_self, hname.symm, ?_⟩
    intro hrefuses
    obtain ⟨fault, hfault⟩ := hrefuses _ _ hends hbehind
    cases hfault.symm.trans hread
  | further _ hname _ ih =>
    rw [List.map_cons, List.mem_cons] at hkey
    obtain ⟨column, hmem, hcolumn⟩ := ih (hkey.resolve_left hname)
    exact ⟨column, List.mem_cons_of_mem _ hmem, hcolumn⟩

/-- Members that have been read gave no column two values, none to a filled one, and none that it
refuses. -/
structure Accepted (cells : Cells columns) (members : Members) : Prop where
  once : ∀ name ∈ columns.map Column.name, (valuesOf name members).length ≤ 1
  unfilled : ∀ name, cells.Filled name → valuesOf name members = []
  taken : ∀ name ∈ columns.map Column.name, ∀ tokens ∈ valuesOf name members,
    ∃ column ∈ columns, column.name = name ∧ ¬ column.reader.Refuses tokens

theorem accepted_nil : Accepted cells [] where
  once _ _ := Nat.zero_le 1
  unfilled _ _ := rfl
  taken _ _ _ htokens := absurd htokens List.not_mem_nil

/-- A member that lands may stand before members that are accepted then. -/
theorem Accepted.cons (h : Accepted cells' members)
    (hlands : Lands key input rest columns cells cells') (hends : Ends further)
    (hinput : Spaced ([ascii ':'] :: (tokens ++ further)) input) :
    Accepted cells ((key, tokens) :: members) := by
  refine ⟨?_, ?_, ?_⟩
  · intro name hname
    by_cases hkey : key = name
    · subst hkey
      rw [valuesOf_cons_self, h.unfilled key (hlands.filled hname)]
      exact Nat.le_refl 1
    · rw [valuesOf_cons_of_ne hkey]
      exact h.once name hname
  · intro name hfilled
    by_cases hkey : key = name
    · subst hkey
      exact absurd hfilled hlands.not_filled
    · rw [valuesOf_cons_of_ne hkey]
      exact h.unfilled name (hlands.keeps_filled hfilled)
  · intro name hname value hvalue
    by_cases hkey : key = name
    · subst hkey
      rw [valuesOf_cons_self, List.mem_cons] at hvalue
      rcases hvalue with rfl | hvalue
      · exact hlands.not_refused hname hends hinput
      · exact h.taken key hname value hvalue
    · rw [valuesOf_cons_of_ne hkey] at hvalue
      exact h.taken name hname value hvalue

/-- When members are read to the end, the first of them lands and the others are read on from there.
-/
theorem readMembers_inv {start behind : Bytes} {result : Cells columns × Bytes}
    (hstart : readSeparator first input = .ok (some start, rest))
    (hkey : readString start = .ok (key, behind))
    (h : readMembers columns cells first input = .ok result) :
    ∃ cells' rest', Lands key behind rest' columns cells cells' ∧
      readMembers columns cells' false rest' = .ok result := by
  cases hmember : readMember columns cells key behind with
  | ok pair =>
    obtain ⟨cells', rest'⟩ := pair
    rw [readMembers_step hstart hkey hmember] at h
    exact ⟨cells', rest', lands_of_readMember hmember, h⟩
  | error fault =>
    rw [readMembers] at h
    grind

theorem accepted_of_readMembers (hkeeps : ∀ column ∈ columns, column.reader.Keeps)
    (hmembers : SpellsMembers first members tokens)
    (hinput : Spaced (tokens ++ [ascii '\x7d'] :: further) input)
    (h : readMembers columns cells first input = .ok (cells', rest)) : Accepted cells members := by
  induction hmembers generalizing cells input with
  | nil => exact accepted_nil
  | cons hname hvalue more ih =>
    simp only [List.append_assoc, List.cons_append] at hinput
    obtain ⟨start, behind, hstart, hkey, hbehind⟩ := readSeparator_member hname hinput
    obtain ⟨_, rest', hlands, hread⟩ := readMembers_inv hstart hkey h
    have hends := more.ends further
    have hrest := hlands.ends hkeeps hvalue hends hbehind
    exact (ih hrest hread).cons hlands hends hbehind

variable {decoder : Decoder α} {body : Bytes}

/-- An object is read from behind its opening brace. -/
theorem readDocument_object (shape : Shape) (h : Spaced ([ascii '\x7b'] :: tokens) body) :
    ∃ input, Spaced tokens input ∧ shape.readDocument body =
      match shape.readFrom (ascii '\x7b') input with
      | .error fault => .error fault
      | .ok (row, rest) =>
        match skipBlanks rest with
        | [] => .ok row
        | b :: more => .error (.ahead .trailingText (b :: more)) := by
  obtain ⟨input, hinput, hblanks⟩ := h.first (by decide)
  refine ⟨input, hinput, ?_⟩
  rw [Shape.readDocument, readBegun, hblanks]
  rfl

/-- An object whose members make up a row is read as that row. -/
theorem decode_object (decoder : Decoder α) {row : Row decoder.shape.columns}
    (hdistinct : (decoder.shape.columns.map Column.name).Nodup) (h : IsObjectOf members body)
    (hrow : row.Wanted members decoder.shape.columns (.empty _)) :
    decoder.decode body = .ok (decoder.build row) := by
  obtain ⟨tokens, hmembers, hbody⟩ := h
  obtain ⟨input, hinput, hdocument⟩ := readDocument_object decoder.shape hbody
  obtain ⟨cells, rest, hread, hrest, hwanted⟩ := readMembers_wanted hdistinct hmembers hrow hinput
  rw [Shape.readFrom, if_neg (by decide), if_pos rfl, hread] at hdocument
  simp only [complete_wanted hwanted, hrest.skipBlanks_nil] at hdocument
  rw [Decoder.decode, Shape.decode, hdocument]

/-- The members of an object that is read are accepted by its columns. -/
theorem accepted_of_decode {value : α}
    (hkeeps : ∀ column ∈ decoder.shape.columns, column.reader.Keeps) (h : IsObjectOf members body)
    (hvalue : decoder.decode body = .ok value) :
    Accepted (.empty decoder.shape.columns) members := by
  obtain ⟨tokens, hmembers, hbody⟩ := h
  obtain ⟨input, hinput, hdocument⟩ := readDocument_object decoder.shape hbody
  rw [Shape.readFrom, if_neg (by decide), if_pos rfl] at hdocument
  cases hread : readMembers decoder.shape.columns (.empty decoder.shape.columns) true input with
  | ok pair => exact accepted_of_readMembers hkeeps hmembers hinput hread
  | error fault =>
    rw [hread] at hdocument
    rw [Decoder.decode, Shape.decode, hdocument] at hvalue
    cases hvalue

end MovieCatalog.Json
