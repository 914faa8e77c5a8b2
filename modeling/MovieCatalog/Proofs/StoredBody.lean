import Mathlib.Control.Monad.Basic
import MovieCatalog.StoredBody
import MovieCatalog.Proofs.Json.Records

/-! The stored form of an entity is read as that entity. -/
namespace MovieCatalog

open Json (Column Cells Fills)

theorem Table.kind?_tag (kind : Kind) : kind.table.kind? kind.tag = some kind := by
  cases kind <;> rfl

/-- The kind that a tag means is one of the table's and has that tag. -/
theorem Table.of_kind?_eq_some {table : Table} {kind : Kind} {tag : String}
    (h : table.kind? tag = some kind) : kind.table = table ∧ kind.tag = tag := by
  revert h
  fun_cases kind? table tag
  case case7 =>
    intro h
    cases h
  all_goals
    intro h
    cases h
    exact ⟨rfl, rfl⟩

namespace Json

variable {columns : List Column} {cells cells' cells'' : Cells columns}
  {members members' : List (String × Json)}

theorem Fills.append (h : Fills cells members cells') (h' : Fills cells' members' cells'') :
    Fills cells (members ++ members') cells'' := by
  induction h with
  | nil => exact h'
  | cons first _ ih => exact .cons first (ih h')

theorem Fills.one {member : String × Json} (h : Takes cells member cells') :
    Fills cells [member] cells' := .cons h (.nil cells')

/-- Members of other names leave a cell as it is. -/
theorem Fills.further {column : Column} {cell : Option column.Cell}
    (h : Fills cells members cells') (hne : ∀ member ∈ members, member.1 ≠ column.name) :
    Fills (.cons cell cells) members (.cons cell cells') := by
  induction h with
  | nil cells => exact .nil _
  | cons first _ ih =>
    exact .cons (takes_further (hne _ List.mem_cons_self) first)
      (ih fun member hmember => hne member (List.mem_cons_of_mem _ hmember))

/-- A number that is not set leaves its cell empty. -/
theorem fills_number (name : String) (value : Option Int32) :
    Fills (.cons none cells : Cells (Column.optional name .int32 :: columns))
      (member? name Entity.number value) (.cons (value.map some) cells) := by
  cases value with
  | none => exact .nil _
  | some n => exact .one (takes_here ((reads_int32 n).nullable (opens_integer _)))

theorem name_of_mem_number {name : String} {value : Option Int32} {member : String × Json}
    (h : member ∈ member? name Entity.number value) : member.1 = name := by
  cases value with
  | none => cases h
  | some n => rw [List.mem_singleton.1 h]

/-- Two numbers that may not be set fill two columns. -/
theorem fills_numbers {name name' : String} (h : name' ≠ name) (value value' : Option Int32) :
    Fills (.cons none (.cons none cells) :
        Cells (Column.optional name .int32 :: Column.optional name' .int32 :: columns))
      (member? name Entity.number value ++ member? name' Entity.number value')
      (.cons (value.map some) (.cons (value'.map some) cells)) :=
  .append (fills_number name value) <| .further (fills_number name' value') fun _ hm =>
    name_of_mem_number hm ▸ h

theorem name_of_mem_numbers {name name' : String} {value value' : Option Int32}
    {member : String × Json}
    (h : member ∈ member? name Entity.number value ++ member? name' Entity.number value') :
    member.1 = name ∨ member.1 = name' := by
  rcases List.mem_append.1 h with h | h
  · exact .inl (name_of_mem_number h)
  · exact .inr (name_of_mem_number h)

/-- The identifiers of a plan fill its first two columns. -/
theorem fills_ends (ends : Endpoints) :
    Fills (.cons none (.cons none cells) : Cells (Column.required "sourceUuid" .uuid ::
        Column.required "workUuid" .uuid :: columns))
      (Entity.endMembers ends) (.cons (some ends.source) (.cons (some ends.work) cells)) :=
  .cons (takes_here (reads_uuid ends.source))
    (.one (takes_further (by simp) (takes_here (reads_uuid ends.work))))

theorem complete_cons {column : Column} {cell : Option column.Cell} {value : column.Cell}
    {row : Row columns} (hcell : cell.or column.absent = some value)
    (hrow : cells.complete columns = .ok row) :
    (Cells.cons cell cells).complete (column :: columns) = .ok (value, row) := by
  simp only [Cells.complete, Cells.cons, hcell, hrow]

theorem or_absent {α : Type} (value : Option α) : (value.map some).or (some none) = some value := by
  cases value with
  | none => rfl
  | some _ => rfl

end Json

namespace Entity
open Json

/-- The body of an entity is read as that entity. -/
theorem decode_body (entity : Entity) :
    entity.kind.bodyDecoder.decode (Utf8.ofText entity.body) = .ok entity := by
  cases entity with
  | movie m =>
    have hfill : Fills (.empty Kind.movie.bodyDecoder.shape.columns) (Entity.movie m).members
        (.cons (some m.title) (.cons (m.releaseYear.map some) (.cons (m.tmdbId.map some) ()))) := by
      refine .cons (takes_here (reads_text m.title)) ?_
      refine .further (fills_numbers (by decide) m.releaseYear m.tmdbId) ?_
      intro member hm
      rcases name_of_mem_numbers hm with h | h <;> rw [h] <;> simp
    have hrow : Cells.complete Kind.movie.bodyDecoder.shape.columns
        (.cons (some m.title) (.cons (m.releaseYear.map some) (.cons (m.tmdbId.map some) ()))) =
          .ok (m.title, m.releaseYear, m.tmdbId, ()) :=
      complete_cons rfl (complete_cons (or_absent _) (complete_cons (or_absent _) rfl))
    exact decode_render hfill hrow
  | edition editionType =>
    have hfill : Fills (.empty Kind.edition.bodyDecoder.shape.columns)
        (Entity.edition editionType).members (.cons (some editionType) ()) :=
      .one (takes_here (reads_text editionType))
    exact decode_render hfill rfl
  | file path =>
    have hfill : Fills (.empty Kind.file.bodyDecoder.shape.columns) (Entity.file path).members
        (.cons (some path) ()) := .one (takes_here (reads_text path))
    exact decode_render hfill rfl
  | disc d =>
    have hfill : Fills (.empty Kind.disc.bodyDecoder.shape.columns) (Entity.disc d).members
        (.cons (some d.directory) (.cons (some d.path) (.cons (some d.complete) ()))) := by
      refine .cons (takes_here (reads_text d.directory)) ?_
      refine .cons (takes_further (by simp) (takes_here (reads_text d.path))) ?_
      exact .one (takes_further (by simp) (takes_further (by simp)
        (takes_here (reads_flag d.complete))))
    exact decode_render hfill rfl
  | direct ends =>
    have hfill : Fills (.empty Kind.direct.bodyDecoder.shape.columns)
        (Entity.direct ends).members (.cons (some ends.source) (.cons (some ends.work) ())) :=
      fills_ends ends
    exact decode_render hfill rfl
  | chapterRange ends chapters =>
    have hfill : Fills (.empty Kind.chapterRange.bodyDecoder.shape.columns)
        (Entity.chapterRange ends chapters).members (.cons (some ends.source)
          (.cons (some ends.work) (.cons (chapters.start.map some)
            (.cons (chapters.stop.map some) ())))) := by
      refine (fills_ends ends).append (.further (.further
        (fills_numbers (by decide) chapters.start chapters.stop) ?_) ?_)
      · intro member hm
        rcases name_of_mem_numbers hm with h | h <;> rw [h] <;> simp
      · intro member hm
        rcases name_of_mem_numbers hm with h | h <;> rw [h] <;> simp
    have hrow : Cells.complete Kind.chapterRange.bodyDecoder.shape.columns (.cons (some ends.source)
          (.cons (some ends.work) (.cons (chapters.start.map some)
            (.cons (chapters.stop.map some) ())))) =
          .ok (ends.source, ends.work, chapters.start, chapters.stop, ()) :=
      complete_cons rfl (complete_cons rfl
        (complete_cons (or_absent _) (complete_cons (or_absent _) rfl)))
    exact decode_render hfill hrow

/-- What is stored for an entity stands for that entity. -/
theorem ofStored_body (entity : Entity) :
    ofStored entity.kind.table entity.kind.tag entity.body = .ok entity := by
  rw [ofStored, Table.kind?_tag]
  simp only [decode_body]

/-- The bodies of a kind are read as entities of that kind alone. -/
theorem kind_of_decode {kind : Kind} {input : Bytes} {entity : Entity}
    (h : kind.bodyDecoder.decode input = .ok entity) : entity.kind = kind := by
  rw [Decoder.decode] at h
  split at h
  · cases h
    cases kind <;> rfl
  · cases h

/-- What a row is read as has the row's table and tag. -/
theorem kind_of_ofStored {table : Table} {tag body : String} {entity : Entity}
    (h : ofStored table tag body = .ok entity) :
    entity.kind.table = table ∧ entity.kind.tag = tag := by
  rw [ofStored] at h
  split at h
  · cases h
  · rename_i kind hkind
    split at h
    · rename_i hdecode
      cases h
      rw [kind_of_decode hdecode]
      exact Table.of_kind?_eq_some hkind
    · cases h

/-- The stored form keeps everything: an entity is read from its own tag and body, and whatever a
tag and a body are read as has that tag, and is read again from the tag with its own body. -/
theorem stored_form_roundTrip :
    (∀ entity : Entity, ofStored entity.kind.table entity.kind.tag entity.body = .ok entity) ∧
    ∀ (table : Table) (tag body : String) (entity : Entity),
      ofStored table tag body = .ok entity →
        (entity.kind.table = table ∧ entity.kind.tag = tag) ∧
          ofStored table tag entity.body = .ok entity := by
  refine ⟨ofStored_body, ?_⟩
  intro table tag body entity h
  obtain ⟨htable, htag⟩ := kind_of_ofStored h
  refine ⟨⟨htable, htag⟩, ?_⟩
  rw [← htable, ← htag]
  exact ofStored_body entity

/-- Another spelling of a movie's body, with a blank, an escape and a `null` of its own and the
members the other way round, is read as the movie whose body is shorter. -/
theorem stored_form_of_another_spelling :
    let body := " \x7b\"tmdbId\":null, \"title\":\"\\u0022\"\x7d"
    let movie := Entity.movie ⟨"\"", none, none⟩
    ofStored .works "movie" body = .ok movie ∧ movie.body ≠ body ∧
      ofStored .works "movie" movie.body = .ok movie := by
  intro body movie
  have hread : ofStored .works "movie" body = .ok movie := by decide +kernel
  exact ⟨hread, by decide +kernel, (stored_form_roundTrip.2 _ _ _ _ hread).2⟩

end Entity
end MovieCatalog
