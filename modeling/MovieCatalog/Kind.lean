/-! The three tables of the catalog and the kinds of rows that each one holds. -/
namespace MovieCatalog

inductive Table where
  | works
  | sources
  | plans
  deriving DecidableEq, Repr

def Table.name : Table → String
  | .works => "works"
  | .sources => "sources"
  | .plans => "plans"

inductive Kind where
  | movie
  | edition
  | file
  | disc
  | direct
  | chapterRange
  deriving DecidableEq, Repr

namespace Kind

def all : List Kind := [.movie, .edition, .file, .disc, .direct, .chapterRange]

/-- The table whose rows may have the kind. -/
def table : Kind → Table
  | .movie | .edition => .works
  | .file | .disc => .sources
  | .direct | .chapterRange => .plans

/-- The tag that a row of the kind carries. -/
def tag : Kind → String
  | .movie => "movie"
  | .edition => "movieEdition"
  | .file => "file"
  | .disc => "disc"
  | .direct => "direct"
  | .chapterRange => "chapter_range"

/-- The member that holds an entity of the kind in an answer. -/
def label : Kind → String
  | .movie => "movie"
  | .edition => "movieEdition"
  | .file => "file"
  | .disc => "disc"
  | .direct => "direct"
  | .chapterRange => "chapterRange"

/-- The last segment of the paths that write an entity of the kind. -/
def segment : Kind → String
  | .movie => "movie"
  | .edition => "movie-edition"
  | .file => "file"
  | .disc => "disc"
  | .direct => "direct"
  | .chapterRange => "chapter-range"

end Kind

namespace Table
variable (table : Table)

/-- The kinds of the table's rows. -/
def kinds : List Kind := Kind.all.filter fun kind => kind.table = table

theorem mem_kinds {table : Table} {kind : Kind} : kind ∈ table.kinds ↔ kind.table = table := by
  cases kind <;> cases table <;> decide

/-- The tags that a row of the table may be given. -/
def tags : Table → List String
  | .works => ["movie", "movieEdition"]
  | .sources => ["file", "disc"]
  | .plans => ["direct", "chapter_range"]

/-- The kind that a stored tag means in the table. -/
def kind? : Table → String → Option Kind
  | .works, "movie" => some .movie
  | .works, "movieEdition" => some .edition
  | .sources, "file" => some .file
  | .sources, "disc" => some .disc
  | .plans, "direct" => some .direct
  | .plans, "chapter_range" => some .chapterRange
  | _, _ => none

/-- A table takes the tags that it understands, and no others. -/
theorem contains_tags (tag : String) : table.tags.contains tag = (table.kind? tag).isSome := by
  rw [Bool.eq_iff_iff, List.contains_iff_mem]
  fun_cases kind? table tag
  case case7 => cases table <;> simp_all [tags]
  all_goals simp [tags]

/-- The kind that a path segment means in the table. -/
def kindOfSegment? (segment : String) : Option Kind :=
  table.kinds.find? fun kind => kind.segment == segment

/-- The table of a path segment. -/
def ofName? (name : String) : Option Table :=
  [Table.works, .sources, .plans].find? fun table => table.name == name

end Table
end MovieCatalog
