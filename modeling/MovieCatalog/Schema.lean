import MovieCatalog.Decimal.Literal
import MovieCatalog.Error

/-! The layout of a database: its version rows, and the tables and indexes that exist. -/
namespace MovieCatalog

/-- A value in the version column. Of a number that is no integer nothing but that is told. -/
inductive VersionCell where
  | integer (value : Int)
  | real
  | text (value : String)
  deriving DecidableEq, Repr

/-- One step of the layout's history. -/
structure Migration where
  tables : List String
  indexes : List String

/-- The steps in order. Step `n` leads from version `n` to version `n + 1`. -/
def migrations : List Migration :=
  [⟨["works", "sources", "plans", "plan_inputs", "plan_outputs"],
    ["idx_plan_inputs_plan", "idx_plan_inputs_source", "idx_plan_outputs_plan",
      "idx_plan_outputs_work"]⟩]

def schemaVersion : Nat := migrations.length

/-- What a database holds apart from its entity and link rows. Without `versions` there is no
version table. -/
structure Layout where
  versions : Option (List VersionCell)
  tables : List String
  indexes : List String
  deriving DecidableEq, Repr

/-- Add the names that are not there. -/
def addMissing (present wanted : List String) : List String :=
  present ++ wanted.filter fun name => !present.contains name

namespace Layout

/-- A database without tables. -/
def blank : Layout := ⟨none, [], []⟩

variable (layout : Layout)

/-- The rows of the version table. -/
def versionRows : List VersionCell := layout.versions.getD []

/-- All tables in order of their names. -/
def tableNames : List String :=
  ((if layout.versions.isSome then ["schema_version"] else []) ++ layout.tables).mergeSort
    fun a b => decide (a ≤ b)

/-- All indexes in order of their names. -/
def indexNames : List String := layout.indexes.mergeSort fun a b => decide (a ≤ b)

/-- Make sure that there is a version table. -/
def withVersions : Layout := { layout with versions := some layout.versionRows }

/-- The version that the first row tells: 0 without a row. -/
def version : Except StorageFault Int :=
  match layout.versionRows with
  | [] => .ok 0
  | .integer value :: _ =>
    if -0x80000000 ≤ value ∧ value < 0x80000000 then .ok value else .error (.versionRange value)
  | .real :: _ => .error .versionReal
  | .text _ :: _ => .error .versionText

/-- Take the step that leads to a version. -/
def migrate (step : Migration × Nat) : Layout :=
  { versions := some [.integer step.2]
    tables := addMissing layout.tables step.1.tables
    indexes := addMissing layout.indexes step.1.indexes }

/-- The steps that a version has not seen, each with the version it leads to. -/
def pending (version : Int) : List (Migration × Nat) :=
  (migrations.zip ((List.range schemaVersion).map (· + 1))).drop version.toNat

/-- Bring a database to the current version. Newer ones are left alone. -/
def initialise : Except StorageFault Unit × Layout :=
  let layout := layout.withVersions
  match layout.version with
  | .error fault => (.error fault, layout)
  | .ok version =>
    if schemaVersion ≤ version then (.ok (), layout)
    else (.ok (), (pending version).foldl migrate layout)

/-- Repeat the initialisation, with the result and the layout of each run. -/
def initialiseRuns : Nat → Layout → List (Except StorageFault Unit × Layout)
  | 0, _ => []
  | n + 1, layout =>
    let run := layout.initialise
    run :: initialiseRuns n run.2

end Layout

namespace VersionCell

/-- The value that an integer column keeps of a double: an integer if it is one strictly between
the ends of 64 bits. -/
def ofFloat (x : Float) : VersionCell :=
  let n := x.toInt64
  if n.toFloat == x ∧ Int64.minValue < n ∧ n < Int64.maxValue then .integer n.toInt else .real

/-- The value that an integer column keeps of a text: the number that the text spells in decimal,
with blanks around it, or the text itself. An integer of 64 bits is kept exactly. -/
def ofText (s : String) : VersionCell :=
  let blank (c : Char) := c = ' ' ∨ (9 ≤ c.toNat ∧ c.toNat ≤ 13)
  let core := ((s.toList.dropWhile (blank ·)).reverse.dropWhile (blank ·)).reverse
  match Numeral.readInt64 core, Decimal.Literal.ofChars? core with
  | .ok value, _ => .integer value
  | .error _, some literal => ofFloat literal.toFloat
  | .error _, none => .text s

end VersionCell

end MovieCatalog
