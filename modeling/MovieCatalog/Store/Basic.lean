import MovieCatalog.Error

/-! The tables as they are stored: entity rows, and links from plans to sources and works. -/
namespace MovieCatalog

/-- A row of an entity table. Its revision counts the accepted writes to it, the first included. The
column has signed integers of 64 bits. Negative ones are not represented, since no write stores one,
and after `2 ^ 63 - 1` writes the count would go on where the column ends. -/
structure Entry where
  id : String
  tag : String
  body : String
  revision : Nat
  deriving DecidableEq, Repr

/-- A row that links a plan to a source or a work. -/
structure Link where
  plan : String
  target : String
  deriving DecidableEq, Repr

/-- A plan has a source as input and a work as output. -/
inductive Side where
  | input
  | output
  deriving DecidableEq, Repr

/-- The table that a side's links lead to. -/
def Side.target : Side → Table
  | .input => .sources
  | .output => .works

/-- The five tables, each in the order in which its rows were inserted. -/
structure Store where
  works : List Entry
  sources : List Entry
  plans : List Entry
  inputs : List Link
  outputs : List Link
  deriving DecidableEq, Repr

namespace Store

def empty : Store := ⟨[], [], [], [], []⟩

def entries (store : Store) : Table → List Entry
  | .works => store.works
  | .sources => store.sources
  | .plans => store.plans

def setEntries (store : Store) (table : Table) (entries : List Entry) : Store :=
  match table with
  | .works => { store with works := entries }
  | .sources => { store with sources := entries }
  | .plans => { store with plans := entries }

def links (store : Store) : Side → List Link
  | .input => store.inputs
  | .output => store.outputs

def setLinks (store : Store) (side : Side) (links : List Link) : Store :=
  match side with
  | .input => { store with inputs := links }
  | .output => { store with outputs := links }

variable (store : Store)

/-- The row of a table with the given id text. -/
def find? (table : Table) (id : String) : Option Entry :=
  (store.entries table).find? fun entry => entry.id == id

/-- Whether a table has a row with the given id text. -/
def has (table : Table) (id : String) : Bool := (store.find? table id).isSome

/-- Add a row at the end of a table. -/
def append (table : Table) (entry : Entry) : Store :=
  store.setEntries table (store.entries table ++ [entry])

/-- Replace the body of a row and count the revision. -/
def overwrite (table : Table) (id body : String) : Store :=
  store.setEntries table <| (store.entries table).map fun entry =>
    if entry.id = id then { entry with body, revision := entry.revision + 1 } else entry

/-- Remove the links of a plan on one side. -/
def unlink (side : Side) (plan : String) : Store :=
  store.setLinks side ((store.links side).filter fun link => link.plan != plan)

/-- Add a link at the end of a side. -/
def link (side : Side) (plan target : String) : Store :=
  store.setLinks side (store.links side ++ [⟨plan, target⟩])

end Store

/-- A step on the tables. What a step has changed when it fails stays changed; a transaction
around it undoes that. -/
abbrev Statement (α : Type) := ExceptT CatalogError (StateM Store) α

/-- A step that has its result already. -/
def Statement.ofExcept {α : Type} : Except CatalogError α → Statement α
  | .ok value => pure value
  | .error error => throw error

end MovieCatalog
