import MovieCatalog.Toml.Scalar

/-! Tables of TOML documents, and the rules by which keys and headers may fill them. -/
namespace MovieCatalog.Toml

/-- What a table comes from: its own header, the header of a table inside it, or a dotted key. -/
inductive Origin where
  | header
  | innerHeader
  | dottedKey
  deriving DecidableEq, Repr

/-- What a name stands for. Of a list of tables only the last one can still be filled. -/
inductive Item where
  | value (value : Value)
  | table (origin : Origin) (members : List (String × Item))
  | tables (last : List (String × Item))

abbrev Members := List (String × Item)

namespace Members

/-- Set what a name stands for. -/
def put (name : String) (item : Item) : Members → Members
  | [] => [(name, item)]
  | (other, old) :: rest =>
    if other = name then (name, item) :: rest else (other, old) :: put name item rest

/-- Add a value under a key. A dotted key makes the tables it leads through; it may pass through
tables without a header of their own, but it ends in one that dotted keys made. -/
def add (name : String) (value : Value) : (path : List String) → Members → Option Members
  | [], members =>
    match members.lookup name with
    | none => some (members.put name (.value value))
    | some _ => none
  | step :: path, members =>
    match members.lookup step with
    | none => (add name value path []).map fun inner => members.put step (.table .dottedKey inner)
    | some (.table .dottedKey inner) =>
      (add name value path inner).map fun inner => members.put step (.table .dottedKey inner)
    | some (.table .innerHeader inner) =>
      if path.isEmpty then none
      else (add name value path inner).map fun inner =>
        members.put step (.table .innerHeader inner)
    | some (.tables last) =>
      if path.isEmpty then none
      else (add name value path last).map fun last => members.put step (.tables last)
    | some (.table .header _) | some (.value _) => none

/-- Change the table at the end of a path of headers. -/
def update (change : Members → Option Members) : (path : List String) → Members → Option Members
  | [], members => change members
  | step :: path, members =>
    match members.lookup step with
    | none => (update change path []).map fun inner =>
        members.put step (.table .innerHeader inner)
    | some (.table origin inner) =>
      (update change path inner).map fun inner => members.put step (.table origin inner)
    | some (.tables last) =>
      (update change path last).map fun last => members.put step (.tables last)
    | some (.value _) => none

/-- Give a table its header. It has none yet, and no dotted key made it. -/
def openTable (name : String) (members : Members) : Option Members :=
  match members.lookup name with
  | none => some (members.put name (.table .header []))
  | some (.table .innerHeader inner) => some (members.put name (.table .header inner))
  | some _ => none

/-- Begin one more table in a list of tables. -/
def openTables (name : String) (members : Members) : Option Members :=
  match members.lookup name with
  | none | some (.tables _) => some (members.put name (.tables []))
  | some _ => none

end Members

/-- A document as far as it has been read, with the path of the table that is being filled. -/
structure Document where
  root : Members
  here : List String

namespace Document
variable (document : Document)

def empty : Document := ⟨[], []⟩

/-- Add a value to the table that is being filled. -/
def add (key : Key) (value : Value) : Option Document :=
  (Members.update (Members.add key.name value key.path) document.here document.root).map
    fun root => { document with root }

/-- Turn to the table of a header. -/
def turnTo (openLast : String → Members → Option Members) (key : Key) : Option Document :=
  (Members.update (openLast key.name) key.path document.root).map
    fun root => ⟨root, key.path ++ [key.name]⟩

end Document
end MovieCatalog.Toml
