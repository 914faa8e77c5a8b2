/-! Paths of files, whose steps are parted by slashes. -/
namespace MovieCatalog.Path

def isAbsolute (path : String) : Bool := path.toList.head? == some '/'

/-- The slash that parts a base from what follows, unless the base is empty or ends in one. -/
def slash (base : List Char) : List Char :=
  if base.isEmpty ∨ base.getLast? = some '/' then [] else ['/']

/-- The path that leads from a base on. An absolute path leaves the base behind, and an empty one
adds a slash alone. -/
def join (base path : String) : String :=
  if isAbsolute path then path
  else String.ofList (base.toList ++ slash base.toList ++ path.toList)

end MovieCatalog.Path
