import ProductCatalog.Text.Blank

/-! Paths, which are kept as they are written. A path is absolute if it starts at the root. -/

namespace ProductCatalog.Files

structure Path where
  text : String
deriving DecidableEq, Repr

namespace Path

def root : Path := ⟨"/"⟩

def isAbsolute (path : Path) : Bool :=
  path.text.toList.head? == some '/'

/-- Whether a slash must be put between the path and what comes after it. -/
def needsSlash (path : Path) : Bool :=
  path.text ≠ "" && path.text.toList.getLast? != some '/'

/-- The path of something that is named relative to another path. An absolute name stands on its
own. -/
def join (path name : Path) : Path :=
  if name.isAbsolute then name
  else if path.needsSlash then ⟨path.text ++ "/" ++ name.text⟩
  else ⟨path.text ++ name.text⟩

def pieces (path : Path) : List String :=
  (path.text.toList.splitOn '/').map String.ofList

/-- The names that a path goes through, without pieces that stay where they are. -/
def names (path : Path) : List String :=
  path.pieces.filter fun piece => piece ≠ "" ∧ piece ≠ "."

def ofNames (names : List String) : Path :=
  ⟨"/" ++ "/".intercalate names⟩

def parent? (path : Path) : Option Path :=
  if path.names = [] then none else some (ofNames path.names.dropLast)

end Path

structure Surroundings where
  home : Path
  current : Path
deriving DecidableEq, Repr

/-- The path that a user means. A tilde in front stands for the home directory, and a path that is
not absolute begins in the current one. Blanks around it do not belong to it. -/
def Surroundings.expand (surroundings : Surroundings) (text : String) : Path :=
  let trimmed := Text.trim text.toList
  let path := match trimmed with
    | ['~'] => surroundings.home
    | '~' :: '/' :: rest => surroundings.home.join ⟨String.ofList rest⟩
    | _ => ⟨String.ofList trimmed⟩
  if trimmed = [] then surroundings.current
  else if path.isAbsolute then path
  else surroundings.current.join path

end ProductCatalog.Files
