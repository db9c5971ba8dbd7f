import ProductCatalog.Files.Path
import ProductCatalog.Store.Table
import ProductCatalog.Text.Utf8

/-! A tree of files and directories. A path is followed name by name from the root, and every name
but the last must lead to a directory. -/

namespace ProductCatalog.Files

/-- Why something cannot be done with a file. -/
inductive Fault where
  | notFound
  | alreadyExists
  | notADirectory
  | isADirectory
  | notText
  /-- No file can have a name with a NUL in it. -/
  | invalidName
deriving DecidableEq, Repr

def Fault.message : Fault → String
  | notFound => "No such file or directory (os error 2)"
  | alreadyExists => "File exists (os error 17)"
  | notADirectory => "Not a directory (os error 20)"
  | isADirectory => "Is a directory (os error 21)"
  | notText => "stream did not contain valid UTF-8"
  | invalidName => "file name contained an unexpected NUL byte"

inductive Entry where
  | directory
  | file (bytes : List UInt8)
  | database (database : Store.Database)
deriving DecidableEq

/-- The place of an entry: the names on the way to it from the root. -/
abbrev Place := List String

/-- The entries of a tree by their places. The root is always there. -/
structure Tree where
  entries : List (Place × Entry) := []
deriving DecidableEq

namespace Tree

def entry? (tree : Tree) (place : Place) : Option Entry :=
  if place = [] then some .directory else tree.entries.lookup place

/-- Puts an entry at a place, in the stead of one that was there. -/
def insert (tree : Tree) (place : Place) (entry : Entry) : Tree :=
  ⟨(place, entry) :: tree.entries.filter (·.1 ≠ place)⟩

def walk (tree : Tree) (place : Place) : List String → Except Fault Place
  | [] => .ok place
  | piece :: rest =>
    if tree.entry? place ≠ some .directory then .error .notADirectory
    else if piece = "" ∨ piece = "." then walk tree place rest
    else if piece = ".." then walk tree place.dropLast rest
    else if tree.entry? (place ++ [piece]) |>.isSome then walk tree (place ++ [piece]) rest
    else .error .notFound

/-- The place that a path leads to; a relative path begins at `current`. -/
def locate (tree : Tree) (current path : Path) : Except Fault Place :=
  if path.text.toList.contains '\u0000' then .error .invalidName
  else if path.text = "" then .error .notFound
  else tree.walk [] (if path.isAbsolute then path.pieces else current.pieces ++ path.pieces)

def find (tree : Tree) (current path : Path) : Except Fault Entry := do
  let place ← tree.locate current path
  match tree.entry? place with
  | some entry => return entry
  | none => throw .notFound

def contains (tree : Tree) (current path : Path) : Bool :=
  (tree.find current path).isOk

def isDirectory (tree : Tree) (current path : Path) : Bool :=
  match tree.find current path with
  | .ok .directory => true
  | _ => false

/-- The text of a file. A database is no text. -/
def readText (tree : Tree) (current path : Path) : Except Fault String := do
  match ← tree.find current path with
  | .directory => throw .isADirectory
  | .database _ => throw .notText
  | .file bytes =>
    match Text.Utf8.decode? bytes with
    | some text => return String.ofList text
    | none => throw .notText

/-- Creates one directory at the end of an absolute path, whose pieces are given last piece first. A
path that ends with a dot or two leads to what is there already. -/
def createDirectory (tree : Tree) : List String → Except Fault Tree
  | [] => .error .alreadyExists
  | "" :: rest => createDirectory tree rest
  | name :: rest => do
    let parent ← tree.walk [] (rest.reverse ++ [""])
    if name = "." ∨ name = ".." then throw .alreadyExists
    let place := parent ++ [name]
    if tree.entry? place |>.isSome then throw .alreadyExists
    return tree.insert place .directory

def ensureDirectory (tree : Tree) (pieces : List String) : Except Fault Unit × Tree :=
  match tree.createDirectory pieces with
  | .ok tree => (.ok (), tree)
  | .error fault =>
    let there := tree.isDirectory .root (.ofNames pieces.reverse)
    (if there then .ok () else .error fault, tree)

/-- Creates a directory. If something on the way to it is missing, `lead` creates that first, and
what was created so stays even if the directory cannot be created then. -/
def ensureLed (tree : Tree) (lead : Tree → Except Fault Unit × Tree) (pieces : List String) :
    Except Fault Unit × Tree :=
  match tree.ensureDirectory pieces with
  | (.error .notFound, tree) =>
    match lead tree with
    | (.ok (), tree) => tree.ensureDirectory pieces
    | failed => failed
  | outcome => outcome

/-- Creates a directory and all that lead to it, given by their names, last name first. -/
def ensureDirectories (tree : Tree) : List String → Except Fault Unit × Tree
  | [] => (.ok (), tree)
  | name :: rest => tree.ensureLed (fun tree => tree.ensureDirectories rest) (name :: rest)

/-- Creates the directory at an absolute path and all that lead to it. -/
def createDirectories (tree : Tree) (path : Path) : Except Fault Unit × Tree :=
  if path.text.toList.contains '\u0000' then (.error .invalidName, tree)
  else
    tree.ensureLed (fun tree => tree.ensureDirectories path.names.dropLast.reverse)
      path.pieces.reverse

def canonical (tree : Tree) (current path : Path) : Except Fault Path :=
  (tree.locate current path).map Path.ofNames

end Tree

end ProductCatalog.Files
