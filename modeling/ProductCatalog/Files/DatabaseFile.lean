import ProductCatalog.Files.Tree
import ProductCatalog.Store.Connection

/-! Files that hold a database. Opening one creates it, and the directories on the way to it, where
they are missing. -/

namespace ProductCatalog.Files

/-- The place of the database at an absolute path. Two dots lead back over the name before them,
whatever is there. -/
def databasePlace (path : Path) : Place :=
  path.names.foldl (fun place name => if name = ".." then place.dropLast else place ++ [name]) []

/-- The database that an entry holds. An empty file holds an empty one. -/
def databaseOf : Option Entry → Except Store.Fault Store.Database
  | none | some (.file []) => .ok .empty
  | some (.database database) => .ok database
  | some .directory => .error (.ofRefusal .unopened)
  | some (.file (_ :: _)) => .error (.ofRefusal .foreignFile)

/-- No file of a database can have a name with a NUL in it. -/
def invalidDatabaseName : Store.Fault :=
  .engine (.disconnected "filename passed to SQLite must not contain nul bytes")

namespace Tree

def saveDatabase (tree : Tree) (path : Path) (database : Store.Database) : Tree :=
  tree.insert (databasePlace path) (.database database)

def createParents (tree : Tree) (path : Path) : Except Store.Fault Unit × Tree :=
  match path.parent? with
  | none => (.ok (), tree)
  | some parent =>
    let (outcome, tree) := tree.createDirectories parent
    (outcome.mapError fun fault => .file fault.message, tree)

/-- Opens the database at a path that `createParents` has prepared, and brings it up to date. -/
def connect (tree : Tree) (path : Path) : Except Store.Fault Store.Connection := do
  if path.text.toList.contains '\u0000' then throw invalidDatabaseName
  Store.Connection.ofDatabase (← databaseOf <| tree.entry? (databasePlace path))

def openDatabase (tree : Tree) (path : Path) : Except Store.Fault Store.Connection × Tree :=
  match tree.createParents path with
  | (.error fault, tree) => (.error fault, tree)
  | (.ok (), tree) =>
    match tree.connect path with
    | .error fault => (.error fault, tree)
    | .ok connection => (.ok connection, tree.saveDatabase path connection.database)

end Tree

end ProductCatalog.Files
