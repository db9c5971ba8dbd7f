import ProductCatalog.Config.Settings

/-! The directory in which the program keeps its data. -/

namespace ProductCatalog.Config

structure DataDirectoryFault where
  path : Files.Path
  fault : Files.Fault
deriving DecidableEq, Repr

def DataDirectoryFault.message (fault : DataDirectoryFault) : String :=
  "Failed to create data directory: " ++ fault.path.text

/-- The directory for the data of all programs of a user. A relative one does not count. -/
def sharedDataDirectory (environment : Environment) : Files.Path :=
  let given := (environment.valueOf? "XDG_DATA_HOME").map Files.Path.mk
  (given.filter Files.Path.isAbsolute).getD (environment.surroundings.home.join ⟨".local/share"⟩)

def dataDirectory (environment : Environment) : Files.Path :=
  match environment.valueOf? "CATALOG_DATA_DIR" with
  | some text => environment.expand text
  | none => (sharedDataDirectory environment).join ⟨"catalog"⟩

/-- Creates the data directory where it is missing, and finds the shortest path to it. -/
def prepareDataDirectory (environment : Environment) :
    Except DataDirectoryFault Files.Path × Environment :=
  let path := dataDirectory environment
  let (outcome, files) := environment.files.createDirectories path
  let canonical := files.canonical environment.surroundings.current path
  (match outcome with
    | .error fault => .error ⟨path, fault⟩
    | .ok () => .ok (canonical.toOption.getD path),
    { environment with files })

def databasePath (settings : Settings) (directory : Files.Path) : Files.Path :=
  settings.database.getD (directory.join ⟨"catalog.db"⟩)

end ProductCatalog.Config
