import ProductCatalog.Config.Layer

/-! The settings that the program runs with. They are put together from layers: what the command
line says, a file, the file of the profile, and defaults, in this order of precedence. -/

namespace ProductCatalog.Config

/-- What the command line, and variables in its stead, say about settings. -/
structure Overrides where
  host : Option String := none
  port : Option UInt16 := none
  config : Option String := none
  database : Option String := none
deriving DecidableEq, Repr

/-- The first overrides, with the second for settings that those leave open. -/
def Overrides.orElse (first second : Overrides) : Overrides where
  host := first.host <|> second.host
  port := first.port <|> second.port
  config := first.config <|> second.config
  database := first.database <|> second.database

inductive Fault where
  | unreadable (path : Files.Path) (fault : Files.Fault)
  | malformed (path : Files.Path) (fault : Json.Fault)
  | notFound (path : Files.Path)
  | emptyHost
  | zeroPort
  | databaseIsDirectory (path : Files.Path)
deriving DecidableEq, Repr

def Fault.message : Fault → String
  | unreadable path _ => "Failed to read config file: " ++ path.text
  | malformed path _ => "Failed to parse config file: " ++ path.text
  | notFound path => "Config file not found: " ++ path.text
  | emptyHost => "Configuration error: server.host must not be empty"
  | zeroPort => "Configuration error: server.port must be greater than 0"
  | databaseIsDirectory path =>
    "Configuration error: database.path must be a file, got directory " ++ path.text

/-- What the fault goes back to, unless the settings as such are to blame. -/
def Fault.cause? : Fault → Option String
  | unreadable _ fault => some fault.message
  | malformed _ fault => some fault.message
  | notFound _ | emptyHost | zeroPort | databaseIsDirectory _ => none

structure Settings where
  host : String
  port : UInt16
  /-- The file of the database, if it is not the one in the data directory. -/
  database : Option Files.Path
deriving DecidableEq, Repr

def defaultHost : String := "127.0.0.1"

def defaultPort : UInt16 := 3000

def fileName : Files.Path := ⟨"catalog.json"⟩

def profilePath (environment : Environment) : Files.Path :=
  (environment.surroundings.home.join ⟨".catalog"⟩).join fileName

def readLayer (environment : Environment) (path : Files.Path) : Except Fault Layer := do
  let text ← (environment.readText path).mapError (.unreadable path)
  (Layer.ofJson text).mapError (.malformed path)

def readLayerIfPresent (environment : Environment) (path : Files.Path) : Except Fault Layer :=
  if environment.contains path then readLayer environment path else .ok {}

/-- The layer over the profile: the file that is asked for, which must be there, or the one in the
current directory. -/
def readOverlay (environment : Environment) (config : Option String) : Except Fault Layer :=
  match config with
  | some text =>
    let path := environment.expand text
    if environment.contains path then readLayer environment path else .error (.notFound path)
  | none => readLayerIfPresent environment fileName

namespace Settings

/-- Puts the command line over the files, and these over the defaults. -/
def ofLayers (environment : Environment) (overrides : Overrides) (layer : Layer) : Settings where
  host := (overrides.host <|> layer.server.bind (·.host)).getD defaultHost
  port := (overrides.port <|> layer.server.bind (·.port)).getD defaultPort
  database := (overrides.database <|> layer.database.bind (·.path)).map environment.expand

def check (environment : Environment) (settings : Settings) : Except Fault Settings :=
  if settings.host = "" then .error .emptyHost
  else if settings.port = 0 then .error .zeroPort
  else
    match settings.database with
    | some path =>
      if environment.isDirectory path then .error (.databaseIsDirectory path) else .ok settings
    | none => .ok settings

def load (environment : Environment) (overrides : Overrides) : Except Fault Settings := do
  let profile ← readLayerIfPresent environment (profilePath environment)
  let overlay ← readOverlay environment overrides.config
  check environment (ofLayers environment overrides (({} : Layer).merge profile |>.merge overlay))

end Settings

end ProductCatalog.Config
