import ProductCatalog.Catalog.SeedFile
import ProductCatalog.Catalog.Service
import ProductCatalog.CommandLine.Arguments
import ProductCatalog.Config.DataDirectory
import ProductCatalog.Config.VariableFile
import ProductCatalog.Files.DatabaseFile
import ProductCatalog.Http.Address

/-! Runs of the program, from its arguments to what they leave behind in the files. First the
settings are found, then the data directory and the database are made ready, and only then is the
command carried out. -/

namespace ProductCatalog.CommandLine

open Config (Environment Overrides Settings)

inductive Fault where
  | stopped (stop : Stop)
  | settings (fault : Config.Fault)
  | dataDirectory (fault : Config.DataDirectoryFault)
  | database (path : Files.Path) (fault : Store.Fault)
  | seedFile (fault : Catalog.SeedFault)
  | load (fault : Store.Fault)
  | invalidAddress
deriving DecidableEq

namespace Fault

def exitCode : Fault → Nat
  | stopped stop => stop.exitCode
  | _ => 1

/-- What is said about a fault, and about what it goes back to. -/
def messages : Fault → List String
  | stopped _ => []
  | settings fault => fault.message :: fault.cause?.toList
  | dataDirectory fault => [fault.message, fault.fault.message]
  | database path fault => ("Failed to open database: " ++ path.text) :: fault.openingMessages
  | seedFile fault => [fault.message, fault.cause]
  | load fault => ["Failed to load products", fault.message]
  | invalidAddress => ["invalid IP address syntax"]

/-- The report of a run that failed. A run that was stopped before it began has another one. -/
def report? (fault : Fault) : Option String :=
  match fault.messages with
  | [] => none
  | messages => some ("Error: " ++ ": ".intercalate messages)

end Fault

structure Startup where
  settings : Settings
  database : Files.Path
  connection : Store.Connection
deriving DecidableEq

inductive Outcome where
  | seeded (count : Nat)
  | serving (startup : Startup)
deriving DecidableEq

def prepare (environment : Environment) (overrides : Overrides) :
    Except Fault Startup × Files.Tree :=
  match Settings.load environment overrides with
  | .error fault => (.error (.settings fault), environment.files)
  | .ok settings =>
    match Config.prepareDataDirectory environment with
    | (.error fault, environment) => (.error (.dataDirectory fault), environment.files)
    | (.ok directory, environment) =>
      let database := Config.databasePath settings directory
      match environment.files.openDatabase database with
      | (.error fault, files) => (.error (.database database fault), files)
      | (.ok connection, files) => (.ok { settings, database, connection }, files)

def seed (now : Int) (environment : Environment) (startup : Startup) (file : String) (keep : Bool) :
    Except Fault Outcome × Files.Tree :=
  match Catalog.readSeedFile environment.files environment.surroundings.current ⟨file⟩ with
  | .error fault => (.error (.seedFile fault), environment.files)
  | .ok products =>
    let (outcome, connection) := Catalog.load now products keep startup.connection
    (match outcome with
      | .ok count => .ok (.seeded count)
      | .error fault => .error (.load fault),
      environment.files.saveDatabase startup.database connection.database)

def serve (startup : Startup) : Except Fault Outcome :=
  if Http.isAddress startup.settings.host then .ok (.serving startup) else .error .invalidAddress

/-- Carries out the command that the arguments name. Without one the server is started. -/
def execute (now : Int) (environment : Environment) (arguments : Arguments) :
    Except Fault Outcome × Files.Tree :=
  match prepare environment arguments.overrides with
  | (.error fault, files) => (.error fault, files)
  | (.ok startup, files) =>
    match arguments.command with
    | some (.seed file keep) => seed now { environment with files } startup file keep
    | some .start | none => (serve startup, files)

def run (now : Int) (environment : Environment) (words : List String) :
    Except Fault Outcome × Files.Tree :=
  let environment := environment.withVariableFile
  match Arguments.ofWords environment.bindings words with
  | .error stop => (.error (.stopped stop), environment.files)
  | .ok arguments => execute now environment arguments

end ProductCatalog.CommandLine
