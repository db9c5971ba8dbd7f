import ProductCatalog.CommandLine.Run
import ProductCatalog.Http.Router
import ProductCatalog.Store.Snapshot
import Std.Time.DateTime.Timestamp

/-! The program on a machine. The files that a run may look at are taken into a tree, and what the
run leaves in the tree is brought back. A server answers requests that come in one a line. -/

namespace ProductCatalog.Machine

open CommandLine (Arguments Command Fault Outcome Startup Stop)
open Config (Environment Settings)

def variableNames : List String :=
  CommandLine.Setting.all.map (·.variableName) ++ ["CATALOG_DATA_DIR", "XDG_DATA_HOME", "HOME"]

def entryOfBytes (bytes : List UInt8) : Files.Entry :=
  let database? := (Text.Utf8.decode? bytes).bind fun text =>
    Store.Snapshot.toDatabase? (String.ofList text)
  (database?.map .database).getD (.file bytes)

def entry? (path : String) : IO (Option Files.Entry) := do
  match ← (IO.FS.readBinFile path).toBaseIO with
  | .ok bytes => return some (entryOfBytes bytes.toList)
  | .error (.inappropriateType _ _ _) => return some .directory
  | .error _ => return none

/-- Takes what the machine has on the way to a path into a tree. -/
def look (path : Files.Path) (tree : Files.Tree) : IO Files.Tree := do
  let place := Files.databasePlace path
  let mut tree := tree
  for count in List.range place.length do
    let way := place.take (count + 1)
    match ← entry? (Files.Path.ofNames way).text with
    | some entry => tree := tree.insert way entry
    | none => return tree
  return tree

def lookAt (paths : List Files.Path) (environment : Environment) : IO Environment := do
  let files ← paths.foldlM (fun tree path => look path tree) environment.files
  return { environment with files }

/-- The variable files that may count: in a directory, given by its names last name first, and in
all that it lies in. -/
def variableFiles : List String → List Files.Path
  | [] => [Files.Path.root.join Config.VariableFile.fileName]
  | name :: rest =>
    (Files.Path.ofNames (name :: rest).reverse).join Config.VariableFile.fileName ::
      variableFiles rest

def seedPaths (current : Files.Path) : Option Command → List Files.Path
  | some (.seed file _) => [current.join ⟨file⟩]
  | some .start | none => []

/-- Takes all files into the environment that a run may look at. -/
def survey (words : List String) (environment : Environment) : IO Environment := do
  let current := environment.surroundings.current
  let environment ← lookAt (variableFiles current.names.reverse ++
    [Config.profilePath environment, current.join Config.fileName]) environment
  match Arguments.ofWords environment.withVariableFile.bindings words with
  | .error _ => return environment
  | .ok arguments =>
    let overrides := arguments.overrides
    let given := overrides.config.toList ++ overrides.database.toList
    let environment ←
      lookAt (given.map environment.expand ++ seedPaths current arguments.command) environment
    let complete := environment.withVariableFile
    match Settings.load complete overrides with
    | .error _ => return environment
    | .ok settings =>
      let directory := Config.dataDirectory complete
      lookAt [directory, Config.databasePath settings directory] environment

/-- Brings an entry to the machine. Other files than databases are never written. -/
def bring (place : Files.Place) (entry : Files.Entry) : IO Unit := do
  let path := (Files.Path.ofNames place).text
  match entry with
  | .directory => IO.FS.createDirAll path
  | .file _ => return
  | .database database =>
    match Store.Snapshot.ofDatabase? database with
    | some text => IO.FS.writeFile path text
    | none => return

def bringAll (before after : Files.Tree) : IO Unit := do
  for (place, entry) in after.entries.reverse do
    if before.entry? place ≠ some entry then bring place entry

def showResponse (response : Http.Response) : String :=
  "\n".intercalate (toString response.status ::
    response.headers.map (fun header => header.1 ++ ": " ++ header.2) ++ ["", response.body])

/-- Answers a request that is given by its method and its target. -/
def reply (startup : Startup) (line : String) : String :=
  let settings := startup.settings
  match (line.trimAscii.toString.splitOn " ") with
  | [method, target] =>
    match Http.Request.ofParts? method target [] with
    | some request =>
      showResponse (Http.respond startup.connection
        (Http.allowedOrigins settings.host settings.port) request)
    | none => "400"
  | _ => "400"

partial def serve (startup : Startup) (input output : IO.FS.Stream) : IO Unit := do
  let line ← input.getLine
  if line.isEmpty then return
  output.putStrLn (reply startup line)
  output.flush
  serve startup input output

def usage : String :=
  "Usage: catalog [--host HOST] [--port PORT] [--config PATH] [--database PATH] " ++
    "[start | seed FILE [--keep] | help]"

def stopText : Stop → String
  | .version => "catalog " ++ Http.Description.version
  | _ => usage

def report : Except Fault Outcome → IO UInt32
  | .ok (.seeded _) => return 0
  | .ok (.serving startup) => do
    serve startup (← IO.getStdin) (← IO.getStdout)
    return 0
  | .error (.stopped stop) => do
    if stop.exitCode = 0 then IO.println (stopText stop) else IO.eprintln (stopText stop)
    return UInt32.ofNat stop.exitCode
  | .error fault => do
    IO.eprintln ("\n" ++ fault.report?.getD "" ++ "\n")
    return UInt32.ofNat fault.exitCode

def run (words : List String) : IO UInt32 := do
  let bindings ← variableNames.filterMapM fun name => do
    return (← IO.getEnv name).map (name, ·)
  let home := Files.Path.mk ((bindings.lookup "HOME").getD "/")
  let current := Files.Path.mk (toString (← IO.currentDir))
  let environment ← survey words { bindings, surroundings := { home, current } }
  let now := (← Std.Time.Timestamp.now).toMillisecondsSinceUnixEpoch.val
  let (outcome, files) := CommandLine.run now environment words
  bringAll environment.files files
  report outcome

end ProductCatalog.Machine

def main (words : List String) : IO UInt32 :=
  ProductCatalog.Machine.run words
