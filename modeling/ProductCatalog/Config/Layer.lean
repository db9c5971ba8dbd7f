import ProductCatalog.Config.Environment
import ProductCatalog.Json.Decode

/-! Layers of settings, as files hold them. Whatever a layer leaves open is decided by the layers
below it. -/

namespace ProductCatalog.Config

structure ServerLayer where
  host : Option String := none
  port : Option UInt16 := none
deriving DecidableEq, Repr

structure DatabaseLayer where
  path : Option String := none
deriving DecidableEq, Repr

structure Layer where
  server : Option ServerLayer := none
  database : Option DatabaseLayer := none
  unknown : List String := []
deriving DecidableEq, Repr

namespace ServerLayer

/-- The first layer, with the settings of the second where that has them. -/
def merge (lower upper : ServerLayer) : ServerLayer where
  host := upper.host <|> lower.host
  port := upper.port <|> lower.port

structure Given where
  host : Option (Option String) := none
  port : Option (Option UInt16) := none

def Given.take (key : String) (given : Given) (node : Json.Node) : Except Json.Fault Given :=
  match key with
  | "host" =>
    Json.Node.once key given.host (Json.Node.optional Json.Node.toText)
      (fun host => { given with host := some host }) node
  | "port" =>
    Json.Node.once key given.port (Json.Node.optional Json.Node.toWord16)
      (fun port => { given with port := some port }) node
  | _ => node.pass.map fun _ => given

def expected : String := "struct ServerFileConfig"

/-- Reads the settings of the server from a record, or from a list of both in order. -/
def ofNode : Json.Node → Except Json.Fault ServerLayer
  | .record members ending => do
    let given ← Json.Node.foldMembers Given.take {} members
    Json.Node.keepEnding ending
    return { host := given.host.getD none, port := given.port.getD none }
  | .list items ending => do
    let absent {α : Type} (position : Nat) : Except Json.Fault α :=
      .error (.invalidLength position (expected ++ " with 2 elements"))
    let host ← Json.Node.item items ending 0 (Json.Node.optional Json.Node.toText) (absent 0)
    let port ← Json.Node.item items ending 1 (Json.Node.optional Json.Node.toWord16) (absent 1)
    Json.Node.endOfItems items ending 2
    return { host, port }
  | node => .error (node.reject expected)

end ServerLayer

namespace DatabaseLayer

def merge (lower upper : DatabaseLayer) : DatabaseLayer where
  path := upper.path <|> lower.path

structure Given where
  path : Option (Option String) := none

def Given.take (key : String) (given : Given) (node : Json.Node) : Except Json.Fault Given :=
  match key with
  | "path" =>
    Json.Node.once key given.path (Json.Node.optional Json.Node.toText)
      (fun path => { path := some path }) node
  | _ => node.pass.map fun _ => given

def expected : String := "struct DatabaseFileConfig"

/-- Reads the settings of the database from a record, or from a list of its only one. -/
def ofNode : Json.Node → Except Json.Fault DatabaseLayer
  | .record members ending => do
    let given ← Json.Node.foldMembers Given.take {} members
    Json.Node.keepEnding ending
    return { path := given.path.getD none }
  | .list items ending => do
    let path ← Json.Node.item items ending 0 (Json.Node.optional Json.Node.toText)
      (.error (.invalidLength 0 (expected ++ " with 1 element")))
    Json.Node.endOfItems items ending 1
    return { path }
  | node => .error (node.reject expected)

end DatabaseLayer

namespace Layer

/-- Joins a section of two layers. A section that one of them has is there in both together. -/
def mergeSection {σ : Type} (merge : σ → σ → σ) : Option σ → Option σ → Option σ
  | some lower, some upper => some (merge lower upper)
  | lower, upper => upper <|> lower

/-- The first layer, with the settings of the second where that has them. Unknown keys stay those of
the first. -/
def merge (lower upper : Layer) : Layer where
  server := mergeSection ServerLayer.merge lower.server upper.server
  database := mergeSection DatabaseLayer.merge lower.database upper.database
  unknown := lower.unknown

structure Given where
  server : Option (Option ServerLayer) := none
  database : Option (Option DatabaseLayer) := none
  unknown : List String := []

/-- The value of an unknown key is kept, and so is subject to the limit on depth. -/
def Given.take (key : String) (given : Given) (node : Json.Node) : Except Json.Fault Given :=
  match key with
  | "server" =>
    Json.Node.once key given.server (Json.Node.optional ServerLayer.ofNode)
      (fun server => { given with server := some server }) node
  | "database" =>
    Json.Node.once key given.database (Json.Node.optional DatabaseLayer.ofNode)
      (fun database => { given with database := some database }) node
  | _ => do
    node.keep (Json.maxDepth - 1)
    return if key ∈ given.unknown then given else { given with unknown := given.unknown ++ [key] }

def ofNode : Json.Node → Except Json.Fault Layer
  | .record members ending => do
    let given ← Json.Node.foldMembers Given.take {} members
    Json.Node.keepEnding ending
    return {
      server := given.server.getD none
      database := given.database.getD none
      unknown := given.unknown }
  | node => .error (node.reject "struct FileConfig")

def ofJson (text : String) : Except Json.Fault Layer :=
  Json.decode ofNode text

end Layer

end ProductCatalog.Config
