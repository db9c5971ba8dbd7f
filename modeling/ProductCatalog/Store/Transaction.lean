import ProductCatalog.Store.Fault
import ProductCatalog.Store.Table

/-! Work on a database, one statement after the other. A statement fails for what it asks, or
because something befalls it on its way to the engine. What is done in a transaction is stored when
the transaction is committed, and is lost when anything fails before that. -/

namespace ProductCatalog.Store

structure Session where
  stored : Database
  /-- The database as the transaction that is open has it. -/
  working : Option Database := none
  /-- What befalls the coming statements. -/
  mishaps : List (Option EngineFault) := []
deriving DecidableEq

/-- What can be done in a session, with a value or a fault as its outcome. -/
abbrev Work (ε : Type) := ExceptT ε (StateM Session)

namespace Session

def current (session : Session) : Database :=
  session.working.getD session.stored

/-- Outside of transactions every change is stored at once. -/
def write (session : Session) (database : Database) : Session :=
  match session.working with
  | some _ => { session with working := some database }
  | none => { session with stored := database }

/-- The answer to a statement, and the session with what the statement has changed. -/
def answer {α : Type} (statement : Database → Except EngineFault (α × Database))
    (session : Session) : Except EngineFault (α × Session) :=
  (statement session.current).map fun (value, database) => (value, session.write database)

def opened (session : Session) : Session :=
  { session with working := some session.stored }

def committed (session : Session) : Session :=
  { session with stored := session.current, working := none }

def rolledBack (session : Session) : Session :=
  { session with working := none }

end Session

/-- Sends a command to the engine. One that fails leaves the session as it is. -/
def command {α : Type} (run : Session → Except EngineFault (α × Session)) : Work EngineFault α :=
  fun session =>
    let reached := { session with mishaps := session.mishaps.tail }
    match session.mishaps.head?.join with
    | some fault => (.error fault, reached)
    | none =>
      match run reached with
      | .ok (value, after) => (.ok value, after)
      | .error fault => (.error fault, reached)

def send {α : Type} (statement : Database → Except EngineFault (α × Database)) :
    Work EngineFault α :=
  command (Session.answer statement)

def query {α : Type} (question : Database → Except EngineFault α) : Work EngineFault α :=
  send fun database => (question database).map (·, database)

def execute (statement : Database → Except EngineFault Database) : Work EngineFault Unit :=
  send fun database => (statement database).map ((), ·)

def openTransaction : Work EngineFault Unit :=
  command fun session => .ok ((), session.opened)

def commit : Work EngineFault Unit :=
  command fun session => .ok ((), session.committed)

/-- Does work as a whole or not at all. -/
def transaction (work : Work EngineFault Unit) : Work EngineFault Unit := fun session =>
  match (do openTransaction; work; commit : Work EngineFault Unit) session with
  | (.ok (), after) => (.ok (), after)
  | (.error fault, after) => (.error fault, after.rolledBack)

end ProductCatalog.Store
