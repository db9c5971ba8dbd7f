import ProductCatalog.Store.Change
import ProductCatalog.Store.Migration
import ProductCatalog.Store.Search

/-! Connections to a database. What is done over a connection happens step by step, and a fault in
one step leaves the earlier ones as they are. -/

namespace ProductCatalog.Store

structure Connection where
  database : Database
  isOpen : Bool := true
deriving DecidableEq

/-- What can be done over a connection, with a value or a fault as its outcome. -/
abbrev Action := ExceptT Fault (StateM Connection)

namespace Connection

/-- Opens a connection to a database, which is brought up to date first. -/
def ofDatabase (database : Database) : Except Fault Connection :=
  database.migrate.map fun database => { database }

/-- A connection that is closed stays so. -/
def close (connection : Connection) : Connection :=
  { connection with isOpen := false }

end Connection

/-- One step that may change the database. A step that fails changes nothing. -/
def change {α : Type} (step : Database → Except Fault (α × Database)) : Action α :=
  fun connection =>
    if connection.isOpen then
      match step connection.database with
      | .ok (value, database) => (.ok value, { connection with database })
      | .error fault => (.error fault, connection)
    else (.error (.engine .closed), connection)

def inspect {α : Type} (step : Database → Except Fault α) : Action α :=
  change fun database => (step database).map (·, database)

/-- Writes all changes to the file of the database. Nobody can tell before and after apart. -/
def checkpoint : Action Unit :=
  inspect fun _ => .ok ()

def find (filter : Query.Filter) (policy : Query.Policy) : Action (List Record) :=
  inspect fun database => database.find filter policy

def count (filter : Query.Filter) : Action Nat :=
  inspect fun database => database.count filter

/-- Adds products, all or none of them, and says how many. -/
def insertAll (now : Int) (products : List NewProduct) : Action Nat :=
  change fun database => (database.insertAll now products).map (products.length, ·)

def clear : Action Nat :=
  change Database.clear

/-- Marks the database with a version, as the program of that version would. -/
def setVersion (version : Int) : Action Unit :=
  change fun database => .ok ((), { database with version := .number version })

end ProductCatalog.Store
