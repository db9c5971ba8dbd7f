import ProductCatalog.Product.Field
import ProductCatalog.Product.NewProduct

/-! What can go wrong in the store, and how it is told. The catalog tells of it in words of its own,
which are the same for stores of every kind. Only faults of the connection pass by themselves; a
client may try again after those. -/

namespace ProductCatalog.Store

inductive Refusal where
  | noTable
  /-- A search by name, in a table without a column for names in lowercase. -/
  | noFoldedName
  /-- A product to be added, to a table without a column for names in lowercase. -/
  | noPlaceForFoldedName
  | duplicateFoldedName
  /-- A value that is no number cannot be stored. -/
  | undefinedNumber (field : NumericField)
  | full
  | nameLength
  | unsupportedCompany
  | tooManyConditions
  | patternTooLong
  | unopened
  | foreignFile
deriving DecidableEq, Repr

namespace Refusal

def code : Refusal → Nat
  | noTable | noFoldedName | noPlaceForFoldedName | duplicateFoldedName => 1
  | undefinedNumber _ => 1299
  | full => 13
  | nameLength | unsupportedCompany => 275
  | tooManyConditions | patternTooLong => 1
  | unopened => 14
  | foreignFile => 26

def reason : Refusal → String
  | noTable => "no such table: products"
  | noFoldedName => "no such column: name_folded"
  | noPlaceForFoldedName => "table products has no column named name_folded"
  | duplicateFoldedName => "duplicate column name: name_folded"
  | undefinedNumber field => "NOT NULL constraint failed: products." ++ field.field.column
  | full => "database or disk is full"
  | nameLength => "CHECK constraint failed: length(name) >= 1 AND length(name) <= 100"
  | unsupportedCompany =>
    "CHECK constraint failed: company IN (" ++
      ", ".intercalate (companies.map fun company => s!"'{company}'") ++ ")"
  | tooManyConditions => "Expression tree is too large (maximum depth 1000)"
  | patternTooLong => "LIKE or GLOB pattern too complex"
  | unopened => "unable to open database file"
  | foreignFile => "file is not a database"

def message (refusal : Refusal) : String :=
  s!"(code: {refusal.code}) " ++ refusal.reason

end Refusal

/-- What can go wrong on the way to the engine and back. -/
inductive EngineFault where
  | refused (refusal : Refusal)
  | timedOut
  | closed
  | rowNotFound
  | crashed
  | unexpectedData (detail : String)
  | columnNotFound (name : String)
  | undecodable (column : Nat) (detail : String)
  | disconnected (detail : String)
  /-- Anything else, with its message and those of what caused it. -/
  | other (message : String) (causes : List String)
deriving DecidableEq, Repr

namespace EngineFault

def message : EngineFault → String
  | refused refusal => "error returned from database: " ++ refusal.message
  | timedOut => "pool timed out while waiting for an open connection"
  | closed => "attempted to acquire a connection on a closed pool"
  | rowNotFound => "no rows returned by a query that expected to return at least one row"
  | crashed => "attempted to communicate with a crashed background worker"
  | unexpectedData detail => "encountered unexpected or invalid data: " ++ detail
  | columnNotFound name => "no column found for name: " ++ name
  | undecodable column detail => s!"error occurred while decoding column {column}: " ++ detail
  | disconnected detail => "error communicating with database: " ++ detail
  | other message _ => message

def messages : EngineFault → List String
  | refused refusal => [(refused refusal).message, refusal.message]
  | undecodable column detail => [(undecodable column detail).message, detail]
  | disconnected detail => [(disconnected detail).message, detail]
  | other message causes => message :: causes
  | fault => [fault.message]

def isTransient : EngineFault → Bool
  | timedOut | closed | disconnected _ => true
  | refused _ | rowNotFound | crashed | unexpectedData _ | columnNotFound _
  | undecodable _ _ | other _ _ => false

end EngineFault

inductive Fault where
  | engine (fault : EngineFault)
  | migration (version : Int) (name reason : String)
  | file (reason : String)
deriving DecidableEq, Repr

namespace Fault

def openingMessage : Fault → String
  | engine fault => "Database error: " ++ fault.message
  | migration version name reason => s!"Migration {version} ({name}) failed: {reason}"
  | file reason => "IO error: " ++ reason

/-- The message for whoever opens a store, and those of what caused it. -/
def openingMessages : Fault → List String
  | engine fault => (engine fault).openingMessage :: fault.messages
  | migration version name reason => [(migration version name reason).openingMessage]
  | file reason => [(file reason).openingMessage, reason]

def ofRefusal (refusal : Refusal) : Fault :=
  engine (.refused refusal)

end Fault

/-- A fault of the store as the catalog tells of it, naming the kind of store where it matters. -/
inductive DataFault where
  | engine (fault : EngineFault)
  | migration (backend : String) (version : Int) (name reason : String)
  | file (reason : String)
deriving DecidableEq, Repr

namespace DataFault

def ofFault : Fault → DataFault
  | .engine fault => engine fault
  | .migration version name reason => migration "sqlite" version name reason
  | .file reason => file reason

def message : DataFault → String
  | engine fault => "SQLite error: " ++ fault.message
  | migration backend version name reason =>
    s!"Migration {version} ({name}) failed on {backend}: {reason}"
  | file reason => "IO error: " ++ reason

def isTransient : DataFault → Bool
  | engine fault => fault.isTransient
  | migration _ _ _ _ | file _ => false

end DataFault

namespace Fault

def message (fault : Fault) : String :=
  (DataFault.ofFault fault).message

def isTransient (fault : Fault) : Bool :=
  (DataFault.ofFault fault).isTransient

end Fault

end ProductCatalog.Store
