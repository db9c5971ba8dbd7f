import ProductCatalog.Store.Change
import ProductCatalog.Store.Transaction

/-! Bringing a database to the version of the schema that is in use, one version at a time. -/

namespace ProductCatalog.Store

def supportedVersion : Int := 2

/-! The statements. -/

def Database.isTracked (database : Database) : Bool :=
  database.version ≠ .untracked

/-- Versions are numbers of 32 bits. -/
def isReadable (version : Int) : Bool :=
  -0x80000000 ≤ version ∧ version ≤ 0x7FFFFFFF

/-- The version that a database is marked with, if it is marked. -/
def Database.readVersion (database : Database) : Except EngineFault (Option Int) :=
  match database.version with
  | .untracked | .unset => .ok none
  | .number version =>
    if isReadable version then .ok (some version)
    else .error (.undecodable 0 "out of range integral type conversion attempted")

/-- Creates the tables that are missing. A table that is there already is left as it is. -/
def Database.withTables (database : Database) : Database where
  version := if database.isTracked then database.version else .unset
  products := some (database.products.getD { contents := .folded [] })

def Database.marked (version : Int) (database : Database) : Database :=
  { database with version := .number version }

/-- Changes the mark of a database that has one. -/
def Database.remarked (version : Int) (database : Database) : Database :=
  match database.version with
  | .untracked | .unset => database
  | .number _ => database.marked version

/-- Adds a column for names in lowercase, with nothing in it. -/
def Database.withFoldedColumn (database : Database) : Except EngineFault Database :=
  match database.products with
  | none => .error (.refused .noTable)
  | some ⟨.folded _, _, _⟩ => .error (.refused .duplicateFoldedName)
  | some ⟨.plain rows, lastId, checked⟩ =>
    .ok { database with
      products := some { contents := .folded (rows.map (⟨·, ""⟩)), lastId, checked } }

/-- The names of the products, each with the identity of its product. -/
def Database.names (database : Database) : Except EngineFault (List (Int × String)) :=
  match database.products with
  | none => .error (.refused .noTable)
  | some table => .ok (table.rows.map fun row => (row.id, row.name))

def Entry.refold (id : Int) (text : String) (entry : Entry) : Entry :=
  if entry.row.id = id then { entry with foldedName := text } else entry

def Database.withFoldedName (id : Int) (text : String) (database : Database) :
    Except EngineFault Database :=
  match database.products with
  | none => .error (.refused .noTable)
  | some ⟨.plain _, _, _⟩ => .error (.refused .noFoldedName)
  | some ⟨.folded entries, lastId, checked⟩ =>
    .ok { database with
      products := some { contents := .folded (entries.map (·.refold id text)), lastId, checked } }

/-- Creates what is missing and marks the database as up to date. -/
def Database.initialized (database : Database) : Database :=
  database.withTables.marked supportedVersion

/-! The steps. -/

def Fault.laterVersion (version : Int) : Fault :=
  .migration version "unsupported"
    s!"Database schema version {version} is newer than supported version {supportedVersion}"

def Fault.notFolded (fault : EngineFault) : Fault :=
  .migration 2 "add_name_folded" fault.message

def applySchema : Work EngineFault Unit :=
  transaction do
    execute fun database => .ok database.withTables
    execute fun database => .ok (database.marked supportedVersion)

/-- Adds names in lowercase to a table, and fills them in for the products that are there. -/
def addFoldedNames : Work EngineFault Unit :=
  transaction do
    execute Database.withFoldedColumn
    let names ← query Database.names
    names.forM fun (id, name) => execute (Database.withFoldedName id (foldName name))
    execute fun database => .ok (database.remarked 2)

def applyMigration (version : Int) : Work Fault Unit :=
  if version = 2 then addFoldedNames.adapt .notFolded
  else throw (.migration version "unknown" s!"Unknown migration version: {version}")

def versionsAfter (version : Int) : List Int :=
  (List.range (supportedVersion - version).toNat).map fun (step : Nat) => version + 1 + step

/-- Brings the database of a session up to date. One that a later version has written is refused. -/
def bringUpToDate : Work Fault Unit := do
  let isTracked ← (query fun database => .ok database.isTracked).adapt .engine
  if !isTracked then applySchema.adapt .engine
  else
    let version := (← (query Database.readVersion).adapt .engine).getD 0
    if supportedVersion < version then throw (.laterVersion version)
    else if version < 1 then applySchema.adapt .engine
    else (versionsAfter version).forM applyMigration

/-- The database brought up to date, nothing befalling on the way. -/
def Database.migrate (database : Database) : Except Fault Database :=
  let (outcome, after) := bringUpToDate { stored := database }
  outcome.map fun _ => after.stored

end ProductCatalog.Store
