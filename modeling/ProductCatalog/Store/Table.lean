import ProductCatalog.Product.Row

/-! What a store holds: the products, with the texts that searches by name look at, and the version
of the schema they are kept in. -/

namespace ProductCatalog.Store

structure Entry where
  row : Row
  foldedName : String
deriving DecidableEq

/-- The contents of a table of products. Tables of the first version have no names in lowercase. -/
inductive Contents where
  | plain (rows : List Row)
  | folded (entries : List Entry)
deriving DecidableEq

def Contents.rows : Contents → List Row
  | plain rows => rows
  | folded entries => entries.map (·.row)

/-- The entries of a table, without names in lowercase where there are none. -/
def Contents.entries : Contents → List Entry
  | plain rows => rows.map fun row => ⟨row, ""⟩
  | folded entries => entries

structure Table where
  contents : Contents
  /-- The greatest identity that was ever given to a product. It is not given again. -/
  lastId : Nat := 0
  /-- The table refuses companies that are not supported, and names of the wrong length. -/
  checked : Bool := true
deriving DecidableEq

def Table.rows (table : Table) : List Row :=
  table.contents.rows

def maxId : Nat := 0x7FFFFFFFFFFFFFFF

inductive SchemaVersion where
  | untracked
  | unset
  | number (version : Int)
deriving DecidableEq, Repr

structure Database where
  version : SchemaVersion := .untracked
  products : Option Table := none
deriving DecidableEq

def Database.empty : Database := {}

def Database.entries (database : Database) : List Entry :=
  (database.products.map (·.contents.entries)).getD []

/-- The products in order of their identities, if there is a table of them. -/
def Database.rows (database : Database) : List Row :=
  (database.products.map Table.rows).getD []

end ProductCatalog.Store
