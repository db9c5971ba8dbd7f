import ProductCatalog.Product.NewProduct
import ProductCatalog.Store.Fault
import ProductCatalog.Store.Table
import ProductCatalog.Text.Like
import ProductCatalog.Text.Lowercase

/-! Changes to the products in a store. A change is made as a whole or not at all. -/

namespace ProductCatalog.Store

def foldName (name : String) : String :=
  String.ofList (Text.lowercase name.toList)

/-- The row of a new product. Zeros lose their sign, and a product without a time gets the present.
-/
def newRow (id : Nat) (now : Int) (product : NewProduct) : Row where
  id := id
  name := product.name
  price := Decimal.unsignedZero product.price
  rating := Decimal.unsignedZero product.rating
  company := product.company
  featured := product.featured
  createdAt := product.createdAt.getD now

def newEntry (id : Nat) (now : Int) (product : NewProduct) : Entry where
  row := newRow id now product
  foldedName := foldName product.name

/-- The length of a name as a checked table counts it. -/
def countedLength (name : String) : Nat :=
  (Text.Like.visible name.toList).length

/-- What a table that has given the identities up to `lastId` has against a product, the first of
all reasons. -/
def refusal? (checked : Bool) (lastId : Nat) (product : NewProduct) : Option Refusal :=
  if maxId ≤ lastId then some .full
  else if Decimal.isUndefined product.price then some (.undefinedNumber .price)
  else if Decimal.isUndefined product.rating then some (.undefinedNumber .rating)
  else if !checked then none
  else if countedLength product.name < 1 ∨ 100 < countedLength product.name then some .nameLength
  else if product.company ∉ companies then some .unsupportedCompany
  else none

def Table.insert (now : Int) (table : Table) (product : NewProduct) : Except Fault Table :=
  match table.contents, refusal? table.checked table.lastId product with
  | .plain _, _ => .error (.ofRefusal .noPlaceForFoldedName)
  | .folded _, some refusal => .error (.ofRefusal refusal)
  | .folded entries, none =>
    let id := table.lastId + 1
    .ok { table with
      contents := .folded (entries ++ [newEntry id now product])
      lastId := id }

def Database.insert (now : Int) (database : Database) (product : NewProduct) :
    Except Fault Database :=
  match database.products with
  | none => .error (.ofRefusal .noTable)
  | some table =>
    (table.insert now product).map fun table => { database with products := some table }

/-- Adds products in order, all of them or none. -/
def Database.insertAll (now : Int) (database : Database) (products : List NewProduct) :
    Except Fault Database :=
  products.foldlM (Database.insert now) database

def Contents.clear : Contents → Contents
  | plain _ => plain []
  | folded _ => folded []

def Database.clear (database : Database) : Except Fault (Nat × Database) :=
  match database.products with
  | none => .error (.ofRefusal .noTable)
  | some table =>
    .ok (table.rows.length,
      { database with products := some { table with contents := table.contents.clear } })

end ProductCatalog.Store
