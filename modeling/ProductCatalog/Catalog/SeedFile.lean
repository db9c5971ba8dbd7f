import ProductCatalog.Files.Tree
import ProductCatalog.Product.NewProduct

/-! Files with products to be loaded: a list of them in JSON. One product with a fault spoils the
whole file. -/

namespace ProductCatalog.Catalog

inductive SeedFault where
  | unreadable (path : Files.Path) (fault : Files.Fault)
  | malformed (path : Files.Path) (fault : Json.Fault)
  | invalid (index : Nat) (product : NewProduct)
deriving DecidableEq

namespace SeedFault

def message : SeedFault → String
  | unreadable path _ => "Failed to read seed file: " ++ path.text
  | malformed path _ => "Invalid JSON in seed file: " ++ path.text
  | invalid index product => s!"Invalid product at index {index} ({product.name})"

def cause : SeedFault → String
  | unreadable _ fault => fault.message
  | malformed _ fault => fault.message
  | invalid _ product => "\n".intercalate (product.violations.map Violation.describe)

end SeedFault

def productsOfNode : Json.Node → Except Json.Fault (List NewProduct)
  | .list items ending => do
    let products ← items.mapM NewProduct.ofNode
    Json.Node.keepEnding ending
    return products
  | node => .error (node.reject "a sequence")

/-- The first product with something wrong about it is a fault; `index` is the position of the first
of all. -/
def checkProducts (index : Nat) : List NewProduct → Except SeedFault Unit
  | [] => .ok ()
  | product :: rest =>
    if product.violations = [] then checkProducts (index + 1) rest
    else .error (.invalid index product)

def readSeedFile (files : Files.Tree) (current path : Files.Path) :
    Except SeedFault (List NewProduct) := do
  let text ← (files.readText current path).mapError (.unreadable path)
  let products ← (Json.decode productsOfNode text).mapError (.malformed path)
  checkProducts 0 products
  return products

end ProductCatalog.Catalog
