import ProductCatalog.Store.Connection

/-! What the catalog offers: listings of products, and the loading of new ones. -/

namespace ProductCatalog.Catalog

open Store (Action)

/-- One page of products, and how many pass the filter on all pages. -/
structure Listing where
  records : List Record
  total : Nat

def execute (filter : Query.Filter) (policy : Query.Policy) : Action Listing := do
  let records ← Store.find filter policy
  let total ← Store.count filter
  return { records, total }

def list (parameters : Query.Parameters) : Action Listing :=
  execute (.ofParameters parameters) (.ofParameters parameters)

def featured : Action Listing :=
  execute {} .featured

/-- Loads products, in place of those that are there unless they are to be kept. The old products
are removed in a step of its own, before any of the new ones is looked at. -/
def load (now : Int) (products : List NewProduct) (keep : Bool) : Action Nat := do
  if !keep then
    let _ ← Store.clear
  Store.insertAll now products

end ProductCatalog.Catalog
