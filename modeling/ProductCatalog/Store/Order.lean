import ProductCatalog.Decimal.Binary
import ProductCatalog.Product.Row
import ProductCatalog.Query.Policy

/-! The order of products. Texts are ordered by code points, numbers by value, and products that are
not featured come before those that are. -/

namespace ProductCatalog.Store

open Query (SortKey)

def compareByField : Field → Row → Row → Ordering
  | .id => compareOn Row.id
  | .name => compareOn Row.name
  | .price => compareOn fun row => Decimal.rank row.price
  | .rating => compareOn fun row => Decimal.rank row.rating
  | .company => compareOn Row.company
  | .featured => compareOn Row.featured
  | .createdAt => compareOn Row.createdAt

def compareByKey (key : SortKey) (left right : Row) : Ordering :=
  match key.direction with
  | .ascending => compareByField key.field left right
  | .descending => compareByField key.field right left

def compareByKeys : List SortKey → Row → Row → Ordering
  | [], _, _ => .eq
  | key :: rest, left, right => (compareByKey key left right).then (compareByKeys rest left right)

/-- Sorts products. Those that no key tells apart stay in order. -/
def sortBy (keys : List SortKey) (rows : List Row) : List Row :=
  rows.mergeSort fun left right => (compareByKeys keys left right).isLE

end ProductCatalog.Store
