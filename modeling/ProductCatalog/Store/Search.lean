import ProductCatalog.Store.Condition
import ProductCatalog.Store.Order

/-! Searches: one page of the products that pass a filter, and how many pass it in all. -/

namespace ProductCatalog.Store

open Query (Filter Policy)

/-- The part of a sorted list that a policy asks for. -/
def page (policy : Policy) (rows : List Row) : List Row :=
  (rows.drop (min policy.offset.toNat Query.maxSkip)).take policy.limit.toNat

/-- The products in the order and with the fields that a policy asks for, one page of them. -/
def present (policy : Policy) (rows : List Row) : List Record :=
  (page policy (sortBy policy.orderKeys rows)).map (·.project policy.projection.fields)

def Database.find (database : Database) (filter : Filter) (policy : Policy) :
    Except Fault (List Record) :=
  (database.select filter).map (present policy)

def Database.count (database : Database) (filter : Filter) : Except Fault Nat :=
  (database.select filter).map List.length

end ProductCatalog.Store
