import ProductCatalog.Query.Comparison
import ProductCatalog.Query.Parameters

/-! Conditions on products. A filter is a list of conditions that must all hold. -/

namespace ProductCatalog.Query

inductive MatchValue where
  | flag (value : Bool)
  | text (value : String)
deriving DecidableEq, Repr

inductive Predicate where
  | equals (field : Field) (value : MatchValue)
  /-- The needle occurs in the name, without regard to case. It is literal text. -/
  | nameContains (needle : String)
  | compares (comparison : Comparison)
deriving DecidableEq

def Predicate.field : Predicate → Field
  | equals field _ => field
  | nameContains _ => .name
  | compares comparison => comparison.field.field

structure Filter where
  predicates : List Predicate := []
deriving DecidableEq

namespace Filter

/-- Only the text `true` asks for featured products; any other asks for the rest. -/
def featuredPredicates (value : String) : List Predicate :=
  [.equals .featured (.flag (value = "true"))]

def companyPredicates (value : String) : List Predicate :=
  [.equals .company (.text value)]

def namePredicates (value : String) : List Predicate :=
  [.nameContains value]

def numericPredicates (value : String) : List Predicate :=
  (comparisons value.toList).map .compares

def ofParameters (parameters : Parameters) : Filter where
  predicates :=
    ((present parameters.featured).map featuredPredicates).getD [] ++
    ((present parameters.company).map companyPredicates).getD [] ++
    ((present parameters.name).map namePredicates).getD [] ++
    ((present parameters.numericFilters).map numericPredicates).getD []

end Filter

end ProductCatalog.Query
