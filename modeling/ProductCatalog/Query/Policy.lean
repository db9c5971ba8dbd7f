import ProductCatalog.Decimal.Reading
import ProductCatalog.Product.Field
import ProductCatalog.Query.Parameters
import ProductCatalog.Text.Blank

/-! How the products that were found are presented: in which order, with which fields, and which
page of them. Text that makes no sense never fails a request, it only leaves the default in place.
-/

namespace ProductCatalog.Query

inductive Direction where
  | ascending
  | descending
deriving DecidableEq, Repr

/-- One criterion of an order. Later keys decide between products that earlier ones do not tell
apart. -/
structure SortKey where
  field : Field
  direction : Direction := .ascending
deriving DecidableEq, Repr

inductive Projection where
  | all
  | only (fields : List Field)
deriving DecidableEq, Repr

def Projection.fields : Projection → List Field
  | all => Field.all
  | only fields => fields

/-- Pages are counted from one. -/
structure Policy where
  sort : List SortKey := [⟨.createdAt, .ascending⟩]
  projection : Projection := .all
  page : UInt32 := 1
  limit : UInt32 := 10
deriving DecidableEq, Repr

def defaultSort : List SortKey :=
  [⟨.createdAt, .ascending⟩]

/-- The key that a trimmed piece names. A minus directly before the name reverses the order. -/
def sortKey? : List Char → Option SortKey
  | '-' :: name => (Field.ofLabel? (String.ofList name)).map (⟨·, .descending⟩)
  | name => (Field.ofLabel? (String.ofList name)).map (⟨·, .ascending⟩)

def addSortKey (keys : List SortKey) (key : SortKey) : List SortKey :=
  if keys.any (·.field = key.field) then keys else keys ++ [key]

/-- The keys that the pieces of a text name, the first for each field. -/
def namedSortKeys (text : List Char) : List SortKey :=
  ((Text.trimmedPieces ',' text).filterMap sortKey?).foldl addSortKey []

def readSort (text : List Char) : List SortKey :=
  match namedSortKeys text with
  | [] => defaultSort
  | keys => keys

def namedFields (text : List Char) : List Field :=
  (Text.trimmedPieces ',' text).filterMap fun name => Field.ofLabel? (String.ofList name)

/-- The fields that are named, in schema order; all of them when none is. -/
def readProjection (text : List Char) : Projection :=
  match namedFields text with
  | [] => .all
  | named => .only (Field.all.filter (· ∈ named))

/-- A natural number below `2 ^ 32`: decimal digits, and a plus before them if wanted. -/
def readWord? (text : List Char) : Option UInt32 :=
  let digits := match text with
    | '+' :: rest => rest
    | _ => text
  let value := Decimal.digitsValue digits
  if digits ≠ [] ∧ digits.all Decimal.isDigit ∧ value < UInt32.size then some (UInt32.ofNat value)
  else none

def readPositive (value : Option String) (default : UInt32) : UInt32 :=
  match value.bind fun text => readWord? (Text.trim text.toList) with
  | none => default
  | some number => if number = 0 then default else number

namespace Policy

def ofParameters (parameters : Parameters) : Policy where
  sort := ((present parameters.sort).map fun text => readSort text.toList).getD defaultSort
  projection :=
    ((present parameters.fields).map fun text => readProjection text.toList).getD .all
  page := readPositive (present parameters.page) 1
  limit := readPositive (present parameters.limit) 10

/-- The featured products are shown by name and price, the first four by age. -/
def featured : Policy where
  projection := .only [.name, .price]
  limit := 4

def offset (policy : Policy) : UInt64 :=
  (policy.page - min policy.page 1).toUInt64 * policy.limit.toUInt64

/-- The keys that order the products: those of the policy, and the identity last of all, which makes
the order total and pages the same whenever they are asked for. -/
def orderKeys (policy : Policy) : List SortKey :=
  if policy.sort.any (·.field = .id) then policy.sort
  else policy.sort ++ [⟨.id, .ascending⟩]

end Policy

end ProductCatalog.Query
