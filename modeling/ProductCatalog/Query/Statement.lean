import ProductCatalog.Query.Filter
import ProductCatalog.Query.Policy
import ProductCatalog.Text.Like
import ProductCatalog.Text.Lowercase

/-! Queries as statements of the store's language. Names and signs in a statement come from fixed
lists; what a client wrote goes along beside it as values, one for each question mark. -/

namespace ProductCatalog.Query

inductive BoundValue where
  | text (value : String)
  | real (value : Float)
  | integer (value : Int)
deriving DecidableEq

structure Statement where
  text : String
  values : List BoundValue
deriving DecidableEq

def foldedNameColumn : String := "name_folded"

def needlePattern (needle : String) : String :=
  String.ofList (Text.Like.containing (Text.lowercase needle.toList))

/-- The condition, and the values with those that it binds at their end. -/
def Predicate.render (values : List BoundValue) : Predicate → Statement
  | equals field (.flag true) => ⟨field.column ++ " = TRUE", values⟩
  | equals field (.flag false) => ⟨field.column ++ " = FALSE", values⟩
  | equals field (.text text) => ⟨field.column ++ " = ?", values ++ [.text text]⟩
  | nameContains needle =>
    ⟨foldedNameColumn ++ " LIKE ? ESCAPE '\\'", values ++ [.text (needlePattern needle)]⟩
  | compares comparison =>
    ⟨comparison.field.field.column ++ " " ++ comparison.comparator.symbol ++ " ?",
      values ++ [.real comparison.value]⟩

def renderEach (values : List BoundValue) : List Predicate → List String × List BoundValue
  | [] => ([], values)
  | predicate :: rest =>
    let first := predicate.render values
    let (texts, values) := renderEach first.values rest
    (first.text :: texts, values)

/-- The condition of a whole filter; one without predicates holds of everything. -/
def Filter.render (filter : Filter) (values : List BoundValue) : Statement :=
  if filter.predicates = [] then ⟨"1=1", values⟩
  else
    let (texts, values) := renderEach values filter.predicates
    ⟨" AND ".intercalate texts, values⟩

def SortKey.render (key : SortKey) : String :=
  key.field.column ++ match key.direction with
    | .ascending => " ASC"
    | .descending => " DESC"

def Policy.renderOrder (policy : Policy) : String :=
  ", ".intercalate (policy.orderKeys.map SortKey.render)

def maxSkip : Nat := 0x7FFFFFFFFFFFFFFF

/-- The statement that finds one page of the products that pass a filter. -/
def findStatement (filter : Filter) (policy : Policy) : Statement :=
  let condition := filter.render []
  { text := "SELECT id, name, price, rating, company, featured, created_at FROM products WHERE " ++
      condition.text ++ " ORDER BY " ++ policy.renderOrder ++ " LIMIT ? OFFSET ?"
    values := condition.values ++
      [.integer policy.limit.toNat, .integer (min policy.offset.toNat maxSkip)] }

def countStatement (filter : Filter) : Statement :=
  let condition := filter.render []
  { text := "SELECT COUNT(*) FROM products WHERE " ++ condition.text, values := condition.values }

end ProductCatalog.Query
