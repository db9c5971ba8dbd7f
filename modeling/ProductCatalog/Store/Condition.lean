import ProductCatalog.Query.Statement
import ProductCatalog.Store.Fault
import ProductCatalog.Store.Table

/-! Which products pass a filter. The conditions of a filter are tested in order, and those behind
the first that fails are not looked at. -/

namespace ProductCatalog.Store

open Query (Comparator Comparison Filter MatchValue Predicate)

/-- The comparison of two numbers. No comparison holds of a value that is no number. -/
def holdsBetween (left : Float) : Comparator → Float → Bool
  | .equal, right => Decimal.isSame left right
  | .greater, right => Decimal.isLess right left
  | .less, right => Decimal.isLess left right
  | .greaterOrEqual, right => Decimal.isLess right left || Decimal.isSame left right
  | .lessOrEqual, right => Decimal.isLess left right || Decimal.isSame left right

def numericValue (row : Row) : NumericField → Float
  | .price => row.price
  | .rating => row.rating

/-- Only flags can equal a flag, and only texts a text. -/
def equalsField (row : Row) : Field → MatchValue → Bool
  | .featured, .flag value => row.featured == value
  | .name, .text text => row.name == text
  | .company, .text text => row.company == text
  | _, _ => false

/-- The greatest length of a pattern, in bytes. -/
def maxPatternSize : Nat := 50000

/-- The least number of conditions that are too many for one statement. -/
def conditionLimit : Nat := 1000

/-- Whether an entry meets a condition. A pattern that is too long is noticed when it is first
tested. -/
def meets (entry : Entry) : Predicate → Except Fault Bool
  | .equals field value => .ok (equalsField entry.row field value)
  | .nameContains needle =>
    let pattern := Query.needlePattern needle
    if maxPatternSize < pattern.utf8ByteSize then .error (.ofRefusal .patternTooLong)
    else .ok (Text.Like.isMatch pattern.toList entry.foldedName.toList)
  | .compares comparison =>
    .ok (holdsBetween (numericValue entry.row comparison.field) comparison.comparator
      comparison.value)

def meetsAll (entry : Entry) : List Predicate → Except Fault Bool
  | [] => .ok true
  | predicate :: rest => do
    if ← meets entry predicate then meetsAll entry rest else return false

def needsFoldedName : Predicate → Bool
  | .nameContains _ => true
  | .equals _ _ | .compares _ => false

/-- The entries of a table. Where there are no names in lowercase, conditions that look at them are
refused, and to all others they do not matter. -/
def Contents.entriesFor (predicates : List Predicate) : Contents → Except Fault (List Entry)
  | folded entries => .ok entries
  | plain rows =>
    if predicates.any needsFoldedName then .error (.ofRefusal .noFoldedName)
    else .ok (plain rows).entries

/-- The products that pass a filter, in order of their identities. -/
def Database.select (database : Database) (filter : Filter) : Except Fault (List Row) := do
  if conditionLimit ≤ filter.predicates.length then throw (.ofRefusal .tooManyConditions)
  match database.products with
  | none => throw (.ofRefusal .noTable)
  | some table =>
    let entries ← table.contents.entriesFor filter.predicates
    let passing ← entries.filterM fun entry => meetsAll entry filter.predicates
    return passing.map (·.row)

end ProductCatalog.Store
