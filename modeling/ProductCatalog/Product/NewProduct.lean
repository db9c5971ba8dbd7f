import ProductCatalog.Decimal.Binary
import ProductCatalog.Json.Decode
import ProductCatalog.Product.Field
import ProductCatalog.Time.Reading

/-! Products that are to be added: how they are read from JSON, and what is required of them. -/

namespace ProductCatalog

def defaultRating : Float := 4.5

structure NewProduct where
  name : String
  price : Float
  rating : Float := defaultRating
  company : String
  featured : Bool := false
  /-- Milliseconds since the start of 1970; the time of the load where it is absent. -/
  createdAt : Option Int := none
deriving DecidableEq

def companies : List String :=
  ["ikea", "liddy", "caressa", "marcos"]

inductive Violation where
  | unsupportedCompany (company : String)
  | nameLength
  | negativePrice
deriving DecidableEq, Repr

namespace Violation

def field : Violation → Field
  | unsupportedCompany _ => .company
  | nameLength => .name
  | negativePrice => .price

def code : Violation → String
  | unsupportedCompany _ => "company_unsupported"
  | nameLength => "length"
  | negativePrice => "range"

def message : Violation → String
  | unsupportedCompany company =>
    s!"{company} is not supported (expected one of: " ++ ", ".intercalate companies ++ ")"
  | nameLength => "name must be 1-100 characters"
  | negativePrice => "price must not be negative"

def describe (violation : Violation) : String :=
  violation.field.label ++ ": " ++ violation.message

end Violation

def checkCompany (company : String) : List Violation :=
  if company ∈ companies then [] else [.unsupportedCompany company]

def checkName (name : String) : List Violation :=
  if 1 ≤ name.length ∧ name.length ≤ 100 then [] else [.nameLength]

def checkPrice (price : Float) : List Violation :=
  if Decimal.isLess price 0.0 then [.negativePrice] else []

def NewProduct.violations (product : NewProduct) : List Violation :=
  checkCompany product.company ++ checkName product.name ++ checkPrice product.price

namespace NewProduct

structure Given where
  name : Option String := none
  price : Option Float := none
  rating : Option Float := none
  company : Option String := none
  featured : Option Bool := none
  createdAt : Option (Option Int) := none

def expected : String := "struct NewProduct"

def instant (node : Json.Node) : Except Json.Fault Int :=
  match node with
  | .text parts => do
    let text ← Json.decodeParts parts
    (Time.readInstant text.toList).mapError fun fault => .meaningless fault.message
  | node => .error (node.reject "an RFC 3339 formatted date and time string")

/-- Takes in a field; one that is not known is passed over. -/
def Given.take (key : String) (given : Given) (node : Json.Node) : Except Json.Fault Given :=
  match Field.ofLabel? key with
  | some .name =>
    Json.Node.once key given.name Json.Node.toText
      (fun value => { given with name := value }) node
  | some .price =>
    Json.Node.once key given.price Json.Node.toNumber
      (fun value => { given with price := value }) node
  | some .rating =>
    Json.Node.once key given.rating Json.Node.toNumber
      (fun value => { given with rating := value }) node
  | some .company =>
    Json.Node.once key given.company Json.Node.toText
      (fun value => { given with company := value }) node
  | some .featured =>
    Json.Node.once key given.featured Json.Node.toFlag
      (fun value => { given with featured := value }) node
  | some .createdAt =>
    Json.Node.once key given.createdAt (Json.Node.optional instant)
      (fun value => { given with createdAt := some value }) node
  | some .id | none => node.pass.map fun _ => given

def required {α : Type} (name : String) (value : Option α) : Except Json.Fault α :=
  match value with
  | some value => .ok value
  | none => .error (.missingField name)

/-- The product that the given fields make, with defaults for those that may be left out. -/
def Given.complete (given : Given) : Except Json.Fault NewProduct := do
  let name ← required "name" given.name
  let price ← required "price" given.price
  let company ← required "company" given.company
  return {
    name, price, company
    rating := given.rating.getD defaultRating
    featured := given.featured.getD false
    createdAt := given.createdAt.getD none }

/-- Reads a product from a record, or from a list of its fields in order. -/
def ofNode : Json.Node → Except Json.Fault NewProduct
  | .record members ending => do
    let given ← Json.Node.foldMembers Given.take {} members
    Json.Node.keepEnding ending
    given.complete
  | .list items ending => do
    let absent {α : Type} (position : Nat) : Except Json.Fault α :=
      .error (.invalidLength position (expected ++ " with 6 elements"))
    let name ← Json.Node.item items ending 0 Json.Node.toText (absent 0)
    let price ← Json.Node.item items ending 1 Json.Node.toNumber (absent 1)
    let rating ← Json.Node.item items ending 2 Json.Node.toNumber (.ok defaultRating)
    let company ← Json.Node.item items ending 3 Json.Node.toText (absent 3)
    let featured ← Json.Node.item items ending 4 Json.Node.toFlag (.ok false)
    let createdAt ← Json.Node.item items ending 5 (Json.Node.optional instant) (.ok none)
    Json.Node.endOfItems items ending 6
    return { name, price, rating, company, featured, createdAt }
  | node => .error (node.reject expected)

def ofJson (text : String) : Except Json.Fault NewProduct :=
  Json.decode ofNode text

end NewProduct

end ProductCatalog
