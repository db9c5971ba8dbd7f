import ProductCatalog.Json.Value
import ProductCatalog.Product.Field
import ProductCatalog.Time.Instant

/-! Products as they are stored and as they are shown. -/

namespace ProductCatalog

structure Row where
  id : Int
  name : String
  price : Float
  rating : Float
  company : String
  featured : Bool
  /-- Milliseconds since the start of 1970. -/
  createdAt : Int
deriving DecidableEq

/-- A product as it is shown: some of its fields with their values, in order. -/
abbrev Record := List (Field × Json.Value)

namespace Row

/-- The value of a field as it is shown. An instant that has no text is shown as null. -/
def value (row : Row) : Field → Json.Value
  | .id => .integer row.id
  | .name => .text row.name
  | .price => .number row.price
  | .rating => .number row.rating
  | .company => .text row.company
  | .featured => .flag row.featured
  | .createdAt =>
    match Time.writeInstant? row.createdAt with
    | some text => .text (String.ofList text)
    | none => .null

/-- The given fields of a product. A field that is repeated keeps its first place. -/
def project (row : Row) (fields : List Field) : Record :=
  fields.eraseDups.map fun field => (field, row.value field)

end Row

def Record.toJson (record : Record) : Json.Value :=
  .record (record.map fun entry => (entry.1.label, entry.2))

end ProductCatalog
