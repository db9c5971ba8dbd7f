/-! The fields of a product, their names in requests and answers, and their columns in the store. -/

namespace ProductCatalog

inductive Field where
  | id
  | name
  | price
  | rating
  | company
  | featured
  | createdAt
deriving DecidableEq, Repr

namespace Field

def all : List Field :=
  [id, name, price, rating, company, featured, createdAt]

def label : Field → String
  | id => "id"
  | name => "name"
  | price => "price"
  | rating => "rating"
  | company => "company"
  | featured => "featured"
  | createdAt => "createdAt"

def column : Field → String
  | createdAt => "created_at"
  | field => field.label

def ofLabel? (label : String) : Option Field :=
  all.find? (·.label = label)

end Field

inductive NumericField where
  | price
  | rating
deriving DecidableEq, Repr

namespace NumericField

def field : NumericField → Field
  | price => .price
  | rating => .rating

def all : List NumericField :=
  [price, rating]

def ofLabel? (label : String) : Option NumericField :=
  all.find? (·.field.label = label)

end NumericField

end ProductCatalog
