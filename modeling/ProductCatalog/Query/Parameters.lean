/-! What a client may ask for. Every value is text as it came, and an empty one asks for nothing. -/

namespace ProductCatalog.Query

structure Parameters where
  featured : Option String := none
  company : Option String := none
  name : Option String := none
  sort : Option String := none
  fields : Option String := none
  numericFilters : Option String := none
  page : Option String := none
  limit : Option String := none
deriving DecidableEq, Repr

def present (value : Option String) : Option String :=
  value.filter (· ≠ "")

/-- Keeps the first value of every key that is known, and passes over all other pairs. -/
def Parameters.ofPairs (pairs : List (String × String)) : Parameters where
  featured := pairs.lookup "featured"
  company := pairs.lookup "company"
  name := pairs.lookup "name"
  sort := pairs.lookup "sort"
  fields := pairs.lookup "fields"
  numericFilters := pairs.lookup "numericFilters"
  page := pairs.lookup "page"
  limit := pairs.lookup "limit"

def Parameters.entries (parameters : Parameters) : List (String × Option String) :=
  [("featured", parameters.featured), ("company", parameters.company), ("name", parameters.name),
   ("sort", parameters.sort), ("fields", parameters.fields),
   ("numericFilters", parameters.numericFilters), ("page", parameters.page),
   ("limit", parameters.limit)]

def Parameters.presentKeys (parameters : Parameters) : List String :=
  (parameters.entries.filter fun entry => (present entry.2).isSome).map (·.1)

end ProductCatalog.Query
