import ProductCatalog.Http.Form
import ProductCatalog.Http.Target

/-! Requests. -/

namespace ProductCatalog.Http

/-- The names of headers are in lowercase. -/
structure Request where
  method : String := "GET"
  target : Target
  headers : List (String × String) := []
deriving DecidableEq, Repr

/-- The characters that methods and the names of headers are made of. -/
def isTokenChar (c : Char) : Bool :=
  c.isAlphanum || "!#$%&'*+-.^_`|~".toList.contains c

def isToken (text : String) : Bool :=
  text ≠ "" && text.toList.all isTokenChar

/-- The value of a header holds no control characters but tabs. -/
def isHeaderChar (c : Char) : Bool :=
  c == '\t' || (' ' ≤ c && c != '\x7f')

namespace Request

/-- The request with the given parts, if they can make up one. -/
def ofParts? (method target : String) (headers : List (String × String)) : Option Request :=
  if isToken method ∧
      headers.all fun header => isToken header.1 && header.2.toList.all isHeaderChar then
    (Target.ofText? target).map fun target =>
      { method, target
        headers := headers.map fun header => (header.1.map Char.toLower, header.2) }
  else none

def header (request : Request) (name : String) : List String :=
  (request.headers.filter (·.1 = name)).map (·.2)

def pairs (request : Request) : List (String × String) :=
  Form.decode (request.target.query.getD [])

end Request

end ProductCatalog.Http
