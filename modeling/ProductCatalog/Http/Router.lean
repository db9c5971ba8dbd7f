import ProductCatalog.Catalog.Service
import ProductCatalog.Http.Coding
import ProductCatalog.Http.Description
import ProductCatalog.Http.DocumentationPage
import ProductCatalog.Http.Origin
import ProductCatalog.Http.Request
import ProductCatalog.Http.Response

/-! Answers to requests. Each path has one resource, which can be got or asked for its headers; the
choice of a coding and the rules on origins are the same for all of them. -/

namespace ProductCatalog.Http

open Json (Value)

inductive Resource where
  | description
  | documentation
  | health
  | products
  | featured
deriving DecidableEq, Repr

/-- The resource at a path, which is compared as it is written. -/
def Resource.ofPath? (path : List Char) : Option Resource :=
  match String.ofList path with
  | "/api/openapi.json" => some description
  | "/api/docs" | "/api/docs/" => some documentation
  | "/api/v1/health" => some health
  | "/api/v1/products" => some products
  | "/api/v1/products/static" => some featured
  | _ => none

def featuredJson (records : List Value) : Value :=
  .record [("products", .list records), ("nbHits", .integer records.length)]

/-- The body of a listing; `total` counts the products on all pages. -/
def productsJson (records : List Value) (total : Nat) : Value :=
  .record [("products", .list records), ("nbHits", .integer records.length),
    ("totalHits", .integer total)]

def healthJson (reachable : Bool) : Value :=
  .record [("status", .text (if reachable then "ok" else "unavailable")),
    ("version", .text Description.version), ("database", .flag reachable)]

def reply {α : Type} (toJson : α → Value) : Except Store.Fault α → Response
  | .ok value => .json 200 (toJson value)
  | .error fault => (Failure.ofStore fault).response

namespace Resource

/-- What getting a resource answers. Nothing in the store is changed by it. -/
def get (connection : Store.Connection) (request : Request) : Resource → Response
  | description => .json 200 Description.document
  | documentation => .html documentationPage
  | health => .json (if connection.isOpen then 200 else 503) (healthJson connection.isOpen)
  | products =>
    reply (fun (listing : Catalog.Listing) =>
        productsJson (listing.records.map Record.toJson) listing.total)
      (Catalog.list (.ofPairs request.pairs) connection).1
  | featured =>
    reply (fun (listing : Catalog.Listing) => featuredJson (listing.records.map Record.toJson))
      (Catalog.featured connection).1

end Resource

def allowHeader : String × String :=
  ("allow", "GET,HEAD")

def isRead (method : String) : Bool :=
  method = "GET" ∨ method = "HEAD"

def plainResponse (connection : Store.Connection) (request : Request) : Response :=
  match Resource.ofPath? request.target.path with
  | none => Failure.noRoute.response
  | some resource =>
    if isRead request.method then resource.get connection request else { status := 405 }

/-- The least size of a body that is worth compressing, in bytes. -/
def minCompressedSize : Nat := 32

/-- Chooses the coding of the body, if it is large enough for the choice to matter. -/
def encodeBody (request : Request) (response : Response) : Response :=
  if response.body.utf8ByteSize < minCompressedSize then response
  else
    let response := response.addHeader "vary" "accept-encoding"
    match Coding.choose (request.header "accept-encoding") with
    | .identity => response
    | .gzip => response.addHeader "content-encoding" "gzip"

/-- The origins that can be the value of a header. The others are never answered. -/
def headerValues (origins : List String) : List String :=
  origins.filter fun origin => origin.toList.all isHeaderChar

def shareWith (origins : List String) (request : Request) (response : Response) : Response :=
  let response := response.addHeader "vary"
    "origin, access-control-request-method, access-control-request-headers"
  match (request.header "origin").head? with
  | some origin =>
    if origin ∈ headerValues origins then
      response.addHeader "access-control-allow-origin" origin
    else response
  | none => response

/-- The answer to a browser that asks what it may do. -/
def preflightResponse : Response where
  status := 200
  headers := [("access-control-allow-methods", "GET,HEAD,OPTIONS"),
    ("access-control-allow-headers", "content-type,accept,origin")]

/-- Names the methods that a resource knows, where the one that was asked for is not among them. -/
def nameMethods (request : Request) (response : Response) : Response :=
  if (Resource.ofPath? request.target.path).isSome && !isRead request.method then
    { response with headers := response.headers ++ [allowHeader] }
  else response

/-- The length of a body is given unless it is compressed on the way. -/
def giveLength (response : Response) : Response :=
  if response.headers.any (·.1 = "content-encoding") then response
  else response.addHeader "content-length" (toString response.body.utf8ByteSize)

def dropBody (request : Request) (response : Response) : Response :=
  if request.method = "HEAD" then { response with body := "" } else response

def respond (connection : Store.Connection) (origins : List String) (request : Request) :
    Response :=
  let response :=
    if request.method = "OPTIONS" then preflightResponse
    else encodeBody request (plainResponse connection request)
  dropBody request (giveLength (nameMethods request (shareWith origins request response)))

end ProductCatalog.Http
