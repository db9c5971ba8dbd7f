import ProductCatalog.Json.Value

/-! The description of the interface for programs that use it. -/

namespace ProductCatalog.Http.Description

open Json (Value)

def version : String := "1.0.0"

def schema (name : String) : Value :=
  .record [("$ref", .text ("#/components/schemas/" ++ name))]

def describedAs (description : String) : Value :=
  .record [("description", .text description)]

def response (description : String) (body : Value) : Value :=
  .record [("description", .text description),
    ("content", .record [("application/json", .record [("schema", body)])])]

def parameter (name description : String) : Value :=
  .record [("name", .text name), ("in", .text "query"), ("description", .text description),
    ("required", .flag false), ("schema", .record [("type", .text "string")])]

/-- The response of a listing that the store failed to give. -/
def storeFailure : String × Value :=
  ("500", describedAs "Store failure")

def health : Value :=
  .record [("get", .record [
    ("tags", .list [.text "health"]),
    ("summary", .text "Health check endpoint"),
    ("operationId", .text "health"),
    ("responses", .record [
      ("200", response "Service is healthy" (schema "HealthResponse")),
      ("503", response "Product store unreachable" (schema "HealthResponse"))])])]

def productsText : String :=
  "Invalid values never fail the request: unknown fields and malformed\n" ++
  "numeric clauses are ignored, bad page numbers fall back to defaults, and\n" ++
  "only the first value of a repeated parameter is used."

def parameters : Value :=
  .list [
    parameter "featured" "\"true\" for featured products, anything else for the rest",
    parameter "company" "Exact company match",
    parameter "name" "Case-insensitive substring of the name",
    parameter "sort" "Comma-separated fields, '-' prefix for descending (default createdAt)",
    parameter "fields" "Comma-separated fields to return",
    parameter "numericFilters" "Comparisons on price or rating, e.g. price>50,rating>=4",
    parameter "page" "Page number, 1-based (default 1)",
    parameter "limit" "Page size (default 10)"]

def products : Value :=
  .record [("get", .record [
    ("tags", .list [.text "products"]),
    ("summary", .text "List products with filtering, sorting, projection and pagination"),
    ("description", .text productsText),
    ("operationId", .text "list_products"),
    ("parameters", parameters),
    ("responses", .record [
      ("200", response "Matching products" (schema "ProductsResponse")), storeFailure])])]

def featured : Value :=
  .record [("get", .record [
    ("tags", .list [.text "products"]),
    ("summary",
      .text "Featured products: name and price of the first four products by creation time"),
    ("operationId", .text "list_featured"),
    ("responses", .record [
      ("200", response "Featured products" (schema "FeaturedProductsResponse")), storeFailure])])]

/-- The members of a type, all of them required, in the order of `required`. -/
def object (description : List (String × Value)) (required : List String)
    (properties : List (String × Value)) : Value :=
  .record ([("type", .text "object")] ++ description ++
    [("required", .list (required.map .text)), ("properties", .record properties)])

def amount (description : String) : Value :=
  .record [("type", .text "integer"), ("description", .text description), ("minimum", .integer 0)]

def largeAmount (description : String) : Value :=
  .record [("type", .text "integer"), ("format", .text "int64"), ("description", .text description),
    ("minimum", .integer 0)]

def anyProducts (description : String) : Value :=
  .record [("type", .text "array"), ("items", .record [("type", .text "object")]),
    ("description", .text description)]

def text : Value :=
  .record [("type", .text "string")]

def schemas : Value :=
  .record [
    ("FeaturedProductsResponse", object [("description", .text "Static featured listing")]
      ["products", "nbHits"] [
        ("nbHits", amount "Number of products in this response"),
        ("products", anyProducts "Products with only `name` and `price`")]),
    ("HealthResponse", object [] ["status", "version", "database"] [
      ("database", .record [("type", .text "boolean"),
        ("description", .text "Whether the product store answered")]),
      ("status", text), ("version", text)]),
    ("ProductsResponse", object [("description", .text "Filtered product listing")]
      ["products", "nbHits", "totalHits"] [
        ("nbHits", amount "Number of products in this page"),
        ("products", anyProducts "Projected products of the requested page"),
        ("totalHits",
          largeAmount "Number of products matching the filters across all pages")])]

def tag (name description : String) : Value :=
  .record [("name", .text name), ("description", .text description)]

def document : Value :=
  .record [
    ("openapi", .text "3.1.0"),
    ("info", .record [("title", .text "Catalog API"),
      ("description", .text "Product catalog queries"),
      ("license", .record [("name", .text "")]), ("version", .text version)]),
    ("paths", .record [("/api/v1/health", health), ("/api/v1/products", products),
      ("/api/v1/products/static", featured)]),
    ("components", .record [("schemas", schemas)]),
    ("tags", .list [tag "health" "Health check endpoint",
      tag "products" "Product listing and search"])]

end ProductCatalog.Http.Description
