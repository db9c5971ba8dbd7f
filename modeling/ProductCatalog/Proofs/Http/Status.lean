import ProductCatalog.Http.Router

/-! The status of a response. Codings, origins, lengths and missing bodies make no difference to it.
-/

namespace ProductCatalog.Http

theorem status_addHeader (name value : String) (response : Response) :
    (response.addHeader name value).status = response.status := rfl

theorem status_encodeBody (request : Request) (response : Response) :
    (encodeBody request response).status = response.status := by
  unfold encodeBody
  split
  · rfl
  · cases Coding.choose (request.header "accept-encoding") <;> rfl

theorem status_shareWith (origins : List String) (request : Request) (response : Response) :
    (shareWith origins request response).status = response.status := by
  unfold shareWith
  split
  · split <;> rfl
  · rfl

theorem status_nameMethods (request : Request) (response : Response) :
    (nameMethods request response).status = response.status := by
  unfold nameMethods
  split <;> rfl

theorem status_giveLength (response : Response) :
    (giveLength response).status = response.status := by
  unfold giveLength
  split
  · rfl
  · exact status_addHeader _ _ response

theorem status_dropBody (request : Request) (response : Response) :
    (dropBody request response).status = response.status := by
  unfold dropBody
  split <;> rfl

/-- What a resource answers decides about the status. -/
theorem status_respond (connection : Store.Connection) (origins : List String) {request : Request}
    (asks : request.method ≠ "OPTIONS") :
    (respond connection origins request).status = (plainResponse connection request).status := by
  simp only [respond, if_neg asks, status_dropBody, status_giveLength, status_nameMethods,
    status_shareWith, status_encodeBody]

/-- The status that tells how a step over a connection went. -/
def outcomeStatus {α : Type} : Except Store.Fault α → Nat
  | .ok _ => 200
  | .error fault => if fault.isTransient then 503 else 500

theorem status_reply {α : Type} (toJson : α → Json.Value) (outcome : Except Store.Fault α) :
    (reply toJson outcome).status = outcomeStatus outcome := by
  cases outcome with
  | ok value => rfl
  | error fault =>
      change (Failure.ofData (.ofFault fault)).response.status =
        if (Store.DataFault.ofFault fault).isTransient then 503 else 500
      rw [Failure.ofData]
      split <;> rfl

/-- The request for the products that a query asks for. -/
def productsRequest (query : Option (List Char)) (headers : List (String × String)) : Request where
  method := "GET"
  target := ⟨"/api/v1/products".toList, query⟩
  headers := headers

theorem status_productsRequest (connection : Store.Connection) (origins : List String)
    (query : Option (List Char)) (headers : List (String × String)) :
    (respond connection origins (productsRequest query headers)).status =
      outcomeStatus
        (Catalog.list (.ofPairs (productsRequest query headers).pairs) connection).1 := by
  have asks : (productsRequest query headers).method ≠ "OPTIONS" := by
    change "GET" ≠ "OPTIONS"
    decide
  have answer : plainResponse connection (productsRequest query headers) =
      Resource.products.get connection (productsRequest query headers) := rfl
  rw [status_respond connection origins asks, answer, Resource.get, status_reply]

end ProductCatalog.Http
