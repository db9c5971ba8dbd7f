import ProductCatalog.Http.Router
import ProductCatalog.Proofs.Http.Target
import ProductCatalog.Proofs.Query.Parameters

/-! The way of a query from a client to the listing that it asks for. -/

namespace ProductCatalog.Http

/-- The target of a request with pairs in its query. -/
def targetWith (uri : String) (pairs : List (String × String)) : String :=
  uri ++ "?" ++ String.ofList (Form.encode pairs)

theorem ofParts?_targetWith {method uri : String} {headers : List (String × String)}
    {request : Request} (made : Request.ofParts? method uri headers = some request)
    (rooted : request.target.path.head? = some '/') (bare : request.target.query = none)
    (whole : '#' ∉ uri.toList) {pairs : List (String × String)}
    (fits : (targetWith uri pairs).utf8ByteSize ≤ Target.maxSize) :
    Request.ofParts? method (targetWith uri pairs) headers =
      some { request with target.query := some (Form.encode pairs) } := by
  simp only [Request.ofParts?, Option.ite_none_right_eq_some] at made
  obtain ⟨legal, made⟩ := made
  obtain ⟨target, read, rfl⟩ := Option.map_eq_some_iff.mp made
  have asked := Target.ofText?_query read rooted bare whole
    (fun c member => Target.isQueryChar_of_mem_encode member) fits
  rw [Request.ofParts?, if_pos legal, targetWith, asked]
  rfl

theorem size_of_ofParts? {method target : String} {headers : List (String × String)}
    {request : Request} (made : Request.ofParts? method target headers = some request) :
    target.utf8ByteSize ≤ Target.maxSize := by
  simp only [Request.ofParts?, Option.ite_none_right_eq_some] at made
  obtain ⟨-, made⟩ := made
  obtain ⟨_, read, -⟩ := Option.map_eq_some_iff.mp made
  simp only [Target.ofText?, Option.ite_none_left_eq_some] at read
  exact Nat.not_lt.mp read.1

theorem get_of_agree (resource : Resource) (connection : Store.Connection)
    {first second : Request} (agree : Query.Parameters.Agree first.pairs second.pairs) :
    resource.get connection first = resource.get connection second := by
  cases resource with
  | products => simp only [Resource.get, Query.Parameters.list_of_agree agree]
  | description => rfl
  | documentation => rfl
  | health => rfl
  | featured => rfl

/-- Apart from its query a request is answered for its method, its path and its headers. -/
theorem respond_of_agree (connection : Store.Connection) (origins : List String)
    {first second : Request} (same_method : first.method = second.method)
    (same_path : first.target.path = second.target.path)
    (same_headers : first.headers = second.headers)
    (agree : Query.Parameters.Agree first.pairs second.pairs) :
    respond connection origins first = respond connection origins second := by
  have plain : plainResponse connection first = plainResponse connection second := by
    simp only [plainResponse, same_path, same_method, get_of_agree _ connection agree]
  simp only [respond, encodeBody, shareWith, nameMethods, dropBody, Request.header, plain,
    same_method, same_path, same_headers]

/-- Pairs arrive as they were sent whenever they fit behind a target with a path; of them the first
value of each known key is kept and nothing else, and requests of which these values are the same
are answered alike. -/
theorem pairs_arrive {method uri : String} {headers : List (String × String)} {request : Request}
    (made : Request.ofParts? method uri headers = some request)
    (rooted : request.target.path.head? = some '/') (bare : request.target.query = none)
    (whole : '#' ∉ uri.toList) :
    (∀ pairs, (targetWith uri pairs).utf8ByteSize ≤ Target.maxSize →
      ∃ asked, Request.ofParts? method (targetWith uri pairs) headers = some asked ∧
        asked.method = request.method ∧ asked.headers = request.headers ∧
        asked.target.path = request.target.path ∧ asked.pairs = pairs) ∧
    (∀ pairs key value, (key, some value) ∈ (Query.Parameters.ofPairs pairs).entries ↔
      key ∈ Query.Parameters.keys ∧ Query.IsFirstValue pairs key value) ∧
    ∀ first second, Query.Parameters.Agree first second →
      Catalog.list (.ofPairs first) = Catalog.list (.ofPairs second) ∧
      ∀ connection origins asked_first asked_second,
        Request.ofParts? method (targetWith uri first) headers = some asked_first →
        Request.ofParts? method (targetWith uri second) headers = some asked_second →
        respond connection origins asked_first = respond connection origins asked_second := by
  have arrives (pairs : List (String × String))
      (fits : (targetWith uri pairs).utf8ByteSize ≤ Target.maxSize) :=
    ofParts?_targetWith made rooted bare whole fits
  refine ⟨?_, ?_, ?_⟩
  · intro pairs fits
    exact ⟨_, arrives pairs fits, rfl, rfl, rfl, Form.decode_encode pairs⟩
  · intro pairs key value
    exact Query.Parameters.mem_entries_ofPairs
  · intro first second agree
    refine ⟨Query.Parameters.list_of_agree agree, ?_⟩
    intro connection origins asked_first asked_second made_first made_second
    cases made_first.symm.trans (arrives first (size_of_ofParts? made_first))
    cases made_second.symm.trans (arrives second (size_of_ofParts? made_second))
    refine respond_of_agree connection origins rfl rfl rfl ?_
    simp only [Request.pairs, Option.getD_some, Form.decode_encode]
    exact agree

theorem pairs_arrive_products :
    ∃ asked, Request.ofParts? "GET" (targetWith "/api/v1/products"
        [("name", "Café & Söhne"), ("sort", ""), ("name", "+=%"), ("", "")]) [] = some asked ∧
      asked.pairs = [("name", "Café & Söhne"), ("sort", ""), ("name", "+=%"), ("", "")] ∧
      Catalog.list (.ofPairs asked.pairs) = Catalog.list (.ofPairs [("name", "Café & Söhne")]) := by
  have made : Request.ofParts? "GET" "/api/v1/products" [] =
      some { target := ⟨"/api/v1/products".toList, none⟩ } := by decide +kernel
  obtain ⟨arrive, -, alike⟩ := pairs_arrive made (by decide) rfl (by decide)
  obtain ⟨asked, asked_made, -, -, -, pairs⟩ := arrive
    [("name", "Café & Söhne"), ("sort", ""), ("name", "+=%"), ("", "")] (by decide +kernel)
  refine ⟨asked, asked_made, pairs, ?_⟩
  rw [pairs]
  exact (alike _ _ (by decide +kernel)).1

end ProductCatalog.Http
