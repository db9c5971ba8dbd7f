import ProductCatalog.Proofs.Http.Status

/-! What a client is told when the store fails. It is one of two fixed responses, one for the faults
of the connection to the engine, which pass by themselves, and one for all others; what was asked
for, what is stored and what the fault says make no difference. -/

namespace ProductCatalog.Http

open Store (Connection DataFault Fault)

inductive Passes : Fault → Prop
  | timedOut : Passes (.engine .timedOut)
  | closed : Passes (.engine .closed)
  | disconnected (detail : String) : Passes (.engine (.disconnected detail))

theorem isTransient_iff_passes (fault : Fault) :
    (DataFault.ofFault fault).isTransient = true ↔ Passes fault := by
  constructor
  · intro transient
    rcases fault with fault | ⟨version, name, reason⟩ | reason
    · cases fault with
      | timedOut => exact Passes.timedOut
      | closed => exact Passes.closed
      | disconnected detail => exact Passes.disconnected detail
      | _ => cases transient
    · cases transient
    · cases transient
  · intro passes
    cases passes <;> rfl

def failureResponse (transient : Bool) : Response where
  status := if transient then 503 else 500
  headers := [("content-type", "application/json")]
  body :=
    if transient then
      "\x7b\"error\":\"service_unavailable\",\"code\":\"SERVICE_UNAVAILABLE\"," ++
        "\"message\":\"Database temporarily unavailable\"\x7d"
    else
      "\x7b\"error\":\"internal_error\",\"code\":\"INTERNAL\"," ++
        "\"message\":\"Database operation failed\"\x7d"

theorem response_ofData (fault : DataFault) :
    (Failure.ofData fault).response = failureResponse fault.isTransient := by
  rw [Failure.ofData]
  cases fault.isTransient <;> decide +kernel

theorem reply_error {α : Type} (toJson : α → Json.Value) (fault : Fault) :
    reply toJson (.error fault) = failureResponse (DataFault.ofFault fault).isTransient :=
  response_ofData (.ofFault fault)

theorem failureResponse_inj {first second : Bool} :
    failureResponse first = failureResponse second ↔ first = second := by
  constructor
  · intro same
    have statuses := congrArg Response.status same
    cases first <;> cases second <;> simp [failureResponse] at statuses ⊢
  · intro same
    rw [same]

theorem status_failureResponse (transient : Bool) :
    ((failureResponse transient).status = 503 ↔ transient = true) ∧
      ((failureResponse transient).status = 500 ↔ ¬transient = true) := by
  cases transient <;> simp [failureResponse]

/-- The store cannot answer a request for products, or one for the featured products. -/
inductive Fails (connection : Connection) (request : Request) (fault : Fault) : Prop
  | products : Resource.ofPath? request.target.path = some .products →
      (Catalog.list (.ofPairs request.pairs) connection).1 = .error fault →
      Fails connection request fault
  | featured : Resource.ofPath? request.target.path = some .featured →
      (Catalog.featured connection).1 = .error fault → Fails connection request fault

namespace Fails

variable {first second : Connection} {asked again : Request} {left right : Fault}

theorem isSome_path (fails : Fails first asked left) :
    (Resource.ofPath? asked.target.path).isSome = true := by
  cases fails with
  | products path _ => simp [path]
  | featured path _ => simp [path]

theorem plainResponse_eq (fails : Fails first asked left) :
    plainResponse first asked =
      if isRead asked.method then failureResponse (DataFault.ofFault left).isTransient
      else { status := 405 } := by
  cases fails with
  | products path failed => simp only [plainResponse, path, Resource.get, failed, reply_error]
  | featured path failed => simp only [plainResponse, path, Resource.get, failed, reply_error]

/-- Of two failures alike neither the connections nor the queries can be told apart. -/
theorem respond_eq (fails : Fails first asked left) (failsAgain : Fails second again right)
    (alike : (DataFault.ofFault left).isTransient = (DataFault.ofFault right).isTransient)
    (method : asked.method = again.method) (headers : asked.headers = again.headers)
    (origins : List String) : respond first origins asked = respond second origins again := by
  have plain : plainResponse first asked = plainResponse second again := by
    rw [fails.plainResponse_eq, failsAgain.plainResponse_eq, alike, method]
  simp only [respond, encodeBody, shareWith, nameMethods, dropBody, Request.header, plain, method,
    headers, fails.isSome_path, failsAgain.isSome_path]

end Fails

/-- Failures of the store get the same response, to the last header, exactly if both pass by
themselves or neither does; it says with 503 that they do and with 500 that they do not. So the
answers to two requests for products that fail alike are the same, whatever the two stores hold and
whatever the two queries look for. -/
theorem failures_alike :
    (∀ left right : Fault,
      (Failure.ofData (.ofFault left)).response = (Failure.ofData (.ofFault right)).response ↔
        (DataFault.ofFault left).isTransient = (DataFault.ofFault right).isTransient) ∧
    (∀ fault : Fault,
      ((Failure.ofData (.ofFault fault)).response.status = 503 ↔ Passes fault) ∧
      ((Failure.ofData (.ofFault fault)).response.status = 500 ↔ ¬Passes fault)) ∧
    (∀ (toJson : Catalog.Listing → Json.Value) (fault : Fault),
      reply toJson (.error fault) = (Failure.ofData (.ofFault fault)).response) ∧
    ∀ (first second : Connection) (asked again : Request) (left right : Fault),
      Fails first asked left → Fails second again right →
      (DataFault.ofFault left).isTransient = (DataFault.ofFault right).isTransient →
      asked.method = again.method → asked.headers = again.headers →
      ∀ origins, respond first origins asked = respond second origins again := by
  refine ⟨?_, ?_, ?_, ?_⟩
  · intro left right
    rw [response_ofData, response_ofData, failureResponse_inj]
  · intro fault
    rw [response_ofData, ← isTransient_iff_passes]
    exact status_failureResponse _
  · intro toJson fault
    rfl
  · intro first second asked again left right fails failsAgain alike method headers origins
    exact fails.respond_eq failsAgain alike method headers origins

def vault : Row where
  id := 1
  name := "vault"
  price := 10.0
  rating := 4.5
  company := "ikea"
  featured := true
  createdAt := 0

theorem failures_alike_refused :
    let unfolded : Connection := { database := { products := some { contents := .plain [vault] } } }
    let missing : Connection := { database := {} }
    let named := productsRequest (some "name=vault".toList) []
    let featured := { named with target := ⟨"/api/v1/products/static".toList, none⟩ }
    Fails unfolded named (.ofRefusal .noFoldedName) ∧
      Fails missing featured (.ofRefusal .noTable) ∧
      respond unfolded [] named = respond missing [] featured := by
  intro unfolded missing named featured
  have pairs : named.pairs = [("name", "vault")] := by decide +kernel
  have unnamed : Fails unfolded named (.ofRefusal .noFoldedName) :=
    Fails.products (by decide +kernel) (by rw [pairs]; rfl)
  have absent : Fails missing featured (.ofRefusal .noTable) :=
    Fails.featured (by decide +kernel) rfl
  obtain ⟨_, _, _, routes⟩ := failures_alike
  exact ⟨unnamed, absent, routes _ _ _ _ _ _ unnamed absent rfl rfl rfl []⟩

end ProductCatalog.Http
