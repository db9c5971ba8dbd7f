import ProductCatalog.Json.Value
import ProductCatalog.Store.Fault

/-! Responses, and the form in which failures are reported. Of a failure of the store a client
learns only whether it may pass. -/

namespace ProductCatalog.Http

structure Response where
  status : Nat
  headers : List (String × String) := []
  /-- The body as it is read. It may be sent in compressed form. -/
  body : String := ""
deriving DecidableEq, Repr

namespace Response

def addHeader (name value : String) (response : Response) : Response :=
  { response with headers := response.headers ++ [(name, value)] }

def json (status : Nat) (value : Json.Value) : Response where
  status := status
  headers := [("content-type", "application/json")]
  body := value.toText

def html (page : String) : Response where
  status := 200
  headers := [("content-type", "text/html; charset=utf-8")]
  body := page

end Response

inductive Failure where
  | badRequest (code message : String)
  | notFound (code message : String)
  | unavailable (message : String)
  | internal (message : String)
deriving DecidableEq, Repr

namespace Failure

def status : Failure → Nat
  | badRequest _ _ => 400
  | notFound _ _ => 404
  | unavailable _ => 503
  | internal _ => 500

def kind : Failure → String
  | badRequest _ _ => "bad_request"
  | notFound _ _ => "not_found"
  | unavailable _ => "service_unavailable"
  | internal _ => "internal_error"

def code : Failure → String
  | badRequest code _ | notFound code _ => code
  | unavailable _ => "SERVICE_UNAVAILABLE"
  | internal _ => "INTERNAL"

def message : Failure → String
  | badRequest _ message | notFound _ message | unavailable message | internal message => message

def response (failure : Failure) : Response :=
  .json failure.status (.record [("error", .text failure.kind), ("code", .text failure.code),
    ("message", .text failure.message)])

/-- Nothing of a fault is passed on but whether it may pass. -/
def ofData (fault : Store.DataFault) : Failure :=
  if fault.isTransient then unavailable "Database temporarily unavailable"
  else internal "Database operation failed"

def ofStore (fault : Store.Fault) : Failure :=
  ofData (.ofFault fault)

def noRoute : Failure :=
  notFound "NOT_FOUND" "Route does not exist"

end Failure

end ProductCatalog.Http
