/-! The origins of pages that may read what the server answers: those that the server itself could
have sent, and those of a development server on the next port. -/

namespace ProductCatalog.Http

def isAllInterfaces (host : String) : Bool :=
  host == "0.0.0.0" || host == "::" || host == "[::]"

def isLocal (host : String) : Bool :=
  isAllInterfaces host || host == "127.0.0.1" || host == "localhost"

/-- The port of a development server. The last port has none after it. -/
def developmentPort (port : UInt16) : UInt16 :=
  if port = 65535 then 65535 else port + 1

def originHosts (host : String) : List String :=
  if isLocal host then ["localhost", "127.0.0.1"] else [host]

def hostOrigins (port : UInt16) (host : String) : List String :=
  let page := "http://" ++ host
  [s!"{page}:{port}", s!"{page}:" ++ toString (developmentPort port), page]

/-- The origins that are allowed by a server at a host and a port. -/
def allowedOrigins (host : String) (port : UInt16) : List String :=
  (originHosts host).flatMap (hostOrigins port)

end ProductCatalog.Http
