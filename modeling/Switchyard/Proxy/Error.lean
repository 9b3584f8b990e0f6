/-
How forwarding fails, and what the client is told.
-/
import Switchyard.Duration
import Switchyard.Http.Message

namespace Switchyard

/-- Why one exchange with a backend failed. -/
inductive TransportError where
  /-- The connection failed. -/
  | network (message : String)
  /-- No answer arrived in time. -/
  | timeout (limit : Duration)
  /-- The request could not be made. -/
  | request (message : String)
deriving DecidableEq, Repr

namespace TransportError

def message : TransportError → String
  | network m => "network error: " ++ m
  | timeout d => "backend did not respond within " ++ d.text
  | request m => "request failed: " ++ m

/-- Another attempt may go better. -/
def isRetryable : TransportError → Bool
  | network _ | timeout _ => true
  | request _ => false

end TransportError

/-- Why a request was not answered by a backend. -/
inductive ProxyError where
  | noUsableBackends
  | backendFailed (backend : String) (source : TransportError)
  | invalidRequest (message : String)
  | payloadTooLarge (limit : Nat)
deriving DecidableEq, Repr

namespace ProxyError

def message : ProxyError → String
  | noUsableBackends => "No backend available"
  | backendFailed backend source => "Backend " ++ backend ++ " failed: " ++ source.message
  | invalidRequest m => "Invalid request: " ++ m
  | payloadTooLarge limit => "Request body exceeds " ++ toString limit ++ " bytes"

/-- The status the client is answered with. -/
def status : ProxyError → Nat
  | noUsableBackends => 503
  | backendFailed _ (.timeout _) => 504
  | backendFailed _ _ => 502
  | invalidRequest _ => 400
  | payloadTooLarge _ => 413

/-- The text the client is answered with. -/
def notice : ProxyError → String
  | noUsableBackends => "No backend available"
  | backendFailed _ (.timeout _) => "Gateway timeout"
  | backendFailed _ _ => "Bad gateway"
  | invalidRequest _ => "Bad request"
  | payloadTooLarge _ => "Payload too large"

/-- The answer to the client. -/
def response (e : ProxyError) : Http.Response := .plain e.status e.notice

end ProxyError

end Switchyard
