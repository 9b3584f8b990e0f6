/-
The side channel that shows counters and status.
-/
import Switchyard.Http.Message
import Switchyard.Metrics.Exposition
import Switchyard.Router.Status

namespace Switchyard

/-- Under which paths the side channel answers. -/
structure AdminPaths where
  metrics : String := "/metrics"
  status : String := "/status"
deriving DecidableEq, Repr

namespace Admin

/-- An answer with a document of some type. -/
def document (type : String) (body : String) : Http.Response :=
  { status := 200, headers := [("content-type", type)], body := body.toUTF8 }

/-- Answers a request; `stamp` writes a point in time. -/
def respond (paths : AdminPaths) (stamp : Nat → String) (r : Router) (method : String)
    (uri : Http.Uri) : Http.Response :=
  let path := String.ofList uri.path
  if method ≠ "GET" then .plain 405 "Method Not Allowed"
  else if path = paths.metrics then document "text/plain; version=0.0.4" r.metrics.text
  else if path = paths.status then
    document "application/json" ((Status.of r).document stamp).pretty
  else .plain 404 "Not Found"

end Admin

end Switchyard
