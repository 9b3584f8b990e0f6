/-
How requests reach backends.
-/
import Switchyard.Proxy.Error

namespace Switchyard

/-- One exchange with a backend; `τ` is what the transport remembers. -/
structure Transport (τ : Type) where
  exchange : Http.Outgoing → τ → Except TransportError Http.Response × τ

namespace Transport

/-- Whether a request says which backend it is for.  A request for a tunnel needs no scheme. -/
def isAddressed (out : Http.Outgoing) : Bool :=
  !out.uri.authority.isEmpty && (out.uri.scheme.isSome || out.method = "CONNECT")

/-- A transport that reaches no backend, for the given cause. -/
def unreachable (τ : Type) (cause : String) : Transport τ :=
  ⟨fun out memory =>
    (.error (if isAddressed out then .network cause else .request "client requires absolute-form URIs"),
      memory)⟩

end Transport

end Switchyard
