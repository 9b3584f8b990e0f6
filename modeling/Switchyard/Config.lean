/-
The configuration of a router.
-/
import Switchyard.Affinity
import Switchyard.Net.SocketAddr
import Switchyard.Retry
import Switchyard.Strategy

namespace Switchyard

/-- How long a client stays bound, and what it is told apart by. -/
structure AffinityConfig where
  options : List AffinityOption := []
  ttlSeconds : Option Nat := none
deriving DecidableEq, Repr

/-- Backends that are probed. -/
structure ProbeConfig where
  endpoints : List String := []
  path : String := "/"
  timeoutMillis : Nat := 2000
  window : Nat := 10
deriving DecidableEq, Repr

/-- Where backends are found. -/
inductive LocatorConfig where
  | static (endpoints : List String)
  | probe (p : ProbeConfig)
  | http (url : String) (timeoutMillis : Nat)
deriving DecidableEq, Repr

structure RetryConfig where
  maxAttempts : Nat := 2
  backoffBaseMillis : Nat := 0
  backoffMaxMillis : Nat := 0
deriving DecidableEq, Repr

structure ForwardConfig where
  timeoutMillis : Nat := 30000
  /-- The most bytes of a request body. -/
  maxBodyBytes : Nat := 10485760
deriving DecidableEq, Repr

structure MetricsConfig where
  enabled : Bool := true
  port : Nat := 9100
  path : String := "/metrics"
  statusPath : String := "/status"
deriving DecidableEq, Repr

/-- Everything that can be configured. -/
structure Config where
  listen : Net.SocketAddr := .v4 ⟨0, 0, 0, 0⟩ 8080
  refreshSeconds : Nat := 10
  strategy : Strategy := .random
  affinity : AffinityConfig := {}
  locators : List LocatorConfig := []
  retry : RetryConfig := {}
  forward : ForwardConfig := {}
  metrics : MetricsConfig := {}

namespace Config

/-- The time between refreshes. -/
def interval (c : Config) : Duration := .ofSeconds c.refreshSeconds

/-- How long a client stays bound. -/
def ttl (c : Config) : Option Duration := c.affinity.ttlSeconds.map .ofSeconds

/-- How requests are tried again. -/
def retryPolicy (c : Config) : RetryPolicy :=
  { maxAttempts := c.retry.maxAttempts
    base := .ofMillis c.retry.backoffBaseMillis
    cap := .ofMillis c.retry.backoffMaxMillis }

end Config

end Switchyard
