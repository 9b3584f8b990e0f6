/-
A summary of the router at one point in time.
-/
import Switchyard.Json.Value
import Switchyard.Router

namespace Switchyard

/-- What the router shows of itself. -/
structure Status where
  /-- Every endpoint found by the last published pass. -/
  candidates : List Endpoint
  /-- The admitted endpoints. -/
  endpoints : List Endpoint
  strategy : String
  strategyDescription : String
  comparisonMetric : String
  affinityOptions : String
  interval : Duration
  error : Option String
  /-- When the published pass was made, in nanoseconds. -/
  refreshedAt : Option Nat
  ruleInstallations : Nat
  bindings : Nat

namespace Status

/-- The summary of a router. -/
def of (r : Router) : Status :=
  { candidates := (r.state.selection.map (·.candidates)).getD []
    endpoints := r.state.admitted
    strategy := r.strategy.name
    strategyDescription := r.strategy.description
    comparisonMetric := r.strategy.metric
    affinityOptions := ", ".intercalate (r.affinity.options.map (·.text))
    interval := r.interval
    error := (r.state.selection.bind (·.error)).map (·.message)
    refreshedAt := r.state.selection.map (·.madeAt)
    ruleInstallations := r.installs
    bindings := r.bindings.size }

/-- The interval in seconds. -/
def intervalSeconds (s : Status) : Double := s.interval.asDouble

end Status

open Json (Value)

/-- The document that shows an endpoint. -/
def Endpoint.document (e : Endpoint) : Value :=
  .record
    [("scheme", .text e.scheme), ("authority", .text e.authority), ("healthy", .flag e.healthy),
     ("history", .record
       [("samples", .natural e.history.samples), ("value", .ofOption .double e.history.value)])]

/-- The document that shows a summary; `stamp` writes a point in time. -/
def Status.document (stamp : Nat → String) (s : Status) : Value :=
  .record
    [("candidates", .list (s.candidates.map Endpoint.document)),
     ("endpoints", .list (s.endpoints.map Endpoint.document)),
     ("strategy", .text s.strategy),
     ("strategy_description", .text s.strategyDescription),
     ("comparison_metric", .text s.comparisonMetric),
     ("affinity_options", .text s.affinityOptions),
     ("interval_secs", .double s.intervalSeconds),
     ("error", .ofOption .text s.error),
     ("refreshed_at", .ofOption (fun t => .text (stamp t)) s.refreshedAt),
     ("rule_installations", .natural s.ruleInstallations),
     ("bindings", .natural s.bindings)]

end Switchyard
