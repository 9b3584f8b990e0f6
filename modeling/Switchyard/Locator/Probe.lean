/-
Backends that are asked for their health on every discovery.

Each target has a window of its latest response times; their mean is its metric.  A failed probe leaves
the window as it is and marks the target unhealthy.
-/
import Switchyard.Ieee.Decimal
import Switchyard.Locator.Network
import Switchyard.Log

namespace Switchyard

/-- Targets, what is asked of them, and the response times seen. -/
structure Probe where
  targets : List Endpoint
  path : String
  timeout : Duration
  /-- How many response times are kept of a target; at least one is. -/
  window : Nat
  /-- Response times by backend, oldest first. -/
  times : List ((String × String) × List Double)

namespace Probe

/-- A probe that has not been used. -/
def start (targets : List Endpoint) (path : String) (timeout : Duration) (window : Nat) : Probe :=
  ⟨targets, path, timeout, max window 1, []⟩

/-- How a target answered. -/
inductive Outcome where
  /-- Success, after some milliseconds. -/
  | success (elapsed : Double)
  | failure (cause : String)

/-! ## Response times -/

/-- The response times of a target. -/
def timesOf (p : Probe) (target : Endpoint) : List Double := (p.times.lookup target.identity).getD []

/-- The latest entries. -/
def latest (n : Nat) (xs : List Double) : List Double := xs.drop (xs.length - n)

/-- Sets the entry of a key. -/
def setTimes (key : String × String) (xs : List Double) :
    List ((String × String) × List Double) → List ((String × String) × List Double)
  | [] => [(key, xs)]
  | (k, ys) :: rest => if k = key then (k, xs) :: rest else (k, ys) :: setTimes key xs rest

/-- Adds a response time of a target and forgets those outside the window. -/
def record (p : Probe) (target : Endpoint) (elapsed : Double) : Probe :=
  { p with times := setTimes target.identity (latest p.window (p.timesOf target ++ [elapsed])) p.times }

/-- The metric that response times make. -/
def summarize (xs : List Double) : History :=
  if xs.isEmpty then {} else { samples := xs.length, value := some (Double.mean xs) }

/-! ## Rounds -/

/-- Takes note of how one target answered, and describes the target. -/
def note (p : Probe) (target : Endpoint) : Outcome → Probe × Endpoint × Event
  | .success elapsed =>
    let p := p.record target elapsed
    (p, { target with healthy := true, history := summarize (p.timesOf target) },
      .debug ("Probe of " ++ target.backend ++ " took "
        ++ String.ofList (elapsed.fixedPlaces 1) ++ "ms"))
  | .failure cause =>
    (p, { target with healthy := false, history := summarize (p.timesOf target) },
      .warn ("Probe of " ++ target.backend ++ " failed: Some(\"" ++ cause ++ "\")"))

/-- Takes note of how all targets answered, in order. -/
def round (p : Probe) : List (Endpoint × Outcome) → Probe × List Endpoint × List Event
  | [] => (p, [], [])
  | (target, outcome) :: rest =>
    let (p, e, event) := p.note target outcome
    let (p, es, events) := p.round rest
    (p, e :: es, event :: events)

/-- The URL that is asked for a target's health. -/
def urlOf (p : Probe) (target : Endpoint) : String := target.backend ++ p.path

/-- Asks one target. -/
def ask (net : Network) (p : Probe) (target : Endpoint) : Outcome :=
  match net.fetch (p.urlOf target) p.timeout with
  | .ok page =>
    if 200 ≤ page.status ∧ page.status < 300 then .success page.elapsed
    else .failure ("HTTP " ++ toString page.status)
  | .error e => .failure e.message

/-- Asks all targets. -/
def discover (net : Network) (p : Probe) : Probe × List Endpoint × List Event :=
  p.round (p.targets.map fun target => (target, p.ask net target))

end Probe

end Switchyard
