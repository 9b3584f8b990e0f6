/-
The router: locators, a strategy, the published state, and everything that goes with it.

A refresh is made of steps that callers may interleave: `Router.enter` takes the turn, `discover` asks
the locators, `apply` publishes a pass, and `leave` gives the turn back.  `refresh` runs them in a row.
Every operation returns the router it leaves behind and the events it reports.
-/
import Switchyard.Affinity
import Switchyard.Locator
import Switchyard.Metrics
import Switchyard.Router.Gate
import Switchyard.Router.State

namespace Switchyard

/-- How a call took part in a refresh. -/
inductive RefreshOutcome where
  /-- It ran the pass. -/
  | performed
  /-- It waited for the pass of another caller. -/
  | joined
deriving DecidableEq, Repr

structure Router where
  locators : List Locator
  strategy : Strategy
  affinity : Affinity
  interval : Duration
  state : RouterState := {}
  gate : Gate := {}
  bindings : Bindings := Bindings.empty
  cursor : Cursor := 0
  metrics : Metrics := {}
  /-- How often a new rule was installed. -/
  installs : Nat := 0

namespace Router

/-! ## Publishing a pass -/

/-- What is reported of a pass as such. -/
def passEvent (next : Selection) : Event :=
  match next.admitted, next.error with
  | [], some e => .error ("Selector returned no valid selection, and error: " ++ e.message)
  | [], none => .warn "Selector returned no valid selection"
  | _, some e => .warn ("Selection completed with errors: " ++ e.message)
  | es, none => .debug ("Selected targets: " ++ Endpoint.describe es)

/-- What is reported of a change of the published state. -/
def transitionEvent (current : RouterState) : RouterState.Transition → Event
  | .install next =>
    .info ("New targets differ from current selection [" ++ Endpoint.describe current.admitted
      ++ "]; installing rewrite rule => [" ++ Endpoint.describe next.admitted ++ "]")
  | .replace next =>
    if next.rule.isSome then
      .debug ("Selection is unchanged: [" ++ Endpoint.describe next.admitted ++ "]")
    else .info "No backends available; cleared rewrite rule"
  | .keep => .warn ("Keeping last known selection [" ++ Endpoint.describe current.admitted ++ "]")

/-- Publishes what a transition says, and counts an installation. -/
def publish (r : Router) : RouterState.Transition → Router
  | .install next =>
    { r with state := next, installs := r.installs + 1, metrics := r.metrics.recordInstall }
  | .replace next => { r with state := next }
  | .keep => r

/-- Drops the bindings that the rule in force cannot honour. -/
def prune (r : Router) (now : Nat) : Router × List Event :=
  let kept := r.affinity.prune r.bindings now r.state.rule
  let removed := r.bindings.size - kept.size
  ({ r with bindings := kept },
    if removed = 0 then [] else [.debug ("Pruned " ++ toString removed ++ " affinity bindings")])

/-- Publishes a pass. -/
def apply (r : Router) (next : Selection) (now : Nat) : Router × List Event :=
  let t := r.state.transition next r.strategy
  let events := [passEvent next, transitionEvent r.state t]
  let r := r.publish t
  let r := { r with metrics := r.metrics.recordSelection next.admitted.length next.error.isSome }
  let (r, pruned) := r.prune now
  (r, events ++ pruned)

/-! ## Steps of a refresh -/

/-- Takes the turn, or a place among those who wait. -/
def enter (r : Router) : Gate.Entry × Router × List Event :=
  let (entry, gate) := r.gate.enter
  let event := match entry with
    | .writer => Event.debug "Got selection turn; performing selection"
    | .waiter _ => Event.debug "Selection is already in progress; awaiting result"
  (entry, { r with gate }, [event])

/-- Asks all locators. -/
def discover (net : Network) (r : Router) : List Found × Router × List Event :=
  let (found, locators, events) := Locator.discoverAll net r.locators
  (found, { r with locators }, events)

/-- Merges what was found and publishes it. -/
def adopt (r : Router) (found : List Found) (now : Nat) : Router × List Event :=
  let (r', events) := r.apply (Selection.make r.strategy found now) now
  (r', Selection.events r.strategy found ++ events)

/-- Gives the turn back; nothing else changes. -/
def leave (r : Router) : Router := { r with gate := r.gate.release }

/-- A whole refresh by one caller, which waits if another holds the turn. -/
def refresh (net : Network) (r : Router) (now : Nat) : RefreshOutcome × Router × List Event :=
  match r.enter with
  | (.waiter _, r, events) => (.joined, r, events)
  | (.writer, r, entered) =>
    let (found, r, asked) := r.discover net
    let (r, adopted) := r.adopt found now
    (.performed, r.leave,
      entered ++ asked ++ adopted ++ [.debug "Returning selection turn"])

end Router

end Switchyard
