/-
A selection pass: what the locators found, merged, and what the strategy admits of it.
-/
import Switchyard.Locator.Error
import Switchyard.Log
import Switchyard.Strategy

namespace Switchyard

/-- The answer of one locator. -/
structure Found where
  locator : String
  answer : Except LocatorError (List Endpoint)

/-- The endpoints a locator brings. -/
def Found.endpoints (f : Found) : List Endpoint :=
  match f.answer with
  | .ok es => es
  | .error _ => []

/-- How a locator failed, after its name. -/
def Found.failure? (f : Found) : Option String :=
  match f.answer with
  | .ok _ => none
  | .error e => some (f.locator ++ ": " ++ e.message)

/-- What is reported of a locator's answer. -/
def Found.event (f : Found) : Event :=
  match f.answer with
  | .ok es => .debug ("Locator " ++ f.locator ++ " found " ++ toString es.length ++ " endpoints")
  | .error e => .error ("Locator " ++ f.locator ++ " failed: " ++ e.message)

/-- What went wrong in a pass. -/
inductive SelectionError where
  | discovery (failures : List String)
  | strategy (name message : String)
  /-- Some locators failed, and the strategy rejected what the others found. -/
  | discoveryAndStrategy (failures : List String) (name message : String)
deriving DecidableEq, Repr

namespace SelectionError

def discoveryText (failures : List String) : String := "discovery failed: " ++ "; ".intercalate failures

def strategyText (name message : String) : String := "strategy " ++ name ++ " failed: " ++ message

def message : SelectionError → String
  | discovery failures => discoveryText failures
  | strategy name message => strategyText name message
  | discoveryAndStrategy failures name message =>
    discoveryText failures ++ "; " ++ strategyText name message

end SelectionError

/-- The outcome of a pass. -/
structure Selection where
  /-- Everything found, each backend once. -/
  candidates : List Endpoint
  /-- What the strategy admits. -/
  admitted : List Endpoint
  error : Option SelectionError
  /-- When the pass was made, in nanoseconds. -/
  madeAt : Nat

namespace Selection

/-- The first occurrence of each backend, in order. -/
def distinct : List Endpoint → List Endpoint
  | [] => []
  | e :: es => e :: (distinct es).filter fun other => !other.same e

/-- The candidates of a pass. -/
def merge (found : List Found) : List Endpoint := distinct (found.flatMap Found.endpoints)

/-- The failures of a pass. -/
def failures (found : List Found) : List String := found.filterMap Found.failure?

/-- The outcome of a pass over what the locators found. -/
def make (strategy : Strategy) (found : List Found) (now : Nat) : Selection :=
  let candidates := merge found
  let failures := failures found
  match strategy.select candidates with
  | .ok admitted =>
    ⟨candidates, admitted, if failures.isEmpty then none else some (.discovery failures), now⟩
  | .error e =>
    let error := if failures.isEmpty then SelectionError.strategy strategy.name e.message
      else .discoveryAndStrategy failures strategy.name e.message
    ⟨candidates, [], some error, now⟩

/-- What is reported of a pass. -/
def events (strategy : Strategy) (found : List Found) : List Event :=
  found.map Found.event ++
    match strategy.select (merge found) with
    | .ok _ => []
    | .error e =>
      [.error ("Strategy " ++ strategy.name ++ " rejected the candidates: " ++ e.message)]

end Selection

end Switchyard
