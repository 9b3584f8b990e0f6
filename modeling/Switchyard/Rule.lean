/-
The rule requests are dispatched by: an admitted selection, never empty, and its strategy.
-/
import Switchyard.Ieee.Decimal
import Switchyard.Strategy

namespace Switchyard

/-- A selection with at least one endpoint, and the strategy that picks from it. -/
structure Rule where
  selection : List Endpoint
  strategy : Strategy
  selection_ne_nil : selection ≠ []

namespace Rule

/-- The rule over a selection; there is none over an empty one. -/
def of? (selection : List Endpoint) (strategy : Strategy) : Option Rule :=
  if h : selection = [] then none else some ⟨selection, strategy, h⟩

theorem selection_of? {selection : List Endpoint} {strategy : Strategy} {rule : Rule}
    (h : of? selection strategy = some rule) :
    rule.selection = selection ∧ rule.strategy = strategy := by
  unfold of? at h
  split at h
  · simp at h
  · simp only [Option.some.injEq] at h
    subst h
    exact ⟨rfl, rfl⟩

/-- The backend of an endpoint belongs to the rule. -/
def contains (r : Rule) (e : Endpoint) : Bool := Endpoint.holds r.selection e

/-- The endpoint that serves when no other is picked. -/
def first (r : Rule) : Endpoint := r.selection.head r.selection_ne_nil

/-- The endpoint for the next request, and the cursor after it. -/
def pick (r : Rule) (cursor : Cursor) : Endpoint × Cursor :=
  let (i, cursor) := r.strategy.next r.selection cursor
  (r.selection[i]?.getD r.first, cursor)

/-- A pick is always one of the selection. -/
theorem pick_mem (r : Rule) (cursor : Cursor) : (r.pick cursor).1 ∈ r.selection := by
  simp only [pick]
  cases h : r.selection[(r.strategy.next r.selection cursor).1]? with
  | none => simp [first]
  | some e => simpa using List.mem_of_getElem? h

/-! ## Text -/

/-- How numbers are written in descriptions. -/
def numberStyle : Double.NumberStyle := { least := -4, most := 16, plus := "" }

/-- A number, or what stands for one that is not finite. -/
def describeNumber (x : Double) : String :=
  if x.isNaN then "NaN"
  else if x.isFinite then String.ofList (x.write numberStyle)
  else if x.negative then "-inf" else "inf"

/-- A text in quotes, with quotes and backslashes escaped. -/
def quoted (s : String) : String :=
  "\"" ++ String.ofList (s.toList.flatMap fun c => if c = '"' ∨ c = '\\' then ['\\', c] else [c]) ++ "\""

/-- Fields in braces after the name of their type. -/
def describeFields (type : String) (fields : List (String × String)) : String :=
  type ++ " \x7b " ++ ", ".intercalate (fields.map fun f => f.1 ++ ": " ++ f.2) ++ " \x7d"

/-- Every field of an endpoint. -/
def describeEndpoint (e : Endpoint) : String :=
  describeFields "Endpoint"
    [("scheme", quoted e.scheme), ("authority", quoted e.authority), ("healthy", toString e.healthy),
     ("history", describeFields "MetricHistory"
       [("samples", toString e.history.samples),
        ("value", match e.history.value with
          | some x => "Some(" ++ describeNumber x ++ ")"
          | none => "None")])]

/-- Every field of a rule. -/
def describe (r : Rule) : String :=
  describeFields "RewriteRule"
    [("selection", "[" ++ ", ".intercalate (r.selection.map describeEndpoint) ++ "]"),
     ("strategy", quoted r.strategy.name)]

end Rule

end Switchyard
