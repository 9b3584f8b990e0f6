/-
What requests are dispatched by, and how a selection pass changes it.

`RouterState.transition` is the merge policy: a selection that is not empty is published, an empty one
clears the rule, and a failed pass that found nothing leaves what is known in place.
-/
import Switchyard.Rule
import Switchyard.Selection

namespace Switchyard

/-- The published outcome of a pass and the rule in force, always published together. -/
structure RouterState where
  selection : Option Selection := none
  rule : Option Rule := none

namespace RouterState

/-- The admitted endpoints of the published pass. -/
def admitted (s : RouterState) : List Endpoint := (s.selection.map (·.admitted)).getD []

/-- What a pass does to the published state. -/
inductive Transition where
  /-- Publish a new selection with a new rule. -/
  | install (next : RouterState)
  /-- Publish a new outcome under the rule in force, or under none. -/
  | replace (next : RouterState)
  /-- Publish nothing. -/
  | keep

/-- There is a rule and it was made for the same backends in the same order. -/
def isUnchanged (s : RouterState) (next : Selection) : Bool :=
  s.rule.isSome && s.selection.any fun current => Endpoint.sameAll current.admitted next.admitted

/-- What a pass does to a state. -/
def transition (s : RouterState) (next : Selection) (strategy : Strategy) : Transition :=
  if !next.admitted.isEmpty then
    if s.isUnchanged next then .replace ⟨some next, s.rule⟩
    else .install ⟨some next, Rule.of? next.admitted strategy⟩
  else if next.error.isSome && s.selection.isSome then .keep
  else .replace ⟨some next, none⟩

/-- The state after a pass. -/
def after (s : RouterState) (next : Selection) (strategy : Strategy) : RouterState :=
  match s.transition next strategy with
  | .install t => t
  | .replace t => t
  | .keep => s

end RouterState

end Switchyard
