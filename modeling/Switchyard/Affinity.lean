/-
Keeping clients on the backend they were first sent to.

`resolve` chooses the endpoint of a request and may drop a binding that can no longer be honoured;
`commit` binds the client once the backend has answered; `prune` drops every binding that a rule cannot
honour.  A lookup and the removal after it are two steps, so that they can be interleaved.
-/
import Switchyard.Affinity.Bindings
import Switchyard.Affinity.Option
import Switchyard.Duration
import Switchyard.Log
import Switchyard.Rule

namespace Switchyard

/-- How a client's binding took part in a choice. -/
inductive AffinityOutcome where
  /-- The request has no client key. -/
  | unbound
  /-- The binding was honoured. -/
  | hit
  /-- The client had no binding. -/
  | miss
  /-- The binding had expired or its backend is not selected any more. -/
  | stale
deriving DecidableEq, Repr

def AffinityOutcome.label : AffinityOutcome → String
  | .unbound => "unbound"
  | .hit => "hit"
  | .miss => "miss"
  | .stale => "stale"

/-- The endpoint chosen for a request. -/
structure Resolution where
  endpoint : Endpoint
  outcome : AffinityOutcome
deriving DecidableEq, Repr

/-- The client is to be bound to the endpoint. -/
def Resolution.isNew (r : Resolution) : Bool :=
  match r.outcome with
  | .miss | .stale => true
  | _ => false

/-- Where identities are read from and how long bindings last. -/
structure Affinity where
  options : List AffinityOption
  ttl : Option Duration

namespace Affinity

/-! ## Bindings that can be honoured -/

/-- The binding is as old as bindings may get, or older. -/
def isExpired (a : Affinity) (now : Nat) (b : Binding) : Bool :=
  a.ttl.any fun ttl => ttl.nanos ≤ now - b.boundAt

/-- The binding has not expired and its backend belongs to the rule. -/
def isUsable (a : Affinity) (now : Nat) (rule : Rule) (b : Binding) : Bool :=
  rule.contains b.endpoint && !a.isExpired now b

/-! ## Steps of a choice -/

/-- What a lookup finds for a key. -/
inductive Lookup where
  | usable (binding : Binding)
  | unusable (binding : Binding)
  | nothing
deriving DecidableEq

/-- Looks a key up. -/
def lookup (a : Affinity) (bindings : Bindings) (now : Nat) (rule : Rule) (key : String) : Lookup :=
  match bindings.get? key with
  | none => .nothing
  | some b => if a.isUsable now rule b then .usable b else .unusable b

/-- Drops the binding of a key unless it has become usable. -/
def dropUnusable (a : Affinity) (bindings : Bindings) (now : Nat) (rule : Rule) (key : String) :
    Bindings :=
  bindings.removeIf key fun b => !a.isUsable now rule b

/-- What a choice leaves behind. -/
structure Choice where
  resolution : Resolution
  bindings : Bindings
  cursor : Cursor
  events : List Event

/-- Chooses the endpoint of a request. -/
def resolve (a : Affinity) (bindings : Bindings) (cursor : Cursor) (now : Nat) (rule : Rule)
    (key : Option String) : Choice :=
  let picked := rule.pick cursor
  match key with
  | none => ⟨⟨picked.1, .unbound⟩, bindings, picked.2, []⟩
  | some key =>
    match a.lookup bindings now rule key with
    | .usable b => ⟨⟨b.endpoint, .hit⟩, bindings, cursor, []⟩
    | .unusable b =>
      ⟨⟨picked.1, .stale⟩, a.dropUnusable bindings now rule key, picked.2,
        [.debug ("Dropping stale binding " ++ key ++ " -> " ++ b.endpoint.backend)]⟩
    | .nothing => ⟨⟨picked.1, .miss⟩, bindings, picked.2, []⟩

/-- Binds a client to the endpoint chosen for it, if the choice was new. -/
def commit (bindings : Bindings) (now : Nat) (key : String) (r : Resolution) : Bindings × List Event :=
  if r.isNew then
    (bindings.insert key ⟨r.endpoint, now⟩,
      [.debug ("Bound " ++ key ++ " -> " ++ r.endpoint.backend)])
  else (bindings, [])

/-- Drops every binding that cannot be honoured under a rule, all of them when there is none. -/
def prune (a : Affinity) (bindings : Bindings) (now : Nat) : Option Rule → Bindings
  | some rule => bindings.keepIf fun _ b => a.isUsable now rule b
  | none => Bindings.empty

/-- The key of the client that sent a request. -/
def clientKey (a : Affinity) (headers : Http.Headers) (peer : Option Net.SocketAddr) : Option String :=
  AffinityOption.firstKey a.options headers peer

end Affinity

end Switchyard
