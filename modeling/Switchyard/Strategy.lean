/-
Strategies: which candidates are admitted, and which admitted endpoint serves the next request.

A strategy is a value; what it goes by between requests, the turns that it has given and the numbers that
it will draw, is its `Cursor`, which `next` returns advanced.
-/
import Switchyard.Endpoint

namespace Switchyard

/-- How backends are admitted and picked. -/
inductive Strategy where
  /-- Every healthy backend; each request goes to any of them. -/
  | random
  /-- Every healthy backend in turn. -/
  | roundRobin
  /-- Backends with enough history, the best `bestK` of them by the metric. -/
  | minimumHistory (minSamples : Nat) (bestK : Option Nat)
deriving DecidableEq, Repr

/-- A candidate has a metric that cannot be compared. -/
structure StrategyError where
  backend : String
deriving DecidableEq, Repr

def StrategyError.message (e : StrategyError) : String :=
  "candidate " ++ e.backend ++ " has an invalid comparison metric"

/-- What a strategy goes by between picks. -/
structure Cursor where
  /-- How many turns it has given; the count starts over after 2⁶⁴ of them. -/
  turns : UInt64 := 0
  /-- The numbers that it will draw, in their order. -/
  draws : Nat → Nat := fun _ => 0

namespace Cursor

instance : OfNat Cursor 0 := ⟨{}⟩

/-- The cursor after one more turn. -/
def turned (c : Cursor) : Cursor := { c with turns := c.turns + 1 }

/-- The cursor after one more draw. -/
def drawn (c : Cursor) : Cursor := { c with draws := fun i => c.draws (i + 1) }

end Cursor

namespace Strategy

/-! ## Names -/

def name : Strategy → String
  | random => "random"
  | roundRobin => "round-robin"
  | minimumHistory _ _ => "minimum-history"

def description : Strategy → String
  | random => "Selects all healthy endpoints and routes each request to one at random"
  | roundRobin => "Selects all healthy endpoints and rotates requests across them in order"
  | minimumHistory minSamples (some k) =>
    "Selects up to " ++ toString k ++ " endpoints with at least " ++ toString minSamples
      ++ " samples, preferring the lowest response time"
  | minimumHistory minSamples none =>
    "Selects endpoints with at least " ++ toString minSamples
      ++ " samples, preferring the lowest response time"

/-- The name of the metric that endpoints are compared by. -/
def metric : Strategy → String
  | minimumHistory _ _ => "response_time_ms"
  | _ => "none"

/-! ## Admission -/

/-- A value that can be compared: a number, finite and not below zero. -/
def isComparable (x : Double) : Bool := x.isFinite && x.isNonNegative

/-- Healthy and with enough samples to be judged by its metric. -/
def isEligible (minSamples : Nat) (e : Endpoint) : Bool :=
  e.healthy && minSamples ≤ e.history.samples

/-- An eligible candidate whose value cannot be compared. -/
def isSpoiled (minSamples : Nat) (e : Endpoint) : Bool :=
  isEligible minSamples e && e.history.value.any (!isComparable ·)

/-- An eligible candidate with a value. -/
def isRanked (minSamples : Nat) (e : Endpoint) : Bool :=
  isEligible minSamples e && e.history.value.isSome

/-- The value an endpoint is ranked by. -/
def rank (e : Endpoint) : Double := e.history.value.getD Double.largest

/-- Not after, when ranked. -/
def rankLe (a b : Endpoint) : Bool := (rank a).totalLe (rank b)

/-- The first elements, all of them when there is no limit. -/
def limit {α : Type} : Option Nat → List α → List α
  | some k, xs => xs.take k
  | none, xs => xs

/-- The admitted candidates in the order they are preferred. -/
def select (s : Strategy) (candidates : List Endpoint) : Except StrategyError (List Endpoint) :=
  match s with
  | minimumHistory minSamples bestK =>
    match candidates.find? (isSpoiled minSamples) with
    | some e => .error ⟨e.backend⟩
    | none => .ok (limit bestK ((candidates.filter (isRanked minSamples)).mergeSort rankLe))
  | _ => .ok (candidates.filter (·.healthy))

/-! ## Picking -/

/-- How many endpoints at the front share the value of the first. -/
def leadingTies (selection : List Endpoint) : Nat :=
  match selection.head?.bind (·.history.value) with
  | none => 0
  | some best => (selection.takeWhile fun e => e.history.value.any (·.valueEq best)).length

/-- The index of the next pick in a range of `n`, counted by the cursor. -/
def rotate (cursor : Cursor) (n : Nat) : Nat × Cursor := (cursor.turns.toNat % n, cursor.turned)

/-- The index of the next pick in a range of `n`, drawn at random. -/
def draw (cursor : Cursor) (n : Nat) : Nat × Cursor := (cursor.draws 0 % n, cursor.drawn)

/-- The index of the endpoint for the next request, and the cursor after it. -/
def next (s : Strategy) (selection : List Endpoint) (cursor : Cursor) : Nat × Cursor :=
  match s with
  | random => if selection.length ≤ 1 then (0, cursor) else draw cursor selection.length
  | roundRobin => if selection.isEmpty then (0, cursor) else rotate cursor selection.length
  | minimumHistory _ _ =>
    let ties := leadingTies selection
    if ties ≤ 1 then (0, cursor) else rotate cursor ties

/-- The indices of several picks in a row. -/
def picks (s : Strategy) (selection : List Endpoint) : Nat → Cursor → List Nat × Cursor
  | 0, cursor => ([], cursor)
  | n + 1, cursor =>
    let (i, cursor) := s.next selection cursor
    let (is, cursor) := picks s selection n cursor
    (i :: is, cursor)

end Strategy

end Switchyard
