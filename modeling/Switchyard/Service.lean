/-
A running router: its clock, its refresh loops and the transport to its backends.

Time is a number of nanoseconds that only `advance` and waiting move.  A refresh loop runs a pass when
its time has come.  `handle` forwards a request, and lets due loops run while it waits between attempts.
-/
import Switchyard.Proxy
import Switchyard.Router.Loop
import Switchyard.Transport

namespace Switchyard

/-- A router in operation. -/
structure Service (τ : Type) where
  router : Router
  network : Network
  transport : Transport τ
  /-- What the transport remembers. -/
  memory : τ
  now : Nat := 0
  loops : List RefreshLoop := []
  /-- What the loops have been told. -/
  stop : StopSignal := {}
  /-- Reported events, the latest last. -/
  log : List Event := []
  /-- The parts that are added to waits, in the order in which they will be drawn. -/
  jitter : Nat → Double := fun _ => .zero

namespace Service

variable {τ : Type}

/-- Adds events to the log. -/
def report (s : Service τ) (events : List Event) : Service τ := { s with log := s.log ++ events }

/-! ## Refreshing -/

/-- Refreshes the router. -/
def refresh (s : Service τ) : RefreshOutcome × Service τ :=
  let (outcome, router, events) := s.router.refresh s.network s.now
  (outcome, { s with router }.report events)

/-- What is reported of a loop that has come to its end. -/
def endEvents (l : RefreshLoop) : List Event :=
  if l.hasEnded then [.info "Selection refresh loop shutting down"] else []

/-- Lets a loop look whether it is to end. -/
def lookFor (s : Service τ) (l : RefreshLoop) : RefreshLoop × Service τ :=
  let l := l.look s.stop
  (l, s.report (endEvents l))

/-- The pass of one loop. -/
def pass (s : Service τ) (l : RefreshLoop) : RefreshLoop × Service τ :=
  let l := l.beginPass s.router.interval s.now
  let (_, s) := s.refresh
  let s := s.report [.debug ("Backend selection is sleeping for " ++ s.router.interval.text)]
  s.lookFor l.finishPass

/-- Lets each loop do something, in order. -/
def eachLoop (step : Service τ → RefreshLoop → RefreshLoop × Service τ) (s : Service τ) :
    List RefreshLoop → List RefreshLoop × Service τ
  | [] => ([], s)
  | l :: ls =>
    let (l, s) := step s l
    let (ls, s) := eachLoop step s ls
    (l :: ls, s)

/-- Lets all loops of a service do something. -/
def overLoops (s : Service τ) (step : Service τ → RefreshLoop → RefreshLoop × Service τ) : Service τ :=
  let (loops, s) := eachLoop step s s.loops
  { s with loops }

/-- Lets every due loop run once. -/
def settle (s : Service τ) : Service τ :=
  s.overLoops fun s l => if l.isDue s.now then s.pass l else (l, s)

/-- Moves the clock in one jump. -/
def advance (d : Duration) (s : Service τ) : Service τ := settle { s with now := s.now + d.nanos }

/-- The earliest time at which a waiting loop is due. -/
def earliest (loops : List RefreshLoop) : Option Nat :=
  ((loops.filter (·.phase = .waiting)).map (·.due)).min?

/-- Moves the clock to a time, stopping wherever a loop is due; `fuel` bounds the stops. -/
def sleepUntil (wake : Nat) : Nat → Service τ → Service τ
  | 0, s => settle { s with now := max s.now wake }
  | fuel + 1, s =>
    match earliest s.loops with
    | some due =>
      if due ≤ wake then sleepUntil wake fuel (settle { s with now := max s.now due })
      else { s with now := max s.now wake }
    | none => { s with now := max s.now wake }

/-- Waits, and lets due loops run meanwhile. -/
def sleep (d : Duration) (s : Service τ) : Service τ :=
  let passes := d.nanos / max 1 s.router.interval.nanos + 2
  sleepUntil (s.now + d.nanos) (passes * (s.loops.length + 1)) s

/-! ## Starting and stopping -/

/-- Why no loop was started. -/
def zeroInterval : String := "refresh interval must be greater than zero"

/-- Starts a loop.  One whose first pass lies beyond the end of time dies at once. -/
def start (s : Service τ) : Except String (Service τ) :=
  let interval := s.router.interval
  if interval.isZero then .error zeroInterval
  else match RefreshLoop.firstDue s.now interval with
    | none => .ok { s with loops := s.loops ++ [{ RefreshLoop.fresh s.now s.stop with phase := .ended }] }
    | some due =>
      let s := s.report [.info ("Starting selection refresh loop with interval: " ++ interval.text)]
      let (l, s) := s.lookFor (.fresh due s.stop)
      .ok { s with loops := s.loops ++ [l] }

/-- Tells all loops to end, which they do as soon as they take note. -/
def shutdown (s : Service τ) : Service τ :=
  { s with stop := s.stop.raise }.overLoops fun s l =>
    if l.isTold s.stop then s.lookFor (l.takeNote s.stop) else (l, s)

/-- Whether the loop that was started last has ended. -/
def lastEnded (s : Service τ) : Option Bool := s.loops.getLast?.map (·.hasEnded)

/-! ## Requests -/

/-- What an attempt, a wait, a report and a draw do to a service. -/
def surroundings (out : Http.Outgoing) :
    RetryPolicy.Surroundings (Service τ) TransportError Http.Response :=
  { attempt := fun s =>
      let (result, memory) := s.transport.exchange out s.memory
      (result, { s with memory })
    wait := sleep
    report := fun e s => s.report [e]
    retryable := TransportError.isRetryable
    describe := TransportError.message
    draw := fun s => (s.jitter 0, { s with jitter := fun i => s.jitter (i + 1) }) }

/-- Forwards a request without counting it; nothing when the program cannot go on. -/
def dispatch (p : Proxy) (req : Http.Request) (peer : Option Net.SocketAddr) (s : Service τ) :
    Option (Except ProxyError Http.Response) × Service τ :=
  let (prepared, router, events) := p.prepare s.router req peer s.now
  let s := { s with router }.report events
  match prepared with
  | .error (.error e) => (some (.error e), s)
  | .error .overflow => (none, s)
  | .ok q =>
    let (result, s) := p.retry.run (surroundings q.outgoing) s
    let (result, router, events) := Proxy.conclude s.router q result s.now
    (some result, { s with router }.report events)

/-- Forwards a request and counts it. -/
def handle (p : Proxy) (req : Http.Request) (peer : Option Net.SocketAddr) (s : Service τ) :
    Option (Except ProxyError Http.Response) × Service τ :=
  match s.dispatch p req peer with
  | (some result, s) => (some result, { s with router := Proxy.record s.router req.method result })
  | (none, s) => (none, s)

/-- Answers a client: an error becomes an answer, and is reported. -/
def serve (p : Proxy) (req : Http.Request) (peer : Option Net.SocketAddr) (s : Service τ) :
    Option Http.Response × Service τ :=
  let (result, s) := s.handle p req peer
  let events := match result with
    | some (.error _) => [.error "proxy error"]
    | _ => []
  (result.map Proxy.reply, s.report events)

end Service

end Switchyard
