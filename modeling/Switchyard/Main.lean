/-
The command line.

The argument names a configuration, `config.yaml` when there is none.  The program makes the service that
it describes and then answers requests from standard input, a method and a target on each line, until the
input ends.  Its network reaches no backend, so it shows how a configuration is read and how requests are
refused; events go to standard error.
-/
import Switchyard.Config.File
import Switchyard.Setup

namespace Switchyard.CommandLine

/-- What every attempt to reach a backend ends with. -/
def noNetwork : String := "error trying to connect: no network"

/-- The lines that tell an error and its causes. -/
def complaint : List String → List String
  | [] => []
  | [message] => ["Error: " ++ message]
  | message :: causes => ["Error: " ++ message, "", "Caused by:"] ++ causes.map ("    " ++ ·)

/-- The configuration in a file, and the service that it describes with a refresh loop started. -/
def boot (path : String) (contents : Option (List UInt8)) :
    Except (List String) (Config × Service Unit) := do
  let config ← (Config.load path contents).mapError fun
    | .invalid cause => cause.chain
    | e => [e.message]
  let service ← (Service.ofConfig config (.down noNetwork) (.unreachable Unit noNetwork) ()).mapError
    SetupError.chain
  let service ← service.start.mapError fun message => [message]
  return (config, service)

/-- A request without header fields and body, from a line of text. -/
def requestOf? (line : List Char) : Option Http.Request := do
  let (method, target) ← Text.splitOnce ' ' line
  let uri ← (Http.Uri.parse target).toOption
  if Http.isMethod (String.ofList method) then
    return { method := String.ofList method, uri, headers := [], body := [] }
  else none

/-- The line that shows an answer. -/
def answerLine (r : Http.Response) : String :=
  toString r.status ++ " " ++ String.ofList (Text.Utf8.decodeLossy r.body.toList)

/-! ## Chance -/

/-- The numbers that a generator gives in turn, up to a bound. -/
def numbers (bound : Nat) : Nat → StdGen → Nat
  | 0, g => (randNat g 0 bound).1
  | place + 1, g => numbers bound place (randNat g 0 bound).2

/-- A part below a quarter, in steps of 2⁻⁵⁴. -/
def partOf (step : Nat) : Double := .div (.ofNat step) (.ofNat (Nat.pow 2 54))

/-- The service with everything that it will draw. -/
def withDraws (seed : Nat) (s : Service Unit) : Service Unit :=
  { s with
    router.cursor.draws := fun i => numbers (UInt64.size - 1) i (mkStdGen seed)
    jitter := fun i => partOf (numbers (Nat.pow 2 52 - 1) i (mkStdGen (seed + 1))) }

/-! ## Effects -/

/-- Prints the events that matter to an operator, and forgets them all. -/
def printLog (s : Service Unit) : IO (Service Unit) := do
  for e in s.log do
    if e.level ≠ .debug then IO.eprintln e.line
  return { s with log := [] }

/-- Answers the requests on standard input. -/
partial def answerAll (p : Proxy) (s : Service Unit) : IO (Service Unit) := do
  let line ← (← IO.getStdin).getLine
  if line.isEmpty then return s
  match requestOf? (Text.trim Char.isWhitespace line.toList) with
  | none =>
    IO.eprintln "not a request"
    answerAll p s
  | some request =>
    let (answer, s) := s.serve p request none
    match answer with
    | some r => IO.println (answerLine r)
    | none => IO.eprintln "no answer"
    answerAll p (← printLog s)

/-- Prints lines for the operator. -/
def tell (lines : List String) : IO Unit := lines.forM IO.eprintln

/-- Runs the program. -/
def run (arguments : List String) : IO UInt32 := do
  let path := arguments.headD "config.yaml"
  tell [(Event.info ("Loading configuration from: " ++ path)).line]
  let contents ← try
      let bytes ← IO.FS.readBinFile path
      pure (some bytes.toList)
    catch _ => pure none
  match boot path contents with
  | .error messages =>
    tell (complaint messages)
    return 1
  | .ok (config, service) =>
    let service ← printLog service
    tell [(Event.info ("Starting router on " ++ String.ofList config.listen.text)).line]
    let seed ← IO.rand 0 (UInt64.size - 1)
    let service ← answerAll (.ofConfig config) (withDraws seed service)
    let _ ← printLog service.shutdown
    return 0

end Switchyard.CommandLine

def main (arguments : List String) : IO UInt32 := Switchyard.CommandLine.run arguments
