/-
The text form of the counters.

A family of samples is written as two comment lines and a line for each sample.  Families are in the
order of their names and samples in that of their label values; a family by labels that has no sample
yet is left out.
-/
import Switchyard.Metrics
import Switchyard.Text.Order

namespace Switchyard.Metrics

/-- Samples that share a name. -/
structure Family where
  name : String
  help : String
  kind : String
  labels : List String
  samples : Tally

/-- What stands before every name. -/
def nameStart : String := "router_"

/-- A label value inside quotes. -/
def escapeLabel (s : String) : String :=
  String.ofList (s.toList.flatMap fun c =>
    if c = '\\' then ['\\', '\\'] else if c = '"' then ['\\', '"']
    else if c = '\n' then ['\\', 'n'] else [c])

/-- Labels in braces, nothing where there are none. -/
def labelText (names values : List String) : String :=
  if names.isEmpty then ""
  else "\x7b" ++ ",".intercalate ((names.zip values).map fun p => p.1 ++ "=\"" ++ escapeLabel p.2 ++ "\"")
    ++ "\x7d"

/-- Whether label values come before others, or are the same. -/
def labelsLe (a b : List String × Nat) : Bool :=
  !Text.precedes Text.textPrecedes b.1 a.1

/-- The lines of a family.  Of observed durations, their number is written. -/
def Family.lines (f : Family) : List String :=
  let name := nameStart ++ f.name
  let sample := if f.kind = "histogram" then name ++ "_count" else name
  ("# HELP " ++ name ++ " " ++ f.help) :: ("# TYPE " ++ name ++ " " ++ f.kind) ::
    (f.samples.mergeSort labelsLe).map fun s =>
      sample ++ labelText f.labels s.1 ++ " " ++ toString s.2

/-- All families, by name. -/
def families (m : Metrics) : List Family :=
  [⟨"affinity_lookups_total", "Affinity lookups by result", "counter", ["result"], m.affinityLookups⟩,
   ⟨"backend_request_duration_seconds", "Time spent waiting on the backend, retries included",
     "histogram", ["backend"], m.backendDurations⟩,
   ⟨"backend_requests_total", "Forwarded requests by backend and outcome", "counter",
     ["backend", "status"], m.backendRequests⟩,
   ⟨"request_duration_seconds", "End-to-end request latency", "histogram",
     ["method", "status_code"], m.requestDurations⟩,
   ⟨"requests_total", "Proxied requests by method and status", "counter",
     ["method", "status_code"], m.requests⟩,
   ⟨"rewrite_rule_installs_total", "Times a new rewrite rule was installed", "counter", [],
     [([], m.ruleInstalls)]⟩,
   ⟨"selected_backends", "Number of backends admitted by the last selection", "gauge", [],
     [([], m.selectedBackends)]⟩,
   ⟨"selection_errors_total", "Selection passes that reported an error", "counter", [],
     [([], m.selectionErrors)]⟩,
   ⟨"selection_events_total", "Completed selection passes", "counter", [],
     [([], m.selectionEvents)]⟩]

/-- The lines of the text form. -/
def lines (m : Metrics) : List String :=
  (m.families.filter fun f => !f.samples.isEmpty).flatMap Family.lines

/-- The text form. -/
def text (m : Metrics) : String := String.join (m.lines.map (· ++ "\n"))

end Switchyard.Metrics
