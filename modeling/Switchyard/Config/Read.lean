/-
Reading a configuration from a document.
-/
import Switchyard.Config
import Switchyard.Document.Readable

namespace Switchyard.Config

open Readable

variable {δ : Type} [Readable δ]

/-! ## Numbers and texts -/

/-- A number of 64 bits. -/
def word : δ → Except Fault Nat := below UInt64.size

/-- An affinity option by its text. -/
def affinityOption (d : δ) : Except Fault AffinityOption :=
  (text d).bind fun s => require (AffinityOption.parse s).toOption

/-- An address with a port. -/
def socketAddr (d : δ) : Except Fault Net.SocketAddr :=
  (text d).bind fun s => require (Net.SocketAddr.ofText? s.toList)

/-! ## Parts -/

/-- The two settings of the strategy that ranks. -/
def rankingFields : List (Field δ (Nat × Option Nat)) :=
  [.of "min_samples" word fun n s => (n, s.2),
   .of "best_k" (optional word) fun k s => (s.1, k)]

/-- A strategy by its name. -/
def strategyOf (d : δ) : Except Fault Strategy := do
  let (kind, rest) ← readKind "name" ["random", "round-robin", "minimum-history"] d
  if kind = "minimum-history" then
    let (minSamples, bestK) ← recordOf rankingFields (5, none) rest
    return .minimumHistory minSamples bestK
  else
    rest.bare
    return if kind = "random" then .random else .roundRobin

def affinityFields : List (Field δ AffinityConfig) :=
  [.of "options" (listOf affinityOption) fun options a => { a with options },
   .of "ttl_secs" (optional word) fun ttlSeconds a => { a with ttlSeconds }]

def probeFields : List (Field δ ProbeConfig) :=
  [(Field.of "endpoints" (listOf text) fun endpoints p => { p with endpoints }).needed,
   .of "path" text fun path p => { p with path },
   .of "timeout_ms" word fun timeoutMillis p => { p with timeoutMillis },
   .of "window" word fun window p => { p with window }]

def staticFields : List (Field δ (List String)) :=
  [(Field.of "endpoints" (listOf text) fun endpoints _ => endpoints).needed]

def serviceFields : List (Field δ (String × Nat)) :=
  [(Field.of "url" text fun url s => (url, s.2)).needed,
   .of "timeout_ms" word fun timeout s => (s.1, timeout)]

/-- A locator by its type. -/
def locatorOf (d : δ) : Except Fault LocatorConfig := do
  let (kind, rest) ← readKind "type" ["static", "probe", "http"] d
  if kind = "static" then (recordOf staticFields [] rest).map .static
  else if kind = "probe" then (recordOf probeFields {} rest).map .probe
  else (recordOf serviceFields ("", 2000) rest).map fun s => .http s.1 s.2

def retryFields : List (Field δ RetryConfig) :=
  [.of "max_attempts" (below UInt32.size) fun maxAttempts r => { r with maxAttempts },
   .of "backoff_base_ms" word fun backoffBaseMillis r => { r with backoffBaseMillis },
   .of "backoff_max_ms" word fun backoffMaxMillis r => { r with backoffMaxMillis }]

def forwardFields : List (Field δ ForwardConfig) :=
  [.of "timeout_ms" word fun timeoutMillis f => { f with timeoutMillis },
   .of "max_body_bytes" word fun maxBodyBytes f => { f with maxBodyBytes }]

def metricsFields : List (Field δ MetricsConfig) :=
  [.of "enabled" flag fun enabled m => { m with enabled },
   .of "port" (below UInt16.size) fun port m => { m with port },
   .of "path" text fun path m => { m with path },
   .of "status_path" text fun statusPath m => { m with statusPath }]

/-! ## All -/

def fields : List (Field δ Config) :=
  [.of "listen_addr" socketAddr fun listen c => { c with listen },
   .of "refresh_interval_secs" word fun refreshSeconds c => { c with refreshSeconds },
   .of "strategy" strategyOf fun strategy c => { c with strategy },
   .of "affinity" (recordOf affinityFields {}) fun affinity c => { c with affinity },
   .of "locators" (listOf locatorOf) fun locators c => { c with locators },
   .of "retry" (recordOf retryFields {}) fun retry c => { c with retry },
   .of "forward" (recordOf forwardFields {}) fun forward c => { c with forward },
   .of "metrics" (recordOf metricsFields {}) fun metrics c => { c with metrics }]

/-- A configuration from a document. -/
def read (d : δ) : Except Fault Config := recordOf fields {} d

end Switchyard.Config
