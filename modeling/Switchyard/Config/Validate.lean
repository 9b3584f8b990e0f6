/-
What a configuration must satisfy beyond being readable.
-/
import Switchyard.Config

namespace Switchyard

/-- Why a configuration is refused. -/
inductive ConfigError where
  | zeroInterval
  | noAttempts
  | backoffOrder
  | zeroTimeout
  | zeroBody
  | zeroBest
  | zeroWindow
  | zeroProbeTimeout
  | endpoint (cause : EndpointError)
  | serviceUrl (url : String) (cause : UrlError)
deriving DecidableEq

namespace ConfigError

def message : ConfigError → String
  | zeroInterval => "refresh_interval_secs must be greater than zero"
  | noAttempts => "retry.max_attempts must be at least 1"
  | backoffOrder => "retry.backoff_base_ms must not exceed retry.backoff_max_ms"
  | zeroTimeout => "forward.timeout_ms must be greater than zero"
  | zeroBody => "forward.max_body_bytes must be greater than zero"
  | zeroBest => "strategy best_k must be greater than zero when set"
  | zeroWindow => "probe window must be greater than zero"
  | zeroProbeTimeout => "probe timeout_ms must be greater than zero"
  | endpoint cause => cause.message
  | serviceUrl url _ => "invalid discovery url '" ++ url ++ "'"

/-- What caused an error. -/
def cause? : ConfigError → Option String
  | endpoint (.parse _ cause) => some cause.message
  | serviceUrl _ cause => some cause.message
  | _ => none

/-- The error and its causes, outermost first. -/
def chain (e : ConfigError) : List String := e.message :: e.cause?.toList

end ConfigError

namespace Config

/-- Refuses unless a condition holds. -/
def demand (condition : Bool) (e : ConfigError) : Except ConfigError Unit :=
  if condition then .ok () else .error e

/-- Every text names an endpoint. -/
def validateEndpoints (urls : List String) : Except ConfigError Unit :=
  urls.forM fun url =>
    match Endpoint.parse url with
    | .ok _ => .ok ()
    | .error e => .error (.endpoint e)

/-- The settings of a locator make sense. -/
def validateLocator : LocatorConfig → Except ConfigError Unit
  | .static endpoints => validateEndpoints endpoints
  | .probe p => do
    demand (0 < p.window) .zeroWindow
    demand (0 < p.timeoutMillis) .zeroProbeTimeout
    validateEndpoints p.endpoints
  | .http url _ =>
    match Url.parse url.toList with
    | .ok _ => .ok ()
    | .error e => .error (.serviceUrl url e)

/-- A strategy that keeps the best keeps at least one. -/
def keepsSome : Strategy → Bool
  | .minimumHistory _ (some 0) => false
  | _ => true

/-- The settings make sense together. -/
def validate (c : Config) : Except ConfigError Unit := do
  demand (0 < c.refreshSeconds) .zeroInterval
  demand (0 < c.retry.maxAttempts) .noAttempts
  demand (c.retry.backoffBaseMillis ≤ c.retry.backoffMaxMillis) .backoffOrder
  demand (0 < c.forward.timeoutMillis) .zeroTimeout
  demand (0 < c.forward.maxBodyBytes) .zeroBody
  demand (keepsSome c.strategy) .zeroBest
  c.locators.forM validateLocator

end Config

end Switchyard
