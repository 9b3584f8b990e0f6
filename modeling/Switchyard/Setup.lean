/-
Making the parts of a program from its configuration.
-/
import Switchyard.Admin
import Switchyard.Config.Validate
import Switchyard.Service

namespace Switchyard

/-- Why no router is made. -/
inductive SetupError where
  | invalid (cause : ConfigError)
  | locator (cause : EndpointError)
deriving DecidableEq

namespace SetupError

def message : SetupError → String
  | invalid _ => "Invalid configuration"
  | locator _ => "Failed to create locators"

/-- The error and its causes, outermost first. -/
def chain : SetupError → List String
  | e@(invalid cause) => e.message :: cause.chain
  | e@(locator cause) => e.message :: (ConfigError.endpoint cause).chain

end SetupError

/-- The locator that a configuration describes. -/
def Locator.ofConfig : LocatorConfig → Except EndpointError Locator
  | .static endpoints => Locator.static endpoints
  | .probe p =>
    (Locator.endpointsOf p.endpoints).map fun targets =>
      .probe (Probe.start targets p.path (.ofMillis p.timeoutMillis) p.window)
  | .http url timeoutMillis => .ok (.http url (.ofMillis timeoutMillis))

namespace Router

/-- The router that a configuration describes, before its first refresh. -/
def ofConfig (c : Config) : Except SetupError Router :=
  match c.validate with
  | .error e => .error (.invalid e)
  | .ok _ =>
    match c.locators.mapM Locator.ofConfig with
    | .error e => .error (.locator e)
    | .ok locators =>
      .ok { locators, strategy := c.strategy, affinity := ⟨c.affinity.options, c.ttl⟩, interval := c.interval }

end Router

/-- How a configuration says requests are forwarded. -/
def Proxy.ofConfig (c : Config) : Proxy :=
  { retry := c.retryPolicy, maxBodyBytes := c.forward.maxBodyBytes }

/-- Where a configuration says the side channel answers. -/
def AdminPaths.ofConfig (c : Config) : AdminPaths :=
  { metrics := c.metrics.path, status := c.metrics.statusPath }

/-- The service that a configuration describes, after its first refresh. -/
def Service.ofConfig {τ : Type} (c : Config) (network : Network) (transport : Transport τ) (memory : τ) :
    Except SetupError (Service τ) :=
  (Router.ofConfig c).map fun router =>
    ({ router, network, transport, memory : Service τ }).refresh.2

end Switchyard
