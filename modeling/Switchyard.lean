import Switchyard.Main
import Switchyard.Proofs.Affinity.ClientKey
import Switchyard.Proofs.Affinity.Cookies
import Switchyard.Proofs.Affinity.Grammar
import Switchyard.Proofs.Affinity.Pruning
import Switchyard.Proofs.Affinity.Stickiness
import Switchyard.Proofs.Concurrent.Accounting
import Switchyard.Proofs.Concurrent.Balance
import Switchyard.Proofs.Concurrent.Freshness
import Switchyard.Proofs.Concurrent.Survival
import Switchyard.Proofs.Endpoint.Identity
import Switchyard.Proofs.Endpoint.Target
import Switchyard.Proofs.Locator.Target
import Switchyard.Proofs.Locator.Threshold
import Switchyard.Proofs.Proxy.Capacity
import Switchyard.Proofs.Retry.Backoff
import Switchyard.Proofs.Retry.Timetable
import Switchyard.Proofs.Router.Lag
import Switchyard.Proofs.Router.Turns
import Switchyard.Proofs.Selection.Merged
import Switchyard.Proofs.Service.Binding
import Switchyard.Proofs.Service.Connection
import Switchyard.Proofs.Service.Routable
import Switchyard.Proofs.Strategy.Ties
import Switchyard.Server
