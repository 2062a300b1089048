import GatewayEvents.Proofs.Controller.Delivery
import GatewayEvents.Proofs.WatchLoop.Objects
import GatewayEvents.Proofs.Dispatcher.Receipts
import GatewayEvents.Proofs.Dispatcher.Agreement
import GatewayEvents.Proofs.WatchLoop.Accounting
import GatewayEvents.Environment
import GatewayEvents.Handler.Logger
import GatewayEvents.Resource.Endpoint.Definition
import GatewayEvents.Resource.Node.Wire
import GatewayEvents.Sampling
import GatewayEvents.Simulation.Line
import GatewayEvents.Simulation.Planned
import GatewayEvents.Simulation.Proxy
import GatewayEvents.Simulation.Recorder
import GatewayEvents.Simulation.Scenario
import GatewayEvents.Simulation.Server
import GatewayEvents.Proofs.Controller.GatewayFlag
import GatewayEvents.Proofs.Dispatcher.Alternation
import GatewayEvents.Proofs.Controller.RemoteEndpoints
import GatewayEvents.Proofs.WatchLoop.FirstAttempts
import GatewayEvents.Proofs.WatchLoop.Repetitions
import GatewayEvents.Proofs.Controller.RetriedRole
import GatewayEvents.Proofs.WatchLoop.Moments
import GatewayEvents.Proofs.WatchLoop.Lives
import GatewayEvents.Proofs.WatchLoop.Exhaustion
import GatewayEvents.Proofs.WatchLoop.Balance
import GatewayEvents.Proofs.Controller.Tally
import GatewayEvents.Proofs.Controller.RemoteEntries
import GatewayEvents.Proofs.Controller.NodeFlag
import GatewayEvents.Proofs.WatchLoop.Timers
import GatewayEvents.Proofs.WatchLoop.Aspects
import GatewayEvents.Proofs.WatchLoop.Isolation
import GatewayEvents.Proofs.WatchLoop.Relist
import GatewayEvents.Proofs.Registry.FanOut
import GatewayEvents.Proofs.Dispatcher.Sights
import GatewayEvents.Proofs.Dispatcher.Replay
import GatewayEvents.Proofs.Controller.Construction
import GatewayEvents.Proofs.GatewayState.Writers
import GatewayEvents.Proofs.RetryPolicy.Backoff
import GatewayEvents.Proofs.Watch.Moves
import GatewayEvents.Proofs.Watch.Life
import GatewayEvents.Proofs.Session.Lives
import GatewayEvents.Proofs.Session.Start
import GatewayEvents.Proofs.Json.RoundTrip
