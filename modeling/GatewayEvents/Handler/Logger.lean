import GatewayEvents.Handler

/-! The handler that writes every event to the log and never fails. -/
namespace GatewayEvents.Handler.Logger

def say (message : String) (fields : List (String × String)) : Work ω := fun _ world =>
  ⟨none, [.line ⟨.info, .eventLogger, message, fields⟩], world⟩

def sayEndpoint (what : String) (e : Endpoint) : Work ω :=
  say (what ++ " endpoint " ++ e.identity) [
    ("cluster_id", e.spec.clusterId),
    ("hostname", e.spec.hostname),
    ("backend", e.spec.backend)]

def sayNode (what : String) (n : Node) : Work ω := say ("Node " ++ what ++ ": " ++ n.name) []

def remoteCount (state : Option GatewayState) : Nat := (state.map GatewayState.size).getD 0

def handler : Handler ω where
  name := "event-logger"
  plugins := [anyNetworkPlugin]
  stop := say "Event logger stopped" []
  transitionToGateway state :=
    say "Local node is now the active gateway" [("remote_endpoints", toString (remoteCount state))]
      state
  transitionToNonGateway := say "Local node is no longer the active gateway" []
  localEndpointCreated := sayEndpoint "Created local"
  localEndpointUpdated := sayEndpoint "Updated local"
  localEndpointRemoved := sayEndpoint "Removed local"
  remoteEndpointCreated := sayEndpoint "Created remote"
  remoteEndpointUpdated := sayEndpoint "Updated remote"
  remoteEndpointRemoved := sayEndpoint "Removed remote"
  nodeCreated := sayNode "created"
  nodeUpdated := sayNode "updated"
  nodeRemoved := sayNode "removed"

end GatewayEvents.Handler.Logger
