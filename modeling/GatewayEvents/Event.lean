import GatewayEvents.Resource.Endpoint
import GatewayEvents.Resource.Node

/-! Lifecycle events. A watched object is created, updated or deleted; what handlers are
told of it depends on its kind and, for endpoints, on the cluster it comes from. -/
namespace GatewayEvents

inductive Operation where
  | create
  | update
  | delete
  deriving DecidableEq, Repr

def Operation.name : Operation → String
  | .create => "Create"
  | .update => "Update"
  | .delete => "Delete"

/-- The operation as handlers are told of it. -/
def Operation.participle : Operation → String
  | .create => "Created"
  | .update => "Updated"
  | .delete => "Removed"

inductive Origin where
  | localCluster
  | remoteCluster
  deriving DecidableEq, Repr

def Origin.name : Origin → String
  | .localCluster => "Local"
  | .remoteCluster => "Remote"

inductive Event where
  | transition (toGateway : Bool)
  | endpoint (origin : Origin) (operation : Operation) (endpoint : Endpoint)
  | node (operation : Operation) (node : Node)
  deriving Repr

namespace Event

/-- Stable names, used in logs and as metric labels. -/
def name : Event → String
  | .transition true => "TransitionToGateway"
  | .transition false => "TransitionToNonGateway"
  | .endpoint origin operation _ => origin.name ++ "Endpoint" ++ operation.participle
  | .node operation _ => "Node" ++ operation.participle

def object? : Event → Option String
  | .transition _ => none
  | .endpoint _ _ e => some e.identity
  | .node _ n => some n.name

end Event
end GatewayEvents
