import GatewayEvents.Resource.Kind

/-! Cluster nodes, of which only the metadata matters here: the name, and the labels
that mark a gateway and carry the host name. -/
namespace GatewayEvents

structure Node where
  metadata : Metadata
  deriving Repr, Inhabited

instance : Watched Node where
  kind := ⟨"", "v1", "Node"⟩
  plural := "nodes"
  metadata := Node.metadata

def gatewayLabel : String := "submariner.io/gateway"
def hostnameLabel : String := "kubernetes.io/hostname"

/-- The gateway label says "true", in letters of either case. -/
def StringMap.marksGateway (labels : StringMap) : Bool :=
  (labels.get? gatewayLabel).any fun value => value.toList.map Char.toLower = "true".toList

namespace Node

def name (n : Node) : String := n.metadata.displayName

def isGateway (n : Node) : Bool := n.metadata.labelMap.marksGateway

/-- A node is the local host when its name or its host name label says so. -/
def isLocal (n : Node) (hostname : String) : Bool :=
  n.name = hostname || n.metadata.labelMap.get? hostnameLabel = some hostname

end Node
end GatewayEvents
