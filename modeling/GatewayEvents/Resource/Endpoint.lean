import GatewayEvents.Resource.Kind

/-! Endpoints: what the gateway of a cluster publishes about itself. An endpoint is
local when its cluster is the local one and remote otherwise. -/
namespace GatewayEvents

structure EndpointSpec where
  clusterId : String := ""
  cableName : String := ""
  healthCheckIp : String := ""
  hostname : String := ""
  subnets : List String := []
  privateIp : String := ""
  publicIp : String := ""
  natEnabled : Bool := false
  backend : String := ""
  backendConfig : StringMap := .empty
  deriving DecidableEq, Repr, Inhabited

structure Endpoint where
  metadata : Metadata
  spec : EndpointSpec
  deriving Repr, Inhabited

instance : Watched Endpoint where
  kind := ⟨"submariner.io", "v1", "Endpoint"⟩
  plural := "endpoints"
  metadata := Endpoint.metadata

namespace Endpoint

/-- Remote endpoints are kept under their name. -/
def identity (e : Endpoint) : String := e.metadata.displayName

theorem identity_of_key {e : Endpoint} {key : ObjectKey} (keyed : Watched.key? e = some key) :
    e.identity = key.name := by
  obtain ⟨name, named, rfl⟩ := Option.map_eq_some_iff.mp keyed
  have named : e.metadata.name = some name := named
  simp [Endpoint.identity, Metadata.displayName, named]

def isFromCluster (e : Endpoint) (clusterId : String) : Bool := e.spec.clusterId = clusterId

def isFromHost (e : Endpoint) (hostname : String) : Bool := e.spec.hostname = hostname

end Endpoint
end GatewayEvents
