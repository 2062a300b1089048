import GatewayEvents.Resource.Endpoint

/-! The wire format of endpoints. Cluster, cable and host are required; everything else
has an empty default, and an empty health check address or driver setting is left out
when writing. -/
namespace GatewayEvents
open Json

namespace EndpointSpec

def record : Record EndpointSpec where
  name := "EndpointSpec"
  fields := [
    .needed "cluster_id" Read.text fun v s => { s with clusterId := v },
    .needed "cable_name" Read.text fun v s => { s with cableName := v },
    .defaulted "healthCheckIP" Read.text fun v s => { s with healthCheckIp := v },
    .needed "hostname" Read.text fun v s => { s with hostname := v },
    .defaulted "subnets" (Read.list Read.text) fun v s => { s with subnets := v },
    .defaulted "private_ip" Read.text fun v s => { s with privateIp := v },
    .defaulted "public_ip" Read.text fun v s => { s with publicIp := v },
    .defaulted "nat_enabled" Read.boolean fun v s => { s with natEnabled := v },
    .defaulted "backend" Read.text fun v s => { s with backend := v },
    .defaulted "backend_config" Read.stringMap fun v s => { s with backendConfig := v }]
  blank := {}

def decode : Reader EndpointSpec := record.decode

def encode (s : EndpointSpec) : Json := Json.members [
  ("backend", some (.text s.backend)),
  ("backend_config", if s.backendConfig.isEmpty then none else some s.backendConfig.toJson),
  ("cable_name", some (.text s.cableName)),
  ("cluster_id", some (.text s.clusterId)),
  ("healthCheckIP", if s.healthCheckIp.isEmpty then none else some (.text s.healthCheckIp)),
  ("hostname", some (.text s.hostname)),
  ("nat_enabled", some (.bool s.natEnabled)),
  ("private_ip", some (.text s.privateIp)),
  ("public_ip", some (.text s.publicIp)),
  ("subnets", some (Json.texts s.subnets))]

end EndpointSpec

namespace Endpoint

/-- The kind and version that an object claims are not looked at. -/
def record : Record Endpoint where
  name := "Endpoint"
  fields := [
    .needed "metadata" Metadata.record.decodeObject fun v e => { e with metadata := v },
    .needed "spec" EndpointSpec.decode fun v e => { e with spec := v }]
  blank := ⟨{}, {}⟩

def decode : Reader Endpoint := record.decode

def encode (e : Endpoint) : Json := Json.members [
  ("apiVersion", some (.text (Watched.kind Endpoint).apiVersion)),
  ("kind", some (.text (Watched.kind Endpoint).kind)),
  ("metadata", some e.metadata.toJson),
  ("spec", some e.spec.encode)]

end Endpoint
end GatewayEvents
