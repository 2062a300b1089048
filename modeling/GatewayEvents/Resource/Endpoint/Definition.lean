import GatewayEvents.Resource.Endpoint.Wire

/-! The custom resource definition under which a cluster serves endpoints. What it
requires is read off the wire format. -/
namespace GatewayEvents.Endpoint
open Json

/-- The schema of a text, with its default and its description where it has one. -/
def textSchema (byDefault : Option String) (description : Option String) : Json := Json.members [
  ("default", byDefault.map .text),
  ("description", description.map .text),
  ("type", some (.text "string"))]

def specProperties : Json := .object [
  ("backend", textSchema "" "Cable driver name (e.g. \"libreswan\", \"wireguard\", \"vxlan\")"),
  ("backend_config", .object [
    ("additionalProperties", textSchema none none),
    ("type", .text "object")]),
  ("cable_name", textSchema none none),
  ("cluster_id", textSchema none none),
  ("healthCheckIP", textSchema none none),
  ("hostname", textSchema none "Hostname of the gateway node that published this Endpoint"),
  ("nat_enabled", .object [("default", .bool false), ("type", .text "boolean")]),
  ("private_ip", textSchema "" none),
  ("public_ip", textSchema "" none),
  ("subnets", .object [
    ("default", .array []),
    ("items", textSchema none none),
    ("type", .text "array")])]

def requiredKeys (r : Record σ) : List String := (r.inKeyOrder.filter (·.required)).map (·.key)

def specSchema : Json := .object [
  ("description", .text ("Published gateway connection descriptor of a cluster\n\n"
    ++ "One Endpoint exists per active gateway. Endpoints whose `cluster_id` "
    ++ "matches the local cluster are *local*, all others are *remote*.")),
  ("properties", specProperties),
  ("required", Json.texts (requiredKeys EndpointSpec.record)),
  ("type", .text "object")]

def schema : Json := .object [
  ("description", .text "Auto-generated derived type for EndpointSpec via `CustomResource`"),
  ("properties", .object [("spec", specSchema)]),
  ("required", Json.texts ["spec"]),
  ("title", .text (Watched.kind Endpoint).kind),
  ("type", .text "object")]

def resourceDefinition : Json :=
  let resource := Watched.apiResource Endpoint
  .object [
    ("apiVersion", .text "apiextensions.k8s.io/v1"),
    ("kind", .text "CustomResourceDefinition"),
    ("metadata", .object [("name", .text (resource.plural ++ "." ++ resource.group))]),
    ("spec", .object [
      ("group", .text resource.group),
      ("names", .object [
        ("categories", .array []),
        ("kind", .text resource.kind),
        ("plural", .text resource.plural),
        ("shortNames", .array []),
        ("singular", .text "endpoint")]),
      ("scope", .text "Namespaced"),
      ("versions", .array [.object [
        ("additionalPrinterColumns", .array []),
        ("name", .text resource.version),
        ("schema", .object [("openAPIV3Schema", schema)]),
        ("served", .bool true),
        ("storage", .bool true),
        ("subresources", .object [])]])])]

end GatewayEvents.Endpoint
