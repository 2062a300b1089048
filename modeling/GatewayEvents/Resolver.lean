import GatewayEvents.LogLine
import GatewayEvents.Resource.Kind
import GatewayEvents.Status
import GatewayEvents.Uri

/-! Resolving kinds to the resources that an API server serves, either from a fixed list or by
asking the server through a client. -/
namespace GatewayEvents

def ResourceKind.describe (k : ResourceKind) : String :=
  "GroupVersionKind \x7b group: " ++ Text.quoted k.group ++ ", version: " ++ Text.quoted k.version
    ++ ", kind: " ++ Text.quoted k.kind ++ " \x7d"

inductive ResolveError where
  | notListed (kind : ResourceKind)
  | notServed (kind : ResourceKind)
  | refused (status : Status)
  | unreachable
  | invalidAddress (fault : Uri.Fault)
  deriving DecidableEq, Repr

def ResolveError.message : ResolveError → String
  | .notListed k =>
    "Error from discovery: Missing Kind: " ++ k.group ++ "/" ++ k.version ++ " " ++ k.kind
  | .notServed k => "Error from discovery: Missing Kind: " ++ k.describe
  | .refused status => status.requestError
  | .unreachable => "ServiceError: connection refused"
  | .invalidAddress fault => "HttpError: " ++ fault.message

structure Resolution where
  result : Except ResolveError ApiResource
  requests : List String
  lines : List LogLine

abbrev Resolver := ResourceKind → Resolution

/-- A client for the API server, as far as resolving goes: what it finds a kind to be served as, and
with which requests. -/
structure Client where
  pinnedKind : ResourceKind → Except ResolveError ApiResource × List String

def ApiResource.serves (r : ApiResource) (k : ResourceKind) : Bool :=
  r.group = k.group && r.version = k.version && r.kind = k.kind

namespace Resolver

/-- Knows a fixed list of resources and asks nobody. -/
def listed (resources : List ApiResource) : Resolver := fun k =>
  match resources.find? (·.serves k) with
  | some r => ⟨.ok r, [], []⟩
  | none => ⟨.error (.notListed k), [], []⟩

def resolvedLine (k : ResourceKind) (r : ApiResource) : LogLine where
  level := .debug
  component := .resolver
  message := "Resolved " ++ k.group ++ "/" ++ k.version ++ " " ++ k.kind
    ++ " to resource " ++ r.plural

def discovering (client : Client) : Resolver := fun k =>
  match client.pinnedKind k with
  | (.ok r, requests) => ⟨.ok r, requests, [resolvedLine k r]⟩
  | (.error e, requests) => ⟨.error e, requests, []⟩

end Resolver
end GatewayEvents
