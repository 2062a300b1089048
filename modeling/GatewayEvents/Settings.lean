import GatewayEvents.Json.Record
import GatewayEvents.Text.Utf8

/-! Controller settings: the local cluster, the namespace to watch and the network plugin.
They come from environment variables laid over defaults; an empty namespace means all
namespaces, and an empty plugin leaves the wildcard. -/
namespace GatewayEvents

/-- Handlers with this plugin run under any plugin. -/
def anyNetworkPlugin : String := "*"

structure Settings where
  clusterId : String := ""
  namespaceName : Option String := none
  networkPlugin : String := anyNetworkPlugin
  deriving DecidableEq, Repr, Inhabited

namespace Settings

inductive Variable where
  | unset
  | text (value : String)
  | notUnicode
  deriving DecidableEq, Repr

def Variable.ofBytes (bytes : List UInt8) : Variable :=
  match Text.decode bytes with
  | some value => .text value
  | none => .notUnicode

structure NotUnicode where
  variableName : String
  deriving DecidableEq, Repr

def NotUnicode.message (e : NotUnicode) : String :=
  "environment variable " ++ e.variableName ++ " is not valid unicode"

def variablePrefix : String := "SUBMARINER"

def variableName (suffix : String) : String := variablePrefix ++ "_" ++ suffix

/-- The outcome of reading settings, with the variables asked for, in order. -/
structure Loaded where
  result : Except NotUnicode Settings
  lookups : List String

def withCluster (s : Settings) (value : String) : Settings := { s with clusterId := value }

def withNamespace (s : Settings) (value : String) : Settings :=
  { s with namespaceName := if value.isEmpty then none else some value }

def withPlugin (s : Settings) (value : String) : Settings :=
  if value.isEmpty then s else { s with networkPlugin := value }

/-- What each variable overrides, by suffix, in the order in which they are read. -/
def overrides : List (String × (Settings → String → Settings)) := [
  ("CLUSTERID", withCluster),
  ("NAMESPACE", withNamespace),
  ("NETWORKPLUGIN", withPlugin)]

/-- Reading stops at the first variable that is not text. -/
def loadFrom (lookup : String → Variable) :
    List (String × (Settings → String → Settings)) → Settings → Loaded
  | [], s => ⟨.ok s, []⟩
  | (suffix, apply) :: rest, s =>
    let name := variableName suffix
    match lookup name with
    | .notUnicode => ⟨.error ⟨name⟩, [name]⟩
    | .unset => let later := loadFrom lookup rest s; { later with lookups := name :: later.lookups }
    | .text value =>
      let later := loadFrom lookup rest (apply s value)
      { later with lookups := name :: later.lookups }

def load (lookup : String → Variable) : Loaded := loadFrom lookup overrides {}

open Json

def record : Record Settings where
  name := "ControllerConfig"
  fields := [
    .defaulted "cluster_id" Read.text fun v s => { s with clusterId := v },
    .defaulted "namespace" (Read.optional Read.text) fun v s => { s with namespaceName := v },
    .defaulted "network_plugin" Read.text fun v s => { s with networkPlugin := v }]
  blank := {}

def decode : Reader Settings := record.decode

/-- A namespace that is not set is written as null. -/
def encode (s : Settings) : Json := Json.members [
  ("cluster_id", some (.text s.clusterId)),
  ("namespace", some ((s.namespaceName.map .text).getD .null)),
  ("network_plugin", some (.text s.networkPlugin))]

end Settings
end GatewayEvents
