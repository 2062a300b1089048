import GatewayEvents.Resource.Node

/-! The wire format of nodes. Of a node only the metadata is made use of, but all of it has
to look as the API describes it. Null is as good as absent everywhere. -/
namespace GatewayEvents.Node
open Json

def part (key : String) (shape : Shape) : Slot Shape := ⟨key, false, .optional shape⟩

/-- An object with the given parts, any of which may be left out. -/
def object (name : String) (parts : List (Slot Shape)) : Shape := .record .lenient name parts

def textParts (keys : List String) : List (Slot Shape) := keys.map (part · .text)

def configSource : Shape := object "NodeConfigSource" [
  part "configMap" (object "ConfigMapNodeConfigSource"
    (textParts ["kubeletConfigKey", "name", "namespace", "resourceVersion", "uid"]))]

def taint : Shape := object "Taint"
  (part "timeAdded" Read.timestamp.shape :: textParts ["effect", "key", "value"])

def spec : Shape := object "NodeSpec" ([
  part "configSource" configSource,
  part "podCIDRs" (.list .text),
  part "taints" (.list taint),
  part "unschedulable" .boolean] ++ textParts ["externalID", "podCIDR", "providerID"])

def condition : Shape := object "NodeCondition" ([
  part "lastHeartbeatTime" Read.timestamp.shape,
  part "lastTransitionTime" Read.timestamp.shape]
  ++ textParts ["message", "reason", "status", "type"])

def configStatus : Shape := object "NodeConfigStatus" [
  part "active" configSource,
  part "assigned" configSource,
  part "error" .text,
  part "lastKnownGood" configSource]

def daemonEndpoints : Shape := object "NodeDaemonEndpoints" [
  part "kubeletEndpoint" (object "DaemonEndpoint" [part "Port" (.integer (.signed 32))])]

def image : Shape := object "ContainerImage" [
  part "names" (.list .text),
  part "sizeBytes" (.integer (.signed 64))]

def systemInfo : Shape := object "NodeSystemInfo" (textParts [
  "architecture", "bootID", "containerRuntimeVersion", "kernelVersion", "kubeProxyVersion",
  "kubeletVersion", "machineID", "operatingSystem", "osImage", "systemUUID"])

def runtimeHandler : Shape := object "NodeRuntimeHandler" [
  part "features" (object "NodeRuntimeHandlerFeatures" [
    part "recursiveReadOnlyMounts" .boolean,
    part "userNamespaces" .boolean]),
  part "name" .text]

def status : Shape := object "NodeStatus" [
  part "addresses" (.list (object "NodeAddress" (textParts ["address", "type"]))),
  part "allocatable" .map,
  part "capacity" .map,
  part "conditions" (.list condition),
  part "config" configStatus,
  part "daemonEndpoints" daemonEndpoints,
  part "features" (object "NodeFeatures" [part "supplementalGroupsPolicy" .boolean]),
  part "images" (.list image),
  part "nodeInfo" systemInfo,
  part "phase" .text,
  part "runtimeHandlers" (.list runtimeHandler),
  part "volumesAttached" (.list (object "AttachedVolume" (textParts ["devicePath", "name"]))),
  part "volumesInUse" (.list .text)]

/-- A node may say what it is, but must not claim to be anything else. -/
def shape : Shape :=
  let self := Watched.kind Node
  object self.kind [
    ⟨"apiVersion", false, .exactly self.apiVersion⟩,
    ⟨"kind", false, .exactly self.kind⟩,
    part "metadata" Metadata.record.decodeObject.shape,
    part "spec" spec,
    part "status" status]

def decode : Reader Node where
  shape := shape
  read
    | .object members =>
      match lookup "metadata" members with
      | none | some .null => .ok ⟨{}⟩
      | some metadata => (Metadata.record.decodeObject metadata).map Node.mk
    | j => .error (.mismatch j (.object (Watched.kind Node).kind))

end GatewayEvents.Node
