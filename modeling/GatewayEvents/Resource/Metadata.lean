import GatewayEvents.Json.Record
import GatewayEvents.Timestamp

/-! Metadata of a cluster resource. Every part may be absent, which differs from being
empty; written out, only present parts appear. -/
namespace GatewayEvents

structure OwnerReference where
  apiVersion : String := ""
  blockOwnerDeletion : Option Bool := none
  controller : Option Bool := none
  kind : String := ""
  name : String := ""
  uid : String := ""
  deriving DecidableEq, Repr

/-- Who last wrote which fields; the field set is kept as it came. -/
structure ManagedFields where
  apiVersion : Option String := none
  fieldsType : Option String := none
  fields : Option Json := none
  manager : Option String := none
  operation : Option String := none
  subresource : Option String := none
  time : Option Timestamp := none
  deriving Repr

structure Metadata where
  annotations : Option StringMap := none
  creationTimestamp : Option Timestamp := none
  deletionGracePeriodSeconds : Option Int := none
  deletionTimestamp : Option Timestamp := none
  finalizers : Option (List String) := none
  generateName : Option String := none
  generation : Option Int := none
  labels : Option StringMap := none
  managedFields : Option (List ManagedFields) := none
  name : Option String := none
  namespaceName : Option String := none
  ownerReferences : Option (List OwnerReference) := none
  resourceVersion : Option String := none
  selfLink : Option String := none
  uid : Option String := none
  deriving Repr, Inhabited

namespace Metadata

/-- What an object is called: its name, else the name it asks to be generated from. -/
def displayName (m : Metadata) : String := (m.name <|> m.generateName).getD ""

/-- Absent labels are as good as none. -/
def labelMap (m : Metadata) : StringMap := m.labels.getD .empty

end Metadata

namespace Json.Read

/-- Why a text is no point in time. -/
def timestampFault? (s : String) : Option String :=
  match Timestamp.parse s with
  | .ok _ => none
  | .error fault => some fault.message

def timestamp : Reader Timestamp where
  shape := .readable .timestamp timestampFault?
  read
    | .text s =>
      match Timestamp.parse s with
      | .ok t => .ok t
      | .error fault => .error (.unreadable fault.message)
    | j => .error (.mismatch j .timestamp)

def anything : Reader Json := ⟨.anything, .ok⟩

/-- Null stands for the empty text. -/
def textOrEmpty : Reader String := map (·.getD "") (optional text)

end Json.Read

open Json

def OwnerReference.record : Record OwnerReference where
  name := "OwnerReference"
  fields := [
    .defaulted "apiVersion" Read.textOrEmpty fun v r => { r with apiVersion := v },
    .defaulted "blockOwnerDeletion" (Read.optional Read.boolean) fun v r =>
      { r with blockOwnerDeletion := v },
    .defaulted "controller" (Read.optional Read.boolean) fun v r => { r with controller := v },
    .defaulted "kind" Read.textOrEmpty fun v r => { r with kind := v },
    .defaulted "name" Read.textOrEmpty fun v r => { r with name := v },
    .defaulted "uid" Read.textOrEmpty fun v r => { r with uid := v }]
  blank := {}

def ManagedFields.record : Record ManagedFields where
  name := "ManagedFieldsEntry"
  fields := [
    .defaulted "apiVersion" (Read.optional Read.text) fun v r => { r with apiVersion := v },
    .defaulted "fieldsType" (Read.optional Read.text) fun v r => { r with fieldsType := v },
    .defaulted "fieldsV1" (Read.optional Read.anything) fun v r => { r with fields := v },
    .defaulted "manager" (Read.optional Read.text) fun v r => { r with manager := v },
    .defaulted "operation" (Read.optional Read.text) fun v r => { r with operation := v },
    .defaulted "subresource" (Read.optional Read.text) fun v r => { r with subresource := v },
    .defaulted "time" (Read.optional Read.timestamp) fun v r => { r with time := v }]
  blank := {}

def Metadata.record : Record Metadata where
  name := "ObjectMeta"
  fields := [
    .defaulted "annotations" (Read.optional Read.stringMap) fun v r => { r with annotations := v },
    .defaulted "creationTimestamp" (Read.optional Read.timestamp) fun v r =>
      { r with creationTimestamp := v },
    .defaulted "deletionGracePeriodSeconds" (Read.optional Read.integer64) fun v r =>
      { r with deletionGracePeriodSeconds := v },
    .defaulted "deletionTimestamp" (Read.optional Read.timestamp) fun v r =>
      { r with deletionTimestamp := v },
    .defaulted "finalizers" (Read.optional (Read.list Read.text)) fun v r =>
      { r with finalizers := v },
    .defaulted "generateName" (Read.optional Read.text) fun v r => { r with generateName := v },
    .defaulted "generation" (Read.optional Read.integer64) fun v r => { r with generation := v },
    .defaulted "labels" (Read.optional Read.stringMap) fun v r => { r with labels := v },
    .defaulted "managedFields" (Read.optional (Read.list ManagedFields.record.decodeObject))
      fun v r => { r with managedFields := v },
    .defaulted "name" (Read.optional Read.text) fun v r => { r with name := v },
    .defaulted "namespace" (Read.optional Read.text) fun v r => { r with namespaceName := v },
    .defaulted "ownerReferences" (Read.optional (Read.list OwnerReference.record.decodeObject))
      fun v r => { r with ownerReferences := v },
    .defaulted "resourceVersion" (Read.optional Read.text) fun v r =>
      { r with resourceVersion := v },
    .defaulted "selfLink" (Read.optional Read.text) fun v r => { r with selfLink := v },
    .defaulted "uid" (Read.optional Read.text) fun v r => { r with uid := v }]
  blank := {}

def StringMap.toJson (m : StringMap) : Json := .object (m.entries.map fun e => (e.1, .text e.2))

def OwnerReference.toJson (r : OwnerReference) : Json := Json.members [
  ("apiVersion", some (.text r.apiVersion)),
  ("blockOwnerDeletion", r.blockOwnerDeletion.map .bool),
  ("controller", r.controller.map .bool),
  ("kind", some (.text r.kind)),
  ("name", some (.text r.name)),
  ("uid", some (.text r.uid))]

def ManagedFields.toJson (f : ManagedFields) : Json := Json.members [
  ("apiVersion", f.apiVersion.map .text),
  ("fieldsType", f.fieldsType.map .text),
  ("fieldsV1", f.fields),
  ("manager", f.manager.map .text),
  ("operation", f.operation.map .text),
  ("subresource", f.subresource.map .text),
  ("time", f.time.map fun t => .text t.text)]

def Metadata.toJson (m : Metadata) : Json := Json.members [
  ("annotations", m.annotations.map StringMap.toJson),
  ("creationTimestamp", m.creationTimestamp.map fun t => .text t.text),
  ("deletionGracePeriodSeconds", m.deletionGracePeriodSeconds.map .integer),
  ("deletionTimestamp", m.deletionTimestamp.map fun t => .text t.text),
  ("finalizers", m.finalizers.map Json.texts),
  ("generateName", m.generateName.map .text),
  ("generation", m.generation.map .integer),
  ("labels", m.labels.map StringMap.toJson),
  ("managedFields", m.managedFields.map fun l => .array (l.map ManagedFields.toJson)),
  ("name", m.name.map .text),
  ("namespace", m.namespaceName.map .text),
  ("ownerReferences", m.ownerReferences.map fun l => .array (l.map OwnerReference.toJson)),
  ("resourceVersion", m.resourceVersion.map .text),
  ("selfLink", m.selfLink.map .text),
  ("uid", m.uid.map .text)]

end GatewayEvents
