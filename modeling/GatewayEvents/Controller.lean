import GatewayEvents.Dispatcher
import GatewayEvents.Hostname
import GatewayEvents.Session

/-! The controller: a dispatcher behind an endpoint watch and a node watch. It is built in
stages, each of which may fail, and nothing is handed out or started before the last one
has succeeded. Stopping it stops the handlers; their failures are only logged. -/
namespace GatewayEvents

def Dispatcher.endpointCallback (d : Dispatcher ω) (op : Operation) (e : Endpoint) (attempt : Nat)
    (s : Dispatcher.State ω) : WatchLoop.Reply (Dispatcher.State ω) Dispatcher.Deed :=
  let o := d.onEndpoint op e attempt s
  ⟨o.requeue, o.deeds, o.state⟩

def Dispatcher.nodeCallback (d : Dispatcher ω) (op : Operation) (n : Node) (attempt : Nat)
    (s : Dispatcher.State ω) : WatchLoop.Reply (Dispatcher.State ω) Dispatcher.Deed :=
  let o := d.onNode op n attempt s
  ⟨o.requeue, o.deeds, o.state⟩

inductive WatchedKind where
  | node
  | endpoint
  deriving DecidableEq, Repr

def WatchedKind.Object : WatchedKind → Type
  | .node => Node
  | .endpoint => Endpoint

instance (kind : WatchedKind) : Watched kind.Object :=
  match kind with
  | .node => inferInstanceAs (Watched Node)
  | .endpoint => inferInstanceAs (Watched Endpoint)

inductive ControllerError where
  | hostname (fault : Hostname.Fault)
  | settings (fault : Settings.NotUnicode)
  | client (reason : String)
  | watcher (fault : MappingError)
  | start (fault : StartError)
  deriving DecidableEq, Repr

def ControllerError.message : ControllerError → String
  | .hostname fault => fault.message
  | .settings fault => "error processing env vars: " ++ fault.message
  | .client reason => "error creating Kubernetes client: " ++ reason
  | .watcher fault => "error creating resource watcher: " ++ fault.message
  | .start fault => "error starting the resource watcher: " ++ fault.message

namespace Controller

/-- What a controller is built from. Settings that are not given come from the environment, a client
that is not given is built from `access`, and a mapper that is not given asks the server through the
client. -/
structure Config (ρ ω : Type) where
  hostname : Hostname.Source
  settings : Option Settings
  environment : String → Settings.Variable
  access : ρ
  client : Option Client
  mapper : Option Resolver
  registry : Registry ω
  nodeEquivalent : Node → Node → Bool := Watched.sameLabels
  isLocalNode : Node → String → Bool := Node.isLocal
  policy : RetryPolicy := {}

end Controller

structure Controller (ω : Type) where
  settings : Settings
  dispatcher : Dispatcher ω
  session : Session WatchedKind.Object (Dispatcher.State ω) Dispatcher.Deed

namespace Controller

def hostname (c : Controller ω) : String := c.dispatcher.hostname

def watchNames (c : Controller ω) : List String := c.session.names

def watchedKinds : List ResourceKind := [Watched.kind Endpoint, Watched.kind Node]

/-- The loop behind the endpoint watch: only a change of version is an update. -/
def endpointLoop (d : Dispatcher ω) (policy : RetryPolicy) :
    WatchLoop.Config Endpoint (Dispatcher.State ω) Dispatcher.Deed where
  name := "Endpoint watcher for " ++ d.registry.name ++ " registry"
  equivalent := Watched.sameVersion
  policy := policy
  callback := d.endpointCallback

def nodeLoop (d : Dispatcher ω) (equivalent : Node → Node → Bool) (policy : RetryPolicy) :
    WatchLoop.Config Node (Dispatcher.State ω) Dispatcher.Deed where
  name := "Node watcher for " ++ d.registry.name ++ " registry"
  equivalent := equivalent
  policy := policy
  callback := d.nodeCallback

/-- Puts the parts together; the handlers are given the gateway state here. -/
def assemble (config : Config ρ ω) (hostname : String) (settings : Settings) : Controller ω :=
  let dispatcher : Dispatcher ω :=
    { clusterId := settings.clusterId
      hostname := hostname
      registry := config.registry.attach
      isLocalNode := config.isLocalNode }
  { settings := settings
    dispatcher := dispatcher
    session := .ofResources [
      ⟨.endpoint, settings.namespaceName, endpointLoop dispatcher config.policy⟩,
      ⟨.node, none, nodeLoop dispatcher config.nodeEquivalent config.policy⟩] }

/-- What came of building a controller: the requests made and the lines said on the way
stay, whatever the result; and `registry` is what others who hold the registry find. -/
structure Built (ω : Type) where
  result : Except ControllerError (Controller ω)
  requests : List String
  lines : List LogLine
  registry : Registry ω

def Config.loadSettings (config : Config ρ ω) : Except ControllerError Settings :=
  match config.settings with
  | some settings => .ok settings
  | none => (Settings.load config.environment).result.mapError .settings

section Build
variable (connect : ρ → Except String Client)

def Config.connected (config : Config ρ ω) : Except ControllerError Client :=
  match config.client with
  | some client => .ok client
  | none => (connect config.access).mapError .client

/-- The stages before the API server is asked anything. -/
def Config.prepare (config : Config ρ ω) :
    Except ControllerError (String × Settings × Resolver) := do
  let hostname ← (Hostname.read config.hostname).mapError ControllerError.hostname
  let settings ← config.loadSettings
  let client ← config.connected connect
  return (hostname, settings, config.mapper.getD (.discovering client))

/-- Builds a controller; `connect` builds clients. -/
def build (config : Config ρ ω) : Built ω :=
  match config.prepare connect with
  | .error fault => ⟨.error fault, [], [], config.registry⟩
  | .ok (hostname, settings, resolver) =>
    let mapping := Mapping.ofKinds resolver watchedKinds
    match mapping.result with
    | .error fault => ⟨.error (.watcher fault), mapping.requests, mapping.lines, config.registry⟩
    | .ok () =>
      let controller := assemble config hostname settings
      ⟨.ok controller, mapping.requests, mapping.lines, controller.dispatcher.registry⟩

end Build

inductive Entry where
  | line (line : LogLine)
  | session (entry : Session.Entry WatchedKind.Object Dispatcher.Deed)
  | stopped (time : Nat) (dispatch : Dispatch)

def say (level : Level) (message : String) : Entry := .line ⟨level, .controller, message, []⟩

structure Answer (ω : Type) where
  controller : Controller ω
  state : Dispatcher.State ω
  trace : List Entry
  started : Option (Except ControllerError Unit)

def announceStart : Session.Happening WatchedKind.Object → List Entry
  | .start _ => [say .info "Starting the Event controller..."]
  | _ => []

def announceStarted : Option (Except StartError Unit) → List Entry
  | some (.ok ()) => [say .info "Event controller started"]
  | _ => []

def happen (happening : Session.Happening WatchedKind.Object) (c : Controller ω)
    (s : Dispatcher.State ω) : Answer ω :=
  let p := c.session.happen happening s
  { controller := { c with session := p.session }
    state := p.world
    trace := announceStart happening ++ p.trace.map .session ++ announceStarted p.started
    started := p.started.map (·.mapError .start) }

def stopLines (d : Dispatch) : List Entry :=
  match d.outcome with
  | .ok () => []
  | .error failure =>
    [say .warn ("In Event Controller, stopping handlers returned error: " ++ failure.message)]

/-- Stops every handler; failures are only logged. -/
def stop (now : Nat) (c : Controller ω) (s : Dispatcher.State ω) : Answer ω :=
  let stopped := c.dispatcher.registry.stopHandlers s.gateway s.world
  { controller := c
    state := { s with world := stopped.2 }
    trace := [say .info "Event controller stopping", .stopped now stopped.1]
      ++ stopLines stopped.1
    started := none }

def Entry.lines : Entry → List LogLine
  | .line l => [l]
  | .session entry => entry.lines Dispatcher.Deed.lines
  | .stopped _ d => d.lines

end Controller
end GatewayEvents
