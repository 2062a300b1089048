import GatewayEvents.Registry

/-! The dispatcher turns callbacks about endpoints and nodes into gateway state and
events. Remote endpoints go into the state. A local endpoint decides the role of the
local host: its handlers are told of a transition before they are told of the endpoint,
and a transition that some handler refused is told again. A node of the local host only
sets the flag. A callback answers whether it wants to be run again. -/
namespace GatewayEvents

structure Dispatcher (ω : Type) where
  clusterId : String
  hostname : String
  registry : Registry ω
  isLocalNode : Node → String → Bool := Node.isLocal

namespace Dispatcher

/-- `announced` is the direction of the last transition that every handler accepted. -/
structure State (ω : Type) where
  gateway : GatewayState
  announced : Bool
  world : ω

def State.initial (world : ω) : State ω := ⟨.initial, false, world⟩

inductive Deed where
  | stateChange (line : LogLine)
  | announcing (hostname : String) (toGateway : Bool)
  | nodeFlag (node : String) (onGateway : Bool)
  | nodeGone (node : String)
  | dispatched (attempt : Nat) (dispatch : Dispatch)
  deriving Repr

def Deed.dispatch? : Deed → Option Dispatch
  | .dispatched _ d => some d
  | _ => none

def say (level : Level) (message : String) : LogLine := ⟨level, .dispatcher, message, []⟩

def failureLine (attempt : Nat) (d : Dispatch) : List LogLine :=
  match d.outcome with
  | .ok () => []
  | .error failure =>
    [say .warn ("Error handling " ++ d.call.name ++ " (attempt " ++ toString attempt ++ "): "
      ++ failure.message)]

def Deed.lines : Deed → List LogLine
  | .stateChange line => [line]
  | .announcing hostname true => [say .info ("Host " ++ hostname ++ " became the active gateway")]
  | .announcing hostname false =>
    [say .info ("Host " ++ hostname ++ " is no longer the active gateway")]
  | .nodeFlag node onGateway =>
    [say .debug ("Local node " ++ node ++ " updated, gateway: " ++ Json.boolText onGateway)]
  | .nodeGone node => [say .debug ("Local node " ++ node ++ " deleted")]
  | .dispatched attempt d => d.lines ++ failureLine attempt d

structure Outcome (ω : Type) where
  requeue : Bool
  deeds : List Deed
  state : State ω

def Outcome.after (earlier : List Deed) (o : Outcome ω) : Outcome ω :=
  { o with deeds := earlier ++ o.deeds }

variable (d : Dispatcher ω)

def forward (event : Event) (attempt : Nat) (s : State ω) : Outcome ω :=
  let sent := d.registry.dispatch event s.gateway s.world
  ⟨!sent.1.succeeded, [.dispatched attempt sent.1], { s with world := sent.2 }⟩

/-- Sets the flag, and tells the handlers unless they already accepted this role. -/
def takeRole (toGateway : Bool) (attempt : Nat) (s : State ω) : Outcome ω :=
  let flagged := { s with gateway := s.gateway.setOnGateway toGateway }
  if s.announced = toGateway then ⟨false, [], flagged⟩
  else
    let sent := d.forward (.transition toGateway) attempt flagged
    let announced := if sent.requeue then sent.state else { sent.state with announced := toGateway }
    ⟨sent.requeue, .announcing d.hostname toGateway :: sent.deeds, announced⟩

/-- The event follows once the role is settled. -/
def followRole (role : Outcome ω) (event : Event) (attempt : Nat) : Outcome ω :=
  if role.requeue then role else (d.forward event attempt role.state).after role.deeds

def isLocal (e : Endpoint) : Bool := e.isFromCluster d.clusterId

def onLocalEndpoint (op : Operation) (e : Endpoint) (attempt : Nat) (s : State ω) : Outcome ω :=
  let event := Event.endpoint .localCluster op e
  let here := e.isFromHost d.hostname
  match op with
  | .create | .update => d.followRole (d.takeRole here attempt s) event attempt
  | .delete =>
    if here then d.followRole (d.takeRole false attempt s) event attempt
    else d.forward event attempt s

/-- A remote endpoint is known until it is deleted. -/
def trackRemote (op : Operation) (e : Endpoint) (g : GatewayState) : GatewayState :=
  match op with
  | .create | .update => g.upsert e.identity e
  | .delete => (g.remove e.identity).2

def trackLines (op : Operation) (e : Endpoint) (g : GatewayState) : List LogLine :=
  match op with
  | .create | .update => g.upsertLines e.identity e
  | .delete => g.removeLines e.identity

def onRemoteEndpoint (op : Operation) (e : Endpoint) (attempt : Nat) (s : State ω) : Outcome ω :=
  (d.forward (.endpoint .remoteCluster op e) attempt
    { s with gateway := trackRemote op e s.gateway }).after
    ((trackLines op e s.gateway).map .stateChange)

def onEndpoint (op : Operation) (e : Endpoint) (attempt : Nat) (s : State ω) : Outcome ω :=
  if d.isLocal e then d.onLocalEndpoint op e attempt s else d.onRemoteEndpoint op e attempt s

/-- No transition is told: the flag may change before the handlers hear of a new role. -/
def onNode (op : Operation) (n : Node) (attempt : Nat) (s : State ω) : Outcome ω :=
  let event := Event.node op n
  if d.isLocalNode n d.hostname then
    match op with
    | .create | .update =>
      (d.forward event attempt { s with gateway := s.gateway.setOnGateway n.isGateway }).after
        [.nodeFlag n.name n.isGateway]
    | .delete =>
      (d.forward event attempt { s with gateway := s.gateway.setOnGateway false }).after
        [.nodeGone n.name]
  else d.forward event attempt s

end Dispatcher
end GatewayEvents
