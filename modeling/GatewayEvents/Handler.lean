import GatewayEvents.Event
import GatewayEvents.GatewayState
import GatewayEvents.Settings

/-! Event handlers. A handler has a name and the network plugins under which it runs, and
answers each call with a success or a failure. Whatever handlers remember lies in a world
`ω` that all of them share, so one value describes any set of handlers with any pattern
of failures. -/
namespace GatewayEvents

inductive Call where
  | event (event : Event)
  | stop
  deriving Repr

def Call.name : Call → String
  | .event e => e.name
  | .stop => "Stop"

def Call.object? : Call → Option String
  | .event e => e.object?
  | .stop => none

/-- What a handler could see of the gateway state: the flag, and the names of the remote
endpoints in ascending order. -/
structure Glimpse where
  onGateway : Bool
  remote : List String
  deriving DecidableEq, Repr

def ascending (names : List String) : List String := names.mergeSort fun a b => decide (a ≤ b)

def Glimpse.ofState (s : GatewayState) : Glimpse :=
  ⟨s.onGateway, ascending (s.snapshot.map Endpoint.identity)⟩

/-- A call that was made, with what the handler could see if it was given the state. -/
structure CallRecord where
  handler : String
  call : String
  object : Option String
  seen : Option Glimpse
  deriving DecidableEq, Repr

/-- What a handler leaves behind while it works on a call. -/
inductive Note where
  | line (line : LogLine)
  | call (record : CallRecord)
  deriving DecidableEq, Repr

def Note.line? : Note → Option LogLine
  | .line l => some l
  | .call _ => none

def Note.call? : Note → Option CallRecord
  | .line _ => none
  | .call c => some c

/-- No failure means that the handler accepted the call. -/
structure Answer (ω : Type) where
  failure : Option String
  notes : List Note
  world : ω

/-- What one method of a handler does. It sees the state only if the handler was given it. -/
abbrev Work (ω : Type) := Option GatewayState → ω → Answer ω

def Work.nothing : Work ω := fun _ world => ⟨none, [], world⟩

/-- A handler implements the methods for the events that it cares about; the others succeed
without doing anything. -/
structure Handler (ω : Type) where
  name : String
  plugins : List String
  attached : Bool := false
  stop : Work ω := .nothing
  transitionToGateway : Work ω := .nothing
  transitionToNonGateway : Work ω := .nothing
  localEndpointCreated : Endpoint → Work ω := fun _ => .nothing
  localEndpointUpdated : Endpoint → Work ω := fun _ => .nothing
  localEndpointRemoved : Endpoint → Work ω := fun _ => .nothing
  remoteEndpointCreated : Endpoint → Work ω := fun _ => .nothing
  remoteEndpointUpdated : Endpoint → Work ω := fun _ => .nothing
  remoteEndpointRemoved : Endpoint → Work ω := fun _ => .nothing
  nodeCreated : Node → Work ω := fun _ => .nothing
  nodeUpdated : Node → Work ω := fun _ => .nothing
  nodeRemoved : Node → Work ω := fun _ => .nothing

namespace Handler

def supports (h : Handler ω) (plugin : String) : Bool :=
  h.plugins.any fun p => p = anyNetworkPlugin || p = plugin

def attach (h : Handler ω) : Handler ω := { h with attached := true }

/-- Runs the method that goes with the event. -/
def deliver (h : Handler ω) : Event → Work ω
  | .transition true => h.transitionToGateway
  | .transition false => h.transitionToNonGateway
  | .endpoint .localCluster .create e => h.localEndpointCreated e
  | .endpoint .localCluster .update e => h.localEndpointUpdated e
  | .endpoint .localCluster .delete e => h.localEndpointRemoved e
  | .endpoint .remoteCluster .create e => h.remoteEndpointCreated e
  | .endpoint .remoteCluster .update e => h.remoteEndpointUpdated e
  | .endpoint .remoteCluster .delete e => h.remoteEndpointRemoved e
  | .node .create n => h.nodeCreated n
  | .node .update n => h.nodeUpdated n
  | .node .delete n => h.nodeRemoved n

def receive (h : Handler ω) : Call → Work ω
  | .event e => h.deliver e
  | .stop => h.stop

/-- Only an attached handler sees the state. -/
def answer (h : Handler ω) (call : Call) (s : GatewayState) (world : ω) : Answer ω :=
  h.receive call (if h.attached then some s else none) world

@[simp] theorem receive_attach (h : Handler ω) (call : Call) :
    h.attach.receive call = h.receive call := rfl

@[simp] theorem answer_attach (h : Handler ω) (call : Call) (s : GatewayState) (world : ω) :
    h.attach.answer call s world = h.receive call (some s) world := rfl

def idle (name : String) (plugins : List String) : Handler ω where
  name := name
  plugins := plugins

@[simp] theorem receive_idle (name : String) (plugins : List String) (call : Call) :
    (idle name plugins : Handler ω).receive call = .nothing := by
  rcases call with ((_ | _) | ⟨_ | _, _ | _ | _, _⟩ | ⟨_ | _ | _, _⟩) | _ <;> rfl

/-- A handler that implements all methods alike. -/
def uniform (name : String) (plugins : List String) (work : Call → Work ω) : Handler ω where
  name := name
  plugins := plugins
  stop := work .stop
  transitionToGateway := work (.event (.transition true))
  transitionToNonGateway := work (.event (.transition false))
  localEndpointCreated e := work (.event (.endpoint .localCluster .create e))
  localEndpointUpdated e := work (.event (.endpoint .localCluster .update e))
  localEndpointRemoved e := work (.event (.endpoint .localCluster .delete e))
  remoteEndpointCreated e := work (.event (.endpoint .remoteCluster .create e))
  remoteEndpointUpdated e := work (.event (.endpoint .remoteCluster .update e))
  remoteEndpointRemoved e := work (.event (.endpoint .remoteCluster .delete e))
  nodeCreated n := work (.event (.node .create n))
  nodeUpdated n := work (.event (.node .update n))
  nodeRemoved n := work (.event (.node .delete n))

@[simp] theorem receive_uniform (name : String) (plugins : List String) (work : Call → Work ω)
    (call : Call) : (uniform name plugins work).receive call = work call := by
  rcases call with ((_ | _) | ⟨_ | _, _ | _ | _, _⟩ | ⟨_ | _ | _, _⟩) | _ <;> rfl

end Handler
end GatewayEvents
