import GatewayEvents.Handler

/-! The registry of the handlers that run under one network plugin. An event goes to all
of them in order; a failing handler keeps none of the later ones from being called, and
all failures of one dispatch are reported together. -/
namespace GatewayEvents

structure HandlerFailure where
  handler : String
  reason : String
  deriving DecidableEq, Repr

/-- The failures of one operation, in call order. -/
structure RegistryFailure where
  registry : String
  operation : String
  failures : List HandlerFailure
  deriving DecidableEq, Repr

def HandlerFailure.message (f : HandlerFailure) : String := f.handler ++ ": " ++ f.reason

def RegistryFailure.message (f : RegistryFailure) : String :=
  f.operation ++ " failed in registry " ++ f.registry ++ ": "
    ++ String.intercalate "; " (f.failures.map HandlerFailure.message)

structure Delivery where
  handler : String
  notes : List Note
  failure : Option String
  deriving DecidableEq, Repr

def Delivery.failed? (d : Delivery) : Option HandlerFailure := d.failure.map (⟨d.handler, ·⟩)

/-- One round of calls, one delivery for each handler in order. -/
structure Dispatch where
  registry : String
  call : Call
  deliveries : List Delivery
  deriving Repr

namespace Dispatch

def failures (d : Dispatch) : List HandlerFailure := d.deliveries.filterMap Delivery.failed?

def outcome (d : Dispatch) : Except RegistryFailure Unit :=
  if d.failures.isEmpty then .ok () else .error ⟨d.registry, d.call.name, d.failures⟩

def succeeded (d : Dispatch) : Bool := d.failures.isEmpty

theorem succeeded_eq_all (d : Dispatch) :
    d.succeeded = d.deliveries.all (·.failure.isNone) := by
  obtain ⟨registry, call, deliveries⟩ := d
  induction deliveries with
  | nil => rfl
  | cons first rest ih =>
    obtain ⟨handler, notes, failure⟩ := first
    cases failure with
    | none => simpa [succeeded, failures, List.filterMap_cons, Delivery.failed?] using ih
    | some reason => simp [succeeded, failures, Delivery.failed?]

def calls (d : Dispatch) : List CallRecord :=
  d.deliveries.flatMap fun delivery => delivery.notes.filterMap Note.call?

/-- Each delivery of an event is announced; stopping is not. -/
def announcement (d : Dispatch) (delivery : Delivery) : List LogLine :=
  match d.call with
  | .event e => [⟨.debug, .registry,
      "Event registry " ++ d.registry ++ ": " ++ e.name ++ " -> " ++ delivery.handler, []⟩]
  | .stop => []

def lines (d : Dispatch) : List LogLine :=
  d.deliveries.flatMap fun delivery =>
    d.announcement delivery ++ delivery.notes.filterMap Note.line?

end Dispatch

structure Registry (ω : Type) where
  name : String
  networkPlugin : String
  handlers : List (Handler ω)

namespace Registry

def ofHandlers (name plugin : String) (candidates : List (Handler ω)) : Registry ω :=
  ⟨name, plugin, candidates.filter (·.supports plugin)⟩

def selectionLine (name plugin : String) (h : Handler ω) : LogLine :=
  if h.supports plugin then
    ⟨.info, .registry,
      "Event registry " ++ name ++ ": adding handler " ++ h.name ++ " for network plugin "
        ++ plugin, []⟩
  else
    ⟨.debug, .registry,
      "Event registry " ++ name ++ ": ignoring handler " ++ h.name
        ++ " (does not support " ++ plugin ++ ")", []⟩

def selectionLines (name plugin : String) (candidates : List (Handler ω)) : List LogLine :=
  candidates.map (selectionLine name plugin)

def handlerNames (r : Registry ω) : List String := r.handlers.map (·.name)

def describe (r : Registry ω) : String :=
  "Registry \x7b name: " ++ Text.quoted r.name
    ++ ", network_plugin: " ++ Text.quoted r.networkPlugin
    ++ ", handlers: " ++ Text.quotedList r.handlerNames ++ " \x7d"

def attach (r : Registry ω) : Registry ω := { r with handlers := r.handlers.map Handler.attach }

/-- Calls each handler once, in order, whatever the earlier ones answered. -/
def deliverAll (call : Call) (s : GatewayState) : List (Handler ω) → ω → List Delivery × ω
  | [], world => ([], world)
  | h :: rest, world =>
    let answer := h.answer call s world
    let later := deliverAll call s rest answer.world
    (⟨h.name, answer.notes, answer.failure⟩ :: later.1, later.2)

theorem length_deliverAll (call : Call) (s : GatewayState) (handlers : List (Handler ω))
    (world : ω) : (deliverAll call s handlers world).1.length = handlers.length := by
  induction handlers generalizing world with
  | nil => rfl
  | cons h rest ih => simp [deliverAll, ih]

theorem failure_deliverAll {handlers : List (Handler ω)} {call : Call} {s : GatewayState}
    (accepting : ∀ h ∈ handlers, ∀ seen world, (h.receive call seen world).failure = none)
    {world : ω} {delivery : Delivery} (member : delivery ∈ (deliverAll call s handlers world).1) :
    delivery.failure = none := by
  induction handlers generalizing world with
  | nil => cases member
  | cons h rest ih =>
    rcases List.mem_cons.mp member with rfl | later
    · exact accepting h (by simp) _ _
    · exact ih (fun other among => accepting other (by simp [among])) later

def round (r : Registry ω) (call : Call) (s : GatewayState) (world : ω) : Dispatch × ω :=
  let delivered := deliverAll call s r.handlers world
  (⟨r.name, call, delivered.1⟩, delivered.2)

def dispatch (r : Registry ω) (event : Event) (s : GatewayState) (world : ω) : Dispatch × ω :=
  r.round (.event event) s world

def stopHandlers (r : Registry ω) (s : GatewayState) (world : ω) : Dispatch × ω :=
  r.round .stop s world

end Registry
end GatewayEvents
