import GatewayEvents.Registry
import Mathlib.Logic.Function.Basic

/-! Handlers that keep a journal. Each method that such a handler runs is written down from inside:
which handler it is, which method of it, with what, the state at that time and the answer. Nothing
else changes by it: a round of calls goes as it would without the journal, to which it adds one
entry for each handler in order (`exists_recorded`). -/
namespace GatewayEvents

/-- A method of a handler, with what it is run on. -/
inductive Method where
  | stop
  | transitionToGateway
  | transitionToNonGateway
  | localEndpointCreated (endpoint : Endpoint)
  | localEndpointUpdated (endpoint : Endpoint)
  | localEndpointRemoved (endpoint : Endpoint)
  | remoteEndpointCreated (endpoint : Endpoint)
  | remoteEndpointUpdated (endpoint : Endpoint)
  | remoteEndpointRemoved (endpoint : Endpoint)
  | nodeCreated (node : Node)
  | nodeUpdated (node : Node)
  | nodeRemoved (node : Node)

def Call.method : Call → Method
  | .stop => .stop
  | .event (.transition true) => .transitionToGateway
  | .event (.transition false) => .transitionToNonGateway
  | .event (.endpoint .localCluster .create e) => .localEndpointCreated e
  | .event (.endpoint .localCluster .update e) => .localEndpointUpdated e
  | .event (.endpoint .localCluster .delete e) => .localEndpointRemoved e
  | .event (.endpoint .remoteCluster .create e) => .remoteEndpointCreated e
  | .event (.endpoint .remoteCluster .update e) => .remoteEndpointUpdated e
  | .event (.endpoint .remoteCluster .delete e) => .remoteEndpointRemoved e
  | .event (.node .create n) => .nodeCreated n
  | .event (.node .update n) => .nodeUpdated n
  | .event (.node .delete n) => .nodeRemoved n

/-- The run of a method, as the handler at a position saw and answered it. -/
structure Visit where
  position : Nat
  handler : String
  method : Method
  seen : Option GatewayState
  failure : Option String

def Visit.fault? (v : Visit) : Option HandlerFailure := v.failure.map (⟨v.handler, ·⟩)

/-- A world, and the journal that is kept beside it. -/
structure Journal (ω : Type) where
  world : ω
  visits : List Visit

namespace Handler

/-- One method of the handler, putting itself down in the journal. It is given the state in any
case, but the handler's own work goes by it only if the handler was attached. -/
def noting (h : Handler ω) (position : Nat) (method : Method) (work : Work ω) :
    Work (Journal ω) := fun seen journal =>
  let answer := work (if h.attached then seen else none) journal.world
  ⟨answer.failure, answer.notes, answer.world,
    journal.visits ++ [⟨position, h.name, method, seen, answer.failure⟩]⟩

/-- The handler, each of its methods keeping the journal. -/
def journaling (position : Nat) (h : Handler ω) : Handler (Journal ω) where
  name := h.name
  plugins := h.plugins
  attached := true
  stop := h.noting position .stop h.stop
  transitionToGateway := h.noting position .transitionToGateway h.transitionToGateway
  transitionToNonGateway := h.noting position .transitionToNonGateway h.transitionToNonGateway
  localEndpointCreated e :=
    h.noting position (.localEndpointCreated e) (h.localEndpointCreated e)
  localEndpointUpdated e :=
    h.noting position (.localEndpointUpdated e) (h.localEndpointUpdated e)
  localEndpointRemoved e :=
    h.noting position (.localEndpointRemoved e) (h.localEndpointRemoved e)
  remoteEndpointCreated e :=
    h.noting position (.remoteEndpointCreated e) (h.remoteEndpointCreated e)
  remoteEndpointUpdated e :=
    h.noting position (.remoteEndpointUpdated e) (h.remoteEndpointUpdated e)
  remoteEndpointRemoved e :=
    h.noting position (.remoteEndpointRemoved e) (h.remoteEndpointRemoved e)
  nodeCreated n := h.noting position (.nodeCreated n) (h.nodeCreated n)
  nodeUpdated n := h.noting position (.nodeUpdated n) (h.nodeUpdated n)
  nodeRemoved n := h.noting position (.nodeRemoved n) (h.nodeRemoved n)

/-- Each call runs the method that it is for, and that one alone. -/
theorem receive_journaling (h : Handler ω) (position : Nat) (call : Call) :
    (h.journaling position).receive call = h.noting position call.method (h.receive call) := by
  rcases call with ((_ | _) | ⟨_ | _, _ | _ | _, _⟩ | ⟨_ | _ | _, _⟩) | _ <;> rfl

end Handler

/-- No two calls are for the same method, and there is a call for each. -/
theorem Call.method_bijective : Function.Bijective Call.method := by
  constructor
  · rintro (((_ | _) | ⟨_ | _, _ | _ | _, _⟩ | ⟨_ | _ | _, _⟩) | _)
      (((_ | _) | ⟨_ | _, _ | _ | _, _⟩ | ⟨_ | _ | _, _⟩) | _) same <;> cases same <;> rfl
  · rintro (_ | _ | _ | e | e | e | e | e | e | n | n | n)
    exacts [⟨.stop, rfl⟩, ⟨.event (.transition true), rfl⟩, ⟨.event (.transition false), rfl⟩,
      ⟨.event (.endpoint .localCluster .create e), rfl⟩,
      ⟨.event (.endpoint .localCluster .update e), rfl⟩,
      ⟨.event (.endpoint .localCluster .delete e), rfl⟩,
      ⟨.event (.endpoint .remoteCluster .create e), rfl⟩,
      ⟨.event (.endpoint .remoteCluster .update e), rfl⟩,
      ⟨.event (.endpoint .remoteCluster .delete e), rfl⟩,
      ⟨.event (.node .create n), rfl⟩, ⟨.event (.node .update n), rfl⟩,
      ⟨.event (.node .delete n), rfl⟩]

def Registry.journaling (r : Registry ω) : Registry (Journal ω) where
  name := r.name
  networkPlugin := r.networkPlugin
  handlers := r.handlers.mapIdx Handler.journaling

/-- A round of calls to these handlers, as it went down in the journal and as it was reported. -/
structure Recorded (entries : List (Handler ω × Nat)) (call : Call) (g : GatewayState)
    (visits : List Visit) (deliveries : List Delivery) : Prop where
  calls : visits.map (fun v => (v.position, v.handler, v.method, v.seen)) =
    entries.map fun entry => (entry.2, entry.1.name, call.method, some g)
  answers : visits.map (fun v => (v.handler, v.failure)) =
    deliveries.map fun delivery => (delivery.handler, delivery.failure)

section Recorded
variable {entries : List (Handler ω × Nat)} {call : Call} {g : GatewayState}
  {visits : List Visit} {deliveries : List Delivery}

theorem recorded_nil : Recorded ([] : List (Handler ω × Nat)) call g [] [] := ⟨rfl, rfl⟩

theorem Recorded.cons {h : Handler ω} {position : Nat} {notes : List Note}
    {failure : Option String} (later : Recorded entries call g visits deliveries) :
    Recorded ((h, position) :: entries) call g
      (⟨position, h.name, call.method, some g, failure⟩ :: visits)
      (⟨h.name, notes, failure⟩ :: deliveries) where
  calls := congrArg (_ :: ·) later.calls
  answers := congrArg (_ :: ·) later.answers

/-- The failures reported are those that the handlers gave themselves, in the same order. -/
theorem Recorded.failures (recorded : Recorded entries call g visits deliveries) :
    deliveries.filterMap Delivery.failed? = visits.filterMap Visit.fault? := by
  let fault : String × Option String → Option HandlerFailure := fun answer =>
    answer.2.map (⟨answer.1, ·⟩)
  have reported : (deliveries.map fun delivery => (delivery.handler, delivery.failure)).filterMap
      fault = deliveries.filterMap Delivery.failed? := List.filterMap_map
  have given : (visits.map fun v => (v.handler, v.failure)).filterMap fault =
      visits.filterMap Visit.fault? := List.filterMap_map
  rw [← reported, ← recorded.answers, given]

theorem Recorded.outcome {told : Dispatch}
    (recorded : Recorded entries call g visits told.deliveries) :
    told.outcome =
      if ∀ v ∈ visits, v.failure = none then .ok ()
      else .error ⟨told.registry, told.call.name, visits.filterMap Visit.fault?⟩ := by
  have faultless : (visits.filterMap Visit.fault?).isEmpty ↔ ∀ v ∈ visits, v.failure = none := by
    simp [List.filterMap_eq_nil_iff, Visit.fault?]
  have reported : told.failures = visits.filterMap Visit.fault? := recorded.failures
  simp only [Dispatch.outcome, reported, faultless]

/-- Every handler is called once, in order and in the same state, whatever the others answer; and
nobody can tell whether a journal is kept. -/
theorem exists_recorded (entries : List (Handler ω × Nat)) (call : Call) (g : GatewayState)
    (journal : Journal ω) :
    let plain := Registry.deliverAll call g (entries.map Prod.fst) journal.world
    ∃ visits,
      Registry.deliverAll call g (entries.map fun entry => entry.1.journaling entry.2) journal =
        (plain.1, ⟨plain.2, journal.visits ++ visits⟩) ∧
      Recorded entries call g visits plain.1 := by
  induction entries generalizing journal with
  | nil => exact ⟨[], by simp [Registry.deliverAll], recorded_nil⟩
  | cons entry rest ih =>
    obtain ⟨h, position⟩ := entry
    let answer := h.answer call g journal.world
    let visit : Visit := ⟨position, h.name, call.method, some g, answer.failure⟩
    obtain ⟨visits, same, recorded⟩ := ih ⟨answer.world, journal.visits ++ [visit]⟩
    refine ⟨visit :: visits, ?_, recorded.cons⟩
    have first : (h.journaling position).answer call g journal =
        ⟨answer.failure, answer.notes, answer.world, journal.visits ++ [visit]⟩ := by
      rw [Handler.answer, Handler.receive_journaling]
      rfl
    simp only [List.map_cons, Registry.deliverAll, first, same, List.append_assoc,
      List.singleton_append]
    rfl

theorem exists_recorded_dispatch (r : Registry ω) (event : Event) (g : GatewayState)
    (journal : Journal ω) :
    let plain := r.dispatch event g journal.world
    ∃ visits, r.journaling.dispatch event g journal =
        (plain.1, ⟨plain.2, journal.visits ++ visits⟩) ∧
      Recorded r.handlers.zipIdx (.event event) g visits plain.1.deliveries := by
  obtain ⟨visits, same, recorded⟩ := exists_recorded r.handlers.zipIdx (.event event) g journal
  rw [List.zipIdx_map_fst] at same recorded
  refine ⟨visits, ?_, recorded⟩
  rw [Registry.dispatch, Registry.round, Registry.journaling, List.mapIdx_eq_zipIdx_map, same]
  rfl

end Recorded

end GatewayEvents
