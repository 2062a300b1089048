import GatewayEvents.Proofs.Dispatcher.Course

/-! What a handler receives of a callback about an endpoint. It may be told of a transition
only, and of the endpoint not before the callback is run again; but a callback that is
answered without a failure was received by every handler, once, and accepted. -/
namespace GatewayEvents.Dispatcher

variable {ω : Type} {d : Dispatcher ω} {i : Nat} {role : Option Bool} {origin : Origin}
  {op : Operation} {e : Endpoint} {told : Dispatch} {ds : List Dispatch}

structure Receipt where
  operation : Operation
  endpoint : Endpoint
  failure : Option String

/-- What the handler at this position received of a round of calls. -/
def receipt? (i : Nat) (told : Dispatch) : Option Receipt :=
  match told.call with
  | .event (.endpoint _ op e) => told.deliveries[i]?.map fun delivery => ⟨op, e, delivery.failure⟩
  | _ => none

def receiptsOf (i : Nat) (ds : List Dispatch) : List Receipt := ds.filterMap (receipt? i)

theorem Told.receipt?_transition {toGateway : Bool} (tells : d.Told (.transition toGateway) told) :
    receipt? i told = none := by
  simp only [receipt?, tells.call]

theorem Told.receipt?_endpoint (tells : d.Told (.endpoint origin op e) told) :
    receipt? i told = told.deliveries[i]?.map fun delivery => ⟨op, e, delivery.failure⟩ := by
  simp only [receipt?, tells.call]

theorem Told.receipt?_of_succeeded (tells : d.Told (.endpoint origin op e) told)
    (present : i < d.registry.handlers.length) (accepted : told.succeeded = true) :
    receipt? i told = some ⟨op, e, none⟩ := by
  have bound : i < told.deliveries.length := tells.length ▸ present
  have each : ∀ delivery ∈ told.deliveries, delivery.failure = none := by
    simpa [Dispatch.succeeded_eq_all] using accepted
  have answer := each _ (List.getElem_mem bound)
  rw [tells.receipt?_endpoint, List.getElem?_eq_getElem bound, Option.map_some, answer]

/-- Whatever a handler receives of a callback is the event of that callback. -/
theorem Course.receipt {announced answer later : Bool} {r : Receipt}
    (course : Course d role (.endpoint origin op e) announced ds answer later)
    (member : r ∈ receiptsOf i ds) : r.operation = op ∧ r.endpoint = e := by
  obtain ⟨told, among, received⟩ := List.mem_filterMap.mp member
  have own : ∀ last, d.Told (.endpoint origin op e) last → receipt? i last = some r →
      r.operation = op ∧ r.endpoint = e := by
    intro last tells found
    rw [tells.receipt?_endpoint] at found
    obtain ⟨delivery, -, rfl⟩ := Option.map_eq_some_iff.mp found
    exact ⟨rfl, rfl⟩
  cases course with
  | told _ lastTold =>
    rw [List.mem_singleton.mp among] at received
    exact own _ lastTold received
  | refused _ _ transitionTold _ =>
    rw [List.mem_singleton.mp among, transitionTold.receipt?_transition] at received
    contradiction
  | moved _ _ transitionTold _ lastTold =>
    rcases List.mem_cons.mp among with rfl | last
    · rw [transitionTold.receipt?_transition] at received
      contradiction
    · rw [List.mem_singleton.mp last] at received
      exact own _ lastTold received

/-- A callback that is not to be run again was received once, and accepted. -/
theorem Course.receipts_of_answered {announced later : Bool}
    (course : Course d role (.endpoint origin op e) announced ds false later)
    (present : i < d.registry.handlers.length) : receiptsOf i ds = [⟨op, e, none⟩] := by
  generalize answered : false = answer at course
  cases course with
  | told _ lastTold =>
    have accepted := lastTold.receipt?_of_succeeded present (by simpa using answered)
    simp only [receiptsOf, List.filterMap_cons, accepted, List.filterMap_nil]
  | refused => contradiction
  | moved _ _ transitionTold _ lastTold =>
    have accepted := lastTold.receipt?_of_succeeded present (by simpa using answered)
    simp only [receiptsOf, List.filterMap_cons, transitionTold.receipt?_transition, accepted,
      List.filterMap_nil]

end GatewayEvents.Dispatcher
