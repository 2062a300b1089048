import GatewayEvents.Proofs.Dispatcher.Course
import Mathlib.Data.List.DropRight

/-! Which role each handler believes the local host to have. A handler believes the last
transition that it accepted itself, while the dispatcher goes by the last one that all of
them accepted. The two part when a transition that only some handlers accepted is called
off before it is told again: nobody takes it back from those who did accept it. After a
callback that settled a role, a handler is right exactly if it refused every transition
since the last complete one (`Ledger`). -/
namespace GatewayEvents.Dispatcher

variable {ω : Type} {d : Dispatcher ω}

/-- A transition as it was told: its direction, and which handlers accepted it, in order. -/
structure Transition where
  toGateway : Bool
  answers : List Bool

namespace Transition

def complete (t : Transition) : Bool := t.answers.all id

def acceptedBy (i : Nat) (t : Transition) : Bool := t.answers[i]?.getD false

end Transition

def transition? (told : Dispatch) : Option Transition :=
  match told.call with
  | .event (.transition toGateway) => some ⟨toGateway, told.deliveries.map (·.failure.isNone)⟩
  | _ => none

def transitionsIn (deeds : List Deed) : List Transition :=
  (dispatchesIn deeds).filterMap transition?

/-- The direction of the last transition that a handler accepted; without one the handler
takes the host for no gateway. -/
def believed (i : Nat) (told : List Transition) : Bool :=
  ((told.filter (·.acceptedBy i)).getLast?.map (·.toGateway)).getD false

/-- The transitions since the last one that every handler accepted. -/
def unsettled (told : List Transition) : List Transition := told.rtakeWhile (!·.complete)

def after (d : Dispatcher ω) : List Callback → State ω → State ω
  | [], s => s
  | callback :: rest, s => d.after rest (d.respond callback s).state

def deedsOf (d : Dispatcher ω) : List Callback → State ω → List Deed
  | [], _ => []
  | callback :: rest, s =>
    (d.respond callback s).deeds ++ d.deedsOf rest (d.respond callback s).state

/-- How the announced role and the transitions told so far fit together. -/
structure Ledger (d : Dispatcher ω) (announced : Bool) (told : List Transition) : Prop where
  calledOff : ∀ t ∈ unsettled told, t.toGateway ≠ announced
  agreed : ∀ i, i < d.registry.handlers.length →
    (believed i told = announced ↔ ∀ t ∈ unsettled told, t.acceptedBy i = false)

theorem ledger_nil : Ledger d false [] where
  calledOff := by simp [unsettled]
  agreed := by simp [unsettled, believed]

@[simp] theorem believed_concat (i : Nat) (told : List Transition) (t : Transition) :
    believed i (told ++ [t]) = if t.acceptedBy i then t.toGateway else believed i told := by
  cases accepted : t.acceptedBy i <;> simp [believed, accepted]

theorem unsettled_concat (told : List Transition) (t : Transition) :
    unsettled (told ++ [t]) = if t.complete then [] else unsettled told ++ [t] := by
  cases complete : t.complete <;> simp [unsettled, complete]

theorem Ledger.refused {announced : Bool} {told : List Transition} {t : Transition}
    (ledger : Ledger d announced told) (partly : t.complete = false)
    (against : t.toGateway ≠ announced) : Ledger d announced (told ++ [t]) where
  calledOff u member := by
    rw [unsettled_concat, partly] at member
    simp only [Bool.false_eq_true, if_false, List.mem_append, List.mem_singleton] at member
    rcases member with earlier | rfl
    · exact ledger.calledOff u earlier
    · exact against
  agreed i bound := by
    rw [unsettled_concat, partly, believed_concat]
    cases accepted : t.acceptedBy i with
    -- a handler that accepted it now believes the role that was called off
    | true => simp [against, accepted]
    | false => simpa [accepted, or_imp, forall_and] using ledger.agreed i bound

theorem ledger_complete {announced : Bool} {told : List Transition} {t : Transition}
    (complete : t.complete = true) (direction : t.toGateway = announced)
    (each : t.answers.length = d.registry.handlers.length) : Ledger d announced (told ++ [t]) where
  calledOff u member := by
    rw [unsettled_concat, complete] at member
    simp at member
  agreed i bound := by
    have accepted : t.acceptedBy i = true := by
      have here : i < t.answers.length := each ▸ bound
      simp only [Transition.complete, List.all_eq_true, id] at complete
      simp [Transition.acceptedBy, here, complete _ (List.getElem_mem here)]
    rw [unsettled_concat, complete, believed_concat, accepted]
    simp [direction]

section Telling
variable {told : Dispatch} {toGateway : Bool}

theorem Told.transition? (tells : d.Told (.transition toGateway) told) :
    transition? told = some ⟨toGateway, told.deliveries.map (·.failure.isNone)⟩ := by
  simp only [Dispatcher.transition?, tells.call]

theorem Told.transition?_eq_none {callback : Callback} (tells : d.Told (callback.event d) told) :
    Dispatcher.transition? told = none := by
  cases callback <;> simp only [Dispatcher.transition?, tells.call, Callback.event]

theorem complete_eq_succeeded (told : Dispatch) :
    (Transition.mk toGateway (told.deliveries.map (·.failure.isNone))).complete =
      told.succeeded := by
  simp [Transition.complete, told.succeeded_eq_all, List.all_map]

end Telling

theorem Ledger.respond {s : State ω} {told : List Transition} (ledger : Ledger d s.announced told)
    (callback : Callback) :
    Ledger d (d.respond callback s).state.announced
      (told ++ transitionsIn (d.respond callback s).deeds) := by
  have course := d.course_respond callback s
  simp only at course
  generalize d.respond callback s = o at course ⊢
  rw [transitionsIn]
  generalize dispatchesIn o.deeds = ds, o.state.announced = later, o.requeue = answer at course ⊢
  cases course with
  | told _ lastTold => simpa [lastTold.transition?_eq_none] using ledger
  | refused _ news transitionTold failed =>
    simp only [List.filterMap_cons, transitionTold.transition?, List.filterMap_nil]
    exact ledger.refused (by rw [complete_eq_succeeded, failed]) (Ne.symm news)
  | moved _ _ transitionTold accepted lastTold =>
    simp only [List.filterMap_cons, transitionTold.transition?, lastTold.transition?_eq_none,
      List.filterMap_nil]
    exact ledger_complete (by rw [complete_eq_succeeded, accepted]) rfl
      (by simpa using transitionTold.length)

theorem Ledger.after {s : State ω} {told : List Transition} (ledger : Ledger d s.announced told)
    (callbacks : List Callback) :
    Ledger d (d.after callbacks s).announced (told ++ transitionsIn (d.deedsOf callbacks s)) := by
  induction callbacks generalizing s told with
  | nil => simpa [Dispatcher.after, deedsOf, transitionsIn, dispatchesIn] using ledger
  | cons callback rest ih =>
    have later := ih (ledger.respond callback)
    simpa [Dispatcher.after, deedsOf, transitionsIn] using later

theorem Course.announced_of_answered {r announced later : Bool} {event : Event} {ds : List Dispatch}
    (course : Course d (some r) event announced ds false later) : later = r := by
  generalize answered : false = answer at course
  cases course with
  | told settled _ => exact settled r rfl
  | refused => contradiction
  | moved asked _ _ _ _ => exact (Option.some.inj asked).symm

/-- After a callback that asked for a role and did not fail, the flag and the announced role
are that role. -/
theorem onGateway_eq_announced {callback : Callback} {s : State ω}
    (asked : (callback.role d).isSome) (answered : (d.respond callback s).requeue = false) :
    (d.respond callback s).state.gateway.onGateway = (d.respond callback s).state.announced := by
  obtain ⟨r, role⟩ := Option.isSome_iff_exists.mp asked
  have course := d.course_respond callback s
  simp only [role, answered] at course
  rw [course.announced_of_answered]
  cases callback with
  | endpoint op e attempt =>
    have flag := onGateway_onEndpoint (d := d) op e attempt s
    rw [show d.roleOf op e = some r from role] at flag
    exact flag
  | node op n attempt => cases asked

/-- After any row of callbacks, whenever a change of a local endpoint that asks for a role is
answered without a failure, what a handler believes agrees with the flag exactly if that
handler refused each transition since the last one that all handlers accepted. -/
theorem believed_eq_onGateway_iff (d : Dispatcher ω) (world : ω) (earlier : List Callback)
    (last : Callback) (i : Nat) (present : i < d.registry.handlers.length)
    (asked : (last.role d).isSome)
    (answered : (d.respond last (d.after earlier (.initial world))).requeue = false) :
    let o := d.respond last (d.after earlier (.initial world))
    let told := transitionsIn (d.deedsOf earlier (.initial world) ++ o.deeds)
    believed i told = o.state.gateway.onGateway ↔ ∀ t ∈ unsettled told, t.acceptedBy i = false := by
  intro o told
  have ledger : Ledger d o.state.announced told := by
    have before : Ledger d (State.initial world).announced [] := ledger_nil
    simpa [told, o, transitionsIn] using (before.after earlier).respond last
  rw [show o.state.gateway.onGateway = o.state.announced from onGateway_eq_announced asked answered]
  exact ledger.agreed i present

section Examples

def reluctant (name : String) : Handler Nat where
  name := name
  plugins := [anyNetworkPlugin]
  transitionToGateway _ refusals :=
    ⟨if refusals = 0 then none else some "not yet", [], refusals - 1⟩
  transitionToNonGateway _ refusals :=
    ⟨if refusals = 0 then none else some "not yet", [], refusals - 1⟩

def pair : Dispatcher Nat where
  clusterId := "east"
  hostname := "here"
  registry := .ofHandlers "pair" "*" [.idle "first" [anyNetworkPlugin], reluctant "second"]

def localEndpoint (hostname : String) : Endpoint :=
  ⟨{ name := some "cable" }, { clusterId := "east", hostname := hostname }⟩

/-- The first handler accepts the transition to the gateway, the second refuses it, and the
gateway moves away before it is told again: the first is never told to go back. -/
theorem believed_after_partial_transition :
    let earlier : List Callback := [.endpoint .create (localEndpoint "here") 0]
    let last : Callback := .endpoint .update (localEndpoint "there") 0
    let o := pair.respond last (pair.after earlier (.initial 1))
    let told := transitionsIn (pair.deedsOf earlier (.initial 1) ++ o.deeds)
    o.requeue = false ∧ last.role pair = some false ∧ o.state.gateway.onGateway = false ∧
      believed 0 told = true := by
  decide

/-- The transition is told again before anything else happens, and both handlers agree. -/
theorem believed_after_repeated_transition :
    let earlier : List Callback := [.endpoint .create (localEndpoint "here") 0]
    let last : Callback := .endpoint .create (localEndpoint "here") 1
    let o := pair.respond last (pair.after earlier (.initial 1))
    let told := transitionsIn (pair.deedsOf earlier (.initial 1) ++ o.deeds)
    1 < pair.registry.handlers.length ∧ (last.role pair).isSome ∧ o.requeue = false ∧
      believed 1 told = o.state.gateway.onGateway :=
  ⟨by decide, by decide, by decide,
    (believed_eq_onGateway_iff pair 1 [.endpoint .create (localEndpoint "here") 0]
      (.endpoint .create (localEndpoint "here") 1) 1 (by decide) (by decide) (by decide)).mpr
      (by decide)⟩

end Examples

end GatewayEvents.Dispatcher
