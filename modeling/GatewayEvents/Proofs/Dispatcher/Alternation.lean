import GatewayEvents.Proofs.Dispatcher.Agreement
import Mathlib.Data.List.Chain

/-! The order in which transitions and events are told. A transition is told exactly when a
callback asks for the role that is not the announced one, and before anything else; its event
follows only if every handler accepted it. So the accepted transitions alternate, the last of
them is the announced role (`Alternating`), and no event of a local endpoint is told under a
role that contradicts it (`Course.announced_at_event`). -/
namespace GatewayEvents.Dispatcher

variable {ω : Type} {d : Dispatcher ω} {role : Option Bool} {event : Event}
  {announced answer later : Bool} {ds told : List Dispatch}

def accepted? (told : Dispatch) : Option Bool :=
  match told.call with
  | .event (.transition toGateway) => if told.succeeded then some toGateway else none
  | _ => none

def acceptedIn (ds : List Dispatch) : List Bool := ds.filterMap accepted?

/-- The role that was announced last by these rounds of calls. -/
def announcedBy (ds : List Dispatch) : Bool := (acceptedIn ds).getLast?.getD false

@[simp] theorem acceptedIn_append (ds later : List Dispatch) :
    acceptedIn (ds ++ later) = acceptedIn ds ++ acceptedIn later := List.filterMap_append

/-- The accepted transitions alternate, beginning with the one to the gateway, and the last of
them is the announced role. -/
structure Alternating (announced : Bool) (told : List Dispatch) : Prop where
  strict : (false :: acceptedIn told).IsChain (· ≠ ·)
  last : announcedBy told = announced

theorem alternating_nil : Alternating false [] where
  strict := .singleton false
  last := rfl

theorem Alternating.silent (before : Alternating announced told) (silent : acceptedIn ds = []) :
    Alternating announced (told ++ ds) where
  strict := by simpa [silent] using before.strict
  last := by simpa [announcedBy, silent] using before.last

theorem Alternating.accept {r : Bool} (before : Alternating announced told)
    (single : acceptedIn ds = [r]) (news : announced ≠ r) : Alternating r (told ++ ds) where
  strict := by
    rw [acceptedIn_append, single, ← List.cons_append]
    refine before.strict.append (.singleton r) ?_
    intro x last y first
    obtain rfl := Option.some.inj first
    rw [List.getLast?_cons, ← announcedBy, before.last] at last
    exact Option.some.inj last ▸ news
  last := by simp [announcedBy, single]

section Telling
variable {t : Dispatch} {toGateway : Bool}

theorem Told.accepted?_transition (tells : d.Told (.transition toGateway) t) :
    accepted? t = if t.succeeded then some toGateway else none := by
  simp only [accepted?, tells.call]

theorem Told.accepted?_event {callback : Callback} (tells : d.Told (callback.event d) t) :
    accepted? t = none := by
  cases callback <;> simp only [accepted?, tells.call, Callback.event]

theorem Told.not_transition {callback : Callback} (tells : d.Told (callback.event d) t) :
    t.call ≠ .event (.transition toGateway) := by
  rw [tells.call]
  cases callback <;> simp [Callback.event]

end Telling

section Course
variable {callback : Callback}
  (course : Course d role (callback.event d) announced ds answer later)
include course

/-- A course announces nothing, or the role that it asks for. -/
theorem Course.accepted :
    acceptedIn ds = [] ∧ later = announced ∨ acceptedIn ds = [later] ∧ announced ≠ later := by
  cases course with
  | told _ lastTold => exact .inl ⟨by simp [acceptedIn, lastTold.accepted?_event], rfl⟩
  | refused _ _ transitionTold failed =>
    exact .inl ⟨by simp [acceptedIn, transitionTold.accepted?_transition, failed], rfl⟩
  | moved _ news transitionTold accepted lastTold =>
    refine .inr ⟨?_, news⟩
    simp [acceptedIn, transitionTold.accepted?_transition, accepted, lastTold.accepted?_event]

/-- A transition is told exactly if the role that is asked for is not the announced one. -/
theorem Course.transition_iff :
    (∃ t ∈ ds, ∃ r, t.call = .event (.transition r)) ↔ ∃ r, role = some r ∧ announced ≠ r := by
  cases course with
  | told settled lastTold =>
    constructor
    · rintro ⟨t, member, r, call⟩
      obtain rfl := List.mem_singleton.mp member
      exact absurd call lastTold.not_transition
    · rintro ⟨r, asked, news⟩
      exact absurd (settled r asked) news
  | refused asked news transitionTold _ =>
    exact ⟨fun _ => ⟨_, asked, news⟩, fun _ => ⟨_, by simp, _, transitionTold.call⟩⟩
  | moved asked news transitionTold _ _ =>
    exact ⟨fun _ => ⟨_, asked, news⟩, fun _ => ⟨_, by simp, _, transitionTold.call⟩⟩

/-- A transition is told first and in the direction asked for; if it fails, nothing follows. -/
theorem Course.transition_first {t : Dispatch} {r : Bool} (member : t ∈ ds)
    (call : t.call = .event (.transition r)) :
    role = some r ∧ (∃ rest, ds = t :: rest ∧ ∀ u ∈ rest, u.call = .event (callback.event d)) ∧
      (t.succeeded = false → answer = true ∧ ds = [t]) := by
  cases course with
  | told _ lastTold =>
    obtain rfl := List.mem_singleton.mp member
    exact absurd call lastTold.not_transition
  | refused asked _ transitionTold _ =>
    obtain rfl := List.mem_singleton.mp member
    obtain rfl : _ = r := by simpa [transitionTold.call] using call
    exact ⟨asked, ⟨[], rfl, by simp⟩, fun _ => ⟨rfl, rfl⟩⟩
  | @moved _ transition last asked _ transitionTold accepted lastTold =>
    rcases List.mem_cons.mp member with rfl | second
    · obtain rfl : _ = r := by simpa [transitionTold.call] using call
      refine ⟨asked, ⟨[last], rfl, ?_⟩, fun failed => ?_⟩
      · simpa using lastTold.call
      · rw [accepted] at failed
        contradiction
    · obtain rfl := List.mem_singleton.mp second
      exact absurd call lastTold.not_transition

/-- When an event of an endpoint is told, it is the event of the callback, and the role that
the callback asks for has been announced. -/
theorem Course.announced_at_event {before after : List Dispatch} {t : Dispatch} {op : Operation}
    {origin : Origin} {e : Endpoint} (history : Alternating announced told)
    (split : ds = before ++ t :: after) (call : t.call = .event (.endpoint origin op e)) :
    callback.event d = .endpoint origin op e ∧ announcedBy (told ++ before) = later ∧
      ∀ r, role = some r → later = r := by
  cases course with
  | told settled lastTold =>
    cases before with
    | nil =>
      obtain ⟨rfl, -⟩ := List.cons.inj split
      exact ⟨by simpa [lastTold.call] using call, by simpa using history.last, settled⟩
    | cons first rest => simp at split
  | refused _ _ transitionTold _ =>
    cases before with
    | nil =>
      obtain ⟨rfl, -⟩ := List.cons.inj split
      simp [transitionTold.call] at call
    | cons first rest => simp at split
  | moved asked news transitionTold accepted lastTold =>
    cases before with
    | nil =>
      obtain ⟨rfl, -⟩ := List.cons.inj split
      simp [transitionTold.call] at call
    | cons first rest =>
      obtain ⟨rfl, tail⟩ := List.cons.inj split
      cases rest with
      | cons second rest => simp at tail
      | nil =>
        obtain ⟨rfl, -⟩ := List.cons.inj tail
        refine ⟨by simpa [lastTold.call] using call, ?_, fun r other => ?_⟩
        · exact (history.accept (by simp [acceptedIn, transitionTold.accepted?_transition,
            accepted]) news).last
        · exact Option.some.inj (asked.symm.trans other)

end Course

theorem Alternating.respond {s : State ω} (before : Alternating s.announced told)
    (callback : Callback) :
    Alternating (d.respond callback s).state.announced
      (told ++ dispatchesIn (d.respond callback s).deeds) := by
  rcases (d.course_respond callback s).accepted with ⟨silent, same⟩ | ⟨single, news⟩
  · exact same ▸ before.silent silent
  · exact before.accept single news

theorem Alternating.after {s : State ω} (before : Alternating s.announced told)
    (callbacks : List Callback) :
    Alternating (d.after callbacks s).announced (told ++ dispatchesIn (d.deedsOf callbacks s)) := by
  induction callbacks generalizing s told with
  | nil => simpa [Dispatcher.after, deedsOf, dispatchesIn] using before
  | cons callback rest ih => simpa [Dispatcher.after, deedsOf] using ih (before.respond callback)

theorem role_against_iff {callback : Callback} {announced : Bool} :
    (∃ r, callback.role d = some r ∧ announced ≠ r) ↔
      ∃ op e attempt, callback = .endpoint op e attempt ∧ d.isLocal e = true ∧
        (op ≠ .delete ∧ e.isFromHost d.hostname ≠ announced ∨
          op = .delete ∧ e.isFromHost d.hostname = true ∧ announced = true) := by
  cases callback with
  | node op n attempt => simp [Callback.role]
  | endpoint op e attempt =>
    cases here : d.isLocal e <;> cases op <;> cases host : e.isFromHost d.hostname <;>
      cases announced <;> simp [Callback.role, roleOf, here, host]

theorem role_of_localEvent {callback : Callback} {op : Operation} {e : Endpoint}
    (own : callback.event d = .endpoint .localCluster op e) :
    d.isLocal e = true ∧ callback.role d = d.roleOf op e := by
  cases callback with
  | node op n attempt => simp [Callback.event] at own
  | endpoint op' e' attempt =>
    simp only [Callback.event, Event.endpoint.injEq] at own
    obtain ⟨origin, rfl, rfl⟩ := own
    cases here : d.isLocal e' with
    | true => exact ⟨rfl, rfl⟩
    | false => simp [originOf, here] at origin

/-- Accepted transitions alternate, beginning with the one to the gateway. A callback tells of one
at most, before its event and only against the announced role, which fits each local endpoint by the
time an event of it is told. -/
theorem transitions_alternate_before_events (d : Dispatcher ω) (world : ω)
    (earlier : List Callback) (last : Callback) :
    let s := d.after earlier (.initial world)
    let told := dispatchesIn (d.deedsOf earlier (.initial world))
    let o := d.respond last s
    let ds := dispatchesIn o.deeds
    ((false :: acceptedIn told).IsChain (· ≠ ·) ∧
      (s.announced = true ↔ (acceptedIn told).getLast? = some true)) ∧
    ((∃ t ∈ ds, ∃ r, t.call = .event (.transition r)) ↔
      ∃ op e attempt, last = .endpoint op e attempt ∧ d.isLocal e = true ∧
        (op ≠ .delete ∧ e.isFromHost d.hostname ≠ s.announced ∨
          op = .delete ∧ e.isFromHost d.hostname = true ∧ s.announced = true)) ∧
    (∀ t ∈ ds, ∀ r, t.call = .event (.transition r) →
      last.role d = some r ∧
      (∃ rest, ds = t :: rest ∧ ∀ u ∈ rest, u.call = .event (last.event d)) ∧
      (t.succeeded = false → o.requeue = true ∧ ds = [t])) ∧
    (∀ before t after op e, ds = before ++ t :: after →
      t.call = .event (.endpoint .localCluster op e) →
      o.state.announced = announcedBy (told ++ before) ∧
      (op ≠ .delete → announcedBy (told ++ before) = e.isFromHost d.hostname) ∧
      (op = .delete → e.isFromHost d.hostname = true → announcedBy (told ++ before) = false)) := by
  intro s told o ds
  have course := d.course_respond last s
  have history : Alternating s.announced told := by
    have before : Alternating (State.initial world).announced [] := alternating_nil
    simpa [told, s] using before.after earlier
  refine ⟨⟨history.strict, ?_⟩, ?_, ?_, ?_⟩
  · rw [← history.last, announcedBy]
    cases (acceptedIn told).getLast? <;> simp
  · exact course.transition_iff.trans role_against_iff
  · exact fun t member r call => course.transition_first member call
  · intro before t after op e split call
    obtain ⟨own, announced, fits⟩ := course.announced_at_event history split call
    obtain ⟨here, role⟩ := role_of_localEvent own
    refine ⟨announced.symm, fun keep => ?_, fun delete host => ?_⟩
    · exact announced.trans (fits _ (role.trans (roleOf_of_keep keep here)))
    · refine announced.trans (fits _ (role.trans ?_))
      rw [(Own.mk here host).roleOf, delete]
      rfl

/-- One handler refused the transition at first: it is told again, and before the creation. -/
theorem transition_told_again_before_creation :
    let creation : Callback := .endpoint .create (localEndpoint "here") 1
    let s := pair.after [.endpoint .create (localEndpoint "here") 0] (.initial 1)
    let ds := dispatchesIn (pair.respond creation s).deeds
    s.announced = false ∧ ∃ t r, t ∈ ds ∧ t.call = .event (.transition r) ∧
      creation.role pair = some r ∧
      ∃ rest, ds = t :: rest ∧ ∀ u ∈ rest, u.call = .event (creation.event pair) := by
  intro creation s ds
  obtain ⟨-, turns, first, -⟩ := transitions_alternate_before_events pair 1
    [.endpoint .create (localEndpoint "here") 0] creation
  obtain ⟨t, member, r, call⟩ := turns.mpr
    ⟨.create, localEndpoint "here", 1, rfl, by decide, .inl ⟨by decide, by decide⟩⟩
  obtain ⟨asked, order, -⟩ := first t member r call
  exact ⟨by decide, t, r, member, call, asked, order⟩

end GatewayEvents.Dispatcher
