import GatewayEvents.Proofs.Dispatcher.Agreement
import GatewayEvents.Proofs.Registry.Journal

/-! What handlers see while they are told of an event. The state is written before they are told,
and nothing writes it again until all of them have answered, so that in every round of calls each
handler finds the state that its event speaks of (`Fits`), and all of them find the same one. The
rounds are taken from a journal that the handlers keep themselves (`Noted`); it changes nothing
else. -/
namespace GatewayEvents.Dispatcher

variable {ω : Type} {d : Dispatcher ω}

/-- What an event says about the state in which it is told. -/
def Fits (d : Dispatcher ω) : Event → GatewayState → Prop
  | .transition toGateway, g => g.onGateway = toGateway
  | .endpoint .localCluster .create e, g => g.onGateway = e.isFromHost d.hostname
  | .endpoint .localCluster .update e, g => g.onGateway = e.isFromHost d.hostname
  | .endpoint .localCluster .delete e, g => e.isFromHost d.hostname → g.onGateway = false
  | .endpoint .remoteCluster .create e, g => g.get? e.identity = some e
  | .endpoint .remoteCluster .update e, g => g.get? e.identity = some e
  | .endpoint .remoteCluster .delete e, g => g.get? e.identity = none
  | .node .create n, g => d.isLocalNode n d.hostname → g.onGateway = n.isGateway
  | .node .update n, g => d.isLocalNode n d.hostname → g.onGateway = n.isGateway
  | .node .delete n, g => d.isLocalNode n d.hostname → g.onGateway = false

def journaling (d : Dispatcher ω) : Dispatcher (Journal ω) where
  clusterId := d.clusterId
  hostname := d.hostname
  registry := d.registry.journaling
  isLocalNode := d.isLocalNode

def State.journaled (visits : List Visit) (s : State ω) : State (Journal ω) :=
  ⟨s.gateway, s.announced, ⟨s.world, visits⟩⟩

/-- A round of calls about one event: the state at that time, how it was reported, and what the
handlers put down. -/
structure Round where
  event : Event
  state : GatewayState
  told : Dispatch
  visits : List Visit

/-- All handlers were told of the event, in order, and each of them in this state. -/
structure Round.Apt (d : Dispatcher ω) (r : Round) : Prop where
  call : r.told.call = .event r.event
  fits : d.Fits r.event r.state
  recorded : Recorded d.registry.handlers.zipIdx (.event r.event) r.state r.visits
    r.told.deliveries

/-- The same work with and without a journal, which grew by the rounds made. -/
structure Noted (d : Dispatcher ω) (visits : List Visit) (plain : Outcome ω)
    (noted : Outcome (Journal ω)) (rounds : List Round) : Prop where
  same : noted = ⟨plain.requeue, plain.deeds,
    plain.state.journaled (visits ++ rounds.flatMap Round.visits)⟩
  told : rounds.map Round.told = dispatchesIn plain.deeds
  apt : ∀ r ∈ rounds, r.Apt d

section Parts
variable {visits : List Visit} {event : Event} {attempt : Nat} {s : State ω} {toGateway : Bool}

theorem exists_noted_forward (visits : List Visit) (attempt : Nat)
    (fits : d.Fits event s.gateway) :
    ∃ rounds, d.Noted visits (d.forward event attempt s)
      (d.journaling.forward event attempt (s.journaled visits)) rounds := by
  obtain ⟨made, same, recorded⟩ :=
    exists_recorded_dispatch d.registry event s.gateway ⟨s.world, visits⟩
  let round : Round := ⟨event, s.gateway, (d.registry.dispatch event s.gateway s.world).1, made⟩
  refine ⟨[round], ?_, rfl, ?_⟩
  · have sent : d.journaling.registry.dispatch event (s.journaled visits).gateway
        (s.journaled visits).world = _ := same
    rw [forward, sent, List.flatMap_singleton]
    rfl
  · intro r member
    obtain rfl := List.mem_singleton.mp member
    exact ⟨rfl, fits, recorded⟩

/-- The state is written before the event is told. -/
theorem exists_noted_written {earlier : List Deed} (g : GatewayState)
    (silent : dispatchesIn earlier = []) (fits : d.Fits event g) :
    ∃ rounds, d.Noted visits ((d.forward event attempt { s with gateway := g }).after earlier)
      ((d.journaling.forward event attempt { s.journaled visits with gateway := g }).after earlier)
      rounds := by
  obtain ⟨rounds, noted⟩ :=
    exists_noted_forward (s := { s with gateway := g }) visits attempt fits
  have same : d.journaling.forward event attempt { s.journaled visits with gateway := g } = _ :=
    noted.same
  refine ⟨rounds, ?_, ?_, noted.apt⟩
  · rw [same]
    rfl
  · rw [Outcome.after, dispatchesIn_append, silent, List.nil_append, noted.told]

theorem exists_noted_takeRole (toGateway : Bool) (attempt : Nat) (s : State ω)
    (visits : List Visit) :
    ∃ rounds, d.Noted visits (d.takeRole toGateway attempt s)
      (d.journaling.takeRole toGateway attempt (s.journaled visits)) rounds := by
  by_cases same : s.announced = toGateway
  · rw [takeRole_of_announced same, takeRole_of_announced (s := s.journaled visits) same]
    refine ⟨[], ?_, rfl, by simp⟩
    rw [List.flatMap_nil, List.append_nil]
    rfl
  · have fits : d.Fits (.transition toGateway) (s.gateway.setOnGateway toGateway) := rfl
    obtain ⟨rounds, noted⟩ := exists_noted_forward
      (s := { s with gateway := s.gateway.setOnGateway toGateway }) visits attempt fits
    have sent : d.journaling.tellRole toGateway attempt (s.journaled visits) =
        ⟨(d.tellRole toGateway attempt s).requeue, (d.tellRole toGateway attempt s).deeds, _⟩ :=
      noted.same
    cases answer : (d.tellRole toGateway attempt s).requeue with
    | true =>
      have refused :
          (d.journaling.tellRole toGateway attempt (s.journaled visits)).requeue = true := by
        rw [sent, answer]
      rw [takeRole_of_refused same answer,
        takeRole_of_refused (s := s.journaled visits) same refused, sent]
      exact ⟨rounds, rfl, noted.told, noted.apt⟩
    | false =>
      have accepted :
          (d.journaling.tellRole toGateway attempt (s.journaled visits)).requeue = false := by
        rw [sent, answer]
      rw [takeRole_of_accepted same answer,
        takeRole_of_accepted (s := s.journaled visits) same accepted, sent]
      exact ⟨rounds, rfl, noted.told, noted.apt⟩

theorem Noted.append {plain next : Outcome ω} {noted later : Outcome (Journal ω)}
    {first second : List Round} (kept : d.Noted visits plain noted first)
    (followed : d.Noted (visits ++ first.flatMap Round.visits) next later second) :
    d.Noted visits (next.after plain.deeds) (later.after noted.deeds) (first ++ second) where
  same := by
    rw [kept.same, followed.same, List.flatMap_append, ← List.append_assoc]
    rfl
  told := by
    rw [Outcome.after, dispatchesIn_append, List.map_append, kept.told, followed.told]
  apt r member := by
    rcases List.mem_append.mp member with before | behind
    · exact kept.apt r before
    · exact followed.apt r behind

theorem Noted.followRole {role : Outcome ω} {noted : Outcome (Journal ω)} {rounds : List Round}
    (kept : d.Noted visits role noted rounds) (fits : d.Fits event role.state.gateway) :
    ∃ all, d.Noted visits (d.followRole role event attempt)
      (d.journaling.followRole noted event attempt) all := by
  have alike : noted.requeue = role.requeue := by rw [kept.same]
  cases answer : role.requeue with
  | true =>
    rw [Dispatcher.followRole, Dispatcher.followRole, alike, answer, if_pos rfl, if_pos rfl]
    exact ⟨rounds, kept⟩
  | false =>
    obtain ⟨later, followed⟩ :=
      exists_noted_forward (visits ++ rounds.flatMap Round.visits) attempt fits
    have reached : noted.state =
        role.state.journaled (visits ++ rounds.flatMap Round.visits) := by rw [kept.same]
    rw [Dispatcher.followRole, Dispatcher.followRole, alike, answer, reached,
      if_neg Bool.false_ne_true, if_neg Bool.false_ne_true]
    exact ⟨rounds ++ later, kept.append followed⟩

/-- A role is settled before its event, and the event finds the flag as the role says. -/
theorem exists_noted_followRole
    (fits : ∀ g : GatewayState, g.onGateway = toGateway → d.Fits event g) :
    ∃ rounds, d.Noted visits (d.followRole (d.takeRole toGateway attempt s) event attempt)
      (d.journaling.followRole (d.journaling.takeRole toGateway attempt (s.journaled visits))
        event attempt) rounds := by
  obtain ⟨rounds, noted⟩ := exists_noted_takeRole (d := d) toGateway attempt s visits
  exact noted.followRole (fits _ (by rw [gateway_takeRole]; rfl))

end Parts

theorem exists_noted_onEndpoint (op : Operation) (e : Endpoint) (attempt : Nat) (s : State ω)
    (visits : List Visit) :
    ∃ rounds, d.Noted visits (d.onEndpoint op e attempt s)
      (d.journaling.onEndpoint op e attempt (s.journaled visits)) rounds := by
  have alike : d.journaling.isLocal e = d.isLocal e := rfl
  cases here : d.isLocal e with
  | false =>
    simp only [onEndpoint, alike, here]
    have fits : d.Fits (.endpoint .remoteCluster op e) (trackRemote op e s.gateway) := by
      cases op <;> simp [Fits, trackRemote]
    refine exists_noted_written _ ?_ fits
    simp [dispatchesIn, Deed.dispatch?, List.filterMap_eq_nil_iff]
  | true =>
    simp only [onEndpoint, alike, here, if_true]
    cases op with
    | create => exact exists_noted_followRole fun g flag => flag
    | update => exact exists_noted_followRole fun g flag => flag
    | delete =>
      have host : d.journaling.hostname = d.hostname := rfl
      cases own : e.isFromHost d.hostname with
      | true =>
        simp only [onLocalEndpoint, host, own, if_true]
        exact exists_noted_followRole fun g flag _ => flag
      | false =>
        simp only [onLocalEndpoint, host, own]
        exact exists_noted_forward _ _ fun foreign => absurd foreign (by simp [own])

theorem exists_noted_onNode (op : Operation) (n : Node) (attempt : Nat) (s : State ω)
    (visits : List Visit) :
    ∃ rounds, d.Noted visits (d.onNode op n attempt s)
      (d.journaling.onNode op n attempt (s.journaled visits)) rounds := by
  have alike : d.journaling.isLocalNode n d.journaling.hostname = d.isLocalNode n d.hostname := rfl
  cases here : d.isLocalNode n d.hostname with
  | false =>
    simp only [onNode, alike, here]
    refine exists_noted_forward _ _ ?_
    cases op <;> simp [Fits, here]
  | true =>
    simp only [onNode, alike, here, if_true]
    cases op with
    | create => exact exists_noted_written _ rfl fun _ => rfl
    | update => exact exists_noted_written _ rfl fun _ => rfl
    | delete => exact exists_noted_written _ rfl fun _ => rfl

theorem exists_noted_respond (callback : Callback) (s : State ω) (visits : List Visit) :
    ∃ rounds, d.Noted visits (d.respond callback s)
      (d.journaling.respond callback (s.journaled visits)) rounds := by
  cases callback with
  | endpoint op e attempt => exact exists_noted_onEndpoint op e attempt s visits
  | node op n attempt => exact exists_noted_onNode op n attempt s visits

theorem exists_noted_run (callbacks : List Callback) (s : State ω) (visits : List Visit) :
    ∃ rounds, d.Noted visits ⟨false, d.deedsOf callbacks s, d.after callbacks s⟩
      ⟨false, d.journaling.deedsOf callbacks (s.journaled visits),
        d.journaling.after callbacks (s.journaled visits)⟩ rounds := by
  induction callbacks generalizing s visits with
  | nil =>
    refine ⟨[], ?_, rfl, by simp⟩
    simp only [deedsOf, Dispatcher.after, List.flatMap_nil, List.append_nil]
  | cons callback rest ih =>
    obtain ⟨first, noted⟩ := exists_noted_respond (d := d) callback s visits
    obtain ⟨later, followed⟩ := ih (d.respond callback s).state
      (visits ++ first.flatMap Round.visits)
    have reached : (d.journaling.respond callback (s.journaled visits)).state =
        (d.respond callback s).state.journaled (visits ++ first.flatMap Round.visits) := by
      rw [noted.same]
    rw [← reached] at followed
    exact ⟨first ++ later, noted.append followed⟩

/-- Each round of calls goes to all handlers in order, and every one of them finds the state that
fits the event. These rounds are the dispatches made, and all that the handlers put down. -/
theorem rounds_fit (d : Dispatcher ω) (callbacks : List Callback) (s : State ω) :
    ∃ rounds : List Round,
      rounds.map Round.told = dispatchesIn (d.deedsOf callbacks s) ∧
      d.journaling.deedsOf callbacks (s.journaled []) = d.deedsOf callbacks s ∧
      d.journaling.after callbacks (s.journaled []) =
        (d.after callbacks s).journaled (rounds.flatMap Round.visits) ∧
      ∀ r ∈ rounds, r.told.call = .event r.event ∧ d.Fits r.event r.state ∧
        r.visits.map (fun v => (v.position, v.handler, v.method, v.seen)) =
          d.registry.handlers.zipIdx.map fun entry =>
            (entry.2, entry.1.name, (Call.event r.event).method, some r.state) := by
  obtain ⟨rounds, noted⟩ := d.exists_noted_run callbacks s []
  refine ⟨rounds, noted.told, congrArg Outcome.deeds noted.same, congrArg Outcome.state noted.same,
    fun r member => ?_⟩
  have apt := noted.apt r member
  exact ⟨apt.call, apt.fits, apt.recorded.calls⟩

/-- Both handlers find the flag set during the transition, which the second one refuses, and see it
again when it is told again. -/
theorem transition_seen_by_both :
    let callbacks : List Callback :=
      [.endpoint .create (localEndpoint "here") 0, .endpoint .create (localEndpoint "here") 1]
    let visits := (pair.journaling.after callbacks ((State.initial 1).journaled [])).world.visits
    visits.map (fun v => (v.position, v.seen.map (·.onGateway), v.failure)) =
        [(0, some true, none), (1, some true, some "not yet"), (0, some true, none),
          (1, some true, none), (0, some true, none), (1, some true, none)] ∧
      ∃ rounds : List Round, rounds.flatMap Round.visits = visits ∧
        ∀ r ∈ rounds, pair.Fits r.event r.state ∧
          r.visits.map (fun v => (v.position, v.method)) =
            [(0, (Call.event r.event).method), (1, (Call.event r.event).method)] := by
  intro callbacks visits
  obtain ⟨rounds, -, -, noted, apt⟩ := rounds_fit pair callbacks (.initial 1)
  refine ⟨by decide, rounds, (congrArg (fun s => s.world.visits) noted).symm, fun r member => ?_⟩
  obtain ⟨-, fits, called⟩ := apt r member
  refine ⟨fits, ?_⟩
  simpa [pair, Registry.ofHandlers, Handler.supports, Handler.idle, reluctant, Function.comp_def]
    using congrArg (List.map fun v => (v.1, v.2.2.1)) called

end GatewayEvents.Dispatcher
