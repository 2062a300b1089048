import GatewayEvents.Dispatcher

/-! The course of one callback on a dispatcher. A callback may ask for a role of the local
host. If that role has been announced, or none is asked for, its event is told at once;
otherwise the transition is told first, and the event follows only if every handler accepted
it (`course_respond`). The gateway flag takes the role that is asked for in any case
(`onGateway_onEndpoint`). -/
namespace GatewayEvents.Dispatcher

variable {ω : Type} {d : Dispatcher ω}

inductive Callback where
  | endpoint (operation : Operation) (endpoint : Endpoint) (attempt : Nat)
  | node (operation : Operation) (node : Node) (attempt : Nat)

def respond (d : Dispatcher ω) : Callback → State ω → Outcome ω
  | .endpoint op e attempt, s => d.onEndpoint op e attempt s
  | .node op n attempt, s => d.onNode op n attempt s

/-- The role of the local host that a change of an endpoint asks for: only local endpoints
ask for one, and a deleted one only if it was the host's own. -/
def roleOf (d : Dispatcher ω) (op : Operation) (e : Endpoint) : Option Bool :=
  if d.isLocal e then
    match op with
    | .create | .update => some (e.isFromHost d.hostname)
    | .delete => if e.isFromHost d.hostname then some false else none
  else none

def originOf (d : Dispatcher ω) (e : Endpoint) : Origin :=
  if d.isLocal e then .localCluster else .remoteCluster

def Callback.role (d : Dispatcher ω) : Callback → Option Bool
  | .endpoint op e _ => d.roleOf op e
  | .node _ _ _ => none

def Callback.event (d : Dispatcher ω) : Callback → Event
  | .endpoint op e _ => .endpoint (d.originOf e) op e
  | .node op n _ => .node op n

def dispatchesIn (deeds : List Deed) : List Dispatch := deeds.filterMap Deed.dispatch?

@[simp] theorem dispatchesIn_append (earlier later : List Deed) :
    dispatchesIn (earlier ++ later) = dispatchesIn earlier ++ dispatchesIn later :=
  List.filterMap_append

/-- The dispatch is a round of calls about this event, made in some state. -/
def Told (d : Dispatcher ω) (event : Event) (told : Dispatch) : Prop :=
  ∃ (g : GatewayState) (world : ω), told = (d.registry.dispatch event g world).1

theorem Told.call {event : Event} {told : Dispatch} (tells : d.Told event told) :
    told.call = .event event := by
  obtain ⟨g, world, rfl⟩ := tells
  rfl

theorem Told.length {event : Event} {told : Dispatch} (tells : d.Told event told) :
    told.deliveries.length = d.registry.handlers.length := by
  obtain ⟨g, world, rfl⟩ := tells
  exact Registry.length_deliverAll ..

/-- What a callback that asks for `role` and is about `event` can dispatch, answer and leave
as the announced role. -/
inductive Course (d : Dispatcher ω) (role : Option Bool) (event : Event) (announced : Bool) :
    List Dispatch → Bool → Bool → Prop where
  | told {last : Dispatch} (settled : ∀ r, role = some r → announced = r)
      (lastTold : d.Told event last) :
      Course d role event announced [last] (!last.succeeded) announced
  | refused {r : Bool} {transition : Dispatch} (asked : role = some r) (news : announced ≠ r)
      (transitionTold : d.Told (.transition r) transition) (failed : transition.succeeded = false) :
      Course d role event announced [transition] true announced
  | moved {r : Bool} {transition last : Dispatch} (asked : role = some r) (news : announced ≠ r)
      (transitionTold : d.Told (.transition r) transition)
      (accepted : transition.succeeded = true) (lastTold : d.Told event last) :
      Course d role event announced [transition, last] (!last.succeeded) r

section Parts
variable {event : Event} {attempt : Nat} {s : State ω} {toGateway : Bool}

theorem told_dispatch (event : Event) (g : GatewayState) (world : ω) :
    d.Told event (d.registry.dispatch event g world).1 := ⟨g, world, rfl⟩

theorem course_forward {role : Option Bool} (settled : ∀ r, role = some r → s.announced = r) :
    Course d role event s.announced (dispatchesIn (d.forward event attempt s).deeds)
      (d.forward event attempt s).requeue (d.forward event attempt s).state.announced :=
  .told settled (told_dispatch event s.gateway s.world)

theorem Course.after {role : Option Bool} {announced : Bool} {o : Outcome ω} {earlier : List Deed}
    (silent : dispatchesIn earlier = [])
    (course : Course d role event announced (dispatchesIn o.deeds) o.requeue o.state.announced) :
    Course d role event announced (dispatchesIn (o.after earlier).deeds) (o.after earlier).requeue
      (o.after earlier).state.announced := by
  simpa only [Outcome.after, dispatchesIn_append, silent, List.nil_append] using course

theorem takeRole_of_announced (same : s.announced = toGateway) :
    d.takeRole toGateway attempt s =
      ⟨false, [], { s with gateway := s.gateway.setOnGateway toGateway }⟩ := by
  simp only [takeRole, same, if_true]

/-- The transition as it is told to the handlers, with the flag set before. -/
def tellRole (d : Dispatcher ω) (toGateway : Bool) (attempt : Nat) (s : State ω) : Outcome ω :=
  d.forward (.transition toGateway) attempt
    { s with gateway := s.gateway.setOnGateway toGateway }

theorem takeRole_of_refused (news : s.announced ≠ toGateway)
    (refused : (d.tellRole toGateway attempt s).requeue = true) :
    d.takeRole toGateway attempt s =
      ⟨true, .announcing d.hostname toGateway :: (d.tellRole toGateway attempt s).deeds,
        (d.tellRole toGateway attempt s).state⟩ := by
  rw [tellRole] at refused ⊢
  simp only [takeRole, if_neg news, refused, if_true]

theorem takeRole_of_accepted (news : s.announced ≠ toGateway)
    (accepted : (d.tellRole toGateway attempt s).requeue = false) :
    d.takeRole toGateway attempt s =
      ⟨false, .announcing d.hostname toGateway :: (d.tellRole toGateway attempt s).deeds,
        { (d.tellRole toGateway attempt s).state with announced := toGateway }⟩ := by
  rw [tellRole] at accepted ⊢
  simp only [takeRole, if_neg news, accepted, Bool.false_eq_true, if_false]

theorem course_followRole :
    let o := d.followRole (d.takeRole toGateway attempt s) event attempt
    Course d (some toGateway) event s.announced (dispatchesIn o.deeds) o.requeue
      o.state.announced := by
  intro o
  by_cases same : s.announced = toGateway
  · simp only [o, takeRole_of_announced same]
    refine course_forward (s := { s with gateway := s.gateway.setOnGateway toGateway }) ?_
    exact fun r asked => same.trans (Option.some.inj asked)
  · have told := told_dispatch (d := d) (.transition toGateway)
      (s.gateway.setOnGateway toGateway) s.world
    cases answer : (d.tellRole toGateway attempt s).requeue with
    | true =>
      simp only [o, takeRole_of_refused same answer, followRole, if_true]
      exact .refused rfl same told (by simpa [tellRole, forward] using answer)
    | false =>
      simp only [o, takeRole_of_accepted same answer, followRole, Bool.false_eq_true, if_false]
      exact .moved rfl same told (by simpa [tellRole, forward] using answer)
        (told_dispatch event _ _)

@[simp] theorem gateway_forward : (d.forward event attempt s).state.gateway = s.gateway := rfl

@[simp] theorem gateway_takeRole :
    (d.takeRole toGateway attempt s).state.gateway = s.gateway.setOnGateway toGateway := by
  by_cases same : s.announced = toGateway
  · rw [takeRole_of_announced same]
  · cases answer : (d.tellRole toGateway attempt s).requeue with
    | true => rw [takeRole_of_refused same answer]; rfl
    | false => rw [takeRole_of_accepted same answer]; rfl

@[simp] theorem gateway_followRole {role : Outcome ω} :
    (d.followRole role event attempt).state.gateway = role.state.gateway := by
  unfold followRole
  split <;> rfl

end Parts

theorem course_onEndpoint (op : Operation) (e : Endpoint) (attempt : Nat) (s : State ω) :
    let o := d.onEndpoint op e attempt s
    Course d (d.roleOf op e) (.endpoint (d.originOf e) op e) s.announced (dispatchesIn o.deeds)
      o.requeue o.state.announced := by
  intro o
  cases here : d.isLocal e with
  | false =>
    simp only [o, onEndpoint, onRemoteEndpoint, roleOf, originOf, here]
    refine Course.after ?_
      (course_forward (s := { s with gateway := trackRemote op e s.gateway }) ?_)
    · simp [dispatchesIn, Deed.dispatch?, List.filterMap_eq_nil_iff]
    · simp
  | true =>
    simp only [o, onEndpoint, roleOf, originOf, here, if_true]
    cases op with
    | create => exact course_followRole
    | update => exact course_followRole
    | delete =>
      cases own : e.isFromHost d.hostname with
      | true =>
        simp only [onLocalEndpoint, own, if_true]
        exact course_followRole
      | false =>
        simp only [onLocalEndpoint, own]
        exact course_forward (by simp)

theorem course_onNode (op : Operation) (n : Node) (attempt : Nat) (s : State ω) :
    let o := d.onNode op n attempt s
    Course d none (.node op n) s.announced (dispatchesIn o.deeds) o.requeue o.state.announced := by
  intro o
  cases here : d.isLocalNode n d.hostname with
  | false =>
    simp only [o, onNode, here]
    exact course_forward (by simp)
  | true =>
    simp only [o, onNode, here, if_true]
    cases op with
    | create | update =>
      refine Course.after rfl (course_forward
        (s := { s with gateway := s.gateway.setOnGateway n.isGateway }) ?_)
      simp
    | delete =>
      refine Course.after rfl (course_forward
        (s := { s with gateway := s.gateway.setOnGateway false }) ?_)
      simp

/-- Every callback takes one of three courses. -/
theorem course_respond (callback : Callback) (s : State ω) :
    let o := d.respond callback s
    Course d (callback.role d) (callback.event d) s.announced (dispatchesIn o.deeds) o.requeue
      o.state.announced := by
  cases callback with
  | endpoint op e attempt => exact course_onEndpoint op e attempt s
  | node op n attempt => exact course_onNode op n attempt s

section Accepting

def Accepting (d : Dispatcher ω) : Prop :=
  ∀ h ∈ d.registry.handlers, ∀ call seen world, (h.receive call seen world).failure = none

theorem Told.succeeded_of_accepting {event : Event} {told : Dispatch} (accepting : d.Accepting)
    (tells : d.Told event told) : told.succeeded = true := by
  obtain ⟨g, world, rfl⟩ := tells
  rw [Dispatch.succeeded_eq_all, List.all_eq_true]
  intro delivery member
  have accepted := Registry.failure_deliverAll (fun h among => accepting h among _) member
  rw [accepted]
  rfl

theorem Course.answer_of_accepting {role : Option Bool} {event : Event}
    {announced answer later : Bool} {ds : List Dispatch} (accepting : d.Accepting)
    (course : Course d role event announced ds answer later) : answer = false := by
  cases course with
  | told _ lastTold => rw [lastTold.succeeded_of_accepting accepting]; rfl
  | refused _ _ transitionTold failed =>
    rw [transitionTold.succeeded_of_accepting accepting] at failed
    contradiction
  | moved _ _ _ _ lastTold => rw [lastTold.succeeded_of_accepting accepting]; rfl

end Accepting

section Role
variable {op : Operation} {e : Endpoint}

/-- The endpoint is of the local cluster and of this host. -/
structure Own (d : Dispatcher ω) (e : Endpoint) : Prop where
  cluster : d.isLocal e = true
  host : e.isFromHost d.hostname = true

theorem own_congr {f : Endpoint} (cluster : e.spec.clusterId = f.spec.clusterId)
    (host : e.spec.hostname = f.spec.hostname) : d.Own e ↔ d.Own f := by
  have sameCluster : d.isLocal e = d.isLocal f := by simp [isLocal, Endpoint.isFromCluster, cluster]
  have sameHost : e.isFromHost d.hostname = f.isFromHost d.hostname := by
    simp [Endpoint.isFromHost, host]
  constructor
  · exact fun own => ⟨sameCluster ▸ own.cluster, sameHost ▸ own.host⟩
  · exact fun own => ⟨sameCluster ▸ own.cluster, sameHost ▸ own.host⟩

theorem roleOf_of_keep (keep : op ≠ .delete) (here : d.isLocal e = true) :
    d.roleOf op e = some (e.isFromHost d.hostname) := by
  cases op with
  | delete => contradiction
  | create | update => simp only [roleOf, here, if_true]

theorem Own.roleOf (own : d.Own e) : d.roleOf op e = some (decide (op ≠ .delete)) := by
  cases op <;> simp [Dispatcher.roleOf, own.cluster, own.host]

theorem own_of_roleOf (asked : d.roleOf op e = some true) : op ≠ .delete ∧ d.Own e := by
  cases here : d.isLocal e with
  | false => simp [roleOf, here] at asked
  | true =>
    cases op with
    | delete => cases host : e.isFromHost d.hostname <;> simp [roleOf, here, host] at asked
    | create | update =>
      rw [roleOf_of_keep (by decide) here] at asked
      exact ⟨by decide, here, Option.some.inj asked⟩

theorem roleOf_of_away (away : d.isLocal e = false) : d.roleOf op e = none := by
  simp [roleOf, away]

theorem isLocal_of_roleOf (asked : (d.roleOf op e).isSome) : d.isLocal e = true := by
  cases here : d.isLocal e with
  | true => rfl
  | false =>
    rw [roleOf_of_away here] at asked
    contradiction

theorem roleOf_delete (asked : (d.roleOf .delete e).isSome) : d.roleOf .delete e = some false := by
  cases role : d.roleOf .delete e with
  | none => simp [role] at asked
  | some r =>
    cases r with
    | false => rfl
    | true => exact absurd rfl (own_of_roleOf role).1

theorem roleOf_update (keep : op ≠ .delete) : d.roleOf .update e = d.roleOf op e := by
  cases op with
  | delete => contradiction
  | create | update => rfl

theorem roleOf_congr {f : Endpoint} (cluster : e.spec.clusterId = f.spec.clusterId)
    (host : e.spec.hostname = f.spec.hostname) : d.roleOf op e = d.roleOf op f := by
  unfold roleOf isLocal Endpoint.isFromCluster Endpoint.isFromHost
  rw [cluster, host]

theorem roleOf_eq {ω' : Type} {d' : Dispatcher ω'} (cluster : d'.clusterId = d.clusterId)
    (host : d'.hostname = d.hostname) : d'.roleOf op e = d.roleOf op e := by
  unfold roleOf isLocal
  rw [cluster, host]

end Role

/-- A local endpoint can only change the flag, a remote one only the remote endpoints, and
what the handlers answer changes neither. -/
theorem gateway_onEndpoint (op : Operation) (e : Endpoint) (attempt : Nat) (s : State ω) :
    (d.onEndpoint op e attempt s).state.gateway =
      if d.isLocal e then ((d.roleOf op e).map s.gateway.setOnGateway).getD s.gateway
      else trackRemote op e s.gateway := by
  cases here : d.isLocal e with
  | false => simp only [onEndpoint, here, onRemoteEndpoint]; rfl
  | true =>
    simp only [onEndpoint, roleOf, here, if_true]
    cases op with
    | create | update => simp [onLocalEndpoint]
    | delete => cases own : e.isFromHost d.hostname <;> simp [onLocalEndpoint, own]

/-- A callback about a remote endpoint writes its entry, and no callback writes another one. -/
theorem get?_onEndpoint (op : Operation) (e : Endpoint) (attempt : Nat) (s : State ω)
    (identity : String) :
    (d.onEndpoint op e attempt s).state.gateway.get? identity =
      if d.isLocal e = false ∧ identity = e.identity then
        if op = .delete then none else some e
      else s.gateway.get? identity := by
  rw [gateway_onEndpoint]
  cases here : d.isLocal e with
  | true => cases d.roleOf op e <;> simp
  | false =>
    by_cases same : identity = e.identity <;> cases op <;> simp [trackRemote, same]

theorem onGateway_trackRemote (op : Operation) (e : Endpoint) (g : GatewayState) :
    (trackRemote op e g).onGateway = g.onGateway := by
  cases op <;> rfl

/-- The flag takes the role that an endpoint asks for, whatever the handlers answer. -/
theorem onGateway_onEndpoint (op : Operation) (e : Endpoint) (attempt : Nat) (s : State ω) :
    (d.onEndpoint op e attempt s).state.gateway.onGateway =
      (d.roleOf op e).getD s.gateway.onGateway := by
  rw [gateway_onEndpoint]
  cases here : d.isLocal e with
  | false => simp [roleOf, here, onGateway_trackRemote]
  | true => cases d.roleOf op e <;> rfl

/-- The local node takes its label to the flag, and clears it when it goes; no other node changes
anything. -/
theorem gateway_onNode (op : Operation) (n : Node) (attempt : Nat) (s : State ω) :
    (d.onNode op n attempt s).state.gateway =
      if d.isLocalNode n d.hostname then
        s.gateway.setOnGateway (decide (op ≠ .delete) && n.isGateway)
      else s.gateway := by
  unfold onNode
  split
  · cases op <;> rfl
  · rfl

theorem onGateway_onNode (op : Operation) (n : Node) (attempt : Nat) (s : State ω) :
    (d.onNode op n attempt s).state.gateway.onGateway =
      if d.isLocalNode n d.hostname then decide (op ≠ .delete) && n.isGateway
      else s.gateway.onGateway := by
  rw [gateway_onNode]
  split <;> rfl

end GatewayEvents.Dispatcher
