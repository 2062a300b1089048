import GatewayEvents.Proofs.Controller.Delivery

/-! The gateway flag over an endpoint watch whose handlers accept everything. Callbacks about
different endpoints write one flag, and the last one that asks for a role wins: an endpoint
of this host sets it, another local endpoint clears it, and so does the deletion of an
endpoint of this host. So the flag is set exactly if some kept local endpoint of this host
has not been overruled since the last callback about it (`Reflects`). -/
namespace GatewayEvents.Controller

open WatchLoop (Step Called Move Moves Guarded Among attemptsIn broughtIn since runSteps)
open Dispatcher (Deed)

variable {ω : Type} {d : Dispatcher ω} {policy : RetryPolicy} {objects : List (Keyed Endpoint)}
  {op : Operation} {key : ObjectKey} {e : Endpoint} {requeues : Nat}
  {s t u : WatchLoop.State Endpoint} {w v : Dispatcher.State ω}
  {es past : List (WatchLoop.Entry Endpoint Deed)} {step : Step Endpoint}

/-- Endpoints of one key belong to one cluster, and those of one version to one host. -/
def Steady (objects : List (Keyed Endpoint)) : Prop :=
  ∀ o ∈ objects, ∀ p ∈ objects, o.key = p.key →
    o.object.spec.clusterId = p.object.spec.clusterId ∧
    (Watched.sameVersion o.object p.object = true →
      o.object.spec.hostname = p.object.spec.hostname)

instance : Decidable (Steady objects) :=
  inferInstanceAs (Decidable (∀ o ∈ objects, ∀ p ∈ objects, o.key = p.key → _ ∧ (_ → _)))

theorem Steady.of_among {f : Endpoint} (steady : Steady objects) (one : Among objects key e)
    (two : Among objects key f) : e.spec.clusterId = f.spec.clusterId ∧
      (Watched.sameVersion e f = true → e.spec.hostname = f.spec.hostname) := by
  obtain ⟨o, here, rfl, rfl⟩ := one
  obtain ⟨p, there, same, rfl⟩ := two
  exact steady o here p there same.symm

/-- A deletion shows the endpoint that is kept, or one of its version. -/
def DeletesKept (s : WatchLoop.State Endpoint) : Step Endpoint → Prop
  | .event _ (.delete o) => ∀ old, s.cache.get? o.key = some old →
      old = o.object ∨ Watched.sameVersion old o.object = true
  | _ => True

/-- Since the last callback about the endpoint none asked for the host to be no gateway. -/
def Undisturbed (d : Dispatcher ω) (key : ObjectKey)
    (past : List (WatchLoop.Entry Endpoint Deed)) : Prop :=
  ∀ a ∈ since key past, d.roleOf a.operation a.object ≠ some false

instance : Decidable (Undisturbed d key past) :=
  inferInstanceAs (Decidable (∀ a ∈ since key past, _ ≠ _))

theorem content_of_accepting (accepting : d.Accepting) : (endpointLoop d policy).Content :=
  fun op e requeues w => (d.course_onEndpoint op e requeues w).answer_of_accepting accepting

def Held (d : Dispatcher ω) (s : WatchLoop.State Endpoint)
    (past : List (WatchLoop.Entry Endpoint Deed)) : Prop :=
  ∃ k o, s.cache.get? k = some o ∧ d.Own o ∧ Undisturbed d k past

/-- What the flag says of the kept endpoints, as long as nothing is queued and only the given
objects have been shown. -/
structure Reflects (d : Dispatcher ω) (objects : List (Keyed Endpoint))
    (s : WatchLoop.State Endpoint) (w : Dispatcher.State ω)
    (past : List (WatchLoop.Entry Endpoint Deed)) : Prop where
  queue : s.retries.toList = []
  kept : ∀ k o, s.cache.get? k = some o → ∃ p ∈ objects, p.key = k ∧ p.object = o
  flag : w.gateway.onGateway = true ↔ Held d s past

theorem reflects_initial (start : Nat) (world : ω) :
    Reflects d objects (.initial start) (.initial world) [] where
  queue := rfl
  kept _ _ found := by cases found
  flag := by
    constructor
    · intro set
      cases set
    · rintro ⟨_, _, found, -⟩
      cases found

theorem undisturbed_append_of_silent (silent : attemptsIn es = []) :
    Undisturbed d key (past ++ es) ↔ Undisturbed d key past := by
  rw [Undisturbed, WatchLoop.since_append_of_silent silent, Undisturbed]

theorem Reflects.frame (before : Reflects d objects s w past) (cache : t.cache = s.cache)
    (queue : t.retries.toList = []) (silent : attemptsIn es = []) :
    Reflects d objects t w (past ++ es) where
  queue := queue
  kept k o found := before.kept k o (cache ▸ found)
  flag := by simp only [before.flag, Held, cache, undisturbed_append_of_silent silent]

/-- A change of the endpoint under `key` is about to be told: the loop moved from `s` to `u`. -/
structure Changed (op : Operation) (key : ObjectKey) (e : Endpoint)
    (s u : WatchLoop.State Endpoint) : Prop where
  queue : u.retries = s.retries
  others : ∀ other, other ≠ key → u.cache.get? other = s.cache.get? other
  here : u.cache.get? key = if op = .delete then none else some e
  cluster : ∀ old, s.cache.get? key = some old → old.spec.clusterId = e.spec.clusterId
  host : op = .delete → ∀ old, s.cache.get? key = some old → old.spec.hostname = e.spec.hostname

theorem changed_insert (keep : op ≠ .delete)
    (cluster : ∀ old, s.cache.get? key = some old → old.spec.clusterId = e.spec.clusterId) :
    Changed op key e s { s with cache := s.cache.insert key e } where
  queue := rfl
  others other apart := by rw [Table.get?_insert, if_neg apart]
  here := by rw [Table.get?_insert, if_pos rfl, if_neg keep]
  cluster := cluster
  host delete := absurd delete keep

theorem changed_erase
    (cluster : ∀ old, s.cache.get? key = some old → old.spec.clusterId = e.spec.clusterId)
    (host : ∀ old, s.cache.get? key = some old → old.spec.hostname = e.spec.hostname) :
    Changed .delete key e s { s with cache := s.cache.erase key } where
  queue := rfl
  others other apart := by rw [Table.get?_erase, if_neg apart]
  here := by rw [Table.get?_erase, if_pos rfl, if_pos rfl]
  cluster := cluster
  host _ := host

section Told
variable (changed : Changed op key e s u)
  (called : Called (endpointLoop d policy) op key e requeues u w t v es)
include changed called

/-- A callback that asks for a role overrules all others. -/
theorem held_of_asked {r : Bool} (asked : d.roleOf op e = some r) :
    Held d u (past ++ es) ↔ r = true := by
  constructor
  · rintro ⟨k, o, found, own, undisturbed⟩
    by_cases same : k = key
    · subst same
      rw [changed.here] at found
      split at found
      next => contradiction
      next keep =>
        obtain rfl := Option.some.inj found
        rw [own.roleOf] at asked
        simpa [keep] using (Option.some.inj asked).symm
    · by_contra clearing
      rw [Bool.not_eq_true] at clearing
      rw [Undisturbed, called.since_other same] at undisturbed
      exact undisturbed _ List.mem_concat_self (clearing ▸ asked)
  · rintro rfl
    obtain ⟨keep, own⟩ := Dispatcher.own_of_roleOf asked
    refine ⟨key, e, ?_, own, ?_⟩
    · rw [changed.here, if_neg keep]
    · rw [Undisturbed, called.since_self]
      simp

/-- A callback that asks for no role is about an endpoint that neither was nor is one of this
host, and disturbs none. -/
theorem held_of_unasked (unasked : d.roleOf op e = none) :
    Held d u (past ++ es) ↔ Held d s past := by
  have foreign : ¬ d.Own e := by
    intro own
    rw [own.roleOf] at unasked
    contradiction
  have undisturbed : ∀ k, k ≠ key → (Undisturbed d k (past ++ es) ↔ Undisturbed d k past) := by
    intro k apart
    rw [Undisturbed, called.since_other apart, Undisturbed]
    simp [or_imp, forall_and, WatchLoop.Config.made, unasked]
  constructor
  · rintro ⟨k, o, found, own, still⟩
    by_cases same : k = key
    · subst same
      rw [changed.here] at found
      split at found
      next => contradiction
      next =>
        obtain rfl := Option.some.inj found
        exact absurd own foreign
    · exact ⟨k, o, changed.others k same ▸ found, own, (undisturbed k same).mp still⟩
  · rintro ⟨k, o, found, own, still⟩
    by_cases same : k = key
    · subst same
      have here : d.isLocal e = true := by
        simpa [Dispatcher.isLocal, Endpoint.isFromCluster, changed.cluster o found]
          using own.cluster
      by_cases delete : op = .delete
      · have host : e.isFromHost d.hostname = true := by
          simpa [Endpoint.isFromHost, changed.host delete o found] using own.host
        exact absurd ⟨here, host⟩ foreign
      · rw [Dispatcher.roleOf_of_keep delete here] at unasked
        contradiction
    · exact ⟨k, o, (changed.others k same).trans found, own, (undisturbed k same).mpr still⟩

theorem reflects_of_called (accepting : d.Accepting) (before : Reflects d objects s w past)
    (brought : ∃ p ∈ objects, p.key = key ∧ p.object = e) :
    Reflects d objects t v (past ++ es) := by
  have unasked : d.roleOf op e = none → (Held d u (past ++ es) ↔ Held d s past) :=
    held_of_unasked changed called
  have asked : ∀ r, d.roleOf op e = some r → (Held d u (past ++ es) ↔ r = true) :=
    fun r => held_of_asked changed called
  obtain ⟨rfl, rfl, -⟩ := called.settled_of_content (content_of_accepting accepting)
  refine ⟨changed.queue ▸ before.queue, fun k o found => ?_, ?_⟩
  · by_cases same : k = key
    · subst same
      rw [changed.here] at found
      split at found
      next => contradiction
      next => exact Option.some.inj found ▸ brought
    · exact before.kept k o (changed.others k same ▸ found)
  · have written : ((endpointLoop d policy).callback op e requeues w).world.gateway.onGateway =
        (d.roleOf op e).getD w.gateway.onGateway := Dispatcher.onGateway_onEndpoint op e requeues w
    rw [written]
    cases role : d.roleOf op e with
    | none => exact before.flag.trans (unasked role).symm
    | some r => exact (asked r role).symm

end Told

/-- The step only brings the given objects, and deletes what is kept. -/
def Orderly (objects : List (Keyed Endpoint)) (s : WatchLoop.State Endpoint)
    (step : Step Endpoint) : Prop :=
  DeletesKept s step ∧ ∀ o, step.object? = some o → o ∈ objects

theorem deletesKept_of_move (move : Move (endpointLoop d policy) step s w t v es)
    (kept : DeletesKept s step) : DeletesKept t step := by
  cases move with
  | relistStarted | seen | relistEnded | synced | missed | polled | vanished => exact kept
  | recreated | gone | deletedAgain | keptAgain => exact kept
  | unchanged shown | created shown | updated shown =>
    rcases shown with ⟨order, rfl | rfl⟩ <;> trivial
  | @deleted _ _ _ _ _ _ o called =>
    intro old found
    rw [called.cache, Table.get?_erase, if_pos rfl] at found
    contradiction

/-- What is kept under the key of an object that is brought was of its cluster, and of its host
if it was of its version. -/
theorem Reflects.steady {o : Keyed Endpoint} {old : Endpoint} (before : Reflects d objects s w past)
    (steady : Steady objects) (brought : o ∈ objects) (known : s.cache.get? o.key = some old) :
    old.spec.clusterId = o.object.spec.clusterId ∧
      (Watched.sameVersion old o.object = true → old.spec.hostname = o.object.spec.hostname) := by
  exact steady.of_among (before.kept o.key old known) ⟨o, brought, rfl, rfl⟩

theorem reflects_of_unchanged {o : Keyed Endpoint} {old : Endpoint} (steady : Steady objects)
    (before : Reflects d objects s w past) (brought : o ∈ objects)
    (known : s.cache.get? o.key = some old) (equivalent : Watched.sameVersion old o.object = true) :
    Reflects d objects { s with cache := s.cache.insert o.key o.object } w
      (past ++ [.unchanged o.key]) := by
  obtain ⟨cluster, host⟩ := before.steady steady brought known
  have own : d.Own old ↔ d.Own o.object := Dispatcher.own_congr cluster (host equivalent)
  have undisturbed : ∀ k, Undisturbed d k (past ++ [.unchanged o.key]) ↔ Undisturbed d k past :=
    fun _ => undisturbed_append_of_silent rfl
  refine ⟨before.queue, fun k p found => ?_, before.flag.trans ?_⟩
  · rcases Table.get?_insert_cases found with ⟨rfl, rfl⟩ | ⟨-, kept⟩
    · exact ⟨o, brought, rfl, rfl⟩
    · exact before.kept k p kept
  · simp only [Held, undisturbed, Table.get?_insert]
    constructor
    · rintro ⟨k, p, found, here, still⟩
      by_cases same : k = o.key
      · subst same
        obtain rfl := Option.some.inj (known.symm.trans found)
        exact ⟨o.key, o.object, if_pos rfl, own.mp here, still⟩
      · exact ⟨k, p, by rw [if_neg same, found], here, still⟩
    · rintro ⟨k, p, found, here, still⟩
      by_cases same : k = o.key
      · subst same
        rw [if_pos rfl] at found
        obtain rfl := Option.some.inj found
        exact ⟨o.key, old, known, own.mpr here, still⟩
      · rw [if_neg same] at found
        exact ⟨k, p, found, here, still⟩

theorem reflects_of_move (accepting : d.Accepting) (steady : Steady objects)
    (orderly : Orderly objects s step) (move : Move (endpointLoop d policy) step s w t v es)
    (before : Reflects d objects s w past) : Reflects d objects t v (past ++ es) := by
  have unqueued : ∀ {index : Nat} {r : WatchLoop.Retry Endpoint},
      s.retries.toList[index]? ≠ some r := by simp [before.queue]
  cases move with
  | relistStarted | seen | relistEnded | synced | missed => exact before.frame rfl before.queue rfl
  | polled same => exact before.frame rfl (by simpa [before.queue] using same) rfl
  | recreated found | gone found | deletedAgain found | keptAgain found =>
    exact absurd found unqueued
  | unchanged shown known equivalent =>
    exact reflects_of_unchanged steady before (orderly.2 _ shown.object?) known equivalent
  | @created _ _ _ _ _ _ o shown unknown called =>
    have brought := orderly.2 o shown.object?
    have changed : Changed .create o.key o.object s
        { s with cache := s.cache.insert o.key o.object } :=
      changed_insert (by decide) (by simp [unknown])
    exact reflects_of_called changed called accepting before ⟨o, brought, rfl, rfl⟩
  | @updated _ _ _ _ _ _ o old shown known different called =>
    have brought := orderly.2 o shown.object?
    have changed : Changed .update o.key o.object s
        { s with cache := s.cache.insert o.key o.object } :=
      changed_insert (by decide) fun old known => (before.steady steady brought known).1
    exact reflects_of_called changed called accepting before ⟨o, brought, rfl, rfl⟩
  | @deleted _ _ _ _ _ _ o called =>
    have brought := orderly.2 o rfl
    have changed : Changed .delete o.key o.object s { s with cache := s.cache.erase o.key } := by
      refine changed_erase (fun old known => (before.steady steady brought known).1) ?_
      intro old known
      rcases orderly.1 old known with rfl | version
      · rfl
      · exact (before.steady steady brought known).2 version
    exact reflects_of_called changed called accepting before ⟨o, brought, rfl, rfl⟩
  | @vanished _ _ _ _ _ _ key object known called =>
    have changed : Changed .delete key object s { s with cache := s.cache.erase key } :=
      changed_erase (by simp [known]) (by simp [known])
    exact reflects_of_called changed called accepting before (before.kept key object known)

theorem reflects_of_moves (accepting : d.Accepting) (steady : Steady objects)
    (orderly : Orderly objects s step) (moves : Moves (endpointLoop d policy) step s w t v es)
    (before : Reflects d objects s w past) : Reflects d objects t v (past ++ es) :=
  (moves.preserve (I := fun s w past => Orderly objects s step ∧ Reflects d objects s w past)
    (fun move holds => ⟨⟨deletesKept_of_move move holds.1.1, holds.1.2⟩,
      reflects_of_move accepting steady holds.1 move holds.2⟩) ⟨orderly, before⟩).2

/-- Without a kept local endpoint the flag is not set; with exactly one, it is set exactly if that
endpoint is of this host and no callback about another one has overruled it since. -/
theorem onGateway_follows_single_local_endpoint (d : Dispatcher ω) (policy : RetryPolicy)
    (steps : List (Nat × Step Endpoint)) (start : Nat) (world : ω) (accepting : d.Accepting)
    (steady : Steady (broughtIn steps))
    (deletions : Guarded DeletesKept (endpointLoop d policy) steps (.initial start)
      (.initial world)) :
    let run := runSteps (endpointLoop d policy) steps (.initial start) (.initial world)
    run.crash = none ∧
    ((∀ k o, run.state.cache.get? k = some o → d.isLocal o = false) →
      run.world.gateway.onGateway = false) ∧
    ∀ key e, run.state.cache.get? key = some e → d.isLocal e = true →
      (∀ k o, run.state.cache.get? k = some o → d.isLocal o = true → k = key) →
      (run.world.gateway.onGateway = true ↔
        e.isFromHost d.hostname = true ∧ Undisturbed d key run.trace) := by
  intro run
  have ok : run.crash = none := (content_of_accepting accepting).runSteps steps
  have orderly : Guarded (Orderly (broughtIn steps)) (endpointLoop d policy) steps
      (.initial start) (.initial world) := by
    refine deletions.and_forall fun entry member _ o brought => ?_
    exact List.mem_filterMap.mpr ⟨entry, member, brought⟩
  have reflects : Reflects d (broughtIn steps) run.state run.world ([] ++ run.trace) :=
    WatchLoop.runSteps_guarded (I := fun s w past => Reflects d (broughtIn steps) s w past)
      (reflects_of_moves accepting steady) orderly ok (reflects_initial start world)
  -- the flag speaks for some undisturbed endpoint of this host; here there is no other candidate
  refine ⟨ok, fun none => ?_, fun key e found here single => ?_⟩
  · refine Bool.eq_false_iff.mpr fun set => ?_
    obtain ⟨k, o, found, own, -⟩ := reflects.flag.mp set
    exact Bool.false_ne_true ((none k o found).symm.trans own.cluster)
  · rw [reflects.flag]
    constructor
    · rintro ⟨k, o, other, own, still⟩
      obtain rfl := single k o other own.cluster
      obtain rfl := Option.some.inj (found.symm.trans other)
      exact ⟨own.host, still⟩
    · rintro ⟨host, still⟩
      exact ⟨key, e, found, ⟨here, host⟩, still⟩

section Examples

def calm : Dispatcher Unit where
  clusterId := "east"
  hostname := "here"
  registry := .ofHandlers "calm" "*" [.idle "only" ["*"]]

theorem accepting_calm : calm.Accepting := by
  intro h member call seen world
  rw [show h = .idle "only" ["*"] from List.mem_singleton.mp member, Handler.receive_idle]
  rfl

/-- Three runs that end with the flag against the kept endpoints: in the first a relist replaced
the endpoint of this host by another one; in the second the only endpoint moved to another
host under the same version, and in the third it was deleted after that. -/
theorem flag_against_kept_endpoints :
    let listed : List (Nat × Step Endpoint) := [(0, .event .asKept .init),
      (0, .event .asKept (.initApply (stored "a" "here" "1"))), (0, .event .asKept .initDone)]
    let replaced := listed ++ [(0, .event .asKept .init),
      (0, .event .asKept (.initApply (stored "b" "here" "2"))), (0, .event .asKept .initDone)]
    let moved := listed ++ [(0, .event .asKept (.apply (stored "a" "there" "1")))]
    let gone := moved ++ [(0, .event .asKept (.delete (stored "a" "there" "1")))]
    let run := fun steps => runSteps (endpointLoop calm {}) steps (.initial 0) (.initial ())
    let deletesKept := fun steps =>
      Guarded DeletesKept (endpointLoop calm {}) steps (.initial 0) (.initial ())
    calm.Accepting ∧
    (Steady (broughtIn replaced) ∧ deletesKept replaced ∧ (run replaced).state.relist.isNone ∧
      (run replaced).state.cache.keys = [⟨"b", none⟩] ∧
      (run replaced).state.cache.get? ⟨"b", none⟩ = some (stored "b" "here" "2").object ∧
      calm.Own (stored "b" "here" "2").object ∧
      (run replaced).world.gateway.onGateway = false) ∧
    (deletesKept moved ∧ (run moved).state.relist.isNone ∧
      (run moved).state.cache.keys = [⟨"a", none⟩] ∧
      (run moved).state.cache.get? ⟨"a", none⟩ = some (stored "a" "there" "1").object ∧
      ¬ calm.Own (stored "a" "there" "1").object ∧
      (run moved).world.gateway.onGateway = true) ∧
    (deletesKept gone ∧ (run gone).state.relist.isNone ∧ (run gone).state.cache.keys = [] ∧
      (run gone).world.gateway.onGateway = true) := by
  intro listed replaced moved gone run deletesKept
  have undeleted : deletesKept replaced :=
    ⟨trivial, trivial, trivial, trivial, trivial, trivial, trivial⟩
  have shown : deletesKept gone := by
    refine ⟨trivial, trivial, trivial, trivial, fun old found => ?_, trivial⟩
    exact .inl (Option.some.inj found).symm
  have elsewhere : ¬ calm.Own (stored "a" "there" "1").object := fun own =>
    absurd own.host (by decide)
  refine ⟨accepting_calm, ?_, ?_, ?_⟩
  · exact ⟨by decide, undeleted, by decide, by decide, rfl, ⟨by decide, by decide⟩, by decide⟩
  · exact ⟨⟨trivial, trivial, trivial, trivial, trivial⟩, by decide, by decide, rfl, elsewhere,
      by decide⟩
  · exact ⟨shown, by decide, by decide, by decide⟩

/-- The other local endpoint goes after this host's own one came: the flag stays. -/
theorem flag_kept_over_deletion_of_other_host :
    let steps : List (Nat × Step Endpoint) :=
      [(0, .event .asKept (.apply (stored "b" "there" "1"))),
        (0, .event .asKept (.apply (stored "a" "here" "2"))),
        (0, .event .asKept (.delete (stored "b" "there" "1")))]
    let run := runSteps (endpointLoop calm {}) steps (.initial 0) (.initial ())
    calm.Accepting ∧ Steady (broughtIn steps) ∧
      Guarded DeletesKept (endpointLoop calm {}) steps (.initial 0) (.initial ()) ∧
      Undisturbed calm ⟨"a", none⟩ run.trace ∧ run.world.gateway.onGateway = true := by
  intro steps run
  have steady : Steady (broughtIn steps) := by decide
  have deletions : Guarded DeletesKept (endpointLoop calm {}) steps (.initial 0) (.initial ()) := by
    refine ⟨trivial, trivial, ?_, trivial⟩
    intro old found
    exact .inl (Option.some.inj found).symm
  have still : Undisturbed calm ⟨"a", none⟩ run.trace := by decide
  refine ⟨accepting_calm, steady, deletions, still, ?_⟩
  obtain ⟨-, -, single⟩ := onGateway_follows_single_local_endpoint calm {} steps 0 ()
    accepting_calm steady deletions
  refine (single ⟨"a", none⟩ (stored "a" "here" "2").object rfl (by decide) ?_).mpr
    ⟨by decide, still⟩
  intro k o found _
  have keys : run.state.cache.keys = [⟨"a", none⟩] := by decide
  have member : k ∈ run.state.cache.keys :=
    (Table.isSome_get? _ k).mp (Option.isSome_iff_exists.mpr ⟨o, found⟩)
  rw [keys] at member
  exact List.mem_singleton.mp member

end Examples

end GatewayEvents.Controller
