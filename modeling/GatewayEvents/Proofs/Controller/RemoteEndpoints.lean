import GatewayEvents.Proofs.Controller.Delivery

/-! The remote endpoints in the gateway state against those that the endpoint watch keeps. The
state is written by callbacks only, first ones and repeated ones, and whatever the handlers
answer; each writes the object that is kept by then, or removes one that is not kept. So the
state holds the kept endpoints of other clusters, up to updates of the same version, which
nobody is told of (`Mirrors`). -/
namespace GatewayEvents.Controller

open WatchLoop (Step Called Effect Prepared Supplied Among broughtIn runSteps)
open Dispatcher (Deed)

variable {ω : Type} {d : Dispatcher ω} {policy : RetryPolicy} {objects : List (Keyed Endpoint)}
  {op : Operation} {key : ObjectKey} {e : Endpoint} {requeues : Nat}
  {s t u : WatchLoop.State Endpoint} {w v : Dispatcher.State ω}
  {es past : List (WatchLoop.Entry Endpoint Deed)} {step : Step Endpoint}

/-- All endpoints lie in one namespace, and those of one name on one side. -/
structure Sided (d : Dispatcher ω) (namespaceName : Option String)
    (objects : List (Keyed Endpoint)) : Prop where
  together : ∀ o ∈ objects, o.key.namespaceName = namespaceName
  side : ∀ o ∈ objects, ∀ p ∈ objects, o.key.name = p.key.name →
    d.isLocal o.object = d.isLocal p.object

/-- What is stored of an endpoint, given what is kept of it. -/
inductive Mirrors (d : Dispatcher ω) : Option Endpoint → Option Endpoint → Prop where
  | absent : Mirrors d none none
  | own {kept} (here : d.isLocal kept = true) : Mirrors d (some kept) none
  | tracked {kept stored} (away : d.isLocal kept = false)
      (current : stored = kept ∨ Watched.sameVersion stored kept = true) :
      Mirrors d (some kept) (some stored)

theorem Mirrors.stored {stored? : Option Endpoint} (mirrors : Mirrors d (some e) stored?)
    (away : d.isLocal e = false) :
    ∃ stored, stored? = some stored ∧ (stored = e ∨ Watched.sameVersion stored e = true) := by
  cases mirrors with
  | own here => simp [here] at away
  | tracked _ current => exact ⟨_, rfl, current⟩

theorem Mirrors.kept {kept? stored? : Option Endpoint} (mirrors : Mirrors d kept? stored?)
    (known : stored?.isSome) : ∃ kept, kept? = some kept ∧ d.isLocal kept = false := by
  cases mirrors with
  | absent | own => contradiction
  | tracked away _ => exact ⟨_, rfl, away⟩

theorem Mirrors.not_stored {kept? stored? : Option Endpoint} (mirrors : Mirrors d kept? stored?)
    (here : ∀ kept, kept? = some kept → d.isLocal kept = true) : stored? = none := by
  cases mirrors with
  | absent | own => rfl
  | @tracked kept stored away _ => simp [here kept rfl] at away

/-- The state may lag by any number of updates of one version, which nobody is told of. -/
theorem Mirrors.replaced {old : Endpoint} {stored? : Option Endpoint}
    (mirrors : Mirrors d (some old) stored?) (side : d.isLocal old = d.isLocal e)
    (version : Watched.sameVersion old e = true) : Mirrors d (some e) stored? := by
  cases mirrors with
  | own here => exact .own (side ▸ here)
  | tracked away current =>
    refine .tracked (side ▸ away) (.inr ?_)
    rcases current with rfl | lag
    · exact version
    · exact Watched.sameVersion_trans _ _ _ lag version

def Mirrored (d : Dispatcher ω) (namespaceName : Option String) (s : WatchLoop.State Endpoint)
    (w : Dispatcher.State ω) : Prop :=
  ∀ key : ObjectKey, key.namespaceName = namespaceName →
    Mirrors d (s.cache.get? key) (w.gateway.get? key.name)

theorem mirrored_initial (namespaceName : Option String) (start : Nat) (world : ω) :
    Mirrored d namespaceName (.initial start) (.initial world) :=
  fun _ _ => .absent

theorem Sided.agrees {namespaceName : Option String} (sided : Sided d namespaceName objects)
    (among : Among objects key e) {kept : Endpoint} (other : Among objects key kept) :
    d.isLocal kept = d.isLocal e := by
  obtain ⟨o, member, rfl, rfl⟩ := among
  obtain ⟨p, here, same, rfl⟩ := other
  exact sided.side p here o member (congrArg ObjectKey.name same)

theorem Sided.placed {namespaceName : Option String} (sided : Sided d namespaceName objects)
    (among : Among objects key e) : key.namespaceName = namespaceName := by
  obtain ⟨o, member, rfl, -⟩ := among
  exact sided.together o member

theorem mirrored_of_replaced {namespaceName : Option String} {o : Keyed Endpoint} {old : Endpoint}
    (sided : Sided d namespaceName objects) (among : Among objects o.key o.object)
    (supplied : Supplied objects s past) (known : s.cache.get? o.key = some old)
    (version : Watched.sameVersion old o.object = true) (before : Mirrored d namespaceName s w) :
    Mirrored d namespaceName { s with cache := s.cache.insert o.key o.object } w := by
  intro key inside
  have mirrors := before key inside
  rw [Table.get?_insert]
  split
  next same =>
    subst same
    have side : d.isLocal old = d.isLocal o.object :=
      sided.agrees among (supplied.kept _ _ known)
    exact (known ▸ mirrors).replaced side version
  next => exact mirrors

theorem mirrored_of_called {namespaceName : Option String} (sided : Sided d namespaceName objects)
    (among : Among objects key e) (supplied : Supplied objects s past)
    (prepared : Prepared op key e s u)
    (called : Called (endpointLoop d policy) op key e requeues u w t v es)
    (before : Mirrored d namespaceName s w) : Mirrored d namespaceName t v := by
  have identity : e.identity = key.name := Endpoint.identity_of_key among.keyed
  have written : ∀ name, v.gateway.get? name =
      if d.isLocal e = false ∧ name = key.name then if op = .delete then none else some e
      else w.gateway.get? name := by
    intro name
    rw [called.world, ← identity, ← d.get?_onEndpoint op e requeues w]
    rfl
  intro other inside
  rw [written]
  by_cases same : other = key
  · subst same
    rw [called.get?_here prepared]
    cases side : d.isLocal e with
    | false =>
      simp only [and_self, if_true]
      split
      · exact .absent
      · exact .tracked side (.inl rfl)
    | true =>
      have unstored : w.gateway.get? other.name = none :=
        (before other inside).not_stored fun kept found =>
          (sided.agrees among (supplied.kept other kept found)).trans side
      simp only [Bool.true_eq_false, false_and, if_false, unstored]
      split
      · exact .absent
      · exact .own side
  · have apart : other.name ≠ key.name := fun name =>
      same (ObjectKey.eq_of_name name (inside.trans (sided.placed among).symm))
    rw [called.get?_others prepared other same, if_neg fun told => apart told.2]
    exact before other inside

theorem mirrored_of_effect {namespaceName : Option String} (sided : Sided d namespaceName objects)
    (effect : Effect (endpointLoop d policy) step s w t v es)
    (supplied : Supplied objects s past)
    (after : Supplied objects t (past ++ es)) (before : Mirrored d namespaceName s w) :
    Mirrored d namespaceName t v := by
  cases effect with
  | quiet cache => exact fun key inside => cache ▸ before key inside
  | replaced _ known version =>
    exact mirrored_of_replaced sided after.kept_of_insert supplied known version before
  | first _ prepared called | again _ _ _ prepared called =>
    exact mirrored_of_called sided (after.told_of_called called) supplied prepared called before

/-- If all endpoints lie in one namespace and those of one name on one side, then the remote
endpoints in the gateway state are the kept ones of other clusters, each as it is kept or in the
same version. -/
theorem remote_endpoints_mirror_cache (d : Dispatcher ω) (policy : RetryPolicy)
    (steps : List (Nat × Step Endpoint)) (start : Nat) (world : ω) (namespaceName : Option String)
    (sided : Sided d namespaceName (broughtIn steps)) :
    let run := runSteps (endpointLoop d policy) steps (.initial start) (.initial world)
    run.crash = none →
    (∀ identity, identity ∈ run.world.gateway.identities ↔
      ∃ key e, run.state.cache.get? key = some e ∧ d.isLocal e = false ∧ key.name = identity) ∧
    ∀ key e, run.state.cache.get? key = some e → d.isLocal e = false →
      ∃ stored, run.world.gateway.get? key.name = some stored ∧
        (stored = e ∨ Watched.sameVersion stored e = true) := by
  intro run ok
  have mirrored : Mirrored d namespaceName run.state run.world :=
    WatchLoop.runSteps_preserve_effects (I := fun s w _ => Mirrored d namespaceName s w)
      (fun effect supplied after before => mirrored_of_effect sided effect supplied after before)
      ok (mirrored_initial namespaceName start world)
  have stored : ∀ key e, run.state.cache.get? key = some e → d.isLocal e = false →
      ∃ stored, run.world.gateway.get? key.name = some stored ∧
        (stored = e ∨ Watched.sameVersion stored e = true) := by
    intro key e found away
    have among := (WatchLoop.supplied_runSteps ok).kept key e found
    exact (found ▸ mirrored key (sided.placed among)).stored away
  refine ⟨fun identity => ?_, stored⟩
  rw [GatewayState.identities, ← Table.isSome_get?]
  constructor
  · intro known
    obtain ⟨e, found, away⟩ := (mirrored ⟨identity, namespaceName⟩ rfl).kept known
    exact ⟨_, e, found, away, rfl⟩
  · rintro ⟨key, e, found, away, rfl⟩
    obtain ⟨old, known, -⟩ := stored key e found away
    exact Option.isSome_iff_exists.mpr ⟨old, known⟩

section Examples

def abroad (name cable version : String) : Keyed Endpoint :=
  ⟨⟨{ name := some name, resourceVersion := some version },
    { clusterId := "west", cableName := cable }⟩, ⟨name, none⟩, rfl⟩

/-- The creation is refused, an update of the same version is skipped, and the repeated creation
stores what is kept by then; the endpoint that went meanwhile is gone from the state. -/
theorem latest_remote_endpoint_stored_by_retry :
    let steps : List (Nat × Step Endpoint) :=
      [(0, .event .asKept (.apply (abroad "a" "one" "1"))),
        (0, .event .asKept (.apply (abroad "b" "one" "2"))),
        (0, .event .asKept (.apply (abroad "a" "two" "1"))),
        (0, .event .asKept (.delete (abroad "b" "one" "2"))), (5, .fire 0)]
    let run := runSteps (endpointLoop alone {}) steps (.initial 0) (.initial 1)
    Sided alone none (broughtIn steps) ∧ run.crash = none ∧
      "a" ∈ run.world.gateway.identities ∧ "b" ∉ run.world.gateway.identities := by
  intro steps run
  have sided : Sided alone none (broughtIn steps) := ⟨by decide, by decide⟩
  have ok : run.crash = none := by decide
  obtain ⟨identities, -⟩ := remote_endpoints_mirror_cache alone {} steps 0 1 none sided ok
  refine ⟨sided, ok, (identities "a").mpr ?_, fun member => ?_⟩
  · exact ⟨⟨"a", none⟩, (abroad "a" "two" "1").object, rfl, by decide, rfl⟩
  · obtain ⟨⟨_, _⟩, e, found, -, rfl⟩ := (identities "b").mp member
    have keys : run.state.cache.keys = [⟨"a", none⟩] := by decide
    have known := (Table.isSome_get? _ _).mp (Option.isSome_iff_exists.mpr ⟨e, found⟩)
    rw [keys] at known
    simp at known

end Examples

end GatewayEvents.Controller
