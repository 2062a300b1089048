import GatewayEvents.Proofs.Controller.GatewayFlag
import GatewayEvents.Proofs.Controller.RemoteEndpoints
import Mathlib.Data.List.Nodup
import Mathlib.Data.List.Perm.Subperm

/-! What the gateway state holds under a name, whatever endpoints go by it. An entry is written
by callbacks about endpoints of other clusters only, and the last one of its name decides
(`Written`). Two kinds of endpoints come under one name without the state telling them apart: an
endpoint that moved to the local cluster, whose deletion is then none of a remote endpoint, so
that its entry outlives it; and endpoints of one name in several namespaces, which share one
entry. -/
namespace GatewayEvents.Controller

open WatchLoop (Step Attempt Called Effect Supplied Among Accounted Current attemptsIn broughtIn
  lastAttempt runSteps)
open Dispatcher (Deed)

variable {ω : Type} {d : Dispatcher ω} {policy : RetryPolicy} {objects : List (Keyed Endpoint)}
  {op : Operation} {key : ObjectKey} {e : Endpoint} {identity : String} {requeues : Nat}
  {s t u : WatchLoop.State Endpoint} {w v : Dispatcher.State ω}
  {es past : List (WatchLoop.Entry Endpoint Deed)} {step : Step Endpoint}
  {a : Attempt Endpoint Deed}

section Written

/-- The callback is about an endpoint of another cluster that goes by this name. -/
def names (d : Dispatcher ω) (identity : String) (a : Attempt Endpoint Deed) : Bool :=
  !d.isLocal a.object && a.object.identity = identity

theorem names_eq_true : names d identity a = true ↔
    d.isLocal a.object = false ∧ a.object.identity = identity := by
  simp [names]

/-- The most recent callback about an endpoint of another cluster that goes by this name. -/
def lastNaming (d : Dispatcher ω) (identity : String)
    (past : List (WatchLoop.Entry Endpoint Deed)) : Option (Attempt Endpoint Deed) :=
  ((attemptsIn past).filter (names d identity)).getLast?

def left (a : Attempt Endpoint Deed) : Option Endpoint :=
  if a.operation = .delete then none else some a.object

theorem left_eq_some : left a = some e ↔ a.operation ≠ .delete ∧ a.object = e := by
  simp [left]

theorem isSome_left : (left a).isSome ↔ a.operation ≠ .delete := by
  simp [left]

/-- Every entry is what the last callback of its name left. -/
def Written (d : Dispatcher ω) (w : Dispatcher.State ω)
    (past : List (WatchLoop.Entry Endpoint Deed)) : Prop :=
  ∀ identity, w.gateway.get? identity = (lastNaming d identity past).bind left

theorem lastNaming_mem (last : lastNaming d identity past = some a) :
    a ∈ attemptsIn past ∧ d.isLocal a.object = false ∧ a.object.identity = identity := by
  obtain ⟨member, named⟩ := List.mem_filter.mp (List.mem_of_getLast? last)
  exact ⟨member, names_eq_true.mp named⟩

theorem lastNaming_append_of_silent (silent : attemptsIn es = []) :
    lastNaming d identity (past ++ es) = lastNaming d identity past := by
  simp [lastNaming, silent]

theorem lastNaming_of_called
    (called : Called (endpointLoop d policy) op key e requeues u w t v es) :
    lastNaming d identity (past ++ es) =
      if d.isLocal e = false ∧ identity = e.identity then
        some ((endpointLoop d policy).made op key e requeues w)
      else lastNaming d identity past := by
  have object : ((endpointLoop d policy).made op key e requeues w).object = e := rfl
  rw [lastNaming, WatchLoop.attemptsIn_append, called.attempts, List.filter_append]
  split
  next named =>
    rw [List.filter_cons_of_pos (by simp [names, object, named])]
    exact List.getLast?_concat
  next unnamed =>
    have unnamed : ¬ names d identity ((endpointLoop d policy).made op key e requeues w) = true :=
      fun named => unnamed ((names_eq_true.mp named).imp_right Eq.symm)
    rw [List.filter_cons_of_neg unnamed, List.filter_nil, List.append_nil, lastNaming]

theorem written_initial (world : ω) : Written d (.initial world) [] := fun _ => rfl

theorem Written.frame (before : Written d w past) (silent : attemptsIn es = []) :
    Written d w (past ++ es) :=
  fun identity => (before identity).trans (by rw [lastNaming_append_of_silent silent])

theorem written_of_called (before : Written d w past)
    (called : Called (endpointLoop d policy) op key e requeues u w t v es) :
    Written d v (past ++ es) := by
  intro identity
  rw [lastNaming_of_called called, called.world]
  refine (d.get?_onEndpoint op e requeues w identity).trans ?_
  split
  · rfl
  · exact before identity

theorem written_of_effect (effect : Effect (endpointLoop d policy) step s w t v es)
    (before : Written d w past) : Written d v (past ++ es) := by
  cases effect with
  | quiet _ _ silent => exact before.frame silent
  | replaced => exact before.frame rfl
  | first _ _ called | again _ _ _ _ called => exact written_of_called before called

theorem Written.mem_identities (written : Written d w past) :
    identity ∈ w.gateway.identities ↔
      ∃ a, lastNaming d identity past = some a ∧ a.operation ≠ .delete := by
  rw [GatewayState.identities, ← Table.isSome_get?]
  have entry : w.gateway.remote.get? identity = _ := written identity
  rw [entry]
  cases lastNaming d identity past with
  | none => simp
  | some a => simpa using isSome_left

/-- The entries, with what is known of callbacks and kept endpoints beside them. -/
structure Tracked (d : Dispatcher ω) (policy : RetryPolicy) (objects : List (Keyed Endpoint))
    (s : WatchLoop.State Endpoint) (w : Dispatcher.State ω)
    (past : List (WatchLoop.Entry Endpoint Deed)) : Prop where
  supplied : Supplied objects s past
  written : Written d w past
  account : ∀ key, Accounted (endpointLoop d policy) key s past
  current : Current (endpointLoop d policy) s past

theorem tracked_runSteps (d : Dispatcher ω) (policy : RetryPolicy)
    (steps : List (Nat × Step Endpoint)) (start : Nat) (world : ω) :
    let run := runSteps (endpointLoop d policy) steps (.initial start) (.initial world)
    ∃ t, run.Meant t ∧ Tracked d policy (broughtIn steps) t run.world run.trace := by
  intro run
  obtain ⟨t, meant, supplied, written, account, current⟩ :=
    WatchLoop.runSteps_preserve_supplied (c := endpointLoop d policy)
      (I := fun s w past => Written d w past ∧
        (∀ key, Accounted (endpointLoop d policy) key s past) ∧
        Current (endpointLoop d policy) s past)
      (fun move _ _ before => ⟨written_of_effect move.effect before.1, move.accounted before.2.1,
        move.effect.current Watched.sameVersion_trans before.2.2⟩)
      ⟨written_initial world, WatchLoop.accounted_initial start, WatchLoop.current_initial start⟩
  exact ⟨t, meant, supplied, written, account, current⟩

theorem Tracked.identity_of_mem (tracked : Tracked d policy objects s w past)
    (member : a ∈ attemptsIn past) : a.object.identity = a.key.name :=
  Endpoint.identity_of_key (tracked.supplied.told a member).keyed

end Written

section Outliving
variable {namespaceName : Option String}

theorem Tracked.key_of_named (tracked : Tracked d policy objects s w past)
    (together : ∀ o ∈ objects, o.key.namespaceName = namespaceName) (member : a ∈ attemptsIn past)
    (named : a.object.identity = identity) : a.key = ⟨identity, namespaceName⟩ := by
  obtain ⟨o, brought, same, -⟩ := tracked.supplied.told a member
  refine ObjectKey.eq_of_name ((tracked.identity_of_mem member).symm.trans named) ?_
  exact (congrArg ObjectKey.namespaceName same).symm.trans (together o brought)

theorem Tracked.isLocal_of_deleted (tracked : Tracked d policy objects s w past)
    (together : ∀ o ∈ objects, o.key.namespaceName = namespaceName)
    (held : identity ∈ w.gateway.identities)
    (last : lastAttempt ⟨identity, namespaceName⟩ past = some a) (deleted : a.operation = .delete) :
    d.isLocal a.object = true := by
  obtain ⟨b, writer, keep⟩ := tracked.written.mem_identities.mp held
  obtain ⟨member, own⟩ := WatchLoop.lastAttempt_mem last
  by_contra away
  rw [Bool.not_eq_true] at away
  have named : names d identity a = true :=
    names_eq_true.mpr ⟨away, (tracked.identity_of_mem member).trans (congrArg ObjectKey.name own)⟩
  have wrote : lastNaming d identity past = some a :=
    WatchLoop.getLast?_filter_of_within last named fun x among told =>
      decide_eq_true (tracked.key_of_named together among (names_eq_true.mp told).2)
  rw [wrote] at writer
  exact keep (Option.some.inj writer ▸ deleted)

/-- An entry belongs to no kept endpoint exactly if the endpoint was deleted as a local one. -/
theorem Tracked.unkept_iff (tracked : Tracked d policy objects s w past)
    (together : ∀ o ∈ objects, o.key.namespaceName = namespaceName)
    (held : identity ∈ w.gateway.identities) :
    (¬ ∃ key e, s.cache.get? key = some e ∧ key.name = identity) ↔
      ∃ a, lastAttempt ⟨identity, namespaceName⟩ past = some a ∧ a.operation = .delete ∧
        d.isLocal a.object = true := by
  constructor
  · intro unkept
    obtain ⟨b, writer, keep⟩ := tracked.written.mem_identities.mp held
    obtain ⟨member, -, named⟩ := lastNaming_mem writer
    obtain ⟨a, last⟩ := WatchLoop.exists_lastAttempt member
    rw [tracked.key_of_named together member named] at last
    have deleted : a.operation = .delete := by
      refine ((tracked.account _).kept a last).mpr ?_
      refine Option.eq_none_iff_forall_ne_some.mpr fun e found => ?_
      exact unkept ⟨_, e, found, rfl⟩
    exact ⟨a, last, deleted, tracked.isLocal_of_deleted together held last deleted⟩
  · rintro ⟨a, last, deleted, -⟩ ⟨key, e, found, rfl⟩
    obtain ⟨o, brought, rfl, -⟩ := tracked.supplied.kept key e found
    have here : o.key = ⟨o.key.name, namespaceName⟩ :=
      ObjectKey.eq_of_name rfl (together o brought)
    rw [← here] at last
    have gone := ((tracked.account _).kept a last).mp deleted
    exact Option.some_ne_none _ (found.symm.trans gone)

end Outliving

/-- Endpoints of one key lie on one side. -/
def KeepsSide (d : Dispatcher ω) (objects : List (Keyed Endpoint)) : Prop :=
  ∀ o ∈ objects, ∀ p ∈ objects, o.key = p.key → d.isLocal o.object = d.isLocal p.object

instance : Decidable (KeepsSide d objects) :=
  inferInstanceAs (Decidable (∀ o ∈ objects, ∀ p ∈ objects, o.key = p.key → _ = _))

theorem KeepsSide.agrees {f : Endpoint} (keeps : KeepsSide d objects) (one : Among objects key e)
    (two : Among objects key f) : d.isLocal e = d.isLocal f := by
  obtain ⟨o, here, rfl, rfl⟩ := one
  obtain ⟨p, there, same, rfl⟩ := two
  exact keeps o here p there same.symm

/-- The entry of a name belongs to no kept endpoint exactly if the last callback about that endpoint
was the deletion of a local one, which left the entry of its remote past behind. -/
theorem entry_outlives_endpoint_iff (d : Dispatcher ω) (policy : RetryPolicy)
    (steps : List (Nat × Step Endpoint)) (start : Nat) (world : ω) (namespaceName : Option String)
    (together : ∀ o ∈ broughtIn steps, o.key.namespaceName = namespaceName) :
    let run := runSteps (endpointLoop d policy) steps (.initial start) (.initial world)
    (d.Accepting → run.crash = none) ∧
    (∀ identity e, run.world.gateway.get? identity = some e ↔
      ∃ a, lastNaming d identity run.trace = some a ∧ a.operation ≠ .delete ∧ a.object = e) ∧
    (∀ identity ∈ run.world.gateway.identities,
      (¬ ∃ key e, run.state.cache.get? key = some e ∧ key.name = identity) ↔
        ∃ a, lastAttempt ⟨identity, namespaceName⟩ run.trace = some a ∧ a.operation = .delete ∧
          d.isLocal a.object = true) ∧
    (KeepsSide d (broughtIn steps) → ∀ identity ∈ run.world.gateway.identities,
      ∃ key e, run.state.cache.get? key = some e ∧ key.name = identity) := by
  intro run
  obtain ⟨t, meant, tracked⟩ := tracked_runSteps d policy steps start world
  have unkept : ∀ identity ∈ run.world.gateway.identities,
      (¬ ∃ key e, run.state.cache.get? key = some e ∧ key.name = identity) ↔
        ∃ a, lastAttempt ⟨identity, namespaceName⟩ run.trace = some a ∧ a.operation = .delete ∧
          d.isLocal a.object = true := by
    intro identity held
    rw [← meant.cache]
    exact tracked.unkept_iff together held
  refine ⟨fun accepting => (content_of_accepting accepting).runSteps steps, fun identity e => ?_,
    unkept, fun keeps identity held => ?_⟩
  · rw [tracked.written identity, Option.bind_eq_some_iff]
    exact exists_congr fun a => and_congr_right fun _ => left_eq_some
  · by_contra none
    obtain ⟨a, last, deleted, here⟩ := (unkept identity held).mp none
    obtain ⟨b, writer, -⟩ := tracked.written.mem_identities.mp held
    obtain ⟨member, away, named⟩ := lastNaming_mem writer
    obtain ⟨among, own⟩ := WatchLoop.lastAttempt_mem last
    have same : b.key = a.key := (tracked.key_of_named together member named).trans own.symm
    have side : d.isLocal b.object = d.isLocal a.object :=
      keeps.agrees (same ▸ tracked.supplied.told b member) (tracked.supplied.told a among)
    rw [away, here] at side
    contradiction

section Examples

/-- Two runs, with a handler that accepts everything, of an endpoint that was remote and moved to
the local cluster: deleted, or missing in a relist, it is still held as a remote endpoint. -/
theorem entry_left_behind_by_move :
    let moved : List (Nat × Step Endpoint) :=
      [(0, .event .asKept (.apply (abroad "a" "one" "1"))),
        (0, .event .asKept (.apply (stored "a" "there" "2")))]
    let deleted := moved ++ [(0, .event .asKept (.delete (stored "a" "there" "3")))]
    let relisted := moved ++ [(0, .event .asKept .init), (0, .event .asKept .initDone)]
    let run := fun steps => runSteps (endpointLoop calm {}) steps (.initial 0) (.initial ())
    calm.Accepting ∧
    ((∀ o ∈ broughtIn deleted, o.key.namespaceName = none) ∧
      (run deleted).state.cache.keys = [] ∧ (run deleted).world.gateway.identities = ["a"]) ∧
    (∀ o ∈ broughtIn relisted, o.key.namespaceName = none) ∧
      (run relisted).state.cache.keys = [] ∧ (run relisted).world.gateway.identities = ["a"] := by
  intro moved deleted relisted run
  exact ⟨accepting_calm, by decide⟩

/-- The same while the handler refuses the creation and the deletion, which is then repeated. -/
theorem entry_left_behind_after_refusals :
    let steps : List (Nat × Step Endpoint) :=
      [(0, .event .asKept (.apply (abroad "a" "one" "1"))),
        (0, .event .asKept (.apply (stored "a" "there" "2"))),
        (0, .event .asKept (.delete (stored "a" "there" "3"))), (5, .fire 0)]
    let run := runSteps (endpointLoop alone {}) steps (.initial 0) (.initial 3)
    (∀ o ∈ broughtIn steps, o.key.namespaceName = none) ∧ "a" ∈ run.world.gateway.identities ∧
      ¬ ∃ key e, run.state.cache.get? key = some e ∧ key.name = "a" := by
  intro steps run
  have together : ∀ o ∈ broughtIn steps, o.key.namespaceName = none := by decide
  have held : "a" ∈ run.world.gateway.identities := by decide
  obtain ⟨-, -, unkept, -⟩ := entry_outlives_endpoint_iff alone {} steps 0 3 none together
  have last : ∃ a, lastAttempt ⟨"a", none⟩ run.trace = some a ∧ a.operation = .delete ∧
      alone.isLocal a.object = true := ⟨_, rfl, by decide, by decide⟩
  exact ⟨together, held, (unkept "a" held).mpr last⟩

end Examples

section Namesakes

def remoteKeys (d : Dispatcher ω) (cache : Table ObjectKey Endpoint) : List ObjectKey :=
  (cache.entries.filter fun entry => !d.isLocal entry.2).map Prod.fst

/-- The last callback about a remote endpoint of this name deleted it. -/
def Hidden (d : Dispatcher ω) (identity : String)
    (past : List (WatchLoop.Entry Endpoint Deed)) : Prop :=
  ∃ a ∈ lastNaming d identity past, a.operation = .delete

instance : Decidable (Hidden d identity past) :=
  inferInstanceAs (Decidable (∃ a ∈ lastNaming d identity past, _))

theorem mem_remoteKeys {cache : Table ObjectKey Endpoint} :
    key ∈ remoteKeys d cache ↔ ∃ e, cache.get? key = some e ∧ d.isLocal e = false := by
  simp only [remoteKeys, List.mem_map, List.mem_filter, Table.get?_eq_some_iff]
  constructor
  · rintro ⟨⟨key, e⟩, ⟨member, away⟩, rfl⟩
    exact ⟨e, member, by simpa using away⟩
  · rintro ⟨e, member, away⟩
    exact ⟨(key, e), ⟨member, by simp [away]⟩, rfl⟩

theorem nodup_remoteKeys (cache : Table ObjectKey Endpoint) : (remoteKeys d cache).Nodup :=
  cache.distinct.sublist (List.filter_sublist.map _)

theorem Tracked.kept_of_lastNaming (tracked : Tracked d policy objects s w past)
    (keeps : KeepsSide d objects) (writer : lastNaming d identity past = some a)
    (keep : a.operation ≠ .delete) :
    ∃ e, s.cache.get? a.key = some e ∧ d.isLocal e = false ∧ a.key.name = identity ∧
      (a.object = e ∨ Watched.sameVersion a.object e = true) := by
  obtain ⟨member, away, named⟩ := lastNaming_mem writer
  have among := tracked.supplied.told a member
  have last : lastAttempt a.key past = some a := by
    refine WatchLoop.getLast?_filter_of_within writer (by simp) fun x told own => ?_
    have own : x.key = a.key := of_decide_eq_true own
    have side := keeps.agrees (own ▸ tracked.supplied.told x told) among
    refine names_eq_true.mpr ⟨side.trans away, ?_⟩
    rw [tracked.identity_of_mem told, own, ← tracked.identity_of_mem member, named]
  have present : s.cache.get? a.key ≠ none := mt ((tracked.account _).kept a last).mpr keep
  obtain ⟨e, found⟩ := Option.ne_none_iff_exists'.mp present
  have side := keeps.agrees (tracked.supplied.kept _ e found) among
  exact ⟨e, found, side.trans away, (tracked.identity_of_mem member).symm.trans named,
    tracked.current _ e a found last⟩

theorem Tracked.lastAttempt_of_remote (tracked : Tracked d policy objects s w past)
    (keeps : KeepsSide d objects) (member : key ∈ remoteKeys d s.cache) :
    ∃ a, lastAttempt key past = some a ∧ a.operation ≠ .delete ∧ names d key.name a = true := by
  obtain ⟨e, found, away⟩ := mem_remoteKeys.mp member
  have present : s.cache.get? key ≠ none := by simp [found]
  have touched : lastAttempt key past ≠ none := mt (tracked.account key).untouched present
  obtain ⟨a, last⟩ := Option.ne_none_iff_exists'.mp touched
  obtain ⟨told, rfl⟩ := WatchLoop.lastAttempt_mem last
  have side := keeps.agrees (tracked.supplied.told a told) (tracked.supplied.kept _ e found)
  exact ⟨a, last, mt ((tracked.account _).kept a last).mp present,
    names_eq_true.mpr ⟨side.trans away, tracked.identity_of_mem told⟩⟩

/-- A name is held exactly if a kept remote endpoint goes by it and none of that name was deleted
since. -/
theorem Tracked.mem_identities_iff (tracked : Tracked d policy objects s w past)
    (keeps : KeepsSide d objects) : identity ∈ w.gateway.identities ↔
      identity ∈ (remoteKeys d s.cache).map (·.name) ∧ ¬ Hidden d identity past := by
  rw [tracked.written.mem_identities, List.mem_map]
  constructor
  · rintro ⟨a, writer, keep⟩
    obtain ⟨e, found, away, name, -⟩ := tracked.kept_of_lastNaming keeps writer keep
    refine ⟨⟨a.key, mem_remoteKeys.mpr ⟨e, found, away⟩, name⟩, ?_⟩
    rintro ⟨b, last, deleted⟩
    exact keep (Option.some.inj (writer.symm.trans last) ▸ deleted)
  · rintro ⟨⟨key, member, rfl⟩, shown⟩
    obtain ⟨b, last, -, named⟩ := tracked.lastAttempt_of_remote keeps member
    have own : b ∈ (attemptsIn past).filter (names d key.name) :=
      List.mem_filter.mpr ⟨(WatchLoop.lastAttempt_mem last).1, named⟩
    have writer := List.getLast?_eq_some_getLast (List.ne_nil_of_mem own)
    exact ⟨_, writer, fun deleted => shown ⟨_, writer, deleted⟩⟩

theorem Tracked.not_hidden (tracked : Tracked d policy objects s w past)
    (keeps : KeepsSide d objects) (member : key ∈ remoteKeys d s.cache)
    (single : ∀ a ∈ attemptsIn past, names d key.name a = true → a.key = key) :
    ¬ Hidden d key.name past := by
  rintro ⟨a, writer, deleted⟩
  obtain ⟨b, last, keep, named⟩ := tracked.lastAttempt_of_remote keeps member
  have wrote : lastNaming d key.name past = some b :=
    WatchLoop.getLast?_filter_of_within last named fun x among named =>
      decide_eq_true (single x among named)
  exact keep (Option.some.inj (wrote.symm.trans writer) ▸ deleted)

/-- A list without repetitions that holds those of some names that pass is as long as they are
exactly if the names do not repeat and all pass. -/
theorem length_eq_length_iff {α : Type} {held all : List α} {passes : α → Prop}
    (distinct : held.Nodup) (mem : ∀ x, x ∈ held ↔ x ∈ all ∧ passes x) :
    held.length = all.length ↔ all.Nodup ∧ ∀ x ∈ all, passes x := by
  have within : held.Subperm all :=
    List.Nodup.subperm distinct fun x member => ((mem x).mp member).1
  constructor
  · intro same
    have perm : held.Perm all := within.perm_of_length_le same.ge
    exact ⟨perm.nodup_iff.mp distinct, fun x member => ((mem x).mp (perm.mem_iff.mpr member)).2⟩
  · rintro ⟨single, pass⟩
    have back : all.Subperm held :=
      List.Nodup.subperm single fun x member => (mem x).mpr ⟨member, pass x member⟩
    exact (within.antisymm back).length_eq

theorem Tracked.counted_of_apart (tracked : Tracked d policy objects s w past)
    (keeps : KeepsSide d objects)
    (apart : ∀ o ∈ objects, ∀ p ∈ objects, d.isLocal o.object = false →
      d.isLocal p.object = false → o.key.name = p.key.name → o.key = p.key) :
    ((remoteKeys d s.cache).map (·.name)).Nodup ∧
      ∀ key ∈ remoteKeys d s.cache, ¬ Hidden d key.name past := by
  -- whatever remote endpoint is told of under the name of a kept one is that one
  have single : ∀ key ∈ remoteKeys d s.cache, ∀ k f, Among objects k f → d.isLocal f = false →
      k.name = key.name → k = key := by
    intro key member k f among away name
    obtain ⟨e, found, outside⟩ := mem_remoteKeys.mp member
    obtain ⟨o, here, rfl, rfl⟩ := tracked.supplied.kept key e found
    obtain ⟨p, there, rfl, rfl⟩ := among
    exact apart p there o here away outside name
  constructor
  · refine List.Nodup.map_on (fun key member other among name => ?_) (nodup_remoteKeys _)
    obtain ⟨e, found, away⟩ := mem_remoteKeys.mp member
    exact single other among key e (tracked.supplied.kept key e found) away name
  · intro key member
    refine tracked.not_hidden keeps member fun a told named => ?_
    have ⟨away, name⟩ := names_eq_true.mp named
    exact single key member _ _ (tracked.supplied.told a told) away
      ((tracked.identity_of_mem told).symm.trans name)

theorem length_snapshot (g : GatewayState) : g.snapshot.length = g.identities.length := by
  simp [GatewayState.snapshot, GatewayState.identities, Table.values, Table.keys]

/-- There are at most as many entries as kept remote endpoints, and just as many exactly if no two
of these share a name and none is hidden by a deletion of that name. -/
theorem snapshot_counts_remote_endpoints_iff (d : Dispatcher ω) (policy : RetryPolicy)
    (steps : List (Nat × Step Endpoint)) (start : Nat) (world : ω)
    (keeps : KeepsSide d (broughtIn steps)) :
    let run := runSteps (endpointLoop d policy) steps (.initial start) (.initial world)
    let remote := remoteKeys d run.state.cache
    (d.Accepting → run.crash = none) ∧
    (∀ identity, identity ∈ run.world.gateway.identities ↔
      (∃ key ∈ remote, key.name = identity) ∧ ¬ Hidden d identity run.trace) ∧
    (∀ identity stored, run.world.gateway.get? identity = some stored →
      ∃ key e, key.name = identity ∧ run.state.cache.get? key = some e ∧ d.isLocal e = false ∧
        (stored = e ∨ Watched.sameVersion stored e = true)) ∧
    run.world.gateway.snapshot.length ≤ remote.length ∧
    (run.world.gateway.snapshot.length = remote.length ↔
      (remote.map (·.name)).Nodup ∧ ∀ key ∈ remote, ¬ Hidden d key.name run.trace) ∧
    ((∀ o ∈ broughtIn steps, ∀ p ∈ broughtIn steps, d.isLocal o.object = false →
        d.isLocal p.object = false → o.key.name = p.key.name → o.key = p.key) →
      run.world.gateway.snapshot.length = remote.length) := by
  intro run remote
  obtain ⟨t, meant, tracked⟩ := tracked_runSteps d policy steps start world
  have mem : ∀ identity, identity ∈ run.world.gateway.identities ↔
      identity ∈ remote.map (·.name) ∧ ¬ Hidden d identity run.trace := by
    intro identity
    simp only [remote, run, ← meant.cache]
    exact tracked.mem_identities_iff keeps
  have distinct : run.world.gateway.identities.Nodup := run.world.gateway.remote.distinct
  have count : run.world.gateway.snapshot.length = remote.length ↔
      (remote.map (·.name)).Nodup ∧ ∀ key ∈ remote, ¬ Hidden d key.name run.trace := by
    have whole := length_eq_length_iff distinct mem
    rwa [List.length_map, List.forall_mem_map, ← length_snapshot] at whole
  refine ⟨fun accepting => (content_of_accepting accepting).runSteps steps, ?_, ?_, ?_, count, ?_⟩
  · simpa only [List.mem_map] using mem
  · intro identity stored known
    rw [tracked.written identity, Option.bind_eq_some_iff] at known
    obtain ⟨a, writer, leaves⟩ := known
    obtain ⟨keep, rfl⟩ := left_eq_some.mp leaves
    obtain ⟨e, found, away, name, same⟩ := tracked.kept_of_lastNaming keeps writer keep
    exact ⟨a.key, e, name, meant.cache ▸ found, away, same⟩
  · have within := List.Nodup.subperm distinct fun x member => ((mem x).mp member).1
    rw [length_snapshot]
    exact within.length_le.trans_eq (List.length_map _)
  · intro apart
    have counted := tracked.counted_of_apart keeps apart
    rw [meant.cache] at counted
    exact count.mpr counted

def abroadIn (namespaceName name version : String) : Keyed Endpoint :=
  ⟨⟨{ name := some name, namespaceName := some namespaceName, resourceVersion := some version },
    { clusterId := "west" }⟩, ⟨name, some namespaceName⟩, rfl⟩

/-- Two remote endpoints of one name are kept, and one entry is held; when one of them is deleted,
the other is still kept, and none is held. -/
theorem namesakes_share_one_entry :
    let both : List (Nat × Step Endpoint) :=
      [(0, .event .asKept (.apply (abroadIn "north" "a" "1"))),
        (0, .event .asKept (.apply (abroadIn "south" "a" "2")))]
    let deleted := both ++ [(0, .event .asKept (.delete (abroadIn "north" "a" "3")))]
    let run := fun steps => runSteps (endpointLoop calm {}) steps (.initial 0) (.initial ())
    calm.Accepting ∧
    (∀ o ∈ broughtIn deleted, ∀ p ∈ broughtIn deleted, o.key = p.key →
      o.object.spec.clusterId = p.object.spec.clusterId) ∧
    (remoteKeys calm (run both).state.cache = [⟨"a", some "north"⟩, ⟨"a", some "south"⟩] ∧
      (run both).world.gateway.snapshot.length = 1) ∧
    remoteKeys calm (run deleted).state.cache = [⟨"a", some "south"⟩] ∧
      (run deleted).world.gateway.snapshot.length = 0 := by
  intro both deleted run
  exact ⟨accepting_calm, by decide⟩

/-- The next update of the endpoint that is still kept brings the entry back. -/
theorem entry_restored_by_update :
    let steps : List (Nat × Step Endpoint) :=
      [(0, .event .asKept (.apply (abroadIn "north" "a" "1"))),
        (0, .event .asKept (.apply (abroadIn "south" "a" "2"))),
        (0, .event .asKept (.delete (abroadIn "north" "a" "3"))),
        (0, .event .asKept (.apply (abroadIn "south" "a" "4")))]
    let run := runSteps (endpointLoop calm {}) steps (.initial 0) (.initial ())
    KeepsSide calm (broughtIn steps) ∧
      run.world.gateway.snapshot.length = (remoteKeys calm run.state.cache).length := by
  intro steps run
  have keeps : KeepsSide calm (broughtIn steps) := by decide
  obtain ⟨-, -, -, -, count, -⟩ := snapshot_counts_remote_endpoints_iff calm {} steps 0 () keeps
  exact ⟨keeps, count.mpr (by decide)⟩

end Namesakes

end GatewayEvents.Controller
