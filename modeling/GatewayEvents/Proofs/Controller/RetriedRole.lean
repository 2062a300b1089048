import GatewayEvents.Proofs.Controller.GatewayFlag
import GatewayEvents.Proofs.WatchLoop.FirstAttempts

/-! The gateway flag of a run in which handlers fail, against a run over the same events in which
none does. In both the flag is the role that the last callback asked for that asked for one. The
first callbacks ask for the same roles in both (`roles_changesIn_eq`), so only a repeated
callback can part the flags, by overwriting what a later event had decided (`Overruled`). It
does not when it is about the same endpoint as the last first callback that asked for a role:
then it asks for the same, being made with what is kept by then. A deletion is the exception: it is
repeated as it was. -/
namespace GatewayEvents.Controller

open WatchLoop (Step Called Effect Prepared Supplied Among Change Attempt attemptsIn firstAttempts
  changesIn broughtIn eventsIn runSteps)
open Dispatcher (Deed)

variable {ω : Type} {d : Dispatcher ω} {policy : RetryPolicy} {objects : List (Keyed Endpoint)}
  {op : Operation} {key : ObjectKey} {e : Endpoint} {requeues : Nat}
  {s t u : WatchLoop.State Endpoint} {w v : Dispatcher.State ω}
  {es past : List (WatchLoop.Entry Endpoint Deed)} {step : Step Endpoint}
  {as : List (Attempt Endpoint Deed)} {a b : Attempt Endpoint Deed}

section Standing

def asks (d : Dispatcher ω) (a : Attempt Endpoint Deed) : Option Bool :=
  d.roleOf a.operation a.object

/-- The last of these callbacks that asks for a role. -/
def standing (d : Dispatcher ω) (as : List (Attempt Endpoint Deed)) :
    Option (Attempt Endpoint Deed) :=
  (as.filter fun a => (asks d a).isSome).getLast?

def roles (d : Dispatcher ω) (changes : List (Change Endpoint)) : List Bool :=
  changes.filterMap fun x => d.roleOf x.operation x.object

theorem standing_concat_of_asked (asked : (asks d a).isSome) : standing d (as ++ [a]) = some a := by
  simp [standing, asked]

theorem standing_concat_of_unasked (unasked : asks d a = none) :
    standing d (as ++ [a]) = standing d as := by
  simp [standing, unasked]

theorem standing_mem (last : standing d as = some a) : a ∈ as ∧ (asks d a).isSome := by
  simpa using List.mem_of_getLast? last

theorem asks_delete (asked : (asks d a).isSome) (delete : a.operation = .delete) :
    asks d a = some false := by
  rw [asks, delete] at asked ⊢
  exact Dispatcher.roleOf_delete asked

theorem getLast?_roles (as : List (Attempt Endpoint Deed)) :
    (roles d (as.map Attempt.change)).getLast? = (standing d as).bind (asks d) := by
  induction as using List.reverseRecOn with
  | nil => rfl
  | append_singleton as a ih =>
    cases asked : asks d a with
    | none =>
      rw [standing_concat_of_unasked asked, ← ih]
      simp [roles, show d.roleOf a.change.operation a.change.object = none from asked]
    | some r =>
      rw [standing_concat_of_asked (asked ▸ rfl)]
      simp [roles, show d.roleOf a.change.operation a.change.object = some r from asked, asked]

end Standing

section Events
variable {ω' : Type} {d' : Dispatcher ω'} {ε : Type}

theorem roles_perm {xs ys : List (Change Endpoint)} (same : xs.Perm ys)
    (short : ys.length ≤ 1 ∨ ∀ y ∈ ys, y.operation = .delete) : roles d xs = roles d ys := by
  rcases short with short | deletes
  · cases ys with
    | nil =>
      obtain rfl := same.eq_nil
      rfl
    | cons y rest =>
      obtain rfl : rest = [] := by simpa using short
      rw [List.perm_singleton.mp same]
  · -- deletions ask for one role only
    have falses : roles d ys = List.replicate (roles d ys).length false := by
      refine List.eq_replicate_length.mpr fun r member => ?_
      obtain ⟨y, among, asked⟩ := List.mem_filterMap.mp member
      rw [deletes y among] at asked
      exact Option.some.inj (asked.symm.trans (Dispatcher.roleOf_delete (asked ▸ rfl)))
    have arranged : (roles d xs).Perm (roles d ys) := same.filterMap _
    rw [falses] at arranged ⊢
    exact List.perm_replicate.mp arranged

theorem roles_story {parts : List (List (Change Endpoint))} {v : WatchLoop.View Endpoint}
    {equivalent : Endpoint → Endpoint → Bool} {events : List (WatchEvent (Keyed Endpoint))}
    (each : List.Forall₂ List.Perm parts (v.story equivalent events)) :
    roles d parts.flatten = roles d (v.story equivalent events).flatten := by
  induction events generalizing v parts with
  | nil => cases each; rfl
  | cons event rest ih =>
    cases each with
    | cons first others =>
      have here := roles_perm (d := d) first (v.tells_short_or_deletes event)
      simp only [roles, WatchLoop.View.story, List.flatten_cons, List.filterMap_append] at here ih ⊢
      rw [here, ih others]

/-- First callbacks ask for the same roles in every run over the same events. -/
theorem roles_changesIn_eq {policy' : RetryPolicy} {steps steps' : List (Nat × Step Endpoint)}
    {start start' : Nat} {w' : Dispatcher.State ω'} (cluster : d'.clusterId = d.clusterId)
    (host : d'.hostname = d.hostname) (events : eventsIn steps' = eventsIn steps)
    (ok : (runSteps (endpointLoop d policy) steps (.initial start) w).crash = none)
    (ok' : (runSteps (endpointLoop d' policy') steps' (.initial start') w').crash = none) :
    roles d' (changesIn (runSteps (endpointLoop d' policy') steps' (.initial start') w').trace) =
      roles d (changesIn (runSteps (endpointLoop d policy) steps (.initial start) w).trace) := by
  have same : ∀ changes, roles d' changes = roles d changes := fun changes =>
    List.filterMap_congr fun _ _ => Dispatcher.roleOf_eq cluster host
  obtain ⟨-, parts, told, each⟩ := WatchLoop.story_runSteps (WatchLoop.repeating_initial start) ok
  obtain ⟨-, parts', told', each'⟩ :=
    WatchLoop.story_runSteps (WatchLoop.repeating_initial start') ok'
  rw [events] at each'
  rw [same, told, told', roles_story each, roles_story each']
  rfl

end Events

section Stands

/-- What is kept of the endpoint that the callback was about asks for the same role. -/
structure Settled (d : Dispatcher ω) (s : WatchLoop.State Endpoint) (b : Attempt Endpoint Deed) :
    Prop where
  deleted : b.operation = .delete → s.cache.get? b.key = none
  kept : b.operation ≠ .delete →
    ∀ e, s.cache.get? b.key = some e → d.roleOf .update e = asks d b

theorem settled_of_gone (gone : s.cache.get? b.key = none) : Settled d s b where
  deleted _ := gone
  kept _ e found := by
    rw [gone] at found
    contradiction

theorem Settled.frame (before : Settled d s b) (same : t.cache.get? b.key = s.cache.get? b.key) :
    Settled d t b where
  deleted := same ▸ before.deleted
  kept := same ▸ before.kept

theorem Settled.insert {old : Endpoint} (before : Settled d s b)
    (known : s.cache.get? key = some old) (alike : ∀ op, d.roleOf op e = d.roleOf op old) :
    Settled d { s with cache := s.cache.insert key e } b where
  deleted delete := by
    have gone := before.deleted delete
    rw [Table.get?_insert, if_neg, gone]
    rintro rfl
    rw [known] at gone
    contradiction
  kept keep f found := by
    rcases Table.get?_insert_cases found with ⟨rfl, rfl⟩ | ⟨-, kept⟩
    · exact (alike _).trans (before.kept keep old known)
    · exact before.kept keep f kept

/-- A repeated callback that need not ask for the role that a first one asked for: it is about
another endpoint, or is the deletion of one that the first one created or updated. -/
def Contests (a b : Attempt Endpoint Deed) : Prop :=
  0 < a.requeues ∧ (a.key ≠ b.key ∨ a.operation = .delete ∧ b.operation ≠ .delete)

instance : Decidable (Contests a b) := inferInstanceAs (Decidable (_ ∧ (_ ∨ _ ∧ _)))

/-- The last callback that asked for a role, against the last first one. -/
inductive Stands (d : Dispatcher ω) (s : WatchLoop.State Endpoint)
    (past : List (WatchLoop.Entry Endpoint Deed)) : Prop where
  | silent (first : standing d (firstAttempts past) = none)
      (last : standing d (attemptsIn past) = none)
      (away : ∀ k e, s.cache.get? k = some e → d.isLocal e = false)
      (queued : ∀ r ∈ s.retries.toList, r.operation = .delete → d.roleOf .delete r.object = none)
  | asked {a b : Attempt Endpoint Deed} (first : standing d (firstAttempts past) = some b)
      (last : standing d (attemptsIn past) = some a) (settled : Settled d s b)
      (agrees : asks d a = asks d b ∨ Contests a b)

theorem stands_initial (start : Nat) : Stands d (.initial start) [] :=
  .silent rfl rfl (fun _ _ found => by cases found) (fun _ member => by cases member)

theorem Stands.frame (before : Stands d s past) (cache : t.cache = s.cache)
    (queue : ∀ r ∈ t.retries.toList, r ∈ s.retries.toList) (silent : attemptsIn es = []) :
    Stands d t (past ++ es) := by
  have firsts : firstAttempts (past ++ es) = firstAttempts past := by
    rw [WatchLoop.firstAttempts_append, WatchLoop.firstAttempts_of_silent silent, List.append_nil]
  have all : attemptsIn (past ++ es) = attemptsIn past := by
    rw [WatchLoop.attemptsIn_append, silent, List.append_nil]
  cases before with
  | silent first last away queued =>
    exact .silent (firsts ▸ first) (all ▸ last) (cache ▸ away)
      (fun r member => queued r (queue r member))
  | asked first last settled agrees =>
    exact .asked (firsts ▸ first) (all ▸ last) (settled.frame (by rw [cache])) agrees

theorem Steady.isLocal_eq {f : Endpoint} (steady : Steady objects) (one : Among objects key e)
    (two : Among objects key f) : d.isLocal e = d.isLocal f := by
  simp only [Dispatcher.isLocal, Endpoint.isFromCluster, (steady.of_among one two).1]

theorem stands_of_replaced {o : Keyed Endpoint} {old : Endpoint} (steady : Steady objects)
    (before : Stands d s past) (supplied : Supplied objects s past)
    (among : Among objects o.key o.object) (known : s.cache.get? o.key = some old)
    (version : Watched.sameVersion old o.object = true) :
    Stands d { s with cache := s.cache.insert o.key o.object } (past ++ [.unchanged o.key]) := by
  obtain ⟨cluster, host⟩ := steady.of_among (supplied.kept _ _ known) among
  have alike : ∀ op, d.roleOf op o.object = d.roleOf op old := fun _ =>
    Dispatcher.roleOf_congr cluster.symm (host version).symm
  refine Stands.frame (s := { s with cache := s.cache.insert o.key o.object }) ?_ rfl
    (fun _ member => member) rfl
  cases before with
  | silent first last away queued =>
    refine .silent first last (fun k e found => ?_) queued
    rcases Table.get?_insert_cases found with ⟨rfl, rfl⟩ | ⟨-, kept⟩
    · exact (steady.isLocal_eq among (supplied.kept _ _ known)).trans (away _ _ known)
    · exact away k e kept
  | asked first last settled agrees =>
    exact .asked first last (settled.insert known alike) agrees

theorem standing_of_called (called : Called (endpointLoop d policy) op key e requeues u w t v es)
    (asked : (d.roleOf op e).isSome) : standing d (attemptsIn (past ++ es)) =
      some ((endpointLoop d policy).made op key e requeues w) := by
  rw [WatchLoop.attemptsIn_append, called.attempts]
  exact standing_concat_of_asked asked

section Told
variable (prepared : Prepared op key e s u)
  (called : Called (endpointLoop d policy) op key e requeues u w t v es)
include prepared called

theorem settled_of_called : Settled d t ((endpointLoop d policy).made op key e requeues w) where
  deleted delete := (called.get?_here prepared).trans (if_pos delete)
  kept keep f found := by
    rcases called.kept_cases prepared found with ⟨-, -, rfl⟩ | ⟨other, -⟩
    · exact Dispatcher.roleOf_update keep
    · exact absurd rfl other

theorem Settled.agrees (settled : Settled d t b) (about : key = b.key) (before : (asks d b).isSome)
    (asked : (d.roleOf op e).isSome) :
    d.roleOf op e = asks d b ∨ op = .delete ∧ b.operation ≠ .delete := by
  have here := about ▸ called.get?_here prepared
  by_cases gone : b.operation = .delete
  · have delete : op = .delete := by
      by_contra keep
      rw [settled.deleted gone, if_neg keep] at here
      contradiction
    subst delete
    exact .inl ((Dispatcher.roleOf_delete asked).trans (asks_delete before gone).symm)
  · by_cases delete : op = .delete
    · exact .inr ⟨delete, gone⟩
    · rw [if_neg delete] at here
      exact .inl ((Dispatcher.roleOf_update delete).symm.trans (settled.kept gone e here))

theorem stands_of_first (first : requeues = 0) (asked : (d.roleOf op e).isSome) :
    Stands d t (past ++ es) := by
  refine .asked ?_ (standing_of_called called asked) (settled_of_called prepared called)
    (.inl rfl)
  rw [WatchLoop.firstAttempts_append, called.firstAttempts, if_pos first]
  exact standing_concat_of_asked asked

/-- A repeated callback asks for what the last first one asked for, or contests it. -/
theorem stands_of_again (before : Stands d s past) (same : u.cache = s.cache)
    (repeats : 0 < requeues)
    (source : op = .delete → ∃ r ∈ s.retries.toList, r.operation = .delete ∧ r.object = e)
    (asked : (d.roleOf op e).isSome) : Stands d t (past ++ es) := by
  have cache : t.cache = s.cache := called.cache.trans same
  cases before with
  | silent _ _ away queued =>
    by_cases delete : op = .delete
    · obtain ⟨r, member, deletes, rfl⟩ := source delete
      rw [delete, queued r member deletes] at asked
      contradiction
    · have kept := (called.get?_here prepared).trans (if_neg delete)
      rw [Dispatcher.roleOf_of_away (away key e (cache ▸ kept))] at asked
      contradiction
  | @asked _ b first _ settled _ =>
    have settled : Settled d t b := settled.frame (by rw [cache])
    refine .asked ?_ (standing_of_called called asked) settled ?_
    · rwa [WatchLoop.firstAttempts_append, called.firstAttempts, if_neg repeats.ne',
        List.append_nil]
    · by_cases about : key = b.key
      · exact (settled.agrees prepared called about (standing_mem first).2 asked).imp_right
          fun against => ⟨repeats, .inr against⟩
      · exact .inr ⟨repeats, .inl about⟩

theorem stands_of_unasked (steady : Steady objects) (before : Stands d s past)
    (supplied : Supplied objects s past) (among : Among objects key e)
    (unasked : d.roleOf op e = none) : Stands d t (past ++ es) := by
  have silent : asks d ((endpointLoop d policy).made op key e requeues w) = none := unasked
  have firsts : standing d (firstAttempts (past ++ es)) = standing d (firstAttempts past) := by
    rw [WatchLoop.firstAttempts_append, called.firstAttempts]
    split
    · exact standing_concat_of_unasked silent
    · rw [List.append_nil]
  have all : standing d (attemptsIn (past ++ es)) = standing d (attemptsIn past) := by
    rw [WatchLoop.attemptsIn_append, called.attempts, standing_concat_of_unasked silent]
  have away : op ≠ .delete → d.isLocal e = false := by
    intro keep
    refine Bool.eq_false_iff.mpr fun side => ?_
    rw [Dispatcher.roleOf_of_keep keep side] at unasked
    contradiction
  cases before with
  | silent first last elsewhere queued =>
    refine .silent (firsts.trans first) (all.trans last) (fun k f found => ?_) ?_
    · rcases called.kept_cases prepared found with ⟨-, keep, rfl⟩ | ⟨-, known⟩
      · exact away keep
      · exact elsewhere k f known
    · intro r member delete
      rcases called.of_mem_retries member with rfl | earlier
      · exact delete ▸ unasked
      · exact queued r (prepared.queue r earlier) delete
  | @asked a b first last settled agrees =>
    refine .asked (firsts.trans first) (all.trans last) ?_ agrees
    by_cases same : b.key = key
    · -- the endpoint is local, as it was when it asked for a role, so this is its deletion
      have delete : op = .delete := by
        by_contra keep
        obtain ⟨member, asked⟩ := standing_mem first
        have told := supplied.told b (List.mem_of_mem_filter member)
        have side := Dispatcher.isLocal_of_roleOf asked
        rw [steady.isLocal_eq (same ▸ told) among, away keep] at side
        contradiction
      exact settled_of_gone (by rw [same, called.get?_here prepared, if_pos delete])
    · exact settled.frame (called.get?_others prepared b.key same)

end Told

theorem stands_of_effect (steady : Steady objects) (repeating : WatchLoop.Repeating s)
    (before : Stands d s past) (supplied : Supplied objects s past)
    (after : Supplied objects t (past ++ es))
    (effect : Effect (endpointLoop d policy) step s w t v es) : Stands d t (past ++ es) := by
  cases effect with
  | quiet cache queue silent => exact before.frame cache queue silent
  | replaced _ known version =>
    exact stands_of_replaced steady before supplied after.kept_of_insert known version
  | @first op key e _ _ _ _ _ prepared called =>
    have among := after.told_of_called called
    cases role : d.roleOf op e with
    | none => exact stands_of_unasked prepared called steady before supplied among role
    | some r => exact stands_of_first prepared called rfl (role ▸ rfl)
  | @again r e _ _ _ _ queued source same prepared called =>
    have among := after.told_of_called called
    cases role : d.roleOf r.operation e with
    | none => exact stands_of_unasked prepared called steady before supplied among role
    | some _ =>
      exact stands_of_again prepared called before same (repeating r queued)
        (fun delete => ⟨r, queued, delete, (source delete).symm⟩) (role ▸ rfl)

end Stands

section Flag

/-- The flag is the role that the last callback asked for that asked for one. -/
def Flagged (d : Dispatcher ω) (w : Dispatcher.State ω)
    (past : List (WatchLoop.Entry Endpoint Deed)) : Prop :=
  w.gateway.onGateway = ((standing d (attemptsIn past)).bind (asks d)).getD false

theorem flagged_of_called (called : Called (endpointLoop d policy) op key e requeues u w t v es)
    (before : Flagged d w past) : Flagged d v (past ++ es) := by
  have written : v.gateway.onGateway = (d.roleOf op e).getD w.gateway.onGateway :=
    called.world ▸ Dispatcher.onGateway_onEndpoint op e requeues w
  rw [Flagged, WatchLoop.attemptsIn_append, called.attempts, written, before]
  let made := (endpointLoop d policy).made op key e requeues w
  cases role : d.roleOf op e with
  | none => rw [standing_concat_of_unasked (show asks d made = none from role)]; rfl
  | some r =>
    have asked : asks d made = some r := role
    rw [standing_concat_of_asked (asked ▸ rfl), Option.bind_some, asked]
    rfl

theorem flagged_of_effect (effect : Effect (endpointLoop d policy) step s w t v es)
    (before : Flagged d w past) : Flagged d v (past ++ es) := by
  cases effect with
  | quiet _ _ silent => rwa [Flagged, WatchLoop.attemptsIn_append, silent, List.append_nil]
  | replaced => rwa [Flagged, WatchLoop.attemptsIn_append, show attemptsIn [_] = [] from rfl,
      List.append_nil]
  | first _ _ called | again _ _ _ _ called => exact flagged_of_called called before

theorem flagged_runSteps {steps : List (Nat × Step Endpoint)} {start : Nat} {world : ω}
    (ok : (runSteps (endpointLoop d policy) steps (.initial start) (.initial world)).crash = none) :
    let run := runSteps (endpointLoop d policy) steps (.initial start) (.initial world)
    Flagged d run.world run.trace :=
  WatchLoop.runSteps_preserve_effects (I := fun _ w past => Flagged d w past)
    (fun effect _ _ before => flagged_of_effect effect before) ok rfl

end Flag

/-- The last callback that asked for a role asked against the last first one, and contests it. -/
def Overruled (d : Dispatcher ω) (past : List (WatchLoop.Entry Endpoint Deed)) : Prop :=
  ∃ a ∈ standing d (attemptsIn past), ∃ b ∈ standing d (firstAttempts past),
    asks d a ≠ asks d b ∧ Contests a b

instance : Decidable (Overruled d past) :=
  inferInstanceAs (Decidable (∃ a ∈ standing d _, ∃ b ∈ standing d _, _ ∧ _))

/-- The flag is that of a run without failures, unless a repeated callback overruled it: one about
another endpoint than the last first callback that asked for a role, or the deletion of an endpoint
that this one had created or updated. -/
theorem flag_as_without_failures_unless_overruled {ω' : Type} (d : Dispatcher ω)
    (d' : Dispatcher ω') (policy policy' : RetryPolicy) (steps steps' : List (Nat × Step Endpoint))
    (start start' : Nat) (world : ω) (world' : ω') (steady : Steady (broughtIn steps))
    (accepting : d'.Accepting) (cluster : d'.clusterId = d.clusterId)
    (host : d'.hostname = d.hostname) (events : eventsIn steps' = eventsIn steps) :
    let run := runSteps (endpointLoop d policy) steps (.initial start) (.initial world)
    let calm := runSteps (endpointLoop d' policy') steps' (.initial start') (.initial world')
    run.crash = none →
    calm.crash = none ∧
      (run.world.gateway.onGateway = calm.world.gateway.onGateway ↔ ¬ Overruled d run.trace) := by
  intro run calm ok
  have content : (endpointLoop d' policy').Content := content_of_accepting accepting
  have fine : calm.crash = none := content.runSteps steps'
  have flag : Flagged d run.world run.trace := flagged_runSteps ok
  have calmFlag : Flagged d' calm.world calm.trace := flagged_runSteps fine
  have firsts : firstAttempts calm.trace = attemptsIn calm.trace :=
    WatchLoop.firstAttempts_of_content content
  have decided : calm.world.gateway.onGateway =
      ((standing d (firstAttempts run.trace)).bind (asks d)).getD false := by
    rw [calmFlag, ← firsts, ← getLast?_roles, ← getLast?_roles]
    exact congrArg (·.getLast?.getD false) (roles_changesIn_eq cluster host events ok fine)
  have stands : WatchLoop.Repeating run.state ∧ Stands d run.state run.trace :=
    WatchLoop.runSteps_preserve_effects
      (I := fun s _ past => WatchLoop.Repeating s ∧ Stands d s past)
      (fun effect supplied after before => ⟨effect.repeating before.1,
        stands_of_effect steady before.1 before.2 supplied after effect⟩)
      ok ⟨WatchLoop.repeating_initial start, stands_initial start⟩
  refine ⟨fine, ?_⟩
  rw [flag, decided]
  cases stands.2 with
  | silent first last => simp [first, last, Overruled]
  | @asked a b first last _ agrees =>
    obtain ⟨r, mine⟩ := Option.isSome_iff_exists.mp (standing_mem last).2
    obtain ⟨q, other⟩ := Option.isSome_iff_exists.mp (standing_mem first).2
    have overruled : Overruled d run.trace ↔ asks d a ≠ asks d b ∧ Contests a b := by
      simp [Overruled, first, last]
    rw [first, last, Option.bind_some, Option.bind_some, overruled]
    constructor
    · rintro same ⟨different, -⟩
      simp [mine, other] at same different
      contradiction
    · intro unopposed
      rcases agrees with same | contests
      · rw [same]
      · by_contra different
        exact unopposed ⟨fun same => different (same ▸ rfl), contests⟩

section Examples

/-- Nothing is queued or given up in the end, but the flag is not that of a run without failures: an
endpoint of another host comes before a creation is repeated, or a deletion is repeated after the
endpoint came back and went again. -/
theorem flag_overruled_by_retry :
    let events := fun (shown : List (WatchEvent (Keyed Endpoint))) =>
      shown.map fun event => ((0, .event .asKept event) : Nat × Step Endpoint)
    let moved := events [.apply (stored "a" "here" "1"), .apply (stored "b" "there" "2")]
    let back := events [.apply (stored "a" "here" "1"), .delete (stored "a" "here" "1"),
      .apply (stored "a" "here" "2"), .delete (stored "a" "there" "3")]
    let run := fun steps refusals => runSteps (endpointLoop alone {})
      (steps ++ [(5, .fire 0), (5, .fire 0)]) (.initial 0) (.initial refusals)
    let settled := fun steps refusals => (run steps refusals).crash = none ∧
      (run steps refusals).state.retries.toList.length = 0 ∧
      ∀ entry ∈ (run steps refusals).trace, entry.gaveUp = false
    let calmly := fun steps => runSteps (endpointLoop calm {}) steps (.initial 0) (.initial ())
    calm.Accepting ∧
    (Steady (broughtIn moved) ∧ settled moved 1 ∧
      (run moved 1).world.gateway.onGateway = true ∧
      (calmly moved).world.gateway.onGateway = false) ∧
    Steady (broughtIn back) ∧ settled back 2 ∧
      (run back 2).world.gateway.onGateway = false ∧
      (calmly back).world.gateway.onGateway = true := by
  intro events moved back run settled calmly
  have accepting : calm.Accepting := accepting_calm
  have quiet : settled moved 1 ∧ settled back 2 :=
    ⟨⟨by decide, by decide, by decide⟩, by decide, by decide, by decide⟩
  refine ⟨accepting, ⟨by decide, quiet.1, by decide, by decide⟩, by decide, quiet.2, ?_⟩
  exact ⟨by decide, by decide⟩

/-- The creation is refused, the endpoint moves to another host, and the creation is repeated for
the endpoint as it is by then: the flag is that of a run without failures. -/
theorem flag_kept_by_retry_after_move :
    let events : List (Nat × Step Endpoint) :=
      [(0, .event .asKept (.apply (stored "a" "here" "1"))),
        (0, .event .asKept (.apply (stored "a" "there" "2")))]
    let run := runSteps (endpointLoop alone {}) (events ++ [(5, .fire 0)]) (.initial 0) (.initial 1)
    let calmly := runSteps (endpointLoop calm {}) events (.initial 0) (.initial ())
    Steady (broughtIn (events ++ [(5, .fire 0)])) ∧ run.crash = none ∧
      ¬ Overruled alone run.trace ∧
      run.world.gateway.onGateway = calmly.world.gateway.onGateway := by
  intro events run calmly
  have steady : Steady (broughtIn (events ++ [(5, .fire 0)])) := by decide
  have ok : run.crash = none := by decide
  have unopposed : ¬ Overruled alone run.trace := by decide
  refine ⟨steady, ok, unopposed, ?_⟩
  exact (flag_as_without_failures_unless_overruled alone calm {} {} _ events 0 0 1 () steady
    accepting_calm rfl rfl rfl ok).2.mpr unopposed

end Examples

end GatewayEvents.Controller
