import GatewayEvents.Proofs.Controller.Counters
import GatewayEvents.Proofs.Controller.Delivery
import Mathlib.Logic.Function.Basic

/-! The counters of a controller balance. The endpoint watch and the node watch take turns on one
dispatcher (`Duet`); each of them keeps its books (`Side.Sound`) whatever the other one does, and
what is observed is what both of them did, in some order (`Duet.Sound`). -/
namespace GatewayEvents

open WatchLoop (Step Run attemptsIn)
open Dispatcher (Deed dispatchesIn)

/-- One of the two loops, with all that it did and how many of its retries fired. -/
structure Side (K : Type) where
  state : WatchLoop.State K
  trace : List (WatchLoop.Entry K Deed)
  crash : Option WatchLoop.Crash
  fired : Nat

/-- The endpoint loop and the node loop on one dispatcher, with what was observed, the durations
left open. -/
structure Duet (ω : Type) where
  side : (kind : WatchedKind) → Side kind.Object
  shared : Dispatcher.State ω
  samples : List Sample

/-- A step of one of the loops, at its time. -/
structure Stroke where
  kind : WatchedKind
  now : Nat
  step : Step kind.Object

structure Wiring (ω : Type) where
  dispatcher : Dispatcher ω
  nodeEquivalent : Node → Node → Bool
  policy : WatchedKind → RetryPolicy

variable {ω : Type} {x : Wiring ω} {duet : Duet ω}

def Wiring.loop (x : Wiring ω) :
    (kind : WatchedKind) → WatchLoop.Config kind.Object (Dispatcher.State ω) Deed
  | .endpoint => Controller.endpointLoop x.dispatcher (x.policy .endpoint)
  | .node => Controller.nodeLoop x.dispatcher x.nodeEquivalent (x.policy .node)

def Side.after {K : Type} [Watched K] (own : Side K) (step : Step K)
    (r : Run K (Dispatcher.State ω) Deed) : Side K where
  state := r.state
  trace := own.trace ++ r.trace
  crash := r.crash
  fired := own.fired + WatchLoop.fired own.state step

namespace Duet

def initial (start : WatchedKind → Nat) (shared : Dispatcher.State ω) : Duet ω :=
  ⟨fun kind => ⟨.initial (start kind), [], none, 0⟩, shared, []⟩

/-- One of the loops makes a step, unless it crashed before; the other one rests. -/
def play (x : Wiring ω) (duet : Duet ω) (stroke : Stroke) : Duet ω :=
  let own := duet.side stroke.kind
  match own.crash with
  | some _ => duet
  | none =>
    let r := WatchLoop.step (x.loop stroke.kind) stroke.now own.state duet.shared stroke.step
    { side := Function.update duet.side stroke.kind (own.after stroke.step r)
      shared := r.world
      samples := duet.samples ++ samplesIn (x.loop stroke.kind).name r.trace }

def run (x : Wiring ω) (strokes : List Stroke) (duet : Duet ω) : Duet ω :=
  strokes.foldl (play x) duet

end Duet

theorem Duet.play_of_crashed {stroke : Stroke} {crash : WatchLoop.Crash}
    (crashed : (duet.side stroke.kind).crash = some crash) : duet.play x stroke = duet := by
  simp only [Duet.play, crashed]

theorem Duet.play_of_running {stroke : Stroke} (running : (duet.side stroke.kind).crash = none) :
    duet.play x stroke =
      let own := duet.side stroke.kind
      let r := WatchLoop.step (x.loop stroke.kind) stroke.now own.state duet.shared stroke.step
      { side := Function.update duet.side stroke.kind (own.after stroke.step r)
        shared := r.world
        samples := duet.samples ++ samplesIn (x.loop stroke.kind).name r.trace } := by
  simp only [Duet.play, running]

theorem Wiring.answers (x : Wiring ω) (kind : WatchedKind) (op : Operation) (object : kind.Object)
    (requeues : Nat) (w : Dispatcher.State ω) :
    Answers (dispatchesIn ((x.loop kind).callback op object requeues w).deeds)
      ((x.loop kind).callback op object requeues w).requeue := by
  cases kind with
  | endpoint => exact (Dispatcher.course_onEndpoint op object requeues w).answers
  | node => exact (Dispatcher.course_onNode op object requeues w).answers

theorem Wiring.name_ne (x : Wiring ω) : (x.loop .endpoint).name ≠ (x.loop .node).name := by
  intro same
  let name := x.dispatcher.registry.name
  have length : ("Endpoint watcher for " ++ name ++ " registry").length =
      ("Node watcher for " ++ name ++ " registry").length := congrArg String.length same
  have longer : "Endpoint watcher for ".length = 21 := by decide
  have shorter : "Node watcher for ".length = 17 := by decide
  simp only [String.length_append, longer, shorter] at length
  omega

/-- The books of a loop agree with its queue; a crash leaves it one retry short. -/
structure Side.Sound {K : Type} (c : WatchLoop.Config K (Dispatcher.State ω) Deed) (own : Side K) :
    Prop where
  within : own.crash = none →
    WatchLoop.Within c.policy.maxRequeues.toNat own.state own.trace
  reckoned : WatchLoop.Reckoned c.policy.maxRequeues.toNat own.trace
  made : ∀ a ∈ attemptsIn own.trace, ∃ w, a = c.made a.operation a.key a.object a.requeues w
  queued : own.trace.countP WatchLoop.Entry.putOff =
    own.fired + own.state.retries.toList.length + if own.crash = none then 0 else 1

theorem Side.Sound.after {K : Type} [Watched K]
    {c : WatchLoop.Config K (Dispatcher.State ω) Deed} {own : Side K} (sound : own.Sound c)
    (running : own.crash = none) (now : Nat) (w : Dispatcher.State ω) (step : Step K) :
    (own.after step (WatchLoop.step c now own.state w step)).Sound c := by
  have before := sound.queued
  rw [if_pos running] at before
  obtain ⟨t, meant, kept, count⟩ := WatchLoop.queued_step c now step w
    ⟨sound.within running, sound.reckoned, sound.made⟩
  unfold Side.after
  generalize WatchLoop.step c now own.state w step = r at meant kept count ⊢
  refine ⟨fun fine => ?_, kept.reckoned, kept.made, ?_⟩
  · exact meant.eq_state fine ▸ kept.within
  · dsimp only
    rw [List.countP_append, before]
    cases meant with
    | whole ok =>
      rw [if_pos ok]
      omega
    | short refused queued =>
      have length := queued.length_eq
      rw [List.length_cons] at length
      rw [if_neg (by simp [refused])]
      dsimp only at count
      omega

/-- Both loops are sound, and what was observed is what both did. -/
structure Duet.Sound (x : Wiring ω) (duet : Duet ω) : Prop where
  side : ∀ kind, (duet.side kind).Sound (x.loop kind)
  samples : duet.samples.Perm (samplesIn (x.loop .endpoint).name (duet.side .endpoint).trace ++
    samplesIn (x.loop .node).name (duet.side .node).trace)

theorem Side.sound_initial {K : Type} (c : WatchLoop.Config K (Dispatcher.State ω) Deed)
    (start : Nat) : (⟨.initial start, [], none, 0⟩ : Side K).Sound c where
  within _ := WatchLoop.within_initial ..
  reckoned := ⟨rfl, rfl⟩
  made _ member := by cases member
  queued := rfl

theorem Duet.sound_initial (x : Wiring ω) (start : WatchedKind → Nat)
    (shared : Dispatcher.State ω) : (Duet.initial start shared).Sound x where
  side _ := Side.sound_initial ..
  samples := .refl _

theorem Duet.Sound.play (sound : duet.Sound x) (stroke : Stroke) :
    (duet.play x stroke).Sound x := by
  cases running : (duet.side stroke.kind).crash with
  | some crash => exact (Duet.play_of_crashed running).symm ▸ sound
  | none =>
    rw [Duet.play_of_running running]
    have after := (sound.side stroke.kind).after running stroke.now duet.shared stroke.step
    obtain ⟨kind, now, step⟩ := stroke
    refine ⟨fun other => ?_, ?_⟩
    · dsimp only
      by_cases same : other = kind
      · subst same
        rw [Function.update_self]
        exact after
      · rw [Function.update_of_ne same]
        exact sound.side other
    · dsimp only
      cases kind with
      | endpoint =>
        rw [Function.update_self, Function.update_of_ne (by decide)]
        refine (sound.samples.append_right _).trans ?_
        simp only [Side.after, samplesIn_append, List.append_assoc]
        exact List.perm_append_comm.append_left _
      | node =>
        rw [Function.update_self, Function.update_of_ne (by decide)]
        simp only [Side.after, samplesIn_append, ← List.append_assoc]
        exact sound.samples.append_right _

theorem Duet.sound_run (sound : duet.Sound x) (strokes : List Stroke) :
    (duet.run x strokes).Sound x := by
  induction strokes generalizing duet with
  | nil => exact sound
  | cons stroke rest ih => exact ih (sound.play stroke)

theorem Duet.Sound.answers (sound : duet.Sound x) (kind : WatchedKind) :
    ∀ a ∈ attemptsIn (duet.side kind).trace, Answers (dispatchesIn a.deeds) a.requeue := by
  intro a member
  obtain ⟨w, made⟩ := (sound.side kind).made a member
  rw [made]
  exact x.answers kind a.operation a.object a.requeues w

/-- What was observed of a sort of samples is what the two loops left of it, whatever time their
dispatches took. -/
theorem Duet.Sound.countP_observed (sound : duet.Sound x) {observed : List Sample}
    (same : observed.map (·.lasting 0) = duet.samples) {sort : Sample → Bool}
    (blind : ∀ s : Sample, sort (s.lasting 0) = sort s) :
    observed.countP sort =
      (samplesIn (x.loop .endpoint).name (duet.side .endpoint).trace).countP sort +
        (samplesIn (x.loop .node).name (duet.side .node).trace).countP sort :=
  calc observed.countP sort = observed.countP (sort ∘ (·.lasting 0)) :=
        List.countP_congr fun s _ => by rw [Function.comp_apply, blind]
    _ = duet.samples.countP sort := by rw [← List.countP_map, same]
    _ = _ := by rw [sound.samples.countP_eq, List.countP_append]

section Observed
open Metrics

variable {observed : List Sample}

theorem Duet.Sound.countP_ofWatch (sound : duet.Sound x)
    (same : observed.map (·.lasting 0) = duet.samples) (kind : WatchedKind)
    {sort : String → Sample → Bool} {mark : {K : Type} → WatchLoop.Entry K Deed → Bool}
    (blind : ∀ watch (s : Sample), sort watch (s.lasting 0) = sort watch s)
    (each : ∀ {K : Type} (past : List (WatchLoop.Entry K Deed)) (name watch : String),
      (samplesIn name past).countP (sort watch) = if name = watch then past.countP mark else 0) :
    observed.countP (sort (x.loop kind).name) = (duet.side kind).trace.countP mark := by
  rw [sound.countP_observed same (blind _), each, each]
  cases kind with
  | endpoint => rw [if_pos rfl, if_neg x.name_ne.symm, Nat.add_zero]
  | node => rw [if_neg x.name_ne, if_pos rfl, Nat.zero_add]

theorem Duet.Sound.count_requeued (sound : duet.Sound x)
    (same : observed.map (·.lasting 0) = duet.samples) (kind : WatchedKind) :
    count (ofSamples observed).requeued (x.loop kind).name =
      (duet.side kind).trace.countP WatchLoop.Entry.putOff := by
  rw [GatewayEvents.count_requeued]
  exact sound.countP_ofWatch same kind (fun _ s => by cases s <;> rfl) fun _ _ _ => countP_requeues

theorem Duet.Sound.count_dropped (sound : duet.Sound x)
    (same : observed.map (·.lasting 0) = duet.samples) (kind : WatchedKind) :
    count (ofSamples observed).dropped (x.loop kind).name =
      (duet.side kind).trace.countP WatchLoop.Entry.gaveUp := by
  rw [GatewayEvents.count_dropped]
  exact sound.countP_ofWatch same kind (fun _ s => by cases s <;> rfl) fun _ _ _ => countP_drops

end Observed

/-- However the two loops take turns, the failed dispatches are as many as the callbacks requeued or
dropped; the requeued ones are as many as the retries fired or queued, and given up are those that
failed with all requeues used. -/
theorem failures_balance (x : Wiring ω) (strokes : List Stroke) (start : WatchedKind → Nat)
    (shared : Dispatcher.State ω) (observed : List Sample) :
    let duet := (Duet.initial start shared).run x strokes
    let m := Metrics.ofSamples observed
    let requeued := fun kind => Metrics.count m.requeued (x.loop kind).name
    let dropped := fun kind => Metrics.count m.dropped (x.loop kind).name
    observed.map (·.lasting 0) = duet.samples →
    (∀ kind, ∀ a ∈ attemptsIn (duet.side kind).trace, ∃ earlier last,
      dispatchesIn a.deeds = earlier ++ [last] ∧ earlier.length ≤ 1 ∧
      (∀ told ∈ earlier, told.succeeded = true) ∧
      (a.requeue = true ↔ last.succeeded = false)) ∧
    Metrics.total m.dispatched (fun key => key.2 = "error") =
      requeued .endpoint + dropped .endpoint + (requeued .node + dropped .node) ∧
    (∀ kind,
      let own := duet.side kind
      let spent := (attemptsIn own.trace).filter (·.spent (x.policy kind).maxRequeues.toNat)
      (attemptsIn own.trace).countP (·.requeue) = requeued kind + dropped kind ∧
      (own.crash = none → requeued kind = own.fired + own.state.retries.toList.length) ∧
      (own.crash ≠ none → requeued kind = own.fired + own.state.retries.toList.length + 1) ∧
      own.trace.filterMap WatchLoop.Entry.drop? =
        spent.map (fun a => (a.operation, a.key, a.requeues)) ∧
      dropped kind = spent.length) ∧
    ∀ event, Metrics.count m.dispatched (event, "success") +
      Metrics.count m.dispatched (event, "error") = m.observations event := by
  intro duet m requeued dropped same
  have sound : duet.Sound x := Duet.sound_run (Duet.sound_initial x start shared) strokes
  have policy : ∀ kind, (x.loop kind).policy = x.policy kind := by
    intro kind
    cases kind <;> rfl
  have asked : ∀ kind, (attemptsIn (duet.side kind).trace).countP (·.requeue) =
      requeued kind + dropped kind := by
    intro kind
    have reckoned := (sound.side kind).reckoned.asked
    rwa [← sound.count_requeued same kind, ← sound.count_dropped same kind] at reckoned
  refine ⟨fun kind a member => ?_, ?_, fun kind => ⟨asked kind, ?_, ?_, ?_, ?_⟩, fun event => ?_⟩
  · obtain ⟨earlier, last, split, few, accepted, answer⟩ := (sound.answers kind a member).last
    exact ⟨earlier, last, split, few, accepted, by simp [answer]⟩
  · rw [total_failed, sound.countP_observed same fun s => by cases s <;> rfl,
      countP_fails (sound.answers .endpoint), countP_fails (sound.answers .node), asked, asked]
  · intro running
    have queued := (sound.side kind).queued
    rwa [if_pos running, ← sound.count_requeued same kind] at queued
  · intro crashed
    have queued := (sound.side kind).queued
    rwa [if_neg crashed, ← sound.count_requeued same kind] at queued
  · rw [← policy kind]
    exact (sound.side kind).reckoned.dropped
  · have gaveUp := (sound.side kind).reckoned.gaveUp
    rwa [← sound.count_dropped same kind, policy kind] at gaveUp
  · have reports : ∀ result, observed.countP (·.reports event result) = _ := fun result =>
      sound.countP_observed same fun s => by cases s <;> rfl
    have times : observed.countP (·.times event) = _ :=
      sound.countP_observed same fun s => by cases s <;> rfl
    rw [count_dispatched, count_dispatched, observations_ofSamples, reports, reports, times,
      ← countP_times, ← countP_times]
    omega

section Examples

def alone : Wiring Nat where
  dispatcher := Controller.alone
  nodeEquivalent := Watched.sameLabels
  policy _ := { maxRequeues := 1 }

/-- The handler refuses three calls: the transition before the creation of an endpoint, the
creation of a node, and the transition once more when the creation of the endpoint is run again
and thereby given up. -/
theorem refused_creations_balance :
    let strokes : List Stroke := [
      ⟨.endpoint, 0, .event .asKept (.apply (Controller.stored "a" "here" "1"))⟩,
      ⟨.node, 0, .event .asKept (.apply (WatchLoop.bareNode "n"))⟩,
      ⟨.endpoint, 5, .fire 0⟩]
    let duet := (Duet.initial (fun _ => 0) (.initial 3)).run alone strokes
    let observed : List Sample := [.dispatch "TransitionToGateway" 0.25 "error",
      .requeue "Endpoint watcher for alone registry", .dispatch "NodeCreated" 0.5 "error",
      .requeue "Node watcher for alone registry", .dispatch "TransitionToGateway" 0.125 "error",
      .drop "Endpoint watcher for alone registry"]
    let m := Metrics.ofSamples observed
    let requeued := fun kind => Metrics.count m.requeued (alone.loop kind).name
    let dropped := fun kind => Metrics.count m.dropped (alone.loop kind).name
    observed.map (·.lasting 0) = duet.samples ∧ (duet.side .node).crash = none ∧
      Metrics.total m.dispatched (fun key => key.2 = "error") =
        requeued .endpoint + dropped .endpoint + (requeued .node + dropped .node) ∧
      requeued .node = (duet.side .node).fired + (duet.side .node).state.retries.toList.length ∧
      requeued .endpoint = 1 ∧ dropped .endpoint = 1 ∧ requeued .node = 1 ∧ dropped .node = 0 ∧
      Metrics.count m.dispatched ("TransitionToGateway", "success") +
        Metrics.count m.dispatched ("TransitionToGateway", "error") =
          m.observations "TransitionToGateway" := by
  intro strokes duet observed m requeued dropped
  have same : observed.map (·.lasting 0) = duet.samples := by rfl
  have running : (duet.side .node).crash = none := by decide
  obtain ⟨-, failures, sides, events⟩ :=
    failures_balance alone strokes (fun _ => 0) (.initial 3) observed same
  exact ⟨same, running, failures, (sides .node).2.1 running, by decide, by decide, by decide,
    by decide, events "TransitionToGateway"⟩

end Examples

end GatewayEvents
