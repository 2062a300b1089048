import GatewayEvents.Proofs.Controller.Counters
import GatewayEvents.Proofs.Registry.Journal

/-! What a registry does with a call. Every handler that runs under the plugin runs the method that
the call is for, once and in the order of registration, whatever the earlier ones answered, and the
answers decide the outcome (`FannedOut`). An event leaves one dispatch counted and one duration
observed (`Observed`); stopping leaves nothing (`fans_out`). -/
namespace GatewayEvents

def Handler.RunsUnder (plugin : String) (h : Handler ω) : Prop :=
  anyNetworkPlugin ∈ h.plugins ∨ plugin ∈ h.plugins

instance (plugin : String) : DecidablePred (Handler.RunsUnder (ω := ω) plugin) :=
  fun _ => inferInstanceAs (Decidable (_ ∨ _))

/-- What one dispatch of the event changes in the metrics. -/
structure Observed (event : String) (outcome : Except RegistryFailure Unit)
    (before after : Metrics) : Prop where
  dispatched : ∀ e result, Metrics.count after.dispatched (e, result) =
    Metrics.count before.dispatched (e, result) +
      if event = e ∧ (if outcome.isOk then "success" else "error") = result then 1 else 0
  timed : ∀ e, after.observations e = before.observations e + if event = e then 1 else 0
  requeued : after.requeued = before.requeued
  dropped : after.dropped = before.dropped

namespace Registry

/-- A round of calls to the candidates that run under the plugin, as they put it down, and its
report. -/
structure FannedOut (name plugin : String) (candidates : List (Handler ω)) (call : Call)
    (g : GatewayState) (visits : List Visit) (told : Dispatch) : Prop where
  calls : visits.map (fun v => (v.position, v.handler, v.method, v.seen)) =
    (candidates.zipIdx.filter fun entry => entry.1.RunsUnder plugin).map
      fun entry => (entry.2, entry.1.name, call.method, some g)
  outcome : told.outcome =
    if ∀ v ∈ visits, v.failure = none then .ok ()
    else .error ⟨name, call.name, visits.filterMap Visit.fault?⟩

section Selection
variable {name plugin : String} {candidates : List (Handler ω)}

theorem supports_eq_decide (plugin : String) (h : Handler ω) :
    h.supports plugin = decide (h.RunsUnder plugin) := by
  rw [Handler.supports, Bool.eq_iff_iff, List.any_eq_true, decide_eq_true_iff, Handler.RunsUnder]
  constructor
  · rintro ⟨p, listed, named⟩
    rcases (by simpa using named : p = anyNetworkPlugin ∨ p = plugin) with rfl | rfl
    · exact .inl listed
    · exact .inr listed
  · rintro (listed | listed)
    · exact ⟨_, listed, by simp⟩
    · exact ⟨_, listed, by simp⟩

theorem handlers_ofHandlers : (ofHandlers name plugin candidates).handlers =
    candidates.filter fun h => h.RunsUnder plugin := by
  rw [ofHandlers]
  exact List.filter_congr fun h _ => supports_eq_decide plugin h

/-- The handlers kept, with their positions among the candidates. -/
def keptOf (plugin : String) (candidates : List (Handler ω)) : List (Handler ω × Nat) :=
  candidates.zipIdx.filter fun entry => entry.1.RunsUnder plugin

theorem handlers_eq_keptOf (name plugin : String) (candidates : List (Handler ω)) :
    (ofHandlers name plugin candidates).handlers = (keptOf plugin candidates).map Prod.fst := by
  rw [handlers_ofHandlers, keptOf]
  conv => lhs; rw [← List.zipIdx_map_fst 0 candidates]
  rw [List.filter_map]
  rfl

theorem handlers_journaling (name plugin : String) (candidates : List (Handler ω)) :
    (ofHandlers name plugin (candidates.mapIdx Handler.journaling)).handlers =
      (keptOf plugin candidates).map fun entry => entry.1.journaling entry.2 := by
  rw [handlers_ofHandlers, List.mapIdx_eq_zipIdx_map, List.filter_map]
  rfl

end Selection

theorem exists_fannedOut (name plugin : String) (candidates : List (Handler ω)) (call : Call)
    (g : GatewayState) (world : ω) :
    let plain := (ofHandlers name plugin candidates).round call g world
    ∃ visits,
      (ofHandlers name plugin (candidates.mapIdx Handler.journaling)).round call g ⟨world, []⟩ =
        (plain.1, ⟨plain.2, visits⟩) ∧
      FannedOut name plugin candidates call g visits plain.1 := by
  intro plain
  obtain ⟨visits, same, recorded⟩ :=
    exists_recorded (keptOf plugin candidates) call g ⟨world, []⟩
  rw [← handlers_journaling name, ← handlers_eq_keptOf name] at same
  rw [← handlers_eq_keptOf name] at recorded
  refine ⟨visits, ?_, recorded.calls, recorded.outcome⟩
  rw [round, same]
  rfl

section Observation
variable {told : Dispatch} {event : Event}

theorem isOk_outcome (told : Dispatch) : told.outcome.isOk = told.succeeded := by
  unfold Dispatch.outcome Dispatch.succeeded
  cases told.failures.isEmpty <;> rfl

theorem observed_dispatch (about : told.call = .event event) (m : Metrics) (seconds : Float) :
    Observed event.name told.outcome m ((told.samples seconds).foldl Metrics.record m) := by
  have single : told.samples seconds =
      [.dispatch event.name seconds (if told.outcome.isOk then "success" else "error")] := by
    rw [isOk_outcome, Dispatch.samples, about]
  rw [single]
  refine ⟨fun e result => ?_, fun e => ?_, rfl, rfl⟩
  · rw [List.foldl_cons, List.foldl_nil, count_record]
    simp only [Sample.reports, decide_eq_true_eq]
  · rw [List.foldl_cons, List.foldl_nil, observations_record]
    simp only [Sample.times, decide_eq_true_eq]

theorem samples_stop (about : told.call = .stop) (seconds : Float) : told.samples seconds = [] := by
  rw [Dispatch.samples, about]

end Observation

/-- A registry keeps the candidates that run under its plugin. For an event, as for stopping, each
of them runs the method for it once, in order; what fails are exactly the failures that they gave,
and only the event is counted and timed. -/
theorem fans_out (name plugin : String) (candidates : List (Handler ω)) (event : Event)
    (g : GatewayState) (world : ω) (m : Metrics) (seconds : Float) :
    let registry := ofHandlers name plugin candidates
    let recording := ofHandlers name plugin (candidates.mapIdx Handler.journaling)
    registry.handlers = candidates.filter (fun h => h.RunsUnder plugin) ∧
    (let told := registry.dispatch event g world
      ∃ visits, recording.dispatch event g ⟨world, []⟩ = (told.1, ⟨told.2, visits⟩) ∧
        FannedOut name plugin candidates (.event event) g visits told.1 ∧
        Observed event.name told.1.outcome m ((told.1.samples seconds).foldl Metrics.record m)) ∧
    (let stopped := registry.stopHandlers g world
      ∃ visits, recording.stopHandlers g ⟨world, []⟩ = (stopped.1, ⟨stopped.2, visits⟩) ∧
        FannedOut name plugin candidates .stop g visits stopped.1 ∧
        (stopped.1.samples seconds).foldl Metrics.record m = m) := by
  intro registry recording
  refine ⟨handlers_ofHandlers, ?_, ?_⟩
  · obtain ⟨visits, same, fanned⟩ :=
      exists_fannedOut name plugin candidates (.event event) g world
    exact ⟨visits, same, fanned, observed_dispatch rfl m seconds⟩
  · obtain ⟨visits, same, fanned⟩ := exists_fannedOut name plugin candidates .stop g world
    refine ⟨visits, same, fanned, ?_⟩
    rw [stopHandlers, samples_stop rfl]
    rfl

section Examples

def refusing (name : String) (plugins : List String) (reason : String) : Handler Unit :=
  .uniform name plugins fun _ _ world => ⟨some reason, [], world⟩

/-- Of four handlers, three of one name, three are kept. Each is called and reported for itself, and
the one that implements nothing is called as well. -/
theorem namesakes_fanned_out :
    let candidates := [refusing "routes" ["*"] "no link", refusing "routes" ["ovn"] "no table",
      .idle "rules" ["calico"], refusing "routes" ["calico"] "no route"]
    let told := ((ofHandlers "host" "calico" candidates).dispatch (.transition true) .initial ()).1
    told.failures = [⟨"routes", "no link"⟩, ⟨"routes", "no route"⟩] ∧
      Observed "TransitionToGateway" (.error ⟨"host", "TransitionToGateway", told.failures⟩) .empty
        ((told.samples 0).foldl Metrics.record .empty) ∧
      ∃ visits, FannedOut "host" "calico" candidates (.event (.transition true)) .initial visits
          told ∧
        visits.map (fun v => (v.position, v.method)) = [(0, .transitionToGateway),
          (2, .transitionToGateway), (3, .transitionToGateway)] := by
  intro candidates told
  obtain ⟨-, ⟨visits, noted, fanned, observed⟩, -⟩ :=
    fans_out "host" "calico" candidates (.transition true) .initial () .empty 0
  have failures : told.failures = [⟨"routes", "no link"⟩, ⟨"routes", "no route"⟩] := by decide
  have failed : told.outcome = .error ⟨"host", "TransitionToGateway", told.failures⟩ := by
    rw [Dispatch.outcome, failures]
    rfl
  refine ⟨failures, failed ▸ observed, visits, fanned, ?_⟩
  rw [show visits = _ from (congrArg (fun later => later.2.visits) noted).symm]
  rfl

end Examples

end Registry
end GatewayEvents
