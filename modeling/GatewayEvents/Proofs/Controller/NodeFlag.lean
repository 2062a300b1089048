import GatewayEvents.Proofs.Controller.Delivery
import GatewayEvents.Proofs.Dispatcher.Alternation

/-! The gateway flag over a node watch. Callbacks about the local node write the flag, those about
other nodes do not touch it, and none tells a transition. Updates are told only if they change
the labels, and a repeated callback is given the node as it is kept by then; so the flag is the
gateway label of the local node as it is kept, at any time, and not set while it is not kept
(`Labelled`). -/
namespace GatewayEvents.Controller

open WatchLoop (Step Called Effect Prepared Supplied Among attemptsIn broughtIn runSteps)
open Dispatcher (Deed dispatchesIn)

variable {ω : Type} {d : Dispatcher ω} {policy : RetryPolicy} {objects : List (Keyed Node)}
  {op : Operation} {key host : ObjectKey} {n : Node} {requeues : Nat}
  {s t u : WatchLoop.State Node} {w v : Dispatcher.State ω}
  {es past : List (WatchLoop.Entry Node Deed)} {step : Step Node}

/-- Of these nodes the one with this key is the local one, in all its versions. -/
def IsHost (d : Dispatcher ω) (host : ObjectKey) (objects : List (Keyed Node)) : Prop :=
  ∀ o ∈ objects, d.isLocalNode o.object d.hostname = true ↔ o.key = host

instance : Decidable (IsHost d host objects) :=
  inferInstanceAs (Decidable (∀ o ∈ objects, _ ↔ _))

theorem IsHost.isLocalNode (single : IsHost d host objects) (among : Among objects key n) :
    d.isLocalNode n d.hostname = decide (key = host) := by
  obtain ⟨o, member, rfl, rfl⟩ := among
  rw [Bool.eq_iff_iff, decide_eq_true_iff]
  exact single o member

/-- The flag is set exactly if the local node is kept and labelled as a gateway. -/
def Labelled (host : ObjectKey) (s : WatchLoop.State Node) (w : Dispatcher.State ω) : Prop :=
  w.gateway.onGateway = true ↔ ∃ n, s.cache.get? host = some n ∧ n.isGateway = true

theorem labelled_initial (host : ObjectKey) (start : Nat) (world : ω) :
    Labelled host (.initial start) (.initial world) := by
  constructor
  · intro set
    cases set
  · rintro ⟨n, found, -⟩
    cases found

theorem isGateway_of_sameLabels {old : Node} (same : Watched.sameLabels old n = true) :
    old.isGateway = n.isGateway :=
  congrArg StringMap.marksGateway (of_decide_eq_true same)

theorem labelled_of_replaced {o : Keyed Node} {old : Node} (known : s.cache.get? o.key = some old)
    (same : Watched.sameLabels old o.object = true) (before : Labelled host s w) :
    Labelled host { s with cache := s.cache.insert o.key o.object } w := by
  refine before.trans ?_
  simp only [Table.get?_insert]
  by_cases here : host = o.key
  · subst here
    simp [known, isGateway_of_sameLabels same]
  · simp [here]

/-- A callback about the local node brings the flag to what is kept then, whether it is made for
the first time or again; no other one changes either. -/
theorem labelled_of_called {equivalent : Node → Node → Bool} (single : IsHost d host objects)
    (among : Among objects key n) (prepared : Prepared op key n s u)
    (called : Called (nodeLoop d equivalent policy) op key n requeues u w t v es)
    (before : Labelled host s w) : Labelled host t v := by
  have written : v.gateway.onGateway =
      if d.isLocalNode n d.hostname then decide (op ≠ .delete) && n.isGateway
      else w.gateway.onGateway := by
    rw [called.world, ← d.onGateway_onNode op n requeues w]
    rfl
  rw [Labelled, written, single.isLocalNode among]
  by_cases here : key = host
  · subst here
    rw [called.get?_here prepared]
    by_cases delete : op = .delete <;> simp [delete]
  · rw [called.get?_others prepared host (Ne.symm here)]
    simpa [here, Labelled] using before

theorem labelled_of_effect (single : IsHost d host objects)
    (effect : Effect (nodeLoop d Watched.sameLabels policy) step s w t v es)
    (after : Supplied objects t (past ++ es)) (before : Labelled host s w) :
    Labelled host t v := by
  cases effect with
  | quiet cache => rwa [Labelled, cache]
  | replaced _ known same => exact labelled_of_replaced known same before
  | first _ prepared called | again _ _ _ prepared called =>
    exact labelled_of_called single (after.told_of_called called) prepared called before

theorem not_transition_of_made {equivalent : Node → Node → Bool} {told : Dispatch}
    (member : told ∈ dispatchesIn
      ((nodeLoop d equivalent policy).made op key n requeues w).deeds) (toGateway : Bool) :
    told.call ≠ .event (.transition toGateway) := by
  have course := d.course_respond (.node op n requeues) w
  intro call
  obtain ⟨r, asked, -⟩ := course.transition_iff.mp ⟨told, member, toGateway, call⟩
  cases asked

/-- If one node and no other is local in every version, then the flag is set exactly if this node is
kept with a gateway label, whatever handlers refuse and whichever retries fire. -/
theorem onGateway_iff_host_labelled (d : Dispatcher ω) (policy : RetryPolicy)
    (steps : List (Nat × Step Node)) (start : Nat) (world : ω) (host : ObjectKey)
    (single : IsHost d host (broughtIn steps)) :
    let run := runSteps (nodeLoop d Watched.sameLabels policy) steps (.initial start)
      (.initial world)
    (run.world.gateway.onGateway = true ↔
      ∃ n, run.state.cache.get? host = some n ∧ n.isGateway = true) ∧
    ∀ a ∈ attemptsIn run.trace, ∀ told ∈ dispatchesIn a.deeds, ∀ toGateway,
      told.call ≠ .event (.transition toGateway) := by
  intro run
  obtain ⟨t, meant, -, labelled, made⟩ :=
    WatchLoop.runSteps_preserve_supplied (c := nodeLoop d Watched.sameLabels policy)
      (I := fun s w past => Labelled host s w ∧ ∀ a ∈ attemptsIn past, ∃ w,
        a = (nodeLoop d Watched.sameLabels policy).made a.operation a.key a.object a.requeues w)
      (fun move _ after before => ⟨labelled_of_effect single move.effect after before.1,
        move.effect.made before.2⟩)
      ⟨labelled_initial host start world, fun _ member => by cases member⟩
  refine ⟨?_, fun a member told among => ?_⟩
  · rw [Labelled, meant.cache] at labelled
    exact labelled
  · obtain ⟨w, same⟩ := made a member
    rw [same] at among
    exact not_transition_of_made among

section Examples

def marked (name value : String) : Keyed Node :=
  ⟨⟨{ name := some name, labels := some (.ofList [(gatewayLabel, value)]) }⟩, ⟨name, none⟩, rfl⟩

/-- The creation of the local node as a gateway is refused, and then the node loses its label: the
repeated creation is given the node as it is by then, and does not set the flag again. -/
theorem flag_cleared_for_repeated_creation :
    let steps : List (Nat × Step Node) :=
      [(0, .event .asKept (.apply (marked "here" "true"))),
        (0, .event .asKept (.apply (marked "there" "true"))),
        (1, .event .asKept (.apply (marked "here" "false"))), (5, .fire 0)]
    let run := runSteps (nodeLoop alone Watched.sameLabels {}) steps (.initial 0) (.initial 1)
    IsHost alone ⟨"here", none⟩ (broughtIn steps) ∧
      (attemptsIn run.trace).map (fun a => (a.operation, a.key.name, a.requeues)) =
        [(.create, "here", 0), (.create, "there", 0), (.update, "here", 0), (.create, "here", 1)] ∧
      run.world.gateway.onGateway = false := by
  intro steps run
  have single : IsHost alone ⟨"here", none⟩ (broughtIn steps) := by decide
  obtain ⟨flag, -⟩ := onGateway_iff_host_labelled alone {} steps 0 1 ⟨"here", none⟩ single
  refine ⟨single, by decide, Bool.eq_false_iff.mpr fun set => ?_⟩
  obtain ⟨n, found, gateway⟩ := flag.mp set
  have kept : run.state.cache.get? ⟨"here", none⟩ = some (marked "here" "false").object := by rfl
  obtain rfl := Option.some.inj (kept.symm.trans found)
  exact absurd gateway (by decide)

end Examples

end GatewayEvents.Controller
