import GatewayEvents.Controller
import GatewayEvents.Proofs.Dispatcher.Receipts
import GatewayEvents.Proofs.WatchLoop.Accounting
import GatewayEvents.Proofs.WatchLoop.Objects

/-! End-to-end delivery on the endpoint watch: from what the API server reports, through the
kept objects, the queued retries and the dispatcher, to each single handler. The most recent
callback about an object did not fail once nothing is owed any more (`Accounted`); it was
given the object kept, or one of the same version (`Current`); a callback that did not fail
reached every handler (`Course.receipts_of_answered`); and no other callback told a handler
anything about that object since. -/
namespace GatewayEvents.Controller

open WatchLoop (Step Called attemptsIn broughtIn lastAttempt runSteps)
open Dispatcher (Deed Receipt receiptsOf dispatchesIn)

variable {ω : Type} {d : Dispatcher ω} {policy : RetryPolicy} {i : Nat} {key : ObjectKey}
  {past : List (WatchLoop.Entry Endpoint Deed)}

/-- All endpoint events that the handler at this position received, in order. -/
def received (i : Nat) (past : List (WatchLoop.Entry Endpoint Deed)) : List Receipt :=
  (attemptsIn past).flatMap fun a => receiptsOf i (dispatchesIn a.deeds)

def lastReceived (i : Nat) (key : ObjectKey) (past : List (WatchLoop.Entry Endpoint Deed)) :
    Option Receipt :=
  ((received i past).filter fun r => Watched.key? r.endpoint = some key).getLast?

section Callback
variable {op : Operation} {e : Endpoint} {requeues : Nat} {s : Dispatcher.State ω}

/-- A callback tells a handler of its own endpoint only. -/
theorem endpoint_of_received {r : Receipt}
    (member : r ∈ receiptsOf i
      (dispatchesIn ((endpointLoop d policy).made op key e requeues s).deeds)) :
    r.endpoint = e :=
  ((d.course_onEndpoint op e requeues s).receipt member).2

theorem receiptsOf_made
    (answer : ((endpointLoop d policy).made op key e requeues s).requeue = false)
    (present : i < d.registry.handlers.length) :
    receiptsOf i (dispatchesIn ((endpointLoop d policy).made op key e requeues s).deeds) =
      [⟨op, e, none⟩] := by
  have course := d.course_onEndpoint op e requeues s
  have answered : (d.onEndpoint op e requeues s).requeue = false := answer
  simp only [answered] at course
  exact course.receipts_of_answered present

end Callback

/-- What a handler received last about an endpoint is what the most recent callback about it
told, if that callback did not ask to be run again. -/
theorem lastReceived_of_lastAttempt {s : WatchLoop.State Endpoint}
    {a : WatchLoop.Attempt Endpoint Deed}
    (faithful : WatchLoop.Faithful (endpointLoop d policy) s past)
    (last : lastAttempt key past = some a) (answer : a.requeue = false)
    (present : i < d.registry.handlers.length) :
    lastReceived i key past = some ⟨a.operation, a.object, none⟩ := by
  obtain ⟨earlier, later, split, others⟩ := WatchLoop.attemptsIn_of_lastAttempt last
  obtain ⟨member, about⟩ := WatchLoop.lastAttempt_mem last
  have own : Watched.key? a.object = some key := about ▸ faithful.told a member
  have settled : receiptsOf i (dispatchesIn a.deeds) = [⟨a.operation, a.object, none⟩] := by
    obtain ⟨w, made⟩ := faithful.made a member
    rw [made] at answer ⊢
    exact receiptsOf_made answer present
  -- whatever came later went to other endpoints
  have silent : (later.flatMap fun b => receiptsOf i (dispatchesIn b.deeds)).filter
      (fun r => Watched.key? r.endpoint = some key) = [] := by
    refine List.filter_eq_nil_iff.mpr fun r received => ?_
    obtain ⟨b, among, told⟩ := List.mem_flatMap.mp received
    have here : b ∈ attemptsIn past := by simp [split, among]
    obtain ⟨w, made⟩ := faithful.made b here
    rw [made] at told
    rw [endpoint_of_received told, faithful.told b here]
    simpa using others b among
  simp [lastReceived, received, split, settled, own, silent]

section Examples

/-- A handler that refuses calls as often as a count in the world says. -/
def faltering (name : String) : Handler Nat :=
  .uniform name [anyNetworkPlugin] fun _ _ refusals =>
    ⟨if refusals = 0 then none else some "not yet", [], refusals - 1⟩

def alone : Dispatcher Nat where
  clusterId := "east"
  hostname := "here"
  registry := .ofHandlers "alone" "*" [faltering "only"]

def stored (name host version : String) : Keyed Endpoint :=
  ⟨⟨{ name := some name, resourceVersion := some version },
    { clusterId := "east", hostname := host }⟩, ⟨name, none⟩, rfl⟩

end Examples

end GatewayEvents.Controller
