import GatewayEvents.Controller
import GatewayEvents.Metrics

/-! What is observed of the work done: one sample for each dispatched event, and one for
each watch event that is requeued or given up. Durations are measured outside, so the
samples of a trace carry the duration they are given. -/
namespace GatewayEvents

/-- Stopping the handlers is not observed. -/
def Dispatch.samples (d : Dispatch) (seconds : Float) : List Sample :=
  match d.call with
  | .event e => [.dispatch e.name seconds (if d.succeeded then "success" else "error")]
  | .stop => []

def Dispatcher.Deed.samples (seconds : Float) : Dispatcher.Deed → List Sample
  | .dispatched _ d => d.samples seconds
  | _ => []

def WatchLoop.Entry.samples (watch : String) (deedSamples : ε → List Sample) :
    WatchLoop.Entry K ε → List Sample
  | .attempt a => a.deeds.flatMap deedSamples
  | .requeued _ _ _ => [.requeue watch]
  | .dropped _ _ _ => [.drop watch]
  | _ => []

def Watch.Entry.samples (watch : String) (deedSamples : ε → List Sample) :
    Watch.Entry K ε → List Sample
  | .loop entry => entry.samples watch deedSamples
  | _ => []

def Session.Entry.samples {κ : Type} {Object : κ → Type} (deedSamples : ε → List Sample) :
    Session.Entry Object ε → List Sample
  | .watch _ name _ entry => entry.samples name deedSamples
  | .cachesSynced _ => []

def Controller.Entry.samples (seconds : Float) : Controller.Entry → List Sample
  | .session entry => entry.samples (Dispatcher.Deed.samples seconds)
  | _ => []

end GatewayEvents
