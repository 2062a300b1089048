import GatewayEvents.Decimal.Shortest
import GatewayEvents.Table

/-! Metrics: how many events went to the handlers, with which result and how long it took,
and how many watch events were requeued or given up. A `Sample` is one observation;
recording a list of samples gives the counters. `exposition` is the text format that
monitoring reads. -/
namespace GatewayEvents

inductive Sample where
  | dispatch (event : String) (seconds : Float) (result : String)
  | requeue (watch : String)
  | drop (watch : String)

/-- Observations counted in the first bucket that holds them, and in none beyond the last. -/
structure Histogram where
  buckets : List Nat
  sum : Float
  count : Nat

namespace Histogram

def bounds : List Float := [0.005, 0.01, 0.025, 0.05, 0.1, 0.25, 0.5, 1.0, 2.5, 5.0, 10.0]

def empty : Histogram := ⟨bounds.map fun _ => 0, 0.0, 0⟩

def countIn (value : Float) : List Float → List Nat → List Nat
  | bound :: bounds, n :: counts =>
    if value ≤ bound then (n + 1) :: counts else n :: countIn value bounds counts
  | _, counts => counts

def observe (h : Histogram) (value : Float) : Histogram :=
  ⟨countIn value bounds h.buckets, h.sum + value, h.count + 1⟩

def runningTotals (total : Nat) : List Nat → List Nat
  | [] => []
  | n :: rest => (total + n) :: runningTotals (total + n) rest

/-- How many observations lie at or below each bound. -/
def cumulative (h : Histogram) : List Nat := runningTotals 0 h.buckets

end Histogram

structure Metrics where
  durations : Table String Histogram
  dispatched : Table (String × String) Nat
  requeued : Table String Nat
  dropped : Table String Nat

namespace Metrics

def empty : Metrics := ⟨.empty, .empty, .empty, .empty⟩

def increment {κ : Type} [DecidableEq κ] (t : Table κ Nat) (key : κ) : Table κ Nat :=
  t.insert key ((t.get? key).getD 0 + 1)

def record (m : Metrics) : Sample → Metrics
  | .dispatch event seconds result =>
    { m with
      durations := m.durations.insert event (((m.durations.get? event).getD .empty).observe seconds)
      dispatched := increment m.dispatched (event, result) }
  | .requeue watch => { m with requeued := increment m.requeued watch }
  | .drop watch => { m with dropped := increment m.dropped watch }

def ofSamples (samples : List Sample) : Metrics := samples.foldl record empty

def eventsDispatched : String := "event_dispatch_total"
def dispatchDuration : String := "event_dispatch_duration_seconds"
def eventsRequeued : String := "watch_events_requeued_total"
def eventsDropped : String := "watch_events_dropped_total"

def escapeLabel (value : String) : String :=
  String.join (value.toList.map fun c => match c with
    | '\\' => "\\\\"
    | '"' => "\\\""
    | '\n' => "\\n"
    | _ => String.singleton c)

def labelled (family : String) (labels : List (String × String)) (value : String) : String :=
  family ++ "\x7b" ++ String.intercalate "," (labels.map fun label =>
    label.1 ++ "=\"" ++ escapeLabel label.2 ++ "\"") ++ "\x7d " ++ value

/-- A family that has no samples is left out. -/
def family (name help type : String) (samples : List String) : List String :=
  if samples.isEmpty then []
  else ["# HELP " ++ name ++ " " ++ help, "# TYPE " ++ name ++ " " ++ type] ++ samples

def histogramLines (event : String) (h : Histogram) : List String :=
  let bucket (bound : String) (count : Nat) :=
    labelled (dispatchDuration ++ "_bucket") [("event", event), ("le", bound)] (toString count)
  (Histogram.bounds.zip h.cumulative).map (fun b => bucket (Decimal.plain.text b.1) b.2)
    ++ [bucket "+Inf" h.count,
        labelled (dispatchDuration ++ "_sum") [("event", event)] (Decimal.plain.text h.sum),
        labelled (dispatchDuration ++ "_count") [("event", event)] (toString h.count)]

def watchLines (name : String) (t : Table String Nat) : List String :=
  (t.entries.mergeSort fun a b => decide (a.1 ≤ b.1)).map fun entry =>
    labelled name [("resource", entry.1)] (toString entry.2)

def dispatchLines (t : Table (String × String) Nat) : List String :=
  let sorted := t.entries.mergeSort fun a b =>
    decide (a.1.1 < b.1.1) || (a.1.1 = b.1.1 && decide (a.1.2 ≤ b.1.2))
  sorted.map fun entry =>
    labelled eventsDispatched [("event", entry.1.1), ("result", entry.1.2)] (toString entry.2)

/-- Families by name, the samples of each by label value. -/
def exposition (m : Metrics) : List String :=
  family dispatchDuration "Event dispatch duration in seconds" "histogram"
      ((m.durations.entries.mergeSort fun a b => decide (a.1 ≤ b.1)).flatMap fun entry =>
        histogramLines entry.1 entry.2)
    ++ family eventsDispatched "Total number of events dispatched to handlers" "counter"
      (dispatchLines m.dispatched)
    ++ family eventsDropped
      "Total number of watch events dropped after the maximum requeues" "counter"
      (watchLines eventsDropped m.dropped)
    ++ family eventsRequeued
      "Total number of watch events requeued after a failed callback" "counter"
      (watchLines eventsRequeued m.requeued)

end Metrics

end GatewayEvents
