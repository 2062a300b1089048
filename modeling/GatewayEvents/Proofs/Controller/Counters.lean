import GatewayEvents.Proofs.Dispatcher.Course
import GatewayEvents.Proofs.WatchLoop.Balance
import GatewayEvents.Sampling

/-! What the counters read. Each counter is the number of samples of one sort
(`reading_ofSamples`), and the samples that the work of a loop leaves are counted by its history:
one for each callback put off or given up, and one for each event dispatched. A callback asks to
be run again exactly if its last dispatch failed, and none fails before that one (`Answers`), so
the failed dispatches are the callbacks that asked. -/
namespace GatewayEvents

open WatchLoop (attemptsIn)
open Dispatcher (Deed dispatchesIn)

section Counters

namespace Metrics

def count {κ : Type} [DecidableEq κ] (t : Table κ Nat) (key : κ) : Nat := (t.get? key).getD 0

/-- What is counted under all keys of this sort. -/
def total {κ : Type} (t : Table κ Nat) (sort : κ → Bool) : Nat :=
  t.entries.foldr (fun entry n => if sort entry.1 then entry.2 + n else n) 0

def observations (m : Metrics) (event : String) : Nat :=
  ((m.durations.get? event).map (·.count)).getD 0

end Metrics

namespace Sample

def requeues (watch : String) : Sample → Bool
  | .requeue w => w = watch
  | _ => false

def drops (watch : String) : Sample → Bool
  | .drop w => w = watch
  | _ => false

def reports (event result : String) : Sample → Bool
  | .dispatch e _ r => e = event ∧ r = result
  | _ => false

def times (event : String) : Sample → Bool
  | .dispatch e _ _ => e = event
  | _ => false

def fails : Sample → Bool
  | .dispatch _ _ r => r = "error"
  | _ => false

/-- The same observation, had it taken this long. -/
def lasting (seconds : Float) : Sample → Sample
  | .dispatch event _ result => .dispatch event seconds result
  | s => s

end Sample

open Metrics

variable {κ : Type} [DecidableEq κ] {samples : List Sample} {event watch : String}

theorem count_increment (t : Table κ Nat) (key k : κ) :
    count (increment t key) k = count t k + if key = k then 1 else 0 := by
  unfold count increment
  rw [Table.get?_insert]
  by_cases same : k = key
  · simp [same]
  · simp [same, Ne.symm same]

theorem total_increment (t : Table κ Nat) (key : κ) (sort : κ → Bool) :
    total (increment t key) sort = total t sort + if sort key then 1 else 0 := by
  obtain ⟨entries, distinct⟩ := t
  unfold total increment Table.insert Table.get?
  dsimp only
  clear distinct
  induction entries with
  | nil => simp [Entries.put, Entries.lookup]
  | cons entry rest ih =>
    obtain ⟨k, n⟩ := entry
    by_cases same : k = key
    · subst same
      simp only [Entries.put, Entries.lookup, if_true, Option.getD_some, List.foldr_cons]
      cases sort k <;> simp
      omega
    · simp only [Entries.put, Entries.lookup, if_neg same, List.foldr_cons, ih]
      cases sort k
      · simp
      · simp only [if_true]
        omega

/-- A reading that each sample of one sort advances by one counts these samples. -/
theorem reading_ofSamples (reading : Metrics → Nat) {sort : Sample → Bool}
    (blank : reading .empty = 0)
    (each : ∀ m s, reading (m.record s) = reading m + if sort s then 1 else 0) :
    reading (ofSamples samples) = samples.countP sort := by
  have onwards : ∀ m, reading (samples.foldl record m) = reading m + samples.countP sort := by
    induction samples with
    | nil => exact fun m => rfl
    | cons s rest ih =>
      intro m
      rw [List.foldl_cons, ih, each, List.countP_cons]
      omega
  rw [ofSamples, onwards, blank, Nat.zero_add]

theorem count_requeued :
    count (ofSamples samples).requeued watch = samples.countP (·.requeues watch) := by
  refine reading_ofSamples (fun m => count m.requeued watch) rfl fun m s => ?_
  cases s with
  | requeue w => simp [record, Sample.requeues, count_increment]
  | dispatch | drop => rfl

theorem count_dropped :
    count (ofSamples samples).dropped watch = samples.countP (·.drops watch) := by
  refine reading_ofSamples (fun m => count m.dropped watch) rfl fun m s => ?_
  cases s with
  | drop w => simp [record, Sample.drops, count_increment]
  | dispatch | requeue => rfl

theorem count_record (m : Metrics) (s : Sample) (event result : String) :
    count (m.record s).dispatched (event, result) =
      count m.dispatched (event, result) + if s.reports event result then 1 else 0 := by
  cases s with
  | dispatch e seconds r => simp [record, Sample.reports, count_increment]
  | requeue | drop => rfl

theorem count_dispatched {result : String} :
    count (ofSamples samples).dispatched (event, result) =
      samples.countP (·.reports event result) :=
  reading_ofSamples (fun m => count m.dispatched (event, result)) rfl
    (fun m s => count_record m s event result)

theorem total_failed :
    total (ofSamples samples).dispatched (fun key => key.2 = "error") =
      samples.countP Sample.fails := by
  refine reading_ofSamples (fun m => total m.dispatched fun key => key.2 = "error") rfl
    fun m s => ?_
  cases s with
  | dispatch e seconds r => simp [record, Sample.fails, total_increment]
  | requeue | drop => rfl

theorem observations_record (m : Metrics) (s : Sample) (event : String) :
    (m.record s).observations event = m.observations event + if s.times event then 1 else 0 := by
  cases s with
  | dispatch e seconds r =>
    by_cases same : event = e
    · subst same
      cases known : m.durations.get? event <;>
        simp [record, observations, Sample.times, known, Histogram.observe, Histogram.empty]
    · simp [record, observations, Sample.times, same, Ne.symm same]
  | requeue | drop => rfl

theorem observations_ofSamples :
    (ofSamples samples).observations event = samples.countP (·.times event) :=
  reading_ofSamples (fun m => m.observations event) rfl (fun m s => observations_record m s event)

end Counters

section Callbacks

/-- What a callback dispatched, one event or two, and how it answered. -/
structure Answers (ds : List Dispatch) (answer : Bool) : Prop where
  last : ∃ earlier last, ds = earlier ++ [last] ∧ earlier.length ≤ 1 ∧
    (∀ told ∈ earlier, told.succeeded = true) ∧ answer = !last.succeeded
  events : ∀ told ∈ ds, ∃ event, told.call = .event event

variable {ω : Type} {d : Dispatcher ω} {role : Option Bool} {event : Event}
  {announced answer later : Bool} {ds : List Dispatch}

theorem Dispatcher.Course.answers
    (course : Dispatcher.Course d role event announced ds answer later) : Answers ds answer := by
  cases course with
  | @told last _ lastTold =>
    exact ⟨⟨[], last, rfl, by simp, by simp, rfl⟩, by simp [lastTold.call]⟩
  | @refused _ transition _ _ transitionTold failed =>
    exact ⟨⟨[], transition, rfl, by simp, by simp, by simp [failed]⟩,
      by simp [transitionTold.call]⟩
  | @moved _ transition last _ _ transitionTold accepted lastTold =>
    exact ⟨⟨[transition], last, rfl, by simp, by simpa using accepted, rfl⟩,
      by simp [transitionTold.call, lastTold.call]⟩

theorem samples_of_deeds (deeds : List Deed) (seconds : Float) :
    deeds.flatMap (Deed.samples seconds) =
      (dispatchesIn deeds).flatMap (Dispatch.samples · seconds) := by
  induction deeds with
  | nil => rfl
  | cons deed rest ih =>
    cases deed with
    | stateChange | announcing | nodeFlag | nodeGone => exact ih
    | dispatched attempt told =>
      rw [List.flatMap_cons, ih]
      rfl

theorem Answers.countP_fails (answers : Answers ds answer) (seconds : Float) :
    (ds.flatMap (Dispatch.samples · seconds)).countP Sample.fails = if answer then 1 else 0 := by
  have each : ∀ told ∈ ds, (told.samples seconds).countP Sample.fails =
      if told.succeeded then 0 else 1 := by
    intro told member
    obtain ⟨event, about⟩ := answers.events told member
    cases answered : told.succeeded <;> simp [Dispatch.samples, about, answered, Sample.fails]
  obtain ⟨earlier, last, rfl, -, accepted, rfl⟩ := answers.last
  have silent : (earlier.flatMap (Dispatch.samples · seconds)).countP Sample.fails = 0 := by
    refine List.countP_eq_zero.mpr fun s member => ?_
    obtain ⟨told, among, member⟩ := List.mem_flatMap.mp member
    have none := each told (List.mem_append_left _ among)
    rw [accepted told among, if_pos rfl] at none
    exact List.countP_eq_zero.mp none s member
  have final := each last (by simp)
  simp only [List.flatMap_append, List.countP_append, silent, List.flatMap_singleton, final]
  cases last.succeeded <;> rfl

end Callbacks

section Samples
variable {K : Type} {past es : List (WatchLoop.Entry K Deed)} {watch name event : String}

/-- What is observed of the work of a loop, the durations left open. -/
def samplesIn (name : String) (past : List (WatchLoop.Entry K Deed)) : List Sample :=
  past.flatMap (·.samples name (Deed.samples 0))

@[simp] theorem samplesIn_append :
    samplesIn name (past ++ es) = samplesIn name past ++ samplesIn name es := List.flatMap_append

/-- A sample of a dispatch, with one of its two results. -/
def Sample.Graded (s : Sample) : Prop :=
  ∃ event seconds, s = .dispatch event seconds "success" ∨ s = .dispatch event seconds "error"

theorem graded_of_mem {deeds : List Deed} {seconds : Float} {s : Sample}
    (member : s ∈ deeds.flatMap (Deed.samples seconds)) : s.Graded := by
  rw [samples_of_deeds] at member
  obtain ⟨told, -, member⟩ := List.mem_flatMap.mp member
  unfold Dispatch.samples at member
  split at member
  next event about =>
    obtain rfl := List.mem_singleton.mp member
    cases told.succeeded
    · exact ⟨_, _, .inr rfl⟩
    · exact ⟨_, _, .inl rfl⟩
  next => cases member

theorem countP_of_graded {sort : Sample → Bool} {deeds : List Deed} {seconds : Float}
    (other : ∀ event seconds result, sort (.dispatch event seconds result) = false) :
    (deeds.flatMap (Deed.samples seconds)).countP sort = 0 := by
  refine List.countP_eq_zero.mpr fun s member => ?_
  obtain ⟨event, seconds, rfl | rfl⟩ := graded_of_mem member <;> simp [other]

/-- Samples of a sort that every marked entry leaves once, and no other, count these entries. -/
theorem countP_samplesIn {sort : Sample → Bool} {mark : WatchLoop.Entry K Deed → Bool}
    (each : ∀ e ∈ past, (e.samples name (Deed.samples 0)).countP sort = if mark e then 1 else 0) :
    (samplesIn name past).countP sort = past.countP mark := by
  induction past with
  | nil => rfl
  | cons entry rest ih =>
    have first := each entry List.mem_cons_self
    have later := ih fun e member => each e (List.mem_cons_of_mem _ member)
    rw [samplesIn, List.flatMap_cons, List.countP_append, first, ← samplesIn, later,
      List.countP_cons, Nat.add_comm]

theorem countP_ofWatch {sort : Sample → Bool} {mark : WatchLoop.Entry K Deed → Bool}
    (each : ∀ e ∈ past, (e.samples name (Deed.samples 0)).countP sort =
      if name = watch && mark e then 1 else 0) :
    (samplesIn name past).countP sort = if name = watch then past.countP mark else 0 := by
  rw [countP_samplesIn each]
  by_cases same : name = watch <;> simp [same]

theorem countP_requeues : (samplesIn name past).countP (·.requeues watch) =
    if name = watch then past.countP WatchLoop.Entry.putOff else 0 := by
  refine countP_ofWatch fun e _ => ?_
  cases e with
  | attempt a =>
    simp [WatchLoop.Entry.samples, WatchLoop.Entry.putOff, countP_of_graded, Sample.requeues]
  | _ => simp [WatchLoop.Entry.samples, WatchLoop.Entry.putOff, Sample.requeues]

theorem countP_drops : (samplesIn name past).countP (·.drops watch) =
    if name = watch then past.countP WatchLoop.Entry.gaveUp else 0 := by
  refine countP_ofWatch fun e _ => ?_
  cases e with
  | attempt a =>
    simp [WatchLoop.Entry.samples, WatchLoop.Entry.gaveUp, countP_of_graded, Sample.drops]
  | _ => simp [WatchLoop.Entry.samples, WatchLoop.Entry.gaveUp, Sample.drops]

/-- Each callback that asks to be run again leaves one failed dispatch behind. -/
theorem countP_fails
    (answers : ∀ a ∈ attemptsIn past, Answers (dispatchesIn a.deeds) a.requeue) :
    (samplesIn name past).countP Sample.fails = (attemptsIn past).countP (·.requeue) := by
  rw [attemptsIn, List.countP_filterMap]
  refine countP_samplesIn fun e member => ?_
  cases e with
  | attempt a =>
    have own := answers a (List.mem_filterMap.mpr ⟨_, member, rfl⟩)
    rw [WatchLoop.Entry.samples, samples_of_deeds, own.countP_fails]
    rfl
  | _ => rfl

/-- Each dispatch that is timed is reported with one of two results. -/
theorem countP_times (past : List (WatchLoop.Entry K Deed)) :
    (samplesIn name past).countP (·.reports event "success") +
      (samplesIn name past).countP (·.reports event "error") =
      (samplesIn name past).countP (·.times event) := by
  have graded : ∀ s ∈ samplesIn name past, s.Graded ∨ s = .requeue name ∨ s = .drop name := by
    intro s member
    obtain ⟨entry, -, member⟩ := List.mem_flatMap.mp member
    cases entry with
    | attempt a => exact .inl (graded_of_mem member)
    | requeued => exact .inr (.inl (List.mem_singleton.mp member))
    | dropped => exact .inr (.inr (List.mem_singleton.mp member))
    | _ => cases member
  generalize samplesIn name past = samples at graded ⊢
  induction samples with
  | nil => rfl
  | cons s rest ih =>
    have rest := ih fun t member => graded t (List.mem_cons_of_mem _ member)
    simp only [List.countP_cons, ← rest]
    rcases graded s List.mem_cons_self with ⟨e, seconds, rfl | rfl⟩ | rfl | rfl
    · by_cases same : e = event <;> simp [Sample.reports, Sample.times, same]
      omega
    · by_cases same : e = event <;> simp [Sample.reports, Sample.times, same]
      omega
    · simp [Sample.reports, Sample.times]
    · simp [Sample.reports, Sample.times]

end Samples

end GatewayEvents
