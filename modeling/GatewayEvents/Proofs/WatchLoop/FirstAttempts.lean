import GatewayEvents.Proofs.WatchLoop.Effects

/-! What the watch stream alone decides. What a loop keeps, what a relist has shown so far and
which callbacks are made for the first time follow from the events (`View.next`, `View.tells`),
not from what callbacks answered, nor from which retries fired and when: a repeated callback
writes none of it, and its count tells it from a first one (`Repeating`). Only the order in
which the end of a relist deletes is left open. -/
namespace GatewayEvents.WatchLoop

variable {K ω ε : Type}

/-- A loop without its retries. -/
structure View (K : Type) where
  cache : Table ObjectKey K
  relist : Option (List ObjectKey)
  synced : Bool

def State.view (s : State K) : View K := ⟨s.cache, s.relist, s.synced⟩

@[simp] theorem State.cache_view (s : State K) : s.view.cache = s.cache := rfl

/-- What a callback is about, whatever came of it. -/
structure Change (K : Type) where
  operation : Operation
  key : ObjectKey
  object : K

def Attempt.change (a : Attempt K ε) : Change K := ⟨a.operation, a.key, a.object⟩

/-- The callbacks that repeat no earlier one. -/
def firstAttempts (past : List (Entry K ε)) : List (Attempt K ε) :=
  (attemptsIn past).filter (·.requeues = 0)

def changesIn (past : List (Entry K ε)) : List (Change K) :=
  (firstAttempts past).map Attempt.change

def Step.event? [Watched K] : Step K → Option (WatchEvent (Keyed K))
  | .event _ reported => some reported
  | _ => none

def eventsIn [Watched K] (steps : List (Nat × Step K)) : List (WatchEvent (Keyed K)) :=
  steps.filterMap (·.2.event?)

namespace View

/-- The keys that a relist has not shown. -/
def vanished (v : View K) : List ObjectKey :=
  match v.relist with
  | none => []
  | some seen => v.cache.keys.filter fun key => !seen.contains key

variable [Watched K]

def next (v : View K) : WatchEvent (Keyed K) → View K
  | .init => { v with relist := some [] }
  | .initApply o =>
    { v with
      cache := v.cache.insert o.key o.object
      relist := v.relist.map fun seen => if seen.contains o.key then seen else o.key :: seen }
  | .initDone => ⟨v.vanished.foldl Table.erase v.cache, none, true⟩
  | .apply o => { v with cache := v.cache.insert o.key o.object }
  | .delete o => { v with cache := v.cache.erase o.key }

/-- The callback about an object that is shown, if it is one to be told. -/
def shows (equivalent : K → K → Bool) (v : View K) (o : Keyed K) : List (Change K) :=
  match v.cache.get? o.key with
  | none => [⟨.create, o.key, o.object⟩]
  | some old => if equivalent old o.object then [] else [⟨.update, o.key, o.object⟩]

/-- The callbacks that an event makes for the first time. -/
def tells (equivalent : K → K → Bool) (v : View K) : WatchEvent (Keyed K) → List (Change K)
  | .init => []
  | .initApply o | .apply o => v.shows equivalent o
  | .initDone => v.vanished.filterMap fun key => (v.cache.get? key).map (⟨.delete, key, ·⟩)
  | .delete o => [⟨.delete, o.key, o.object⟩]

/-- What each of the events tells, one after another. -/
def story (equivalent : K → K → Bool) :
    View K → List (WatchEvent (Keyed K)) → List (List (Change K))
  | _, [] => []
  | v, event :: rest => v.tells equivalent event :: story equivalent (v.next event) rest

end View

variable {c : Config K ω ε} {now : Nat} {op : Operation} {key : ObjectKey} {object : K}
  {requeues : Nat} {s t u : State K} {w v : ω} {es past : List (Entry K ε)}

@[simp] theorem firstAttempts_append (past es : List (Entry K ε)) :
    firstAttempts (past ++ es) = firstAttempts past ++ firstAttempts es := by
  simp only [firstAttempts, attemptsIn_append, List.filter_append]

@[simp] theorem changesIn_append (past es : List (Entry K ε)) :
    changesIn (past ++ es) = changesIn past ++ changesIn es := by
  simp only [changesIn, firstAttempts_append, List.map_append]

theorem mem_changesIn {a : Attempt K ε} (member : a ∈ attemptsIn es) (first : a.requeues = 0) :
    a.change ∈ changesIn es :=
  List.mem_map_of_mem (List.mem_filter.mpr ⟨member, decide_eq_true first⟩)

theorem firstAttempts_of_silent (silent : attemptsIn es = []) : firstAttempts es = [] := by
  rw [firstAttempts, silent, List.filter_nil]

theorem Called.firstAttempts (called : Called c op key object requeues u w t v es) :
    firstAttempts es = if requeues = 0 then [c.made op key object requeues w] else [] := by
  rw [WatchLoop.firstAttempts, called.attempts]
  by_cases first : requeues = 0 <;> simp [Config.made, first]

section Callback

theorem attemptsIn_reschedule :
    attemptsIn (reschedule (ε := ε) c now op key object requeues s w).trace = [] := by
  unfold reschedule
  split
  · dsimp only
    split <;> rfl
  · rfl

theorem view_reschedule :
    (reschedule (ε := ε) c now op key object requeues s w).state.view = s.view := by
  unfold reschedule
  split
  · dsimp only
    split <;> rfl
  · rfl

/-- Whatever it answers, and even if its repetition cannot be queued, a callback is made once. -/
theorem attemptsIn_attempt : attemptsIn (attempt c now op key object requeues s w).trace =
    [c.made op key object requeues w] := by
  rw [attempt_eq]
  split
  · rw [Run.trace_after, attemptsIn_append, attemptsIn_reschedule]
    rfl
  · rfl

@[simp] theorem view_attempt : (attempt c now op key object requeues s w).state.view = s.view := by
  rw [attempt_eq]
  split
  · exact view_reschedule
  · rfl

@[simp] theorem changesIn_attempt : changesIn (attempt c now op key object requeues s w).trace =
    if requeues = 0 then [⟨op, key, object⟩] else [] := by
  rw [changesIn, firstAttempts, attemptsIn_attempt]
  by_cases first : requeues = 0 <;> simp [Config.made, Attempt.change, first]

end Callback

section Sweep

/-- A sweep deletes just the given keys, each with the object that was kept. -/
theorem sweep_spec {keys : List ObjectKey} (distinct : keys.Nodup)
    (known : ∀ key ∈ keys, (s.cache.get? key).isSome) (ok : (sweep c now keys s w).crash = none) :
    (sweep c now keys s w).state.view =
        { s.view with cache := keys.foldl Table.erase s.cache } ∧
      changesIn (sweep c now keys s w).trace =
        keys.filterMap fun key => (s.cache.get? key).map (⟨.delete, key, ·⟩) := by
  induction keys generalizing s w with
  | nil => exact ⟨rfl, rfl⟩
  | cons key rest ih =>
    obtain ⟨object, found⟩ := Option.isSome_iff_exists.mp (known key List.mem_cons_self)
    obtain ⟨fresh, distinct⟩ := List.nodup_cons.mp distinct
    unfold sweep at ok ⊢
    simp only [found] at ok ⊢
    have first := Run.crash_none_of_andThen ok
    rw [Run.andThen_of_crash_none first] at ok ⊢
    let r := attempt c now .delete key object 0 { s with cache := s.cache.erase key } w
    have view : r.state.view = { s.view with cache := s.cache.erase key } := view_attempt
    have cache : r.state.cache = s.cache.erase key := congrArg View.cache view
    have others : ∀ other ∈ rest, r.state.cache.get? other = s.cache.get? other := by
      intro other member
      rw [cache, Table.get?_erase, if_neg (ne_of_mem_of_not_mem member fresh)]
    obtain ⟨after, told⟩ := ih (s := r.state) (w := r.world) distinct
      (fun other member => by
        rw [others other member]
        exact known other (List.mem_cons_of_mem _ member)) ok
    constructor
    · refine Eq.trans after ?_
      rw [view, cache, List.foldl_cons]
    · have told := told.trans (List.filterMap_congr fun other member => by rw [others other member])
      have own : changesIn (Run.after [.vanished key] r).trace = [⟨.delete, key, object⟩] :=
        changesIn_attempt
      rw [List.filterMap_cons, found, Option.map_some, ← told]
      exact (changesIn_append ..).trans (congrArg (· ++ _) own)

end Sweep

section Presence

theorem View.kept_of_vanished {v : View K} (member : key ∈ v.vanished) :
    (v.cache.get? key).isSome := by
  cases relist : v.relist with
  | none => simp [View.vanished, relist] at member
  | some seen =>
    simp only [View.vanished, relist, List.mem_filter] at member
    exact (Table.isSome_get? _ _).mpr member.1

variable [Watched K] {equivalent : K → K → Bool} {event : WatchEvent (Keyed K)} {x : Change K}

theorem View.shows_cases (equivalent : K → K → Bool) (v : View K) (o : Keyed K) :
    v.shows equivalent o = [] ∨
      ∃ op, op ≠ .delete ∧ v.shows equivalent o = [⟨op, o.key, o.object⟩] := by
  unfold View.shows
  split
  · exact .inr ⟨.create, by decide, rfl⟩
  · split
    · exact .inl rfl
    · exact .inr ⟨.update, by decide, rfl⟩

/-- What an event tells of an object says whether it is kept from then on. -/
theorem View.presence {v : View K} (told : x ∈ v.tells equivalent event) :
    (v.next event).cache.get? x.key = none ↔ x.operation = .delete := by
  cases event with
  | init => contradiction
  | initApply o | apply o =>
    rcases v.shows_cases equivalent o with silent | ⟨op, keep, shown⟩
    · simp [View.tells, silent] at told
    · simp only [View.tells, shown, List.mem_singleton] at told
      simp [told, View.next, keep]
  | initDone =>
    obtain ⟨key, gone, told⟩ := List.mem_filterMap.mp told
    obtain ⟨object, -, rfl⟩ := Option.map_eq_some_iff.mp told
    simp [View.next, Table.get?_foldl_erase, gone]
  | delete o =>
    obtain rfl := List.mem_singleton.mp told
    simp [View.next]

theorem View.delete_of_tells_initDone {v : View K} (told : x ∈ v.tells equivalent .initDone) :
    x.operation = .delete := by
  obtain ⟨key, -, told⟩ := List.mem_filterMap.mp told
  obtain ⟨object, -, rfl⟩ := Option.map_eq_some_iff.mp told
  rfl

theorem View.length_tells_le {v : View K} (other : event ≠ .initDone) :
    (v.tells equivalent event).length ≤ 1 := by
  cases event with
  | init => exact Nat.zero_le _
  | initApply o | apply o =>
    rcases v.shows_cases equivalent o with shown | ⟨op, -, shown⟩ <;> simp [View.tells, shown]
  | initDone => contradiction
  | delete o => exact Nat.le_refl _

/-- An event tells of one object at most, unless all it tells are deletions. -/
theorem View.tells_short_or_deletes (v : View K) (event : WatchEvent (Keyed K)) :
    (v.tells equivalent event).length ≤ 1 ∨
      ∀ x ∈ v.tells equivalent event, x.operation = .delete := by
  by_cases done : event = .initDone
  · exact .inr fun x told => View.delete_of_tells_initDone (done ▸ told)
  · exact .inl (View.length_tells_le done)

end Presence

section Retries
variable {r : Retry K}

def Repeating (s : State K) : Prop := ∀ r ∈ s.retries.toList, 0 < r.requeues

theorem repeating_initial (start : Nat) : Repeating (.initial start : State K) :=
  fun _ member => by cases member

theorem Called.repeating (called : Called c op key object requeues u w t v es)
    (before : Repeating u) : Repeating t := by
  intro r member
  rcases called.of_mem_retries member with rfl | earlier
  · exact Nat.succ_pos _
  · exact before r earlier

theorem Effect.repeating [Watched K] {step : Step K} (effect : Effect c step s w t v es)
    (before : Repeating s) : Repeating t := by
  cases effect with
  | quiet _ queue => exact fun r member => before r (queue r member)
  | replaced => exact before
  | first _ prepared called | again _ _ _ prepared called =>
    exact called.repeating fun r member => before r (prepared.queue r member)

theorem view_retry : (retry c now r s w).state.view = s.view := by
  by_cases delete : r.operation = .delete
  · rw [retry_of_delete delete]
    cases s.cache.get? r.key with
    | some _ => rfl
    | none => exact view_attempt
  · rw [retry_of_keep delete]
    cases s.cache.get? r.key with
    | some _ => exact view_attempt
    | none => rfl

theorem changesIn_retry (repeats : 0 < r.requeues) : changesIn (retry c now r s w).trace = [] := by
  have again : r.requeues ≠ 0 := repeats.ne'
  by_cases delete : r.operation = .delete
  · rw [retry_of_delete delete]
    cases s.cache.get? r.key with
    | some _ => rfl
    | none => exact changesIn_attempt.trans (if_neg again)
  · rw [retry_of_keep delete]
    cases s.cache.get? r.key with
    | some _ => exact changesIn_attempt.trans (if_neg again)
    | none => rfl

theorem view_fire {index : Nat} : (fire c now index s w).state.view = s.view := by
  unfold fire
  split
  · rfl
  · exact view_retry

theorem changesIn_fire {index : Nat} (repeating : Repeating s) :
    changesIn (fire c now index s w).trace = [] := by
  unfold fire
  split
  · rfl
  next found => exact changesIn_retry (repeating _ (List.mem_of_getElem? found))

end Retries

section Events
variable [Watched K] {event : WatchEvent (Keyed K)} {order : SweepOrder} {step : Step K}
  {steps : List (Nat × Step K)}

/-- A run does what the event says to what was kept, and tells of it for the first time. -/
structure Follows (c : Config K ω ε) (event : WatchEvent (Keyed K)) (v : View K)
    (r : Run K ω ε) : Prop where
  view : r.state.view = v.next event
  told : (changesIn r.trace).Perm (v.tells c.equivalent event)

theorem apply_spec (c : Config K ω ε) (now : Nat) (o : Keyed K) (s : State K) (w : ω) :
    (apply c now o.object o.key s w).state.view =
        { s.view with cache := s.cache.insert o.key o.object } ∧
      changesIn (apply c now o.object o.key s w).trace = s.view.shows c.equivalent o := by
  unfold apply View.shows
  rw [State.cache_view]
  cases known : s.cache.get? o.key with
  | none => exact ⟨view_attempt, changesIn_attempt⟩
  | some old =>
    cases equivalent : c.equivalent old o.object with
    | true =>
      simp only [equivalent, if_true]
      exact ⟨rfl, rfl⟩
    | false =>
      simp only [equivalent, Bool.false_eq_true, if_false]
      exact ⟨view_attempt, changesIn_attempt⟩

theorem follows_finishRelist (ok : (finishRelist c now order s w).crash = none) :
    Follows c .initDone s.view (finishRelist c now order s w) := by
  unfold finishRelist at ok ⊢
  have fine := Run.crash_none_of_andThen ok
  rw [Run.andThen_of_crash_none fine]
  cases relist : s.relist with
  | none =>
    have vanished : s.view.vanished = [] := by simp [View.vanished, State.view, relist]
    constructor
    · simp [markSynced, State.view, View.next, View.vanished, relist]
    · rw [View.tells, vanished]
      exact .refl _
  | some seen =>
    simp only [relist] at fine ⊢
    have vanished : s.view.vanished = unseen s seen := by
      simp only [View.vanished, State.view, relist]
      rfl
    have arranged := order.perm (unseen s seen)
    have distinct : (unseen s seen).Nodup := s.cache.distinct.filter _
    obtain ⟨view, told⟩ := sweep_spec (s := { s with relist := none })
      (arranged.nodup_iff.mpr distinct)
      (fun key member => View.kept_of_vanished (vanished ▸ arranged.mem_iff.mp member)) fine
    constructor
    · have swept : (order.arrange (unseen s seen)).foldl Table.erase s.cache = _ :=
        arranged.foldl_eq' (fun x _ y _ table => Table.erase_comm table x y) s.cache
      simp only [View.next, vanished]
      have cache := (congrArg View.cache view).trans swept
      exact congr (congr (congrArg View.mk cache) (congrArg View.relist view)) rfl
    · simp only [View.tells, vanished]
      refine .trans (.of_eq ?_) (arranged.filterMap _)
      exact (changesIn_append ..).trans ((List.append_nil _).trans told)

theorem follows_handleIn (ok : (handleIn c now order event s w).crash = none) :
    Follows c event s.view (handleIn c now order event s w) := by
  cases event with
  | init => exact ⟨rfl, .refl _⟩
  | initApply o =>
    obtain ⟨view, told⟩ := apply_spec c now o (markSeen o.key s) w
    exact ⟨view, .of_eq told⟩
  | initDone => exact follows_finishRelist ok
  | apply o =>
    obtain ⟨view, told⟩ := apply_spec c now o s w
    exact ⟨view, .of_eq told⟩
  | delete o => exact ⟨view_attempt, .of_eq changesIn_attempt⟩

theorem Moves.repeating (moves : Moves c step s w t v es) (before : Repeating s) :
    Repeating t := by
  induction moves with
  | none => exact before
  | cons move _ ih => exact ih (move.effect.repeating before)

theorem repeating_runSteps {start : Nat} (ok : (runSteps c steps (.initial start) w).crash = none) :
    Repeating (runSteps c steps (.initial start) w).state :=
  runSteps_preserve_effects (I := fun s _ _ => Repeating s)
    (fun effect _ _ before => effect.repeating before) ok (repeating_initial start)

theorem firstAttempts_of_content {start : Nat} (content : c.Content) :
    firstAttempts (runSteps c steps (.initial start) w).trace =
      attemptsIn (runSteps c steps (.initial start) w).trace := by
  refine (runSteps_preserve_effects
    (I := fun s _ past => s.retries.toList = [] ∧ firstAttempts past = attemptsIn past)
    (fun effect _ _ before => ?_) (content.runSteps steps) ⟨rfl, rfl⟩).2
  obtain ⟨empty, all⟩ := before
  cases effect with
  | quiet _ queue silent =>
    refine ⟨List.eq_nil_iff_forall_not_mem.mpr fun r member => ?_, ?_⟩
    · simpa [empty] using queue r member
    · rw [firstAttempts_append, attemptsIn_append, all, firstAttempts_of_silent silent, silent]
  | replaced => exact ⟨empty, by rw [firstAttempts_append, attemptsIn_append, all]; rfl⟩
  | first _ prepared called =>
    obtain ⟨rfl, -, -⟩ := called.settled_of_content content
    refine ⟨List.eq_nil_iff_forall_not_mem.mpr fun r member => ?_, ?_⟩
    · simpa [empty] using prepared.queue r member
    · rw [firstAttempts_append, attemptsIn_append, all, called.firstAttempts, called.attempts,
        if_pos rfl]
  | again queued => simp [empty] at queued

/-- Any two runs over the same events keep the same objects, and make the same callbacks for the
first time: those that the events say, up to the order of the deletions of one relist. -/
theorem story_runSteps (before : Repeating s) (ok : (runSteps c steps s w).crash = none) :
    (runSteps c steps s w).state.view = (eventsIn steps).foldl View.next s.view ∧
      ∃ parts, changesIn (runSteps c steps s w).trace = parts.flatten ∧
        List.Forall₂ List.Perm parts (s.view.story c.equivalent (eventsIn steps)) := by
  induction steps generalizing s w with
  | nil => exact ⟨rfl, [], rfl, .nil⟩
  | cons entry rest ih =>
    obtain ⟨now, step⟩ := entry
    have fine : (WatchLoop.step c now s w step).crash = none := Run.crash_none_of_andThen ok
    unfold runSteps at ok ⊢
    rw [Run.andThen_of_crash_none fine] at ok ⊢
    obtain ⟨view, parts, told, each⟩ := ih ((moves_step fine).repeating before) ok
    simp only [Run.state_after, Run.trace_after, changesIn_append, told]
    -- only an event changes the view or tells anything for the first time
    cases step with
    | event order event =>
      obtain ⟨here, first⟩ := follows_handleIn fine
      rw [WatchLoop.step, here] at view each
      exact ⟨view, _ :: parts, rfl, .cons first each⟩
    | poll => exact ⟨view, parts, rfl, each⟩
    | fire index =>
      rw [WatchLoop.step, view_fire] at view each
      rw [WatchLoop.step, changesIn_fire before]
      exact ⟨view, parts, rfl, each⟩

end Events

end GatewayEvents.WatchLoop
