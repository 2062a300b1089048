import GatewayEvents.WatchLoop
import Mathlib.Data.List.Perm.Basic

/-! What a loop can do, said once. A step is a row of moves: a move changes the cache under
one key at most and makes one callback at most, and names the guard under which it was made.
A step that crashes is one too, but for the retry that its timers refused (`Run.Meant`).
Whatever every move preserves holds along every run (`Moves.preserve`, `runSteps_preserve`),
whichever retries fire, in whatever order a relist deletes and whatever the callbacks
answer. Where it matters only that a step is made of callbacks, which they are is left open
(`Run.Composed`). -/
namespace GatewayEvents.WatchLoop

variable {K ω ε : Type}

def Config.made (c : Config K ω ε) (op : Operation) (key : ObjectKey) (object : K) (requeues : Nat)
    (w : ω) : Attempt K ε :=
  let reply := c.callback op object requeues w
  ⟨op, key, object, requeues, reply.requeue, reply.deeds⟩

/-- One callback with what follows from its answer. -/
inductive Called (c : Config K ω ε) (op : Operation) (key : ObjectKey) (object : K)
    (requeues : Nat) (s : State K) (w : ω) : State K → ω → List (Entry K ε) → Prop where
  | settled (answer : (c.made op key object requeues w).requeue = false) :
      Called c op key object requeues s w s (c.callback op object requeues w).world
        [.attempt (c.made op key object requeues w)]
  | dropped (answer : (c.made op key object requeues w).requeue = true)
      (spent : c.policy.allowsRequeue requeues = false) :
      Called c op key object requeues s w s (c.callback op object requeues w).world
        [.attempt (c.made op key object requeues w), .dropped op key requeues]
  | requeued (answer : (c.made op key object requeues w).requeue = true)
      (allowed : c.policy.allowsRequeue requeues = true) {queue : TimerWheel (Retry K)}
      (queued : queue.toList.Perm (⟨op, key, object, requeues + 1⟩ :: s.retries.toList)) :
      Called c op key object requeues s w { s with retries := queue }
        (c.callback op object requeues w).world
        [.attempt (c.made op key object requeues w), .requeued op key requeues]

def State.take (s : State K) (index : Nat) : State K :=
  { s with retries := s.retries.eraseIdx index }

@[simp] theorem State.cache_take (s : State K) (index : Nat) : (s.take index).cache = s.cache := rfl

def Entry.gaveUp : Entry K ε → Bool
  | .dropped _ _ _ => true
  | _ => false

/-- The step hands this object to the loop to be kept. -/
def Step.Shows [Watched K] (step : Step K) (o : Keyed K) : Prop :=
  ∃ order, step = .event order (.apply o) ∨ step = .event order (.initApply o)

/-- The object that the step brings a watch event about. -/
def Step.object? [Watched K] : Step K → Option (Keyed K)
  | .event _ (.apply o) | .event _ (.initApply o) | .event _ (.delete o) => some o
  | _ => none

/-- The objects that a row of steps brings watch events about. -/
def broughtIn [Watched K] (steps : List (Nat × Step K)) : List (Keyed K) :=
  steps.filterMap (·.2.object?)

theorem Step.Shows.object? [Watched K] {step : Step K} {o : Keyed K} (shown : step.Shows o) :
    step.object? = some o := by
  rcases shown with ⟨order, rfl | rfl⟩ <;> rfl

/-- One move within a step: from a state and a world to a state and a world, leaving
entries in the trace. -/
inductive Move [Watched K] (c : Config K ω ε) :
    Step K → State K → ω → State K → ω → List (Entry K ε) → Prop where
  | relistStarted {order s w} :
      Move c (.event order .init) s w { s with relist := some [] } w [.relistStarted]
  | seen {order s w} (o : Keyed K) :
      Move c (.event order (.initApply o)) s w (markSeen o.key s) w []
  | relistEnded {order s w} : Move c (.event order .initDone) s w { s with relist := none } w []
  | synced {order s w} : Move c (.event order .initDone) s w { s with synced := true } w []
  | polled {s w} {queue : TimerWheel (Retry K)} (same : queue.toList.Perm s.retries.toList) :
      Move c .poll s w { s with retries := queue } w []
  | unchanged {step s w} {o : Keyed K} {old : K} (shown : step.Shows o)
      (known : s.cache.get? o.key = some old) (equivalent : c.equivalent old o.object = true) :
      Move c step s w { s with cache := s.cache.insert o.key o.object } w [.unchanged o.key]
  | created {step s w t v es} {o : Keyed K} (shown : step.Shows o)
      (unknown : s.cache.get? o.key = none)
      (called : Called c .create o.key o.object 0
        { s with cache := s.cache.insert o.key o.object } w t v es) :
      Move c step s w t v es
  | updated {step s w t v es} {o : Keyed K} {old : K} (shown : step.Shows o)
      (known : s.cache.get? o.key = some old) (different : c.equivalent old o.object = false)
      (called : Called c .update o.key o.object 0
        { s with cache := s.cache.insert o.key o.object } w t v es) :
      Move c step s w t v es
  | deleted {order s w t v es} {o : Keyed K}
      (called : Called c .delete o.key o.object 0
        { s with cache := s.cache.erase o.key } w t v es) :
      Move c (.event order (.delete o)) s w t v es
  | missed {order s w} (key : ObjectKey) :
      Move c (.event order .initDone) s w s w [.vanished key]
  | vanished {order s w t v es} {key : ObjectKey} {object : K}
      (known : s.cache.get? key = some object)
      (called : Called c .delete key object 0 { s with cache := s.cache.erase key } w t v es) :
      Move c (.event order .initDone) s w t v es
  | recreated {index s w} {r : Retry K} {latest : K} (found : s.retries.toList[index]? = some r)
      (delete : r.operation = .delete) (known : s.cache.get? r.key = some latest) :
      Move c (.fire index) s w (s.take index) w [.recreated r.key]
  | gone {index s w} {r : Retry K} (found : s.retries.toList[index]? = some r)
      (keep : r.operation ≠ .delete) (unknown : s.cache.get? r.key = none) :
      Move c (.fire index) s w (s.take index) w [.gone r.key]
  | deletedAgain {index s w t v es} {r : Retry K} (found : s.retries.toList[index]? = some r)
      (delete : r.operation = .delete) (unknown : s.cache.get? r.key = none)
      (called : Called c .delete r.key r.object r.requeues (s.take index) w t v es) :
      Move c (.fire index) s w t v es
  | keptAgain {index s w t v es} {r : Retry K} {latest : K}
      (found : s.retries.toList[index]? = some r) (keep : r.operation ≠ .delete)
      (known : s.cache.get? r.key = some latest)
      (called : Called c r.operation r.key latest r.requeues (s.take index) w t v es) :
      Move c (.fire index) s w t v es

/-- A row of moves of one step. -/
inductive Moves [Watched K] (c : Config K ω ε) (step : Step K) :
    State K → ω → State K → ω → List (Entry K ε) → Prop where
  | none {s w} : Moves c step s w s w []
  | cons {s w t v u x es fs} (first : Move c step s w t v es) (rest : Moves c step t v u x fs) :
      Moves c step s w u x (es ++ fs)

section Composition
variable {r : Run K ω ε} {es : List (Entry K ε)} {next : State K → ω → Run K ω ε}

@[simp] theorem Run.state_after : (r.after es).state = r.state := rfl
@[simp] theorem Run.world_after : (r.after es).world = r.world := rfl
@[simp] theorem Run.trace_after : (r.after es).trace = es ++ r.trace := rfl
@[simp] theorem Run.crash_after : (r.after es).crash = r.crash := rfl

theorem Run.andThen_of_crash_none (ok : r.crash = none) :
    r.andThen next = (next r.state r.world).after r.trace := by
  simp only [Run.andThen, ok]

theorem Run.andThen_of_refused {crash : Crash} (refused : r.crash = some crash) :
    r.andThen next = r := by
  simp only [Run.andThen, refused]

theorem Run.crash_none_of_andThen (ok : (r.andThen next).crash = none) : r.crash = none := by
  unfold Run.andThen at ok
  split at ok
  · exact ok
  · assumption

/-- Where the loop stands; or, if it crashed because the timers refused a retry, where it would
stand had they taken it. -/
inductive Run.Meant (r : Run K ω ε) : State K → Prop where
  | whole (ok : r.crash = none) : r.Meant r.state
  | short {queue : TimerWheel (Retry K)} {lost : Retry K}
      (refused : r.crash = some .delayTooLong)
      (queued : queue.toList.Perm (lost :: r.state.retries.toList)) :
      r.Meant { r.state with retries := queue }

theorem Run.Meant.after {t : State K} (meant : r.Meant t) : (r.after es).Meant t := by
  cases meant with
  | whole ok => exact .whole ok
  | short refused queued => exact .short refused queued

theorem Run.Meant.eq_state {t : State K} (meant : r.Meant t) (ok : r.crash = none) :
    t = r.state := by
  cases meant with
  | whole => rfl
  | short refused =>
    rw [ok] at refused
    contradiction

theorem Run.Meant.cache {t : State K} (meant : r.Meant t) : t.cache = r.state.cache := by
  cases meant <;> rfl

end Composition

theorem State.perm_take {s : State K} {index : Nat} {r : Retry K}
    (found : s.retries.toList[index]? = some r) :
    s.retries.toList.Perm (r :: (s.take index).retries.toList) := by
  obtain ⟨bound, rfl⟩ := List.getElem?_eq_some_iff.mp found
  simp only [State.take, TimerWheel.toList_eraseIdx]
  exact (List.getElem_cons_eraseIdx_perm bound).symm

section Spec
variable {c : Config K ω ε} {now : Nat} {op : Operation} {key : ObjectKey} {object : K}
  {requeues : Nat} {s : State K} {w : ω}

theorem reschedule_cases (c : Config K ω ε) (now : Nat) (op : Operation) (key : ObjectKey)
    (object : K) (requeues : Nat) (s : State K) (w : ω) :
    (c.policy.allowsRequeue requeues = false ∧
      reschedule (ε := ε) c now op key object requeues s w =
        ⟨s, w, [.dropped op key requeues], none⟩) ∨
    (c.policy.allowsRequeue requeues = true ∧ ∃ queue : TimerWheel (Retry K),
      queue.toList.Perm (⟨op, key, object, requeues + 1⟩ :: s.retries.toList) ∧
      (reschedule (ε := ε) c now op key object requeues s w).Meant { s with retries := queue } ∧
      (reschedule (ε := ε) c now op key object requeues s w).world = w ∧
      (reschedule (ε := ε) c now op key object requeues s w).trace =
        [.requeued op key requeues]) := by
  by_cases allowed : c.policy.allowsRequeue requeues = true
  · right
    simp only [reschedule, allowed, if_true]
    cases set : s.retries.insert? now (c.policy.backoff requeues)
        ⟨op, key, object, requeues + 1⟩ with
    | some queue => exact ⟨trivial, queue, TimerWheel.toList_insert? set, .whole rfl, rfl, rfl⟩
    | none =>
      -- any queue with the retry will do: the crash leaves none behind
      let retry : Retry K := ⟨op, key, object, requeues + 1⟩
      let queue := { s.retries with alarms := ⟨retry, 0, none⟩ :: s.retries.alarms }
      exact ⟨trivial, queue, .refl _, .short rfl (.refl _), rfl, rfl⟩
  · left
    simp only [Bool.not_eq_true] at allowed
    exact ⟨allowed, by simp only [reschedule, allowed, Bool.false_eq_true, if_false]⟩

theorem attempt_eq : attempt c now op key object requeues s w =
    if (c.made op key object requeues w).requeue then
      (reschedule c now op key object requeues s (c.callback op object requeues w).world).after
        [.attempt (c.made op key object requeues w)]
    else ⟨s, (c.callback op object requeues w).world,
      [.attempt (c.made op key object requeues w)], none⟩ := rfl

theorem meant_attempt (c : Config K ω ε) (now : Nat) (op : Operation) (key : ObjectKey)
    (object : K) (requeues : Nat) (s : State K) (w : ω) :
    ∃ t, (attempt c now op key object requeues s w).Meant t ∧
      Called c op key object requeues s w t (attempt c now op key object requeues s w).world
        (attempt c now op key object requeues s w).trace := by
  rw [attempt_eq]
  by_cases answer : (c.made op key object requeues w).requeue = true
  · rw [if_pos answer]
    rcases reschedule_cases c now op key object requeues s
        (c.callback op object requeues w).world with
      ⟨spent, ended⟩ | ⟨allowed, queue, queued, meant, world, trace⟩
    · rw [ended]
      exact ⟨s, .whole rfl, .dropped answer spent⟩
    · rw [Run.world_after, Run.trace_after, world, trace]
      exact ⟨_, meant.after, .requeued answer allowed queued⟩
  · rw [if_neg answer]
    exact ⟨s, .whole rfl, .settled (Bool.not_eq_true _ ▸ answer)⟩

theorem called_attempt (ok : (attempt c now op key object requeues s w).crash = none) :
    Called c op key object requeues s w (attempt c now op key object requeues s w).state
      (attempt c now op key object requeues s w).world
      (attempt c now op key object requeues s w).trace := by
  obtain ⟨t, meant, called⟩ := meant_attempt c now op key object requeues s w
  exact meant.eq_state ok ▸ called

theorem Called.cache {t : State K} {v : ω} {es : List (Entry K ε)}
    (called : Called c op key object requeues s w t v es) : t.cache = s.cache := by
  cases called <;> rfl

theorem Called.world {t : State K} {v : ω} {es : List (Entry K ε)}
    (called : Called c op key object requeues s w t v es) :
    v = (c.callback op object requeues w).world := by
  cases called <;> rfl

theorem Called.mem_retries {t : State K} {v : ω} {es : List (Entry K ε)}
    (called : Called c op key object requeues s w t v es) {r : Retry K}
    (member : r ∈ s.retries.toList) : r ∈ t.retries.toList := by
  cases called with
  | settled _ => exact member
  | dropped _ _ => exact member
  | requeued _ _ queued => exact queued.mem_iff.mpr (List.mem_cons_of_mem _ member)

theorem Called.of_mem_retries {t : State K} {v : ω} {es : List (Entry K ε)}
    (called : Called c op key object requeues s w t v es) {r : Retry K}
    (member : r ∈ t.retries.toList) :
    r = ⟨op, key, object, requeues + 1⟩ ∨ r ∈ s.retries.toList := by
  cases called with
  | settled _ => exact .inr member
  | dropped _ _ => exact .inr member
  | requeued _ _ queued => exact List.mem_cons.mp (queued.mem_iff.mp member)

theorem retry_of_delete {r : Retry K} (delete : r.operation = .delete) :
    retry c now r s w = match s.cache.get? r.key with
      | some _ => ⟨s, w, [.recreated r.key], none⟩
      | none => attempt c now .delete r.key r.object r.requeues s w := by
  unfold retry
  rw [delete]
  cases s.cache.get? r.key <;> rfl

theorem retry_of_keep {r : Retry K} (keep : r.operation ≠ .delete) :
    retry c now r s w = match s.cache.get? r.key with
      | some latest => attempt c now r.operation r.key latest r.requeues s w
      | none => ⟨s, w, [.gone r.key], none⟩ := by
  unfold retry
  cases op : r.operation with
  | delete => exact absurd op keep
  | create => cases s.cache.get? r.key <;> rfl
  | update => cases s.cache.get? r.key <;> rfl

end Spec

section Steps
variable [Watched K] {c : Config K ω ε} {now : Nat} {step : Step K} {s : State K} {w : ω}

/-- The run is a row of moves of the step. -/
def Run.Passes (c : Config K ω ε) (step : Step K) (s : State K) (w : ω) (r : Run K ω ε) : Prop :=
  ∃ t, r.Meant t ∧ Moves c step s w t r.world r.trace

theorem Moves.single {t : State K} {v : ω} {es : List (Entry K ε)} (move : Move c step s w t v es) :
    Moves c step s w t v es := by
  simpa using Moves.cons move .none

theorem Moves.append {t u : State K} {v x : ω} {es fs : List (Entry K ε)}
    (first : Moves c step s w t v es) (later : Moves c step t v u x fs) :
    Moves c step s w u x (es ++ fs) := by
  induction first with
  | none => exact later
  | cons move _ ih => simpa using Moves.cons move (ih later)

theorem Run.Passes.andThen {r : Run K ω ε} {next : State K → ω → Run K ω ε}
    (first : r.Passes c step s w) (later : ∀ t v, (next t v).Passes c step t v) :
    (r.andThen next).Passes c step s w := by
  obtain ⟨t, meant, moves⟩ := first
  cases meant with
  | whole ok =>
    rw [Run.andThen_of_crash_none ok]
    obtain ⟨u, meant, rest⟩ := later r.state r.world
    exact ⟨u, meant.after, moves.append rest⟩
  | short refused queued =>
    rw [Run.andThen_of_refused refused]
    exact ⟨_, .short refused queued, moves⟩

theorem passes_rest : (⟨s, w, [], none⟩ : Run K ω ε).Passes c step s w := ⟨s, .whole rfl, .none⟩

theorem passes_apply {o : Keyed K} (shown : step.Shows o) :
    (apply c now o.object o.key s w).Passes c step s w := by
  unfold apply
  cases known : s.cache.get? o.key with
  | none =>
    obtain ⟨t, meant, called⟩ := meant_attempt ..
    exact ⟨t, meant, .single (.created shown known called)⟩
  | some old =>
    cases equivalent : c.equivalent old o.object with
    | true =>
      simp only [equivalent, if_true]
      exact ⟨_, .whole rfl, .single (.unchanged shown known equivalent)⟩
    | false =>
      simp only [equivalent, Bool.false_eq_true, if_false]
      obtain ⟨t, meant, called⟩ := meant_attempt ..
      exact ⟨t, meant, .single (.updated shown known equivalent called)⟩

theorem passes_sweep {order : SweepOrder} (keys : List ObjectKey) :
    (sweep c now keys s w).Passes c (.event order .initDone) s w := by
  induction keys generalizing s w with
  | nil => exact passes_rest
  | cons key rest ih =>
    unfold sweep
    cases known : s.cache.get? key with
    | none => exact ih
    | some object =>
      refine Run.Passes.andThen ?_ fun _ _ => ih
      obtain ⟨t, meant, called⟩ := meant_attempt ..
      exact ⟨t, meant.after, .cons (.missed key) (.single (.vanished known called))⟩

theorem passes_finishRelist {order : SweepOrder} :
    (finishRelist c now order s w).Passes c (.event order .initDone) s w := by
  unfold finishRelist
  refine Run.Passes.andThen ?_ fun _ _ => ⟨_, .whole rfl, .single .synced⟩
  cases s.relist with
  | none => exact passes_rest
  | some seen =>
    obtain ⟨t, meant, moves⟩ := passes_sweep (s := { s with relist := none }) _
    exact ⟨t, meant, .cons .relistEnded moves⟩

theorem passes_handleIn {order : SweepOrder} (event : WatchEvent (Keyed K)) :
    (handleIn c now order event s w).Passes c (.event order event) s w := by
  cases event with
  | init => exact ⟨_, .whole rfl, .single .relistStarted⟩
  | initApply o =>
    obtain ⟨t, meant, moves⟩ := passes_apply (s := markSeen o.key s) ⟨order, .inr rfl⟩
    exact ⟨t, meant, .cons (.seen o) moves⟩
  | initDone => exact passes_finishRelist
  | apply o => exact passes_apply ⟨order, .inl rfl⟩
  | delete o =>
    obtain ⟨t, meant, called⟩ := meant_attempt ..
    exact ⟨t, meant, .single (.deleted called)⟩

theorem move_fire {index : Nat} {r : Retry K} (found : s.retries.toList[index]? = some r) :
    ∃ t, (fire c now index s w).Meant t ∧
      Move c (.fire index) s w t (fire c now index s w).world (fire c now index s w).trace := by
  have fired : fire c now index s w = retry c now r (s.take index) w := by
    simp only [fire, found]
    rfl
  rw [fired]
  by_cases delete : r.operation = .delete
  · rw [retry_of_delete delete]
    cases known : s.cache.get? r.key with
    | some latest =>
      simp only [State.cache_take, known]
      exact ⟨_, .whole rfl, .recreated found delete known⟩
    | none =>
      simp only [State.cache_take, known]
      obtain ⟨t, meant, called⟩ := meant_attempt ..
      exact ⟨t, meant, .deletedAgain found delete known called⟩
  · rw [retry_of_keep delete]
    cases known : s.cache.get? r.key with
    | some latest =>
      simp only [State.cache_take, known]
      obtain ⟨t, meant, called⟩ := meant_attempt ..
      exact ⟨t, meant, .keptAgain found delete known called⟩
    | none =>
      simp only [State.cache_take, known]
      exact ⟨_, .whole rfl, .gone found delete known⟩

theorem passes_fire (index : Nat) : (fire c now index s w).Passes c (.fire index) s w := by
  cases found : s.retries.toList[index]? with
  | none =>
    simp only [fire, found]
    exact passes_rest
  | some r =>
    obtain ⟨t, meant, move⟩ := move_fire found
    exact ⟨t, meant, .single move⟩

theorem passes_step (c : Config K ω ε) (now : Nat) (step : Step K) (s : State K) (w : ω) :
    (WatchLoop.step c now s w step).Passes c step s w := by
  cases step with
  | event order event => exact passes_handleIn event
  | poll => exact ⟨_, .whole rfl, .single (.polled (TimerWheel.toList_poll now s.retries))⟩
  | fire index => exact passes_fire index

theorem moves_step (ok : (WatchLoop.step c now s w step).crash = none) :
    Moves c step s w (WatchLoop.step c now s w step).state (WatchLoop.step c now s w step).world
      (WatchLoop.step c now s w step).trace := by
  obtain ⟨t, meant, moves⟩ := passes_step c now step s w
  exact meant.eq_state ok ▸ moves

theorem Moves.preserve {I : State K → ω → List (Entry K ε) → Prop}
    (kept : ∀ {s w t v es past}, Move c step s w t v es → I s w past → I t v (past ++ es))
    {t : State K} {v : ω} {es past : List (Entry K ε)} (moves : Moves c step s w t v es)
    (holds : I s w past) : I t v (past ++ es) := by
  induction moves generalizing past with
  | none => simpa using holds
  | cons move _ ih =>
    rw [← List.append_assoc]
    exact ih (kept move holds)

/-- Before every step of a run the guard holds of the state and the step. -/
def Guarded (G : State K → Step K → Prop) (c : Config K ω ε) :
    List (Nat × Step K) → State K → ω → Prop
  | [], _, _ => True
  | (now, first) :: rest, s, w =>
    let r := WatchLoop.step c now s w first
    G s first ∧ Guarded G c rest r.state r.world

/-- What every guarded step preserves holds where a guarded run was meant to end. -/
theorem runSteps_meant {I : State K → ω → List (Entry K ε) → Prop}
    {G : State K → Step K → Prop} {steps : List (Nat × Step K)} {past : List (Entry K ε)}
    (kept : ∀ {step s w t v es past}, G s step → Moves c step s w t v es → I s w past →
      I t v (past ++ es))
    (guarded : Guarded G c steps s w) (holds : I s w past) :
    ∃ t, (runSteps c steps s w).Meant t ∧
      I t (runSteps c steps s w).world (past ++ (runSteps c steps s w).trace) := by
  induction steps generalizing s w past with
  | nil => exact ⟨s, .whole rfl, by simpa [runSteps] using holds⟩
  | cons entry rest ih =>
    obtain ⟨now, first⟩ := entry
    obtain ⟨t, meant, moves⟩ := passes_step c now first s w
    have next := kept guarded.1 moves holds
    unfold runSteps
    cases meant with
    | whole ok =>
      rw [Run.andThen_of_crash_none ok]
      obtain ⟨u, meant, holds⟩ := ih guarded.2 next
      refine ⟨u, meant.after, ?_⟩
      rwa [Run.world_after, Run.trace_after, ← List.append_assoc]
    | short refused queued =>
      rw [Run.andThen_of_refused refused]
      exact ⟨_, .short refused queued, next⟩

theorem runSteps_guarded {I : State K → ω → List (Entry K ε) → Prop}
    {G : State K → Step K → Prop} {steps : List (Nat × Step K)} {past : List (Entry K ε)}
    (kept : ∀ {step s w t v es past}, G s step → Moves c step s w t v es → I s w past →
      I t v (past ++ es))
    (guarded : Guarded G c steps s w) (ok : (runSteps c steps s w).crash = none)
    (holds : I s w past) :
    I (runSteps c steps s w).state (runSteps c steps s w).world
      (past ++ (runSteps c steps s w).trace) := by
  obtain ⟨t, meant, holds⟩ := runSteps_meant kept guarded holds
  exact meant.eq_state ok ▸ holds

theorem guarded_of_forall {G : State K → Step K → Prop} {steps : List (Nat × Step K)}
    (all : ∀ entry ∈ steps, ∀ s, G s entry.2) : Guarded G c steps s w := by
  induction steps generalizing s w with
  | nil => trivial
  | cons entry rest ih =>
    exact ⟨all entry (by simp) s, ih fun later member => all later (by simp [member])⟩

theorem Guarded.and_forall {G H : State K → Step K → Prop} {steps : List (Nat × Step K)}
    (guarded : Guarded G c steps s w) (all : ∀ entry ∈ steps, ∀ s, H s entry.2) :
    Guarded (fun s step => G s step ∧ H s step) c steps s w := by
  induction steps generalizing s w with
  | nil => trivial
  | cons entry rest ih =>
    refine ⟨⟨guarded.1, all entry (by simp) s⟩, ?_⟩
    exact ih guarded.2 fun later member => all later (by simp [member])

/-- What every move preserves holds where a run was meant to end. -/
theorem runSteps_preserve_meant {I : State K → ω → List (Entry K ε) → Prop}
    {steps : List (Nat × Step K)} {past : List (Entry K ε)}
    (kept : ∀ {step s w t v es past}, Move c step s w t v es → I s w past → I t v (past ++ es))
    (holds : I s w past) :
    ∃ t, (runSteps c steps s w).Meant t ∧
      I t (runSteps c steps s w).world (past ++ (runSteps c steps s w).trace) :=
  runSteps_meant (G := fun _ _ => True) (fun _ moves before => moves.preserve kept before)
    (guarded_of_forall fun _ _ _ => trivial) holds

/-- What every move preserves holds at the end of every run that does not crash. -/
theorem runSteps_preserve {I : State K → ω → List (Entry K ε) → Prop}
    {steps : List (Nat × Step K)} {past : List (Entry K ε)}
    (kept : ∀ {step s w t v es past}, Move c step s w t v es → I s w past → I t v (past ++ es))
    (ok : (runSteps c steps s w).crash = none) (holds : I s w past) :
    I (runSteps c steps s w).state (runSteps c steps s w).world
      (past ++ (runSteps c steps s w).trace) :=
  runSteps_guarded (G := fun _ _ => True) (fun _ moves before => moves.preserve kept before)
    (guarded_of_forall fun _ _ _ => trivial) ok holds

end Steps

section Composed
variable {c : Config K ω ε} {now : Nat} {key : ObjectKey} {object : K} {s : State K} {w : ω}

/-- Work at one time that is put together from callbacks and from work without any, begun with
these timers. -/
inductive Run.Composed (c : Config K ω ε) (now : Nat) :
    Run K ω ε → TimerWheel (Retry K) → Prop where
  | silent {s : State K} {w : ω} {es : List (Entry K ε)}
      (none : es.filterMap Entry.attempt? = []) : Composed c now ⟨s, w, es, Option.none⟩ s.retries
  | call {op : Operation} {key : ObjectKey} {object : K} {requeues : Nat} {s : State K} {w : ω} :
      Composed c now (attempt c now op key object requeues s w) s.retries
  | after {r : Run K ω ε} {es : List (Entry K ε)} {queue : TimerWheel (Retry K)}
      (none : es.filterMap Entry.attempt? = []) (later : Composed c now r queue) :
      Composed c now (r.after es) queue
  | andThen {r : Run K ω ε} {next : State K → ω → Run K ω ε} {queue : TimerWheel (Retry K)}
      (first : Composed c now r queue) (rest : ∀ t v, Composed c now (next t v) t.retries) :
      Composed c now (r.andThen next) queue
  | turned {r : Run K ω ε} {queue later : TimerWheel (Retry K)}
      (turned : TimerWheel.Turned now queue later) (work : Composed c now r later) :
      Composed c now r queue

theorem composed_apply : (apply c now object key s w).Composed c now s.retries := by
  unfold apply
  cases s.cache.get? key with
  | none => exact .call
  | some old =>
    cases equivalent : c.equivalent old object with
    | true =>
      simp only [equivalent, if_true]
      exact .silent rfl
    | false =>
      simp only [equivalent, Bool.false_eq_true, if_false]
      exact .call

theorem composed_sweep (keys : List ObjectKey) :
    (sweep c now keys s w).Composed c now s.retries := by
  induction keys generalizing s w with
  | nil => exact .silent rfl
  | cons key rest ih =>
    unfold sweep
    cases s.cache.get? key with
    | none => exact ih
    | some object =>
      refine .andThen ?_ fun _ _ => ih
      exact .after rfl .call

theorem composed_finishRelist {order : SweepOrder} :
    (finishRelist c now order s w).Composed c now s.retries := by
  unfold finishRelist
  refine .andThen ?_ fun _ _ => .silent rfl
  cases s.relist with
  | none => exact .silent rfl
  | some seen => exact composed_sweep _

theorem composed_retry {r : Retry K} : (retry c now r s w).Composed c now s.retries := by
  by_cases delete : r.operation = .delete
  · rw [retry_of_delete delete]
    cases s.cache.get? r.key with
    | none => exact .call
    | some latest => exact .silent rfl
  · rw [retry_of_keep delete]
    cases s.cache.get? r.key with
    | none => exact .silent rfl
    | some latest => exact .call

theorem composed_fire {index : Nat} : (fire c now index s w).Composed c now s.retries := by
  unfold fire
  cases s.retries.toList[index]? with
  | none => exact .silent rfl
  | some r => exact .turned (TimerWheel.turned_eraseIdx now index s.retries) composed_retry

theorem composed_step [Watched K] (step : Step K) :
    (WatchLoop.step c now s w step).Composed c now s.retries := by
  cases step with
  | poll => exact .turned (TimerWheel.turned_poll now s.retries) (.silent rfl)
  | fire index => exact composed_fire
  | event order event =>
    cases event with
    | init => exact .silent rfl
    | initApply o => exact composed_apply
    | initDone => exact composed_finishRelist
    | apply o => exact composed_apply
    | delete o => exact .call

end Composed

section Content
variable {c : Config K ω ε} {now : Nat} {op : Operation} {key : ObjectKey} {object : K}
  {requeues index : Nat} {s t : State K} {w v : ω} {es : List (Entry K ε)}

/-- No callback ever asks to be run again. -/
def Config.Content (c : Config K ω ε) : Prop :=
  ∀ op object requeues w, (c.callback op object requeues w).requeue = false

theorem Config.Content.attempt (content : c.Content) :
    WatchLoop.attempt c now op key object requeues s w =
      ⟨s, (c.callback op object requeues w).world,
        [.attempt (c.made op key object requeues w)], none⟩ := by
  have answer : (c.made op key object requeues w).requeue = false := content ..
  rw [attempt_eq, answer]
  simp only [Bool.false_eq_true, if_false]

theorem Called.settled_of_content (content : c.Content)
    (called : Called c op key object requeues s w t v es) :
    t = s ∧ v = (c.callback op object requeues w).world ∧
      es = [.attempt (c.made op key object requeues w)] := by
  have answer : (c.made op key object requeues w).requeue = false := content ..
  cases called with
  | settled => exact ⟨rfl, rfl, rfl⟩
  | dropped asked | requeued asked =>
    rw [answer] at asked
    contradiction

theorem Run.crash_andThen {r : Run K ω ε} {next : State K → ω → Run K ω ε} (ok : r.crash = none)
    (later : ∀ t v, (next t v).crash = none) : (r.andThen next).crash = none := by
  rw [Run.andThen_of_crash_none ok]
  exact later _ _

theorem Config.Content.crash_none (content : c.Content) {r : Run K ω ε}
    {queue : TimerWheel (Retry K)} (composed : r.Composed c now queue) : r.crash = none := by
  induction composed with
  | silent => rfl
  | call => rw [content.attempt]
  | after _ _ ih => exact ih
  | andThen _ _ first rest => exact Run.crash_andThen first rest
  | turned _ _ ih => exact ih

/-- A loop whose callbacks never ask to be run again does not crash. -/
theorem Config.Content.runSteps [Watched K] (content : c.Content) (steps : List (Nat × Step K)) :
    (WatchLoop.runSteps c steps s w).crash = none := by
  induction steps generalizing s w with
  | nil => rfl
  | cons first rest ih =>
    exact Run.crash_andThen (content.crash_none (composed_step _)) fun _ _ => ih

end Content

end GatewayEvents.WatchLoop
