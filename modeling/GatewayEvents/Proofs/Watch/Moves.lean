import GatewayEvents.Proofs.WatchLoop.FirstAttempts
import GatewayEvents.Watch

/-! What a watch that was spawned can do, said once. Whatever reaches it, it does nothing but a row
of moves (`made_launch`, `made_take`, `made_ring`, `made_halt`). A move takes in at most one watch
event, and only while the watch runs. -/
namespace GatewayEvents

namespace WatchLoop

section Synced
variable {K ω ε : Type} {c : Config K ω ε} {now : Nat} {s : State K} {w : ω}

theorem synced_andThen {r : Run K ω ε} {next : State K → ω → Run K ω ε} {b : Bool}
    (first : r.state.synced = b) (rest : ∀ t v, t.synced = b → (next t v).state.synced = b) :
    (r.andThen next).state.synced = b := by
  unfold Run.andThen
  split
  · exact first
  · exact rest _ _ first

theorem synced_sweep (keys : List ObjectKey) :
    (sweep c now keys s w).state.synced = s.synced := by
  induction keys generalizing s w with
  | nil => rfl
  | cons key rest ih =>
    unfold sweep
    cases s.cache.get? key with
    | none => exact ih
    | some object =>
      exact synced_andThen (congrArg View.synced view_attempt) fun t v same => ih.trans same

/-- The end of a relist is what syncs a loop, unless the loop crashes over it. -/
theorem synced_finishRelist (order : SweepOrder) :
    (finishRelist c now order s w).state.synced =
      if (finishRelist c now order s w).crash = none then true else s.synced := by
  unfold finishRelist
  have swept : ∀ seen,
      (sweep c now (order.arrange (unseen s seen)) { s with relist := none } w).state.synced =
        s.synced := fun seen => synced_sweep _
  unfold Run.andThen
  cases s.relist with
  | none => rfl
  | some seen =>
    cases ended :
        (sweep c now (order.arrange (unseen s seen)) { s with relist := none } w).crash with
    | none => simp [ended, markSynced]
    | some crash => simp [ended, swept]

/-- Nothing else changes whether a loop has synced. -/
theorem synced_step [Watched K] (step : Step K) (other : step.event? ≠ some .initDone) :
    (WatchLoop.step c now s w step).state.synced = s.synced := by
  cases step with
  | poll => rfl
  | fire index => exact congrArg View.synced view_fire
  | event order event =>
    have applied : ∀ (o : Keyed K) (t : State K),
        (apply c now o.object o.key t w).state.synced = t.synced := by
      intro o t
      unfold apply
      cases t.cache.get? o.key with
      | none => exact congrArg View.synced view_attempt
      | some old =>
        dsimp only
        split
        · rfl
        · exact congrArg View.synced view_attempt
    cases event with
    | init => rfl
    | initApply o => exact applied o _
    | initDone => exact absurd rfl other
    | apply o => exact applied o s
    | delete o => exact congrArg View.synced view_attempt

end Synced
end WatchLoop

namespace Watch
variable {K ω ε : Type}

theorem isRunning_iff {w : Watch K ω ε} : w.isRunning = true ↔ w.phase = .running := by
  simp [isRunning]

theorem hasStopped_iff {w : Watch K ω ε} : w.hasStopped = true ↔ w.phase = .stopped := by
  simp [hasStopped]

/-- The last word of a watch. -/
def Entry.IsFinal : Entry K ε → Prop
  | .ended | .stopping | .crashed _ => True
  | _ => False

/-- One thing that a watch can do at a time: what it leaves in the trace, which watch events its
loop takes in by it, and where it stands then. -/
inductive Move [Watched K] (now : Nat) (w : Watch K ω ε) :
    List (Entry K ε) → List (WatchEvent (Keyed K)) → Watch K ω ε → Prop where
  | launched (spawned : w.phase = .spawned) : Move now w [.starting] [] { w with phase := .running }
  | handled {event order world run} (runs : w.phase = .running)
      (done : WatchLoop.step w.config now w.loop world (.event order event) = run)
      (whole : run.crash = none) :
      Move now w (run.trace.map .loop ++ if run.state.synced && !w.signalled then [.synced] else [])
        [event] { w with loop := run.state, signalled := w.signalled || run.state.synced }
  | rang {step world run} (runs : w.phase = .running)
      (done : WatchLoop.step w.config now w.loop world step = run) (quiet : step.event? = none)
      (whole : run.crash = none) :
      Move now w (run.trace.map .loop) [] { w with loop := run.state }
  | told (message : String) (runs : w.phase = .running) : Move now w [.failed message] [] w
  | stopped {work : List (WatchLoop.Entry K ε)} {last : Entry K ε} (runs : w.phase = .running)
      (final : last.IsFinal) : Move now w (work.map .loop ++ [last]) [] w.stop

inductive Moves [Watched K] (now : Nat) :
    Watch K ω ε → List (Entry K ε) → List (WatchEvent (Keyed K)) → Watch K ω ε → Prop where
  | none {w} : Moves now w [] [] w
  | cons {w v u es fs events later} (first : Move now w es events v)
      (rest : Moves now v fs later u) : Moves now w (es ++ fs) (events ++ later) u

def Reaction.Made [Watched K] (now : Nat) (w : Watch K ω ε) (r : Reaction K ω ε) : Prop :=
  ∃ events, Moves now w r.trace events r.watch

section Rows
variable [Watched K] {now : Nat} {w v u : Watch K ω ε} {es : List (Entry K ε)}
  {events : List (WatchEvent (Keyed K))}

theorem Move.silently {last : Entry K ε} (runs : w.phase = .running) (final : last.IsFinal) :
    Move now w [last] [] w.stop :=
  @Move.stopped K ω ε _ now w [] last runs final

theorem Moves.single (move : Move now w es events v) : Moves now w es events v := by
  simpa using Moves.cons move .none

theorem Move.config (move : Move now w es events v) : v.config = w.config := by
  cases move <;> rfl

theorem Move.awake (move : Move now w es events v) : w.phase = .spawned ∨ w.phase = .running := by
  cases move with
  | launched spawned => exact .inl spawned
  | handled runs | rang runs | told _ runs | stopped runs => exact .inr runs

theorem Move.begun (move : Move now w es events v) : v.phase ≠ .idle := by
  cases move with
  | launched | stopped => exact Phase.noConfusion
  | handled runs | rang runs | told _ runs =>
    intro idle
    rw [runs] at idle
    contradiction

/-- A watch that was not spawned, or has stopped, does nothing any more. -/
theorem Moves.rest (moves : Moves now w es events v) (spawned : w.phase ≠ .spawned)
    (runs : w.phase ≠ .running) : v = w ∧ es = [] ∧ events = [] := by
  cases moves with
  | none => exact ⟨rfl, rfl, rfl⟩
  | cons first => exact absurd first.awake (not_or.mpr ⟨spawned, runs⟩)

theorem Moves.begun (moves : Moves now w es events v) (begun : w.phase ≠ .idle) :
    v.phase ≠ .idle := by
  induction moves with
  | none => exact begun
  | cons first _ ih => exact ih first.begun

end Rows

section Made
variable [Watched K] {now : Nat} {w : Watch K ω ε} {world : ω}

theorem made_rest : (⟨w, world, []⟩ : Reaction K ω ε).Made now w := ⟨[], .none⟩

theorem made_launch : (w.launch world).Made now w := by
  unfold launch
  split
  next spawned => exact ⟨[], .single (.launched spawned)⟩
  next => exact made_rest

theorem made_of_crash (runs : w.phase = .running) {run : WatchLoop.Run K ω ε}
    {crash : WatchLoop.Crash} (failed : run.crash = some crash) : (w.adopt run).Made now w := by
  have stops : w.adopt run = ⟨w.stop, run.world, run.trace.map .loop ++ [.crashed crash]⟩ := by
    rw [adopt, failed]
  rw [stops]
  exact ⟨[], .single (.stopped runs trivial)⟩

theorem made_handle (order : WatchLoop.SweepOrder) (event : WatchEvent K)
    (runs : w.phase = .running) : (handle now order event w world).Made now w := by
  unfold handle
  cases event.keyed? with
  | none => exact ⟨[], .single (.silently runs trivial)⟩
  | some event =>
    dsimp only
    cases ended : (WatchLoop.handleIn w.config now order event w.loop world).crash with
    | none =>
      have done : WatchLoop.step w.config now w.loop world (.event order event) =
          WatchLoop.handleIn w.config now order event w.loop world := rfl
      have move := Move.handled runs done ended
      refine ⟨[event], .single ?_⟩
      unfold Reaction.signal adopt
      simp only [ended]
      cases synced : (WatchLoop.handleIn w.config now order event w.loop world).state.synced <;>
        cases signalled : w.signalled <;>
        simpa [synced, signalled] using move
    | some crash =>
      -- the loop is dropped by the crash, so there is nothing left to signal
      have silent : (w.adopt (WatchLoop.handleIn w.config now order event w.loop world)).signal =
          w.adopt (WatchLoop.handleIn w.config now order event w.loop world) := by
        simp [Reaction.signal, adopt, ended, stop, WatchLoop.State.initial]
      rw [silent]
      exact made_of_crash runs ended

theorem made_take (order : WatchLoop.SweepOrder) (item : Item K) :
    (take now order item w world).Made now w := by
  unfold take
  split
  next running =>
    have runs : w.phase = .running := isRunning_iff.mp running
    cases item with
    | event event => exact made_handle order event runs
    | error message => exact ⟨[], .single (.told message runs)⟩
    | ended => exact ⟨[], .single (.silently runs trivial)⟩
  next => exact made_rest

theorem made_ring : (ring now w world).Made now w := by
  unfold ring
  split
  next running =>
    have runs : w.phase = .running := isRunning_iff.mp running
    let rung : Watch K ω ε := { w with
      loop := { w.loop with retries := (w.loop.retries.poll now).1 } }
    have poll : WatchLoop.step w.config now w.loop world .poll = ⟨rung.loop, world, [], none⟩ := rfl
    have polled : Move now w [] [] rung := .rang runs poll rfl rfl
    dsimp only
    cases (w.loop.retries.poll now).2 with
    | none => exact ⟨[], .single polled⟩
    | some index =>
      have fired : (w.adopt (WatchLoop.fire w.config now index rung.loop world)).Made now rung := by
        cases ended : (WatchLoop.fire w.config now index rung.loop world).crash with
        | none =>
          simp only [adopt, ended]
          have fire : WatchLoop.step rung.config now rung.loop world (.fire index) =
              WatchLoop.fire w.config now index rung.loop world := rfl
          exact ⟨[], .single (.rang runs fire rfl ended)⟩
        | some crash => exact made_of_crash (w := rung) runs ended
      obtain ⟨events, moves⟩ := fired
      exact ⟨events, .cons polled moves⟩
  next => exact made_rest

theorem made_halt : (w.halt world).Made now w := by
  unfold halt
  split
  next running =>
    exact ⟨[], .single (.silently (isRunning_iff.mp running) trivial)⟩
  next => exact made_rest

end Made
end Watch
end GatewayEvents
