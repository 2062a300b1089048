import GatewayEvents.Proofs.WatchLoop.Accounting
import GatewayEvents.Proofs.WatchLoop.FirstAttempts
import GatewayEvents.Proofs.WatchLoop.Objects

/-! Callbacks are never stale. `momentsIn` follows a run and notes each callback together with
the state in which the loop makes it (`Run.Performs`): a creation or an update is given just the
object that is kept then, a deletion is made when none is kept (`Moment.Fits`). What is kept can
change afterwards without a callback, by updates that are filtered out; under a transitive
equivalence it stays equivalent to what was last told (`Current`). All this holds up to the
callback in which a loop crashes, if it does. -/
namespace GatewayEvents.WatchLoop

variable {K ω ε : Type}

/-- A callback that is about to be made, with the loop and the world as they are then. -/
structure Moment (K ω : Type) where
  operation : Operation
  key : ObjectKey
  object : K
  requeues : Nat
  state : State K
  world : ω

def Moment.made (c : Config K ω ε) (m : Moment K ω) : Attempt K ε :=
  c.made m.operation m.key m.object m.requeues m.world

def Moment.run (c : Config K ω ε) (now : Nat) (m : Moment K ω) : Run K ω ε :=
  attempt c now m.operation m.key m.object m.requeues m.state m.world

/-- The callback is given the object that is kept, or deletes one that is not. -/
def Moment.Fits (m : Moment K ω) : Prop :=
  m.state.cache.get? m.key = if m.operation = .delete then none else some m.object

def Run.onward (r : Run K ω ε) (later : State K → ω → List (Moment K ω)) : List (Moment K ω) :=
  match r.crash with
  | some _ => []
  | none => later r.state r.world

section Moments
variable (c : Config K ω ε) (now : Nat)

def momentOfApply? (object : K) (key : ObjectKey) (s : State K) (w : ω) : Option (Moment K ω) :=
  let kept := { s with cache := s.cache.insert key object }
  match s.cache.get? key with
  | none => some ⟨.create, key, object, 0, kept, w⟩
  | some old => if c.equivalent old object then none else some ⟨.update, key, object, 0, kept, w⟩

def momentsOfSweep : List ObjectKey → State K → ω → List (Moment K ω)
  | [], _, _ => []
  | key :: rest, s, w =>
    match s.cache.get? key with
    | none => momentsOfSweep rest s w
    | some object =>
      let m : Moment K ω := ⟨.delete, key, object, 0, { s with cache := s.cache.erase key }, w⟩
      m :: (m.run c now).onward (momentsOfSweep rest)

def momentOfQueued? (r : Retry K) (s : State K) (w : ω) : Option (Moment K ω) :=
  match r.operation, s.cache.get? r.key with
  | .delete, some _ => none
  | .delete, none => some ⟨.delete, r.key, r.object, r.requeues, s, w⟩
  | op, some latest => some ⟨op, r.key, latest, r.requeues, s, w⟩
  | _, none => none

variable [Watched K]

def momentsOfStep (s : State K) (w : ω) : Step K → List (Moment K ω)
  | .event _ .init => []
  | .event _ (.initApply o) => (momentOfApply? c o.object o.key (markSeen o.key s) w).toList
  | .event order .initDone =>
    match s.relist with
    | none => []
    | some seen => momentsOfSweep c now (order.arrange (unseen s seen)) { s with relist := none } w
  | .event _ (.apply o) => (momentOfApply? c o.object o.key s w).toList
  | .event _ (.delete o) =>
    [⟨.delete, o.key, o.object, 0, { s with cache := s.cache.erase o.key }, w⟩]
  | .poll => []
  | .fire index =>
    match s.retries.toList[index]? with
    | none => []
    | some r => (momentOfQueued? r { s with retries := s.retries.eraseIdx index } w).toList

def momentsIn : List (Nat × Step K) → State K → ω → List (Moment K ω)
  | [], _, _ => []
  | (now, first) :: rest, s, w =>
    momentsOfStep c now s w first ++ (step c now s w first).onward (momentsIn rest)

end Moments

/-- The run is made up of the callbacks of these moments, each with the loop as it stands then,
and of work that makes none. -/
inductive Run.Performs (c : Config K ω ε) : Run K ω ε → List (Moment K ω) → Prop
  | silent {r : Run K ω ε} (none : attemptsIn r.trace = []) : Performs c r []
  | call (now : Nat) (m : Moment K ω) : Performs c (m.run c now) [m]
  | andThen {r : Run K ω ε} {moments : List (Moment K ω)} {next : State K → ω → Run K ω ε}
      {later : State K → ω → List (Moment K ω)} (first : Performs c r moments)
      (rest : ∀ t v, Performs c (next t v) (later t v)) :
      Performs c (r.andThen next) (moments ++ r.onward later)

/-- The run makes its callbacks at these moments, and none of them is stale. -/
structure Run.At (c : Config K ω ε) (r : Run K ω ε) (moments : List (Moment K ω)) : Prop where
  performs : r.Performs c moments
  fits : ∀ m ∈ moments, m.Fits

variable {c : Config K ω ε} {now : Nat} {op : Operation} {key : ObjectKey} {object : K}
  {s : State K} {w : ω} {past : List (Entry K ε)}

theorem Run.Performs.made {r : Run K ω ε} {moments : List (Moment K ω)}
    (performs : r.Performs c moments) : attemptsIn r.trace = moments.map (Moment.made c) := by
  induction performs with
  | silent none => exact none
  | call now m => exact attemptsIn_attempt
  | @andThen r moments next later _ _ first rest =>
    cases crash : r.crash with
    | some _ =>
      rw [Run.andThen_of_refused crash]
      simpa only [Run.onward, crash, List.append_nil] using first
    | none =>
      rw [Run.andThen_of_crash_none crash, Run.trace_after, attemptsIn_append, first, rest]
      simp only [Run.onward, crash, List.map_append]

theorem Run.at_nil {r : Run K ω ε} (silent : attemptsIn r.trace = []) : r.At c [] where
  performs := .silent silent
  fits _ member := by cases member

theorem Moment.run_at (c : Config K ω ε) (now : Nat) (m : Moment K ω) (fits : m.Fits) :
    (m.run c now).At c [m] where
  performs := .call now m
  fits _ member := List.mem_singleton.mp member ▸ fits

theorem Run.At.andThen {r : Run K ω ε} {moments : List (Moment K ω)}
    {next : State K → ω → Run K ω ε} {later : State K → ω → List (Moment K ω)}
    (first : r.At c moments) (rest : ∀ t v, (next t v).At c (later t v)) :
    (r.andThen next).At c (moments ++ r.onward later) where
  performs := first.performs.andThen fun t v => (rest t v).performs
  fits m member := by
    rcases List.mem_append.mp member with before | after
    · exact first.fits m before
    · unfold Run.onward at after
      split at after
      · cases after
      · exact (rest r.state r.world).fits m after

/-- Work without callbacks adds no moments. -/
theorem Run.At.settled {r : Run K ω ε} {moments : List (Moment K ω)}
    {next : State K → ω → Run K ω ε} (first : r.At c moments)
    (silent : ∀ t v, attemptsIn (next t v).trace = []) : (r.andThen next).At c moments := by
  have rest : ∀ t v, (next t v).At c [] := fun t v => Run.at_nil (silent t v)
  have nothing : r.onward (fun _ _ => ([] : List (Moment K ω))) = [] := by
    unfold Run.onward
    split <;> rfl
  simpa only [nothing, List.append_nil] using first.andThen rest

theorem Run.At.after {r : Run K ω ε} {moments : List (Moment K ω)} {es : List (Entry K ε)}
    (silent : attemptsIn es = []) (notes : r.At c moments) : (r.after es).At c moments := by
  have noted : (⟨r.state, r.world, es, none⟩ : Run K ω ε).At c [] := Run.at_nil silent
  have rest : ∀ (_ : State K) (_ : ω), r.At c moments := fun _ _ => notes
  exact noted.andThen rest

theorem apply_at : (apply c now object key s w).At c (momentOfApply? c object key s w).toList := by
  have kept : (s.cache.insert key object).get? key = some object := by
    rw [Table.get?_insert, if_pos rfl]
  unfold apply momentOfApply?
  cases s.cache.get? key with
  | none => exact Moment.run_at c now ⟨.create, key, object, 0, _, w⟩ kept
  | some old =>
    cases equivalent : c.equivalent old object with
    | true =>
      simp only [equivalent, if_true]
      exact Run.at_nil rfl
    | false =>
      simp only [equivalent, Bool.false_eq_true, if_false]
      exact Moment.run_at c now ⟨.update, key, object, 0, _, w⟩ kept

theorem fits_erased (key : ObjectKey) (object : K) (s : State K) (w : ω) :
    (⟨.delete, key, object, 0, { s with cache := s.cache.erase key }, w⟩ : Moment K ω).Fits := by
  rw [Moment.Fits, Table.get?_erase, if_pos rfl, if_pos rfl]

theorem sweep_at (keys : List ObjectKey) :
    (sweep c now keys s w).At c (momentsOfSweep c now keys s w) := by
  induction keys generalizing s w with
  | nil => exact Run.at_nil rfl
  | cons key rest ih =>
    unfold sweep momentsOfSweep
    cases s.cache.get? key with
    | none => exact ih
    | some object =>
      have first := Moment.run_at c now _ (fits_erased key object s w)
      exact (first.after rfl).andThen fun _ _ => ih

theorem retry_at (r : Retry K) : (retry c now r s w).At c (momentOfQueued? r s w).toList := by
  unfold retry momentOfQueued?
  cases known : s.cache.get? r.key with
  | none =>
    cases r.operation with
    | delete => exact Moment.run_at c now ⟨.delete, r.key, r.object, r.requeues, s, w⟩ known
    | create | update => exact Run.at_nil rfl
  | some latest =>
    cases r.operation with
    | delete => exact Run.at_nil rfl
    | create => exact Moment.run_at c now ⟨.create, r.key, latest, r.requeues, s, w⟩ known
    | update => exact Moment.run_at c now ⟨.update, r.key, latest, r.requeues, s, w⟩ known

section Runs
variable [Watched K] {steps : List (Nat × Step K)}

theorem step_at (step : Step K) :
    (WatchLoop.step c now s w step).At c (momentsOfStep c now s w step) := by
  cases step with
  | event order event =>
    cases event with
    | init => exact Run.at_nil rfl
    | initApply o => exact apply_at
    | initDone =>
      simp only [WatchLoop.step, handleIn, finishRelist, momentsOfStep]
      cases s.relist with
      | none => exact Run.at_nil rfl
      | some seen => exact (sweep_at _).settled fun _ _ => rfl
    | apply o => exact apply_at
    | delete o => exact Moment.run_at c _ _ (fits_erased o.key o.object s w)
  | poll => exact Run.at_nil rfl
  | fire index =>
    simp only [WatchLoop.step, fire, momentsOfStep]
    cases s.retries.toList[index]? with
    | none => exact Run.at_nil rfl
    | some r => exact retry_at r

theorem runSteps_at : (runSteps c steps s w).At c (momentsIn c steps s w) := by
  induction steps generalizing s w with
  | nil => exact Run.at_nil rfl
  | cons entry rest ih => exact (step_at entry.2).andThen fun _ _ => ih

end Runs

/-- The most recent creation or update of an object. -/
def lastShown (key : ObjectKey) (past : List (Entry K ε)) : Option (Attempt K ε) :=
  ((attemptsIn past).filter fun a => a.key = key ∧ a.operation ≠ .delete).getLast?

theorem lastShown_of_lastAttempt {a : Attempt K ε} (last : lastAttempt key past = some a)
    (keep : a.operation ≠ .delete) : lastShown key past = some a := by
  refine getLast?_filter_of_within last ?_ fun b _ shown => ?_
  · simp [(lastAttempt_mem last).2, keep]
  · simp only [decide_eq_true_eq] at shown ⊢
    exact shown.1

def Transits (equivalent : K → K → Bool) : Prop :=
  ∀ x y z, equivalent x y = true → equivalent y z = true → equivalent x z = true

/-- Each callback is made while the loop keeps the object that it is given, or none under its key if
it is a deletion. If the equivalence is transitive, a kept object was created or updated with the
object kept or one equivalent to it. -/
theorem callbacks_given_object_kept [Watched K] (c : Config K ω ε) (steps : List (Nat × Step K))
    (start : Nat) (w : ω) :
    let run := runSteps c steps (.initial start) w
    let moments := momentsIn c steps (.initial start) w
    (run.Performs c moments ∧ attemptsIn run.trace = moments.map (Moment.made c) ∧
      ∀ m ∈ moments,
        m.state.cache.get? m.key = if m.operation = .delete then none else some m.object) ∧
    (Transits c.equivalent → ∀ key object, run.state.cache.get? key = some object →
      ∃ a, lastShown key run.trace = some a ∧
        (a.object = object ∨ c.equivalent a.object object = true)) ∧
    Transits (Watched.sameVersion : K → K → Bool) ∧
    Transits (Watched.sameLabels : K → K → Bool) := by
  intro run moments
  have notes : run.At c moments := runSteps_at
  refine ⟨⟨notes.performs, notes.performs.made, notes.fits⟩, fun transitive key object found => ?_,
    Watched.sameVersion_trans, fun x y z first second => ?_⟩
  · obtain ⟨t, meant, current, account⟩ :
        ∃ t, run.Meant t ∧ Current c t run.trace ∧ ∀ k, Accounted c k t run.trace :=
      runSteps_preserve_meant (I := fun s _ past => Current c s past ∧ ∀ k, Accounted c k s past)
        (fun move before => ⟨move.effect.current transitive before.1, move.accounted before.2⟩)
        ⟨current_initial start, accounted_initial start⟩
    rw [← meant.cache] at found
    have told : lastAttempt key run.trace ≠ none := fun untouched =>
      Option.some_ne_none _ (found.symm.trans ((account key).untouched untouched))
    obtain ⟨a, last⟩ := Option.ne_none_iff_exists'.mp told
    have keep : a.operation ≠ .delete := fun delete =>
      Option.some_ne_none _ (found.symm.trans (((account key).kept a last).mp delete))
    exact ⟨a, lastShown_of_lastAttempt last keep, current key object a found last⟩
  · simp only [Watched.sameLabels, decide_eq_true_eq] at first second ⊢
    exact first.trans second

section Examples

def relabelled (labels : List (String × String)) : Keyed Node :=
  ⟨⟨{ name := some "a", resourceVersion := some "1", labels := some (.ofList labels) }⟩,
    ⟨"a", none⟩, rfl⟩

/-- A node is changed twice under one version: the creation is refused, its retry is given the
node as it is by then, and the second change is told to nobody. -/
theorem retried_creation_lags_behind :
    let c := answering (K := Node) {}
    let steps : List (Nat × Step Node) :=
      [(0, .event .asKept (.apply (relabelled []))),
        (1, .event .asKept (.apply (relabelled [("zone", "b")]))), (5, .fire 0),
        (6, .event .asKept (.apply (relabelled [("zone", "c")])))]
    let run := runSteps c steps (.initial 0) [true]
    Transits c.equivalent ∧
      (run.state.cache.get? ⟨"a", none⟩).map (·.metadata.labelMap.entries) =
        some [("zone", "c")] ∧
      (attemptsIn run.trace).map (·.object.metadata.labelMap.entries) = [[], [("zone", "b")]] ∧
      ∃ object a, run.state.cache.get? ⟨"a", none⟩ = some object ∧
        lastShown ⟨"a", none⟩ run.trace = some a ∧
        (a.object = object ∨ c.equivalent a.object object = true) := by
  intro c steps run
  obtain ⟨-, lag, transitive, -⟩ := callbacks_given_object_kept c steps 0 [true]
  have kept : (run.state.cache.get? ⟨"a", none⟩).map (·.metadata.labelMap.entries) =
      some [("zone", "c")] := by decide
  obtain ⟨object, found, -⟩ := Option.map_eq_some_iff.mp kept
  obtain ⟨a, told⟩ := lag transitive _ object found
  exact ⟨transitive, kept, by decide, object, a, found, told⟩

end Examples
end GatewayEvents.WatchLoop
