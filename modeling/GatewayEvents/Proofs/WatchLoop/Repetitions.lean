import GatewayEvents.Proofs.WatchLoop.Accounting
import GatewayEvents.Proofs.WatchLoop.FirstAttempts
import GatewayEvents.Proofs.WatchLoop.Rows

/-! What a queued retry repeats, and when it is made. A retry ends a row of callbacks about its
object that begins with a first one, each asked to be run again (`Chain`). When it fires, it is
made exactly if the object is kept or not, as it was right after that first one: nothing tells
the life of the object in which the row began from a later one, so a creation is repeated for an
object that went and came back, and a deletion for one that came back and went. -/
namespace GatewayEvents.WatchLoop

variable {K ω ε : Type} {c : Config K ω ε} {now index : Nat} {op : Operation} {key : ObjectKey}
  {object : K} {requeues : Nat} {s t u : State K} {w v : ω} {es past : List (Entry K ε)}
  {r : Retry K} {a : Attempt K ε} {after : State K}

section Chains

/-- Every queued retry ends a chain of callbacks. -/
theorem chained_runSteps [Watched K] {steps : List (Nat × Step K)} {start : Nat}
    (ok : (runSteps c steps (.initial start) w).crash = none) :
    ∀ r ∈ (runSteps c steps (.initial start) w).state.retries.toList, ∃ chain,
      chain.Sublist (attemptsIn (runSteps c steps (.initial start) w).trace) ∧ Chain r chain := by
  intro r member
  obtain ⟨rows, arranged⟩ := inRows_runSteps ok
  obtain ⟨x, among, next⟩ := List.mem_filterMap.mp (arranged.queued.mem_iff.mpr member)
  exact ⟨x.made, (arranged.sound x among).among, (arranged.sound x among).repeats r next⟩

end Chains

section Firing

/-- A retry that fires is made if what is kept fits it, with the object kept. -/
theorem fire_cases (c : Config K ω ε) (now : Nat) (w : ω)
    (found : s.retries.toList[index]? = some r) :
    (¬ (r.operation = .delete ↔ s.cache.get? r.key = none) ∧
      attemptsIn (fire c now index s w).trace = []) ∨
    ∃ object, (r.operation = .delete ↔ s.cache.get? r.key = none) ∧
      (if r.operation = .delete then object = r.object else s.cache.get? r.key = some object) ∧
      attemptsIn (fire c now index s w).trace =
        [c.made r.operation r.key object r.requeues w] := by
  have fired : fire c now index s w = retry c now r (s.take index) w := by
    simp only [fire, found]
    rfl
  rw [fired]
  by_cases delete : r.operation = .delete
  · rw [retry_of_delete delete, State.cache_take]
    cases known : s.cache.get? r.key with
    | some _ => exact .inl ⟨by simp [delete], rfl⟩
    | none =>
      refine .inr ⟨r.object, by simp [delete], by rw [if_pos delete], ?_⟩
      rw [delete]
      exact attemptsIn_attempt
  · rw [retry_of_keep delete, State.cache_take]
    cases known : s.cache.get? r.key with
    | some latest =>
      exact .inr ⟨latest, by simp [delete], by rw [if_neg delete], attemptsIn_attempt⟩
    | none => exact .inl ⟨by simp [delete], rfl⟩

end Firing

section Begun
variable [Watched K] {steps : List (Nat × Step K)}

/-- The callback is made in a run of these steps, and its step leaves this state behind. -/
def Makes (c : Config K ω ε) (a : Attempt K ε) (after : State K) :
    List (Nat × Step K) → State K → ω → Prop
  | [], _, _ => False
  | (now, first) :: rest, s, w =>
    let r := step c now s w first
    (a ∈ attemptsIn r.trace ∧ r.state = after) ∨ Makes c a after rest r.state r.world

theorem makes_of_mem (ok : (runSteps c steps s w).crash = none)
    (member : a ∈ attemptsIn (runSteps c steps s w).trace) :
    ∃ after, Makes c a after steps s w := by
  induction steps generalizing s w with
  | nil => cases member
  | cons entry rest ih =>
    obtain ⟨now, first⟩ := entry
    have fine : (WatchLoop.step c now s w first).crash = none := Run.crash_none_of_andThen ok
    unfold runSteps at ok member
    rw [Run.andThen_of_crash_none fine] at ok member
    rw [Run.trace_after, attemptsIn_append] at member
    rcases List.mem_append.mp member with here | later
    · exact ⟨_, .inl ⟨here, rfl⟩⟩
    · obtain ⟨after, makes⟩ := ih ok later
      exact ⟨after, .inr makes⟩

/-- Right after a first callback its object is kept, unless it was deleted. -/
theorem presence_of_makes (repeating : Repeating s) (ok : (runSteps c steps s w).crash = none)
    (makes : Makes c a after steps s w) (first : a.requeues = 0) :
    after.cache.get? a.key = none ↔ a.operation = .delete := by
  induction steps generalizing s w with
  | nil => cases makes
  | cons entry rest ih =>
    obtain ⟨now, step⟩ := entry
    have fine : (WatchLoop.step c now s w step).crash = none := Run.crash_none_of_andThen ok
    unfold runSteps at ok
    rw [Run.andThen_of_crash_none fine] at ok
    rcases makes with ⟨member, rfl⟩ | later
    · have change := mem_changesIn member first
      cases step with
      | event order event =>
        obtain ⟨view, told⟩ := follows_handleIn fine
        have presence := View.presence (told.mem_iff.mp change)
        rwa [← view] at presence
      | poll => cases change
      | fire index =>
        rw [WatchLoop.step, changesIn_fire repeating] at change
        cases change
    · exact ih ((moves_step fine).repeating repeating) ok later

/-- A queued retry goes back to a first callback. When it fires, it is made exactly if its object is
kept or not as it was right after that callback, whatever happened in between. -/
theorem retry_made_iff_presence_as_begun (c : Config K ω ε) (steps : List (Nat × Step K))
    (start now index : Nat) (w : ω) (r : Retry K) :
    let run := runSteps c steps (.initial start) w
    let fired := fire c now index run.state run.world
    run.crash = none → run.state.retries.toList[index]? = some r →
    (∃ begun rest after, begun.requeues = 0 ∧ Chain r (begun :: rest) ∧
      (begun :: rest).Sublist (attemptsIn run.trace) ∧
      Makes c begun after steps (.initial start) w) ∧
    (∀ begun after, Makes c begun after steps (.initial start) w → begun.requeues = 0 →
      begun.operation = r.operation → begun.key = r.key →
      (attemptsIn fired.trace ≠ [] ↔
        run.state.cache.contains r.key = after.cache.contains r.key)) ∧
    ∀ a ∈ attemptsIn fired.trace, a.operation = r.operation ∧ a.key = r.key ∧
      a.requeues = r.requeues ∧
      if r.operation = .delete then a.object = r.object
      else run.state.cache.get? r.key = some a.object := by
  intro run fired ok found
  have queued : r ∈ run.state.retries.toList := List.mem_of_getElem? found
  have repeating : Repeating (.initial start : State K) := repeating_initial start
  refine ⟨?_, fun begun after makes first operation key => ?_, fun a member => ?_⟩
  · obtain ⟨chain, among, led⟩ := chained_runSteps ok r queued
    have count := led.counted
    have positive : 0 < r.requeues := repeating_runSteps ok r queued
    cases chain with
    | nil => simp [List.range_eq_nil, positive.ne'] at count
    | cons begun rest =>
      obtain ⟨after, makes⟩ := makes_of_mem ok (among.subset List.mem_cons_self)
      refine ⟨begun, rest, after, ?_, led, among, makes⟩
      have head := congrArg List.head? count
      simpa [List.head?_range, positive.ne'] using head
  · have presence := presence_of_makes repeating ok makes first
    rw [key, operation] at presence
    have same : run.state.cache.contains r.key = after.cache.contains r.key ↔
        (r.operation = .delete ↔ run.state.cache.get? r.key = none) := by
      rw [← presence, Table.contains, Table.contains]
      cases run.state.cache.get? r.key <;> cases after.cache.get? r.key <;> simp
    rw [same]
    rcases fire_cases c now run.world found with ⟨unfit, silent⟩ | ⟨object, fits, -, made⟩
    · exact iff_of_false (fun told => told silent) unfit
    · exact iff_of_true (fun silent => by simp [fired, made] at silent) fits
  · rcases fire_cases c now run.world found with ⟨-, silent⟩ | ⟨object, -, given, made⟩
    · simp [fired, silent] at member
    · simp only [fired, made, List.mem_singleton] at member
      subst member
      exact ⟨rfl, rfl, rfl, given⟩

end Begun

section Examples

/-- The creation of an object is repeated although the object went in between, and its deletion
although the object came back in between. -/
theorem retry_of_earlier_life_made :
    let shown : Nat × Step Node := (0, .event .asKept (.apply (bareNode "a")))
    let deleted : Nat × Step Node := (0, .event .asKept (.delete (bareNode "a")))
    let run := fun steps => runSteps (answering {}) steps (.initial 0) [true]
    let kept := fun steps => (run steps).state.cache.contains ⟨"a", none⟩
    let queued := fun steps =>
      (run steps).state.retries.toList.map fun r => (r.operation, r.requeues)
    let made := fun steps =>
      (attemptsIn (fire (answering {}) 5 0 (run steps).state (run steps).world).trace).map
        fun a => (a.operation, a.requeues)
    (queued [shown] = [(.create, 1)] ∧ kept [shown] = true ∧ kept [shown, deleted] = false ∧
      queued [shown, deleted, shown] = [(.create, 1)] ∧
      made [shown, deleted, shown] = [(.create, 1)]) ∧
    queued [deleted] = [(.delete, 1)] ∧ kept [deleted] = false ∧
      kept [deleted, shown] = true ∧ queued [deleted, shown, deleted] = [(.delete, 1)] ∧
      made [deleted, shown, deleted] = [(.delete, 1)] := by
  intro shown deleted run kept queued made
  decide

/-- The creation is as it was begun, the object being kept again, so it is repeated. -/
theorem creation_made_again_after_return :
    let steps : List (Nat × Step Node) := [(0, .event .asKept (.apply (bareNode "a"))),
      (0, .event .asKept (.delete (bareNode "a"))), (0, .event .asKept (.apply (bareNode "a")))]
    let run := runSteps (answering {}) steps (.initial 0) [true]
    let r : Retry Node := ⟨.create, ⟨"a", none⟩, (bareNode "a").object, 1⟩
    run.crash = none ∧ run.state.retries.toList[0]? = some r ∧
      attemptsIn (fire (answering {}) 5 0 run.state run.world).trace ≠ [] := by
  intro steps run r
  have ok : run.crash = none := by decide
  have found : run.state.retries.toList[0]? = some r := by rfl
  refine ⟨ok, found, ?_⟩
  obtain ⟨-, presence, -⟩ :=
    retry_made_iff_presence_as_begun (answering {}) steps 0 5 0 _ r ok found
  have makes : Makes (answering {}) ⟨.create, ⟨"a", none⟩, (bareNode "a").object, 0, true, []⟩ _
      steps (.initial 0) [true] := .inl ⟨List.mem_singleton_self _, rfl⟩
  exact (presence _ _ makes rfl rfl rfl).mpr (by decide)

end Examples

end GatewayEvents.WatchLoop
