import GatewayEvents.Proofs.WatchLoop.Accounting
import GatewayEvents.Proofs.WatchLoop.Aspects
import GatewayEvents.Proofs.WatchLoop.Timers

/-! Objects do not disturb one another. Whatever else a loop is told, what it keeps of an object,
whether the relist has shown the object, and the retries and callbacks about it follow from the
acts that concern the object (`aspect_runSteps`). So a fresh loop that is given those acts alone
does the same about the object; and it can be given them, for it crashes at none of them
(`Shadows`). -/
namespace GatewayEvents.WatchLoop

variable {K ω ε : Type} [Watched K] {c : Config K ω ε} {now start : Nat} {key : ObjectKey}
  {objects mine : List (Keyed K)} {s t : State K} {w v origin : ω}
  {past former : List (Entry K ε)} {steps : List (Nat × Step K)}

/-- The second loop, for which no time has passed and which knows of one object only, stands with
that object where the first one does. -/
structure Shadows (objects mine : List (Keyed K)) (c : Config K ω ε) (origin : ω) (start : Nat)
    (key : ObjectKey) (s : State K) (w : ω) (past : List (Entry K ε)) (t : State K) (v : ω)
    (former : List (Entry K ε)) : Prop where
  full : Traced objects c origin s w past
  alone : Traced mine c origin t v former
  single : ∀ o ∈ mine, o.key = key
  same : aspect key t former = aspect key s past
  present : t.retries.origin = start
  timely : t.retries.Timely start

theorem exists_step_of_act? (same : aspect key t former = aspect key s past) {first : Step K}
    {a : Act K} (acted : first.act? key s = some a) :
    ∃ own : Step K, own.act? key t = some a ∧
      ∀ o, own.object? = some o → first.object? = some o ∧ o.key = key := by
  cases first with
  | poll => cases acted
  | event order reported =>
    rw [Step.act?] at acted
    obtain ⟨concerned, acted⟩ := Option.ite_none_right_eq_some.mp acted
    refine ⟨.event .asKept reported, (if_pos concerned).trans acted, fun o brought => ?_⟩
    cases reported with
    | init | initDone => cases brought
    | initApply p | apply p | delete p =>
      obtain rfl := Option.some.inj brought
      exact ⟨rfl, of_decide_eq_true concerned⟩
  | fire index =>
    cases found : s.retries.toList[index]? with
    | none => simp [Step.act?, found] at acted
    | some r =>
      rw [act?_fire found] at acted
      obtain ⟨here, acted⟩ := Option.ite_none_right_eq_some.mp acted
      have queued : queuedFor key t = queuedFor key s := congrArg Aspect.queued same
      have member : r ∈ queuedFor key t := by
        rw [queued, queuedFor_take key found, if_pos here]
        exact Multiset.mem_cons_self r _
      have among : r ∈ t.retries.toList := (List.mem_filter.mp (Multiset.mem_coe.mp member)).1
      obtain ⟨index, found⟩ := List.getElem?_of_mem among
      refine ⟨.fire index, ?_, fun o brought => by cases brought⟩
      rw [act?_fire found, if_pos here, acted]

/-- What the second loop was asked is within its reach, if what the first one was asked is. -/
theorem Traced.inReach (alone : Traced mine c origin t v former)
    (single : ∀ o ∈ mine, o.key = key) (same : aspect key t former = aspect key s past)
    (reach : ∀ a ∈ attemptsIn past, a.InReach c.policy) :
    ∀ a ∈ attemptsIn former, a.InReach c.policy := by
  intro a member
  obtain ⟨o, among, keyed, -⟩ := alone.told a member
  have told : (a.request, a.requeue) ∈ (aspect key t former).told :=
    List.mem_map.mpr ⟨a, List.mem_filter.mpr ⟨member, by simp [← keyed, single o among]⟩, rfl⟩
  rw [same] at told
  obtain ⟨b, told, equal⟩ := List.mem_map.mp told
  obtain ⟨request, requeue⟩ := Prod.mk.inj equal
  have requeues : b.requeues = a.requeues := congrArg Request.requeues request
  intro asked allowed
  rw [← requeues] at allowed ⊢
  exact reach b (List.mem_filter.mp told).1 (requeue.trans asked) allowed

/-- One step of the first loop is followed by one of the second, or by none. -/
theorem Shadows.step (now : Nat) (separate : c.Separate origin)
    (shadows : Shadows objects mine c origin start key s w past t v former) {first : Step K}
    (brought : ∀ o, first.object? = some o → o ∈ objects ∧ (o.key = key → o ∈ mine))
    (ok : (WatchLoop.step c now s w first).crash = none)
    (reach : ∀ a ∈ attemptsIn (past ++ (WatchLoop.step c now s w first).trace),
      a.InReach c.policy) :
    let next := WatchLoop.step c now s w first
    (first.act? key s = none ∧
      Shadows objects mine c origin start key next.state next.world (past ++ next.trace)
        t v former) ∨
    ∃ a own, first.act? key s = some a ∧ own.act? key t = some a ∧
      (WatchLoop.step c start t v own).crash = none ∧
      let answer := WatchLoop.step c start t v own
      Shadows objects mine c origin start key next.state next.world (past ++ next.trace)
        answer.state answer.world (former ++ answer.trace) := by
  intro next
  obtain ⟨full, alone, single, same, present, timely⟩ := shadows
  have leaves := leaves_step now key separate full first
    (fun o shown => (brought o shown).1) (.inl ok)
  obtain ⟨full, after⟩ := leaves.of_crash_none ok
  cases acted : first.act? key s with
  | none =>
    rw [acted] at after
    exact .inl ⟨rfl, full, alone, single, same.trans after.symm, present, timely⟩
  | some a =>
    rw [acted] at after
    obtain ⟨own, answered, given⟩ := exists_step_of_act? same acted
    have later := leaves_step start key separate alone own
      (fun o shown => (brought o (given o shown).1).2 (given o shown).2) (.inr single)
    rw [answered, same] at later
    have timed : (WatchLoop.step c start t v own).Timed c start t.retries :=
      (composed_step own).timed
    have whole : (WatchLoop.step c start t v own).crash = none := by
      obtain ⟨u, -, traced, agreed⟩ := later
      refine timed.whole timely present fun b member => ?_
      refine traced.inReach single (agreed.trans after.symm) reach b ?_
      rw [attemptsIn_append]
      exact List.mem_append_right _ member
    obtain ⟨alone, agreed⟩ := later.of_crash_none whole
    exact .inr ⟨a, own, rfl, answered, whole, full, alone, single, agreed.trans after.symm,
      timed.turned.origin.trans present, timed.turned.timely timely⟩

/-- The second loop can be given just the acts that concern the object in the first one. -/
theorem Shadows.exists_own (separate : c.Separate origin)
    (shadows : Shadows objects mine c origin start key s w past t v former)
    (brought : ∀ o ∈ broughtIn steps, o ∈ objects ∧ (o.key = key → o ∈ mine))
    (ok : (runSteps c steps s w).crash = none)
    (reach : ∀ a ∈ attemptsIn (past ++ (runSteps c steps s w).trace), a.InReach c.policy) :
    ∃ own, own.length = (actsOn c key steps s w).length ∧
      actsOn c key own t v = actsOn c key steps s w ∧ (runSteps c own t v).crash = none := by
  induction steps generalizing s w past t v former with
  | nil => exact ⟨[], rfl, rfl, rfl⟩
  | cons entry rest ih =>
    obtain ⟨now, first⟩ := entry
    unfold runSteps at ok reach
    have whole := Run.crash_none_of_andThen ok
    rw [Run.andThen_of_crash_none whole] at ok reach
    rw [Run.trace_after, ← List.append_assoc] at reach
    have begun : ∀ a ∈ attemptsIn (past ++ (WatchLoop.step c now s w first).trace),
        a.InReach c.policy := fun a member => by
      refine reach a ?_
      rw [attemptsIn_append]
      exact List.mem_append_left _ member
    have shown : ∀ o, first.object? = some o → o ∈ objects ∧ (o.key = key → o ∈ mine) :=
      fun o shown => brought o (mem_broughtIn_cons.mpr (.inl shown))
    have later : ∀ o ∈ broughtIn rest, o ∈ objects ∧ (o.key = key → o ∈ mine) :=
      fun o member => brought o (mem_broughtIn_cons.mpr (.inr member))
    rcases shadows.step now separate shown whole begun with
      ⟨silent, shadows⟩ | ⟨a, step, acted, answered, completed, shadows⟩
    · rw [actsOn, silent]
      exact ih shadows later ok reach
    · obtain ⟨own, length, same, complete⟩ := ih shadows later ok reach
      refine ⟨(start, step) :: own, ?_, ?_, ?_⟩
      · simp only [actsOn, acted, Option.toList_some, List.length_append, List.length_cons,
          List.length_nil, length]
        omega
      · simp only [actsOn, acted, answered, same]
      · rw [runSteps, Run.andThen_of_crash_none completed]
        exact complete

theorem traced_initial (objects : List (Keyed K)) (c : Config K ω ε) (start : Nat) (w : ω) :
    Traced objects c w (.initial start) w [] :=
  ⟨supplied_initial start, rfl⟩

/-- What becomes of an object in a run follows from the acts that concern it alone: a fresh loop
that is given these acts, whatever else, keeps the same object, queues the same retries of it and
makes the same callbacks about it. -/
theorem run_isolated (c : Config K ω ε) (w : ω) (separate : c.Separate w)
    (steps : List (Nat × Step K)) (start : Nat)
    (ok : (runSteps c steps (.initial start) w).crash = none) (key : ObjectKey) :
    let run := runSteps c steps (.initial start) w
    let acts := actsOn c key steps (.initial start) w
    (Ascending start steps → ∃ own, own.length = acts.length ∧
      actsOn c key own (.initial start) w = acts ∧
      (runSteps c own (.initial start) w).crash = none) ∧
    ∀ own begun, actsOn c key own (.initial begun) w = acts →
      (runSteps c own (.initial begun) w).crash = none →
      let alone := runSteps c own (.initial begun) w
      alone.state.cache.get? key = run.state.cache.get? key ∧
      alone.state.relist.map (·.contains key) = run.state.relist.map (·.contains key) ∧
      (alone.state.retries.toList.filter (·.key = key)).Perm
        (run.state.retries.toList.filter (·.key = key)) ∧
      ((attemptsIn alone.trace).filter (·.key = key)).map Attempt.request =
        ((attemptsIn run.trace).filter (·.key = key)).map Attempt.request := by
  intro run acts
  constructor
  · intro ascending
    have fresh : (State.initial start : State K).retries.Timely start := Nat.le_refl start
    have shadows : Shadows (broughtIn steps) ((broughtIn steps).filter (·.key = key)) c w start key
        (.initial start) w [] (.initial start) w [] :=
      ⟨traced_initial _ c start w, traced_initial _ c start w, by simp, rfl, rfl, fresh⟩
    refine shadows.exists_own separate (fun o member => ⟨member, fun own => ?_⟩) ok
      (inReach_of_runSteps ascending fresh ok)
    exact List.mem_filter.mpr ⟨member, decide_eq_true own⟩
  · intro own begun same complete alone
    have mine : aspect key alone.state alone.trace = acts.foldl (Aspect.after c w key) _ :=
      same ▸ aspect_runSteps separate (traced_initial (broughtIn own) c begun w)
        (fun _ member => member) complete
    have full : aspect key run.state run.trace = acts.foldl (Aspect.after c w key) _ :=
      aspect_runSteps separate (traced_initial (broughtIn steps) c start w)
        (fun _ member => member) ok
    have agree : aspect key alone.state alone.trace = aspect key run.state run.trace :=
      mine.trans full.symm
    have told := congrArg (List.map Prod.fst) (congrArg Aspect.told agree)
    simp only [aspect, List.map_map] at told
    exact ⟨congrArg Aspect.cached agree, congrArg Aspect.seen agree,
      Multiset.coe_eq_coe.mp (congrArg Aspect.queued agree), told⟩

section Examples

/-- Asks for a repetition the first time that it hears of an object. -/
def hesitant : Config K (List (Option ObjectKey)) Empty where
  name := "hesitant"
  equivalent := Watched.sameVersion
  policy := {}
  callback _ o _ heard := ⟨!heard.contains (Watched.key? o), [], Watched.key? o :: heard⟩

theorem mem_worldAfter_hesitant {asked : List (Request K)} {heard : List (Option ObjectKey)}
    {k : Option ObjectKey} : k ∈ hesitant.worldAfter heard asked ↔
      k ∈ heard ∨ ∃ q ∈ asked, Watched.key? q.object = k := by
  induction asked generalizing heard with
  | nil => simp [Config.worldAfter]
  | cons q rest ih =>
    change k ∈ hesitant.worldAfter (Watched.key? q.object :: heard) rest ↔ _
    simp [ih, eq_comm, or_assoc, or_left_comm]

theorem separate_hesitant : (hesitant : Config K _ _).Separate [] := by
  intro key asked other q keyed same
  have known (asked : List (Request K)) : some key ∈ hesitant.worldAfter [] asked ↔
      regarding key asked ≠ [] := by
    simp [mem_worldAfter_hesitant, regarding, List.filter_eq_nil_iff]
  have answer (asked : List (Request K)) : hesitant.answers [] asked q =
      !(hesitant.worldAfter [] asked).contains (some key) := by
    rw [← keyed]
    rfl
  rw [answer, answer, Bool.not_inj_iff, Bool.eq_iff_iff, List.contains_iff_mem,
    List.contains_iff_mem, known, known, same]

/-- Both nodes are refused at first. The one is created again and then missing from a relist,
which the other one survives with its retry still queued. -/
theorem hesitant_nodes_isolated :
    let steps : List (Nat × Step Node) :=
      [(0, .event .asKept .init), (0, .event .asKept (.initApply (versioned "a" "1"))),
        (0, .event .asKept (.initApply (versioned "b" "1"))), (1, .event .asKept .initDone),
        (5, .fire 1), (6, .event .asKept .init),
        (6, .event .asKept (.initApply (versioned "b" "2"))), (7, .event .asKept .initDone)]
    let run := runSteps hesitant steps (.initial 0) []
    (hesitant : Config Node _ _).Separate [] ∧ Ascending 0 steps ∧ run.crash = none ∧
      (run.state.retries.toList.map (·.key.name)) = ["b"] ∧
      ∃ own : List (Nat × Step Node), own.length = 6 ∧
        let alone := runSteps hesitant own (.initial 0) []
        alone.crash = none ∧ (alone.state.cache.get? ⟨"a", none⟩).isNone ∧
        ((attemptsIn alone.trace).filter (·.key = ⟨"a", none⟩)).map
          (fun a => (a.operation, a.requeues)) = [(.create, 0), (.create, 1), (.delete, 0)] := by
  intro steps run
  have ascending : Ascending 0 steps := by decide
  have ok : run.crash = none := by decide
  obtain ⟨exists_own, agree⟩ :=
    run_isolated hesitant [] separate_hesitant steps 0 ok ⟨"a", none⟩
  obtain ⟨own, length, same, whole⟩ := exists_own ascending
  obtain ⟨cached, -, -, told⟩ := agree own 0 same whole
  refine ⟨separate_hesitant, ascending, ok, by decide, own, length, whole, ?_, ?_⟩
  · rw [cached]
    decide
  · have seen := congrArg (List.map fun q : Request Node => (q.operation, q.requeues)) told
    rw [List.map_map, List.map_map] at seen
    refine seen.trans ?_
    decide

end Examples
end GatewayEvents.WatchLoop
