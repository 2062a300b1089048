import GatewayEvents.Proofs.WatchLoop.Accounting
import GatewayEvents.Proofs.WatchLoop.Rows

/-! Retrying ends. The policy bounds how often a callback is tried (`Within`), hence the length of
a row of callbacks. A queued retry is then good for so many firings only, so without further
events the queue runs empty, whatever the callbacks answer (`potential`). -/
namespace GatewayEvents.WatchLoop

variable {K ω ε : Type} {c : Config K ω ε} {now index : Nat} {op : Operation} {key : ObjectKey}
  {object : K} {requeues : Nat} {s t u : State K} {w v : ω} {es past : List (Entry K ε)}
  {r : Retry K}

section Bounds

/-- Nothing is tried more often than it may, and given up only then. -/
structure Within (limit : Nat) (s : State K) (past : List (Entry K ε)) : Prop where
  queued : ∀ r ∈ s.retries.toList, 1 ≤ r.requeues ∧ r.requeues ≤ limit
  made : ∀ a ∈ attemptsIn past, a.requeues ≤ limit
  requeued : ∀ op key n, .requeued op key n ∈ past → n < limit
  dropped : ∀ op key n, .dropped op key n ∈ past → n = limit

theorem within_initial (limit start : Nat) :
    Within limit (.initial start) ([] : List (Entry K ε)) where
  queued _ member := by cases member
  made _ member := by cases member
  requeued _ _ _ member := by cases member
  dropped _ _ _ member := by cases member

theorem Within.frame {limit : Nat} (before : Within limit s past)
    (queue : ∀ r ∈ t.retries.toList, r ∈ s.retries.toList) (idle : ∀ e ∈ es, e.idle = true) :
    Within limit t (past ++ es) where
  queued r member := before.queued r (queue r member)
  made a member := by
    rw [attemptsIn_append, attemptsIn_of_idle idle, List.append_nil] at member
    exact before.made a member
  requeued o k n member := by
    rcases List.mem_append.mp member with earlier | last
    · exact before.requeued o k n earlier
    · exact absurd (idle _ last) (by simp [Entry.idle])
  dropped o k n member := by
    rcases List.mem_append.mp member with earlier | last
    · exact before.dropped o k n earlier
    · exact absurd (idle _ last) (by simp [Entry.idle])

theorem allowsRequeue_eq_true {p : RetryPolicy} {n : Nat} :
    p.allowsRequeue n = true ↔ n < p.maxRequeues.toNat := by
  simp [RetryPolicy.allowsRequeue]

theorem Called.within (called : Called c op key object requeues u w t v es)
    (before : Within c.policy.maxRequeues.toNat u past)
    (may : requeues ≤ c.policy.maxRequeues.toNat) :
    Within c.policy.maxRequeues.toNat t (past ++ es) where
  queued r member := by
    cases called with
    | settled | dropped => exact before.queued r member
    | requeued _ allowed queued =>
      rcases List.mem_cons.mp (queued.mem_iff.mp member) with rfl | earlier
      · exact ⟨Nat.succ_pos _, allowsRequeue_eq_true.mp allowed⟩
      · exact before.queued r earlier
  made a member := by
    rcases called.mem_attemptsIn.mp member with earlier | rfl
    · exact before.made a earlier
    · exact may
  requeued o k n member := by
    rcases List.mem_append.mp member with earlier | last
    · exact before.requeued o k n earlier
    · cases called with
      | settled | dropped => simp at last
      | requeued _ allowed =>
        obtain ⟨-, -, rfl⟩ : o = op ∧ k = key ∧ n = requeues := by simpa using last
        exact allowsRequeue_eq_true.mp allowed
  dropped o k n member := by
    rcases List.mem_append.mp member with earlier | last
    · exact before.dropped o k n earlier
    · cases called with
      | settled | requeued => simp at last
      | dropped _ spent =>
        obtain ⟨-, -, rfl⟩ : o = op ∧ k = key ∧ n = requeues := by simpa using last
        exact Nat.le_antisymm may (allowsRequeue_eq_false.mp spent)

theorem mem_of_mem_take (found : s.retries.toList[index]? = some r) {q : Retry K}
    (member : q ∈ (s.take index).retries.toList) : q ∈ s.retries.toList :=
  (State.perm_take found).mem_iff.mpr (List.mem_cons_of_mem _ member)

theorem Turn.within [Watched K] {step : Step K} (turn : Turn c step s w t v es)
    (before : Within c.policy.maxRequeues.toNat s past) :
    Within c.policy.maxRequeues.toNat t (past ++ es) := by
  cases turn with
  | rested _ queue idle => exact before.frame (fun _ member => queue.mem_iff.mp member) idle
  | told _ called queue =>
    refine called.within ⟨?_, before.made, before.requeued, before.dropped⟩ (Nat.zero_le _)
    exact queue ▸ before.queued
  | discarded _ found idle => exact before.frame (fun _ => mem_of_mem_take found) idle
  | repeated _ found _ called =>
    refine called.within ⟨?_, before.made, before.requeued, before.dropped⟩ ?_
    · exact fun q member => before.queued q (mem_of_mem_take found member)
    · exact (before.queued _ (List.mem_of_getElem? found)).2

theorem Row.Sound.length_le {x : Row K ε} {limit : Nat} (sound : x.Sound past)
    (within : Within limit s past) : x.made.length ≤ limit + 1 := by
  have positive : 0 < x.made.length := List.length_pos_iff.mpr sound.begun
  have last : x.made.length - 1 ∈ x.made.map (·.requeues) := by
    rw [sound.counted, List.mem_range]
    omega
  obtain ⟨a, member, count⟩ := List.mem_map.mp last
  have bound := within.made a (sound.among.subset member)
  omega

end Bounds

section Draining

theorem potential_eq_of_perm (queue : t.retries.toList.Perm s.retries.toList) :
    potential c t = potential c s :=
  queue.foldr_eq' (fun _ _ _ _ _ => by omega) 0

theorem potential_of_perm_cons (queue : t.retries.toList.Perm (r :: s.retries.toList)) :
    potential c t = (c.policy.maxRequeues.toNat - r.requeues) + 1 + potential c s :=
  queue.foldr_eq' (fun _ _ _ _ _ => by omega) 0

theorem Called.potential_le (called : Called c op key object requeues u w t v es) :
    potential c t ≤ (c.policy.maxRequeues.toNat - requeues) + potential c u := by
  cases called with
  | settled | dropped => exact Nat.le_add_left _ _
  | requeued _ allowed queued =>
    have more := allowsRequeue_eq_true.mp allowed
    have after : potential c { u with retries := _ } = _ := potential_of_perm_cons queued
    simp only at after
    omega

variable [Watched K] {step : Step K} {later : List (Nat × Step K)}

/-- A firing uses up some of what the queue is good for, whatever is called and answered. -/
theorem Turn.potential_lt (turn : Turn c step s w t v es) (fires : step.fires = true) :
    potential c t < potential c s := by
  cases turn with
  | rested waits | told waits => simp [waits] at fires
  | discarded _ found =>
    have before : potential c s = _ := potential_of_perm_cons (State.perm_take found)
    omega
  | repeated _ found _ called =>
    have before : potential c s = _ := potential_of_perm_cons (State.perm_take found)
    have after := called.potential_le
    omega

/-- If a retry fires, it is one that is queued, as long as there is any. -/
def Busy (s : State K) : Step K → Prop
  | .event _ _ => False
  | .poll => True
  | .fire index => s.retries.toList = [] ∨ index < s.retries.toList.length

theorem potential_step (busy : Busy s step) (ok : (WatchLoop.step c now s w step).crash = none) :
    potential c (WatchLoop.step c now s w step).state ≤
      potential c s - if step.fires then 1 else 0 := by
  cases step with
  | event => contradiction
  | poll => exact (potential_eq_of_perm (TimerWheel.toList_poll now s.retries)).le
  | fire index =>
    rcases busy with empty | bound
    · have spent : potential c s = 0 := by simp [potential, empty]
      have same : (fire c now index s w).state = s := by simp [fire, empty]
      simp [WatchLoop.step, same, spent]
    · have found : s.retries.toList[index]? = some s.retries.toList[index] :=
        List.getElem?_eq_getElem bound
      obtain ⟨t, meant, move⟩ := move_fire found
      rw [meant.eq_state ok] at move
      exact Nat.le_sub_one_of_lt (move.turn.potential_lt rfl)

theorem potential_runSteps (busy : Guarded Busy c later s w)
    (ok : (runSteps c later s w).crash = none) :
    potential c (runSteps c later s w).state ≤ potential c s - later.countP (·.2.fires) := by
  induction later generalizing s w with
  | nil => exact Nat.le_refl _
  | cons entry rest ih =>
    obtain ⟨now, first⟩ := entry
    have fine : (WatchLoop.step c now s w first).crash = none := Run.crash_none_of_andThen ok
    unfold runSteps at ok ⊢
    rw [Run.andThen_of_crash_none fine] at ok ⊢
    have one := potential_step busy.1 fine
    have others := ih busy.2 ok
    rw [List.countP_cons]
    simp only [Run.state_after]
    omega

omit [Watched K] in
theorem retries_of_potential (spent : potential c s = 0) : s.retries.toList = [] := by
  unfold potential at spent
  cases queue : s.retries.toList with
  | nil => rfl
  | cons r rest => simp [queue] at spent

end Draining

/-- Callbacks fall into rows of repetitions, none longer than the policy allows. If no further event
arrives, the queue is empty after `potential` firings at the latest, whatever is answered. -/
theorem retries_run_out [Watched K] (c : Config K ω ε) (steps : List (Nat × Step K))
    (start : Nat) (w : ω) (ok : (runSteps c steps (.initial start) w).crash = none) :
    let run := runSteps c steps (.initial start) w
    let limit := c.policy.maxRequeues.toNat
    (∃ rows : List (Row K ε), (rows.flatMap Row.made).Perm (attemptsIn run.trace) ∧
      (rows.filterMap Row.next).Perm run.state.retries.toList ∧
      ∀ x ∈ rows, x.Sound run.trace ∧ x.made.length ≤ limit + 1) ∧
    (∀ r ∈ run.state.retries.toList, 1 ≤ r.requeues ∧ r.requeues ≤ limit) ∧
    (∀ op key n, .requeued op key n ∈ run.trace → n + 1 ≤ limit ∧ n + 1 < UInt32.size) ∧
    ∀ {ω' ε' : Type} (c' : Config K ω' ε') (later : List (Nat × Step K)) (w' : ω'),
      c'.policy = c.policy → Guarded Busy c' later run.state w' →
      (runSteps c' later run.state w').crash = none →
      potential c run.state ≤ later.countP (·.2.fires) →
      (runSteps c' later run.state w').state.retries.toList = [] := by
  intro run limit
  have within : Within limit run.state run.trace :=
    runSteps_preserve (I := fun s _ past => Within limit s past)
      (fun move before => move.turn.within before) ok (within_initial limit start)
  obtain ⟨rows, arranged⟩ := inRows_runSteps ok
  refine ⟨⟨rows, arranged.made, arranged.queued, fun x member => ?_⟩, within.queued, ?_, ?_⟩
  · exact ⟨arranged.sound x member, (arranged.sound x member).length_le within⟩
  · intro op key n member
    have more : n + 1 ≤ limit := within.requeued op key n member
    exact ⟨more, more.trans_lt (UInt32.toNat_lt_size _)⟩
  · intro ω' ε' c' later w' same busy ok' enough
    have left := potential_runSteps busy ok'
    have alike : potential c' run.state = potential c run.state := by
      unfold potential
      rw [same]
    exact retries_of_potential (c := c') (by omega)

/-- A creation that may be requeued twice is refused each time; the second of the firings left
gives it up. -/
theorem refused_creation_runs_out :
    let c : Config Node (List Bool) Empty := answering { maxRequeues := 2 }
    let steps : List (Nat × Step Node) := [(0, .event .asKept (.apply (bareNode "a")))]
    let later : List (Nat × Step Node) := [(5, .poll), (5, .fire 0), (15, .fire 0)]
    let run := runSteps c steps (.initial 0) [true]
    run.crash = none ∧ potential c run.state = 2 ∧
      (runSteps c later run.state [true, true]).state.retries.toList = [] ∧
      (attemptsIn (runSteps c later run.state [true, true]).trace).map (·.requeues) = [1, 2] := by
  intro c steps later run
  have ok : run.crash = none := by decide
  have fine : (runSteps c later run.state [true, true]).crash = none := by decide
  have busy : Guarded Busy c later run.state [true, true] :=
    ⟨trivial, .inr (by decide), .inr (by decide), trivial⟩
  have ends : ∀ steps' w', Guarded Busy c steps' run.state w' →
      (runSteps c steps' run.state w').crash = none →
      potential c run.state ≤ steps'.countP (·.2.fires) →
      (runSteps c steps' run.state w').state.retries.toList = [] :=
    fun steps' w' => (retries_run_out c steps 0 [true] ok).2.2.2 c steps' w' rfl
  exact ⟨ok, by decide, ends later _ busy fine (by decide), by decide⟩

end GatewayEvents.WatchLoop
