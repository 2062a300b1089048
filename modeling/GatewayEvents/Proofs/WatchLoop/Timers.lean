import GatewayEvents.Proofs.WatchLoop.History

/-! What the timers of a loop can wait for. A loop crashes only if a callback is to be run again
after a delay that its timers do not reach (`Attempt.InReach`). In a run that does not crash and
whose clock does not go back, every delay was within reach (`inReach_of_runSteps`); and as long
as no time has passed, nothing else can crash a loop (`Run.Timed`). -/
namespace GatewayEvents.WatchLoop

variable {K ω ε : Type}

/-- If the callback is to be run again, then after a delay that the timers reach. -/
def Attempt.InReach (policy : RetryPolicy) (a : Attempt K ε) : Prop :=
  a.requeue = true → policy.allowsRequeue a.requeues = true →
    policy.backoff a.requeues ≤ TimerWheel.span

/-- Work at one time, begun with these timers: if it does not crash, all it was to repeat was within
reach; and if no time has passed at all, it crashes for nothing else. -/
structure Run.Timed (c : Config K ω ε) (now : Nat) (r : Run K ω ε)
    (queue : TimerWheel (Retry K)) : Prop where
  turned : TimerWheel.Turned now queue r.state.retries
  reach : queue.Timely now → r.crash = none → ∀ a ∈ attemptsIn r.trace, a.InReach c.policy
  whole : queue.Timely now → queue.origin = now →
    (∀ a ∈ attemptsIn r.trace, a.InReach c.policy) → r.crash = none

variable {c : Config K ω ε} {now : Nat} {op : Operation} {key : ObjectKey} {object : K}
  {requeues : Nat} {s : State K} {w : ω} {queue : TimerWheel (Retry K)} {r : Run K ω ε}
  {es : List (Entry K ε)}

theorem Run.Timed.silent (silent : attemptsIn es = []) :
    (⟨s, w, es, none⟩ : Run K ω ε).Timed c now s.retries where
  turned := .refl ..
  reach _ _ a member := by simp [silent] at member
  whole _ _ _ := rfl

theorem Run.Timed.after (timed : r.Timed c now queue) (silent : attemptsIn es = []) :
    (r.after es).Timed c now queue where
  turned := timed.turned
  reach := by simpa [silent] using timed.reach
  whole := by simpa [silent] using timed.whole

theorem Run.Timed.andThen {next : State K → ω → Run K ω ε} (first : r.Timed c now queue)
    (rest : ∀ t v, (next t v).Timed c now t.retries) : (r.andThen next).Timed c now queue := by
  cases crash : r.crash with
  | some _ => rwa [Run.andThen_of_refused crash]
  | none =>
    have later := rest r.state r.world
    rw [Run.andThen_of_crash_none crash]
    refine ⟨first.turned.trans later.turned, fun timely ok a member => ?_,
      fun timely present all => ?_⟩
    · rw [Run.trace_after, attemptsIn_append, List.mem_append] at member
      rcases member with earlier | member
      · exact first.reach timely crash a earlier
      · exact later.reach (first.turned.timely timely) ok a member
    · refine later.whole (first.turned.timely timely) (first.turned.origin.trans present)
        fun a member => all a ?_
      rw [Run.trace_after, attemptsIn_append]
      exact List.mem_append_right _ member

/-- A callback crashes the loop only for a delay that the timers do not reach. -/
theorem timed_attempt : (attempt c now op key object requeues s w).Timed c now s.retries := by
  let made : Attempt K ε := c.made op key object requeues w
  have only : ∀ a, a ∈ [made] → a = made := fun _ => List.mem_singleton.mp
  rw [attempt_eq]
  by_cases answer : made.requeue = true
  · rw [if_pos answer]
    unfold reschedule
    by_cases allowed : c.policy.allowsRequeue requeues = true
    · rw [if_pos allowed]
      simp only
      cases set : s.retries.insert? now (c.policy.backoff requeues)
          ⟨op, key, object, requeues + 1⟩ with
      | some timers =>
        refine ⟨TimerWheel.turned_insert? set, fun timely _ a member _ _ => ?_, fun _ _ _ => rfl⟩
        obtain rfl := only a member
        exact TimerWheel.delay_le_span timely set
      | none =>
        refine ⟨.refl .., fun _ ok => (by cases ok), fun timely present all => ?_⟩
        have short : c.policy.backoff requeues ≤ TimerWheel.span :=
          all made (List.mem_singleton.mpr rfl) answer allowed
        exact absurd set (TimerWheel.insert?_ne_none (by omega))
    · rw [if_neg allowed]
      refine ⟨.refl .., fun _ _ a member _ admitted => ?_, fun _ _ _ => rfl⟩
      obtain rfl := only a member
      exact absurd admitted allowed
  · rw [if_neg answer]
    refine ⟨.refl .., fun _ _ a member asked => ?_, fun _ _ _ => rfl⟩
    obtain rfl := only a member
    exact absurd asked answer

theorem Run.Composed.timed (composed : r.Composed c now queue) : r.Timed c now queue := by
  induction composed with
  | silent none => exact .silent none
  | call => exact timed_attempt
  | after none _ ih => exact ih.after none
  | andThen _ _ first rest => exact first.andThen rest
  | turned turned _ ih =>
    exact ⟨turned.trans ih.turned, fun timely => ih.reach (turned.timely timely),
      fun timely present => ih.whole (turned.timely timely) (turned.origin.trans present)⟩

/-- At this time timers that count from `start` still reach every delay that the policy allows. -/
def Early (policy : RetryPolicy) (start now : Nat) : Prop :=
  now + 1000 * policy.maxDelaySecs.toNat ≤ start + TimerWheel.span

instance {policy : RetryPolicy} {start now : Nat} : Decidable (Early policy start now) :=
  inferInstanceAs (Decidable (_ ≤ _))

theorem crash_attempt (early : Early c.policy s.retries.origin now) :
    (attempt c now op key object requeues s w).crash = none := by
  have capped : c.policy.backoff requeues ≤ 1000 * c.policy.maxDelaySecs.toNat :=
    Nat.min_le_right ..
  have near : now + c.policy.backoff requeues ≤ s.retries.origin + TimerWheel.span :=
    Nat.le_trans (Nat.add_le_add_left capped now) early
  rw [attempt_eq]
  split
  · rw [Run.crash_after]
    unfold reschedule
    split
    · dsimp only
      split
      · rfl
      next refused => exact absurd refused (TimerWheel.insert?_ne_none near)
    · rfl
  · rfl

/-- Work that is early enough for every delay does not crash. -/
theorem Run.Composed.crash_none (composed : r.Composed c now queue)
    (early : Early c.policy queue.origin now) : r.crash = none := by
  induction composed with
  | silent => rfl
  | call => exact crash_attempt early
  | after _ _ ih => exact ih early
  | andThen first _ ih later =>
    rw [Run.andThen_of_crash_none (ih early)]
    refine later _ _ ?_
    rwa [first.timed.turned.origin]
  | turned turned _ ih =>
    refine ih ?_
    rwa [turned.origin]

variable [Watched K]

def Ascending (start : Nat) (steps : List (Nat × Step K)) : Prop :=
  (start :: steps.map Prod.fst).IsChain (· ≤ ·)

instance {start : Nat} {steps : List (Nat × Step K)} : Decidable (Ascending start steps) :=
  inferInstanceAs (Decidable (List.IsChain _ _))

/-- In a run whose clock does not go back, whatever was to be run again was within reach. -/
theorem inReach_of_runSteps {start : Nat} {steps : List (Nat × Step K)}
    (ascending : Ascending start steps) (timely : s.retries.Timely start)
    (ok : (runSteps c steps s w).crash = none) :
    ∀ a ∈ attemptsIn (runSteps c steps s w).trace, a.InReach c.policy := by
  induction steps generalizing start s w with
  | nil => exact fun _ member => by cases member
  | cons entry rest ih =>
    obtain ⟨now, first⟩ := entry
    obtain ⟨later, ascending⟩ := List.isChain_cons_cons.mp ascending
    have timely : s.retries.Timely now := Nat.le_trans timely later
    have timed : (WatchLoop.step c now s w first).Timed c now s.retries :=
      (composed_step first).timed
    unfold runSteps at ok ⊢
    have whole := Run.crash_none_of_andThen ok
    rw [Run.andThen_of_crash_none whole] at ok ⊢
    intro a member
    rw [Run.trace_after, attemptsIn_append, List.mem_append] at member
    rcases member with earlier | member
    · exact timed.reach timely whole a earlier
    · exact ih ascending (timed.turned.timely timely) ok a member

theorem origin_runSteps {steps : List (Nat × Step K)} :
    (runSteps c steps s w).state.retries.origin = s.retries.origin := by
  induction steps generalizing s w with
  | nil => rfl
  | cons entry rest ih =>
    obtain ⟨now, first⟩ := entry
    have composed : (WatchLoop.step c now s w first).Composed c now s.retries :=
      composed_step first
    have turned := composed.timed.turned
    unfold runSteps
    cases crash : (WatchLoop.step c now s w first).crash with
    | some _ =>
      rw [Run.andThen_of_refused crash]
      exact turned.origin
    | none =>
      rw [Run.andThen_of_crash_none crash]
      exact ih.trans turned.origin

theorem crash_none_of_early {steps : List (Nat × Step K)}
    (early : ∀ entry ∈ steps, Early c.policy s.retries.origin entry.1) :
    (runSteps c steps s w).crash = none := by
  induction steps generalizing s w with
  | nil => rfl
  | cons entry rest ih =>
    obtain ⟨now, first⟩ := entry
    have composed : (WatchLoop.step c now s w first).Composed c now s.retries :=
      composed_step first
    have whole := composed.crash_none (early _ List.mem_cons_self)
    unfold runSteps
    rw [Run.andThen_of_crash_none whole, Run.crash_after]
    refine ih fun later member => ?_
    rw [composed.timed.turned.origin]
    exact early later (List.mem_cons_of_mem _ member)

end GatewayEvents.WatchLoop
