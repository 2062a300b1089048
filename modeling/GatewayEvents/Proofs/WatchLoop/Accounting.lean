import GatewayEvents.Proofs.WatchLoop.History
import GatewayEvents.Resource.Node

/-! No failed callback is forgotten. The most recent callback about an object says whether
the object is kept; if it asked to be run again, it was given up after its last requeue or
its repetition is queued. Several retries of one object can be queued at a time, and some
are discarded when they fire: those contradict what is kept, hence the most recent callback
too, so the one that is still owed is never among them. -/
namespace GatewayEvents.WatchLoop

variable {K ω ε : Type} {c : Config K ω ε} {op : Operation} {key : ObjectKey} {object : K}
  {requeues : Nat} {s t : State K} {w v : ω} {es past : List (Entry K ε)}

/-- The callback was given up, or its repetition is queued. -/
def Owed (c : Config K ω ε) (s : State K) (past : List (Entry K ε)) (a : Attempt K ε) : Prop :=
  (c.policy.maxRequeues.toNat ≤ a.requeues ∧ .dropped a.operation a.key a.requeues ∈ past) ∨
  ∃ r ∈ s.retries.toList,
    r.operation = a.operation ∧ r.key = a.key ∧ r.requeues = a.requeues + 1

/-- What the most recent callback about an object says of the state. -/
structure Accounted (c : Config K ω ε) (key : ObjectKey) (s : State K) (past : List (Entry K ε)) :
    Prop where
  untouched : lastAttempt key past = none → s.cache.get? key = none
  kept : ∀ a, lastAttempt key past = some a → (a.operation = .delete ↔ s.cache.get? key = none)
  owed : ∀ a, lastAttempt key past = some a → a.requeue = true → Owed c s past a

theorem allowsRequeue_eq_false {p : RetryPolicy} {n : Nat} :
    p.allowsRequeue n = false ↔ p.maxRequeues.toNat ≤ n := by
  simp [RetryPolicy.allowsRequeue]

theorem Called.owed (called : Called c op key object requeues s w t v es)
    (asked : (c.made op key object requeues w).requeue = true) :
    Owed c t es (c.made op key object requeues w) := by
  cases called with
  | settled answer => rw [answer] at asked; contradiction
  | dropped _ spent =>
    exact .inl ⟨allowsRequeue_eq_false.mp spent, by simp [Config.made]⟩
  | requeued _ _ queued =>
    refine .inr ⟨⟨op, key, object, requeues + 1⟩, ?_, rfl, rfl, rfl⟩
    exact queued.mem_iff.mpr List.mem_cons_self

/-- A callback about an object settles its account, if it fits what is kept. -/
theorem Called.accounted (called : Called c op key object requeues s w t v es)
    (fits : op = .delete ↔ s.cache.get? key = none) : Accounted c key t (past ++ es) := by
  have last : lastAttempt key (past ++ es) = _ := called.isLast
  refine ⟨fun untouched => ?_, fun a found => ?_, fun a found asked => ?_⟩
  · rw [last] at untouched
    contradiction
  · obtain rfl := Option.some.inj (last.symm.trans found)
    rw [called.cache]
    exact fits
  · obtain rfl := Option.some.inj (last.symm.trans found)
    rcases called.owed asked with ⟨spent, entry⟩ | queued
    · exact .inl ⟨spent, List.mem_append_right _ entry⟩
    · exact .inr queued

/-- Work that makes no callback about an object and discards no retry that fits what is
kept leaves its account as it was. -/
theorem Accounted.frame (before : Accounted c key s past)
    (cache : t.cache.get? key = none ↔ s.cache.get? key = none)
    (others : ∀ a ∈ attemptsIn es, a.key ≠ key)
    (queue : ∀ r ∈ s.retries.toList, r.key = key →
      (r.operation = .delete ↔ s.cache.get? key = none) → r ∈ t.retries.toList) :
    Accounted c key t (past ++ es) := by
  have last : lastAttempt key (past ++ es) = _ := lastAttempt_append_of_other others
  refine ⟨fun untouched => ?_, fun a found => ?_, fun a found asked => ?_⟩
  · exact cache.mpr (before.untouched (last ▸ untouched))
  · exact (before.kept a (last ▸ found)).trans cache.symm
  · rw [last] at found
    rcases before.owed a found asked with ⟨spent, entry⟩ | ⟨r, member, operation, about, count⟩
    · exact .inl ⟨spent, List.mem_append_left _ entry⟩
    · have here : r.key = key := about.trans (lastAttempt_mem found).2
      have fits := before.kept a found
      rw [← operation] at fits
      exact .inr ⟨r, queue r member here fits, operation, about, count⟩

/-- A callback, made in a state that differs from the one before it in one object and in
the retries of that object, keeps all accounts. -/
theorem Called.accounted_all {u : State K} (called : Called c op key object requeues u w t v es)
    (before : ∀ k, Accounted c k s past) (fits : op = .delete ↔ u.cache.get? key = none)
    (cache : ∀ other, other ≠ key → u.cache.get? other = s.cache.get? other)
    (queue : ∀ r ∈ s.retries.toList, r.key ≠ key → r ∈ u.retries.toList) (k : ObjectKey) :
    Accounted c k t (past ++ es) := by
  by_cases same : k = key
  · subst same
    exact called.accounted fits
  · refine (before k).frame ?_ ?_ ?_
    · rw [called.cache, cache k same]
    · intro a member
      rw [called.attempts, List.mem_singleton] at member
      subst member
      exact Ne.symm same
    · intro r member about _
      exact called.mem_retries (queue r member (about ▸ same))

theorem mem_take {index : Nat} {r q : Retry K} (found : s.retries.toList[index]? = some r)
    (member : q ∈ s.retries.toList) (other : q ≠ r) : q ∈ (s.take index).retries.toList := by
  rcases List.mem_cons.mp ((State.perm_take found).mem_iff.mp member) with same | rest
  · contradiction
  · exact rest

theorem Move.accounted [Watched K] {step : Step K} (move : Move c step s w t v es)
    (before : ∀ k, Accounted c k s past) (k : ObjectKey) : Accounted c k t (past ++ es) := by
  cases move with
  | relistStarted | seen | relistEnded | synced | missed =>
    exact (before k).frame .rfl (by simp [attemptsIn, Entry.attempt?]) fun _ member _ _ => member
  | polled same =>
    exact (before k).frame .rfl (by simp [attemptsIn]) fun _ member _ _ => same.mem_iff.mpr member
  | @unchanged _ _ _ o _ _ known _ =>
    refine (before k).frame ?_ (by simp [attemptsIn, Entry.attempt?]) fun _ member _ _ => member
    by_cases same : k = o.key
    · simp [same, known]
    · simp [same]
  | created _ _ called | updated _ _ _ called | deleted called | vanished _ called =>
    exact called.accounted_all before (by simp) (by simp +contextual) (fun _ member _ => member) k
  | recreated found delete known =>
    refine (before k).frame .rfl (by simp [attemptsIn, Entry.attempt?]) ?_
    -- a discarded deletion contradicts the object kept, so it is not the retry that is owed
    intro q member about fits
    refine mem_take found member ?_
    rintro rfl
    simp [← about, known, delete] at fits
  | gone found keep unknown =>
    refine (before k).frame .rfl (by simp [attemptsIn, Entry.attempt?]) ?_
    intro q member about fits
    refine mem_take found member ?_
    rintro rfl
    exact keep (fits.mpr (about ▸ unknown))
  | deletedAgain found delete unknown called =>
    refine called.accounted_all before (by simpa using unknown) (fun _ _ => rfl) ?_ k
    exact fun q member other => mem_take found member fun same => other (same ▸ rfl)
  | keptAgain found keep known called =>
    refine called.accounted_all before (by simp [keep, known]) (fun _ _ => rfl) ?_ k
    exact fun q member other => mem_take found member fun same => other (same ▸ rfl)

theorem accounted_initial (start : Nat) (key : ObjectKey) :
    Accounted c key (.initial start) ([] : List (Entry K ε)) where
  untouched _ := rfl
  kept _ found := by simp [lastAttempt, attemptsIn] at found
  owed _ found := by simp [lastAttempt, attemptsIn] at found

theorem accounted_runSteps [Watched K] {steps : List (Nat × Step K)} {start : Nat} (key : ObjectKey)
    (ok : (runSteps c steps (.initial start) w).crash = none) :
    Accounted c key (runSteps c steps (.initial start) w).state
      (runSteps c steps (.initial start) w).trace :=
  runSteps_preserve (I := fun s _ past => ∀ key, Accounted c key s past) Move.accounted ok
    (accounted_initial start) key

section Presence
variable {now : Nat}

theorem get?_apply (ok : (apply c now object key s w).crash = none) :
    (apply c now object key s w).state.cache.get? key = some object := by
  unfold apply at ok ⊢
  cases known : s.cache.get? key with
  | none =>
    simp only [known] at ok
    simp only [(called_attempt ok).cache, Table.get?_insert, if_true]
  | some old =>
    cases equivalent : c.equivalent old object with
    | true => simp only [equivalent, if_true, Table.get?_insert]
    | false =>
      simp only [known, equivalent, Bool.false_eq_true, if_false] at ok
      simp only [equivalent, Bool.false_eq_true, if_false, (called_attempt ok).cache,
        Table.get?_insert, if_true]

variable [Watched K] {step : Step K} {steps : List (Nat × Step K)}

theorem accounted_step (before : ∀ k, Accounted c k s past)
    (ok : (WatchLoop.step c now s w step).crash = none) (k : ObjectKey) :
    Accounted c k (WatchLoop.step c now s w step).state
      (past ++ (WatchLoop.step c now s w step).trace) :=
  (moves_step ok).preserve (I := fun s _ past => ∀ k, Accounted c k s past) Move.accounted
    before k

/-- A step that brings an event about an object leaves a callback about it behind, if not
its own then an earlier one. -/
theorem attempted_step (before : ∀ k, Accounted c k s past) {o : Keyed K}
    (brought : step.object? = some o) (ok : (WatchLoop.step c now s w step).crash = none) :
    lastAttempt o.key (past ++ (WatchLoop.step c now s w step).trace) ≠ none := by
  have account := accounted_step before ok o.key
  cases step with
  | poll | fire => contradiction
  | event order event =>
    cases event with
    | init | initDone => contradiction
    | apply p | initApply p =>
      obtain rfl := Option.some.inj brought
      intro forgotten
      have missing := account.untouched forgotten
      exact Option.some_ne_none _ ((get?_apply ok).symm.trans missing)
    | delete p =>
      obtain rfl := Option.some.inj brought
      have last : lastAttempt p.key (past ++ _) = _ := (called_attempt ok).isLast
      exact fun forgotten => Option.some_ne_none _ (last.symm.trans forgotten)

theorem attempted_runSteps (before : ∀ k, Accounted c k s past)
    (ok : (runSteps c steps s w).crash = none)
    (occurs : ∃ o ∈ broughtIn steps, o.key = key) :
    lastAttempt key (past ++ (runSteps c steps s w).trace) ≠ none := by
  induction steps generalizing s w past with
  | nil =>
    obtain ⟨o, member, -⟩ := occurs
    cases member
  | cons first rest ih =>
    obtain ⟨now, first⟩ := first
    have fine : (WatchLoop.step c now s w first).crash = none := Run.crash_none_of_andThen ok
    unfold runSteps at ok ⊢
    rw [Run.andThen_of_crash_none fine] at ok ⊢
    simp only [Run.trace_after, ← List.append_assoc]
    obtain ⟨o, member, rfl⟩ := occurs
    obtain ⟨entry, among, brought⟩ := List.mem_filterMap.mp member
    rcases List.mem_cons.mp among with rfl | later
    · exact lastAttempt_append_ne_none (attempted_step before brought fine)
    · exact ih (accounted_step before fine) ok
        ⟨o, List.mem_filterMap.mpr ⟨entry, later, brought⟩, rfl⟩

end Presence

/-- The most recent callback about an object fits whether the object is kept; and if it asked to be
run again, it was given up or its next repetition is queued. -/
theorem last_callback_not_forgotten [Watched K] (c : Config K ω ε) (steps : List (Nat × Step K))
    (start : Nat) (w : ω) (ok : (runSteps c steps (.initial start) w).crash = none)
    (key : ObjectKey) :
    let run := runSteps c steps (.initial start) w
    (lastAttempt key run.trace = none → run.state.cache.contains key = false) ∧
    ∀ a, lastAttempt key run.trace = some a →
      (a.operation ≠ .delete ↔ run.state.cache.contains key = true) ∧
      (a.requeue = true →
        (c.policy.maxRequeues.toNat ≤ a.requeues ∧
          .dropped a.operation key a.requeues ∈ run.trace) ∨
        ∃ r ∈ run.state.retries.toList,
          r.operation = a.operation ∧ r.key = key ∧ r.requeues = a.requeues + 1) := by
  intro run
  have account : Accounted c key run.state run.trace := accounted_runSteps key ok
  refine ⟨fun untouched => ?_, fun a found => ⟨?_, fun asked => ?_⟩⟩
  · simp [Table.contains, account.untouched untouched]
  · rw [Ne, account.kept a found, Table.contains, Option.isSome_iff_ne_none]
  · rw [← (lastAttempt_mem found).2]
    exact account.owed a found asked

/-- A loop whose callbacks ask to be run again as a list of answers says, and then no more. -/
def answering [Watched K] (policy : RetryPolicy) : Config K (List Bool) Empty where
  name := "answering"
  equivalent := Watched.sameVersion
  policy := policy
  callback _ _ _ answers := ⟨answers.headD false, [], answers.tail⟩

def bareNode (name : String) : Keyed Node := ⟨⟨{ name := some name }⟩, ⟨name, none⟩, rfl⟩

def versioned (name version : String) : Keyed Node :=
  ⟨⟨{ name := some name, resourceVersion := some version }⟩, ⟨name, none⟩, rfl⟩

/-- A node is created and deleted, both in vain; the creation is discarded when it fires,
and the deletion is still owed. -/
theorem deletion_owed_after_discarded_creation :
    let steps : List (Nat × Step Node) := [(0, .event .asKept (.apply (bareNode "a"))),
      (0, .event .asKept (.delete (bareNode "a"))), (5, .fire 1)]
    let run := runSteps (answering {}) steps (.initial 0) [true, true]
    run.crash = none ∧ run.state.retries.toList.length = 1 ∧
      ∃ r ∈ run.state.retries.toList,
        r.operation = .delete ∧ r.key = ⟨"a", none⟩ ∧ r.requeues = 1 := by
  intro steps run
  have ok : run.crash = none := by decide
  refine ⟨ok, by decide, ?_⟩
  have account := (last_callback_not_forgotten (answering {}) steps 0 _ ok ⟨"a", none⟩).2
    ⟨.delete, ⟨"a", none⟩, (bareNode "a").object, 0, true, []⟩ rfl
  rcases account.2 rfl with ⟨spent, _⟩ | queued
  · exact absurd spent (by decide)
  · exact queued

end GatewayEvents.WatchLoop
