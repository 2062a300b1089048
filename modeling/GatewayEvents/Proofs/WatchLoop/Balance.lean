import GatewayEvents.Proofs.WatchLoop.Exhaustion
import GatewayEvents.Proofs.WatchLoop.Objects

/-! The books of one loop. A callback that asks to be run again is put off or given up, the
latter exactly when its requeues are used up (`Reckoned`); and what was put off has fired since
or is queued (`queued_step`). A step that crashes keeps the books too, but for the retry that was
entered and then refused by the timers (`Run.Meant`). -/
namespace GatewayEvents.WatchLoop

variable {K ω ε : Type}

/-- A callback was put off to be run again. -/
def Entry.putOff : Entry K ε → Bool
  | .requeued _ _ _ => true
  | _ => false

def Entry.drop? : Entry K ε → Option (Operation × ObjectKey × Nat)
  | .dropped op key requeues => some (op, key, requeues)
  | _ => none

def Attempt.spent (limit : Nat) (a : Attempt K ε) : Bool := a.requeue && a.requeues == limit

/-- What was given up, what was put off and which callbacks asked for it agree. -/
structure Reckoned (limit : Nat) (past : List (Entry K ε)) : Prop where
  asked : (attemptsIn past).countP (·.requeue) =
    past.countP Entry.putOff + past.countP Entry.gaveUp
  dropped : past.filterMap Entry.drop? =
    ((attemptsIn past).filter (·.spent limit)).map fun a => (a.operation, a.key, a.requeues)

def fired [Watched K] (s : State K) : Step K → Nat
  | .fire index => if index < s.retries.toList.length then 1 else 0
  | _ => 0

variable {c : Config K ω ε} {now limit : Nat} {op : Operation} {key : ObjectKey} {object : K}
  {requeues : Nat} {s t u : State K} {w v : ω} {es past : List (Entry K ε)}

theorem Reckoned.append (before : Reckoned limit past) (later : Reckoned limit es) :
    Reckoned limit (past ++ es) where
  asked := by
    simp only [attemptsIn_append, List.countP_append, before.asked, later.asked]
    omega
  dropped := by
    simp only [attemptsIn_append, List.filterMap_append, List.filter_append, List.map_append,
      before.dropped, later.dropped]

theorem Reckoned.gaveUp (reckoned : Reckoned limit past) :
    past.countP Entry.gaveUp = ((attemptsIn past).filter (·.spent limit)).length := by
  have same : past.countP Entry.gaveUp = (past.filterMap Entry.drop?).length := by
    rw [List.length_filterMap_eq_countP]
    exact List.countP_congr fun e _ => by cases e <;> simp [Entry.gaveUp, Entry.drop?]
  rw [same, reckoned.dropped, List.length_map]

theorem Entry.unbooked_of_idle {e : Entry K ε} (idle : e.idle = true) :
    e.putOff = false ∧ e.gaveUp = false ∧ e.drop? = none := by
  cases e <;> first | exact ⟨rfl, rfl, rfl⟩ | contradiction

theorem countP_putOff_of_idle (idle : ∀ e ∈ es, e.idle = true) : es.countP Entry.putOff = 0 :=
  List.countP_eq_zero.mpr fun e member => by simp [(Entry.unbooked_of_idle (idle e member)).1]

theorem reckoned_of_idle (idle : ∀ e ∈ es, e.idle = true) : Reckoned limit es where
  asked := by
    have kept : es.countP Entry.gaveUp = 0 :=
      List.countP_eq_zero.mpr fun e member => by
        simp [(Entry.unbooked_of_idle (idle e member)).2.1]
    rw [attemptsIn_of_idle idle, countP_putOff_of_idle idle, kept]
    rfl
  dropped := by
    have kept : es.filterMap Entry.drop? = [] :=
      List.filterMap_eq_nil_iff.mpr fun e member => (Entry.unbooked_of_idle (idle e member)).2.2
    rw [attemptsIn_of_idle idle, kept]
    rfl

theorem Called.reckoned (called : Called c op key object requeues u w t v es)
    (may : requeues ≤ c.policy.maxRequeues.toNat) :
    Reckoned c.policy.maxRequeues.toNat es := by
  have attempts := called.attempts
  have count : (c.made op key object requeues w).requeues = requeues := rfl
  constructor
  · rw [attempts]
    cases called with
    | settled answer | dropped answer | requeued answer =>
      simp [Entry.putOff, Entry.gaveUp, answer]
  · rw [attempts]
    cases called with
    | settled answer => simp [List.filterMap_cons, Entry.drop?, Attempt.spent, answer]
    | dropped answer spent =>
      have last := Nat.le_antisymm may (allowsRequeue_eq_false.mp spent)
      have done : (c.made op key object requeues w).spent c.policy.maxRequeues.toNat = true := by
        rw [Attempt.spent, answer, count, Bool.true_and, beq_iff_eq]
        exact last
      rw [List.filter_cons_of_pos done]
      rfl
    | requeued answer allowed =>
      have more := (allowsRequeue_eq_true.mp allowed).ne
      simp [List.filterMap_cons, Entry.drop?, Attempt.spent, count, more]

theorem Called.queued (called : Called c op key object requeues u w t v es) :
    t.retries.toList.length = u.retries.toList.length + es.countP Entry.putOff := by
  cases called with
  | settled | dropped => rfl
  | requeued _ _ queued => exact queued.length_eq

section Steps
variable [Watched K] {step : Step K}

theorem Turn.reckoned (turn : Turn c step s w t v es)
    (within : Within c.policy.maxRequeues.toNat s past) :
    Reckoned c.policy.maxRequeues.toNat es := by
  cases turn with
  | rested _ _ idle | discarded _ _ idle => exact reckoned_of_idle idle
  | told _ called => exact called.reckoned (Nat.zero_le _)
  | repeated _ found _ called =>
    exact called.reckoned (within.queued _ (List.mem_of_getElem? found)).2

theorem Turn.queued (turn : Turn c step s w t v es) :
    t.retries.toList.length + (if step.fires then 1 else 0) =
      s.retries.toList.length + es.countP Entry.putOff := by
  cases turn with
  | rested waits queue idle =>
    simp [waits, queue.length_eq, countP_putOff_of_idle idle]
  | told waits called queue => simp [waits, called.queued, queue]
  | discarded fires found idle =>
    have taken := (State.perm_take found).length_eq
    simp [fires, Step.fires, countP_putOff_of_idle idle, taken]
  | repeated fires found _ called =>
    have taken := (State.perm_take found).length_eq
    simp [fires, Step.fires, called.queued, taken]
    omega

theorem Moves.queued (moves : Moves c step s w t v es) (waits : step.fires = false) :
    t.retries.toList.length = s.retries.toList.length + es.countP Entry.putOff := by
  induction moves with
  | none => rfl
  | cons move _ ih =>
    have first := move.turn.queued
    simp only [waits, Bool.false_eq_true, if_false] at first
    rw [ih, List.countP_append]
    omega

/-- What the loop has gone through since its books were opened. -/
structure Kept (c : Config K ω ε) (s : State K) (past : List (Entry K ε)) : Prop where
  within : Within c.policy.maxRequeues.toNat s past
  reckoned : Reckoned c.policy.maxRequeues.toNat past
  made : ∀ a ∈ attemptsIn past, ∃ w, a = c.made a.operation a.key a.object a.requeues w

theorem Move.kept (move : Move c step s w t v es) (before : Kept c s past) :
    Kept c t (past ++ es) where
  within := move.turn.within before.within
  reckoned := before.reckoned.append (move.turn.reckoned before.within)
  made := move.effect.made before.made

/-- The step keeps the books and the queue, or is short of the one retry that was refused. -/
theorem queued_step (c : Config K ω ε) (now : Nat) (step : Step K) (w : ω)
    (before : Kept c s past) :
    ∃ t, (WatchLoop.step c now s w step).Meant t ∧
      Kept c t (past ++ (WatchLoop.step c now s w step).trace) ∧
      t.retries.toList.length + fired s step =
        s.retries.toList.length + (WatchLoop.step c now s w step).trace.countP Entry.putOff := by
  have passes := passes_step c now step s w
  cases step with
  | event | poll =>
    obtain ⟨t, meant, moves⟩ := passes
    exact ⟨t, meant, moves.preserve (I := fun s _ past => Kept c s past) Move.kept before,
      moves.queued rfl⟩
  | fire index =>
    cases found : s.retries.toList[index]? with
    | none =>
      have rests : fire c now index s w = ⟨s, w, [], none⟩ := by simp only [fire, found]
      have beyond : ¬ index < s.retries.toList.length := by
        simpa using List.getElem?_eq_none_iff.mp found
      simp only [WatchLoop.step, rests, fired, if_neg beyond, List.append_nil]
      exact ⟨s, .whole rfl, before, rfl⟩
    | some r =>
      obtain ⟨bound, -⟩ := List.getElem?_eq_some_iff.mp found
      obtain ⟨t, meant, move⟩ := move_fire (c := c) (w := w) found
      simp only [fired, if_pos bound]
      exact ⟨t, meant, move.kept before, move.turn.queued⟩

end Steps

end GatewayEvents.WatchLoop
