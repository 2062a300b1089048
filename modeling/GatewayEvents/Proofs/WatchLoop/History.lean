import GatewayEvents.Proofs.WatchLoop.Moves
import Mathlib.Data.List.DropRight

/-! What a trace says about one object: the most recent callback about it, and the callbacks
that were made since. -/
namespace GatewayEvents.WatchLoop

variable {K ω ε : Type} {c : Config K ω ε} {op : Operation} {key : ObjectKey} {object : K}
  {requeues : Nat} {s t : State K} {w v : ω} {es past : List (Entry K ε)}

def attemptsIn (past : List (Entry K ε)) : List (Attempt K ε) := past.filterMap Entry.attempt?

def lastAttempt (key : ObjectKey) (past : List (Entry K ε)) : Option (Attempt K ε) :=
  ((attemptsIn past).filter (·.key = key)).getLast?

/-- The callbacks made since the most recent one about an object. -/
def since (key : ObjectKey) (past : List (Entry K ε)) : List (Attempt K ε) :=
  (attemptsIn past).rtakeWhile (·.key ≠ key)

@[simp] theorem attemptsIn_append (past es : List (Entry K ε)) :
    attemptsIn (past ++ es) = attemptsIn past ++ attemptsIn es := List.filterMap_append

theorem Called.attempts (called : Called c op key object requeues s w t v es) :
    attemptsIn es = [c.made op key object requeues w] := by
  cases called <;> rfl

theorem Called.mem_attemptsIn (called : Called c op key object requeues s w t v es)
    {a : Attempt K ε} : a ∈ attemptsIn (past ++ es) ↔
      a ∈ attemptsIn past ∨ a = c.made op key object requeues w := by
  rw [attemptsIn_append, called.attempts, List.mem_append, List.mem_singleton]

theorem lastAttempt_append_of_other (others : ∀ a ∈ attemptsIn es, a.key ≠ key) :
    lastAttempt key (past ++ es) = lastAttempt key past := by
  have silent : (attemptsIn es).filter (·.key = key) = [] := by
    simpa [List.filter_eq_nil_iff] using others
  simp [lastAttempt, silent]

theorem Called.isLast (called : Called c op key object requeues s w t v es) :
    lastAttempt key (past ++ es) = some (c.made op key object requeues w) := by
  simp [lastAttempt, called.attempts, Config.made]

theorem lastAttempt_append_ne_none (before : lastAttempt key past ≠ none) :
    lastAttempt key (past ++ es) ≠ none := by
  simp only [lastAttempt, attemptsIn_append, List.filter_append, List.getLast?_append] at before ⊢
  intro forgotten
  exact before (Option.or_eq_none_iff.mp forgotten).2

theorem lastAttempt_mem {a : Attempt K ε} (last : lastAttempt key past = some a) :
    a ∈ attemptsIn past ∧ a.key = key := by
  simpa using List.mem_of_getLast? last

theorem exists_lastAttempt {a : Attempt K ε} (member : a ∈ attemptsIn past) :
    ∃ b, lastAttempt a.key past = some b := by
  have own : a ∈ (attemptsIn past).filter (·.key = a.key) := List.mem_filter.mpr ⟨member, by simp⟩
  exact ⟨_, List.getLast?_eq_some_getLast (List.ne_nil_of_mem own)⟩

theorem attemptsIn_of_lastAttempt {a : Attempt K ε} (last : lastAttempt key past = some a) :
    ∃ earlier later, attemptsIn past = earlier ++ a :: later ∧ ∀ b ∈ later, b.key ≠ key := by
  obtain ⟨others, split⟩ := List.getLast?_eq_some_iff.mp last
  obtain ⟨before, rest, whole, -, kept⟩ := List.filter_eq_append_iff.mp split
  obtain ⟨between, later, parts, -, -, silent⟩ := List.filter_eq_cons_iff.mp kept
  refine ⟨before ++ between, later, by rw [whole, parts, List.append_assoc], ?_⟩
  simpa [List.filter_eq_nil_iff] using silent

/-- What passes a narrower test last is what passes a wider one last, if it passes both. -/
theorem getLast?_filter_of_within {α : Type} {l : List α} {x : α} {wide narrow : α → Bool}
    (last : (l.filter wide).getLast? = some x) (passes : narrow x = true)
    (within : ∀ y ∈ l, narrow y = true → wide y = true) :
    (l.filter narrow).getLast? = some x := by
  obtain ⟨others, split⟩ := List.getLast?_eq_some_iff.mp last
  have same : l.filter narrow = (l.filter wide).filter narrow := by
    rw [List.filter_filter]
    refine List.filter_congr fun y member => ?_
    cases test : narrow y with
    | false => rfl
    | true => rw [within y member test, Bool.and_self]
  rw [same, split, List.filter_append, List.filter_cons_of_pos passes]
  exact List.getLast?_concat

theorem since_append_of_silent (silent : attemptsIn es = []) :
    since key (past ++ es) = since key past := by
  simp [since, silent]

theorem Called.since_self (called : Called c op key object requeues s w t v es) :
    since key (past ++ es) = [] := by
  rw [since, attemptsIn_append, called.attempts]
  exact List.rtakeWhile_concat_neg _ _ _ (by simp [Config.made])

theorem Called.since_other (called : Called c op key object requeues s w t v es)
    {other : ObjectKey} (apart : other ≠ key) :
    since other (past ++ es) = since other past ++ [c.made op key object requeues w] := by
  rw [since, attemptsIn_append, called.attempts]
  exact List.rtakeWhile_concat_pos _ _ _ (by simp [Config.made, Ne.symm apart])

end GatewayEvents.WatchLoop
