import GatewayEvents.Proofs.WatchLoop.Effects

/-! The objects that callbacks are given. Whatever is kept, queued or was handed to a
callback stands under its own key (`Faithful`). Updates that are equivalent to what is kept
are never told, so the last object told can lag behind the one kept; under a transitive
equivalence it stays equivalent to it (`Current`). -/
namespace GatewayEvents.WatchLoop

variable {K ω ε : Type} {c : Config K ω ε} {op : Operation} {key : ObjectKey} {object : K}
  {requeues : Nat} {s t u : State K} {w v : ω} {es past : List (Entry K ε)}

section Faithful
variable [Watched K] {step : Step K}

/-- Every object stands under its own key, and every callback went as the loop's callback
goes in some world. -/
structure Faithful (c : Config K ω ε) (s : State K) (past : List (Entry K ε)) : Prop where
  kept : ∀ k o, s.cache.get? k = some o → Watched.key? o = some k
  queued : ∀ r ∈ s.retries.toList, Watched.key? r.object = some r.key
  told : ∀ a ∈ attemptsIn past, Watched.key? a.object = some a.key
  made : ∀ a ∈ attemptsIn past, ∃ w, a = c.made a.operation a.key a.object a.requeues w

theorem Among.keyed {objects : List (Keyed K)} (among : Among objects key object) :
    Watched.key? object = some key := by
  obtain ⟨o, -, rfl, rfl⟩ := among
  exact o.keyed

theorem Effect.made (effect : Effect c step s w t v es)
    (before : ∀ a ∈ attemptsIn past, ∃ w, a = c.made a.operation a.key a.object a.requeues w) :
    ∀ a ∈ attemptsIn (past ++ es), ∃ w, a = c.made a.operation a.key a.object a.requeues w := by
  intro a member
  cases effect with
  | quiet _ _ silent => exact before a (by simpa [silent] using member)
  | replaced => exact before a (by simpa [attemptsIn, Entry.attempt?] using member)
  | first _ _ called | again _ _ _ _ called =>
    rcases called.mem_attemptsIn.mp member with earlier | rfl
    · exact before a earlier
    · exact ⟨w, rfl⟩

theorem faithful_runSteps {steps : List (Nat × Step K)} {start : Nat}
    (ok : (runSteps c steps (.initial start) w).crash = none) :
    Faithful c (runSteps c steps (.initial start) w).state
      (runSteps c steps (.initial start) w).trace where
  kept k o found := ((supplied_runSteps ok).kept k o found).keyed
  queued r member := ((supplied_runSteps ok).queued r member).keyed
  told a member := ((supplied_runSteps ok).told a member).keyed
  made := runSteps_preserve_effects
    (I := fun _ _ past => ∀ a ∈ attemptsIn past, ∃ w,
      a = c.made a.operation a.key a.object a.requeues w)
    (fun effect _ _ before => effect.made before) ok (fun _ member => by cases member)

end Faithful

section Current

/-- The object that a callback was last told of is the one kept, or equivalent to it. -/
def Current (c : Config K ω ε) (s : State K) (past : List (Entry K ε)) : Prop :=
  ∀ k o a, s.cache.get? k = some o → lastAttempt k past = some a →
    a.object = o ∨ c.equivalent a.object o = true

theorem current_initial (start : Nat) : Current c (.initial start) [] :=
  fun _ _ _ found => by cases found

theorem Called.current (called : Called c op key object requeues u w t v es)
    (before : Current c s past) (prepared : Prepared op key object s u) :
    Current c t (past ++ es) := by
  intro k o a found last
  rcases called.kept_cases prepared found with ⟨rfl, -, rfl⟩ | ⟨other, known⟩
  · rw [called.isLast] at last
    exact .inl (Option.some.inj last ▸ rfl)
  · rw [lastAttempt_append_of_other (by simpa [called.attempts, Config.made] using Ne.symm other)]
      at last
    exact before k o a known last

variable [Watched K] {step : Step K}

theorem Effect.current
    (transitive : ∀ x y z, c.equivalent x y = true → c.equivalent y z = true →
      c.equivalent x z = true)
    (effect : Effect c step s w t v es) (before : Current c s past) : Current c t (past ++ es) := by
  cases effect with
  | quiet cache _ silent =>
    intro k o a found last
    rw [lastAttempt_append_of_other (by simp [silent])] at last
    exact before k o a (cache ▸ found) last
  | @replaced o old _ known equivalent =>
    intro k p a found last
    rw [lastAttempt_append_of_other (by simp [attemptsIn, Entry.attempt?])] at last
    rcases Table.get?_insert_cases found with ⟨rfl, rfl⟩ | ⟨-, kept⟩
    -- nobody is told of the object, which may drift as far as the equivalence reaches
    · rcases before o.key old a known last with told | lag
      · exact .inr (told ▸ equivalent)
      · exact .inr (transitive _ _ _ lag equivalent)
    · exact before k p a kept last
  | first _ prepared called | again _ _ _ prepared called => exact called.current before prepared

theorem current_runSteps {steps : List (Nat × Step K)} {start : Nat}
    (transitive : ∀ x y z, c.equivalent x y = true → c.equivalent y z = true →
      c.equivalent x z = true)
    (ok : (runSteps c steps (.initial start) w).crash = none) :
    Current c (runSteps c steps (.initial start) w).state
      (runSteps c steps (.initial start) w).trace :=
  runSteps_preserve_effects (I := fun s _ past => Current c s past)
    (fun effect _ _ before => effect.current transitive before) ok (current_initial start)

end Current

end GatewayEvents.WatchLoop
