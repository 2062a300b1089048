import GatewayEvents.Proofs.WatchLoop.History

/-! The moves of a loop, as far as the kept objects and the callbacks go. A move is quiet, or
replaces an object by an equivalent one without telling, or makes one callback: for the first
time about an object that a watch event brought or that is kept, or again for a queued retry.
A callback is made with the object kept, or about an object that is not (`Prepared`). All
objects that a loop holds or tells were brought by watch events (`Supplied`). -/
namespace GatewayEvents.WatchLoop

variable {K ω ε : Type}

/-- A callback is about to be made: the loop moved from `s` to `u`, and changed what is kept
under the key of the callback at most. -/
structure Prepared (op : Operation) (key : ObjectKey) (object : K) (s u : State K) : Prop where
  others : ∀ other, other ≠ key → u.cache.get? other = s.cache.get? other
  here : u.cache.get? key = if op = .delete then none else some object
  queue : ∀ r ∈ u.retries.toList, r ∈ s.retries.toList

inductive Effect [Watched K] (c : Config K ω ε) (step : Step K) (s : State K) (w : ω) :
    State K → ω → List (Entry K ε) → Prop where
  | quiet {t es} (cache : t.cache = s.cache) (queue : ∀ r ∈ t.retries.toList, r ∈ s.retries.toList)
      (silent : attemptsIn es = []) : Effect c step s w t w es
  | replaced {o : Keyed K} {old : K} (brought : step.object? = some o)
      (known : s.cache.get? o.key = some old) (equivalent : c.equivalent old o.object = true) :
      Effect c step s w { s with cache := s.cache.insert o.key o.object } w [.unchanged o.key]
  | first {op key object u t v es}
      (source : s.cache.get? key = some object ∨
        ∃ o, step.object? = some o ∧ o.key = key ∧ o.object = object)
      (prepared : Prepared op key object s u) (called : Called c op key object 0 u w t v es) :
      Effect c step s w t v es
  | again {r : Retry K} {object u t v es} (queued : r ∈ s.retries.toList)
      (source : r.operation = .delete → object = r.object) (same : u.cache = s.cache)
      (prepared : Prepared r.operation r.key object s u)
      (called : Called c r.operation r.key object r.requeues u w t v es) :
      Effect c step s w t v es

variable {c : Config K ω ε} {op : Operation} {key : ObjectKey} {object : K}
  {requeues : Nat} {s t u : State K} {w v : ω} {es past : List (Entry K ε)}

theorem prepared_insert (keep : op ≠ .delete) :
    Prepared op key object s { s with cache := s.cache.insert key object } where
  others other apart := by rw [Table.get?_insert, if_neg apart]
  here := by rw [Table.get?_insert, if_pos rfl, if_neg keep]
  queue _ member := member

theorem prepared_erase :
    Prepared .delete key object s { s with cache := s.cache.erase key } where
  others other apart := by rw [Table.get?_erase, if_neg apart]
  here := by rw [Table.get?_erase, if_pos rfl, if_pos rfl]
  queue _ member := member

theorem prepared_take {index : Nat} {r : Retry K} (found : s.retries.toList[index]? = some r)
    (fits : s.cache.get? key = if op = .delete then none else some object) :
    Prepared op key object s (s.take index) where
  others _ _ := rfl
  here := fits
  queue _ member := (State.perm_take found).mem_iff.mpr (List.mem_cons_of_mem _ member)

theorem Called.get?_here (called : Called c op key object requeues u w t v es)
    (prepared : Prepared op key object s u) :
    t.cache.get? key = if op = .delete then none else some object :=
  called.cache ▸ prepared.here

theorem Called.get?_others (called : Called c op key object requeues u w t v es)
    (prepared : Prepared op key object s u) :
    ∀ other, other ≠ key → t.cache.get? other = s.cache.get? other :=
  called.cache ▸ prepared.others

theorem Called.kept_cases (called : Called c op key object requeues u w t v es)
    (prepared : Prepared op key object s u) {k : ObjectKey} {o : K}
    (found : t.cache.get? k = some o) :
    (k = key ∧ op ≠ .delete ∧ o = object) ∨ k ≠ key ∧ s.cache.get? k = some o := by
  by_cases same : k = key
  · rw [same, called.get?_here prepared] at found
    split at found
    next => contradiction
    next keep => exact .inl ⟨same, keep, (Option.some.inj found).symm⟩
  · exact .inr ⟨same, called.get?_others prepared k same ▸ found⟩

variable [Watched K] {step : Step K} {objects : List (Keyed K)}

theorem Move.effect (move : Move c step s w t v es) : Effect c step s w t v es := by
  cases move with
  | relistStarted | seen | relistEnded | synced | missed =>
    exact .quiet rfl (fun _ member => member) rfl
  | polled same => exact .quiet rfl (fun _ member => same.mem_iff.mp member) rfl
  | unchanged shown known equivalent => exact .replaced shown.object? known equivalent
  | @created _ _ _ _ _ _ o shown _ called | @updated _ _ _ _ _ _ o _ shown _ _ called =>
    exact .first (.inr ⟨o, shown.object?, rfl, rfl⟩) (prepared_insert (by decide)) called
  | @deleted _ _ _ _ _ _ o called => exact .first (.inr ⟨o, rfl, rfl, rfl⟩) prepared_erase called
  | vanished known called => exact .first (.inl known) prepared_erase called
  | recreated found | gone found =>
    refine .quiet rfl (fun _ member => ?_) rfl
    exact (State.perm_take found).mem_iff.mpr (List.mem_cons_of_mem _ member)
  | @deletedAgain _ _ _ _ _ _ r found delete unknown called =>
    refine .again (List.mem_of_getElem? found) (fun _ => rfl) (State.cache_take ..)
      (prepared_take found ?_) (delete ▸ called)
    rw [if_pos delete, unknown]
  | keptAgain found keep known called =>
    refine .again (List.mem_of_getElem? found) (fun delete => absurd delete keep)
      (State.cache_take ..) (prepared_take found ?_) called
    rw [if_neg keep, known]

section Supplied

def Among (objects : List (Keyed K)) (key : ObjectKey) (object : K) : Prop :=
  ∃ o ∈ objects, o.key = key ∧ o.object = object

/-- Whatever is kept, queued or was handed to a callback is one of these objects. -/
structure Supplied (objects : List (Keyed K)) (s : State K) (past : List (Entry K ε)) : Prop where
  kept : ∀ k o, s.cache.get? k = some o → Among objects k o
  queued : ∀ r ∈ s.retries.toList, Among objects r.key r.object
  told : ∀ a ∈ attemptsIn past, Among objects a.key a.object

theorem supplied_initial (start : Nat) :
    Supplied objects (.initial start) ([] : List (Entry K ε)) where
  kept _ _ found := by cases found
  queued _ member := by cases member
  told _ member := by cases member

theorem Supplied.kept_insert (before : Supplied objects s past)
    (among : Among objects key object) (k : ObjectKey) (o : K)
    (found : (s.cache.insert key object).get? k = some o) : Among objects k o := by
  rcases Table.get?_insert_cases found with ⟨rfl, rfl⟩ | ⟨-, known⟩
  · exact among
  · exact before.kept k o known

theorem Called.supplied (called : Called c op key object requeues u w t v es)
    (before : Supplied objects s past) (prepared : Prepared op key object s u)
    (among : Among objects key object) : Supplied objects t (past ++ es) where
  kept k o found := by
    rcases called.kept_cases prepared found with ⟨rfl, -, rfl⟩ | ⟨-, known⟩
    · exact among
    · exact before.kept k o known
  queued r member := by
    rcases called.of_mem_retries member with rfl | earlier
    · exact among
    · exact before.queued r (prepared.queue r earlier)
  told a member := by
    rcases called.mem_attemptsIn.mp member with earlier | rfl
    · exact before.told a earlier
    · exact among

theorem Supplied.told_of_called (after : Supplied objects t (past ++ es))
    (called : Called c op key object requeues u w t v es) : Among objects key object :=
  after.told _ (called.mem_attemptsIn.mpr (.inr rfl))

theorem Supplied.kept_of_insert
    (after : Supplied objects { s with cache := s.cache.insert key object } past) :
    Among objects key object :=
  after.kept key object ((Table.get?_insert ..).trans (if_pos rfl))

theorem Effect.supplied (effect : Effect c step s w t v es)
    (brought : ∀ o, step.object? = some o → o ∈ objects) (before : Supplied objects s past) :
    Supplied objects t (past ++ es) := by
  cases effect with
  | quiet cache queue silent =>
    refine ⟨fun k o found => before.kept k o (cache ▸ found),
      fun r member => before.queued r (queue r member), fun a member => ?_⟩
    exact before.told a (by simpa [silent] using member)
  | @replaced o old shown _ _ =>
    refine ⟨before.kept_insert ⟨o, brought o shown, rfl, rfl⟩, before.queued, fun a member => ?_⟩
    exact before.told a (by simpa [attemptsIn, Entry.attempt?] using member)
  | first source prepared called =>
    refine called.supplied before prepared ?_
    rcases source with known | ⟨o, shown, key, object⟩
    · exact before.kept _ _ known
    · exact ⟨o, brought o shown, key, object⟩
  | @again r _ _ _ _ _ queued source same prepared called =>
    refine called.supplied before prepared ?_
    by_cases delete : r.operation = .delete
    · exact source delete ▸ before.queued r queued
    · refine before.kept _ _ ?_
      rw [← same, prepared.here, if_neg delete]

/-- What every move preserves, among the objects that the run was brought, holds where the run was
meant to end. -/
theorem runSteps_preserve_supplied {I : State K → ω → List (Entry K ε) → Prop}
    {steps : List (Nat × Step K)} {start : Nat}
    (kept : ∀ {step s w t v es past}, Move c step s w t v es →
      Supplied (broughtIn steps) s past → Supplied (broughtIn steps) t (past ++ es) →
      I s w past → I t v (past ++ es))
    (holds : I (.initial start) w []) :
    ∃ t, (runSteps c steps (.initial start) w).Meant t ∧
      Supplied (broughtIn steps) t (runSteps c steps (.initial start) w).trace ∧
      I t (runSteps c steps (.initial start) w).world
        (runSteps c steps (.initial start) w).trace := by
  have brought : Guarded (fun _ step => ∀ o, step.object? = some o → o ∈ broughtIn steps) c steps
      (.initial start) w :=
    guarded_of_forall fun entry member _ o shown => List.mem_filterMap.mpr ⟨entry, member, shown⟩
  exact runSteps_meant
    (I := fun s w past => Supplied (broughtIn steps) s past ∧ I s w past)
    (fun shown moves before => moves.preserve
      (I := fun s w past => Supplied (broughtIn steps) s past ∧ I s w past)
      (fun move before =>
        have supplied := move.effect.supplied shown before.1
        ⟨supplied, kept move before.1 supplied before.2⟩) before)
    brought ⟨supplied_initial start, holds⟩

/-- What every effect preserves, among the objects that the run was brought, holds at the end of
every run that does not crash. -/
theorem runSteps_preserve_effects {I : State K → ω → List (Entry K ε) → Prop}
    {steps : List (Nat × Step K)} {start : Nat}
    (kept : ∀ {step s w t v es past}, Effect c step s w t v es →
      Supplied (broughtIn steps) s past → Supplied (broughtIn steps) t (past ++ es) →
      I s w past → I t v (past ++ es))
    (ok : (runSteps c steps (.initial start) w).crash = none) (holds : I (.initial start) w []) :
    I (runSteps c steps (.initial start) w).state (runSteps c steps (.initial start) w).world
      (runSteps c steps (.initial start) w).trace := by
  obtain ⟨t, meant, -, holds⟩ := runSteps_preserve_supplied
    (fun move before after => kept move.effect before after) holds
  exact meant.eq_state ok ▸ holds

theorem supplied_runSteps {steps : List (Nat × Step K)} {start : Nat}
    (ok : (runSteps c steps (.initial start) w).crash = none) :
    Supplied (broughtIn steps) (runSteps c steps (.initial start) w).state
      (runSteps c steps (.initial start) w).trace :=
  runSteps_preserve_effects (I := fun s _ past => Supplied (broughtIn steps) s past)
    (fun _ _ after _ => after) ok (supplied_initial start)

end Supplied

end GatewayEvents.WatchLoop
