import GatewayEvents.Proofs.WatchLoop.Accounting
import GatewayEvents.Proofs.WatchLoop.FirstAttempts
import Mathlib.Computability.RegularExpressions
import Mathlib.Order.CompletePartialOrder

/-! What any two runs over the same events have in common, and what the life of an object looks
like in each of them. A run is read event by event (`chapters`): where it stands after an event
and which callbacks the event made for the first time follow from the events alone, up to the
order of the deletions that end a relist (`Chapter.Agrees`). Whether an object is kept tells how
its row of first callbacks can go on, so that row is a word of a regular language (`lives`). -/
namespace GatewayEvents.WatchLoop

variable {K ω ε : Type} {c : Config K ω ε} {op : Operation} {key : ObjectKey} {object : K}
  {requeues : Nat} {s t u : State K} {w v : ω} {es past : List (Entry K ε)}

section Chapters
variable [Watched K]

/-- An event of a run, with how the loop stands after it, its retries left out, and the
callbacks that it made for the first time. -/
structure Chapter (K : Type) [Watched K] where
  event : WatchEvent (Keyed K)
  view : View K
  told : List (Change K)

def chapters (c : Config K ω ε) : List (Nat × Step K) → State K → ω → List (Chapter K)
  | [], _, _ => []
  | (now, first) :: rest, s, w =>
    let r := step c now s w first
    let later := chapters c rest r.state r.world
    match first.event? with
    | some event => ⟨event, r.state.view, changesIn r.trace⟩ :: later
    | none => later

/-- The chapters as the events alone say. -/
def View.chapters (equivalent : K → K → Bool) :
    View K → List (WatchEvent (Keyed K)) → List (Chapter K)
  | _, [] => []
  | v, event :: rest =>
    ⟨event, v.next event, v.tells equivalent event⟩ :: chapters equivalent (v.next event) rest

/-- The same event left the same view behind and told the same, but for the order of the
deletions if it ended a relist. -/
structure Chapter.Agrees (x y : Chapter K) : Prop where
  event : x.event = y.event
  view : x.view = y.view
  told : x.told.Perm y.told
  ordered : (x.event = .initDone ∧ ∀ change ∈ x.told, change.operation = .delete) ∨ x.told = y.told

theorem Follows.agrees {event : WatchEvent (Keyed K)} {v : View K} {r : Run K ω ε}
    (follows : Follows c event v r) :
    Chapter.Agrees ⟨event, r.state.view, changesIn r.trace⟩
      ⟨event, v.next event, v.tells c.equivalent event⟩ where
  event := rfl
  view := follows.view
  told := follows.told
  ordered := by
    by_cases done : event = .initDone
    · subst done
      exact .inl ⟨rfl, fun change member =>
        View.delete_of_tells_initDone (follows.told.mem_iff.mp member)⟩
    · refine .inr ?_
      rcases Nat.le_one_iff_eq_zero_or_eq_one.mp (View.length_tells_le done) with none | one
      · have told := follows.told
        rw [List.length_eq_zero_iff.mp none] at told ⊢
        exact List.perm_nil.mp told
      · obtain ⟨change, single⟩ := List.length_eq_one_iff.mp one
        have told := follows.told
        rw [single] at told ⊢
        exact List.perm_singleton.mp told

/-- A run goes as its events say, and tells nothing for the first time outside of them. -/
theorem chapters_agree {steps : List (Nat × Step K)} (before : Repeating s)
    (ok : (runSteps c steps s w).crash = none) :
    List.Forall₂ Chapter.Agrees (chapters c steps s w)
      (s.view.chapters c.equivalent (eventsIn steps)) ∧
    changesIn (runSteps c steps s w).trace = (chapters c steps s w).flatMap Chapter.told := by
  induction steps generalizing s w with
  | nil => exact ⟨.nil, rfl⟩
  | cons entry rest ih =>
    obtain ⟨now, first⟩ := entry
    have fine : (step c now s w first).crash = none := Run.crash_none_of_andThen ok
    unfold runSteps at ok ⊢
    unfold chapters
    rw [Run.andThen_of_crash_none fine] at ok ⊢
    obtain ⟨each, told⟩ := ih ((moves_step fine).repeating before) ok
    rw [Run.trace_after, changesIn_append, told]
    cases first with
    | event order event =>
      have follows : Follows c event s.view (step c now s w (.event order event)) :=
        follows_handleIn fine
      rw [follows.view] at each
      exact ⟨.cons follows.agrees each, rfl⟩
    | poll => exact ⟨each, rfl⟩
    | fire index =>
      rw [step, view_fire] at each
      rw [step, changesIn_fire before]
      exact ⟨each, rfl⟩

theorem Chapter.Agrees.of_common {x y z : Chapter K} (first : x.Agrees z) (second : y.Agrees z) :
    x.Agrees y where
  event := first.event.trans second.event.symm
  view := first.view.trans second.view.symm
  told := first.told.trans second.told.symm
  ordered := by
    rcases first.ordered with deletions | same
    · exact .inl deletions
    · rcases second.ordered with ⟨done, deletions⟩ | equal
      · refine .inl ⟨(first.event.trans second.event.symm).trans done, fun change member => ?_⟩
        exact deletions change ((first.told.trans second.told.symm).mem_iff.mp member)
      · exact .inr (same.trans equal.symm)

theorem Chapter.agree_of_common {xs ys zs : List (Chapter K)}
    (first : List.Forall₂ Chapter.Agrees xs zs) (second : List.Forall₂ Chapter.Agrees ys zs) :
    List.Forall₂ Chapter.Agrees xs ys := by
  induction first generalizing ys with
  | nil =>
    cases second
    exact .nil
  | cons here _ ih =>
    cases second with
    | cons there rest => exact .cons (here.of_common there) (ih rest)

theorem View.synced_foldl (v : View K) (events : List (WatchEvent (Keyed K))) :
    (events.foldl View.next v).synced = true ↔ v.synced = true ∨ .initDone ∈ events := by
  induction events generalizing v with
  | nil => simp
  | cons event rest ih =>
    rw [List.foldl_cons, ih]
    cases event <;> simp [View.next]

end Chapters

section Words
open Computability RegularExpression

/-- What is told of an object until it is gone: deletions before it is known, and then lives
that each begin with a creation and end with a deletion at least. -/
def wordsGone : RegularExpression Operation :=
  (char Operation.delete).star * (char Operation.create * (char Operation.update).star *
    (char Operation.delete * (char Operation.delete).star)).star

/-- What is told of an object that is kept since then. -/
def wordKept : RegularExpression Operation := char .create * (char .update).star

/-- What is told of an object over time. -/
def lives : RegularExpression Operation := wordsGone * (1 + wordKept)

/-- What can have been told of an object by now, if it is kept or if it is not. -/
def words : Bool → RegularExpression Operation
  | true => wordsGone * wordKept
  | false => wordsGone

theorem matches_wordsGone : wordsGone.matches' =
    {[.delete]}∗ * (wordKept.matches' * ({[.delete]} * {[.delete]}∗))∗ := rfl

theorem words_le_lives (kept : Bool) : (words kept).matches' ≤ lives.matches' := by
  cases kept with
  | false =>
    calc (words false).matches' = wordsGone.matches' * 1 := (mul_one _).symm
      _ ≤ wordsGone.matches' * (1 + wordKept.matches') := by gcongr; exact le_self_add
  | true =>
    show wordsGone.matches' * wordKept.matches' ≤ wordsGone.matches' * (1 + wordKept.matches')
    gcongr
    exact le_add_self

section Kleene
variable {L : Type} [KleeneAlgebra L] {d x : L}

theorem kstar_mul_kstar_mul_le (x d : L) : d∗ * (x * (d * d∗))∗ * d ≤ d∗ * (x * (d * d∗))∗ := by
  have ended : x * (d * d∗) * d ≤ x * (d * d∗) := by
    rw [mul_assoc, mul_assoc]
    gcongr
    exact kstar_mul_le_kstar
  generalize x * (d * d∗) = y at ended ⊢
  have unrolled : y∗ * d ≤ d + y∗ :=
    calc y∗ * d = (1 + y∗ * y) * d := by rw [one_add_kstar_mul]
      _ = d + y∗ * (y * d) := by rw [add_mul, one_mul, mul_assoc]
      _ ≤ d + y∗ * y := by gcongr
      _ ≤ d + y∗ := by gcongr; exact kstar_mul_le_kstar
  calc d∗ * y∗ * d = d∗ * (y∗ * d) := mul_assoc ..
    _ ≤ d∗ * (d + y∗) := by gcongr
    _ = d∗ * d + d∗ * y∗ := mul_add ..
    _ ≤ d∗ * y∗ :=
      add_le (kstar_mul_le_kstar.trans (le_mul_of_one_le_right' one_le_kstar)) le_rfl

theorem kstar_mul_mul_le (x d : L) : d∗ * (x * (d * d∗))∗ * x * d ≤ d∗ * (x * (d * d∗))∗ :=
  calc d∗ * (x * (d * d∗))∗ * x * d = d∗ * ((x * (d * d∗))∗ * (x * (d * 1))) := by
        simp only [mul_assoc, mul_one]
    _ ≤ d∗ * ((x * (d * d∗))∗ * (x * (d * d∗))) := by gcongr; exact one_le_kstar
    _ ≤ d∗ * (x * (d * d∗))∗ := by gcongr; exact kstar_mul_le_kstar

end Kleene

/-- A callback can follow: a creation of an object that is not kept, an update of one that is, or
a deletion of either. -/
def Fitting (op : Operation) (kept : Bool) : Prop :=
  op = .create ∧ kept = false ∨ op = .update ∧ kept = true ∨ op = .delete

theorem words_mul_char {kept : Bool} (fits : Fitting op kept) :
    (words kept).matches' * (char op).matches' ≤ (words (decide (op ≠ .delete))).matches' := by
  rcases fits with ⟨rfl, rfl⟩ | ⟨rfl, rfl⟩ | rfl
  · show wordsGone.matches' * {[.create]} ≤ wordsGone.matches' * ({[.create]} * {[.update]}∗)
    gcongr
    exact le_mul_of_one_le_right' one_le_kstar
  · show wordsGone.matches' * ({[.create]} * {[.update]}∗) * {[.update]} ≤
      wordsGone.matches' * ({[.create]} * {[.update]}∗)
    rw [mul_assoc, mul_assoc]
    gcongr
    exact kstar_mul_le_kstar
  · cases kept with
    | false =>
      show wordsGone.matches' * {[.delete]} ≤ wordsGone.matches'
      rw [matches_wordsGone]
      exact kstar_mul_kstar_mul_le ..
    | true =>
      show wordsGone.matches' * wordKept.matches' * {[.delete]} ≤ wordsGone.matches'
      rw [matches_wordsGone]
      exact kstar_mul_mul_le ..

theorem snoc_mem_words {kept : Bool} {word : List Operation} (fits : Fitting op kept)
    (member : word ∈ (words kept).matches') :
    word ++ [op] ∈ (words (decide (op ≠ .delete))).matches' :=
  words_mul_char fits (Language.append_mem_mul member (Set.mem_singleton [op]))

end Words

section Told

def operationsOn (key : ObjectKey) (past : List (Entry K ε)) : List Operation :=
  ((changesIn past).filter (·.key = key)).map (·.operation)

/-- The row of first callbacks about an object fits whether it is kept. -/
def Lived (key : ObjectKey) (s : State K) (past : List (Entry K ε)) : Prop :=
  operationsOn key past ∈ (words (s.cache.contains key)).matches'

theorem lived_initial (start : Nat) (key : ObjectKey) :
    Lived key (.initial start : State K) ([] : List (Entry K ε)) :=
  Language.append_mem_mul (Language.nil_mem_kstar _) (Language.nil_mem_kstar _)

theorem Called.changesIn (called : Called c op key object requeues u w t v es) :
    changesIn es = if requeues = 0 then [⟨op, key, object⟩] else [] := by
  rw [WatchLoop.changesIn, called.firstAttempts]
  split <;> rfl

theorem Lived.frame (before : Lived key s past)
    (others : ∀ x ∈ changesIn es, x.key ≠ key)
    (cache : t.cache.contains key = s.cache.contains key) : Lived key t (past ++ es) := by
  have silent : (changesIn es).filter (·.key = key) = [] :=
    List.filter_eq_nil_iff.mpr fun x member => by simpa using others x member
  have same : operationsOn key (past ++ es) = operationsOn key past := by
    simp only [operationsOn, changesIn_append, List.filter_append, silent, List.append_nil]
  rwa [Lived, same, cache]

theorem Called.lived (called : Called c op key object 0 u w t v es)
    (prepared : Prepared op key object s u) (fits : Fitting op (s.cache.contains key))
    (before : ∀ k, Lived k s past) (k : ObjectKey) : Lived k t (past ++ es) := by
  have told : WatchLoop.changesIn es = [⟨op, key, object⟩] := called.changesIn
  by_cases same : k = key
  · subst same
    have word : operationsOn k (past ++ es) = operationsOn k past ++ [op] := by
      simp [operationsOn, told]
    have after : t.cache.contains k = decide (op ≠ .delete) := by
      rw [Table.contains, called.get?_here prepared]
      by_cases delete : op = .delete <;> simp [delete]
    rw [Lived, word, after]
    exact snoc_mem_words fits (before k)
  · refine (before k).frame (fun x member => ?_) ?_
    · rw [told, List.mem_singleton] at member
      exact member ▸ Ne.symm same
    · rw [Table.contains, called.get?_others prepared k same, Table.contains]

theorem Called.lived_again (called : Called c op key object requeues u w t v es)
    (repeats : 0 < requeues) (same : u.cache = s.cache) (before : ∀ k, Lived k s past)
    (k : ObjectKey) : Lived k t (past ++ es) := by
  refine (before k).frame (fun x member => ?_) (by rw [called.cache, same])
  rw [called.changesIn, if_neg repeats.ne'] at member
  cases member

theorem Move.lived [Watched K] {step : Step K} (move : Move c step s w t v es)
    (repeating : Repeating s) (before : ∀ k, Lived k s past) (k : ObjectKey) :
    Lived k t (past ++ es) := by
  cases move with
  | relistStarted | seen | relistEnded | synced | polled | missed | recreated | gone =>
    exact (before k).frame (fun _ member => by cases member) rfl
  | @unchanged _ _ _ o old _ known _ =>
    refine (before k).frame (fun _ member => by cases member) ?_
    by_cases same : k = o.key <;> simp [Table.contains, same, known]
  | @created _ _ _ _ _ _ o shown unknown called =>
    refine called.lived (prepared_insert (by decide)) (.inl ⟨rfl, ?_⟩) before k
    simp [Table.contains, unknown]
  | updated shown known different called =>
    refine called.lived (prepared_insert (by decide)) (.inr (.inl ⟨rfl, ?_⟩)) before k
    simp [Table.contains, known]
  | deleted called | vanished _ called =>
    exact called.lived prepared_erase (.inr (.inr rfl)) before k
  | deletedAgain found _ _ called | keptAgain found _ _ called =>
    exact called.lived_again (repeating _ (List.mem_of_getElem? found)) (State.cache_take ..)
      before k

/-- A crash cuts the row short, but what it ends with was meant to be so. -/
theorem lived_runSteps [Watched K] {steps : List (Nat × Step K)} {start : Nat} (key : ObjectKey) :
    Lived key (runSteps c steps (.initial start) w).state
      (runSteps c steps (.initial start) w).trace := by
  let run := runSteps c steps (.initial start) w
  obtain ⟨t, meant, -, lived⟩ :
      ∃ t, run.Meant t ∧ Repeating t ∧ ∀ k, Lived k t ([] ++ run.trace) :=
    runSteps_preserve_meant (I := fun s _ past => Repeating s ∧ ∀ k, Lived k s past)
      (fun move before => ⟨move.effect.repeating before.1, move.lived before.1 before.2⟩)
      ⟨repeating_initial start, lived_initial start⟩
  rw [Lived, ← meant.cache]
  exact lived key

end Told

/-- The first callbacks about each object form a word of `lives`. Any two runs over the same events
agree, event by event, on what is kept and on what is told for the first time, up to the order of
the deletions that end a relist. -/
theorem first_callbacks_follow_events [Watched K] (c : Config K ω ε)
    (steps : List (Nat × Step K)) (start : Nat) (w : ω) :
    let run := runSteps c steps (.initial start) w
    (∀ key, operationsOn key run.trace ∈ lives.matches') ∧
    (run.crash = none →
      (run.state.synced = true ↔ .initDone ∈ eventsIn steps) ∧
      changesIn run.trace = (chapters c steps (.initial start) w).flatMap Chapter.told ∧
      ∀ {ω' ε' : Type} (c' : Config K ω' ε') (steps' : List (Nat × Step K)) (start' : Nat)
        (w' : ω'), c'.equivalent = c.equivalent → eventsIn steps' = eventsIn steps →
        (runSteps c' steps' (.initial start') w').crash = none →
        List.Forall₂ Chapter.Agrees (chapters c steps (.initial start) w)
          (chapters c' steps' (.initial start') w')) := by
  intro run
  refine ⟨fun key => words_le_lives _ (lived_runSteps key), fun ok => ?_⟩
  obtain ⟨each, told⟩ := chapters_agree (repeating_initial start) ok
  refine ⟨?_, told, fun c' steps' start' w' same events ok' => ?_⟩
  · have view := (story_runSteps (repeating_initial start) ok).1
    have synced : run.state.synced = run.state.view.synced := rfl
    rw [synced, view, View.synced_foldl]
    simp [State.view, State.initial]
  · obtain ⟨each', -⟩ := chapters_agree (repeating_initial start') ok'
    rw [same, events] at each'
    exact Chapter.agree_of_common each each'

/-- A creation is refused and repeated, once the object is no longer part of a relist; without
refusals and with the objects deleted the other way round, the events tell the same. -/
theorem refused_creation_tells_the_same :
    let shown : List (Nat × Step Node) := [(0, .event .asKept (.apply (bareNode "a"))),
      (0, .event .asKept (.apply (bareNode "b"))), (0, .event .asKept .init)]
    let backwards : SweepOrder := ⟨List.reverse, List.reverse_perm⟩
    let steps := shown ++ [(5, .fire 0), (5, .event .asKept .initDone)]
    let steps' := shown ++ [(0, .event backwards .initDone)]
    let run := runSteps (answering {}) steps (.initial 0) [true, false, true]
    let run' := runSteps (answering { maxRequeues := 0 }) steps' (.initial 0) []
    run.crash = none ∧ run'.crash = none ∧ eventsIn steps' = eventsIn steps ∧
      (attemptsIn run.trace).length = 5 ∧ (attemptsIn run'.trace).length = 4 ∧
      List.Forall₂ Chapter.Agrees (chapters (answering {}) steps (.initial 0) [true, false, true])
        (chapters (answering { maxRequeues := 0 }) steps' (.initial 0) []) ∧
      (changesIn run.trace).map (·.key.name) = ["a", "b", "a", "b"] ∧
      (changesIn run'.trace).map (·.key.name) = ["a", "b", "b", "a"] := by
  intro shown backwards steps steps' run run'
  have ok : run.crash = none := by decide
  have ok' : run'.crash = none := by decide
  have events : eventsIn steps' = eventsIn steps := rfl
  refine ⟨ok, ok', events, by decide, by decide, ?_, by decide, by decide⟩
  obtain ⟨-, -, agree⟩ :=
    (first_callbacks_follow_events (answering {}) steps 0 [true, false, true]).2 ok
  exact agree (answering { maxRequeues := 0 }) steps' 0 [] rfl events ok'

end GatewayEvents.WatchLoop
