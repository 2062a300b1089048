import GatewayEvents.Proofs.WatchLoop.Accounting
import GatewayEvents.Proofs.WatchLoop.FirstAttempts
import GatewayEvents.Proofs.WatchLoop.Timers

/-! Relists. A relist shows its objects one by one, and its end deletes what it did not show; that
the two together bring the loop to the list does not depend on what was kept before, nor on what
relists were begun and given up (`Showing`, `Showing.get?_done`). Of each object the relist tells
just the difference between what was kept and what is listed (`changesOf_story_relist`). -/
namespace GatewayEvents.WatchLoop

variable {K ω ε : Type}

/-- What leads from the object that was kept under a key to the one that is listed. -/
def reconciling (equivalent : K → K → Bool) (key : ObjectKey) :
    Option K → Option K → List (Change K)
  | none, none => []
  | none, some new => [⟨.create, key, new⟩]
  | some old, some new => if equivalent old new then [] else [⟨.update, key, new⟩]
  | some old, none => [⟨.delete, key, old⟩]

def changesOf (key : ObjectKey) (changes : List (Change K)) : List (Change K) :=
  changes.filter (·.key = key)

section Changes
variable {equivalent : K → K → Bool} {key k : ObjectKey} {old new : Option K}

@[simp] theorem changesOf_append (changes later : List (Change K)) :
    changesOf key (changes ++ later) = changesOf key changes ++ changesOf key later :=
  List.filter_append ..

theorem changesOf_of_ne {changes : List (Change K)} (others : ∀ x ∈ changes, x.key ≠ key) :
    changesOf key changes = [] := by
  simpa [changesOf, List.filter_eq_nil_iff] using others

theorem changesOf_of_eq {changes : List (Change K)} (own : ∀ x ∈ changes, x.key = key) :
    changesOf key changes = changes := by
  simpa [changesOf, List.filter_eq_self] using own

theorem key_of_reconciling {x : Change K} (member : x ∈ reconciling equivalent k old new) :
    x.key = k := by
  unfold reconciling at member
  split at member
  · cases member
  · rw [List.mem_singleton.mp member]
  · split at member
    · cases member
    · rw [List.mem_singleton.mp member]
  · rw [List.mem_singleton.mp member]

theorem changesOf_reconciling : changesOf key (reconciling equivalent k old new) =
    if k = key then reconciling equivalent k old new else [] := by
  by_cases same : k = key
  · rw [if_pos same]
    exact changesOf_of_eq fun x member => (key_of_reconciling member).trans same
  · rw [if_neg same]
    exact changesOf_of_ne fun x member => key_of_reconciling member ▸ same

theorem length_reconciling_le : (reconciling equivalent key old new).length ≤ 1 := by
  unfold reconciling
  split
  · exact Nat.zero_le _
  · exact Nat.le_refl _
  · split
    · exact Nat.zero_le _
    · exact Nat.le_refl _
  · exact Nat.le_refl _

theorem eq_of_perm_of_short {α : Type} {xs ys : List α} (perm : xs.Perm ys)
    (short : ys.length ≤ 1) : xs = ys := by
  match ys, short with
  | [], _ => exact List.perm_nil.mp perm
  | [y], _ => exact List.perm_singleton.mp perm

/-- What is told of an object if each of these keys is told of at most once. -/
theorem changesOf_filterMap {keys : List ObjectKey} (distinct : keys.Nodup)
    {tell : ObjectKey → Option (Change K)} (own : ∀ k x, tell k = some x → x.key = k) :
    changesOf key (keys.filterMap tell) = if key ∈ keys then (tell key).toList else [] := by
  induction keys with
  | nil => rfl
  | cons k rest ih =>
    obtain ⟨fresh, distinct⟩ := List.nodup_cons.mp distinct
    have later := ih distinct
    cases told : tell k with
    | none =>
      rw [List.filterMap_cons_none told, later]
      by_cases same : key = k
      · subst same
        simp [fresh, told]
      · simp [same]
    | some x =>
      rw [List.filterMap_cons_some told, ← List.singleton_append, changesOf_append, later]
      by_cases same : key = k
      · subst same
        simp [fresh, told, changesOf, own key x told]
      · have other : x.key ≠ key := own k x told ▸ Ne.symm same
        simp [same, changesOf, other]

theorem View.nodup_vanished (v : View K) : v.vanished.Nodup := by
  unfold View.vanished
  split
  · exact List.nodup_nil
  · exact v.cache.distinct.filter _

end Changes

section Listing
variable [Watched K] {equivalent : K → K → Bool} {v u : View K} {key : ObjectKey} {o : Keyed K}
  {listed : List (Keyed K)}

/-- The events of a relist that has shown these objects so far. -/
def showing (listed : List (Keyed K)) : List (WatchEvent (Keyed K)) :=
  .init :: listed.map .initApply

def listedAs? (key : ObjectKey) (listed : List (Keyed K)) : Option K :=
  (listed.find? (·.key = key)).map (·.object)

theorem listedAs?_cons : listedAs? key (o :: listed) =
    if o.key = key then some o.object else listedAs? key listed := by
  by_cases same : o.key = key <;> simp [listedAs?, same]

theorem listedAs?_of_fresh (fresh : key ∉ listed.map (·.key)) : listedAs? key listed = none := by
  simpa [listedAs?, List.find?_eq_none] using fresh

theorem listedAs?_eq_some_iff (distinct : (listed.map (·.key)).Nodup) {object : K} :
    listedAs? key listed = some object ↔ ∃ o ∈ listed, o.key = key ∧ o.object = object := by
  induction listed with
  | nil => simp [listedAs?]
  | cons o rest ih =>
    obtain ⟨fresh, distinct⟩ := List.nodup_cons.mp distinct
    rw [listedAs?_cons]
    by_cases same : o.key = key
    · subst same
      have others : ∀ p ∈ rest, p.key ≠ o.key := fun p member same =>
        fresh (List.mem_map.mpr ⟨p, member, same⟩)
      constructor
      · exact fun found => ⟨o, List.mem_cons_self, rfl, Option.some.inj (by simpa using found)⟩
      · rintro ⟨p, member, keyed, rfl⟩
        rcases List.mem_cons.mp member with rfl | later
        · simp
        · exact absurd keyed (others p later)
    · rw [if_neg same, ih distinct]
      simp [same]

/-- What a relist has made of the view `v` once it has shown these objects. -/
structure Showing (listed : List (Keyed K)) (v u : View K) : Prop where
  kept : ∀ key, u.cache.get? key = (listedAs? key listed).or (v.cache.get? key)
  seen : ∃ seen, u.relist = some seen ∧ ∀ key, key ∈ seen ↔ (listedAs? key listed).isSome

theorem shown_foldl (distinct : (listed.map (·.key)).Nodup) {seen : List ObjectKey}
    (relist : v.relist = some seen) :
    let u := (listed.map WatchEvent.initApply).foldl View.next v
    (∀ key, u.cache.get? key = (listedAs? key listed).or (v.cache.get? key)) ∧
    ∃ later, u.relist = some later ∧
      ∀ key, key ∈ later ↔ key ∈ seen ∨ (listedAs? key listed).isSome := by
  induction listed generalizing v seen with
  | nil => exact ⟨fun key => rfl, seen, relist, by simp [listedAs?]⟩
  | cons o rest ih =>
    obtain ⟨fresh, distinct⟩ := List.nodup_cons.mp distinct
    let marked := if seen.contains o.key then seen else o.key :: seen
    have begun : (v.next (.initApply o)).relist = some marked := by simp [View.next, relist, marked]
    have mem_marked : ∀ key, key ∈ marked ↔ key = o.key ∨ key ∈ seen := by
      intro key
      by_cases known : o.key ∈ seen
      · simp only [marked, List.contains_eq_mem, known, decide_true, if_true]
        exact ⟨.inr, fun either => either.elim (· ▸ known) id⟩
      · simp [marked, known]
    obtain ⟨kept, later, ended, mem_later⟩ := ih distinct begun
    refine ⟨fun key => ?_, later, ended, fun key => ?_⟩
    · rw [List.map_cons, List.foldl_cons, kept, listedAs?_cons]
      by_cases same : o.key = key
      · subst same
        simp [View.next, listedAs?_of_fresh fresh]
      · simp [View.next, same, Ne.symm same]
    · rw [mem_later, mem_marked, listedAs?_cons]
      by_cases same : o.key = key
      · simp [same]
      · simp [same, Ne.symm same]

theorem showing_foldl (distinct : (listed.map (·.key)).Nodup) :
    Showing listed v ((showing listed).foldl View.next v) := by
  obtain ⟨kept, seen, relist, marked⟩ := shown_foldl (v := v.next .init) distinct rfl
  exact ⟨kept, seen, relist, by simpa using marked⟩

theorem Showing.mem_vanished (shown : Showing listed v u) (key : ObjectKey) :
    key ∈ u.vanished ↔ listedAs? key listed = none ∧ (v.cache.get? key).isSome := by
  obtain ⟨seen, relist, marked⟩ := shown.seen
  have kept := Table.isSome_get? u.cache key
  simp only [View.vanished, relist, List.mem_filter, ← kept, shown.kept, Bool.not_eq_true',
    List.contains_eq_mem, decide_eq_false_iff_not, marked]
  cases listedAs? key listed <;> simp

theorem Showing.get?_done (shown : Showing listed v u) (key : ObjectKey) :
    (u.next .initDone).cache.get? key = listedAs? key listed := by
  simp only [View.next, Table.get?_foldl_erase, shown.mem_vanished, shown.kept]
  cases listedAs? key listed with
  | some new => simp
  | none => cases v.cache.get? key <;> simp

theorem View.shows_eq_reconciling : v.shows equivalent o =
    reconciling equivalent o.key (v.cache.get? o.key) (some o.object) := by
  unfold View.shows
  cases v.cache.get? o.key <;> rfl

theorem View.story_append (v : View K) (events later : List (WatchEvent (Keyed K))) :
    v.story equivalent (events ++ later) =
      v.story equivalent events ++ (events.foldl View.next v).story equivalent later := by
  induction events generalizing v with
  | nil => rfl
  | cons event rest ih => simp only [List.cons_append, View.story, ih, List.foldl_cons]

/-- What is told of an object while a relist shows its objects: nothing unless it is listed. -/
theorem changesOf_story_shown (equivalent : K → K → Bool) (key : ObjectKey) (v : View K)
    (distinct : (listed.map (·.key)).Nodup) :
    changesOf key (v.story equivalent (listed.map .initApply)).flatten =
      match listedAs? key listed with
      | none => []
      | some new => reconciling equivalent key (v.cache.get? key) (some new) := by
  induction listed generalizing v with
  | nil => rfl
  | cons o rest ih =>
    obtain ⟨fresh, distinct⟩ := List.nodup_cons.mp distinct
    rw [List.map_cons, View.story, List.flatten_cons, changesOf_append, ih _ distinct, View.tells,
      View.shows_eq_reconciling, changesOf_reconciling, listedAs?_cons]
    by_cases same : o.key = key
    · subst same
      simp [listedAs?_of_fresh fresh]
    · simp [View.next, same, Ne.symm same]

/-- What the end of a relist tells of an object: nothing unless it was kept and is not listed. -/
theorem Showing.changesOf_done (shown : Showing listed v u) :
    changesOf key (u.tells equivalent .initDone) =
      match listedAs? key listed with
      | none => reconciling equivalent key (v.cache.get? key) none
      | some _ => [] := by
  unfold View.tells
  rw [changesOf_filterMap u.nodup_vanished, shown.kept]
  · have vanished := shown.mem_vanished key
    cases listed : listedAs? key listed with
    | some new => simp [vanished, listed]
    | none =>
      cases kept : v.cache.get? key <;> simp [vanished, listed, kept, reconciling]
  · intro k x told
    obtain ⟨object, -, rfl⟩ := Option.map_eq_some_iff.mp told
    rfl

/-- A relist tells of each object what leads from the one kept to the one listed. -/
theorem changesOf_story_relist (distinct : (listed.map (·.key)).Nodup) :
    changesOf key (v.story equivalent (showing listed ++ [.initDone])).flatten =
      reconciling equivalent key (v.cache.get? key) (listedAs? key listed) := by
  have shown : Showing listed v ((showing listed).foldl View.next v) := showing_foldl distinct
  have told := changesOf_story_shown equivalent key (v.next .init) distinct
  rw [View.story_append, List.flatten_append, changesOf_append, View.story, View.story,
    List.flatten_singleton, shown.changesOf_done, showing, View.story, List.flatten_cons,
    changesOf_append, told]
  cases listedAs? key listed with
  | none => rfl
  | some new => exact List.append_nil _

end Listing

section Runs
variable [Watched K] {c : Config K ω ε} {steps : List (Nat × Step K)} {s : State K} {w : ω}

/-- The first callbacks of a run are those that its events tell, up to their order. -/
theorem changesIn_perm_story (before : Repeating s) (ok : (runSteps c steps s w).crash = none) :
    (changesIn (runSteps c steps s w).trace).Perm
      (s.view.story c.equivalent (eventsIn steps)).flatten := by
  obtain ⟨-, parts, told, each⟩ := story_runSteps before ok
  rw [told]
  exact List.Perm.flatten_congr each

/-- From any point of any run a relist goes through if its timers are early enough. Then just the
listed objects are kept, and each object was told of once at most: as created, updated or deleted,
if it changed. -/
theorem relist_reconciles (c : Config K ω ε) (earlier relist : List (Nat × Step K)) (start : Nat)
    (w : ω) (listed : List (Keyed K)) (distinct : (listed.map (·.key)).Nodup)
    (shown : eventsIn relist = showing listed ++ [.initDone])
    (reached : (runSteps c earlier (.initial start) w).crash = none) :
    let before := runSteps c earlier (.initial start) w
    let after := runSteps c relist before.state before.world
    ((∀ entry ∈ relist, Early c.policy start entry.1) → after.crash = none) ∧
    (after.crash = none →
      (∀ key object, after.state.cache.get? key = some object ↔
        ∃ o ∈ listed, o.key = key ∧ o.object = object) ∧
      after.state.relist = none ∧ after.state.synced = true ∧
      ∀ key, changesOf key (changesIn after.trace) =
        reconciling c.equivalent key (before.state.cache.get? key) (listedAs? key listed)) := by
  intro before after
  have origin : before.state.retries.origin = start := origin_runSteps
  refine ⟨fun early => crash_none_of_early (origin ▸ early), fun ok => ?_⟩
  have repeating : Repeating before.state := repeating_runSteps reached
  have view : after.state.view =
      ((showing listed).foldl View.next before.state.view).next .initDone := by
    rw [(story_runSteps repeating ok).1, shown, List.foldl_append]
    rfl
  have told : (changesIn after.trace).Perm
      (before.state.view.story c.equivalent (showing listed ++ [.initDone])).flatten :=
    shown ▸ changesIn_perm_story repeating ok
  refine ⟨fun key object => ?_, congrArg View.relist view, congrArg View.synced view,
    fun key => ?_⟩
  · have kept := (showing_foldl (v := before.state.view) distinct).get?_done key
    rw [← view, State.cache_view] at kept
    rw [kept]
    exact listedAs?_eq_some_iff distinct
  · have own := told.filter (·.key = key)
    rw [← changesOf, ← changesOf, changesOf_story_relist distinct] at own
    exact eq_of_perm_of_short own length_reconciling_le

/-- A relist is given up after it showed a new node; the next one lists neither that node nor one
of the others, and of those it lists one in a new version, whose creation is repeated meanwhile. -/
theorem relist_reconciles_after_another :
    let earlier : List (Nat × Step Node) :=
      [(0, .event .asKept (.apply (versioned "a" "1"))),
        (0, .event .asKept (.apply (versioned "b" "1"))),
        (0, .event .asKept (.apply (versioned "c" "1"))), (1, .event .asKept .init),
        (1, .event .asKept (.initApply (versioned "d" "1")))]
    let relist : List (Nat × Step Node) :=
      [(4, .event .asKept .init), (4, .event .asKept (.initApply (versioned "a" "2"))),
        (5, .fire 0), (5, .event .asKept (.initApply (versioned "c" "1"))),
        (6, .event .asKept .initDone)]
    let listed := [versioned "a" "2", versioned "c" "1"]
    let before := runSteps (answering {}) earlier (.initial 0) [true]
    let after := runSteps (answering {}) relist before.state before.world
    (listed.map (·.key)).Nodup ∧ eventsIn relist = showing listed ++ [.initDone] ∧
      before.crash = none ∧ before.state.relist.isSome ∧
      (∀ entry ∈ relist, Early {} 0 entry.1) ∧ after.crash = none ∧
      (attemptsIn after.trace).map (fun a => (a.operation, a.key.name, a.requeues)) =
        [(.update, "a", 0), (.create, "a", 1), (.delete, "b", 0), (.delete, "d", 0)] ∧
      (∀ key object, after.state.cache.get? key = some object ↔
        ∃ o ∈ listed, o.key = key ∧ o.object = object) ∧
      changesOf ⟨"b", none⟩ (changesIn after.trace) =
        [⟨.delete, ⟨"b", none⟩, (versioned "b" "1").object⟩] ∧
      changesOf ⟨"c", none⟩ (changesIn after.trace) = [] := by
  intro earlier relist listed before after
  have distinct : (listed.map (·.key)).Nodup := by decide
  have shown : eventsIn relist = showing listed ++ [.initDone] := rfl
  have reached : before.crash = none := by decide
  have early : ∀ entry ∈ relist, Early {} 0 entry.1 := by decide
  obtain ⟨goes, reconciled⟩ :=
    relist_reconciles (answering {}) earlier relist 0 [true] listed distinct shown reached
  have ok : after.crash = none := goes early
  obtain ⟨kept, -, -, told⟩ := reconciled ok
  have known : before.state.cache.get? ⟨"b", none⟩ = some (versioned "b" "1").object := by rfl
  have same : before.state.cache.get? ⟨"c", none⟩ = some (versioned "c" "1").object := by rfl
  refine ⟨distinct, shown, reached, by decide, early, ok, by decide, ?_, ?_, ?_⟩
  · simpa only [before, after] using kept
  · rw [told, known]
    rfl
  · rw [told, same]
    rfl

end Runs

end GatewayEvents.WatchLoop
