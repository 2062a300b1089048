import GatewayEvents.Proofs.WatchLoop.Objects
import Mathlib.Data.Multiset.AddSub

/-! What a loop does about one object. Seen from one key, the shared cache, the relist and the
queue come down to what is kept under the key, whether the relist has shown it, and the retries
and callbacks about it (`Aspect`); and the work that concerns the key comes down to a few acts
(`Act`). If the callback answers about an object by what it was asked about that object alone
(`Config.Separate`), a step leaves of an object what its acts make of it and nothing else
(`leaves_step`), and so does a run (`aspect_runSteps`). -/
namespace GatewayEvents.WatchLoop

variable {K ω ε : Type}

/-- What a callback is asked. -/
structure Request (K : Type) where
  operation : Operation
  object : K
  requeues : Nat

def Attempt.request (a : Attempt K ε) : Request K := ⟨a.operation, a.object, a.requeues⟩

def requestsIn (past : List (Entry K ε)) : List (Request K) :=
  (attemptsIn past).map Attempt.request

/-- The world after these callbacks. -/
def Config.worldAfter (c : Config K ω ε) (w : ω) (asked : List (Request K)) : ω :=
  asked.foldl (fun w q => (c.callback q.operation q.object q.requeues w).world) w

/-- Whether a callback asks to be run again, if these were made before it. -/
def Config.answers (c : Config K ω ε) (w : ω) (asked : List (Request K)) (q : Request K) : Bool :=
  (c.callback q.operation q.object q.requeues (c.worldAfter w asked)).requeue

def regarding [Watched K] (key : ObjectKey) (asked : List (Request K)) : List (Request K) :=
  asked.filter fun q => Watched.key? q.object = some key

/-- The callback answers about an object by what it was asked about that object before, whatever
it was asked about others in the meantime. -/
def Config.Separate [Watched K] (c : Config K ω ε) (w : ω) : Prop :=
  ∀ key asked other q, Watched.key? q.object = some key →
    regarding key asked = regarding key other → c.answers w asked q = c.answers w other q

/-- A loop as far as it has to do with one object. `seen` tells whether the relist has shown the
object, while one is going on. -/
@[ext]
structure Aspect (K : Type) where
  cached : Option K
  seen : Option Bool
  queued : Multiset (Retry K)
  told : List (Request K × Bool)

def queuedFor (key : ObjectKey) (s : State K) : Multiset (Retry K) :=
  (s.retries.toList.filter (·.key = key) : List (Retry K))

/-- Where a loop stands with the object under a key. -/
def aspect (key : ObjectKey) (s : State K) (past : List (Entry K ε)) : Aspect K where
  cached := s.cache.get? key
  seen := s.relist.map (·.contains key)
  queued := queuedFor key s
  told := ((attemptsIn past).filter (·.key = key)).map fun a => (a.request, a.requeue)

/-- What can happen to an object: a watch event that concerns it, or the firing of a retry. -/
inductive Act (K : Type) [Watched K] where
  | heard (event : WatchEvent (Keyed K))
  | fired (r : Retry K)

/-! A loop that has to do with one object only, of a callback that began in the world `w`. -/
namespace Aspect
section Alone
variable (c : Config K ω ε) (w : ω) (key : ObjectKey)

/-- A callback, which answers by what it was asked about the object before. -/
def call (x : Aspect K) (q : Request K) : Aspect K :=
  let answer := c.answers w (x.told.map Prod.fst) q
  { x with
    queued := if answer && c.policy.allowsRequeue q.requeues then
        ⟨q.operation, key, q.object, q.requeues + 1⟩ ::ₘ x.queued
      else x.queued
    told := x.told ++ [(q, answer)] }

def apply (x : Aspect K) (object : K) : Aspect K :=
  let kept := { x with cached := some object }
  match x.cached with
  | none => kept.call c w key ⟨.create, object, 0⟩
  | some old =>
    if c.equivalent old object then kept else kept.call c w key ⟨.update, object, 0⟩

def erase (x : Aspect K) : Aspect K :=
  match x.cached with
  | none => x
  | some object => { x with cached := none }.call c w key ⟨.delete, object, 0⟩

def hear [Watched K] (x : Aspect K) : WatchEvent (Keyed K) → Aspect K
  | .init => { x with seen := some false }
  | .initApply o => { x with seen := x.seen.map fun _ => true }.apply c w key o.object
  | .initDone =>
    let ended := { x with seen := none }
    if x.seen = some false then ended.erase c w key else ended
  | .apply o => x.apply c w key o.object
  | .delete o => { x with cached := none }.call c w key ⟨.delete, o.object, 0⟩

def again (x : Aspect K) (r : Retry K) : Aspect K :=
  match r.operation, x.cached with
  | .delete, some _ => x
  | .delete, none => x.call c w key ⟨.delete, r.object, r.requeues⟩
  | op, some latest => x.call c w key ⟨op, latest, r.requeues⟩
  | _, none => x

-- retries are told apart as they are: objects need not come with a test for equality
open Classical in
noncomputable def after [Watched K] (x : Aspect K) : Act K → Aspect K
  | .heard event => x.hear c w key event
  | .fired r => { x with queued := x.queued.erase r }.again c w key r

end Alone
end Aspect

def concerns [Watched K] (key : ObjectKey) : WatchEvent (Keyed K) → Bool
  | .init | .initDone => true
  | .initApply o | .apply o | .delete o => o.key = key

/-- What a step does that concerns an object, if anything. -/
def Step.act? [Watched K] (key : ObjectKey) (s : State K) : Step K → Option (Act K)
  | .event _ reported => if concerns key reported then some (.heard reported) else none
  | .poll => none
  | .fire index => (s.retries.toList[index]?.filter (·.key = key)).map .fired

/-- What a run does that concerns an object, step by step. -/
def actsOn [Watched K] (c : Config K ω ε) (key : ObjectKey) :
    List (Nat × Step K) → State K → ω → List (Act K)
  | [], _, _ => []
  | (now, first) :: rest, s, w =>
    let r := step c now s w first
    (first.act? key s).toList ++ actsOn c key rest r.state r.world

/-- The objects of a loop were brought to it, and its world comes of its callbacks. -/
structure Traced [Watched K] (objects : List (Keyed K)) (c : Config K ω ε) (origin : ω)
    (s : State K) (w : ω) (past : List (Entry K ε)) : Prop extends Supplied objects s past where
  world : w = c.worldAfter origin (requestsIn past)

variable {c : Config K ω ε} {now : Nat} {op : Operation} {key other : ObjectKey} {object : K}
  {requeues : Nat} {s t u : State K} {w v origin : ω} {es past : List (Entry K ε)}

@[simp] theorem requestsIn_append (past es : List (Entry K ε)) :
    requestsIn (past ++ es) = requestsIn past ++ requestsIn es := by
  simp only [requestsIn, attemptsIn_append, List.map_append]

theorem aspect_of_silent (silent : attemptsIn es = []) :
    aspect key s (past ++ es) = aspect key s past := by
  simp only [aspect, attemptsIn_append, silent, List.append_nil]

theorem aspect_insert_self (key : ObjectKey) (object : K) :
    aspect key { s with cache := s.cache.insert key object } past =
      { aspect key s past with cached := some object } := by
  simp [aspect, queuedFor]

theorem aspect_insert_other (apart : other ≠ key) :
    aspect key { s with cache := s.cache.insert other object } past = aspect key s past := by
  simp [aspect, queuedFor, Ne.symm apart]

theorem aspect_erase_self (key : ObjectKey) :
    aspect key { s with cache := s.cache.erase key } past =
      { aspect key s past with cached := none } := by
  simp [aspect, queuedFor]

theorem aspect_erase_other (apart : other ≠ key) :
    aspect key { s with cache := s.cache.erase other } past = aspect key s past := by
  simp [aspect, queuedFor, Ne.symm apart]

theorem aspect_markSeen_self (key : ObjectKey) :
    aspect key (markSeen key s) past =
      { aspect key s past with seen := (aspect key s past).seen.map fun _ => true } := by
  refine Aspect.ext rfl ?_ rfl rfl
  cases relist : s.relist with
  | none => simp [aspect, markSeen, relist]
  | some seen => by_cases shown : key ∈ seen <;> simp [aspect, markSeen, relist, shown]

theorem aspect_markSeen_other (apart : other ≠ key) :
    aspect key (markSeen other s) past = aspect key s past := by
  refine Aspect.ext rfl ?_ rfl rfl
  cases relist : s.relist with
  | none => simp [aspect, markSeen, relist]
  | some seen =>
    by_cases shown : other ∈ seen <;> simp [aspect, markSeen, relist, shown, Ne.symm apart]

theorem Aspect.again_of_delete {x : Aspect K} {r : Retry K} (delete : r.operation = .delete) :
    x.again c origin key r = match x.cached with
      | some _ => x
      | none => x.call c origin key ⟨.delete, r.object, r.requeues⟩ := by
  unfold Aspect.again
  rw [delete]
  cases x.cached <;> rfl

theorem Aspect.again_of_keep {x : Aspect K} {r : Retry K} (keep : r.operation ≠ .delete) :
    x.again c origin key r = match x.cached with
      | some latest => x.call c origin key ⟨r.operation, latest, r.requeues⟩
      | none => x := by
  unfold Aspect.again
  cases op : r.operation with
  | delete => exact absurd op keep
  | create | update => cases x.cached <;> rfl

theorem queuedFor_take (key : ObjectKey) {index : Nat} {r : Retry K}
    (found : s.retries.toList[index]? = some r) :
    queuedFor key s =
      if r.key = key then r ::ₘ queuedFor key (s.take index) else queuedFor key (s.take index) := by
  have split := (State.perm_take found).filter (·.key = key)
  by_cases here : r.key = key
  · rw [if_pos here]
    rw [List.filter_cons_of_pos (by simpa using here)] at split
    exact Multiset.coe_eq_coe.mpr split
  · rw [if_neg here]
    rw [List.filter_cons_of_neg (by simpa using here)] at split
    exact Multiset.coe_eq_coe.mpr split

theorem Called.relist (called : Called c op key object requeues u w t v es) :
    t.relist = u.relist := by
  cases called <;> rfl

theorem Called.queued_other (called : Called c op other object requeues u w t v es)
    (apart : other ≠ key) : queuedFor key t = queuedFor key u := by
  cases called with
  | settled | dropped => rfl
  | requeued _ _ grown =>
    have queued := grown.filter (·.key = key)
    rw [List.filter_cons_of_neg (by simpa using apart)] at queued
    exact Multiset.coe_eq_coe.mpr queued

theorem Called.queued_self (called : Called c op key object requeues u w t v es) :
    queuedFor key t =
      if (c.made op key object requeues w).requeue && c.policy.allowsRequeue requeues then
        ⟨op, key, object, requeues + 1⟩ ::ₘ queuedFor key u
      else queuedFor key u := by
  cases called with
  | settled no => simp [no]
  | dropped yes spent => simp [yes, spent]
  | requeued yes allowed grown =>
    have queued := grown.filter (·.key = key)
    rw [List.filter_cons_of_pos (by simp)] at queued
    rw [yes, allowed, Bool.and_self, if_pos rfl]
    exact Multiset.coe_eq_coe.mpr queued

theorem Called.aspect_other (called : Called c op other object requeues u w t v es)
    (apart : other ≠ key) : aspect key t (past ++ es) = aspect key u past := by
  have told : (aspect key t (past ++ es)).told = (aspect key u past).told := by
    simp [aspect, called.attempts, Config.made, apart]
  exact Aspect.ext (congrArg (·.get? key) called.cache)
    (congrArg (·.map (·.contains key)) called.relist) (called.queued_other apart) told

section Callbacks
variable [Watched K] {objects : List (Keyed K)}

theorem Traced.of_silent (before : Traced objects c origin s w past)
    (kept : ∀ k o, t.cache.get? k = some o → Among objects k o)
    (queued : ∀ r ∈ t.retries.toList, r ∈ s.retries.toList) (silent : attemptsIn es = []) :
    Traced objects c origin t w (past ++ es) where
  kept := kept
  queued r member := before.queued r (queued r member)
  told a member := before.told a (by simpa [silent] using member)
  world := by
    rw [requestsIn_append, requestsIn, requestsIn, silent, List.map_nil, List.append_nil]
    exact before.world

theorem Called.traced (called : Called c op key object requeues u w t v es)
    (before : Traced objects c origin s w past) (prepared : Prepared op key object s u)
    (among : Among objects key object) : Traced objects c origin t v (past ++ es) where
  toSupplied := called.supplied before.toSupplied prepared among
  world := by
    rw [called.world, before.world, requestsIn_append, Config.worldAfter, Config.worldAfter,
      List.foldl_append, requestsIn, requestsIn, called.attempts]
    rfl

/-- What was asked about an object is what its aspect tells. -/
theorem Supplied.regarding (supplied : Supplied objects s past) (key : ObjectKey) :
    regarding key (requestsIn past) = (aspect key s past).told.map Prod.fst := by
  have own : ∀ a ∈ attemptsIn past,
      decide (Watched.key? a.request.object = some key) = decide (a.key = key) := by
    intro a member
    have keyed : Watched.key? a.request.object = some a.key := (supplied.told a member).keyed
    simp only [keyed, Option.some.injEq]
  rw [WatchLoop.regarding, requestsIn, List.filter_map, aspect, List.map_map]
  exact congrArg (List.map _) (List.filter_congr own)

/-- A callback about the object itself: the answer depends on what was told of it. -/
theorem Called.aspect_self (separate : c.Separate origin)
    (called : Called c op key object requeues u w t v es)
    (before : Traced objects c origin s w past) (among : Among objects key object) :
    aspect key t (past ++ es) =
      (aspect key u past).call c origin key ⟨op, object, requeues⟩ := by
  have answer : (c.made op key object requeues w).requeue =
      c.answers origin ((aspect key u past).told.map Prod.fst) ⟨op, object, requeues⟩ := by
    rw [before.world]
    refine separate key _ _ ⟨op, object, requeues⟩ among.keyed ?_
    have told := before.toSupplied.regarding key
    rw [show (aspect key u past).told = (aspect key s past).told from rfl, ← told]
    simp only [WatchLoop.regarding, List.filter_filter, Bool.and_self]
  have told : (aspect key t (past ++ es)).told = (aspect key u past).told ++
      [(⟨op, object, requeues⟩, (c.made op key object requeues w).requeue)] := by
    simp [aspect, called.attempts, Config.made, Attempt.request]
  rw [Aspect.call, ← answer]
  exact Aspect.ext (congrArg (·.get? key) called.cache)
    (congrArg (·.map (·.contains key)) called.relist) called.queued_self told

/-- The run ends, or was meant to end, with this aspect of an object. -/
def Run.Leaves (objects : List (Keyed K)) (c : Config K ω ε) (origin : ω) (key : ObjectKey)
    (past : List (Entry K ε)) (r : Run K ω ε) (x : Aspect K) : Prop :=
  ∃ t, r.Meant t ∧ Traced objects c origin t r.world (past ++ r.trace) ∧
    aspect key t (past ++ r.trace) = x

theorem Run.Leaves.of_crash_none {r : Run K ω ε} {x : Aspect K}
    (leaves : r.Leaves objects c origin key past x) (ok : r.crash = none) :
    Traced objects c origin r.state r.world (past ++ r.trace) ∧
      aspect key r.state (past ++ r.trace) = x := by
  obtain ⟨t, meant, after⟩ := leaves
  exact meant.eq_state ok ▸ after

theorem Run.Leaves.after {r : Run K ω ε} {x : Aspect K}
    (leaves : r.Leaves objects c origin key (past ++ es) x) :
    (r.after es).Leaves objects c origin key past x := by
  obtain ⟨t, meant, after⟩ := leaves
  refine ⟨t, meant.after, ?_⟩
  rwa [Run.world_after, Run.trace_after, ← List.append_assoc]

theorem leaves_silent (before : Traced objects c origin s w past)
    (kept : ∀ k o, t.cache.get? k = some o → Among objects k o)
    (queued : ∀ r ∈ t.retries.toList, r ∈ s.retries.toList) (silent : attemptsIn es = []) :
    (⟨t, w, es, none⟩ : Run K ω ε).Leaves objects c origin key past (aspect key t past) :=
  ⟨t, .whole rfl, before.of_silent kept queued silent, aspect_of_silent silent⟩

theorem leaves_call (now requeues : Nat) (separate : c.Separate origin)
    (before : Traced objects c origin s w past) (prepared : Prepared op key object s u)
    (among : Among objects key object) :
    (attempt c now op key object requeues u w).Leaves objects c origin key past
      ((aspect key u past).call c origin key ⟨op, object, requeues⟩) := by
  obtain ⟨t, meant, called⟩ := meant_attempt c now op key object requeues u w
  exact ⟨t, meant, called.traced before prepared among,
    called.aspect_self separate before among⟩

theorem leaves_elsewhere (now requeues : Nat) (before : Traced objects c origin s w past)
    (prepared : Prepared op other object s u) (among : Among objects other object)
    (apart : other ≠ key) :
    (attempt c now op other object requeues u w).Leaves objects c origin key past
      (aspect key u past) := by
  obtain ⟨t, meant, called⟩ := meant_attempt c now op other object requeues u w
  exact ⟨t, meant, called.traced before prepared among, called.aspect_other apart⟩

theorem leaves_apply_self (now : Nat) (separate : c.Separate origin)
    (before : Traced objects c origin s w past) {o : Keyed K} (member : o ∈ objects) :
    (apply c now o.object o.key s w).Leaves objects c origin o.key past
      ((aspect o.key s past).apply c origin o.key o.object) := by
  have among : Among objects o.key o.object := ⟨o, member, rfl, rfl⟩
  have kept : aspect o.key { s with cache := s.cache.insert o.key o.object } past =
      { aspect o.key s past with cached := some o.object } := aspect_insert_self o.key o.object
  unfold apply Aspect.apply
  rw [← kept]
  cases known : s.cache.get? o.key with
  | none =>
    simp only [aspect, known]
    exact leaves_call _ _ separate before (prepared_insert (by decide)) among
  | some old =>
    simp only [aspect, known]
    cases equivalent : c.equivalent old o.object with
    | true =>
      simp only [if_true]
      exact leaves_silent before (before.kept_insert among) (fun _ member => member) rfl
    | false =>
      simp only [Bool.false_eq_true, if_false]
      exact leaves_call _ _ separate before (prepared_insert (by decide)) among

theorem leaves_apply_other (now : Nat) (before : Traced objects c origin s w past) {o : Keyed K}
    (member : o ∈ objects) (apart : o.key ≠ key) :
    (apply c now o.object o.key s w).Leaves objects c origin key past (aspect key s past) := by
  have among : Among objects o.key o.object := ⟨o, member, rfl, rfl⟩
  unfold apply
  rw [← aspect_insert_other (s := s) apart]
  cases s.cache.get? o.key with
  | none => exact leaves_elsewhere _ _ before (prepared_insert (by decide)) among apart
  | some old =>
    cases equivalent : c.equivalent old o.object with
    | true =>
      simp only [equivalent, if_true]
      exact leaves_silent before (before.kept_insert among) (fun _ member => member) rfl
    | false =>
      simp only [equivalent, Bool.false_eq_true, if_false]
      exact leaves_elsewhere _ _ before (prepared_insert (by decide)) among apart

/-- Nothing but the object itself can crash the work: it does not crash, or it is about no other
object. -/
def Run.Undisturbed (objects : List (Keyed K)) (key : ObjectKey) (r : Run K ω ε) : Prop :=
  r.crash = none ∨ ∀ o ∈ objects, o.key = key

theorem Run.Undisturbed.andThen {r : Run K ω ε} {next : State K → ω → Run K ω ε}
    (undisturbed : (r.andThen next).Undisturbed objects key) (ok : r.crash = none) :
    (next r.state r.world).Undisturbed objects key := by
  rwa [Run.andThen_of_crash_none ok] at undisturbed

theorem Run.Leaves.andThen {r : Run K ω ε} {next : State K → ω → Run K ω ε} {x y : Aspect K}
    (first : r.Leaves objects c origin key past x) (ok : r.crash = none)
    (later : Traced objects c origin r.state r.world (past ++ r.trace) →
      aspect key r.state (past ++ r.trace) = x →
      (next r.state r.world).Leaves objects c origin key (past ++ r.trace) y) :
    (r.andThen next).Leaves objects c origin key past y := by
  obtain ⟨traced, leaves⟩ := first.of_crash_none ok
  rw [Run.andThen_of_crash_none ok]
  exact (later traced leaves).after

theorem leaves_vanished (now : Nat) (key : ObjectKey) (separate : c.Separate origin)
    (before : Traced objects c origin s w past) (known : s.cache.get? other = some object) :
    ((attempt c now .delete other object 0 { s with cache := s.cache.erase other } w).after
        [.vanished other]).Leaves objects c origin key past
      (if other = key then (aspect key s past).erase c origin key else aspect key s past) := by
  have among := before.kept other object known
  have noted : Traced objects c origin s w (past ++ [.vanished other]) :=
    before.of_silent before.kept (fun _ member => member) rfl
  refine Run.Leaves.after ?_
  by_cases here : other = key
  · subst here
    have leaves := leaves_call now 0 separate noted prepared_erase among
    rw [if_pos rfl]
    rw [aspect_of_silent rfl, aspect_erase_self] at leaves
    simpa only [Aspect.erase, aspect, known] using leaves
  · have leaves := leaves_elsewhere now 0 noted prepared_erase among here
    rw [if_neg here]
    rwa [aspect_of_silent rfl, aspect_erase_other here] at leaves

theorem leaves_sweep (separate : c.Separate origin) (before : Traced objects c origin s w past)
    {keys : List ObjectKey} (distinct : keys.Nodup)
    (undisturbed : (sweep c now keys s w).Undisturbed objects key) :
    (sweep c now keys s w).Leaves objects c origin key past
      (if key ∈ keys then (aspect key s past).erase c origin key else aspect key s past) := by
  induction keys generalizing s w past with
  | nil => exact leaves_silent before before.kept (fun _ member => member) rfl
  | cons other rest ih =>
    obtain ⟨fresh, distinct⟩ := List.nodup_cons.mp distinct
    unfold sweep at undisturbed ⊢
    cases known : s.cache.get? other with
    | none =>
      simp only [known] at undisturbed ⊢
      have leaves := ih before distinct undisturbed
      by_cases here : other = key
      · subst here
        simpa [fresh, Aspect.erase, aspect, known] using leaves
      · simpa [Ne.symm here] using leaves
    | some object =>
      simp only [known] at undisturbed ⊢
      have first := leaves_vanished now key separate before known
      generalize (attempt c now .delete other object 0
        { s with cache := s.cache.erase other } w).after [.vanished other] = r
        at first undisturbed ⊢
      by_cases here : other = key
      · subst here
        rw [if_pos rfl] at first
        rw [if_pos List.mem_cons_self]
        -- the object's own callback may crash the sweep, which then is over for all others
        cases crash : r.crash with
        | some _ => rwa [Run.andThen_of_refused crash]
        | none =>
          refine first.andThen crash fun traced leaves => ?_
          have later := ih traced distinct (undisturbed.andThen crash)
          rwa [if_neg fresh, leaves] at later
      · have ok : r.crash = none := by
          refine undisturbed.elim Run.crash_none_of_andThen fun single => ?_
          obtain ⟨o, member, same, -⟩ := before.kept other object known
          exact absurd (same.symm.trans (single o member)) here
        rw [if_neg here] at first
        refine first.andThen ok fun traced leaves => ?_
        have later := ih traced distinct (undisturbed.andThen ok)
        rw [leaves] at later
        simpa [Ne.symm here] using later

theorem Run.Leaves.synced {r : Run K ω ε} {x : Aspect K}
    (leaves : r.Leaves objects c origin key past x) :
    (r.andThen markSynced).Leaves objects c origin key past x := by
  cases crash : r.crash with
  | some _ => rwa [Run.andThen_of_refused crash]
  | none =>
    refine leaves.andThen crash fun traced same => ?_
    subst same
    exact leaves_silent traced traced.kept (fun _ member => member) rfl

/-- The end of a relist deletes an object that is kept and was not shown. -/
theorem leaves_finishRelist (separate : c.Separate origin)
    (before : Traced objects c origin s w past) {order : SweepOrder}
    (undisturbed : (finishRelist c now order s w).Undisturbed objects key) :
    (finishRelist c now order s w).Leaves objects c origin key past
      ((aspect key s past).hear c origin key .initDone) := by
  unfold finishRelist at undisturbed ⊢
  have swept := undisturbed.imp_left Run.crash_none_of_andThen
  refine Run.Leaves.synced ?_
  cases relist : s.relist with
  | none =>
    have heard : (aspect key s past).hear c origin key .initDone = aspect key s past := by
      simp [Aspect.hear, aspect, relist]
    rw [heard]
    exact leaves_silent before before.kept (fun _ member => member) rfl
  | some seen =>
    simp only [relist] at swept
    have ended : Traced objects c origin { s with relist := none } w past :=
      ⟨⟨before.kept, before.queued, before.told⟩, before.world⟩
    have distinct : (order.arrange (unseen s seen)).Nodup :=
      (order.perm _).nodup_iff.mpr (s.cache.distinct.filter _)
    have listed : key ∈ order.arrange (unseen s seen) ↔
        (s.cache.get? key).isSome ∧ seen.contains key = false := by
      rw [(order.perm _).mem_iff, unseen, List.mem_filter, Table.isSome_get?, Bool.not_eq_true']
    have heard : (aspect key s past).hear c origin key .initDone =
        if key ∈ order.arrange (unseen s seen) then
          (aspect key { s with relist := none } past).erase c origin key
        else aspect key { s with relist := none } past := by
      have known : (aspect key s past).seen = some (seen.contains key) := by
        simp only [aspect, relist, Option.map_some]
      simp only [Aspect.hear, known, listed]
      cases seen.contains key with
      | true => simp [aspect, queuedFor]
      | false => cases kept : s.cache.get? key <;> simp [aspect, queuedFor, Aspect.erase, kept]
    rw [heard]
    exact leaves_sweep separate ended distinct swept

section Firing

variable {index : Nat} {r : Retry K}

theorem leaves_take (before : Traced objects c origin s w past)
    (found : s.retries.toList[index]? = some r) (silent : attemptsIn es = []) :
    (⟨s.take index, w, es, none⟩ : Run K ω ε).Leaves objects c origin key past
      (aspect key (s.take index) past) :=
  leaves_silent before before.kept
    (fun _ member => (State.perm_take found).mem_iff.mpr (List.mem_cons_of_mem _ member)) silent

theorem leaves_retry_self (now : Nat) (separate : c.Separate origin)
    (before : Traced objects c origin s w past) (found : s.retries.toList[index]? = some r) :
    (retry c now r (s.take index) w).Leaves objects c origin r.key past
      ((aspect r.key (s.take index) past).again c origin r.key r) := by
  have among := before.queued r (List.mem_of_getElem? found)
  have cached : (aspect r.key (s.take index) past).cached = s.cache.get? r.key := rfl
  by_cases delete : r.operation = .delete
  · rw [retry_of_delete delete, Aspect.again_of_delete delete, cached, State.cache_take]
    cases known : s.cache.get? r.key with
    | some latest => exact leaves_take before found rfl
    | none =>
      exact leaves_call _ _ separate before (prepared_take found (by simpa using known)) among
  · rw [retry_of_keep delete, Aspect.again_of_keep delete, cached, State.cache_take]
    cases known : s.cache.get? r.key with
    | some latest =>
      exact leaves_call _ _ separate before (prepared_take found (by simpa [delete] using known))
        (before.kept r.key latest known)
    | none => exact leaves_take before found rfl

theorem leaves_retry_other (now : Nat) (before : Traced objects c origin s w past)
    (found : s.retries.toList[index]? = some r) (apart : r.key ≠ key) :
    (retry c now r (s.take index) w).Leaves objects c origin key past
      (aspect key (s.take index) past) := by
  have among := before.queued r (List.mem_of_getElem? found)
  by_cases delete : r.operation = .delete
  · rw [retry_of_delete delete, State.cache_take]
    cases known : s.cache.get? r.key with
    | some latest => exact leaves_take before found rfl
    | none =>
      exact leaves_elsewhere _ _ before (prepared_take found (by simpa using known)) among apart
  · rw [retry_of_keep delete, State.cache_take]
    cases known : s.cache.get? r.key with
    | some latest =>
      exact leaves_elsewhere _ _ before (prepared_take found (by simpa [delete] using known))
        (before.kept r.key latest known) apart
    | none => exact leaves_take before found rfl

theorem act?_fire (found : s.retries.toList[index]? = some r) :
    (Step.fire index).act? key s = if r.key = key then some (.fired r) else none := by
  rw [Step.act?, found]
  by_cases here : r.key = key <;> simp [here]

theorem leaves_fire (separate : c.Separate origin) (before : Traced objects c origin s w past)
    (index : Nat) :
    (fire c now index s w).Leaves objects c origin key past
      (((Step.fire index).act? key s).toList.foldl (Aspect.after c origin key)
        (aspect key s past)) := by
  cases found : s.retries.toList[index]? with
  | none =>
    simp only [fire, Step.act?, found]
    exact leaves_silent before before.kept (fun _ member => member) rfl
  | some r =>
    have fired : fire c now index s w = retry c now r (s.take index) w := by
      simp only [fire, found]
      rfl
    have queued := queuedFor_take key found
    rw [fired, act?_fire found]
    by_cases here : r.key = key
    · subst here
      rw [if_pos rfl] at queued ⊢
      have taken : (aspect r.key s past).after c origin r.key (.fired r) =
          (aspect r.key (s.take index) past).again c origin r.key r := by
        simp only [Aspect.after, aspect, queued, Multiset.erase_cons_head]
        rfl
      have leaves := leaves_retry_self now separate before found
      rw [← taken] at leaves
      exact leaves
    · rw [if_neg here] at queued ⊢
      have untouched : aspect key (s.take index) past = aspect key s past := by
        simp only [aspect, queued]
        rfl
      exact untouched ▸ leaves_retry_other now before found here

end Firing

/-- What a step leaves of an object is what its acts make of it. -/
theorem leaves_step (now : Nat) (key : ObjectKey) (separate : c.Separate origin)
    (before : Traced objects c origin s w past) (step : Step K)
    (brought : ∀ o, step.object? = some o → o ∈ objects)
    (undisturbed : (WatchLoop.step c now s w step).Undisturbed objects key) :
    (WatchLoop.step c now s w step).Leaves objects c origin key past
      ((step.act? key s).toList.foldl (Aspect.after c origin key) (aspect key s past)) := by
  cases step with
  | poll =>
    have same := TimerWheel.toList_poll now s.retries
    have untouched : aspect key { s with retries := (s.retries.poll now).1 } past =
        aspect key s past := Aspect.ext rfl rfl (Multiset.coe_eq_coe.mpr (same.filter _)) rfl
    have leaves : (WatchLoop.step c now s w .poll).Leaves objects c origin key past
        (aspect key { s with retries := (s.retries.poll now).1 } past) :=
      leaves_silent before before.kept (fun _ member => same.mem_iff.mp member) rfl
    rw [untouched] at leaves
    exact leaves
  | fire index => exact leaves_fire separate before index
  | event order reported =>
    cases reported with
    | init => exact leaves_silent before before.kept (fun _ member => member) rfl
    | initDone => exact leaves_finishRelist separate before undisturbed
    | initApply o =>
      have member := brought o rfl
      have marked : Traced objects c origin (markSeen o.key s) w past :=
        ⟨⟨before.kept, before.queued, before.told⟩, before.world⟩
      by_cases here : o.key = key
      · subst here
        have leaves := leaves_apply_self now separate marked member
        rw [aspect_markSeen_self] at leaves
        rw [Step.act?, if_pos (by simp [concerns])]
        exact leaves
      · have leaves := leaves_apply_other now marked member here
        rw [aspect_markSeen_other here] at leaves
        rw [Step.act?, if_neg (by simp [concerns, here])]
        exact leaves
    | apply o =>
      have member := brought o rfl
      by_cases here : o.key = key
      · subst here
        have leaves := leaves_apply_self now separate before member
        rw [Step.act?, if_pos (by simp [concerns])]
        exact leaves
      · have leaves := leaves_apply_other now before member here
        rw [Step.act?, if_neg (by simp [concerns, here])]
        exact leaves
    | delete o =>
      have among : Among objects o.key o.object := ⟨o, brought o rfl, rfl, rfl⟩
      by_cases here : o.key = key
      · subst here
        have leaves := leaves_call now 0 separate before prepared_erase among
        rw [aspect_erase_self] at leaves
        rw [Step.act?, if_pos (by simp [concerns])]
        exact leaves
      · have leaves := leaves_elsewhere now 0 before prepared_erase among here
        rw [aspect_erase_other here] at leaves
        rw [Step.act?, if_neg (by simp [concerns, here])]
        exact leaves

theorem mem_broughtIn_cons {entry : Nat × Step K} {rest : List (Nat × Step K)} {o : Keyed K} :
    o ∈ broughtIn (entry :: rest) ↔ entry.2.object? = some o ∨ o ∈ broughtIn rest := by
  simp [broughtIn]

theorem aspect_runSteps {steps : List (Nat × Step K)} (separate : c.Separate origin)
    (before : Traced objects c origin s w past) (brought : ∀ o ∈ broughtIn steps, o ∈ objects)
    (ok : (runSteps c steps s w).crash = none) :
    aspect key (runSteps c steps s w).state (past ++ (runSteps c steps s w).trace) =
      (actsOn c key steps s w).foldl (Aspect.after c origin key) (aspect key s past) := by
  induction steps generalizing s w past with
  | nil => exact aspect_of_silent rfl
  | cons entry rest ih =>
    obtain ⟨now, first⟩ := entry
    unfold runSteps at ok ⊢
    have whole := Run.crash_none_of_andThen ok
    have leaves := leaves_step now key separate before first
      (fun o shown => brought o (mem_broughtIn_cons.mpr (.inl shown))) (.inl whole)
    obtain ⟨traced, same⟩ := leaves.of_crash_none whole
    rw [Run.andThen_of_crash_none whole] at ok ⊢
    rw [Run.trace_after, ← List.append_assoc, actsOn, List.foldl_append, ← same]
    exact ih traced (fun o member => brought o (mem_broughtIn_cons.mpr (.inr member))) ok

end Callbacks

end GatewayEvents.WatchLoop
