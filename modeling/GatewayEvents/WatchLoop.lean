import GatewayEvents.Event
import GatewayEvents.LogLine
import GatewayEvents.RetryPolicy
import GatewayEvents.TimerWheel

/-! The loop behind one watch. It keeps the last object seen under each key and turns
watch events into callbacks: an unknown object is created, a known one updated unless it
is equivalent to the one kept, and objects that a finished relist did not show are
deleted. A callback that asks for it is tried again after a delay, with the object kept
by then, until its requeues are used up. A loop that cannot go on, for want of a name or
because a delay is too long for its timers, crashes. The loop does not own what callbacks
work on: that world `ω` passes through, and so do the deeds `ε` that a callback reports. -/
namespace GatewayEvents

/-- What a watch reports. A relist is announced, then shows every object there is, and
then is done. -/
inductive WatchEvent (α : Type) where
  | init
  | initApply (object : α)
  | initDone
  | apply (object : α)
  | delete (object : α)
  deriving Repr

/-- An object together with its key: only objects with a name have one. -/
structure Keyed (K : Type) [Watched K] where
  object : K
  key : ObjectKey
  keyed : Watched.key? object = some key

def Keyed.of? [Watched K] (object : K) : Option (Keyed K) :=
  match h : Watched.key? object with
  | some key => some ⟨object, key, h⟩
  | none => none

/-- The event over keyed objects, if its object has a key. -/
def WatchEvent.keyed? [Watched K] : WatchEvent K → Option (WatchEvent (Keyed K))
  | .init => some .init
  | .initApply o => (Keyed.of? o).map .initApply
  | .initDone => some .initDone
  | .apply o => (Keyed.of? o).map .apply
  | .delete o => (Keyed.of? o).map .delete

namespace WatchLoop

structure Reply (ω ε : Type) where
  requeue : Bool
  deeds : List ε
  world : ω

structure Config (K ω ε : Type) where
  name : String
  equivalent : K → K → Bool
  policy : RetryPolicy
  callback : Operation → K → Nat → ω → Reply ω ε

/-- A callback that is to be run again, as its `requeues`th repetition. -/
structure Retry (K : Type) where
  operation : Operation
  key : ObjectKey
  object : K
  requeues : Nat
  deriving Repr

/-- Why a loop cannot go on. -/
inductive Crash where
  | nameless
  | delayTooLong
  deriving DecidableEq, Repr

def Crash.message : Crash → String
  | .nameless => ".metadata.name missing"
  | .delayTooLong => "invalid deadline; err=Invalid"

/-- `relist` holds the keys seen since a relist began, while one is going on. -/
structure State (K : Type) where
  cache : Table ObjectKey K
  relist : Option (List ObjectKey)
  synced : Bool
  retries : TimerWheel (Retry K)
  deriving Repr

def State.initial (now : Nat) : State K := ⟨.empty, none, false, .empty now⟩

structure Attempt (K ε : Type) where
  operation : Operation
  key : ObjectKey
  object : K
  requeues : Nat
  requeue : Bool
  deeds : List ε

inductive Entry (K ε : Type) where
  | relistStarted
  | vanished (key : ObjectKey)
  | unchanged (key : ObjectKey)
  | attempt (attempt : Attempt K ε)
  | requeued (operation : Operation) (key : ObjectKey) (requeues : Nat)
  | dropped (operation : Operation) (key : ObjectKey) (requeues : Nat)
  | recreated (key : ObjectKey)
  | gone (key : ObjectKey)

def Entry.attempt? : Entry K ε → Option (Attempt K ε)
  | .attempt a => some a
  | _ => none

/-- Where the loop and the world stand after some work, and what that work was. The work
of a loop that crashed ends there. -/
structure Run (K ω ε : Type) where
  state : State K
  world : ω
  trace : List (Entry K ε)
  crash : Option Crash

def Run.attempts (r : Run K ω ε) : List (Attempt K ε) := r.trace.filterMap Entry.attempt?

def Run.after (earlier : List (Entry K ε)) (r : Run K ω ε) : Run K ω ε :=
  { r with trace := earlier ++ r.trace }

/-- More work where some work ended, unless it ended in a crash. -/
def Run.andThen (r : Run K ω ε) (next : State K → ω → Run K ω ε) : Run K ω ε :=
  match r.crash with
  | some _ => r
  | none => (next r.state r.world).after r.trace

variable (c : Config K ω ε) (now : Nat)

def reschedule (op : Operation) (key : ObjectKey) (object : K) (requeues : Nat) (s : State K)
    (w : ω) : Run K ω ε :=
  if c.policy.allowsRequeue requeues then
    let retry : Retry K := ⟨op, key, object, requeues + 1⟩
    match s.retries.insert? now (c.policy.backoff requeues) retry with
    | some retries => ⟨{ s with retries := retries }, w, [.requeued op key requeues], none⟩
    | none => ⟨s, w, [.requeued op key requeues], some .delayTooLong⟩
  else ⟨s, w, [.dropped op key requeues], none⟩

def attempt (op : Operation) (key : ObjectKey) (object : K) (requeues : Nat) (s : State K) (w : ω) :
    Run K ω ε :=
  let reply := c.callback op object requeues w
  let made := Entry.attempt ⟨op, key, object, requeues, reply.requeue, reply.deeds⟩
  if reply.requeue then (reschedule c now op key object requeues s reply.world).after [made]
  else ⟨s, reply.world, [made], none⟩

/-- The object is kept in any case; only an equivalent one is kept silently. -/
def apply (object : K) (key : ObjectKey) (s : State K) (w : ω) : Run K ω ε :=
  let kept := { s with cache := s.cache.insert key object }
  match s.cache.get? key with
  | none => attempt c now .create key object 0 kept w
  | some old =>
    if c.equivalent old object then ⟨kept, w, [.unchanged key], none⟩
    else attempt c now .update key object 0 kept w

/-- Deletes the objects under the given keys, as far as they are kept. -/
def sweep : List ObjectKey → State K → ω → Run K ω ε
  | [], s, w => ⟨s, w, [], none⟩
  | key :: rest, s, w =>
    match s.cache.get? key with
    | none => sweep rest s w
    | some object =>
      ((attempt c now .delete key object 0 { s with cache := s.cache.erase key } w).after
        [.vanished key]).andThen (sweep rest)

def unseen (s : State K) (seen : List ObjectKey) : List ObjectKey :=
  s.cache.keys.filter fun key => !seen.contains key

def markSynced (s : State K) (w : ω) : Run K ω ε :=
  ⟨{ s with synced := true }, w, [], none⟩

/-- In which order the objects that a relist did not show are deleted: any order will do. -/
structure SweepOrder where
  arrange : List ObjectKey → List ObjectKey
  perm : ∀ keys, (arrange keys).Perm keys

def SweepOrder.asKept : SweepOrder := ⟨id, fun _ => .refl _⟩

def finishRelist (order : SweepOrder) (s : State K) (w : ω) : Run K ω ε :=
  let swept : Run K ω ε := match s.relist with
    | none => ⟨s, w, [], none⟩
    | some seen => sweep c now (order.arrange (unseen s seen)) { s with relist := none } w
  swept.andThen markSynced

def markSeen (key : ObjectKey) (s : State K) : State K :=
  { s with relist := s.relist.map fun seen => if seen.contains key then seen else key :: seen }

def handleIn [Watched K] (order : SweepOrder) (event : WatchEvent (Keyed K)) (s : State K) (w : ω) :
    Run K ω ε :=
  match event with
  | .init => ⟨{ s with relist := some [] }, w, [.relistStarted], none⟩
  | .initApply o => apply c now o.object o.key (markSeen o.key s) w
  | .initDone => finishRelist c now order s w
  | .apply o => apply c now o.object o.key s w
  | .delete o => attempt c now .delete o.key o.object 0 { s with cache := s.cache.erase o.key } w

def handle [Watched K] (event : WatchEvent (Keyed K)) (s : State K) (w : ω) : Run K ω ε :=
  handleIn c now .asKept event s w

/-- Runs a retry that is no longer queued. A deletion is not repeated for an object that
is back, nor anything else for one that is gone; what is repeated gets the object kept. -/
def retry (r : Retry K) (s : State K) (w : ω) : Run K ω ε :=
  match r.operation, s.cache.get? r.key with
  | .delete, some _ => ⟨s, w, [.recreated r.key], none⟩
  | .delete, none => attempt c now .delete r.key r.object r.requeues s w
  | op, some latest => attempt c now op r.key latest r.requeues s w
  | _, none => ⟨s, w, [.gone r.key], none⟩

/-- Takes the queued retry at a position out of the queue and runs it. -/
def fire (index : Nat) (s : State K) (w : ω) : Run K ω ε :=
  match s.retries.toList[index]? with
  | none => ⟨s, w, [], none⟩
  | some r => retry c now r { s with retries := s.retries.eraseIdx index } w

/-- One step of a loop: an event arrives, the timers catch up with the time, or a queued
retry fires. -/
inductive Step (K : Type) [Watched K] where
  | event (order : SweepOrder) (event : WatchEvent (Keyed K))
  | poll
  | fire (index : Nat)

def step [Watched K] (s : State K) (w : ω) : Step K → Run K ω ε
  | .event order e => handleIn c now order e s w
  | .poll => ⟨{ s with retries := (s.retries.poll now).1 }, w, [], none⟩
  | .fire index => fire c now index s w

def runSteps [Watched K] (c : Config K ω ε) : List (Nat × Step K) → State K → ω → Run K ω ε
  | [], s, w => ⟨s, w, [], none⟩
  | (now, first) :: rest, s, w => (step c now s w first).andThen (runSteps c rest)

/-- Firings that are left in the queue at most, whatever the callbacks answer. -/
def potential (s : State K) : Nat :=
  s.retries.toList.foldr (fun r n => (c.policy.maxRequeues.toNat - r.requeues) + 1 + n) 0

section Lines
variable (name : String) (kind : ResourceKind)

def say (level : Level) (message : String) : LogLine := ⟨level, .watcher, message, []⟩

def about (key : ObjectKey) (what : String) : LogLine :=
  say .debug (name ++ ": " ++ key.describe kind ++ " " ++ what)

def Entry.lines (deedLines : ε → List LogLine) : Entry K ε → List LogLine
  | .relistStarted => [say .debug (name ++ " relist started")]
  | .vanished key => [about name kind key "vanished during relist"]
  | .unchanged key => [about name kind key "unchanged, skipping update"]
  | .attempt a => a.deeds.flatMap deedLines
  | .requeued _ _ _ => []
  | .dropped op key requeues =>
    [say .debug (name ++ ": dropping " ++ op.name ++ " of " ++ key.describe kind ++ " after "
      ++ toString requeues ++ " requeues")]
  | .recreated key => [about name kind key "was recreated, dropping delete retry"]
  | .gone key => [about name kind key "no longer exists, dropping retry"]

end Lines
end WatchLoop
end GatewayEvents
