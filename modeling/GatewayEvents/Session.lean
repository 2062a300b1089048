import GatewayEvents.Resolver
import GatewayEvents.Watch

/-! Several watches, of any kinds of objects. The kinds are resolved when a session is made. It
starts once: all its watches are spawned, and the start returns when each of them, in order, has
signalled that it has synced, or at the first that stopped before it did. What befalls a session in
the meantime is a row of happenings, in any order and at any times. -/
namespace GatewayEvents

/-- The first kind, in order, that could not be resolved. -/
structure MappingError where
  kind : ResourceKind
  source : ResolveError
  deriving DecidableEq, Repr

def MappingError.message (e : MappingError) : String :=
  "unable to map resource " ++ e.kind.kind ++ " (" ++ e.kind.apiVersion ++ "): " ++ e.source.message

inductive StartError where
  | alreadyStarted
  | syncFailed (watch : String)
  deriving DecidableEq, Repr

def StartError.message : StartError → String
  | .alreadyStarted => "resource watcher already started"
  | .syncFailed watch => "failed to sync caches for " ++ watch

/-- What came of resolving several kinds; none is resolved after the first failure. -/
structure Mapping where
  result : Except MappingError Unit
  requests : List String
  lines : List LogLine

def Mapping.ofKinds (resolver : Resolver) : List ResourceKind → Mapping
  | [] => ⟨.ok (), [], []⟩
  | kind :: rest =>
    let first := resolver kind
    match first.result with
    | .error source => ⟨.error ⟨kind, source⟩, first.requests, first.lines⟩
    | .ok _ =>
      let later := Mapping.ofKinds resolver rest
      ⟨later.result, first.requests ++ later.requests, first.lines ++ later.lines⟩

namespace Session
variable {κ : Type}

/-- What a watch is made from: its kind, the namespace of its objects unless they may lie in any,
and how its loop works. -/
structure Resource (Object : κ → Type) (ω ε : Type) where
  kind : κ
  scope : Option String
  config : WatchLoop.Config (Object kind) ω ε

structure Member (Object : κ → Type) (ω ε : Type) where
  kind : κ
  scope : Option String
  watch : Watch (Object kind) ω ε

/-- How far the one start of a session has come: the watches before `position` have synced. -/
inductive Start where
  | notYet
  | waiting (position : Nat)
  | over
  deriving DecidableEq, Repr

inductive Entry (Object : κ → Type) (ε : Type) where
  | watch (kind : κ) (name : String) (time : Nat) (entry : Watch.Entry (Object kind) ε)
  | cachesSynced (name : String)

/-- What may befall a session: a start; that a watch, by its index, begins to run, is given an item,
looks at its timers or finds that it is to stop; that a start which waits looks at the watches. -/
inductive Happening (Object : κ → Type) where
  | start (now : Nat)
  | launch (now index : Nat)
  | item (now index : Nat) (order : WatchLoop.SweepOrder) (kind : κ)
      (item : Watch.Item (Object kind))
  | ring (now index : Nat)
  | halt (now index : Nat)
  | await

def Happening.isStart {Object : κ → Type} : Happening Object → Bool
  | .start _ => true
  | _ => false

end Session

structure Session {κ : Type} (Object : κ → Type) (ω ε : Type) where
  members : List (Session.Member Object ω ε)
  start : Session.Start

namespace Session
variable {κ : Type} {Object : κ → Type} {ω ε : Type}

def Resource.member (r : Resource Object ω ε) : Member Object ω ε :=
  ⟨r.kind, r.scope, .ofConfig r.config⟩

def Member.name (m : Member Object ω ε) : String := m.watch.config.name

def ofResources (resources : List (Resource Object ω ε)) : Session Object ω ε :=
  ⟨resources.map Resource.member, .notYet⟩

def names (s : Session Object ω ε) : List String := s.members.map Member.name

/-- Where a session stands after some work. `started` is the answer to a start that
returned meanwhile. -/
structure Progress (Object : κ → Type) (ω ε : Type) where
  session : Session Object ω ε
  world : ω
  trace : List (Entry Object ε)
  started : Option (Except StartError Unit)

def stamp (m : Member Object ω ε) (now : Nat) (trace : List (Watch.Entry (Object m.kind) ε)) :
    List (Entry Object ε) :=
  trace.map (.watch m.kind m.name now)

def Member.spawn (now : Nat) (m : Member Object ω ε) : Member Object ω ε :=
  { m with watch := m.watch.spawn now }

/-- Only the first start spawns the watches; any other is refused. -/
def begin (now : Nat) (s : Session Object ω ε) (world : ω) : Progress Object ω ε :=
  match s.start with
  | .notYet => ⟨⟨s.members.map (Member.spawn now), .waiting 0⟩, world, [], none⟩
  | _ => ⟨s, world, [], some (.error .alreadyStarted)⟩

/-- Follows a waiting start over the members from its position on: it fails at the first
that stopped before it signalled its sync. -/
def awaitFrom (position : Nat) :
    List (Member Object ω ε) → Start × List (Entry Object ε) × Option (Except StartError Unit)
  | [] => (.over, [], some (.ok ()))
  | m :: rest =>
    if m.watch.signalled then
      let later := awaitFrom (position + 1) rest
      (later.1, .cachesSynced m.name :: later.2.1, later.2.2)
    else if m.watch.hasStopped then (.over, [], some (.error (.syncFailed m.name)))
    else (.waiting position, [], none)

def await (s : Session Object ω ε) (world : ω) : Progress Object ω ε :=
  match s.start with
  | .waiting position =>
    let awaited := awaitFrom position (s.members.drop position)
    ⟨{ s with start := awaited.1 }, world, awaited.2.1, awaited.2.2⟩
  | _ => ⟨s, world, [], none⟩

def react (now index : Nat)
    (reaction : (m : Member Object ω ε) → Watch.Reaction (Object m.kind) ω ε)
    (s : Session Object ω ε) (world : ω) : Progress Object ω ε :=
  match s.members[index]? with
  | none => ⟨s, world, [], none⟩
  | some m =>
    let r := reaction m
    ⟨{ s with members := s.members.set index { m with watch := r.watch } }, r.world,
      stamp m now r.trace, none⟩

variable [DecidableEq κ] [∀ kind, Watched (Object kind)]

/-- An item is only for watches of its kind. -/
def Member.take (now : Nat) (order : WatchLoop.SweepOrder) (kind : κ)
    (item : Watch.Item (Object kind)) (world : ω) (m : Member Object ω ε) :
    Watch.Reaction (Object m.kind) ω ε :=
  if same : kind = m.kind then m.watch.take now order (same ▸ item) world
  else ⟨m.watch, world, []⟩

def happen (happening : Happening Object) (s : Session Object ω ε) (world : ω) :
    Progress Object ω ε :=
  match happening with
  | .start now => begin now s world
  | .launch now index => react now index (fun m => m.watch.launch world) s world
  | .item now index order kind item =>
    react now index (Member.take now order kind item world) s world
  | .ring now index => react now index (fun m => m.watch.ring now world) s world
  | .halt now index => react now index (fun m => m.watch.halt world) s world
  | .await => await s world

/-- What is known of a session so far: where it stands, all that it has left in the trace, and the
answers to starts that have returned, in order. -/
structure Record (Object : κ → Type) (ω ε : Type) where
  session : Session Object ω ε
  world : ω
  trace : List (Entry Object ε)
  answers : List (Except StartError Unit)

def Record.then (r : Record Object ω ε) (happening : Happening Object) : Record Object ω ε :=
  let p := happen happening r.session r.world
  ⟨p.session, p.world, r.trace ++ p.trace, r.answers ++ p.started.toList⟩

def course (happenings : List (Happening Object)) (s : Session Object ω ε) (world : ω) :
    Record Object ω ε :=
  happenings.foldl Record.then ⟨s, world, [], []⟩

def Entry.lines (deedLines : ε → List LogLine) : Entry Object ε → List LogLine
  | .watch kind name _ entry => entry.lines name (Watched.kind (Object kind)) deedLines
  | .cachesSynced name => [WatchLoop.say .debug (name ++ " caches synced")]

end Session
end GatewayEvents
