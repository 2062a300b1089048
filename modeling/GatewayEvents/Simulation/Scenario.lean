import GatewayEvents.Session
import GatewayEvents.Simulation.Feed

/-! A session on one clock whose watches are fed by streams from a server, as a function of stimuli
alone: between two of them, every watch and every stream does what is due by itself. All that
befalls the session is a row of its happenings (`Play`). -/
namespace GatewayEvents.Scenario
variable {κ : Type}

/-- The stream behind a watch; `lastTurn` tells when it last gave something. -/
structure Source (Object : κ → Type) where
  kind : κ
  feed : Feed (Object kind)
  lastTurn : Nat := 0

structure Stage (Object : κ → Type) where
  sources : List (Source Object)
  clock : Nat := 0
  turn : Nat := 0
  cancelled : Bool := false

inductive Stimulus (Object : κ → Type) where
  | start
  | cancel
  | signal (kind : κ) (signal : Feed.Signal (Object kind))
  | advance (ms : Nat)

variable {Object : κ → Type} {ω ε : Type}

def Stage.around (s : Session Object ω ε) (reachable : Bool) : Stage Object where
  sources := s.members.map fun m => { kind := m.kind, feed := ⟨m.scope, reachable, .unasked, {}⟩ }

variable [DecidableEq κ] [∀ kind, Watched (Object kind)]

/-- What has come of a session so far, by these happenings, and the requests made on the way. -/
structure Play (s : Session Object ω ε) (world : ω) where
  stage : Stage Object
  happenings : List (Session.Happening Object)
  record : Session.Record Object ω ε
  requests : List String
  comes : record = Session.course happenings s world

namespace Play
variable {s : Session Object ω ε} {world : ω}

def nothing (stage : Stage Object) : Play s world := ⟨stage, [], ⟨s, world, [], []⟩, [], rfl⟩

def befall (happening : Session.Happening Object) (p : Play s world) : Play s world where
  stage := p.stage
  happenings := p.happenings ++ [happening]
  record := p.record.then happening
  requests := p.requests
  comes := by rw [p.comes, Session.course, Session.course, List.foldl_append]; rfl

def watch? (index : Nat) (p : Play s world) : Option (Session.Member Object ω ε) :=
  p.record.session.members[index]?.filter (·.watch.isRunning)

/-- What a stream gives reaches its watch as long as that runs; then nobody asks for more. -/
def emit (index : Nat) (kind : κ) (emissions : List (Feed.Emission (Object kind)))
    (p : Play s world) : Play s world :=
  emissions.foldl (fun p emission =>
    if (p.watch? index).isNone then p
    else match emission with
      | .item item => p.befall (.item p.stage.clock index .asKept kind item)
      | .request path => { p with requests := p.requests ++ [path] }) p

def setSource (index : Nat) (source : Source Object) (p : Play s world) : Play s world :=
  { p with stage := { p.stage with sources := p.stage.sources.set index source } }

def nextTurn (p : Play s world) : Play s world :=
  { p with stage := { p.stage with turn := p.stage.turn + 1 } }

def goOn (index : Nat) (source : Source Object) (output : Feed.Output (Object source.kind))
    (p : Play s world) : Play s world :=
  let turn := if output.emissions.any Feed.Emission.isItem then p.stage.turn else source.lastTurn
  (p.setSource index { source with feed := output.feed, lastTurn := turn }).emit index source.kind
    output.emissions

/-- Once spawned, the watches run in order, each up to the first thing that it has to wait for. -/
def launchAll (p : Play s world) : Play s world :=
  p.stage.sources.zipIdx.foldl (fun p entry =>
    let now := p.stage.clock
    let launched := p.befall (.launch now entry.2)
    if p.stage.cancelled then launched.befall (.halt now entry.2)
    else launched.goOn entry.2 entry.1 (entry.1.feed.relist now)) p

def start (p : Play s world) : Play s world :=
  let begun := p.befall (.start p.stage.clock)
  if p.record.session.start = .notYet then begun.nextTurn.launchAll else begun

/-- Watches stop in the order in which they last had something to do. -/
def cancel (p : Play s world) : Play s world :=
  let order := p.stage.sources.zipIdx.mergeSort fun a b => decide (a.1.lastTurn ≤ b.1.lastTurn)
  order.foldl (fun p entry => p.befall (.halt p.stage.clock entry.2))
    { p with stage := { p.stage with cancelled := true } }

/-- Only the first stream of the kind listens, if its watch runs. -/
def listen (kind : κ) (signal : Feed.Signal (Object kind)) (p : Play s world) :
    List (Source Object × Nat) → Option (Play s world)
  | [] => none
  | (source, index) :: rest =>
    if same : kind = source.kind then
      if (p.watch? index).isNone then none
      else (source.feed.receive p.stage.clock (same ▸ signal)).map fun output =>
        p.goOn index source output
    else listen kind signal p rest

/-- When the watch at the index, or its stream, next has something to do by itself. -/
def wakeAt? (index : Nat) (source : Source Object) (p : Play s world) : Option Nat := do
  let member ← p.watch? index
  match source.feed.endsAt?, member.watch.loop.retries.firstDue? with
  | some phase, some due => some (min phase due)
  | some phase, none => some phase
  | none, due => due

/-- The first to wake by `limit`, and when; of several, the first in order. -/
def nextWake? (limit : Nat) (p : Play s world) : Option (Nat × Nat) :=
  p.stage.sources.zipIdx.foldl (fun best entry =>
    match p.wakeAt? entry.2 entry.1, best with
    | none, _ => best
    | some time, none => if time ≤ limit then some (time, entry.2) else none
    | some time, some (least, index) =>
      if time < least then some (time, entry.2) else some (least, index))
    none

def wakeAt (time index : Nat) (p : Play s world) : Play s world :=
  let now := max p.stage.clock time
  let p := { p with stage := { p.stage with clock := now } }.nextTurn
  match p.stage.sources[index]?, p.watch? index with
  | some source, some member =>
    match source.feed.wake? now with
    | some output => p.goOn index source output
    | none =>
      let rings := (member.watch.loop.retries.poll now).2.isSome
      let turn := if rings then p.stage.turn else source.lastTurn
      (p.setSource index { source with lastTurn := turn }).befall (.ring now index)
  | _, _ => p

/-- Lets watches wake in the order of their times until none is due by `limit`, at most
`fuel` times. -/
def settle (limit : Nat) : Nat → Play s world → Play s world
  | 0, p => p
  | fuel + 1, p =>
    match p.nextWake? limit with
    | none => p
    | some (time, index) => settle limit fuel (p.wakeAt time index)

/-- How often watches can wake by themselves within a span of time, at most: for each of their
retries, and twice for each request that fails. -/
def potential (span : Nat) (p : Play s world) : Nat :=
  p.record.session.members.foldr (fun m n =>
    WatchLoop.potential m.watch.config m.watch.loop + 2 * (span / Feed.shortestPause + 2) + n) 0

def settleBy (limit : Nat) (p : Play s world) : Play s world :=
  settle limit (p.potential (limit - p.stage.clock)) p

/-- What a stimulus does by itself, and whether it was heard. -/
def respond (stimulus : Stimulus Object) (p : Play s world) : Play s world × Bool :=
  match stimulus with
  | .start => (p.start, true)
  | .cancel => (p.cancel, true)
  | .signal kind signal =>
    let p := p.nextTurn
    match listen kind signal p p.stage.sources.zipIdx with
    | some heard => (heard, true)
    | none => (p, false)
  | .advance ms =>
    let limit := p.stage.clock + ms
    let reached := p.settleBy limit
    ({ reached with stage := { reached.stage with clock := limit } }, true)

end Play

def step (stimulus : Stimulus Object) (stage : Stage Object) (s : Session Object ω ε) (world : ω) :
    Play s world × Bool :=
  let (reached, heard) := (Play.nothing stage).respond stimulus
  ((reached.settleBy reached.stage.clock).befall .await, heard)

end GatewayEvents.Scenario
