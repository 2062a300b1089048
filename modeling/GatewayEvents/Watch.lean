import GatewayEvents.WatchLoop

/-! One watch: a loop that takes its events from a stream. A watch that is spawned begins to run
some time later. From then on it takes in what the stream gives, item by item, and runs the retries
that ring, until it is told to stop, the stream ends or its loop crashes. It signals once that its
loop has synced. Where the items come from, and when, is left open. -/
namespace GatewayEvents

namespace Watch

inductive Phase where
  | idle
  | spawned
  | running
  | stopped
  deriving DecidableEq, Repr

/-- What a stream gives. An error is only told of; it does not end the stream. -/
inductive Item (K : Type) where
  | event (event : WatchEvent K)
  | error (message : String)
  | ended

inductive Entry (K ε : Type) where
  | starting
  | loop (entry : WatchLoop.Entry K ε)
  | synced
  | failed (message : String)
  | ended
  | stopping
  | crashed (crash : WatchLoop.Crash)

end Watch

structure Watch (K ω ε : Type) where
  config : WatchLoop.Config K ω ε
  phase : Watch.Phase
  signalled : Bool
  loop : WatchLoop.State K

namespace Watch

structure Reaction (K ω ε : Type) where
  watch : Watch K ω ε
  world : ω
  trace : List (Entry K ε)

def ofConfig (config : WatchLoop.Config K ω ε) : Watch K ω ε := ⟨config, .idle, false, .initial 0⟩

def isRunning (w : Watch K ω ε) : Bool := w.phase = .running

def hasStopped (w : Watch K ω ε) : Bool := w.phase = .stopped

/-- The loop of a watch that stops is dropped, with all that it kept. -/
def stop (w : Watch K ω ε) : Watch K ω ε := { w with phase := .stopped, loop := .initial 0 }

def adopt (w : Watch K ω ε) (run : WatchLoop.Run K ω ε) : Reaction K ω ε :=
  match run.crash with
  | none => ⟨{ w with loop := run.state }, run.world, run.trace.map .loop⟩
  | some crash => ⟨w.stop, run.world, run.trace.map .loop ++ [.crashed crash]⟩

/-- Signals that the loop has synced, unless that was done before. -/
def Reaction.signal (r : Reaction K ω ε) : Reaction K ω ε :=
  if r.watch.loop.synced && !r.watch.signalled then
    { r with watch := { r.watch with signalled := true }, trace := r.trace ++ [.synced] }
  else r

def spawn (now : Nat) (w : Watch K ω ε) : Watch K ω ε :=
  { w with phase := .spawned, loop := .initial now }

def launch (w : Watch K ω ε) (world : ω) : Reaction K ω ε :=
  if w.phase = .spawned then ⟨{ w with phase := .running }, world, [.starting]⟩ else ⟨w, world, []⟩

/-- A loop cannot go on after an object without a name. -/
def handle [Watched K] (now : Nat) (order : WatchLoop.SweepOrder) (event : WatchEvent K)
    (w : Watch K ω ε) (world : ω) : Reaction K ω ε :=
  match event.keyed? with
  | none => ⟨w.stop, world, [.crashed .nameless]⟩
  | some event => (w.adopt (WatchLoop.handleIn w.config now order event w.loop world)).signal

def take [Watched K] (now : Nat) (order : WatchLoop.SweepOrder) (item : Item K) (w : Watch K ω ε)
    (world : ω) : Reaction K ω ε :=
  if w.isRunning then
    match item with
    | .event event => handle now order event w world
    | .error message => ⟨w, world, [.failed message]⟩
    | .ended => ⟨w.stop, world, [.ended]⟩
  else ⟨w, world, []⟩

/-- Looks at the timers and fires the retry that rings. -/
def ring (now : Nat) (w : Watch K ω ε) (world : ω) : Reaction K ω ε :=
  if w.isRunning then
    let polled := w.loop.retries.poll now
    let loop := { w.loop with retries := polled.1 }
    match polled.2 with
    | some index => w.adopt (WatchLoop.fire w.config now index loop world)
    | none => ⟨{ w with loop := loop }, world, []⟩
  else ⟨w, world, []⟩

def halt (w : Watch K ω ε) (world : ω) : Reaction K ω ε :=
  if w.isRunning then ⟨w.stop, world, [.stopping]⟩ else ⟨w, world, []⟩

def Entry.lines (name : String) (kind : ResourceKind) (deedLines : ε → List LogLine) :
    Entry K ε → List LogLine
  | .starting => [WatchLoop.say .info ("Starting " ++ name)]
  | .loop entry => entry.lines name kind deedLines
  | .synced => [WatchLoop.say .info (name ++ " initial sync complete")]
  | .failed message => [WatchLoop.say .warn (name ++ " error: " ++ message)]
  | .ended => [WatchLoop.say .warn (name ++ " stream ended")]
  | .stopping => [WatchLoop.say .info (name ++ " stopping")]
  | .crashed _ => []

def Entry.attempt? : Entry K ε → Option (WatchLoop.Attempt K ε)
  | .loop entry => entry.attempt?
  | _ => none

end Watch
end GatewayEvents
