import GatewayEvents.Resource.Kind
import GatewayEvents.Status
import GatewayEvents.Uri
import GatewayEvents.Watch

/-! A stream that lists and watches at a server. It first lists, page by page, then stays open for
changes; an error that leaves it without a position makes it pause and list anew. What the server
sends arrives as `Signal`s; what comes of them are the items of the stream, and the requests that it
makes for more. This is one way to feed a watch: nothing else depends on it. -/
namespace GatewayEvents
namespace Feed

inductive ListFault where
  | refused (status : Status)
  | invalidAddress (fault : Uri.Fault)
  | unreachable

inductive Failure where
  | listFailed (fault : ListFault)
  | rejected (status : Status)
  | refused (status : Status)
  | unreadable (why : String)
  | noVersion

def ListFault.message : ListFault → String
  | .refused status => status.requestError
  | .invalidAddress fault =>
    "Failed to build request: failed to build request: " ++ fault.message
  | .unreachable => "ServiceError: connection refused"

def Failure.message : Failure → String
  | .listFailed fault => "failed to perform initial object list: " ++ fault.message
  | .rejected status => "error returned by apiserver during watch: " ++ status.text
  | .refused status => "watch stream failed: " ++ status.requestError
  | .unreadable why => "watch stream failed: Error deserializing response: " ++ why
  | .noVersion => "no metadata.resourceVersion in watch result (does resource support watch?)"

/-- What a stream waits for. A list request carries the token of the page it asks for. A
request to a server that is out of reach fails as soon as the stream is looked at again. -/
inductive Phase where
  | unasked
  | connecting (since : Nat)
  | listing (token : Option String)
  | watching
  | pausing (wakeAt : Nat)
  deriving DecidableEq

inductive Notice (K : Type) where
  | applied (object : K)
  | deleted (object : K)
  | bookmark
  | rejected (status : Status)
  | refused (status : Status)
  | unreadable (why : String)

/-- What reaches a stream from outside. A page with a token is not the last one. -/
inductive Signal (K : Type) where
  | page (items : List K) (token : Option String)
  | listRefused (status : Status)
  | notices (notices : List (Notice K))
  | closed

/-- How many errors came in a row, and when the last one did. -/
structure Setbacks where
  count : Nat := 0
  last : Nat := 0

/-- An error that comes long after the one before begins a new row. -/
def Setbacks.add (now : Nat) (s : Setbacks) : Setbacks :=
  ⟨if now - s.last ≤ 120000 then s.count + 1 else 1, now⟩

def shortestPause : Nat := 1200

/-- Milliseconds to wait after the last error: the wait doubles up to half a minute. -/
def Setbacks.pause (s : Setbacks) : Nat := min (800 * Nat.pow 2 (s.count - 1)) 30000 + 400

inductive Emission (K : Type) where
  | item (item : Watch.Item K)
  | request (path : String)

def Emission.isItem : Emission K → Bool
  | .item _ => true
  | .request _ => false

end Feed

/-- A stream of the objects in a namespace, or in all. -/
structure Feed (K : Type) where
  scope : Option String
  reachable : Bool
  phase : Feed.Phase := .unasked
  setbacks : Feed.Setbacks := {}

namespace Feed

structure Output (K : Type) where
  feed : Feed K
  emissions : List (Emission K)

def Output.after (earlier : List (Emission K)) (o : Output K) : Output K :=
  { o with emissions := earlier ++ o.emissions }

/-- An error that leaves the stream where it is. -/
def stumble (now : Nat) (fault : Failure) (f : Feed K) : Output K :=
  ⟨{ f with setbacks := f.setbacks.add now }, [.item (.error fault.message)]⟩

/-- An error after which the stream has to list anew. -/
def fail (now : Nat) (fault : Failure) (f : Feed K) : Output K :=
  let setbacks := f.setbacks.add now
  ⟨{ f with phase := .pausing (now + setbacks.pause), setbacks := setbacks },
    [.item (.error fault.message)]⟩

def collectionPath (K : Type) [Watched K] (scope : Option String) : String :=
  let r := Watched.apiResource K
  (if r.group.isEmpty then "/api/" else "/apis/") ++ r.apiVersion ++ "/"
    ++ (scope.map ("namespaces/" ++ · ++ "/")).getD "" ++ r.plural

variable [Watched K]

def listRequest (f : Feed K) (token : Option String) : String :=
  "LIST " ++ Uri.path (collectionPath K f.scope) ++ (token.map ("?continue=" ++ ·)).getD ""

def askFor (now : Nat) (token : Option String) (f : Feed K) : Output K :=
  match Uri.fault? (collectionPath K f.scope) with
  | some fault => fail now (.listFailed (.invalidAddress fault)) f
  | none =>
    if f.reachable then ⟨{ f with phase := .listing token }, [.request (f.listRequest token)]⟩
    else ⟨{ f with phase := .connecting now }, []⟩

def relist (now : Nat) (f : Feed K) : Output K := (askFor now none f).after [.item (.event .init)]

def onPage (now : Nat) (objects : List K) (token : Option String) (f : Feed K) : Output K :=
  let shown := objects.map fun object => .item (.event (.initApply object))
  match token with
  | some _ => (askFor now token f).after shown
  | none => ⟨{ f with phase := .watching }, shown ++ [.item (.event .initDone)]⟩

/-- A change without a version leaves the stream without a position. -/
def onChange (now : Nat) (event : K → WatchEvent K) (object : K) (f : Feed K) : Output K :=
  if ((Watched.version? object).getD "").isEmpty then fail now .noVersion f
  else ⟨f, [.item (.event (event object))]⟩

/-- Only the status that says the position is too old costs the position. -/
def onRejection (now : Nat) (status : Status) (f : Feed K) : Output K :=
  if status.code = 410 then fail now (.rejected status) f else stumble now (.rejected status) f

def hear (now : Nat) (notice : Notice K) (f : Feed K) : Output K :=
  match notice with
  | .applied object => onChange now .apply object f
  | .deleted object => onChange now .delete object f
  | .bookmark => ⟨f, []⟩
  | .rejected status => onRejection now status f
  | .refused status => stumble now (.refused status) f
  | .unreadable why => stumble now (.unreadable why) f

/-- Nothing more is heard once the stream is no longer open. -/
def hearAll (now : Nat) : List (Notice K) → Feed K → Output K
  | [], f => ⟨f, []⟩
  | notice :: rest, f =>
    let first := hear now notice f
    if first.feed.phase = .watching then (hearAll now rest first.feed).after first.emissions
    else first

def receive (now : Nat) (signal : Signal K) (f : Feed K) : Option (Output K) :=
  match signal, f.phase with
  | .page objects token, .listing _ => some (onPage now objects token f)
  | .listRefused status, .listing _ => some (fail now (.listFailed (.refused status)) f)
  | .notices notices, .watching => some (hearAll now notices f)
  | .closed, .watching => some ⟨f, []⟩
  | _, _ => none

/-- When the stream next has something to do by itself. -/
def endsAt? (f : Feed K) : Option Nat :=
  match f.phase with
  | .connecting since => some since
  | .pausing wakeAt => some wakeAt
  | _ => none

/-- What the stream does by itself, if it is due. -/
def wake? (now : Nat) (f : Feed K) : Option (Output K) :=
  match f.phase with
  | .connecting _ => some (fail now (.listFailed .unreachable) f)
  | .pausing wakeAt => if wakeAt ≤ now then some (relist now f) else none
  | _ => none

end Feed
end GatewayEvents
