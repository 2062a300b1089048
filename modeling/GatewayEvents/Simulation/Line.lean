import GatewayEvents.Json.Shape
import GatewayEvents.Simulation.Feed

/-! The lines of an open watch. A line holds one event as JSON: a type and the object that
the event is about, in either order; or, without a type, the status by which the server
turns the watch down. A line that ends too early counts for nothing, and any other that
cannot be read is an error which tells the column where reading ended. -/
namespace GatewayEvents.Feed
open Json

inductive Line.Kind where
  | added
  | modified
  | deleted
  | bookmark
  | error
  deriving DecidableEq, Repr

namespace Line

def Kind.name : Kind → String
  | .added => "ADDED"
  | .modified => "MODIFIED"
  | .deleted => "DELETED"
  | .bookmark => "BOOKMARK"
  | .error => "ERROR"

def kinds : List Kind := [.added, .modified, .deleted, .bookmark, .error]

/-- A bookmark has the place in the stream in its metadata, and names the type it is for. -/
def bookmarkShape : Shape := .merged "Bookmark"
  [⟨"metadata", true, .record .strict "BookmarkMeta" [
    ⟨"resourceVersion", true, .text⟩, ⟨"annotations", false, .map⟩]⟩]
  [⟨"apiVersion", true, .text⟩, ⟨"kind", true, .text⟩]

/-- What the object of an event looks like, for watched objects of the given shape. -/
def Kind.objectShape (watched : Shape) : Kind → Shape
  | .added | .modified | .deleted => watched
  | .bookmark => bookmarkShape
  | .error => Status.decode.shape

open Json.Scan Json.Shape

def event : Wanted := .tagged "WatchEvent"

def scanKind : Scan Kind := locate do
  let found ← scanText .tag
  match kinds.find? (·.name = found) with
  | some kind => return kind
  | none => unwanted (.unknownTag found (kinds.map Kind.name))

/-- A type may also be written as the only member of an object, with nothing in it. -/
def scanTag : Scan Kind := do
  skipBlanks
  match ← peek? with
  | none => unfinished
  | some '"' => scanKind
  | some '\x7b' =>
    let room := (← get).room
    if room ≤ 1 then malformedNext .tooDeep
    advance
    let kind ← scanKind
    colon
    locate scanNothing
    skipBlanks
    match ← peek? with
    | none => unfinished
    | some '\x7d' => advance
    | some _ => malformed .expectedValue 0
    return kind
  | some _ => malformedNext .expectedValue

/-- The key of the next member that matters, past all others. -/
def nextKey : Nat → Bool → Scan (Option String)
  | 0, _ => unfinished
  | fuel + 1, first => do
    if ← hasMember true first then
      let key ← scanKey
      if key = "type" ∨ key = "object" then return some key
      colon
      discard (value false fuel)
      nextKey fuel false
    else return none

/-- What was read, if no member that matters comes a second time. -/
def withoutMore (fuel : Nat) (read : Kind × Json) : Scan (Kind × Json) := do
  match ← nextKey fuel false with
  | some key => unwanted (.duplicate key)
  | none => return read

/-- The members of an event. An object that comes before its type is kept as it is and
judged when the type is known. -/
def scanMembers (watched : Shape) (fuel : Nat) : Scan (Kind × Json) := do
  let firstKey ← nextKey fuel true
  if firstKey.isNone then unwanted (.missing "type")
  colon
  if firstKey = some "type" then
    let kind ← scanTag
    match ← nextKey fuel false with
    | none => unwanted (.missing "object")
    | some "type" => unwanted (.duplicate "type")
    | some _ =>
      colon
      let found ← scan fuel (kind.objectShape watched)
      withoutMore fuel (kind, found)
  else
    let found ← value true fuel
    match ← nextKey fuel false with
    | none => unwanted (.missing "type")
    | some "type" =>
      colon
      let kind ← scanTag
      require (check fuel (kind.objectShape watched) found)
      withoutMore fuel (kind, found)
    | some _ => unwanted (.duplicate "object")

def scanPair (watched : Shape) (fuel : Nat) : Scan (Kind × Json) := do
  if ¬ (← hasItem true true) then unwanted (.wrongLength 0 event)
  let kind ← scanKind
  if ¬ (← hasItem true false) then unwanted (.wrongLength 1 event)
  return (kind, ← scan fuel (kind.objectShape watched))

def scanEvent (watched : Shape) (fuel : Nat) : Scan (Kind × Json) := do
  skipBlanks
  match ← peek? with
  | none => unfinished
  | some '\x7b' => locate (nested (scanMembers watched fuel) endMembers)
  | some '[' => locate (nested (scanPair watched fuel) endItems)
  | some _ => notWanted event

def faultText (fault : Fault) : String :=
  fault.flaw.message ++ " at line 1 column " ++ toString (fault.column.getD 0)

def notice (reader : Reader K) (kind : Kind) (about : Json) : Except DecodeError (Notice K) :=
  match kind with
  | .added | .modified => (reader about).map .applied
  | .deleted => (reader about).map .deleted
  | .bookmark => .ok .bookmark
  | .error => (Status.decode about).map .rejected

/-- The status that a line holds instead of an event. -/
def status? (line : String) : Option Status :=
  match whole (fun fuel => scan fuel Status.decode.shape) line with
  | .ok found => (Status.decode found.normal).toOption
  | .error _ => none

def read (reader : Reader K) (line : String) : Option (Notice K) :=
  match whole (scanEvent reader.shape) line with
  | .ok (kind, about) =>
    match notice reader kind about.normal with
    | .ok notice => some notice
    | .error why => some (.unreadable why.message)
  | .error fault =>
    match fault.flaw, status? line with
    | .unfinished, _ => none
    | _, some status => some (.refused status)
    | _, none => some (.unreadable (faultText fault))

/-- The lines of a text; a carriage return at the end of one does not count. -/
def split (text : String) : List String :=
  (text.splitOn "\n").map fun line =>
    match line.toList.getLast? with
    | some '\r' => String.ofList line.toList.dropLast
    | _ => line

end Line

/-- What a text tells a watch, line by line. -/
def Notice.ofText (reader : Reader K) (text : String) : List (Notice K) :=
  (Line.split text).filterMap (Line.read reader)

end GatewayEvents.Feed
