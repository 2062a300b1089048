import GatewayEvents.Json.Record
import GatewayEvents.Json.Scan

/-! Judging JSON by its shape before anything is made of it: a value that was taken in
before (`Shape.check`), or a text while it is being taken in (`Shape.scan`), where what is
unwanted is reported in the column in which it was noticed. Members are looked at in the
order in which they stand, and one that is missing is reported when all have been seen. -/
namespace GatewayEvents.Json

def Slot.find? (slots : List (Slot σ)) (key : String) : Option (Slot σ) := slots.find? (·.key = key)

/-- The first slot that must be filled and is not. -/
def Slot.missing? (slots : List (Slot σ)) (members : List (String × Json)) : Option (Slot σ) :=
  slots.find? fun slot => slot.required && !members.any (·.1 = slot.key)

def Slot.complete (slots : List (Slot σ)) (members : List (String × Json)) :
    Except DecodeError Unit :=
  match missing? slots members with
  | some slot => .error (.missing slot.key)
  | none => .ok ()

namespace Shape

/-- The known members up to the first that is not as it should be; `seen` came before. -/
def checkMembers (check : Shape → Json → Except DecodeError Unit) (strict : Bool)
    (slots : List (Slot Shape)) : List (String × Json) → List String → Except DecodeError Unit
  | [], _ => .ok ()
  | (key, value) :: rest, seen =>
    match Slot.find? slots key with
    | none => checkMembers check strict slots rest seen
    | some slot =>
      if strict ∧ key ∈ seen then .error (.duplicate key)
      else do
        check slot.shape value
        checkMembers check strict slots rest (key :: seen)

/-- All slots by position; `read` is the number of slots before. -/
def checkItems (check : Shape → Json → Except DecodeError Unit) (name : String) (fields : Nat) :
    List (Slot Shape) → List Json → Nat → Except DecodeError Unit
  | [], [], _ => .ok ()
  | [], rest, read => .error (.wrongLength (read + rest.length) (.items read))
  | slot :: slots, [], read =>
    if slot.required then .error (.wrongLength read (.positional name fields))
    else checkItems check name fields slots [] (read + 1)
  | slot :: slots, item :: rest, read => do
    check slot.shape item
    checkItems check name fields slots rest (read + 1)

def checkText : String × Json → Except DecodeError Unit
  | (_, .text _) => .ok ()
  | (_, j) => .error (.mismatch j .text)

/-- Judges a value that is nested less deep than the fuel. -/
def check : Nat → Shape → Json → Except DecodeError Unit
  | 0, _, _ => .ok ()
  | fuel + 1, shape, j =>
    match shape, j with
    | .anything, _ | .text, .text _ | .boolean, .bool _ | .optional _, .null => .ok ()
    | .text, j => .error (.mismatch j .text)
    | .boolean, j => .error (.mismatch j .boolean)
    | .map, .object members => members.forM checkText
    | .map, j => .error (.mismatch j .map)
    | .integer wanted, j => (Read.integer wanted j).map fun _ => ()
    | .readable _ fault?, .text s =>
      match fault? s with
      | some why => .error (.unreadable why)
      | none => .ok ()
    | .readable wanted _, j => .error (.mismatch j wanted)
    | .exactly value, .text s => if s = value then .ok () else .error (.otherText s value)
    | .exactly _, j => .error (.mismatch j .text)
    | .optional shape, j => check fuel shape j
    | .list item, .array items => items.forM (check fuel item)
    | .list _, j => .error (.mismatch j .sequence)
    | .record manner _ slots, .object members => do
      checkMembers (check fuel) (manner = .strict) slots members []
      Slot.complete slots members
    | .record .strict name slots, .array items =>
      checkItems (check fuel) name slots.length slots items 0
    | .record .strict name _, j => .error (.mismatch j (.record name))
    | .record .lenient name _, j => .error (.mismatch j (.object name))
    | .merged _ first second, .object members => do
      checkMembers (check fuel) true first members []
      Slot.complete first members
      checkMembers (check fuel) true second members []
      Slot.complete second members
    | .merged name _ _, j => .error (.mismatch j (.record name))

open Scan

/-- What a value is taken for that was not wanted. -/
def notWanted (wanted : Wanted) : Scan α := do
  let found ← match ← peek? with
    | some '[' => pure (.array [])
    | some '\x7b' => pure (.object [])
    | _ => scalar true
  locate (unwanted (.mismatch found wanted))

def scanText (wanted : Wanted) : Scan String := do
  skipBlanks
  match ← peek? with
  | none => unfinished
  | some '"' => Scan.text true
  | some _ => notWanted wanted

def scanBoolean : Scan Json := do
  skipBlanks
  match ← peek? with
  | none => unfinished
  | some 't' | some 'f' => scalar true
  | some _ => notWanted .boolean

def scanInteger (wanted : Wanted) : Scan Json := do
  skipBlanks
  match ← peek? with
  | none => unfinished
  | some c =>
    if c = '-' ∨ c.isDigit then
      let found ← scalar true
      match Read.integer wanted found with
      | .ok _ => return found
      | .error why => locate (unwanted why)
    else notWanted wanted

def scanNothing : Scan Unit := do
  skipBlanks
  match ← peek? with
  | none => unfinished
  | some 'n' => discard (scalar true)
  | some _ => notWanted .nothing

/-- The key of a member, up to its value. -/
def scanKey : Scan String := Scan.text true

def scanTexts : Nat → Bool → List (String × Json) → Scan (List (String × Json))
  | 0, _, _ => unfinished
  | fuel + 1, first, read => do
    if ← hasMember true first then
      let key ← scanKey
      colon
      let value ← locate (scanText .text)
      scanTexts fuel false ((key, .text value) :: read)
    else return read.reverse

def require (condition : Except DecodeError Unit) : Scan Unit :=
  match condition with
  | .ok () => return
  | .error why => unwanted why

mutual
/-- A value of the given shape, its members as they stand in the text. -/
def scan : Nat → Shape → Scan Json
  | 0, _ => unfinished
  | fuel + 1, shape => do
    match shape with
    | .anything => value true fuel
    | .text => return .text (← scanText .text)
    | .boolean => scanBoolean
    | .integer wanted => scanInteger wanted
    | .readable wanted fault? =>
      let found ← scanText wanted
      match fault? found with
      | some why => locate (unwanted (.unreadable why))
      | none => return .text found
    | .exactly wanted =>
      let found ← scanText .text
      if found ≠ wanted then unwanted (.otherText found wanted)
      return .text found
    | .optional shape =>
      skipBlanks
      if (← peek?) = some 'n' then scalar true else scan fuel shape
    | .list item =>
      skipBlanks
      match ← peek? with
      | none => unfinished
      | some '[' => return .array (← locate (nested (scanItems fuel item true []) endItems))
      | some _ => notWanted .sequence
    | .map =>
      skipBlanks
      match ← peek? with
      | none => unfinished
      | some '\x7b' => return .object (← locate (nested (scanTexts fuel true []) endMembers))
      | some _ => notWanted .map
    | .record manner name slots =>
      let wanted := if manner = .strict then Wanted.record name else .object name
      skipBlanks
      match ← peek? with
      | none => unfinished
      | some '[' =>
        let body : Scan (List (String × Json)) :=
          if manner = .strict then scanSlots fuel name slots.length slots true 0 []
          else unwanted (.mismatch (.array []) wanted)
        return .object (← locate (nested body endItems))
      | some '\x7b' =>
        let body : Scan (List (String × Json)) := do
          let members ← scanMembers fuel (manner = .strict) false slots true []
          require (Slot.complete slots members)
          return members
        return .object (← locate (nested body endMembers))
      | some _ => notWanted wanted
    | .merged name first second =>
      skipBlanks
      match ← peek? with
      | none => unfinished
      | some '\x7b' =>
        let body : Scan (List (String × Json)) := do
          let members ← scanMembers fuel true true first true []
          require (Slot.complete first members)
          require (check fuel (.record .strict name second) (.object members))
          return members
        return .object (← locate (nested body endMembers))
      | some _ => notWanted (.record name)

def scanItems : Nat → Shape → Bool → List Json → Scan (List Json)
  | 0, _, _, _ => unfinished
  | fuel + 1, item, first, read => do
    if ← hasItem true first then scanItems fuel item false ((← scan fuel item) :: read)
    else return read.reverse

/-- The members that have a slot, and the others if they are to be kept. -/
def scanMembers : Nat → Bool → Bool → List (Slot Shape) → Bool → List (String × Json) →
    Scan (List (String × Json))
  | 0, _, _, _, _, _ => unfinished
  | fuel + 1, strict, others, slots, first, read => do
    if ← hasMember true first then
      let key ← scanKey
      match Slot.find? slots key with
      | some slot =>
        if strict ∧ read.any (·.1 = key) then unwanted (.duplicate key)
        colon
        scanMembers fuel strict others slots false ((key, ← scan fuel slot.shape) :: read)
      | none =>
        colon
        let other ← value others fuel
        scanMembers fuel strict others slots false (if others then (key, other) :: read else read)
    else return read.reverse

/-- All slots by position. -/
def scanSlots : Nat → String → Nat → List (Slot Shape) → Bool → Nat → List (String × Json) →
    Scan (List (String × Json))
  | 0, _, _, _, _, _, _ => unfinished
  | _ + 1, _, _, [], _, _, read => return read.reverse
  | fuel + 1, name, fields, slot :: slots, first, count, read => do
    if ← hasItem true first then
      let item ← scan fuel slot.shape
      scanSlots fuel name fields slots false (count + 1) ((slot.key, item) :: read)
    else if slot.required then unwanted (.wrongLength count (.positional name fields))
    else scanSlots fuel name fields slots first (count + 1) read
end

end Shape
end GatewayEvents.Json
