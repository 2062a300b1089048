import GatewayEvents.Json.Decode

/-! Records with named fields, read from JSON. An object may hold them under their keys
in any order and with others beside them; an array holds them by position. In an object
the known keys are read in ascending order, and only when all that are present have been
read is a missing one reported, in declaration order. -/
namespace GatewayEvents.Json

structure Field (σ : Type) where
  key : String
  required : Bool
  shape : Shape
  fill : Json → σ → Except DecodeError σ

def Field.needed (key : String) (reader : Reader α) (put : α → σ → σ) : Field σ :=
  ⟨key, true, reader.shape, fun j record => (reader j).map (put · record)⟩

/-- A field that keeps its default when it is absent. -/
def Field.defaulted (key : String) (reader : Reader α) (put : α → σ → σ) : Field σ :=
  ⟨key, false, reader.shape, fun j record => (reader j).map (put · record)⟩

/-- `fields` stand in declaration order, `blank` holds every default. -/
structure Record (σ : Type) where
  name : String
  fields : List (Field σ)
  blank : σ

namespace Record

def inKeyOrder (r : Record σ) : List (Field σ) :=
  r.fields.mergeSort fun a b => decide (a.key ≤ b.key)

def fillPresent (entries : List (String × Json)) : List (Field σ) → σ → Except DecodeError σ
  | [], record => .ok record
  | field :: rest, record =>
    match lookup field.key entries with
    | none => fillPresent entries rest record
    | some value => field.fill value record >>= fillPresent entries rest

def absent? (r : Record σ) (entries : List (String × Json)) : Option (Field σ) :=
  r.fields.find? fun field => field.required && (lookup field.key entries).isNone

def ofObject (r : Record σ) (entries : List (String × Json)) : Except DecodeError σ := do
  let record ← fillPresent entries r.inKeyOrder r.blank
  match r.absent? entries with
  | some field => .error (.missing field.key)
  | none => .ok record

/-- `given` is the number of items in the whole array, `read` how many were read. -/
def fillItems (r : Record σ) (given : Nat) : List (Field σ) → List Json → Nat → σ →
    Except DecodeError σ
  | [], [], _, record => .ok record
  | [], _ :: _, _, _ => .error (.wrongLength given .fewer)
  | field :: rest, [], read, record =>
    if field.required then .error (.wrongLength read (.positional r.name r.fields.length))
    else fillItems r given rest [] (read + 1) record
  | field :: rest, item :: items, read, record =>
    field.fill item record >>= fillItems r given rest items (read + 1)

def ofArray (r : Record σ) (items : List Json) : Except DecodeError σ :=
  fillItems r items.length r.fields items 0 r.blank

def slots (r : Record σ) : List (Slot Shape) :=
  r.fields.map fun field => ⟨field.key, field.required, field.shape⟩

def decode (r : Record σ) : Reader σ where
  shape := .record .strict r.name r.slots
  read
    | .object entries => r.ofObject entries
    | .array items => r.ofArray items
    | j => .error (.mismatch j (.record r.name))

/-- For records that are only ever written as objects. -/
def decodeObject (r : Record σ) : Reader σ where
  shape := .record .lenient r.name r.slots
  read
    | .object entries => r.ofObject entries
    | j => .error (.mismatch j (.object r.name))

end Record
end GatewayEvents.Json
