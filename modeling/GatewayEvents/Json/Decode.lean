import GatewayEvents.Json.Basic
import GatewayEvents.StringMap

/-! Reading typed values out of JSON. A reader gives a value or the cause why the JSON
holds none; `DecodeError.message` is the wording. It also knows the shape of what it
reads, by which a text can be judged while it is being taken in. -/
namespace GatewayEvents.Json

inductive Wanted where
  | text
  | boolean
  | nothing
  | sequence
  | map
  | unsigned (bits : Nat)
  | signed (bits : Nat)
  | record (name : String)
  | positional (name : String) (fields : Nat)
  | fewer
  | items (count : Nat)
  | object (name : String)
  | timestamp
  | exactly (value : String)
  | tag
  | tagged (name : String)
  deriving DecidableEq, Repr

def counted (n : Nat) : String := toString n ++ (if n = 1 then " element" else " elements")

def Wanted.describe : Wanted → String
  | .text => "a string"
  | .boolean => "a boolean"
  | .nothing => "unit"
  | .sequence => "a sequence"
  | .map => "a map"
  | .unsigned bits => "u" ++ toString bits
  | .signed bits => "i" ++ toString bits
  | .record name => "struct " ++ name
  | .positional name fields =>
    "struct " ++ name ++ " with " ++ counted fields
  | .fewer => "fewer elements in array"
  | .items count => counted count ++ " in sequence"
  | .object name => name
  | .timestamp => "an RFC 3339 formatted date and time string"
  | .exactly value => value
  | .tag => "variant identifier"
  | .tagged name => "adjacently tagged enum " ++ name

inductive DecodeError where
  | mismatch (found : Json) (wanted : Wanted)
  | outOfRange (value : Int) (wanted : Wanted)
  | otherText (found : String) (wanted : String)
  | missing (field : String)
  | duplicate (field : String)
  | unknownTag (found : String) (tags : List String)
  | wrongLength (given : Nat) (wanted : Wanted)
  | unreadable (why : String)
  deriving Repr

def DecodeError.message : DecodeError → String
  | .mismatch found wanted => "invalid type: " ++ found.describe ++ ", expected " ++ wanted.describe
  | .outOfRange value wanted =>
    "invalid value: integer `" ++ toString value ++ "`, expected " ++ wanted.describe
  | .otherText found wanted =>
    "invalid value: string " ++ Text.quoted found ++ ", expected " ++ wanted
  | .missing field => "missing field `" ++ field ++ "`"
  | .duplicate field => "duplicate field `" ++ field ++ "`"
  | .unknownTag found tags =>
    "unknown variant `" ++ found ++ "`, expected one of "
      ++ String.intercalate ", " (tags.map fun tag => "`" ++ tag ++ "`")
  | .wrongLength given wanted =>
    "invalid length " ++ toString given ++ ", expected " ++ wanted.describe
  | .unreadable why => why

structure Slot (σ : Type) where
  key : String
  required : Bool
  shape : σ

/-- How the members of a record are taken. -/
inductive Manner where
  /-- Each known member at most once, or all of them in order. -/
  | strict
  /-- Of several members under one key the last counts. -/
  | lenient
  deriving DecidableEq, Repr

/-- What a value has to look like. A merged record has the members of two records side by
side, and the second one is looked at last. -/
inductive Shape where
  | text
  | boolean
  | anything
  | map
  | integer (wanted : Wanted)
  | readable (wanted : Wanted) (fault? : String → Option String)
  | exactly (value : String)
  | optional (shape : Shape)
  | list (item : Shape)
  | record (manner : Manner) (name : String) (slots : List (Slot Shape))
  | merged (name : String) (first second : List (Slot Shape))

structure Reader (α : Type) where
  shape : Shape
  read : Json → Except DecodeError α

instance : CoeFun (Reader α) fun _ => Json → Except DecodeError α := ⟨Reader.read⟩

/-- Whether a whole number is one of those wanted. -/
def Wanted.admits : Wanted → Int → Bool
  | .unsigned bits, n => 0 ≤ n && n < Int.ofNat (Nat.pow 2 bits)
  | .signed bits, n =>
    let bound := Int.ofNat (Nat.pow 2 (bits - 1))
    0 ≤ n + bound && n < bound
  | _, _ => false

namespace Read

def text : Reader String where
  shape := .text
  read
    | .text s => .ok s
    | j => .error (.mismatch j .text)

def boolean : Reader Bool where
  shape := .boolean
  read
    | .bool b => .ok b
    | j => .error (.mismatch j .boolean)

def integer (wanted : Wanted) : Reader Int where
  shape := .integer wanted
  read
    | .integer n => if wanted.admits n then .ok n else .error (.outOfRange n wanted)
    | j => .error (.mismatch j wanted)

def map (f : α → β) (reader : Reader α) : Reader β :=
  ⟨reader.shape, fun j => (reader j).map f⟩

def word32 : Reader UInt32 := map (fun n => .ofNat n.toNat) (integer (.unsigned 32))

def word64 : Reader UInt64 := map (fun n => .ofNat n.toNat) (integer (.unsigned 64))

def integer64 : Reader Int := integer (.signed 64)

def each (read : Json → Except DecodeError α) : List Json → Except DecodeError (List α)
  | [] => .ok []
  | item :: rest => do
    let value ← read item
    let values ← each read rest
    return value :: values

def list (reader : Reader α) : Reader (List α) where
  shape := .list reader.shape
  read
    | .array items => each reader items
    | j => .error (.mismatch j .sequence)

def member (entry : String × Json) : Except DecodeError (String × String) :=
  (text entry.2).map (entry.1, ·)

def members : List (String × Json) → Except DecodeError (List (String × String))
  | [] => .ok []
  | entry :: rest => do
    let first ← member entry
    let others ← members rest
    return first :: others

def stringMap : Reader StringMap where
  shape := .map
  read
    | .object entries => (members entries).map StringMap.ofList
    | j => .error (.mismatch j .map)

/-- A null stands for an absent value. -/
def optional (reader : Reader α) : Reader (Option α) where
  shape := .optional reader.shape
  read
    | .null => .ok none
    | j => (reader j).map some

end Read
end GatewayEvents.Json
