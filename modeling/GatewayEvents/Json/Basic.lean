import GatewayEvents.Decimal.Shortest
import GatewayEvents.Table
import GatewayEvents.Text.Quoted

/-! JSON values. Whole numbers of up to 64 bits are integers, all others are doubles.
Members of an object stand in ascending key order, into which `normal` brings those of
any value, and `compact` is the text without blanks. -/
namespace GatewayEvents

inductive Json where
  | null
  | bool (value : Bool)
  | integer (value : Int)
  | real (value : Float)
  | text (value : String)
  | array (items : List Json)
  | object (members : List (String × Json))
  deriving Inhabited, Repr

namespace Json

def texts (items : List String) : Json := .array (items.map .text)

/-- Members that are present; the keys are given in ascending order. -/
def members (fields : List (String × Option Json)) : Json :=
  .object (fields.filterMap fun field => field.2.map (field.1, ·))

def lookup (key : String) (members : List (String × Json)) : Option Json :=
  Entries.lookup key members

def boolText (b : Bool) : String := if b then "true" else "false"

/-- Doubles have an exponent beyond sixteen places before the point or four zeros
behind it. -/
def realLayout : Decimal.Layout := ⟨some (-4), some 16, ".0"⟩

def padded (width : Nat) (digits : List Char) : String :=
  String.ofList (List.replicate (width - digits.length) '0' ++ digits)

def escape (c : Char) : String :=
  match c with
  | '"' => "\\\""
  | '\\' => "\\\\"
  | '\x08' => "\\b"
  | '\x0c' => "\\f"
  | '\n' => "\\n"
  | '\r' => "\\r"
  | '\t' => "\\t"
  | _ => if c.toNat < 0x20 then "\\u" ++ padded 4 (Nat.toDigits 16 c.toNat) else String.singleton c

def quote (s : String) : String := "\"" ++ String.join (s.toList.map escape) ++ "\""

mutual
def compact : Json → String
  | .null => "null"
  | .bool b => boolText b
  | .integer n => toString n
  | .real x => realLayout.text x
  | .text s => quote s
  | .array items => "[" ++ String.intercalate "," (compactItems items) ++ "]"
  | .object fields => "\x7b" ++ String.intercalate "," (compactMembers fields) ++ "\x7d"

def compactItems : List Json → List String
  | [] => []
  | item :: rest => compact item :: compactItems rest

def compactMembers : List (String × Json) → List String
  | [] => []
  | (key, value) :: rest => (quote key ++ ":" ++ compact value) :: compactMembers rest
end

/-- Members in ascending key order, of several under one key the last. -/
def sorted (members : List (String × Json)) : List (String × Json) :=
  (members.mergeSort fun a b => decide (a.1 ≤ b.1)).foldr (fun m rest =>
    if rest.head?.any (·.1 = m.1) then rest else m :: rest) []

mutual
/-- The value with its members in order, at any depth. -/
def normal : Json → Json
  | .array items => .array (normalItems items)
  | .object members => .object (sorted (normalMembers members))
  | j => j

def normalItems : List Json → List Json
  | [] => []
  | item :: rest => normal item :: normalItems rest

def normalMembers : List (String × Json) → List (String × Json)
  | [] => []
  | (key, value) :: rest => (key, normal value) :: normalMembers rest
end

/-- What an error message says of a value that it did not want. -/
def describe : Json → String
  | .null => "null"
  | .bool b => "boolean `" ++ boolText b ++ "`"
  | .integer n => "integer `" ++ toString n ++ "`"
  | .real x => "floating point `" ++ realLayout.text x ++ "`"
  | .text s => "string " ++ Text.quoted s
  | .array _ => "sequence"
  | .object _ => "map"

end Json
end GatewayEvents
