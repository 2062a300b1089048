import GatewayEvents.Text.Quoted

/-! Reading bytes as UTF-8. `chunks` splits any byte sequence into characters and
bytes that belong to none; a sequence is a text when every chunk is a character.
A broken character takes with it the longest run of bytes that could have begun
one, so that the next character is found again. -/
namespace GatewayEvents.Text

inductive Chunk where
  | char (c : Char)
  | stray (bytes : List UInt8)
  deriving DecidableEq, Repr

/-- Bounds for the second byte and the number of bytes that follow, by first byte. -/
def lead (b : UInt8) : Option (UInt8 × UInt8 × Nat) :=
  if 0xC2 ≤ b ∧ b ≤ 0xDF then some (0x80, 0xBF, 1)
  else if b = 0xE0 then some (0xA0, 0xBF, 2)
  else if b = 0xED then some (0x80, 0x9F, 2)
  else if 0xE1 ≤ b ∧ b ≤ 0xEF then some (0x80, 0xBF, 2)
  else if b = 0xF0 then some (0x90, 0xBF, 3)
  else if 0xF1 ≤ b ∧ b ≤ 0xF3 then some (0x80, 0xBF, 3)
  else if b = 0xF4 then some (0x80, 0x8F, 3)
  else none

/-- The continuation bytes at the front, at most `count` of them; the first one must
lie between `low` and `high`. -/
def continuation (low high : UInt8) : Nat → List UInt8 → List UInt8
  | 0, _ => []
  | _, [] => []
  | count + 1, b :: rest =>
    if low ≤ b ∧ b ≤ high then b :: continuation 0x80 0xBF count rest else []

/-- The code point of a first byte (less its marker bits) and its continuation. -/
def codePoint (first : UInt8) (tail : List UInt8) : Nat :=
  let bits := first.toNat % if tail.length = 1 then 0x20 else if tail.length = 2 then 0x10 else 0x08
  tail.foldl (fun point b => point * 0x40 + b.toNat % 0x40) bits

def chunks : List UInt8 → List Chunk
  | [] => []
  | b :: rest =>
    if b < 0x80 then .char (Char.ofNat b.toNat) :: chunks rest
    else match lead b with
      | none => .stray [b] :: chunks rest
      | some (low, high, count) =>
        let tail := continuation low high count rest
        let chunk := if tail.length = count then .char (Char.ofNat (codePoint b tail))
          else .stray (b :: tail)
        chunk :: chunks (rest.drop tail.length)
termination_by bytes => bytes.length

def Chunk.char? : Chunk → Option Char
  | .char c => some c
  | .stray _ => none

/-- The text that the bytes spell, if every byte belongs to a character. -/
def decode (bytes : List UInt8) : Option String :=
  ((chunks bytes).mapM Chunk.char?).map String.ofList

def upperHex (b : UInt8) : String :=
  let digits := (Nat.toDigits 16 b.toNat).map Char.toUpper
  String.ofList (if digits.length = 1 then '0' :: digits else digits)

/-- A stray byte is spelled out by number. -/
def Chunk.escape : Chunk → String
  | .char c => Text.escape c
  | .stray bytes => String.join (bytes.map fun b => "\\x" ++ upperHex b)

def quotedBytes (bytes : List UInt8) : String :=
  "\"" ++ String.join ((chunks bytes).map Chunk.escape) ++ "\""

end GatewayEvents.Text
