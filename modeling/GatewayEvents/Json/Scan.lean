import GatewayEvents.Json.Number
import GatewayEvents.Json.Decode

/-! Taking JSON in from text, from left to right. A scan moves a cursor over the text and
ends with a value or a fault; the cursor stays where the scan left it in either case. A
fault says what is wrong and, where the text itself is to blame, in which column; columns
count bytes. A text that only ends too early has the flaw `unfinished`. Values that nobody
needs are passed over more leniently than values that are kept. -/
namespace GatewayEvents.Json

inductive Malformed where
  | expectedValue
  | expectedWord
  | expectedColon
  | expectedItemEnd
  | expectedMemberEnd
  | keyNotText
  | trailingComma
  | trailingText
  | invalidNumber
  | numberTooLarge
  | invalidEscape
  | loneSurrogate
  | brokenSurrogate
  | rawControl
  | tooDeep
  deriving DecidableEq, Repr

def Malformed.message : Malformed → String
  | .expectedValue => "expected value"
  | .expectedWord => "expected ident"
  | .expectedColon => "expected `:`"
  | .expectedItemEnd => "expected `,` or `]`"
  | .expectedMemberEnd => "expected `,` or `\x7d`"
  | .keyNotText => "key must be a string"
  | .trailingComma => "trailing comma"
  | .trailingText => "trailing characters"
  | .invalidNumber => "invalid number"
  | .numberTooLarge => "number out of range"
  | .invalidEscape => "invalid escape"
  | .loneSurrogate => "lone leading surrogate in hex escape"
  | .brokenSurrogate => "unexpected end of hex escape"
  | .rawControl => "control character (\\u0000-\\u001F) found while parsing a string"
  | .tooDeep => "recursion limit exceeded"

inductive Flaw where
  | unfinished
  | malformed (why : Malformed)
  | unwanted (why : DecodeError)
  deriving Repr

def Flaw.message : Flaw → String
  | .unfinished => "EOF while parsing a value"
  | .malformed why => why.message
  | .unwanted why => why.message

structure Fault where
  flaw : Flaw
  column : Option Nat
  deriving Repr

/-- What is left of a text, how many bytes came before, and how much deeper arrays and
objects may be nested. -/
structure Cursor where
  rest : List Char
  column : Nat
  room : Nat

/-- Values may be nested a little less deep than this. -/
def Cursor.ofText (text : String) : Cursor := ⟨text.toList, 0, 128⟩

abbrev Scan := ExceptT Fault (StateM Cursor)

namespace Scan

def peek? : Scan (Option Char) := return (← get).rest.head?

def advance : Scan Unit := modify fun c =>
  match c.rest with
  | [] => c
  | first :: rest => { c with rest := rest, column := c.column + first.utf8Size }

/-- Takes the longest piece of characters of a kind, each one byte long. -/
def takeWhile (p : Char → Bool) : Scan (List Char) := do
  let piece := (← get).rest.takeWhile p
  modify fun c => { c with rest := c.rest.drop piece.length, column := c.column + piece.length }
  return piece

def isBlank (c : Char) : Bool := c = ' ' || c = '\n' || c = '\t' || c = '\r'

def skipBlanks : Scan Unit := discard (takeWhile isBlank)

def unfinished : Scan α := throw ⟨.unfinished, none⟩

/-- Blames the text some bytes behind the cursor. -/
def malformed (why : Malformed) (behind : Nat) : Scan α := do
  throw ⟨.malformed why, some ((← get).column + behind)⟩

/-- Blames the next byte, if there is one. -/
def malformedNext (why : Malformed) : Scan α := do
  malformed why (if (← get).rest.isEmpty then 0 else 1)

def unwanted (why : DecodeError) : Scan α := throw ⟨.unwanted why, none⟩

/-- A fault that has no column yet gets the one where the scan ended. -/
def locate (body : Scan α) : Scan α :=
  tryCatch body fun fault => do
    throw { fault with column := fault.column <|> some (← get).column }

def outcome (body : Scan α) : Scan (Except Fault α) := ExceptT.lift body.run

/-- Scans what stands in brackets and then the closing one, for which a fault in between
is no obstacle. -/
def nested (body : Scan α) (close : Scan Unit) : Scan α := do
  let room := (← get).room
  if room ≤ 1 then malformedNext .tooDeep
  modify fun c => { c with room := room - 1 }
  advance
  let result ← outcome body
  modify fun c => { c with room := room }
  let closed ← outcome close
  match result, closed with
  | .ok value, .ok _ => return value
  | .error fault, _ | _, .error fault => throw fault

def word : List Char → Scan Unit
  | [] => return
  | c :: rest => do
    match ← peek? with
    | none => unfinished
    | some next =>
      if next = c then
        advance
        word rest
      else malformed .expectedWord 1

/-- Where a number ends too early that is not kept, it is not a number at all. -/
def brokenNumber (kept : Bool) : Scan α := do
  match ← peek? with
  | none => if kept then unfinished else malformed .invalidNumber 0
  | some _ => malformed .invalidNumber 1

def wholePart (kept : Bool) : Scan (List Char) := do
  match ← peek? with
  | some '0' =>
    advance
    if (← peek?).any Char.isDigit then malformed .invalidNumber 1
    return ['0']
  | some c => if c.isDigit then takeWhile Char.isDigit else brokenNumber kept
  | none => brokenNumber kept

def fractionPart (kept : Bool) : Scan (Option (List Char)) := do
  if (← peek?) = some '.' then
    advance
    let digits ← takeWhile Char.isDigit
    if digits.isEmpty then brokenNumber kept
    return some digits
  else return none

def greatestExponent : Nat := Int32.maxValue.toInt.toNat

/-- An exponent beyond 31 bits makes a number too large, unless it is negative or the
number is zero. -/
def exponentPart (kept isZero : Bool) : Scan (Option Int) := do
  match ← peek? with
  | some 'e' | some 'E' =>
    advance
    let sign ← peek?
    if sign = some '-' ∨ sign = some '+' then advance
    let start := (← get).column
    let digits ← takeWhile Char.isDigit
    if digits.isEmpty then brokenNumber kept
    let taken := absorb greatestExponent 0 digits
    if kept ∧ sign ≠ some '-' ∧ ¬ isZero ∧ ¬ taken.2.isEmpty then
      throw ⟨.malformed .numberTooLarge, some (start + (digits.length - taken.2.length) + 1)⟩
    let exponent := Int.ofNat (if taken.2.isEmpty then taken.1 else greatestExponent + 1)
    return some (if sign = some '-' then -exponent else exponent)
  | _ => return none

def number (kept negative : Bool) : Scan Json := do
  let whole ← wholePart kept
  let fraction ← fractionPart kept
  let isZero := (whole ++ fraction.getD []).all (· = '0')
  let exponent ← exponentPart kept isZero
  match (NumberText.mk whole fraction exponent).number negative with
  | some value => return value
  | none => if kept then malformed .numberTooLarge 0 else return .null

def hexValue? (c : Char) : Option Nat :=
  if c.isDigit then some (digitValue c)
  else if 'a' ≤ c ∧ c ≤ 'f' then some (c.toNat - 'a'.toNat + 10)
  else if 'A' ≤ c ∧ c ≤ 'F' then some (c.toNat - 'A'.toNat + 10)
  else none

def hexUnit : Scan Nat := do
  let four := (← get).rest.take 4
  if four.foldr (fun c n => c.utf8Size + n) 0 < 4 then unfinished
  match four.mapM hexValue? with
  | some values =>
    if values.length ≠ 4 then malformed .invalidEscape 4
    modify fun c => { c with rest := c.rest.drop 4, column := c.column + 4 }
    return values.foldl (fun n v => n * 16 + v) 0
  | none => malformed .invalidEscape 4

/-- The next character of an escape that has to go on in a certain way. -/
def surrogateMark (c : Char) : Scan Unit := do
  match ← peek? with
  | none => unfinished
  | some next => if next = c then advance else malformed .brokenSurrogate 1

def isHighSurrogate (n : Nat) : Bool := 0xD800 ≤ n && n < 0xDC00

def isLowSurrogate (n : Nat) : Bool := 0xDC00 ≤ n && n < 0xE000

/-- A character by number, or by two numbers beyond sixteen bits. -/
def unicodeEscape (kept : Bool) : Scan Char := do
  let unit ← hexUnit
  if ¬ kept then return Char.ofNat unit
  if isLowSurrogate unit then malformed .loneSurrogate 0
  if isHighSurrogate unit then
    surrogateMark '\\'
    surrogateMark 'u'
    let low ← hexUnit
    if ¬ isLowSurrogate low then malformed .loneSurrogate 0
    return Char.ofNat (0x10000 + (unit - 0xD800) * 0x400 + (low - 0xDC00))
  return Char.ofNat unit

/-- What a character after a backslash stands for. -/
def shortEscape? : Char → Option Char
  | '"' => some '"'
  | '\\' => some '\\'
  | '/' => some '/'
  | 'b' => some '\x08'
  | 'f' => some '\x0c'
  | 'n' => some '\n'
  | 'r' => some '\r'
  | 't' => some '\t'
  | _ => none

def escapeSequence (kept : Bool) : Scan Char := do
  match ← peek? with
  | none => unfinished
  | some 'u' =>
    advance
    unicodeEscape kept
  | some c =>
    match shortEscape? c with
    | some plain =>
      advance
      return plain
    | none => malformed .invalidEscape 1

def textFrom (kept : Bool) : Nat → List Char → Scan String
  | 0, _ => unfinished
  | fuel + 1, read => do
    match ← peek? with
    | none => unfinished
    | some '"' =>
      advance
      return String.ofList read.reverse
    | some '\\' =>
      advance
      textFrom kept fuel ((← escapeSequence kept) :: read)
    | some c =>
      if c.toNat < 0x20 then malformed .rawControl (if kept then 1 else 0)
      advance
      textFrom kept fuel (c :: read)

def text (kept : Bool) : Scan String := do
  advance
  textFrom kept ((← get).rest.length + 1) []

def colon : Scan Unit := do
  skipBlanks
  match ← peek? with
  | none => unfinished
  | some ':' => advance
  | some _ => malformedNext .expectedColon

/-- Whether another item of an array follows. In an array that is not kept, an item that is
missing behind a comma is only missed when it is to be read. -/
def hasItem (kept first : Bool) : Scan Bool := do
  skipBlanks
  match ← peek? with
  | none => unfinished
  | some ']' => return false
  | some c =>
    if first then return true
    if c ≠ ',' then malformedNext .expectedItemEnd
    advance
    skipBlanks
    match ← peek? with
    | none => unfinished
    | some ']' => if kept then malformedNext .trailingComma else return true
    | some _ => return true

def hasMember (kept first : Bool) : Scan Bool := do
  skipBlanks
  match ← peek? with
  | none => unfinished
  | some '\x7d' => return false
  | some c =>
    if ¬ first then
      if c ≠ ',' then malformedNext .expectedMemberEnd
      advance
      skipBlanks
    match ← peek? with
    | none => unfinished
    | some '"' => return true
    | some '\x7d' => malformedNext (if kept ∧ ¬ first then .trailingComma else .keyNotText)
    | some _ => malformedNext .keyNotText

/-- The bracket behind the last item, unless there are more. -/
def endItems : Scan Unit := do
  skipBlanks
  match ← peek? with
  | none => unfinished
  | some ']' => advance
  | some ',' =>
    advance
    skipBlanks
    malformedNext (if (← peek?) = some ']' then .trailingComma else .trailingText)
  | some _ => malformedNext .trailingText

def endMembers : Scan Unit := do
  skipBlanks
  match ← peek? with
  | none => unfinished
  | some '\x7d' => advance
  | some ',' => malformedNext .trailingComma
  | some _ => malformedNext .trailingText

def scalar (kept : Bool) : Scan Json := do
  match ← peek? with
  | none => unfinished
  | some 'n' =>
    advance
    word "ull".toList
    return .null
  | some 't' =>
    advance
    word "rue".toList
    return .bool true
  | some 'f' =>
    advance
    word "alse".toList
    return .bool false
  | some '-' =>
    advance
    number kept true
  | some '"' => return .text (← text kept)
  | some c => if c.isDigit then number kept false else malformedNext .expectedValue

/-- Brackets around a value that is not kept may be nested at will. -/
def bracketed (kept : Bool) (body : Scan α) (close : Scan Unit) : Scan α :=
  if kept then nested body close
  else do
    advance
    let value ← body
    close
    return value

mutual
/-- Any value, its members as they stand in the text. -/
def value (kept : Bool) : Nat → Scan Json
  | 0 => unfinished
  | fuel + 1 => do
    skipBlanks
    match ← peek? with
    | some '[' => return .array (← bracketed kept (items kept fuel true []) endItems)
    | some '\x7b' => return .object (← bracketed kept (members kept fuel true []) endMembers)
    | _ => scalar kept

def items (kept : Bool) : Nat → Bool → List Json → Scan (List Json)
  | 0, _, _ => unfinished
  | fuel + 1, first, read => do
    if ← hasItem kept first then items kept fuel false ((← value kept fuel) :: read)
    else return read.reverse

def members (kept : Bool) : Nat → Bool → List (String × Json) → Scan (List (String × Json))
  | 0, _, _ => unfinished
  | fuel + 1, first, read => do
    if ← hasMember kept first then
      let key ← text kept
      colon
      members kept fuel false ((key, ← value kept fuel) :: read)
    else return read.reverse
end

/-- No scan of a text takes more steps into depth than this. -/
def fuelFor (text : String) : Nat := 4 * text.length + 16

/-- A scan of a whole text, behind which only blanks may follow. -/
def whole (body : Nat → Scan α) (text : String) : Except Fault α :=
  let scan : Scan α := do
    let value ← body (fuelFor text)
    skipBlanks
    if (← peek?).isSome then malformedNext .trailingText
    return value
  (scan.run (.ofText text)).1

end Scan

def parse? (text : String) : Option Json :=
  (Scan.whole (Scan.value true) text).toOption.map normal

end GatewayEvents.Json
