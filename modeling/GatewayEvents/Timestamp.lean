/-! Points in time as resource metadata writes them: RFC 3339 with whole seconds in UTC.
Reading is more lenient than writing: blanks between the parts, one-digit fields, a
fraction of a second and any offset are accepted. -/
namespace GatewayEvents

/-- A civil date and time in UTC; a leap second has `second = 60`. -/
structure Timestamp where
  year : Int
  month : Nat
  day : Nat
  hour : Nat
  minute : Nat
  second : Nat
  deriving DecidableEq, Repr

namespace Timestamp

inductive Fault where
  | outOfRange
  | invalid
  | tooShort
  | trailing
  | impossible
  deriving DecidableEq, Repr

def Fault.message : Fault → String
  | .outOfRange => "input is out of range"
  | .invalid => "input contains invalid characters"
  | .tooShort => "premature end of input"
  | .trailing => "trailing input"
  | .impossible => "no possible date and time matching input"

def isBlank (c : Char) : Bool :=
  let n := c.toNat
  (9 ≤ n && n ≤ 13) || n = 0x20 || n = 0x85 || n = 0xA0 || n = 0x1680 || (0x2000 ≤ n && n ≤ 0x200A)
    || n = 0x2028 || n = 0x2029 || n = 0x202F || n = 0x205F || n = 0x3000

def skipBlanks (cs : List Char) : List Char := cs.dropWhile isBlank

def digitsValue (digits : List Char) : Nat :=
  digits.foldl (fun n c => n * 10 + (c.toNat - '0'.toNat)) 0

/-- Between one digit and `most` digits, or any number of them. -/
def number (most : Option Nat) (cs : List Char) : Except Fault (Nat × List Char) :=
  let window := match most with
    | some n => cs.take n
    | none => cs
  let digits := window.takeWhile Char.isDigit
  if cs.isEmpty then .error .tooShort
  else if digits.isEmpty then .error .invalid
  else .ok (digitsValue digits, cs.drop digits.length)

def ranged (low high : Nat) (cs : List Char) : Except Fault (Nat × List Char) := do
  let (n, rest) ← number (some 2) (skipBlanks cs)
  if low ≤ n ∧ n ≤ high then .ok (n, rest) else .error .outOfRange

def mark (c : Char) (cs : List Char) : Except Fault (List Char) :=
  match skipBlanks cs with
  | [] => .error .tooShort
  | c' :: rest => if c' = c then .ok rest else .error .invalid

/-- A sign allows more than four digits. -/
def yearNumber (cs : List Char) : Except Fault (Int × List Char) := do
  let (year, rest) ← match skipBlanks cs with
    | '-' :: rest => (number none rest).map fun (n, rest) => (-Int.ofNat n, rest)
    | '+' :: rest => (number none rest).map fun (n, rest) => (Int.ofNat n, rest)
    | cs => (number (some 4) cs).map fun (n, rest) => (Int.ofNat n, rest)
  if Int32.minValue.toInt ≤ year ∧ year ≤ Int32.maxValue.toInt then .ok (year, rest)
  else .error .outOfRange

def separator : List Char → Except Fault (List Char)
  | [] => .error .tooShort
  | c :: rest => if c = 'T' ∨ c = 't' ∨ c = ' ' then .ok rest else .error .invalid

/-- A fraction is read and forgotten. -/
def fraction : List Char → Except Fault (List Char)
  | '.' :: rest => (number (some 9) rest).map fun (_, rest) => rest.dropWhile Char.isDigit
  | cs => .ok cs

def twoDigits (most : Char) : List Char → Except Fault (Nat × List Char)
  | a :: b :: rest =>
    if a.isDigit ∧ b.isDigit then
      if a ≤ most then .ok (digitsValue [a, b], rest) else .error .outOfRange
    else .error .invalid
  | [c] => if c.toNat < 0x80 then .error .tooShort else .error .invalid
  | [] => .error .tooShort

/-- Seconds east of Greenwich. -/
def offset (cs : List Char) : Except Fault (Int × List Char) :=
  match cs with
  | [] => .error .tooShort
  | 'Z' :: rest | 'z' :: rest => .ok (0, rest)
  | c :: rest =>
    if (cs.take 3).map Char.toUpper = ['U', 'T', 'C'] then .ok (0, cs.drop 3)
    else if c = '+' ∨ c = '-' ∨ c = '\u2212' then do
      let (hours, rest) ← twoDigits '9' rest
      let (minutes, rest) ← twoDigits '5' (rest.dropWhile fun c => c = ':' || isBlank c)
      let seconds := Int.ofNat (hours * 3600 + minutes * 60)
      .ok (if c = '+' then seconds else -seconds, rest)
    else .error .invalid

def isLeapYear (year : Int) : Bool := year % 4 = 0 && (year % 100 ≠ 0 || year % 400 = 0)

def daysInMonth (year : Int) (month : Nat) : Nat :=
  match month with
  | 2 => if isLeapYear year then 29 else 28
  | 4 | 6 | 9 | 11 => 30
  | _ => 31

def nextDay (t : Timestamp) : Timestamp :=
  if t.day < daysInMonth t.year t.month then { t with day := t.day + 1 }
  else if t.month < 12 then { t with month := t.month + 1, day := 1 }
  else { t with year := t.year + 1, month := 1, day := 1 }

def previousDay (t : Timestamp) : Timestamp :=
  if 1 < t.day then { t with day := t.day - 1 }
  else if 1 < t.month then { t with month := t.month - 1, day := daysInMonth t.year (t.month - 1) }
  else { t with year := t.year - 1, month := 12, day := 31 }

/-- A local time read with an offset of less than a day, moved to UTC. -/
def toUtc (t : Timestamp) (east : Int) : Timestamp :=
  let minutes := Int.ofNat (t.hour * 60 + t.minute) - east / 60
  let day := if minutes < 0 then previousDay t else if 1440 ≤ minutes then nextDay t else t
  let clock := (minutes % 1440).toNat
  { day with hour := clock / 60, minute := clock % 60 }

/-- The years that points in time may lie in. -/
def isSupported (year : Int) : Bool := -262143 ≤ year && year ≤ 262142

/-- The day must exist where it was written, and the moment must still lie in a
supported year once it is moved to UTC. -/
def parse (s : String) : Except Fault Timestamp := do
  let (year, cs) ← yearNumber s.toList
  let (month, cs) ← ranged 1 12 (← mark '-' cs)
  let (day, cs) ← ranged 1 31 (← mark '-' cs)
  let (hour, cs) ← ranged 0 23 (← separator cs)
  let (minute, cs) ← ranged 0 59 (← mark ':' cs)
  let (second, cs) ← ranged 0 60 (← mark ':' cs)
  let (east, cs) ← offset (skipBlanks (← fraction cs))
  if ¬ (skipBlanks cs).isEmpty then .error .trailing
  else if daysInMonth year month < day ∨ 86400 ≤ east.natAbs ∨ ¬ isSupported year then
    .error .outOfRange
  else
    let moment := toUtc ⟨year, month, day, hour, minute, second⟩ east
    if isSupported moment.year then .ok moment else .error .impossible

def twoPlaces (n : Nat) : String := (if n < 10 then "0" else "") ++ toString n

/-- Years outside four digits carry a sign. -/
def yearText (year : Int) : String :=
  let digits := toString year.natAbs
  let padding := String.ofList (List.replicate (4 - digits.length) '0')
  (if year < 0 then "-" else if 9999 < year then "+" else "") ++ padding ++ digits

def text (t : Timestamp) : String :=
  yearText t.year ++ "-" ++ twoPlaces t.month ++ "-" ++ twoPlaces t.day ++ "T" ++ twoPlaces t.hour
    ++ ":" ++ twoPlaces t.minute ++ ":" ++ twoPlaces t.second ++ "Z"

end Timestamp
end GatewayEvents
