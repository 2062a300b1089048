import GatewayEvents.Json.Basic

/-! Numbers as JSON text writes them. The digits of a number are taken in from the left as
long as they fit into 64 bits, further ones before the point only count; the double is the
product or quotient of what was taken in and a power of ten. -/
namespace GatewayEvents.Json

def digitValue (c : Char) : Nat := c.toNat - '0'.toNat

/-- Takes in digits behind a number up to a greatest value; the rest is left over. -/
def absorb (greatest : Nat) : Nat → List Char → Nat × List Char
  | n, [] => (n, [])
  | n, c :: rest =>
    let next := n * 10 + digitValue c
    if next ≤ greatest then absorb greatest next rest else (n, c :: rest)

def powerOfTen (n : Nat) : Float := Float.ofScientific 1 false n

/-- The double `f * 10 ^ exponent`, unless it is too large. Powers beyond the greatest that
is a double are divided by one after the other. -/
def scaled : Nat → Float → Int → Option Float
  | 0, f, _ => some f
  | fuel + 1, f, exponent =>
    if exponent.natAbs ≤ 308 then
      if 0 ≤ exponent then
        let product := f * powerOfTen exponent.natAbs
        if product.isInf then none else some product
      else some (f / powerOfTen exponent.natAbs)
    else if f == 0.0 then some f
    else if 0 ≤ exponent then none
    else scaled fuel (f / powerOfTen 308) (exponent + 308)

/-- What stands in the text of a number besides its sign; a part may be absent. -/
structure NumberText where
  whole : List Char
  fraction : Option (List Char) := none
  exponent : Option Int := none

/-- A number without fraction and exponent, if it fits into 64 bits. -/
def wholeNumber (negative : Bool) (magnitude : Nat) : Json :=
  if ¬ negative then .integer magnitude
  else if magnitude = 0 ∨ Int64.minValue.toInt.natAbs < magnitude then
    .real (-(UInt64.ofNat magnitude).toFloat)
  else .integer (-Int.ofNat magnitude)

def NumberText.number (negative : Bool) (t : NumberText) : Option Json :=
  let whole := absorb (UInt64.size - 1) 0 t.whole
  if whole.2.isEmpty ∧ t.fraction.isNone ∧ t.exponent.isNone then
    some (wholeNumber negative whole.1)
  else
    let fraction := t.fraction.getD []
    let taken := absorb (UInt64.size - 1) whole.1 fraction
    let places := Int.ofNat (fraction.length - taken.2.length)
    let exponent := whole.2.length - places + t.exponent.getD 0
    (scaled 4 (UInt64.ofNat taken.1).toFloat exponent).map fun f =>
      .real (if negative then -f else f)

end GatewayEvents.Json
