/-! The shortest decimal that reads back as a given binary floating point number.
A finite double is taken apart into `mantissa * 2 ^ exponent`; the reals that round
to it form an interval around it. For one digit, two digits and so on the two
neighbours of the value on that decimal grid are tried in exact arithmetic, and the
first grid with a point inside the interval gives the digits. -/
namespace GatewayEvents.Decimal

/-- The magnitude `mantissa * 2 ^ exponent`. At the lower end of a binade the numbers
below lie at half the distance, which `closeBelow` records. -/
structure Dyadic where
  mantissa : Nat
  exponent : Int
  closeBelow : Bool
  deriving DecidableEq, Repr

/-- The magnitude `value * 10 ^ exponent`. -/
structure Digits where
  value : Nat
  exponent : Int
  deriving DecidableEq, Repr

/-- The leading bit of a mantissa, which is not written down. -/
def hiddenBit : Nat := Nat.pow 2 52

def Dyadic.ofBits (bits : UInt64) : Dyadic :=
  let fraction := bits.toNat % hiddenBit
  let scale := bits.toNat / hiddenBit % 2048
  if scale = 0 then ⟨fraction, -1074, false⟩
  else ⟨hiddenBit + fraction, Int.ofNat scale - 1075, fraction = 0 ∧ 1 < scale⟩

def power (base : Nat) (exponent : Int) : Nat := Nat.pow base exponent.toNat

/-- The decimal grid `10 ^ step` seen from a dyadic number: in units of a quarter of
its last binary place divided by `denominator`, one such quarter is `unit`. -/
structure Grid where
  unit : Nat
  denominator : Nat

def Dyadic.grid (v : Dyadic) (step : Int) : Grid where
  unit := power 2 (v.exponent - 2) * power 10 (-step)
  denominator := power 2 (2 - v.exponent) * power 10 step

/-- Whether the grid point rounds to the number: the ends of the interval belong to
it when the mantissa is even. -/
def Dyadic.admits (v : Dyadic) (g : Grid) (point : Nat) : Bool :=
  let low := (4 * v.mantissa - (if v.closeBelow then 1 else 2)) * g.unit
  let high := (4 * v.mantissa + 2) * g.unit
  let here := point * g.denominator
  if v.mantissa % 2 = 0 then low ≤ here ∧ here ≤ high else low < here ∧ here < high

/-- The admitted neighbour of the value on the grid; of two the nearer, and on a tie
the even one. -/
def Dyadic.onGrid? (v : Dyadic) (step : Int) : Option Nat :=
  let g := v.grid step
  let value := 4 * v.mantissa * g.unit
  let below := value / g.denominator
  match v.admits g below, v.admits g (below + 1) with
  | true, false => some below
  | false, true => some (below + 1)
  | false, false => none
  | true, true =>
    let rest := 2 * (value - below * g.denominator)
    if rest < g.denominator ∨ (rest = g.denominator ∧ below % 2 = 0) then some below
    else some (below + 1)

def digitCount (n : Nat) : Nat := (Nat.toDigits 10 n).length

/-- The place of the decimal point: the value lies below `10 ^ point` and not below
the power before it. The shift by 340 places makes every positive double exceed one. -/
def Dyadic.point (v : Dyadic) : Int :=
  let shifted := v.mantissa * power 2 v.exponent * power 10 340 / power 2 (-v.exponent)
  (digitCount shifted : Int) - 340

def stripZeros : Nat → Digits → Digits
  | 0, d => d
  | fuel + 1, d =>
    if d.value ≠ 0 ∧ d.value % 10 = 0 then stripZeros fuel ⟨d.value / 10, d.exponent + 1⟩ else d

/-- Seventeen digits always suffice. -/
def Dyadic.shortest (v : Dyadic) : Digits :=
  if v.mantissa = 0 then ⟨0, 0⟩
  else
    let point := v.point
    let found := (List.range 17).findSome? fun i =>
      let step := point - Int.ofNat (i + 1)
      (v.onGrid? step).map fun value => (⟨value, step⟩ : Digits)
    stripZeros 20 (found.getD ⟨0, 0⟩)

/-- How a decimal is laid out: where the point may stand without an exponent, and what
marks a whole number. -/
structure Layout where
  least : Option Int
  greatest : Option Int
  whole : String

def Layout.positional (l : Layout) (point : Int) : Bool :=
  l.least.all (· ≤ point) && l.greatest.all (point ≤ ·)

def zeros (n : Nat) : String := String.ofList (List.replicate n '0')

def Layout.render (l : Layout) (d : Digits) : String :=
  let digits := Nat.toDigits 10 d.value
  let count := digits.length
  let point : Int := if d.value = 0 then 1 else d.exponent + count
  if l.positional point then
    if point ≤ 0 then "0." ++ zeros (-point).toNat ++ String.ofList digits
    else if count ≤ point.toNat then
      String.ofList digits ++ zeros (point.toNat - count) ++ l.whole
    else
      String.ofList (digits.take point.toNat) ++ "." ++ String.ofList (digits.drop point.toNat)
  else
    let exponent := point - 1
    let power := Nat.toDigits 10 exponent.natAbs
    let more := digits.drop 1
    String.ofList (digits.take 1) ++ (if more.isEmpty then "" else "." ++ String.ofList more) ++ "e"
      ++ (if exponent < 0 then "-" else "+") ++ String.ofList power

def Layout.text (l : Layout) (x : Float) : String :=
  if x.isNaN then "NaN"
  else
    let bits := x.toBits
    let sign := if bits.toNat / Nat.pow 2 63 = 1 then "-" else ""
    sign ++ (if x.isInf then "inf" else l.render (Dyadic.ofBits bits).shortest)

/-- Every number without an exponent, and whole numbers without a point. -/
def plain : Layout := ⟨none, none, ""⟩

end GatewayEvents.Decimal
