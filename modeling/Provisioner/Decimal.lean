/-!
# The shortest decimal that reads back

A binary floating point number stands for all reals that round to it. The text of the number is
the decimal with the fewest digits in that interval, and of those the one nearest to the number.
The search goes from coarse grids `10 ^ k` to fine ones and tests, in exact integer arithmetic, the
two neighbours of the number on each grid: if any point of a grid lies in the interval, so does one
of these two.
-/

namespace Provisioner.Decimal

/-- A positive finite number `significand * 2 ^ exponent`. -/
structure Binary where
  significand : Nat
  exponent : Int
  /-- The next smaller number is only half as far away as the next larger one. -/
  narrowBelow : Bool
deriving DecidableEq, Repr

/-- The number of fractions between two neighbouring powers of two: `2 ^ 52`. -/
def fractions : Nat := 0x10000000000000

/-- The magnitude of a finite number of double precision. -/
def Binary.ofFloat (x : Float) : Binary :=
  let bits := x.toBits.toNat
  let power : Nat := bits / fractions % 0x800
  let fraction : Nat := bits % fractions
  if power = 0 then ⟨fraction, -1074, false⟩
  else ⟨fractions + fraction, (power : Int) - 1075, fraction == 0 && decide (1 < power)⟩

/-- The number, the ends of the interval that rounds to it, and the points of a grid, all as
    multiples of one common unit. -/
structure Interval where
  low : Nat
  middle : Nat
  high : Nat
  /-- The distance between two points of the grid. -/
  pitch : Nat
  /-- The ends themselves round to the number. -/
  closed : Bool

def Binary.interval (b : Binary) (k : Int) : Interval :=
  let quarter := b.exponent - 2
  let factor := Nat.pow 2 quarter.toNat * Nat.pow 10 (-k).toNat
  { low := (4 * b.significand - if b.narrowBelow then 1 else 2) * factor
    middle := 4 * b.significand * factor
    high := (4 * b.significand + 2) * factor
    pitch := Nat.pow 10 k.toNat * Nat.pow 2 (-quarter).toNat
    closed := b.significand % 2 == 0 }

/-- Whether the point `n` of the grid rounds to the number. -/
def Interval.contains (i : Interval) (n : Nat) : Bool :=
  let x := n * i.pitch
  if i.closed then i.low ≤ x && x ≤ i.high else i.low < x && x < i.high

/-- The point of the grid that reads back, the nearer one if both neighbours do; of two equally
    near ones the even. -/
def Interval.nearest? (i : Interval) : Option Nat :=
  let below := i.middle / i.pitch
  let toBelow := i.middle - below * i.pitch
  let toAbove := (below + 1) * i.pitch - i.middle
  match i.contains below, i.contains (below + 1) with
  | true, true =>
      if toBelow < toAbove || (toBelow == toAbove && below % 2 == 0) then some below
      else some (below + 1)
  | true, false => some below
  | false, true => some (below + 1)
  | false, false => none

/-- A power of ten above the number, near enough for twenty grids to reach seventeen digits. -/
def Binary.ceiling (b : Binary) : Int :=
  (b.exponent + b.significand.log2 + 1) * 30103 / 100000 + 1

/-- The digits and the exponent of the shortest decimal that reads back as `b`. -/
def Binary.shortest (b : Binary) : Nat × Int :=
  let hit? := (List.range 20).findSome? fun (step : Nat) =>
    let k := b.ceiling - step
    (b.interval k).nearest?.map (·, k)
  hit?.getD (0, 0)

/-- One tenth needs a single digit, a sum with a rounding error all seventeen. -/
example : (Binary.ofFloat 0.1).shortest = (1, -1) := by decide +kernel

example : (Binary.mk 1 (-1074) false).shortest = (5, -324) := by decide +kernel

/-!
## Floating point numbers as text

A number is written with its shortest digits. Magnitudes whose leading digit stands between
`10 ^ -5` and `10 ^ 15` are written out with a point, and with `.0` when they are whole; others
with one digit before the point and an exponent that carries its sign. A float is therefore never
mistaken for an integer when it is read again.

Reading goes the other way by the usual arithmetic: the digits are converted to a float and then
multiplied or divided by a power of ten.
-/

/-- The least power of ten that is written out. -/
def leastPositional : Int := -5

/-- The greatest power of ten that is written out. -/
def greatestPositional : Int := 15

private def zeros (n : Nat) : String := String.ofList (List.replicate n '0')

/-- The decimal `digits * 10 ^ exponent` in text. -/
def written (digits : Nat) (exponent : Int) : String :=
  let ds := Nat.toDigits 10 digits
  let point := exponent + ds.length
  let leading := point - 1
  if leastPositional ≤ leading ∧ leading ≤ greatestPositional then
    if 0 ≤ exponent then String.ofList ds ++ zeros exponent.toNat ++ ".0"
    else if 0 < point then
      String.ofList (ds.take point.toNat) ++ "." ++ String.ofList (ds.drop point.toNat)
    else "0." ++ zeros (-point).toNat ++ String.ofList ds
  else
    let fraction := if ds.length ≤ 1 then "" else "." ++ String.ofList (ds.drop 1)
    let sign := if leading < 0 then "-" else "+"
    String.ofList (ds.take 1) ++ fraction ++ "e" ++ sign ++ toString leading.natAbs

/-- The first bit pattern of a number with a minus sign: `2 ^ 63`. -/
def signBit : Nat := 0x8000000000000000

def ofFloat (x : Float) : String :=
  let sign := if x.toBits.toNat < signBit then "" else "-"
  let b := Binary.ofFloat x
  if b.significand = 0 then sign ++ "0.0"
  else sign ++ written b.shortest.1 b.shortest.2

/-- The borders of what is written out, and the sign of an exponent. -/
example : written 1 15 = "1000000000000000.0" ∧ written 1 16 = "1e+16" := by decide +kernel

example : written 12 (-6) = "0.000012" ∧ written 12 (-7) = "1.2e-6" := by decide +kernel

/-- A zero keeps its sign. -/
example : ofFloat 0.0 = "0.0" ∧ ofFloat (-0.0) = "-0.0" := by decide +kernel

/-! ### Reading -/

/-- The greatest power of ten that one multiplication takes. -/
def greatestPower : Nat := 308

def power (n : Nat) : Float := Float.ofScientific 1 false n

/-- `x * 10 ^ exponent`, or nothing if that is too large for a float. A large negative exponent is
    taken in steps, so that small numbers keep as many digits as they can. -/
def scale (x : Float) (exponent : Int) : Option Float :=
  if exponent.natAbs ≤ greatestPower then
    if 0 ≤ exponent then
      let y := x * power exponent.natAbs
      if y.isInf then none else some y
    else some (x / power exponent.natAbs)
  else if x == 0 then some x
  else if 0 ≤ exponent then none
  else scale (x / power greatestPower) (exponent + greatestPower)
termination_by exponent.natAbs
decreasing_by simp only [greatestPower] at *; omega

/-- The float nearest to the natural number `n`, for `n` below `2 ^ 64`. -/
def ofNat (n : Nat) : Float := n.toUInt64.toFloat

end Provisioner.Decimal
