/-!
# Shortest decimals

A binary floating point number `m * 2 ^ q` stands for all reals that round to it: those half a unit
above and below, the ends included when `m` is even. `Shortest.ofBinary` gives the decimal
`digits * 10 ^ exponent` inside that interval with the fewest digits, and of two such the nearer.
-/

namespace PidOne.Decimal

/-- A power of two or ten over the integers, as a factor above and one below the line. -/
structure Scale where
  up : Nat
  down : Nat

def Scale.power (base : Nat) (exponent : Int) : Scale :=
  ⟨Nat.pow base exponent.toNat, Nat.pow base (-exponent).toNat⟩

/-- The reals that round to one number, each in units of `unit`: the number itself and the ends. -/
structure Interval where
  low : Nat
  middle : Nat
  high : Nat
  unit : Scale
  closed : Bool

namespace Interval

/-- The reals that round to `m * 2 ^ q`, where `even` tells whether the ends do and `narrow` that
the number below is only half as far away as the one above. -/
def ofBinary (m : Nat) (q : Int) (narrow : Bool) : Interval :=
  ⟨if narrow then 4 * m - 1 else 4 * m - 2, 4 * m, 4 * m + 2, Scale.power 2 (q - 2), m % 2 == 0⟩

/-- Whether `digits * 10 ^ exponent` is in the interval. -/
def contains (interval : Interval) (digits : Nat) (exponent : Int) : Bool :=
  let ten := Scale.power 10 exponent
  let value := digits * ten.up * interval.unit.down
  let low := interval.low * interval.unit.up * ten.down
  let high := interval.high * interval.unit.up * ten.down
  if interval.closed then low ≤ value && value ≤ high else low < value && value < high

/-- How far `digits * 10 ^ exponent` is from the number, in a unit that depends on `exponent` only.
-/
def distance (interval : Interval) (digits : Nat) (exponent : Int) : Nat :=
  let ten := Scale.power 10 exponent
  let value := digits * ten.up * interval.unit.down
  let middle := interval.middle * interval.unit.up * ten.down
  (value - middle) + (middle - value)

/-- The multiple of `10 ^ exponent` next below the number. -/
def below (interval : Interval) (exponent : Int) : Nat :=
  let ten := Scale.power 10 exponent
  interval.middle * interval.unit.up * ten.down / (ten.up * interval.unit.down)

/-- The best multiple of `10 ^ exponent` in the interval, if there is one. -/
def on? (interval : Interval) (exponent : Int) : Option Nat :=
  let floor := interval.below exponent
  match interval.contains floor exponent, interval.contains (floor + 1) exponent with
  | true, true =>
    if interval.distance (floor + 1) exponent < interval.distance floor exponent then
      some (floor + 1)
    else if interval.distance floor exponent < interval.distance (floor + 1) exponent then
      some floor
    else some (floor + floor % 2)
  | true, false => some floor
  | false, true => some (floor + 1)
  | false, false => none

/-- Looks for a multiple of ever finer powers of ten, the coarsest first. -/
def search (interval : Interval) : Nat → Int → Nat × Int
  | 0, exponent => (interval.below exponent, exponent)
  | grids + 1, exponent =>
    match interval.on? exponent with
    | some digits => (digits, exponent)
    | none => interval.search grids (exponent - 1)

end Interval

/-- The exponent of the first decimal digit of `m * 2 ^ q`, or one more. -/
def magnitude (m : Nat) (q : Int) : Int :=
  let two := Scale.power 2 q
  let whole := m * two.up / two.down
  if 0 < whole then ((Nat.toDigits 10 whole).length : Int)
  else -(((Nat.toDigits 10 (two.down / (m * two.up))).length : Int) - 1)

/-- Takes the zeros off the end of the digits. -/
def stripZeros : Nat → Nat → Int → Nat × Int
  | 0, digits, exponent => (digits, exponent)
  | fuel + 1, digits, exponent =>
    if digits % 10 == 0 && 0 < digits then stripZeros fuel (digits / 10) (exponent + 1)
    else (digits, exponent)

/-- A finite number apart from zero as digits and the power of ten they count. -/
def shortest (m : Nat) (q : Int) (narrow : Bool) : Nat × Int :=
  let found := (Interval.ofBinary m q narrow).search 20 (magnitude m q)
  stripZeros 20 found.1 found.2

/-- The sign, significand and exponent of a finite double, and whether the number below it is nearer
than the one above. -/
def ofDouble (x : Float) : Bool × Nat × Int × Bool :=
  let bits := x.toBits.toNat
  let sign := bits / Nat.pow 2 63 == 1
  let exponent : Nat := bits / Nat.pow 2 52 % 2048
  let fraction : Nat := bits % Nat.pow 2 52
  if exponent == 0 then (sign, fraction, -1074, false)
  else (sign, Nat.pow 2 52 + fraction, (exponent : Int) - 1075, fraction == 0 && 1 < exponent)

structure Layout where
  /-- The least exponent of the first digit that is written without `e`. -/
  least : Int
  greatest : Int

/-- Digits with a point somewhere in or around them, always with a digit on both sides. -/
def positional (digits : String) (exponent : Int) : String :=
  let first := exponent + digits.length - 1
  if 0 ≤ exponent then digits ++ String.ofList (List.replicate exponent.toNat '0') ++ ".0"
  else if 0 ≤ first then
    let whole := (first + 1).toNat
    String.ofList (digits.toList.take whole) ++ "." ++ String.ofList (digits.toList.drop whole)
  else "0." ++ String.ofList (List.replicate (-first - 1).toNat '0') ++ digits

/-- One digit, the others after a point if there are any, and the exponent with its sign. -/
def scientific (digits : String) (exponent : Int) : String :=
  let first := exponent + digits.length - 1
  let tail := String.ofList (digits.toList.drop 1)
  let mantissa := String.ofList (digits.toList.take 1) ++ (if tail.isEmpty then "" else "." ++ tail)
  mantissa ++ "e" ++ (if first < 0 then "-" else "+") ++ toString first.natAbs

def Layout.write (layout : Layout) (x : Float) : String :=
  let (sign, m, q, narrow) := ofDouble x
  let text :=
    if m == 0 then "0.0"
    else
      let (digits, exponent) := shortest m q narrow
      let written := toString digits
      let first := exponent + written.length - 1
      if layout.least ≤ first && first ≤ layout.greatest then positional written exponent
      else scientific written exponent
  (if sign then "-" else "") ++ text

end PidOne.Decimal
