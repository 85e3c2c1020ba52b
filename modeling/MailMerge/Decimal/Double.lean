/-
# Binary floating point numbers, taken apart

A double is a sign, a whole number `m < 2^53` and a power of two, or one of the
values that are no number. The reals that round to a finite double form an
interval around it, whose ends lie halfway to its two neighbours.
-/

namespace MailMerge
namespace Decimal

/-- **A double taken apart.** The finite ones are `mantissa · 2^exponent`, up to sign. -/
inductive Double where
  | nan
  | infinite (negative : Bool)
  | finite (negative : Bool) (mantissa : Nat) (exponent : Int)
deriving DecidableEq, Repr

/-- The parts of the double with the given 64 bits. -/
def Double.ofBits (bits : Nat) : Double :=
  let negative := bits / Nat.pow 2 63 % 2 == 1
  let biased : Nat := bits / Nat.pow 2 52 % Nat.pow 2 11
  let fraction : Nat := bits % Nat.pow 2 52
  if biased = 2047 then (if fraction = 0 then .infinite negative else .nan)
  else if biased = 0 then .finite negative fraction (-1074)
  else .finite negative (Nat.pow 2 52 + fraction) ((biased : Int) - 1075)

/-- The parts of a double. -/
def Double.ofFloat (f : Float) : Double := Double.ofBits f.toBits.toNat

/-- The neighbour below is only half as far away as the one above. -/
def narrowBelow (mantissa : Nat) (exponent : Int) : Bool :=
  mantissa == Nat.pow 2 52 && exponent != -1074

/-- **The interval that rounds to a double,** as numerators over one denominator:
its lower end, the double itself and its upper end. -/
structure Interval where
  low : Nat
  mid : Nat
  high : Nat
  unit : Nat
  closed : Bool

/-- The reals that round to `mantissa · 2^exponent`. The ends belong to it when
the mantissa is even. -/
def Interval.around (mantissa : Nat) (exponent : Int) : Interval :=
  let below := if narrowBelow mantissa exponent then 1 else 2
  let scale := Nat.pow 2 (exponent - 2).toNat
  { low := (4 * mantissa - below) * scale
    mid := 4 * mantissa * scale
    high := (4 * mantissa + 2) * scale
    unit := Nat.pow 2 (2 - exponent).toNat
    closed := mantissa % 2 == 0 }

/-- The same interval measured in steps of `10^step`. -/
def Interval.inSteps (interval : Interval) (step : Int) : Interval :=
  let up := Nat.pow 10 (-step).toNat
  { low := interval.low * up
    mid := interval.mid * up
    high := interval.high * up
    unit := interval.unit * Nat.pow 10 step.toNat
    closed := interval.closed }

/-- The whole number `n` lies in the interval. -/
def Interval.holds (interval : Interval) (n : Nat) : Bool :=
  if interval.closed then interval.low ≤ n * interval.unit && n * interval.unit ≤ interval.high
  else interval.low < n * interval.unit && n * interval.unit < interval.high

end Decimal
end MailMerge
