/-
# The shortest decimal that reads back

A double is written with the fewest digits that still round to it. For one
digit, then two, and so on, the two neighbours of the double on the grid of that
many digits are tried; the first grid with a hit decides. Of two hits the nearer
one is taken, and a rule says which when they are equally near.
-/

import MailMerge.Decimal.Double

namespace MailMerge
namespace Decimal

/-- Which of two equally near decimals is taken. -/
inductive Tie where
  | away
  | toEven
deriving DecidableEq, Repr

/-- **A decimal:** the digits `d₁d₂…dₙ` stand for `0.d₁d₂…dₙ · 10^point`. -/
structure Digits where
  digits : List Char
  point : Int
deriving DecidableEq, Repr

/-- The number of decimal digits of `n`; one for zero. -/
def digitCount (n : Nat) : Nat := (Nat.toDigits 10 n).length

/-- The power of ten of the leading digit of the positive fraction `num / den`. -/
def leadingPower (num den : Nat) : Int :=
  if den ≤ num then digitCount (num / den) - 1
  else if (den - 1) / num = 0 then 0
  else -(digitCount ((den - 1) / num))

/-- The decimal on the grid of `10^step` that rounds to the interval's double, if one does. -/
def onGrid (tie : Tie) (interval : Interval) (step : Int) : Option Nat :=
  let scaled := interval.inSteps step
  let lower := scaled.mid / scaled.unit
  match scaled.holds lower, scaled.holds (lower + 1) with
  | true, true =>
    let twice := 2 * scaled.mid
    let middle := (2 * lower + 1) * scaled.unit
    if twice < middle then some lower
    else if middle < twice then some (lower + 1)
    else match tie with
      | .away => some (lower + 1)
      | .toEven => some (if lower % 2 = 0 then lower else lower + 1)
  | true, false => some lower
  | false, true => some (lower + 1)
  | false, false => none

/-- Drops trailing zeros of a digit sequence that is not all zeros. -/
def dropTrailingZeros (digits : List Char) : List Char :=
  (digits.reverse.dropWhile (· == '0')).reverse

/-- The digits of `n · 10^step`. -/
def Digits.ofGrid (n : Nat) (step : Int) : Digits :=
  let digits := Nat.toDigits 10 n
  ⟨dropTrailingZeros digits, digits.length + step⟩

/-- **The shortest decimal** of `mantissa · 2^exponent`. Seventeen digits always suffice. -/
def shortest (tie : Tie) (mantissa : Nat) (exponent : Int) : Digits :=
  if mantissa = 0 then ⟨['0'], 1⟩
  else
    let interval := Interval.around mantissa exponent
    let top := leadingPower interval.mid interval.unit
    let found := (List.range 17).findSome? fun n : Nat =>
      (onGrid tie interval (top - n)).map fun value => Digits.ofGrid value (top - n)
    found.getD ⟨['0'], 1⟩

end Decimal
end MailMerge
