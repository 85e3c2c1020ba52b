/-
# JSON numbers

A number is an optional minus sign, digits without a superfluous leading zero,
an optional fraction and an optional power of ten. One without fraction and
power that fits in 64 bits is a whole number; every other number is a double.

A double is read in one rounding step from a significand of 64 bits: digits
beyond those 64 bits only count towards the power of ten, and the significand is
multiplied or divided once by that power.
-/

import MailMerge.Json.Document
import MailMerge.Decimal.Numeral

namespace MailMerge
namespace Json

/-- A significand of at most 64 bits, the power of ten it is to be scaled by,
and whether digits had to be left out. -/
structure Significand where
  value : Nat
  power : Int
  full : Bool

/-- Takes up one more digit; `perDigit` and `perDropped` say what a digit that
is taken up or left out adds to the power of ten. -/
def Significand.push (perDigit perDropped : Int) (s : Significand) (digit : Char) : Significand :=
  let next := 10 * s.value + Decimal.digitValue digit
  if s.full || UInt64.size ≤ next then { s with power := s.power + perDropped, full := true }
  else { s with value := next, power := s.power + perDigit }

/-- The significand of the digits before and after the point. -/
def Significand.ofDigits (whole fraction : List Char) : Significand :=
  let integral := whole.foldl (Significand.push 0 1) ⟨0, 0, false⟩
  fraction.foldl (Significand.push (-1) 0) { integral with full := false }

/-- The double `10^n`. -/
def powerOfTen (n : Nat) : Float := Float.ofScientific 1 false n

/-- **The double of a significand and a power of ten,** none if it is too large.
Powers below `10^-308` are divided off in two steps. -/
def scale? (value : Nat) (power : Int) : Option Float :=
  let base := (UInt64.ofNat value).toFloat
  if value = 0 then some 0.0
  else if 308 < power then none
  else if 0 ≤ power then
    let product := base * powerOfTen power.toNat
    if product.isInf then none else some product
  else if -308 ≤ power then some (base / powerOfTen power.natAbs)
  else if -616 ≤ power then some (base / powerOfTen 308 / powerOfTen (power.natAbs - 308))
  else some 0.0

/-- The parts of a well formed number: sign, digits before and after the point,
and the power of ten; the last two are absent from a whole number. -/
def numberParts? (cs : List Char) : Option (Bool × List Char × Option (List Char × Int)) :=
  let (negative, rest) := match cs with
    | '-' :: rest => (true, rest)
    | rest => (false, rest)
  let whole := rest.takeWhile Decimal.isDigit
  let tail := rest.dropWhile Decimal.isDigit
  if whole.isEmpty || (whole.length > 1 && whole.head? == some '0') then none
  else match tail with
    | [] => some (negative, whole, none)
    | '.' :: tail =>
      let fraction := tail.takeWhile Decimal.isDigit
      if fraction.isEmpty then none
      else (Decimal.readExponent? (tail.dropWhile Decimal.isDigit)).map fun power =>
        (negative, whole, some (fraction, power))
    | tail => (Decimal.readExponent? tail).map fun power => (negative, whole, some ([], power))

/-- The double of the parts of a number, none if it is too large. -/
def float? (negative : Bool) (whole fraction : List Char) (power : Int) : Option Json :=
  let significand := Significand.ofDigits whole fraction
  (scale? significand.value (significand.power + power)).map fun size =>
    .float (if negative then -size else size)

/-- **Reading a number.** Minus zero is a double, since no whole number is. -/
def number? (cs : List Char) : Option Json :=
  match numberParts? cs with
  | none => none
  | some (negative, whole, none) =>
    if negative && Decimal.digitsValue whole == 0 then some (.float (-0.0))
    else match Decimal.word? (Decimal.signed negative whole) with
      | some n => some (.int n)
      | none => float? negative whole [] 0
  | some (negative, whole, some (fraction, power)) => float? negative whole fraction power

end Json
end MailMerge
