/-
# Layouts of decimal numbers

The digits of a number can be laid out positionally or with a power of ten. A
layout says when each is used, and whether a whole number shows a tenth.
-/

import MailMerge.Decimal.Shortest

namespace MailMerge
namespace Decimal

/-- **A layout.** Numbers below `10^positionalFrom` in magnitude, or of `10^positionalTo`
and more, are written with a power of ten; whole numbers below `10^tenthsBelow`
show `.0`. -/
structure Layout where
  tie : Tie
  positionalFrom : Option Int
  positionalTo : Option Int
  tenthsBelow : Option Int
  plusInExponent : Bool

/-- Written out in full, whole numbers without a point. -/
def Layout.plain : Layout := ⟨.away, none, none, none, false⟩

/-- Written out in full, whole numbers below `10^16` with one decimal. -/
def Layout.output : Layout := ⟨.away, none, none, some 16, false⟩

/-- Whole numbers with one decimal; a power of ten below `10^-4` and from `10^16` on. -/
def Layout.inspected : Layout := ⟨.away, some (-4), some 16, some 16, false⟩

/-- Whole numbers with one decimal; a signed power of ten below `10^-5` and from `10^16` on. -/
def Layout.json : Layout := ⟨.toEven, some (-5), some 16, some 16, true⟩

/-- The digits stay before, around or after the decimal point. -/
def Layout.positional (layout : Layout) (digits : Digits) : List Char :=
  let count : Int := digits.digits.length
  if digits.point ≤ 0 then
    ['0', '.'] ++ List.replicate (-digits.point).toNat '0' ++ digits.digits
  else if count ≤ digits.point then
    let whole := digits.digits ++ List.replicate (digits.point - count).toNat '0'
    match layout.tenthsBelow with
    | some bound => if digits.point ≤ bound then whole ++ ['.', '0'] else whole
    | none => whole
  else
    digits.digits.take digits.point.toNat ++ '.' :: digits.digits.drop digits.point.toNat

/-- One digit, the others after a point, and the power of ten. -/
def Layout.scientific (layout : Layout) (digits : Digits) : List Char :=
  let power := digits.point - 1
  let mantissa := match digits.digits with
    | d :: e :: rest => d :: '.' :: e :: rest
    | short => short
  let sign := if power < 0 then ['-'] else if layout.plusInExponent then ['+'] else []
  mantissa ++ 'e' :: sign ++ Nat.toDigits 10 power.natAbs

/-- The digits with a decimal point or a power of ten, as the layout has it. -/
def Layout.unsigned (layout : Layout) (digits : Digits) : List Char :=
  let tooSmall := match layout.positionalFrom with
    | some bound => digits.digits != ['0'] && digits.point ≤ bound
    | none => false
  let tooLarge := match layout.positionalTo with
    | some bound => bound < digits.point
    | none => false
  if tooSmall || tooLarge then layout.scientific digits else layout.positional digits

/-- **The text of a double** in a layout. -/
def Layout.text (layout : Layout) (f : Float) : String :=
  match Double.ofFloat f with
  | .nan => "NaN"
  | .infinite negative => if negative then "-inf" else "inf"
  | .finite negative mantissa exponent =>
    let body := layout.unsigned (shortest layout.tie mantissa exponent)
    String.ofList (if negative then '-' :: body else body)

end Decimal
end MailMerge
