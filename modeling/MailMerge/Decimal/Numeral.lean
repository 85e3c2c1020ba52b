/-
# Reading numbers

A numeral is an optional sign, digits with at most one point among them, and an
optional power of ten; words for infinity and for no number are numerals of a
double too. Whole numbers are read only if they fit in 64 bits with a sign.
-/

namespace MailMerge
namespace Decimal

/-- A decimal digit. -/
def isDigit (c : Char) : Bool := '0' ≤ c && c ≤ '9'

/-- The value of a digit. -/
def digitValue (c : Char) : Nat := c.toNat - '0'.toNat

/-- **The value of a run of digits,** read from the left. -/
def digitsValue (digits : List Char) : Nat :=
  digits.foldl (fun value digit => 10 * value + digitValue digit) 0

/-- **Fitting into 64 bits:** the whole number as a word, if it is in range. -/
def word? (n : Int) : Option Int64 :=
  if Int64.minValue.toInt ≤ n ∧ n ≤ Int64.maxValue.toInt then some (Int64.ofInt n) else none

/-- A sign, if there is one, and what follows. -/
def splitSign : List Char → Bool × List Char
  | '-' :: rest => (true, rest)
  | '+' :: rest => (false, rest)
  | rest => (false, rest)

/-- The whole number with the given sign and digits. -/
def signed (negative : Bool) (digits : List Char) : Int :=
  if negative then -(digitsValue digits : Int) else digitsValue digits

/-- **Reading a whole number:** an optional sign and digits, in range. -/
def readInt? (cs : List Char) : Option Int64 :=
  let (negative, digits) := splitSign cs
  if digits.isEmpty || !digits.all isDigit then none else word? (signed negative digits)

/-- **The double nearest to** `± mantissa · 10^exponent`. Magnitudes far outside
the range of doubles are infinite or zero without being computed. -/
def nearest (negative : Bool) (mantissa : Nat) (exponent : Int) : Float :=
  let magnitude : Int := (Nat.toDigits 10 mantissa).length + exponent
  let size : Float :=
    if mantissa = 0 || magnitude < -400 then 0.0
    else if 400 < magnitude then 1.0 / 0.0
    else if exponent < 0 then Float.ofScientific mantissa true exponent.natAbs
    else Float.ofScientific mantissa false exponent.toNat
  if negative then -size else size

/-- The exponent part of a numeral, zero when there is none. -/
def readExponent? : List Char → Option Int
  | [] => some 0
  | e :: rest =>
    if e == 'e' || e == 'E' then
      let (negative, digits) := splitSign rest
      if digits.isEmpty || !digits.all isDigit then none else some (signed negative digits)
    else none

/-- The parts of an unsigned numeral: the digits before and after the point, and what follows. -/
def splitNumeral (cs : List Char) : List Char × List Char × List Char :=
  let whole := cs.takeWhile isDigit
  match cs.dropWhile isDigit with
  | '.' :: rest => (whole, rest.takeWhile isDigit, rest.dropWhile isDigit)
  | rest => (whole, [], rest)

/-- The letters `A` to `Z` in lower case. -/
def lowerAscii (c : Char) : Char :=
  if 'A' ≤ c && c ≤ 'Z' then Char.ofNat (c.toNat + 32) else c

/-- **Reading a double:** digits before or after a point, a power of ten, or a
word for infinity or no number, after an optional sign. -/
def readFloat? (cs : List Char) : Option Float :=
  let (negative, rest) := splitSign cs
  let letters := rest.map lowerAscii
  if letters == ['i', 'n', 'f'] || letters == ['i', 'n', 'f', 'i', 'n', 'i', 't', 'y'] then
    some (if negative then -1.0 / 0.0 else 1.0 / 0.0)
  else if letters == ['n', 'a', 'n'] then some (0.0 / 0.0)
  else
    let (whole, fraction, tail) := splitNumeral rest
    if whole.isEmpty && fraction.isEmpty then none
    else (readExponent? tail).map fun exponent =>
      nearest negative (digitsValue (whole ++ fraction)) (exponent - fraction.length)

end Decimal
end MailMerge
