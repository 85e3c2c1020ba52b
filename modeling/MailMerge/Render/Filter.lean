/-
# Filters

A filter turns a value and its arguments into a value. The standard filters do
arithmetic, change texts, measure values and stand in for blank ones.

Arithmetic reads texts that hold numbers, takes any other text and `nil` for
zero, and refuses everything else. Whole numbers give a whole number or, where
64 bits do not hold it, an overflow; they never wrap. As soon as one operand is
a double the result is one.
-/

import MailMerge.Decimal.Numeral
import MailMerge.Render.Fault
import MailMerge.Text.Blank
import MailMerge.Text.LetterCase
import MailMerge.Value.Access
import MailMerge.Value.Text

namespace MailMerge
namespace Render

/-- **A filter:** what is piped into it, and its arguments. -/
abbrev Filter := Value → List Value → Except Fault Value

/-- Filters by name. -/
abbrev FilterSet := Dict Filter

/-- A number that a filter works on. -/
inductive Operand where
  | int (value : Int64)
  | float (value : Float)

/-- The double of an operand. -/
def Operand.toFloat : Operand → Float
  | .int value => value.toFloat
  | .float value => value

/-- The number a text holds, zero if it holds none. -/
def Operand.ofText (s : String) : Operand :=
  let cs := Text.trimChars s.toList
  match Decimal.readInt? cs, Decimal.readFloat? cs with
  | some value, _ => .int value
  | none, some value => .float value
  | none, none => .int 0

/-- **The number a filter sees** in a value. -/
def operand (filter : String) : Value → Except Fault Operand
  | .int value => .ok (.int value)
  | .float value => .ok (.float value)
  | .nil => .ok (.int 0)
  | .text s => .ok (.ofText s)
  | value => .error (.filter filter (value.kind ++ " is not a number"))

/-- The first argument; there must be one. -/
def argument (filter : String) : List Value → Except Fault Value
  | value :: _ => .ok value
  | [] => .error (.filter filter "wrong number of arguments (0 for 1)")

/-- Both operands of an arithmetic filter. -/
def operands (filter : String) (input : Value) (arguments : List Value) :
    Except Fault (Operand × Operand) := do
  let left ← operand filter input
  let right ← operand filter (← argument filter arguments)
  return (left, right)

/-- A whole result, or the fault that it does not fit. -/
def wholeResult (filter : String) : Option Int64 → Except Fault Value
  | some value => .ok (.int value)
  | none => .error (.filter filter "integer overflow")

/-- **Arithmetic** on whole numbers where both are whole, else on doubles. -/
def arithmetic (filter : String) (onInts : Int64 → Int64 → Except Fault Value)
    (onFloats : Float → Float → Float) : Filter := fun input arguments => do
  match ← operands filter input arguments with
  | (.int a, .int b) => onInts a b
  | (a, b) => return .float (onFloats a.toFloat b.toFloat)

/-- **Euclid's quotient,** which leaves a remainder that is not negative. There is none
for a divisor of zero, nor where 64 bits do not hold it. -/
def euclidQuotient? (a b : Int64) : Option Int64 :=
  if b = 0 then none else Decimal.word? (a.toInt / b.toInt)

/-- **Euclid's remainder.** It cannot be taken for a divisor of zero, nor of the least
number by minus one. -/
def euclidRemainder? (a b : Int64) : Option Int64 :=
  if b = 0 ∨ a = Int64.minValue ∧ b = -1 then none else Decimal.word? (a.toInt % b.toInt)

/-- The whole number nearest to `a / b` from below, if 64 bits hold it. A quotient that
is not exact is rounded towards plus infinity by Euclid's division if the divisor is
negative. -/
def floorQuotient? (a b : Int64) : Option Int64 := do
  let quotient ← euclidQuotient? a b
  let remainder ← euclidRemainder? a b
  if b < 0 ∧ remainder ≠ 0 then Decimal.word? (quotient.toInt - 1) else return quotient

/-- What is left of `a` after taking `b` away `floor (a / b)` times, if 64 bits
hold every step. -/
def floorRemainder? (a b : Int64) : Option Int64 := do
  let quotient ← floorQuotient? a b
  let product ← Decimal.word? (b.toInt * quotient.toInt)
  Decimal.word? (a.toInt - product.toInt)

/-- A division of whole numbers, refused for a divisor of zero. -/
def dividing (filter : String) (divide : Int64 → Int64 → Option Int64) (a b : Int64) :
    Except Fault Value :=
  if b = 0 then .error (.filter filter "divided by 0") else wholeResult filter (divide a b)

/-- Addition. -/
def plus : Filter := arithmetic "plus"
  (fun a b => wholeResult "plus" (Decimal.word? (a.toInt + b.toInt))) (· + ·)

/-- Subtraction. -/
def minus : Filter := arithmetic "minus"
  (fun a b => wholeResult "minus" (Decimal.word? (a.toInt - b.toInt))) (· - ·)

/-- Multiplication. -/
def times : Filter := arithmetic "times"
  (fun a b => wholeResult "times" (Decimal.word? (a.toInt * b.toInt))) (· * ·)

/-- **Division,** towards minus infinity on whole numbers. -/
def dividedBy : Filter := arithmetic "divided_by" (dividing "divided_by" floorQuotient?) (· / ·)

/-- **The remainder of division,** with the sign of the divisor. -/
def modulo : Filter := arithmetic "modulo" (dividing "modulo" floorRemainder?)
  fun a b => a - b * (a / b).floor

/-- A filter on the output of its input alone. -/
def onOutput (change : String → String) : Filter := fun input _ => .ok (.text (change input.output))

/-- Joins the outputs of input and argument. -/
def joining (filter : String) (join : String → String → String) : Filter := fun input arguments => do
  return .text (join input.output (← argument filter arguments).output)

/-- **Size:** the characters of a text, the entries of a container, what an
object says of itself, and zero for everything else. -/
def sizeOf (input : Value) : Value :=
  match input with
  | .text s => .ofNat s.length
  | .array items => .ofNat items.length
  | .map members => .ofNat members.size
  | .object _ answer _ => answer "size"
  | _ => .ofNat 0

/-- Blank values: `nil`, `false`, and what has no entries. -/
def isBlank : Value → Bool
  | .nil => true
  | .bool value => !value
  | .text s => s.isEmpty
  | .array items => items.isEmpty
  | .map members => members.isEmpty
  | _ => false

/-- **A stand-in** for blank values. -/
def orDefault : Filter := fun input arguments => do
  let fallback ← argument "default" arguments
  return if isBlank input then fallback else input

/-- **The standard filters.** -/
def standardFilters : FilterSet := Dict.ofList [
  ("plus", plus),
  ("minus", minus),
  ("times", times),
  ("divided_by", dividedBy),
  ("modulo", modulo),
  ("append", joining "append" fun input suffix => input ++ suffix),
  ("prepend", joining "prepend" fun input front => front ++ input),
  ("upcase", onOutput Text.upcase),
  ("downcase", onOutput Text.downcase),
  ("capitalize", onOutput Text.capitalize),
  ("strip", onOutput Text.trim),
  ("size", fun input _ => .ok (sizeOf input)),
  ("default", orDefault)]

/-- **Applying a filter** by its name. -/
def FilterSet.apply (filters : FilterSet) (name : String) (input : Value) (arguments : List Value) :
    Except Fault Value :=
  match filters.find? name with
  | some filter => filter input arguments
  | none => .error (.undefinedFilter name)

/-- The names of a set of filters, as a listing for people. -/
def FilterSet.listing (filters : FilterSet) : String :=
  "FilterRegistry \x7b filters: [" ++ ", ".intercalate (filters.keys.map Text.quoted) ++ "] \x7d"

end Render
end MailMerge
