/-
# Comparing values

Equality is that of values. A text contains the output of another value, an
array an equal item, a map a name. Numbers are ordered by magnitude and texts
by their characters; a number and a text cannot be ordered, and any other pair
is in no order at all.
-/

import MailMerge.Markup.Expr
import MailMerge.Render.Fault
import MailMerge.Text.Search
import MailMerge.Value.Text

namespace MailMerge
namespace Render

open Markup (Operator)

/-- The container holds the item. -/
def holds (container item : Value) : Bool :=
  match container, item with
  | .text _, .nil => false
  | .text s, item => Text.contains s item.output
  | .array items, item => items.any fun candidate => candidate.same item
  | .map members, .text name => members.has name
  | _, _ => false

/-- The order of two doubles, none if one of them is no number. -/
def floatOrder? (a b : Float) : Option Ordering :=
  if a < b then some .lt else if b < a then some .gt else if a == b then some .eq else none

/-- **The order of two values,** none if they are in no order. Ordering a number
against a text is a fault that quotes both. -/
def order (left right : Value) : Except Fault (Option Ordering) :=
  let refused : Except Fault (Option Ordering) :=
    .error (.comparison left.inspect right.inspect)
  match left, right with
  | .int a, .int b => .ok (some (compare a.toInt b.toInt))
  | .int a, .float b => .ok (floatOrder? a.toFloat b)
  | .float a, .int b => .ok (floatOrder? a b.toFloat)
  | .float a, .float b => .ok (floatOrder? a b)
  | .text a, .text b => .ok (some (if a < b then .lt else if a = b then .eq else .gt))
  | .int _, .text _ => refused
  | .float _, .text _ => refused
  | .text _, .int _ => refused
  | .text _, .float _ => refused
  | _, _ => .ok none

/-- An ordering operator holds for an order. -/
def admits (operator : Operator) (order : Ordering) : Bool :=
  match operator with
  | .lt => order == .lt
  | .gt => order == .gt
  | .le => order != .gt
  | _ => order != .lt

/-- **Comparing two values** under an operator. -/
def compareValues (left : Value) (operator : Operator) (right : Value) : Except Fault Bool :=
  match operator with
  | .eq => .ok (left.same right)
  | .ne => .ok !(left.same right)
  | .contains => .ok (holds left right)
  | operator => (order left right).map fun found => found.any (admits operator)

end Render
end MailMerge
