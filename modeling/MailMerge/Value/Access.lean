/-
# Members and indices of values

A map and an object answer for the names they have. Beyond that, containers and
texts know their size, and arrays and maps their ends. An array is indexed by
position, from the end when the position is negative; everything else by name.
What is not there is `nil`.
-/

import MailMerge.Value.Basic

namespace MailMerge
namespace Value

/-- The first name of a map with its value, as an array of two. -/
def firstPair (members : Dict Value) : Value :=
  match members.pairs with
  | (name, value) :: _ => .array [.text name, value]
  | [] => .nil

/-- What the name `name` means for a container or a text on its own account. -/
def property (value : Value) (name : String) : Value :=
  match value with
  | .array items =>
    if name = "size" then ofNat items.length
    else if name = "first" then items.head?.getD .nil
    else if name = "last" then items.getLast?.getD .nil
    else .nil
  | .map members =>
    if name = "size" then ofNat members.size
    else if name = "first" then firstPair members
    else .nil
  | .text s => if name = "size" then ofNat s.length else .nil
  | _ => .nil

/-- **The member `name` of a value.** A map's own names come before its properties. -/
def member (value : Value) (name : String) : Value :=
  match value with
  | .map members => (members.find? name).getD (property value name)
  | .object _ answer _ => answer name
  | _ => property value name

/-- The item of an array at a position; a negative one counts from the end. -/
def itemAt (items : List Value) (position : Int64) : Value :=
  let n := position.toInt
  let place := if n < 0 then items.length + n else n
  if place < 0 then .nil else items[place.toNat]?.getD .nil

/-- **The part of a value that a key selects.** -/
def index (value key : Value) : Value :=
  match value, key with
  | .array items, .int position => itemAt items position
  | .array _, .text name => value.member name
  | .map _, .text name => value.member name
  | .object .., .text name => value.member name
  | .text _, .text name => value.member name
  | _, _ => .nil

end Value
end MailMerge
