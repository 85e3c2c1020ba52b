/-
# Values

A value is what a name stands for while a template is rendered: nothing, a truth
value, a whole number of 64 bits, a double, a text, an array, a map, or an
object that answers for its members itself. Whole numbers and doubles are equal
when they are the same number; an object equals only itself.
-/

import MailMerge.Json.Document

namespace MailMerge

/-- **A value.** An object is known by its identity; `member` answers for every
name, and `written` is what is written for the object itself. -/
inductive Value where
  | nil
  | bool (value : Bool)
  | int (value : Int64)
  | float (value : Float)
  | text (value : String)
  | array (items : List Value)
  | map (members : Dict Value)
  | object (identity : Nat) (member : String → Value) (written : String)

namespace Value

instance : Inhabited Value := ⟨.nil⟩

/-- The whole number `n` as a value, as far as 64 bits hold it. -/
def ofNat (n : Nat) : Value := .int (Int64.ofNat n)

/-- **Truth:** everything but `nil` and `false` counts as true. -/
def truthy : Value → Bool
  | .nil => false
  | .bool value => value
  | _ => true

/-- The value is `nil`. -/
def isNil : Value → Bool
  | .nil => true
  | _ => false

/-- What kind of value this is, in words. -/
def kind : Value → String
  | .nil => "nil"
  | .bool _ => "boolean"
  | .int _ => "integer"
  | .float _ => "float"
  | .text _ => "string"
  | .array _ => "array"
  | .map _ => "hash"
  | .object .. => "object"

/-- The double a number stands for. -/
def float? : Value → Option Float
  | .int value => some value.toFloat
  | .float value => some value
  | _ => none

mutual

/-- **Equality of values.** A whole number equals a double of the same
magnitude; a double that is no number equals nothing, itself included. -/
def same : Value → Value → Bool
  | .nil, .nil => true
  | .bool a, .bool b => a == b
  | .int a, .int b => a == b
  | .int a, .float b => a.toFloat == b
  | .float a, .int b => a == b.toFloat
  | .float a, .float b => a == b
  | .text a, .text b => a == b
  | .array as, .array bs => sameItems as bs
  | .map ⟨as⟩, .map ⟨bs⟩ => sameMembers as bs
  | .object a _ _, .object b _ _ => a == b
  | _, _ => false
termination_by structural a => a

/-- Equality of arrays, item by item. -/
def sameItems : List Value → List Value → Bool
  | [], [] => true
  | a :: as, b :: bs => same a b && sameItems as bs
  | _, _ => false
termination_by structural as => as

/-- Equality of maps: the same names with the same values. -/
def sameMembers : List (String × Value) → List (String × Value) → Bool
  | [], [] => true
  | (name, a) :: as, (other, b) :: bs => name == other && same a b && sameMembers as bs
  | _, _ => false
termination_by structural as => as

end

mutual

/-- **The value of a JSON document.** -/
def ofJson : Json → Value
  | .null => .nil
  | .bool value => .bool value
  | .int value => .int value
  | .float value => .float value
  | .text value => .text value
  | .array items => .array (ofItems items)
  | .object ⟨members⟩ => .map (Dict.ofList (ofMembers members))
termination_by structural json => json

/-- The values of the items of an array. -/
def ofItems : List Json → List Value
  | [] => []
  | item :: items => ofJson item :: ofItems items
termination_by structural items => items

/-- The values of the members of an object. -/
def ofMembers : List (String × Json) → List (String × Value)
  | [] => []
  | (name, member) :: members => (name, ofJson member) :: ofMembers members
termination_by structural members => members

end

mutual

/-- **The JSON document of a value.** An object becomes its text, and a double that is no finite
number becomes `null`. -/
def toJson : Value → Json
  | .nil => .null
  | .bool value => .bool value
  | .int value => .int value
  | .float value => .ofFloat value
  | .text value => .text value
  | .array items => .array (toItems items)
  | .map ⟨members⟩ => .object (Dict.ofList (toMembers members))
  | .object _ _ written => .text written
termination_by structural value => value

/-- The documents of the items of an array. -/
def toItems : List Value → List Json
  | [] => []
  | item :: items => toJson item :: toItems items
termination_by structural items => items

/-- The documents of the members of a map. -/
def toMembers : List (String × Value) → List (String × Json)
  | [] => []
  | (name, member) :: members => (name, toJson member) :: toMembers members
termination_by structural members => members

end

end Value
end MailMerge
