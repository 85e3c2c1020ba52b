/-
# Texts of values

A value has three texts. Its output is what a template writes: nothing for
`nil`, an array as its items one after the other, a map as JSON. Its inspected
form is what an error quotes. Its structural form names every constructor.
-/

import MailMerge.Value.Basic
import MailMerge.Json.Printer

namespace MailMerge
namespace Value

mutual

/-- **Output:** the text a template writes for a value. -/
def output : Value → String
  | .nil => ""
  | .bool value => if value then "true" else "false"
  | .int value => toString value.toInt
  | .float value => Decimal.Layout.output.text value
  | .text value => value
  | .array items => outputItems items
  | .map members => Json.print (toJson (.map members))
  | .object _ _ written => written
termination_by structural value => value

/-- The outputs of the items of an array, one after the other. -/
def outputItems : List Value → String
  | [] => ""
  | item :: items => output item ++ outputItems items
termination_by structural items => items

end

/-- **Inspected form:** the text an error quotes for a value. -/
def inspect : Value → String
  | .nil => "nil"
  | .text value => Text.quoted value
  | .array items => Json.print (toJson (.array items))
  | .map members => Json.print (toJson (.map members))
  | value => output value

mutual

/-- **Structural form:** the constructors of a value and what they hold. -/
def shape : Value → String
  | .nil => "Nil"
  | .bool value => if value then "Bool(true)" else "Bool(false)"
  | .int value => "Int(" ++ toString value.toInt ++ ")"
  | .float value => "Float(" ++ Decimal.Layout.inspected.text value ++ ")"
  | .text value => "Str(" ++ Text.quoted value ++ ")"
  | .array items => "Array([" ++ ", ".intercalate (shapeItems items) ++ "])"
  | .map ⟨members⟩ => "Map(\x7b" ++ ", ".intercalate (shapeMembers members) ++ "\x7d)"
  | .object .. => "Data(..)"
termination_by structural value => value

/-- The structural forms of the items of an array. -/
def shapeItems : List Value → List String
  | [] => []
  | item :: items => shape item :: shapeItems items
termination_by structural items => items

/-- The structural forms of the members of a map. -/
def shapeMembers : List (String × Value) → List String
  | [] => []
  | (name, member) :: members =>
    (Text.quoted name ++ ": " ++ shape member) :: shapeMembers members
termination_by structural members => members

end

end Value
end MailMerge
