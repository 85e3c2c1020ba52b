/-
# JSON documents

A JSON document is nothing, a truth value, a number, a text, an array or an
object. A number remembers whether it is a whole number of 64 bits or a double.
The members of an object are kept in order of their names.
-/

import MailMerge.Decimal.Double
import MailMerge.Dict

namespace MailMerge

/-- **A JSON document.** -/
inductive Json where
  | null
  | bool (value : Bool)
  | int (value : Int64)
  | float (value : Float)
  | text (value : String)
  | array (items : List Json)
  | object (members : Dict Json)

namespace Json

instance : Inhabited Json := ⟨.null⟩

/-- The object with the given members. -/
def ofMembers (members : List (String × Json)) : Json := .object (Dict.ofList members)

/-- The array of the given texts. -/
def ofTexts (texts : List String) : Json := .array (texts.map .text)

/-- The number `f`, or `null` where it is no finite number. -/
def ofFloat (f : Float) : Json :=
  match Decimal.Double.ofFloat f with
  | .finite .. => .float f
  | _ => .null

/-- The whole number `n`, as far as 64 bits hold it. -/
def ofNat (n : Nat) : Json := .int (Int64.ofNat n)

end Json
end MailMerge
