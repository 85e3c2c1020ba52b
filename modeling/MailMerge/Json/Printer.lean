/-
# Writing JSON

Documents are written without spaces. Inside a text the quote, the backslash
and the controls are escaped, and nothing else is. A double is written with the
fewest digits that read back, with at least one decimal; one that is not a
number is written as `null`.
-/

import MailMerge.Json.Document
import MailMerge.Decimal.Layout
import MailMerge.Text.Quoted

namespace MailMerge
namespace Json

/-- How one character of a text is written. -/
def escapeChar (c : Char) : List Char :=
  if c == '"' then ['\\', '"']
  else if c == '\\' then ['\\', '\\']
  else if c == '\n' then ['\\', 'n']
  else if c == '\r' then ['\\', 'r']
  else if c == '\t' then ['\\', 't']
  else if c == '\x08' then ['\\', 'b']
  else if c == '\x0c' then ['\\', 'f']
  else if c.toNat < 16 then ['\\', 'u', '0', '0', '0'] ++ Text.hexDigits c.toNat
  else if c.toNat < 32 then ['\\', 'u', '0', '0'] ++ Text.hexDigits c.toNat
  else [c]

/-- A text between quotes. -/
def escaped (s : String) : String :=
  String.ofList ('"' :: s.toList.flatMap escapeChar ++ ['"'])

/-- A double, or `null` where it is not a finite number. -/
def floatText (f : Float) : String :=
  match Decimal.Double.ofFloat f with
  | .finite .. => Decimal.Layout.json.text f
  | _ => "null"

mutual

/-- **The text of a document,** without spaces. -/
def print : Json → String
  | .null => "null"
  | .bool value => if value then "true" else "false"
  | .int value => toString value.toInt
  | .float value => floatText value
  | .text value => escaped value
  | .array items => "[" ++ ",".intercalate (printItems items) ++ "]"
  | .object ⟨pairs⟩ => "\x7b" ++ ",".intercalate (printMembers pairs) ++ "\x7d"
termination_by structural json => json

/-- The texts of the items of an array. -/
def printItems : List Json → List String
  | [] => []
  | item :: items => print item :: printItems items
termination_by structural items => items

/-- The texts of the members of an object. -/
def printMembers : List (String × Json) → List String
  | [] => []
  | (name, value) :: members => (escaped name ++ ":" ++ print value) :: printMembers members
termination_by structural members => members

end

end Json
end MailMerge
