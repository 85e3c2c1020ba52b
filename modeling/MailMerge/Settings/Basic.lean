/-
# Settings

The settings of an engine say whether faults are handed back instead of being
contained, which names are personal, and what placeholder keys look like. They
can be read from a document with two tables.

| table | name | value |
| --- | --- | --- |
| `render` | `strict` | a truth value |
| `skeleton` | `separate` | the pattern of the personal names |
| `skeleton` | `key_prefix`, `key_suffix` | the marks around the number of a key |

What else the document says is refused, and so is, in this order, a pattern that
is not well formed and an opening mark that is empty or holds a digit, since a key
could not be told from the text around it.
-/

import MailMerge.Outline.Key
import MailMerge.Pattern.Reader
import MailMerge.Render.Selector
import MailMerge.Settings.Document
import MailMerge.Text.Quoted

namespace MailMerge

namespace Settings

/-- **Why settings are refused.** -/
inductive Fault where
  | document
  | pattern
  | keyFormat (message : String)
deriving DecidableEq, Repr

/-- What is wrong. -/
def Fault.message : Fault → String
  | .document => "Failed to parse config TOML: not a settings document"
  | .pattern => "Invalid separation pattern: not a pattern"
  | .keyFormat message => "Invalid key format: " ++ message

end Settings

/-- **The settings of an engine.** -/
structure Settings where
  strict : Bool
  selector : Option Render.Selector
  format : Outline.KeyFormat

namespace Settings

/-- Faults are contained, no name is personal, and keys have the standard marks. -/
def standard : Settings := ⟨false, none, .standard⟩

/-- **The selector of the names in which a pattern is found.** -/
def selectorOf (pattern : String) : Except Fault Render.Selector :=
  match Pattern.read? pattern with
  | some found => .ok ⟨found.foundIn, some pattern⟩
  | none => .error .pattern

/-- **Checking the marks of keys:** the opening one must not be empty and must
not hold a digit. -/
def check (settings : Settings) : Except Fault Unit :=
  let opening := settings.format.opening
  if opening.isEmpty then .error (.keyFormat "key prefix must not be empty")
  else if opening.toList.any Decimal.isDigit then
    .error (.keyFormat ("key prefix " ++ Text.quoted opening ++ " must not contain digits"))
  else .ok ()

/-- What the entries of a document say, before it is checked. -/
structure Choices where
  strict : Option Bool
  separate : Option String
  opening : Option String
  closing : Option String

/-- An entry is taken up, none if it says something that there is no setting for. -/
def Choices.add? (choices : Choices) (entry : Entry) : Option Choices :=
  match entry.value with
  | .bool value =>
    if entry.table = "render" ∧ entry.name = "strict" then some { choices with strict := some value }
    else none
  | .text value =>
    if entry.table = "skeleton" then
      if entry.name = "separate" then some { choices with separate := some value }
      else if entry.name = "key_prefix" then some { choices with opening := some value }
      else if entry.name = "key_suffix" then some { choices with closing := some value }
      else none
    else none

/-- What a document says, none if it is not well formed or says something else. -/
def readChoices? (s : String) : Option Choices :=
  (readDocument? s).bind fun (tables, entries) =>
    if tables.all fun table => table == "render" || table == "skeleton" then
      entries.foldlM Choices.add? ⟨none, none, none, none⟩
    else none

/-- **The settings of a document.** What it does not mention is as in the
standard settings. -/
def ofDocument (s : String) : Except Fault Settings := do
  match readChoices? s with
  | none => .error .document
  | some choices =>
    let selector ← match choices.separate with
      | some pattern => (selectorOf pattern).map some
      | none => .ok none
    let settings : Settings :=
      { strict := choices.strict.getD false
        selector := selector
        format :=
          ⟨choices.opening.getD Outline.KeyFormat.standard.opening,
            choices.closing.getD Outline.KeyFormat.standard.closing⟩ }
    settings.check
    return settings

end Settings
end MailMerge
