/-
# Outlines

An outline is a template as far as it is the same for all recipients. It is text
with placeholders. A placeholder for an output is filled with that output's text;
one for a choice is filled with the key of a section when the choice's guard
holds, and with nothing when it does not. A section's text may hold placeholders
for outputs and, at its end, the mark at which all output stops.
-/

import MailMerge.Outline.Guard
import MailMerge.Outline.Key
import MailMerge.Tree.Node

namespace MailMerge

namespace Outline

open Render (Env)
open MailMerge.Tree (Output)

/-- **What can go wrong in a merge:** text that holds the opening mark of keys,
recipients or tables of the wrong shape, placeholders that lead in circles, and,
where faults are not contained, a fault of the shared part or of one recipient. -/
inductive Fault where
  | reservedText (text : String)
  | emptyRecipients
  | lengthMismatch (name : String) (expected found : Nat)
  | tableMismatch (key : String) (expected found : Nat)
  | unresolved (recipient : Nat)
  | shared (fault : Render.Fault)
  | personal (recipient : Nat) (fault : Render.Fault)
deriving DecidableEq, Repr

/-- What is wrong. -/
def Fault.message : Fault → String
  | .reservedText text =>
    "template text contains the reserved key prefix: " ++ Text.quoted text
  | .emptyRecipients => "no recipients to render"
  | .lengthMismatch name expected found =>
    "recipient array '" ++ name ++ "' has " ++ toString found ++ " entries, expected "
      ++ toString expected
  | .tableMismatch key expected found =>
    "variable table column '" ++ key ++ "' has " ++ toString found ++ " entries, expected "
      ++ toString expected
  | .unresolved recipient =>
    "placeholders for recipient " ++ toString recipient ++ " did not resolve"
  | .shared fault => "render error during extraction: " ++ fault.message
  | .personal recipient fault =>
    "render error for recipient " ++ toString recipient ++ ": " ++ fault.message

/-- **A piece of an outline:** text as it is, or the key of an output, of a
choice, or of the end of all output. -/
inductive Fragment where
  | literal (text : String)
  | output (key : String)
  | choice (key : String)
  | halt (key : String)
deriving DecidableEq, Repr

/-- The text of a fragment, a placeholder's being its key. -/
def Fragment.text : Fragment → String
  | .literal text => text
  | .output key => key
  | .choice key => key
  | .halt key => key

/-- The fragment is a choice. -/
def Fragment.isChoice : Fragment → Bool
  | .choice _ => true
  | _ => false

/-- The text of fragments, one after the other. -/
def textOf : List Fragment → String
  | [] => ""
  | fragment :: rest => fragment.text ++ textOf rest

/-- **Adding a fragment** at the end. Text is joined to text before it. -/
def pushFragment : List Fragment → Fragment → List Fragment
  | [], fragment => [fragment]
  | [.literal text], .literal more => [.literal (text ++ more)]
  | first :: rest, fragment => first :: pushFragment rest fragment

/-- **A choice:** the section with this key is shown when the guard holds. A
failing predicate is reported if it belongs to one of the conditionals in
`reports`, each of which is in the list of one choice. -/
structure Choice where
  guard : Guard
  body : String
  reports : List Nat

/-- **What fills a choice:** the section's key, nothing, or a fault that this
choice is to report. -/
def Choice.render (choice : Choice) (env : Env) : Except Render.Fault String :=
  match choice.guard.check env with
  | .ok true => .ok choice.body
  | .ok false => .ok ""
  | .error (owner, fault) => if choice.reports.contains owner then .error fault else .ok ""

/-- What fills the placeholder with a key. -/
inductive Producer where
  | output (output : Output)
  | choice (choice : Choice)

/-- The text that fills a placeholder. -/
def Producer.render (producer : Producer) (env : Env) : Except Render.Fault String :=
  match producer with
  | .output source => (Render.evalPipeline env source.expr source.filters).map Value.output
  | .choice source => source.render env

end Outline

/-- **An outline:** its fragments, what fills its placeholders, its sections as
the fragments they are made of, the marks of its keys, and the key at which all
output stops, if any section has it. -/
structure Outline where
  fragments : List Outline.Fragment
  producers : Dict Outline.Producer
  sections : Dict (List Outline.Fragment)
  format : Outline.KeyFormat
  halt : Option String

namespace Outline

/-- The text of an outline with its keys. -/
def text (outline : Outline) : String := textOf outline.fragments

/-- The texts of the sections. -/
def sectionTexts (outline : Outline) : Dict String := outline.sections.mapEntries textOf

@[simp] theorem textOf_append (first second : List Fragment) :
    textOf (first ++ second) = textOf first ++ textOf second := by
  induction first with
  | nil => simp [textOf]
  | cons fragment rest ih => simp [textOf, ih, String.append_assoc]

/-- Adding a fragment adds its text. -/
theorem textOf_pushFragment (fragments : List Fragment) (fragment : Fragment) :
    textOf (pushFragment fragments fragment) = textOf fragments ++ fragment.text := by
  fun_induction pushFragment fragments fragment with
  | case1 => simp [textOf]
  | case2 => simp [textOf, Fragment.text]
  | case3 first rest fragment _ ih => simp [textOf, ih, String.append_assoc]

end Outline
end MailMerge
