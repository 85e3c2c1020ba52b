/-
# Faults of a template

A template that is not well formed has a fault at a place: a tag or an output
without its closing mark, a tag nobody knows, an `else` or `end` where none may
stand, a block that is never closed, or markup that does not follow its grammar.
-/

import MailMerge.Text.Span

namespace MailMerge
namespace Source

open Text (Span)

/-- **A fault of a template.** -/
inductive Fault where
  | unterminatedTag (raw : String) (span : Span)
  | unterminatedOutput (raw : String) (span : Span)
  | unknownTag (name : String) (span : Span)
  | unexpectedElse (block : String) (span : Span)
  | invalidEnd (block expected : String) (span : Span)
  | neverClosed (block : String) (span : Span)
  | invalidCondition (message : String) (span : Span)
  | markup (message : String) (expected : List String) (span : Span)
deriving DecidableEq, Repr

namespace Fault

/-- Where the fault is. -/
def span : Fault → Span
  | unterminatedTag _ span => span
  | unterminatedOutput _ span => span
  | unknownTag _ span => span
  | unexpectedElse _ span => span
  | invalidEnd _ _ span => span
  | neverClosed _ span => span
  | invalidCondition _ span => span
  | markup _ _ span => span

/-- **What is wrong,** without the place. -/
def message : Fault → String
  | unterminatedTag raw _ => "Tag '" ++ raw ++ "' was not properly terminated with '%\x7d'"
  | unterminatedOutput raw _ =>
    "Variable '" ++ raw ++ "' was not properly terminated with '\x7d\x7d'"
  | unknownTag name _ => "Unknown tag '" ++ name ++ "'"
  | unexpectedElse block _ => block ++ " tag does not expect else tag"
  | invalidEnd block expected _ =>
    "'end' is not a valid delimiter for " ++ block ++ " tags. use " ++ expected
  | neverClosed block _ => block ++ " tag was never closed"
  | invalidCondition message _ => "Syntax error in tag 'if': " ++ message
  | markup message expected _ =>
    if expected.isEmpty then message else message ++ ", expected " ++ ", ".intercalate expected

/-- **The full text:** a fault of markup names its place and not what was expected. -/
def describe : Fault → String
  | markup message _ span =>
    "Parse error at " ++ toString span.start ++ ".." ++ toString span.stop ++ ": " ++ message
  | fault => fault.message

/-- A fault of the markup of a condition. -/
def inCondition : Fault → Fault
  | invalidCondition message span => invalidCondition message span
  | fault => invalidCondition fault.message fault.span

end Fault
end Source
end MailMerge
