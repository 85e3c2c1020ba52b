/-
# The tags a template may use

A vocabulary says what each tag name stands for: a conditional, a signal to
stop, a tag with an action of its own, a block with a body, or a tag that takes
the segment after it. What a block does with a tag nobody knows, and with a
template that ends before the block is closed, is the block's own policy.
-/

import MailMerge.Tree.Node

namespace MailMerge
namespace Tree

open Source (TagHead)
open Render (Interrupt)

/-- **The policy of a block.** `name` gives the name of the block in its closing
tag and in faults, from the name of its tag. An unknown tag becomes a node, or is
a fault; the end of the template adds a node and closes the block, or is a fault. -/
structure BlockPolicy where
  name : String → String
  unknown? : Option (TagHead → Node)
  atEnd? : Option Node

/-- A block named after its tag, in which unknown tags are faults and which must be closed. -/
def BlockPolicy.plain : BlockPolicy := ⟨id, none, none⟩

/-- A block closed by `endsection`, in which an unknown tag is text in angle
brackets and which the end of the template closes with a mark. -/
def BlockPolicy.lenient : BlockPolicy :=
  ⟨fun _ => "section", some fun head => .text ("<" ++ head.name ++ ":" ++ head.markup ++ ">"),
    some (.text "<eof>")⟩

/-- **What a tag name stands for.** -/
inductive TagRule where
  | conditional
  | interrupt (signal : Interrupt)
  | leaf (action : LeafAction)
  | block (policy : BlockPolicy)
  /-- Takes the segment after it, if there is one. -/
  | takeNext (node : Option String → Node)

/-- The rule that puts the segment after the tag between brackets. -/
def TagRule.bracketNext : TagRule :=
  .takeNext fun
    | some raw => .text ("[" ++ raw ++ "]")
    | none => .text "<true>"

/-- Tag names and what they stand for. -/
abbrev Vocabulary := Dict TagRule

/-- **The standard tags:** `if`, `break` and `continue`. -/
def Vocabulary.standard : Vocabulary := Dict.ofList [
  ("if", .conditional), ("break", .interrupt .break), ("continue", .interrupt .continue)]

/-- The names of a vocabulary, as a listing for people. -/
def Vocabulary.listing (vocabulary : Vocabulary) : String :=
  "TagRegistry \x7b tags: [" ++ ", ".intercalate (vocabulary.keys.map Text.quoted) ++ "] \x7d"

end Tree
end MailMerge
