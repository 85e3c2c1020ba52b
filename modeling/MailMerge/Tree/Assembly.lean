/-
# Assembling the tree

The segments of a template are taken one by one. Text and outputs are added to
the innermost open block, and so are tags without a body. A tag that opens a
block opens it there, and the closing tag of the innermost block closes it and
adds it to the block around it. Whether a tag closes the innermost block is
looked at before what it stands for.

A conditional takes `elsif` and `else` as the starts of further branches, any
number of them in any order. Numbers are given to outputs and branches as they
are met: to the first branch before its predicate is read, to the others after.
-/

import MailMerge.Markup.Reading
import MailMerge.Tree.Vocabulary

namespace MailMerge
namespace Tree

open Source (Segment TagHead Fault)
open Text (Span)
open Markup (Condition)

/-- The nodes a block has so far, newest first; those of a conditional are in its
current branch, after the branches that are complete. -/
inductive Body where
  | block (policy : BlockPolicy) (nodes : List Node)
  | conditional (done : List (Branch Node)) (id : Nat) (predicate : Option Condition)
      (nodes : List Node)

/-- **A block that is still open.** -/
structure OpenBlock where
  head : TagHead
  body : Body

/-- The name of an open block in faults. -/
def OpenBlock.name (block : OpenBlock) : String :=
  match block.body with
  | .block policy _ => policy.name block.head.name
  | .conditional .. => "if"

/-- The name of the tag that closes a block. -/
def OpenBlock.closingTag (block : OpenBlock) : String := "end" ++ block.name

/-- A node is added to an open block. -/
def OpenBlock.push (block : OpenBlock) (node : Node) : OpenBlock :=
  match block.body with
  | .block policy nodes => { block with body := .block policy (node :: nodes) }
  | .conditional done id predicate nodes =>
    { block with body := .conditional done id predicate (node :: nodes) }

/-- The node that an open block becomes when it is closed. -/
def OpenBlock.close (block : OpenBlock) : Node :=
  match block.body with
  | .block _ nodes => .block block.head nodes.reverse
  | .conditional done id predicate nodes =>
    .conditional block.head (done ++ [⟨id, predicate, nodes.reverse⟩])

/-- **A tree being assembled:** the nodes outside all blocks, newest first, the
open blocks, innermost first, the next number, and the tag that waits for the
segment after it. -/
structure Assembly where
  nodes : List Node
  blocks : List OpenBlock
  nextId : Nat
  waiting : Option (Option String → Node)

/-- Nothing has been assembled. -/
def Assembly.start : Assembly := ⟨[], [], 0, none⟩

/-- A node is added to the innermost open block. -/
def Assembly.push (assembly : Assembly) (node : Node) : Assembly :=
  match assembly.blocks with
  | [] => { assembly with nodes := node :: assembly.nodes }
  | block :: outer => { assembly with blocks := block.push node :: outer }

/-- A block is opened. -/
def Assembly.open (assembly : Assembly) (block : OpenBlock) : Assembly :=
  { assembly with blocks := block :: assembly.blocks }

/-- The fault of a tag that may not stand in a block, whose closing tag is
`closing?`. -/
def misplacedTag (block : String) (closing? : Option String) (head : TagHead) : Fault :=
  if head.name = "else" then .unexpectedElse block head.span
  else match closing? with
    | some expected =>
      if head.name = "end" then .invalidEnd block expected head.span
      else .unknownTag head.name head.span
    | none => .unknownTag head.name head.span

/-- The predicate a tag's markup gives. -/
def predicateOf (head : TagHead) : Except Fault Condition :=
  Markup.readCondition head.markup head.markupStart

/-- A further branch of a conditional. -/
def OpenBlock.nextBranch (block : OpenBlock) (id : Nat) (predicate : Option Condition) : OpenBlock :=
  match block.body with
  | .conditional done current predicateOfCurrent nodes =>
    { block with
      body := .conditional (done ++ [⟨current, predicateOfCurrent, nodes.reverse⟩]) id predicate [] }
  | .block .. => block

/-- **A tag nobody knows** goes to the innermost block. -/
def Assembly.unknownTag (assembly : Assembly) (head : TagHead) : Except Fault Assembly :=
  match assembly.blocks with
  | [] => .error (misplacedTag "document" none head)
  | block :: outer =>
    match block.body with
    | .block policy _ =>
      match policy.unknown? with
      | some node => .ok (assembly.push (node head))
      | none => .error (misplacedTag block.name (some block.closingTag) head)
    | .conditional .. =>
      if head.name = "elsif" then
        match predicateOf head with
        | .error fault => .error fault
        | .ok condition =>
          .ok { assembly with
            blocks := block.nextBranch assembly.nextId (some condition) :: outer
            nextId := assembly.nextId + 1 }
      else if head.name = "else" then
        .ok { assembly with
          blocks := block.nextBranch assembly.nextId none :: outer
          nextId := assembly.nextId + 1 }
      else .error (misplacedTag block.name (some block.closingTag) head)

/-- **A tag of the vocabulary** does what it stands for. -/
def Assembly.knownTag (assembly : Assembly) (head : TagHead) (rule : TagRule) :
    Except Fault Assembly :=
  match rule with
  | .conditional =>
    match predicateOf head with
    | .error fault => .error fault
    | .ok condition =>
      .ok { assembly.open ⟨head, .conditional [] assembly.nextId (some condition) []⟩ with
        nextId := assembly.nextId + 1 }
  | .interrupt signal => .ok (assembly.push (.tag head (.interrupt signal)))
  | .leaf action => .ok (assembly.push (.tag head (.leaf action)))
  | .block policy => .ok (assembly.open ⟨head, .block policy []⟩)
  | .takeNext node => .ok { assembly with waiting := some node }

/-- The innermost block if the tag closes it, and the blocks around it. -/
def Assembly.closedBy? (assembly : Assembly) (head : TagHead) : Option (OpenBlock × List OpenBlock) :=
  match assembly.blocks with
  | [] => none
  | block :: outer => if head.name = block.closingTag then some (block, outer) else none

/-- **A tag** closes the innermost block, or is looked up in the vocabulary. -/
def Assembly.tag (vocabulary : Vocabulary) (assembly : Assembly) (head : TagHead) :
    Except Fault Assembly :=
  match assembly.closedBy? head with
  | some (block, outer) => .ok ({ assembly with blocks := outer }.push block.close)
  | none =>
    match vocabulary.find? head.name with
    | some rule => assembly.knownTag head rule
    | none => assembly.unknownTag head

/-- What stands between `{{` and `}}`, if the text has that form. -/
def outputInner? (raw : List Char) : Option (List Char) :=
  match raw with
  | '\x7b' :: '\x7b' :: rest =>
    match rest.reverse with
    | '\x7d' :: '\x7d' :: inner => some inner.reverse
    | _ => none
  | _ => none

/-- **An output** is read and gets the next number. -/
def Assembly.output (assembly : Assembly) (segment : Segment) : Except Fault Assembly :=
  match outputInner? segment.raw.toList with
  | none => .error (.unterminatedOutput segment.raw segment.span)
  | some inner =>
    match Markup.readOutput (String.ofList inner) (segment.span.start + 2) with
    | .error fault => .error fault
    | .ok (expr, filters) =>
      .ok { assembly.push (.output
          { id := assembly.nextId
            markup := String.ofList (Text.trimChars inner)
            expr := expr
            filters := filters
            span := segment.span }) with
        nextId := assembly.nextId + 1 }

/-- **One segment** of a template is added. -/
def Assembly.step (vocabulary : Vocabulary) (assembly : Assembly) (segment : Segment) :
    Except Fault Assembly :=
  match assembly.waiting with
  | some node => .ok ({ assembly with waiting := none }.push (node (some segment.raw)))
  | none =>
    match segment.kind with
    | .text => .ok (if segment.raw.isEmpty then assembly else assembly.push (.text segment.raw))
    | .tag =>
      match TagHead.ofRaw? segment.raw segment.span with
      | none => .error (.unterminatedTag segment.raw segment.span)
      | some head => assembly.tag vocabulary head
    | .output => assembly.output segment

/-- All segments are added in order. -/
def Assembly.steps (vocabulary : Vocabulary) : Assembly → List Segment → Except Fault Assembly
  | assembly, [] => .ok assembly
  | assembly, segment :: rest =>
    match assembly.step vocabulary segment with
    | .error fault => .error fault
    | .ok next => Assembly.steps vocabulary next rest

/-- The end of the template reaches an open block. -/
def OpenBlock.atEnd (block : OpenBlock) : Except Fault Node :=
  match block.body with
  | .block policy _ =>
    match policy.atEnd? with
    | some node => .ok (block.push node).close
    | none => .error (.neverClosed block.name block.head.span)
  | .conditional .. => .error (.neverClosed block.name block.head.span)

/-- The open blocks, innermost first, are closed by the end of the template.
`inner` is the block closed last, `nodes` are the nodes outside all of them. -/
def closeAll (nodes : List Node) : Option Node → List OpenBlock → Except Fault (List Node)
  | inner, [] => .ok (inner.toList ++ nodes)
  | inner, block :: outer =>
    let filled := match inner with
      | some node => block.push node
      | none => block
    match filled.atEnd with
    | .error fault => .error fault
    | .ok node => closeAll nodes (some node) outer

/-- The tree, once all segments have been added. -/
def Assembly.finish (assembly : Assembly) : Except Fault Document :=
  let complete := match assembly.waiting with
    | some node => { assembly with waiting := none }.push (node none)
    | none => assembly
  (closeAll complete.nodes none complete.blocks).map fun nodes => ⟨nodes.reverse⟩

/-- **The tree of a template** whose tags are those of a vocabulary, or its first fault. -/
def Document.ofSource (vocabulary : Vocabulary) (source : String) : Except Fault Document :=
  match Assembly.start.steps vocabulary (Source.segments source) with
  | .error fault => .error fault
  | .ok assembly => assembly.finish

end Tree
end MailMerge
