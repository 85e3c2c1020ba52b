/-
# What a segment does to a tree

A segment that is accepted does one of a few things to the tree that is being assembled. A
text, an output or the tag of an action adds a node. Other tags open a block, close the
innermost one, start its next branch, or wait for the segment after them. What is kept by all
of these is kept by every template that is accepted.
-/

import MailMerge.Tree.Assembly

namespace MailMerge
namespace Tree

open Source (Segment TagHead)
open Markup (Condition)

/-- What a tag with an action stands for. -/
def TagAction.rule : TagAction → TagRule
  | .interrupt signal => .interrupt signal
  | .leaf action => .leaf action

namespace Assembly

/-- **What a tag that is accepted does.** -/
inductive Tagged (vocabulary : Vocabulary) (assembly : Assembly) (head : TagHead) : Assembly → Prop
  | close {block : OpenBlock} {outer : List OpenBlock} (blocks : assembly.blocks = block :: outer)
      (name : head.name = block.closingTag) :
      Tagged vocabulary assembly head (Assembly.push { assembly with blocks := outer } block.close)
  | conditional {predicate : Condition} (known : vocabulary.find? head.name = some .conditional)
      (read : predicateOf head = .ok predicate) :
      Tagged vocabulary assembly head
        { assembly.open ⟨head, .conditional [] assembly.nextId (some predicate) []⟩ with
          nextId := assembly.nextId + 1 }
  | action (action : TagAction) (known : vocabulary.find? head.name = some action.rule) :
      Tagged vocabulary assembly head (assembly.push (.tag head action))
  | block {policy : BlockPolicy} (known : vocabulary.find? head.name = some (.block policy)) :
      Tagged vocabulary assembly head (assembly.open ⟨head, .block policy []⟩)
  | takeNext {node : Option String → Node} (known : vocabulary.find? head.name = some (.takeNext node)) :
      Tagged vocabulary assembly head { assembly with waiting := some node }
  | unknown {opener : TagHead} {policy : BlockPolicy} {nodes : List Node} {outer : List OpenBlock}
      {node : TagHead → Node} (blocks : assembly.blocks = ⟨opener, .block policy nodes⟩ :: outer)
      (own : policy.unknown? = some node) : Tagged vocabulary assembly head (assembly.push (node head))
  | further {opener : TagHead} {done : List (Branch Node)} {id : Nat} {current predicate : Option Condition}
      {nodes : List Node} {outer : List OpenBlock}
      (blocks : assembly.blocks = ⟨opener, .conditional done id current nodes⟩ :: outer)
      (read : (∃ condition, head.name = "elsif" ∧ predicateOf head = .ok condition ∧
          predicate = some condition) ∨ head.name = "else" ∧ predicate = none) :
      Tagged vocabulary assembly head { assembly with
        blocks := OpenBlock.nextBranch ⟨opener, .conditional done id current nodes⟩ assembly.nextId
          predicate :: outer
        nextId := assembly.nextId + 1 }

/-- **What a segment that is accepted does.** -/
inductive Stepped (vocabulary : Vocabulary) (assembly : Assembly) (segment : Segment) : Assembly → Prop
  | handed {node : Option String → Node} (waiting : assembly.waiting = some node) :
      Stepped vocabulary assembly segment
        (Assembly.push { assembly with waiting := none } (node (some segment.raw)))
  | nothing (kind : segment.kind = .text) (empty : segment.raw.isEmpty = true) :
      Stepped vocabulary assembly segment assembly
  | text (kind : segment.kind = .text) :
      Stepped vocabulary assembly segment (assembly.push (.text segment.raw))
  | tag {head : TagHead} {next : Assembly} (kind : segment.kind = .tag)
      (split : TagHead.ofRaw? segment.raw segment.span = some head)
      (tagged : assembly.Tagged vocabulary head next) : Stepped vocabulary assembly segment next
  | output {inner : List Char} {expr : Markup.Expr} {filters : List Markup.FilterCall}
      (kind : segment.kind = .output) (found : outputInner? segment.raw.toList = some inner)
      (read : Markup.readOutput (String.ofList inner) (segment.span.start + 2) = .ok (expr, filters)) :
      Stepped vocabulary assembly segment { assembly.push (.output
        ⟨assembly.nextId, String.ofList (Text.trimChars inner), expr, filters, segment.span⟩) with
          nextId := assembly.nextId + 1 }

section

variable {vocabulary : Vocabulary} {assembly next : Assembly} {segment : Segment} {head : TagHead}

theorem closedBy?_eq_some {block : OpenBlock} {outer : List OpenBlock}
    (h : assembly.closedBy? head = some (block, outer)) :
    assembly.blocks = block :: outer ∧ head.name = block.closingTag := by
  unfold closedBy? at h
  split at h
  · cases h
  · rename_i blocks
    split at h
    · rename_i name
      obtain ⟨rfl, rfl⟩ := Prod.mk.inj (Option.some.inj h)
      exact ⟨blocks, name⟩
    · cases h

theorem tagged_of_knownTag {rule : TagRule} (known : vocabulary.find? head.name = some rule)
    (h : assembly.knownTag head rule = .ok next) : assembly.Tagged vocabulary head next := by
  cases rule with
  | conditional =>
    simp only [knownTag] at h
    split at h
    · cases h
    · rename_i condition read
      obtain rfl := Except.ok.inj h
      exact .conditional known read
  | interrupt signal =>
    obtain rfl := Except.ok.inj h
    exact .action (.interrupt signal) known
  | leaf action =>
    obtain rfl := Except.ok.inj h
    exact .action (.leaf action) known
  | block policy =>
    obtain rfl := Except.ok.inj h
    exact .block known
  | takeNext node =>
    obtain rfl := Except.ok.inj h
    exact .takeNext known

theorem tagged_of_unknownTag (h : assembly.unknownTag head = .ok next) :
    assembly.Tagged vocabulary head next := by
  rw [unknownTag] at h
  split at h
  · cases h
  · rename_i block outer blocks
    obtain ⟨opener, body⟩ := block
    cases body with
    | block policy nodes =>
      dsimp only at h
      split at h
      · rename_i node own
        obtain rfl := Except.ok.inj h
        exact .unknown blocks own
      · cases h
    | conditional done id current nodes =>
      dsimp only at h
      split at h
      · rename_i name
        split at h
        · cases h
        · rename_i condition read
          obtain rfl := Except.ok.inj h
          exact .further blocks (.inl ⟨condition, name, read, rfl⟩)
      · split at h
        · rename_i name
          obtain rfl := Except.ok.inj h
          exact .further blocks (.inr ⟨name, rfl⟩)
        · cases h

theorem tagged_of_tag (h : assembly.tag vocabulary head = .ok next) :
    assembly.Tagged vocabulary head next := by
  rw [Assembly.tag] at h
  split at h
  · rename_i closed
    obtain ⟨blocks, name⟩ := closedBy?_eq_some closed
    obtain rfl := Except.ok.inj h
    exact .close blocks name
  · split at h
    · rename_i known
      exact tagged_of_knownTag known h
    · exact tagged_of_unknownTag h

/-- **A segment that is accepted** does one of these things. -/
theorem stepped_of_step (h : assembly.step vocabulary segment = .ok next) :
    assembly.Stepped vocabulary segment next := by
  rw [Assembly.step] at h
  split at h
  · rename_i waiting
    obtain rfl := Except.ok.inj h
    exact .handed waiting
  · split at h
    · rename_i kind
      obtain rfl := Except.ok.inj h
      split
      · rename_i empty
        exact .nothing kind empty
      · exact .text kind
    · rename_i kind
      split at h
      · cases h
      · rename_i head split
        exact .tag kind split (tagged_of_tag h)
    · rename_i kind
      rw [Assembly.output] at h
      split at h
      · cases h
      · rename_i inner found
        split at h
        · cases h
        · rename_i expr filters read
          obtain rfl := Except.ok.inj h
          exact .output kind found read

end

end Assembly

end Tree
end MailMerge
