/-
# Writing a tree out

A tree is written out in the order of the source as a sequence of marks: its texts,
outputs and tags, and for a block what opens it, what stands in it and what closes it. A
segment shows a mark when it has the mark's text, markup or name, and when it stands for
that mark in the vocabulary.

What is assembled from segments, written out, is shown by these segments one by one: every
segment adds exactly one mark, at the end. So the tree of a template loses nothing of it,
repeats nothing and keeps the order.
-/

import MailMerge.Proofs.Source.Segments
import MailMerge.Proofs.Tree.Numbering
import Mathlib.Data.List.Forall2

namespace MailMerge
namespace Tree

open Source (Segment TagHead)
open Markup (Condition)

/-! ### Marks -/

/-- **A mark of a tree that is written out.** A conditional starts with its first predicate,
and each further branch with one of its own or, for `else`, with none. -/
inductive Mark where
  | text (raw : String)
  | output (output : Output)
  | tag (head : TagHead) (action : TagAction)
  | block (head : TagHead)
  | conditional (head : TagHead) (predicate : Option Condition)
  | next (predicate : Option Condition)
  | closing (block : String)

mutual

/-- A node, written out. -/
def Node.marks : Node → List Mark
  | .text raw => [.text raw]
  | .output output => [.output output]
  | .tag head action => [.tag head action]
  | .block head body => .block head :: (marksOf body ++ [.closing head.name])
  | .conditional head [] => [.conditional head none, .closing "if"]
  | .conditional head (⟨_, predicate, body⟩ :: branches) =>
    .conditional head predicate :: (marksOf body ++ (marksOfBranches branches ++ [.closing "if"]))
termination_by structural node => node

/-- **Nodes, written out** in the order of the source. -/
def marksOf : List Node → List Mark
  | [] => []
  | node :: nodes => node.marks ++ marksOf nodes
termination_by structural nodes => nodes

/-- The further branches of a conditional, written out. -/
def marksOfBranches : List (Branch Node) → List Mark
  | [] => []
  | ⟨_, predicate, body⟩ :: branches => .next predicate :: (marksOf body ++ marksOfBranches branches)
termination_by structural branches => branches

end

/-- **A segment that shows a mark:** a text with the same characters, an output with the same
markup that is read as the same expression and filters, or a tag with the mark's head or name
that stands for the mark in the vocabulary and whose predicate is read as the mark's. -/
inductive Shows (vocabulary : Vocabulary) (segment : Segment) : Mark → Prop
  | text (kind : segment.kind = .text) : Shows vocabulary segment (.text segment.raw)
  | output {output : Output} {inner : List Char} (kind : segment.kind = .output)
      (found : outputInner? segment.raw.toList = some inner)
      (markup : output.markup = String.ofList (Text.trimChars inner))
      (read : Markup.readOutput (String.ofList inner) (segment.span.start + 2) =
        .ok (output.expr, output.filters))
      (span : output.span = segment.span) : Shows vocabulary segment (.output output)
  | tag {head : TagHead} {action : TagAction} (kind : segment.kind = .tag)
      (split : TagHead.ofRaw? segment.raw segment.span = some head)
      (known : vocabulary.find? head.name = some action.rule) :
      Shows vocabulary segment (.tag head action)
  | block {head : TagHead} {policy : BlockPolicy} (kind : segment.kind = .tag)
      (split : TagHead.ofRaw? segment.raw segment.span = some head)
      (known : vocabulary.find? head.name = some (.block policy)) :
      Shows vocabulary segment (.block head)
  | conditional {head : TagHead} {predicate : Condition} (kind : segment.kind = .tag)
      (split : TagHead.ofRaw? segment.raw segment.span = some head)
      (known : vocabulary.find? head.name = some .conditional)
      (read : predicateOf head = .ok predicate) :
      Shows vocabulary segment (.conditional head (some predicate))
  | elsif {head : TagHead} {predicate : Condition} (kind : segment.kind = .tag)
      (split : TagHead.ofRaw? segment.raw segment.span = some head) (name : head.name = "elsif")
      (read : predicateOf head = .ok predicate) : Shows vocabulary segment (.next (some predicate))
  | else {head : TagHead} (kind : segment.kind = .tag)
      (split : TagHead.ofRaw? segment.raw segment.span = some head) (name : head.name = "else") :
      Shows vocabulary segment (.next none)
  | closing {head : TagHead} {block : String} (kind : segment.kind = .tag)
      (split : TagHead.ofRaw? segment.raw segment.span = some head)
      (name : head.name = "end" ++ block) : Shows vocabulary segment (.closing block)

@[simp] theorem marksOf_nil : marksOf [] = [] := rfl

@[simp] theorem marksOfBranches_nil : marksOfBranches [] = [] := rfl

@[simp] theorem marksOf_append (first second : List Node) :
    marksOf (first ++ second) = marksOf first ++ marksOf second := by
  induction first with
  | nil => rfl
  | cons node nodes ih => rw [List.cons_append, marksOf, marksOf, ih, List.append_assoc]

theorem marksOf_singleton (node : Node) : marksOf [node] = node.marks := by
  rw [marksOf, marksOf, List.append_nil]

@[simp] theorem marksOfBranches_append (first second : List (Branch Node)) :
    marksOfBranches (first ++ second) = marksOfBranches first ++ marksOfBranches second := by
  induction first with
  | nil => rfl
  | cons branch branches ih => simp only [List.cons_append, marksOfBranches, ih, List.append_assoc]

theorem marksOfBranches_singleton (id : Nat) (predicate : Option Condition) (body : List Node) :
    marksOfBranches [⟨id, predicate, body⟩] = .next predicate :: marksOf body := by
  simp [marksOfBranches]

/-! ### What has been assembled -/

/-- A conditional that is not closed yet, written out. -/
def marksOfOpen (head : TagHead) : List (Branch Node) → List Mark
  | [] => [.conditional head none]
  | ⟨_, predicate, body⟩ :: branches =>
    .conditional head predicate :: (marksOf body ++ marksOfBranches branches)

theorem marksOfOpen_append (head : TagHead) (branches more : List (Branch Node)) (h : branches ≠ []) :
    marksOfOpen head (branches ++ more) = marksOfOpen head branches ++ marksOfBranches more := by
  obtain ⟨⟨id, predicate, body⟩, rest, rfl⟩ := List.exists_cons_of_ne_nil h
  simp [marksOfOpen]

theorem Node.marks_conditional (head : TagHead) (branches : List (Branch Node)) :
    Node.marks (.conditional head branches) = marksOfOpen head branches ++ [.closing "if"] := by
  cases branches with
  | nil => rfl
  | cons branch branches => simp [Node.marks, marksOfOpen]

/-- An open block, written out. -/
def OpenBlock.marks (block : OpenBlock) : List Mark :=
  match block.body with
  | .block _ nodes => .block block.head :: marksOf nodes.reverse
  | .conditional done id predicate nodes =>
    marksOfOpen block.head (done ++ [⟨id, predicate, nodes.reverse⟩])

/-- Open blocks, given innermost first, written out. -/
def marksOfBlocks : List OpenBlock → List Mark
  | [] => []
  | block :: outer => marksOfBlocks outer ++ block.marks

/-- **What has been assembled so far,** written out. -/
def Assembly.marks (assembly : Assembly) : List Mark :=
  marksOf assembly.nodes.reverse ++ marksOfBlocks assembly.blocks

theorem OpenBlock.marks_push (block : OpenBlock) (node : Node) :
    (block.push node).marks = block.marks ++ node.marks := by
  obtain ⟨head, body⟩ := block
  cases body with
  | block policy nodes => simp [push, marks, marksOf_singleton]
  | conditional done id predicate nodes =>
    cases done <;>
      simp [push, marks, marksOfOpen, marksOf_singleton, marksOfBranches_singleton]

/-- A plain block is closed by the tag named after it. -/
theorem OpenBlock.marks_close {block : OpenBlock} (plain : block.Plain) :
    block.close.marks = block.marks ++ [.closing block.name] := by
  obtain ⟨head, body⟩ := block
  cases body with
  | block policy nodes =>
    obtain rfl : policy = .plain := plain
    rfl
  | conditional done id predicate nodes => exact Node.marks_conditional head _

theorem OpenBlock.marks_nextBranch {head : TagHead} {done : List (Branch Node)} {current : Nat}
    {own : Option Condition} {nodes : List Node} (id : Nat) (predicate : Option Condition) :
    OpenBlock.marks (OpenBlock.nextBranch ⟨head, .conditional done current own nodes⟩ id predicate) =
      OpenBlock.marks ⟨head, .conditional done current own nodes⟩ ++ [.next predicate] := by
  rw [nextBranch, marks]
  dsimp only
  rw [marksOfOpen_append _ _ _ (List.append_ne_nil_of_right_ne_nil _ (List.cons_ne_nil _ _)),
    List.reverse_nil, marksOfBranches_singleton]
  rfl

theorem Assembly.marks_push (assembly : Assembly) (node : Node) :
    (assembly.push node).marks = assembly.marks ++ node.marks := by
  obtain ⟨nodes, blocks, nextId, waiting⟩ := assembly
  cases blocks with
  | nil => simp [push, marks, marksOfBlocks, marksOf_singleton]
  | cons block outer => simp [push, marks, marksOfBlocks, OpenBlock.marks_push]

theorem Assembly.marks_open (assembly : Assembly) (block : OpenBlock) :
    (assembly.open block).marks = assembly.marks ++ block.marks := by
  simp [Assembly.open, marks, marksOfBlocks]

/-! ### Every segment adds one mark -/

section

variable {vocabulary : Vocabulary} {assembly next : Assembly} {segment : Segment} {head : TagHead}

/-- A tag adds the mark that its segment shows. -/
theorem Assembly.Numbered.shows_tagged (numbered : assembly.Numbered) (plain : vocabulary.Plain)
    (kind : segment.kind = .tag) (split : TagHead.ofRaw? segment.raw segment.span = some head)
    (tagged : assembly.Tagged vocabulary head next) :
    ∃ mark, next.marks = assembly.marks ++ [mark] ∧ Shows vocabulary segment mark := by
  cases tagged with
  | close blocks name =>
    refine ⟨_, ?_, .closing kind split name⟩
    rw [marks_push, OpenBlock.marks_close (numbered.blocks _ (blocks ▸ List.mem_cons_self))]
    simp [marks, blocks, marksOfBlocks]
  | conditional known read => exact ⟨_, assembly.marks_open _, .conditional kind split known read⟩
  | action action known => exact ⟨_, assembly.marks_push (.tag head action), .tag kind split known⟩
  | block known => exact ⟨_, assembly.marks_open _, .block kind split known⟩
  | takeNext known => cases plain _ _ known
  | unknown blocks own => cases (numbered.unknown?_eq_none blocks).symm.trans own
  | further blocks read =>
    rename_i opener done id current predicate nodes outer
    have further : Assembly.marks { assembly with
        blocks := OpenBlock.nextBranch ⟨opener, .conditional done id current nodes⟩ assembly.nextId
          predicate :: outer
        nextId := assembly.nextId + 1 } = assembly.marks ++ [.next predicate] := by
      simp [marks, blocks, marksOfBlocks, OpenBlock.marks_nextBranch]
    rcases read with ⟨condition, name, found, rfl⟩ | ⟨name, rfl⟩
    · exact ⟨_, further, .elsif kind split name found⟩
    · exact ⟨_, further, .else kind split name⟩

/-- **A segment adds the mark that it shows.** -/
theorem Assembly.Numbered.shows_step (numbered : assembly.Numbered) (plain : vocabulary.Plain)
    (full : segment.raw.isEmpty = false) (h : assembly.step vocabulary segment = .ok next) :
    ∃ mark, next.marks = assembly.marks ++ [mark] ∧ Shows vocabulary segment mark := by
  cases stepped_of_step h with
  | handed waiting => cases numbered.waiting.symm.trans waiting
  | nothing kind empty => cases full.symm.trans empty
  | text kind => exact ⟨_, assembly.marks_push _, .text kind⟩
  | tag kind split tagged => exact numbered.shows_tagged plain kind split tagged
  | output kind found read => exact ⟨_, assembly.marks_push _, .output kind found rfl read rfl⟩

/-- **All segments** add the marks that they show. -/
theorem Assembly.Numbered.shows_steps {segments : List Segment} (numbered : assembly.Numbered)
    (plain : vocabulary.Plain) (full : ∀ segment ∈ segments, segment.raw.isEmpty = false)
    (h : assembly.steps vocabulary segments = .ok next) :
    ∃ marks, next.marks = assembly.marks ++ marks ∧ List.Forall₂ (Shows vocabulary) segments marks := by
  induction segments generalizing assembly with
  | nil =>
    obtain rfl := Except.ok.inj h
    exact ⟨[], (List.append_nil _).symm, .nil⟩
  | cons segment rest ih =>
    obtain ⟨own, others⟩ := List.forall_mem_cons.1 full
    simp only [Assembly.steps] at h
    split at h
    · cases h
    · rename_i middle stepped
      obtain ⟨mark, here, shown⟩ := numbered.shows_step plain own stepped
      obtain ⟨marks, later, rest⟩ := ih (numbered.step plain stepped) others h
      refine ⟨mark :: marks, ?_, .cons shown rest⟩
      rw [later, here, List.append_assoc, List.singleton_append]

/-- **A template's segments show its tree,** written out, one by one. -/
theorem Document.shows_ofSource (plain : vocabulary.Plain) {source : String} {document : Document}
    (h : Document.ofSource vocabulary source = .ok document) :
    List.Forall₂ (Shows vocabulary) (Source.segments source) (marksOf document.nodes) := by
  rw [ofSource] at h
  split at h
  · cases h
  · rename_i last done
    obtain ⟨marks, written, shown⟩ := Assembly.numbered_start.shows_steps plain
      (fun _ mem => Source.nonempty_segments mem) done
    obtain ⟨blocks, nodes⟩ := (Assembly.numbered_start.steps plain done).complete h
    rw [Assembly.marks, blocks, ← nodes] at written
    have same : marksOf document.nodes = marks := (List.append_nil _).symm.trans written
    rwa [same]

end

end Tree
end MailMerge
