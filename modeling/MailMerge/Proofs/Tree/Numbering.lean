/-
# The numbers in a tree

Outputs and branches are numbered from zero in the order of the source, so no two
of them have the same number. The argument follows the assembly of the tree: the
items assembled so far are those of the finished nodes and then those of the open
blocks, from the outermost to the innermost, and every step adds items only at
the end.

This holds for the standard tags and any plain blocks. Their trees hold no tag
with an action of its own.
-/

import MailMerge.Proofs.Tree.Items
import MailMerge.Proofs.Tree.Stepping

namespace MailMerge
namespace Tree

open Source (Segment TagHead)
open Markup (Condition)

/-- **The standard tags and plain blocks** with the given names. -/
def Vocabulary.withBlocks (names : List String) : Vocabulary :=
  names.foldl (fun vocabulary name => vocabulary.insert name (.block .plain)) .standard

/-- A conditional, a signal to stop, or a plain block. -/
inductive TagRule.Plain : TagRule → Prop
  | conditional : Plain .conditional
  | interrupt (signal : Render.Interrupt) : Plain (.interrupt signal)
  | block : Plain (.block .plain)

/-- All tags of a vocabulary are conditionals, signals to stop or plain blocks. -/
def Vocabulary.Plain (vocabulary : Vocabulary) : Prop :=
  ∀ name rule, vocabulary.find? name = some rule → rule.Plain

theorem Vocabulary.Plain.insert {vocabulary : Vocabulary} (h : vocabulary.Plain) {rule : TagRule}
    (hrule : rule.Plain) (name : String) : Vocabulary.Plain (vocabulary.insert name rule) := by
  intro other found hfound
  rw [Dict.find?_insert] at hfound
  split at hfound
  · obtain rfl := Option.some.inj hfound
    exact hrule
  · exact h other found hfound

theorem Vocabulary.plain_standard : Vocabulary.standard.Plain := by
  have empty : Vocabulary.Plain (∅ : Dict TagRule) := fun _ _ h => by simp at h
  exact ((empty.insert .conditional "if").insert (.interrupt .break) "break").insert
    (.interrupt .continue) "continue"

theorem Vocabulary.plain_withBlocks (names : List String) : (Vocabulary.withBlocks names).Plain := by
  have general : ∀ vocabulary : Vocabulary, vocabulary.Plain →
      Vocabulary.Plain (names.foldl (fun table name => table.insert name (.block .plain)) vocabulary) := by
    induction names with
    | nil => exact fun _ h => h
    | cons name rest ih => exact fun vocabulary h => ih _ (h.insert .block name)
  exact general _ plain_standard

@[simp] theorem itemsOf_append (first second : List Node) :
    itemsOf (first ++ second) = itemsOf first ++ itemsOf second := by
  induction first with
  | nil => rfl
  | cons node nodes ih => rw [List.cons_append, itemsOf, itemsOf, ih, List.append_assoc]

theorem itemsOf_singleton (node : Node) : itemsOf [node] = node.items := by
  rw [itemsOf, itemsOf, List.append_nil]

@[simp] theorem itemsOfBranches_append (first second : List (Branch Node)) :
    itemsOfBranches (first ++ second) = itemsOfBranches first ++ itemsOfBranches second := by
  induction first with
  | nil => rfl
  | cons branch branches ih =>
    simp only [List.cons_append, itemsOfBranches, ih, List.append_assoc]

theorem itemsOfBranches_singleton (id : Nat) (predicate : Option Condition) (body : List Node) :
    itemsOfBranches [⟨id, predicate, body⟩] = .branch id predicate :: itemsOf body := by
  simp [itemsOfBranches]

/-- The items in an open block. -/
def OpenBlock.items (block : OpenBlock) : List Item :=
  match block.body with
  | .block _ nodes => itemsOf nodes.reverse
  | .conditional done id predicate nodes =>
    itemsOfBranches (done ++ [⟨id, predicate, nodes.reverse⟩])

/-- The items in open blocks, given innermost first. -/
def itemsOfBlocks : List OpenBlock → List Item
  | [] => []
  | block :: outer => itemsOfBlocks outer ++ block.items

/-- **The items assembled so far,** in the order of the source. -/
def Assembly.items (assembly : Assembly) : List Item :=
  itemsOf assembly.nodes.reverse ++ itemsOfBlocks assembly.blocks

/-- A block that takes no unknown tag and that the end of the template does not close. -/
def OpenBlock.Plain (block : OpenBlock) : Prop :=
  match block.body with
  | .block policy _ => policy = .plain
  | .conditional .. => True

theorem OpenBlock.items_push (block : OpenBlock) (node : Node) :
    (block.push node).items = block.items ++ node.items := by
  obtain ⟨head, body⟩ := block
  cases body <;> simp [push, items, itemsOf_singleton, itemsOfBranches_singleton]

theorem OpenBlock.items_close (block : OpenBlock) : block.close.items = block.items := by
  obtain ⟨head, body⟩ := block
  cases body <;> rfl

theorem OpenBlock.items_nextBranch {head : TagHead} {done : List (Branch Node)} {current : Nat}
    {own : Option Condition} {nodes : List Node} (id : Nat) (predicate : Option Condition) :
    OpenBlock.items (OpenBlock.nextBranch ⟨head, .conditional done current own nodes⟩ id predicate) =
      OpenBlock.items ⟨head, .conditional done current own nodes⟩ ++ [.branch id predicate] := by
  simp [nextBranch, items, itemsOfBranches, itemsOf]

/-- **A pushed node stands at the end of what has been assembled.** -/
theorem Assembly.items_push (assembly : Assembly) (node : Node) :
    (assembly.push node).items = assembly.items ++ node.items := by
  obtain ⟨nodes, blocks, nextId, waiting⟩ := assembly
  cases blocks with
  | nil => simp [push, items, itemsOfBlocks, itemsOf_singleton]
  | cons block outer => simp [push, items, itemsOfBlocks, OpenBlock.items_push]

theorem Assembly.items_open (assembly : Assembly) (block : OpenBlock) :
    (assembly.open block).items = assembly.items ++ block.items := by
  simp [Assembly.open, items, itemsOfBlocks]

/-- **What holds of a tree at every step of its assembly:** its items are numbered
without gaps, none is a tag with an action of its own, and its open blocks are plain. -/
structure Assembly.Numbered (assembly : Assembly) : Prop where
  ids : idsIn assembly.items = List.range assembly.nextId
  actions : actionsIn assembly.items = []
  waiting : assembly.waiting = none
  blocks : ∀ block ∈ assembly.blocks, block.Plain

theorem Assembly.numbered_start : Assembly.start.Numbered := ⟨rfl, rfl, rfl, by simp [start]⟩

/-- Items without numbers and actions may be added to a numbered tree. -/
theorem Assembly.Numbered.add {assembly next : Assembly} (h : assembly.Numbered)
    (more : List Item) (items : next.items = assembly.items ++ more)
    (ids : idsIn more = (List.range next.nextId).drop assembly.nextId)
    (le : assembly.nextId ≤ next.nextId) (actions : actionsIn more = [])
    (waiting : next.waiting = none) (blocks : ∀ block ∈ next.blocks, block.Plain) :
    next.Numbered where
  ids := by
    have front : (List.range next.nextId).take assembly.nextId = List.range assembly.nextId := by
      rw [List.take_range, Nat.min_eq_left le]
    rw [items, idsIn_append, h.ids, ids, ← front, List.take_append_drop]
  actions := by rw [items, actionsIn_append, h.actions, actions]; rfl
  waiting := waiting
  blocks := blocks

/-- The numbers from `count` on, up to one more. -/
theorem range_succ_drop (count : Nat) : (List.range (count + 1)).drop count = [count] := by
  rw [List.range_succ, List.drop_left' (List.length_range)]

theorem range_drop_self (count : Nat) : (List.range count).drop count = [] :=
  List.drop_eq_nil_of_le (by simp)

/-- The blocks of an assembly stay plain when a node is pushed. -/
theorem Assembly.plain_push {assembly : Assembly} (h : ∀ block ∈ assembly.blocks, block.Plain)
    (node : Node) : ∀ block ∈ (assembly.push node).blocks, block.Plain := by
  obtain ⟨nodes, blocks, nextId, waiting⟩ := assembly
  cases blocks with
  | nil => exact h
  | cons block outer =>
    obtain ⟨head, body⟩ := block
    intro other hother
    rcases List.mem_cons.1 hother with rfl | hother
    · have own := h _ List.mem_cons_self
      cases body <;> exact own
    · exact h other (List.mem_cons_of_mem _ hother)

@[simp] theorem Assembly.push_nextId (assembly : Assembly) (node : Node) :
    (assembly.push node).nextId = assembly.nextId := by
  unfold push
  split <;> rfl

@[simp] theorem Assembly.push_waiting (assembly : Assembly) (node : Node) :
    (assembly.push node).waiting = assembly.waiting := by
  unfold push
  split <;> rfl

/-- A node without items may be pushed onto a numbered tree. -/
theorem Assembly.Numbered.push {assembly : Assembly} (h : assembly.Numbered) {node : Node}
    (items : node.items = []) : (assembly.push node).Numbered :=
  h.add _ (assembly.items_push node) (by simp [items, range_drop_self]) (by simp) (by simp [items])
    (by simp [h.waiting]) (plain_push h.blocks node)

/-- **Closing the innermost block adds nothing.** -/
theorem Assembly.Numbered.close {assembly : Assembly} (h : assembly.Numbered) (block : OpenBlock)
    (outer : List OpenBlock) (split : assembly.blocks = block :: outer) :
    (Assembly.push { assembly with blocks := outer } block.close).Numbered := by
  have outerPlain : ∀ other ∈ outer, other.Plain := fun other hother =>
    h.blocks other (split ▸ List.mem_cons_of_mem _ hother)
  refine h.add [] ?_ (by simp [range_drop_self]) (by simp) rfl (by simp [h.waiting])
    (plain_push outerPlain block.close)
  rw [items_push, OpenBlock.items_close]
  simp [items, split, itemsOfBlocks]

/-- A plain block takes no unknown tag. -/
theorem Assembly.Numbered.unknown?_eq_none {assembly : Assembly} (h : assembly.Numbered) {head : TagHead}
    {policy : BlockPolicy} {nodes : List Node} {outer : List OpenBlock}
    (split : assembly.blocks = ⟨head, .block policy nodes⟩ :: outer) : policy.unknown? = none := by
  have plain : policy = .plain := h.blocks ⟨head, .block policy nodes⟩ (split ▸ List.mem_cons_self)
  rw [plain]
  rfl

/-- A further branch of the innermost conditional keeps the numbering. -/
theorem Assembly.Numbered.nextBranch {assembly : Assembly} (h : assembly.Numbered)
    {head : TagHead} {done : List (Branch Node)} {current : Nat} {own : Option Condition}
    {nodes : List Node} {outer : List OpenBlock}
    (split : assembly.blocks = ⟨head, .conditional done current own nodes⟩ :: outer)
    (predicate : Option Condition) :
    Numbered { assembly with
      blocks := OpenBlock.nextBranch ⟨head, .conditional done current own nodes⟩
        assembly.nextId predicate :: outer
      nextId := assembly.nextId + 1 } := by
  refine h.add [.branch assembly.nextId predicate] ?_ ?_ (by simp) rfl h.waiting ?_
  · simp [items, split, itemsOfBlocks, OpenBlock.items_nextBranch]
  · simp [range_succ_drop]
  · intro block hblock
    rcases List.mem_cons.1 hblock with rfl | hblock
    · trivial
    · exact h.blocks block (split ▸ List.mem_cons_of_mem _ hblock)

/-- **A tag keeps the numbering.** -/
theorem Assembly.Numbered.tagged {vocabulary : Vocabulary} (plain : vocabulary.Plain)
    {assembly next : Assembly} (h : assembly.Numbered) {head : TagHead}
    (tagged : assembly.Tagged vocabulary head next) : next.Numbered := by
  cases tagged with
  | close blocks name => exact h.close _ _ blocks
  | conditional known read =>
    rename_i condition
    refine h.add [.branch assembly.nextId (some condition)] ?_ ?_ (by simp) rfl h.waiting ?_
    · exact (assembly.items_open _).trans (by simp [OpenBlock.items, itemsOfBranches_singleton, itemsOf])
    · simp [range_succ_drop]
    · exact List.forall_mem_cons.2 ⟨trivial, h.blocks⟩
  | action action known =>
    cases action with
    | interrupt signal => exact h.push rfl
    | leaf own => cases plain _ _ known
  | block known =>
    cases plain _ _ known with
    | block =>
      refine h.add [] ?_ (range_drop_self _).symm (Nat.le_refl _) rfl h.waiting ?_
      · exact (assembly.items_open _).trans (by simp [OpenBlock.items, itemsOf])
      · exact List.forall_mem_cons.2 ⟨rfl, h.blocks⟩
  | takeNext known => cases plain _ _ known
  | unknown blocks own => cases (h.unknown?_eq_none blocks).symm.trans own
  | further blocks read => exact h.nextBranch blocks _

/-- **A segment keeps the numbering.** -/
theorem Assembly.Numbered.step {vocabulary : Vocabulary} (plain : vocabulary.Plain)
    {assembly next : Assembly} (h : assembly.Numbered) {segment : Segment}
    (hnext : assembly.step vocabulary segment = .ok next) : next.Numbered := by
  cases stepped_of_step hnext with
  | handed waiting => cases h.waiting.symm.trans waiting
  | nothing kind empty => exact h
  | text kind => exact h.push rfl
  | tag kind split tagged => exact h.tagged plain tagged
  | output kind found read =>
    rename_i inner expr filters
    refine h.add [.output ⟨assembly.nextId, _, expr, filters, segment.span⟩]
      (assembly.items_push _) ?_ (by simp) rfl (by simp [h.waiting]) (plain_push h.blocks _)
    simp [range_succ_drop]

/-- **All segments keep the numbering.** -/
theorem Assembly.Numbered.steps {vocabulary : Vocabulary} (plain : vocabulary.Plain)
    {assembly last : Assembly} (h : assembly.Numbered) {segments : List Segment}
    (hlast : assembly.steps vocabulary segments = .ok last) : last.Numbered := by
  induction segments generalizing assembly with
  | nil =>
    obtain rfl := Except.ok.inj hlast
    exact h
  | cons segment rest ih =>
    simp only [Assembly.steps] at hlast
    split at hlast
    · simp at hlast
    · rename_i next hnext
      exact ih (h.step plain hnext) hlast

/-- The end of the template does not close a plain block. -/
theorem OpenBlock.atEnd_of_plain {block : OpenBlock} (h : block.Plain) (node : Node) :
    block.atEnd ≠ .ok node := by
  obtain ⟨head, body⟩ := block
  cases body with
  | block policy nodes =>
    obtain rfl : policy = .plain := h
    simp [atEnd, BlockPolicy.plain]
  | conditional done id predicate nodes => simp [atEnd]

/-- **A tree is complete only if no block is open,** and then its nodes are those outside all blocks. -/
theorem Assembly.Numbered.complete {assembly : Assembly} (h : assembly.Numbered) {document : Document}
    (hfinish : assembly.finish = .ok document) :
    assembly.blocks = [] ∧ document.nodes = assembly.nodes.reverse := by
  obtain ⟨nodes, blocks, nextId, waiting⟩ := assembly
  obtain rfl : waiting = none := h.waiting
  cases blocks with
  | nil =>
    obtain rfl := Except.ok.inj hfinish
    exact ⟨rfl, rfl⟩
  | cons block outer =>
    exfalso
    have open' := OpenBlock.atEnd_of_plain (h.blocks block List.mem_cons_self)
    simp only [Assembly.finish, closeAll] at hfinish
    split at hfinish
    · simp [Except.map] at hfinish
    · rename_i node hnode
      exact open' node hnode

/-- A complete tree holds what has been assembled. -/
theorem Assembly.Numbered.finish {assembly : Assembly} (h : assembly.Numbered) {document : Document}
    (hfinish : assembly.finish = .ok document) : itemsOf document.nodes = assembly.items := by
  obtain ⟨blocks, nodes⟩ := h.complete hfinish
  simp [items, nodes, blocks, itemsOfBlocks]

/-- **A document's outputs and branches are numbered from zero in the order of the
source,** and none of its tags has an action of its own. -/
theorem Document.ids_ofSource {vocabulary : Vocabulary} (plain : vocabulary.Plain) {source : String}
    {document : Document} (h : Document.ofSource vocabulary source = .ok document) :
    (∃ count, document.ids = List.range count) ∧ document.actions = [] := by
  rw [Document.ofSource] at h
  split at h
  · simp at h
  · rename_i last hlast
    have numbered := Assembly.numbered_start.steps plain hlast
    rw [Document.ids, Document.actions, numbered.finish h]
    exact ⟨⟨last.nextId, numbered.ids⟩, numbered.actions⟩

end Tree
end MailMerge
