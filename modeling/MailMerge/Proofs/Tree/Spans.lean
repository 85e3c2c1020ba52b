/-
# The spans of a tree

Outputs, tags, blocks and conditionals have the span of the segment they were read from, so a span
leads back to the text of the node: what an output evaluates can be read again from the characters
its span covers, and so can the name and the markup of a tag. A block and a conditional have the
span of the tag that opens them.

In the order of the source the spans stand one after the other, and none is empty.
-/

import MailMerge.Proofs.Source.Canonical
import MailMerge.Proofs.Tree.Placing
import MailMerge.Proofs.Tree.Preorder

namespace MailMerge

open Text (Span byteSize)

/-! ### What a span covers -/

namespace Text

/-- **A span covers a part of a text:** it starts after the bytes before the part and is as long as
the part. -/
def Span.Covers (span : Span) (source part : String) : Prop :=
  ∃ before after, source = before ++ (part ++ after) ∧ span.start = size before ∧
    span.stop = size before + size part

/-- Among the characters of a text a span covers the same. -/
theorem Span.CoversFrom.covers {span : Span} {source : String} {part : List Char}
    (h : span.CoversFrom 0 source.toList part) : span.Covers source (String.ofList part) := by
  obtain ⟨before, after, whole, starts, stops⟩ := h
  refine ⟨String.ofList before, String.ofList after, ?_, ?_, ?_⟩
  · rw [← String.toList_inj]
    simpa using whole
  · rw [starts, Nat.zero_add, size, String.toList_ofList]
  · rw [stops, Nat.zero_add, size, size, String.toList_ofList, String.toList_ofList]

/-- **What a span covers** is the slice at the span. -/
theorem Span.Covers.slice {span : Span} {source part : String} (h : span.Covers source part) :
    Text.slice source span = part := by
  obtain ⟨before, after, rfl, starts, stops⟩ := h
  have inside : sliceFrom span (byteSize before.toList) part.toList = part.toList :=
    sliceFrom_inside (Nat.le_of_eq starts) (Nat.le_of_eq stops.symm)
  have later : sliceFrom span (byteSize before.toList + byteSize part.toList) after.toList = [] :=
    sliceFrom_outside (.inr (Nat.le_of_eq stops))
  rw [Text.slice, String.toList_append, String.toList_append, sliceFrom_append, sliceFrom_append,
    Nat.zero_add, sliceFrom_outside (.inl (by rw [starts, Nat.zero_add]; rfl)), inside,
    later, List.nil_append, List.append_nil, String.ofList_toList]

end Text

namespace Source

/-- Pieces that are given their places stand where their spans say. -/
theorem covers_locate (pieces : List (SegmentKind × List Char)) (place : Nat) :
    ∀ segment ∈ locate place pieces,
      segment.span.CoversFrom place (pieces.flatMap (·.2)) segment.raw.toList := by
  induction pieces generalizing place with
  | nil => exact fun _ mem => (List.not_mem_nil mem).elim
  | cons piece rest ih =>
    obtain ⟨kind, cs⟩ := piece
    rw [List.flatMap_cons]
    refine List.forall_mem_cons.2 ⟨⟨[], rest.flatMap (·.2), ?_, rfl, ?_⟩, fun segment mem => ?_⟩
    · rw [String.toList_ofList, List.nil_append]
    · rw [String.toList_ofList]
      rfl
    · have inside := (ih (place + byteSize cs) segment mem).within []
      rwa [List.append_nil] at inside

/-- **The span of a segment covers its text.** -/
theorem covers_segments {source : String} {segment : Segment} (mem : segment ∈ segments source) :
    segment.span.Covers source segment.raw := by
  have covers := covers_locate _ 0 segment mem
  rw [cut_flatten, List.drop_zero] at covers
  rw [← String.ofList_toList (s := segment.raw)]
  exact covers.covers

/-- **Segments stand one after the other.** -/
theorem pairwise_locate (pieces : List (SegmentKind × List Char)) (place : Nat) :
    (locate place pieces).Pairwise fun one next => one.span.stop ≤ next.span.start := by
  induction pieces generalizing place with
  | nil => exact .nil
  | cons piece rest ih =>
    exact List.pairwise_cons.2 ⟨fun next mem => (within_locate rest _ next mem).first, ih _⟩

/-- No span of a segment is empty. -/
theorem span_nonempty {source : String} {segment : Segment} (mem : segment ∈ segments source) :
    segment.span.start < segment.span.stop := by
  have solid : segment.raw.toList ≠ [] := fun empty => by
    have full := nonempty_segments mem
    rw [String.isEmpty_iff.2 (String.toList_eq_nil_iff.1 empty)] at full
    cases full
  obtain ⟨c, cs, chars⟩ := List.exists_cons_of_ne_nil solid
  have positive := Char.utf8Size_pos c
  rw [(within_segments mem).size, Text.size, chars, Text.byteSize_cons]
  omega

/-- A text that is a tag starts with `{%` and ends with `%}`. -/
theorem TagHead.exists_inner {raw : String} {span : Span} {head : TagHead}
    (h : TagHead.ofRaw? raw span = some head) : ∃ inner : String, raw = "\x7b%" ++ inner ++ "%\x7d" := by
  unfold TagHead.ofRaw? at h
  split at h
  · cases h
  · rename_i inner found
    refine ⟨String.ofList inner, ?_⟩
    rw [← String.toList_inj, eq_of_tagInner? found]
    simp

/-- **A tag that stands in a template:** its span covers a text from `{%` to `%}` with this name and
markup. -/
def TagHead.StandsIn (head : TagHead) (source : String) : Prop :=
  ∃ inner : String, head.span.Covers source ("\x7b%" ++ inner ++ "%\x7d") ∧
    TagHead.ofRaw? ("\x7b%" ++ inner ++ "%\x7d") head.span = some head

end Source

namespace Tree

open Source (Segment TagHead)

/-- **An output that stands in a template:** its span covers a text from `{{` to `}}` that holds its
markup, and is read as its expression and filters. -/
def Output.StandsIn (output : Output) (source : String) : Prop :=
  ∃ content : String, output.span.Covers source ("\x7b\x7b" ++ content ++ "\x7d\x7d") ∧
    output.markup = Text.trim content ∧
    Markup.readOutput content (output.span.start + 2) = .ok (output.expr, output.filters)

/-! ### Nodes that have a span -/

/-- The tag of a node, for a block or a conditional the one that opens it. -/
def Node.head? : Node → Option TagHead
  | .tag head _ => some head
  | .block head _ => some head
  | .conditional head _ => some head
  | _ => none

/-- The span of a node, if it is no text. -/
def Node.span? : Node → Option Span
  | .output source => some source.span
  | node => node.head?.map (·.span)

/-- **The spans of a document's nodes,** in the order of the source. -/
def Document.spans (document : Document) : List Span := document.preorder.filterMap Node.span?

/-- The tag of the mark that a node starts with. -/
def Mark.head? : Mark → Option TagHead
  | .tag head _ => some head
  | .block head => some head
  | .conditional head _ => some head
  | _ => none

/-- The span of the mark that a node starts with. -/
def Mark.span? : Mark → Option Span
  | .output source => some source.span
  | mark => mark.head?.map (·.span)

/-- The tag of a node is that of the mark it starts with. -/
theorem Node.exists_mark {node : Node} {head : TagHead} (own : node.head? = some head) :
    ∃ mark ∈ node.marks, mark.head? = some head := by
  match node with
  | .text _ => cases own
  | .output _ => cases own
  | .tag _ _ => exact ⟨_, List.mem_cons_self, own⟩
  | .block _ _ => exact ⟨_, List.mem_cons_self, own⟩
  | .conditional _ [] => exact ⟨_, List.mem_cons_self, own⟩
  | .conditional _ (_ :: _) => exact ⟨_, List.mem_cons_self, own⟩

mutual

/-- A node, written out, has the spans of the nodes in it. -/
theorem Node.spans_marks (node : Node) :
    node.marks.filterMap Mark.span? = node.preorder.filterMap Node.span? := by
  match node with
  | .text _ => rfl
  | .output _ => rfl
  | .tag _ _ => rfl
  | .block head body =>
    simp [Node.marks, Node.preorder, Mark.span?, Node.span?, Mark.head?, Node.head?, spans_marksOf body]
  | .conditional head [] => rfl
  | .conditional head (⟨id, predicate, body⟩ :: rest) =>
    simp [Node.marks, Node.preorder, preorderOfBranches, Mark.span?, Node.span?, Mark.head?, Node.head?,
      spans_marksOf body, spans_marksOfBranches rest]
termination_by structural node

/-- **Nodes, written out,** have the spans of all nodes in them, in the same order. -/
theorem spans_marksOf (nodes : List Node) :
    (marksOf nodes).filterMap Mark.span? = (preorderOf nodes).filterMap Node.span? := by
  match nodes with
  | [] => rfl
  | node :: rest =>
    rw [marksOf, preorderOf, List.filterMap_append, List.filterMap_append, node.spans_marks,
      spans_marksOf rest]
termination_by structural nodes

/-- Branches, written out, have the spans of all nodes in them. -/
theorem spans_marksOfBranches (branches : List (Branch Node)) :
    (marksOfBranches branches).filterMap Mark.span? = (preorderOfBranches branches).filterMap Node.span? := by
  match branches with
  | [] => rfl
  | ⟨id, predicate, body⟩ :: rest =>
    rw [marksOfBranches, preorderOfBranches, List.filterMap_cons_none rfl, List.filterMap_append,
      List.filterMap_append, spans_marksOf body, spans_marksOfBranches rest]
termination_by structural branches

end

section

variable {vocabulary : Vocabulary} {segment : Segment} {mark : Mark}

/-- A segment that shows a tag is split into its name and markup. -/
theorem Shows.split {head : TagHead} (h : Shows vocabulary segment mark) (own : mark.head? = some head) :
    TagHead.ofRaw? segment.raw segment.span = some head := by
  cases h with
  | tag kind split known => exact Option.some.inj own ▸ split
  | block kind split known => exact Option.some.inj own ▸ split
  | conditional kind split known read => exact Option.some.inj own ▸ split
  | _ => cases own

/-- **What a segment shows has the span of the segment.** -/
theorem Shows.span {span : Span} (h : Shows vocabulary segment mark) (own : mark.span? = some span) :
    span = segment.span := by
  cases tagged : mark.head? with
  | some head =>
    have same : mark.span? = some head.span := by
      cases mark <;> cases tagged <;> rfl
    rw [← TagHead.span_ofRaw? (h.split tagged)]
    exact Option.some.inj (own.symm.trans same)
  | none =>
    cases h with
    | output kind found markup read span => exact Option.some.inj own ▸ span
    | text | elsif | «else» | closing => cases own
    | tag | block | conditional => cases tagged

/-- The spans of marks are among those of the segments that show them, in the same order. -/
theorem spans_sublist {segments : List Segment} {marks : List Mark}
    (shown : List.Forall₂ (Shows vocabulary) segments marks) :
    (marks.filterMap Mark.span?).Sublist (segments.map (·.span)) := by
  induction shown with
  | nil => exact .slnil
  | @cons segment mark segments marks own _ ih =>
    rw [List.map_cons]
    cases found : mark.span? with
    | none =>
      rw [List.filterMap_cons_none found]
      exact ih.cons _
    | some span =>
      rw [List.filterMap_cons_some found, own.span found]
      exact ih.cons_cons _

end

section

variable {vocabulary : Vocabulary} {source : String} {document : Document}

/-- **Spans lead back to the source.** With `if`, `break`, `continue` and plain blocks, every output,
tag, block and conditional of a tree stands in the template where its span says. In the order of the
source the spans follow one another without overlapping, and none is empty. -/
theorem Document.spans_in_order (plain : vocabulary.Plain)
    (h : Document.ofSource vocabulary source = .ok document) :
    (∀ output, .output output ∈ document.preorder → output.StandsIn source) ∧
      (∀ node ∈ document.preorder, ∀ head, node.head? = some head → head.StandsIn source) ∧
      (∀ span ∈ document.spans, span.start < span.stop) ∧
      document.spans.Pairwise fun one next => one.stop ≤ next.start := by
  have sublist := spans_sublist (shows_ofSource plain h)
  rw [spans_marksOf] at sublist
  refine ⟨fun output mem => ?_, fun node mem head own => ?_, fun span mem => ?_, ?_⟩
  · obtain ⟨segment, inside, shown⟩ := shown_of_preorder plain h mem List.mem_cons_self
    have covers := Source.covers_segments inside
    cases shown with
    | @output output inner kind found markup read span =>
      have raw : segment.raw = "\x7b\x7b" ++ String.ofList inner ++ "\x7d\x7d" := by
        rw [← String.toList_inj, eq_of_outputInner? found]
        simp
      rw [← span, raw] at covers
      exact ⟨String.ofList inner, covers, by rw [markup, Text.trim, String.toList_ofList], span ▸ read⟩
  · obtain ⟨mark, written, tagged⟩ := node.exists_mark own
    obtain ⟨segment, inside, shown⟩ := shown_of_preorder plain h mem written
    have covers := Source.covers_segments inside
    have split := shown.split tagged
    obtain ⟨inner, raw⟩ := TagHead.exists_inner split
    rw [← TagHead.span_ofRaw? split] at covers split
    exact ⟨inner, raw ▸ covers, raw ▸ split⟩
  · obtain ⟨segment, inside, rfl⟩ := List.mem_map.1 (sublist.subset mem)
    exact Source.span_nonempty inside
  · exact (List.pairwise_map.2 (Source.pairwise_locate _ 0)).sublist sublist

end

/-- Characters of two bytes stand before a conditional and in its body, with an output and a block
that holds a tag. -/
theorem Document.spans_in_order_nested :
    let vocabulary := Vocabulary.withBlocks ["raw"]
    let source := "é{% if a > 1 %}ü{{ b | upcase }}{% raw %}{% break %}{% endraw %}{% endif %}"
    vocabulary.Plain ∧ ∃ document, Document.ofSource vocabulary source = .ok document ∧
      document.spans = [⟨2, 16⟩, ⟨18, 34⟩, ⟨34, 43⟩, ⟨43, 54⟩] ∧
      (∀ output, .output output ∈ document.preorder → output.StandsIn source) ∧
      (∀ node ∈ document.preorder, ∀ head, node.head? = some head → head.StandsIn source) ∧
      (∀ span ∈ document.spans, span.start < span.stop) ∧
      document.spans.Pairwise fun one next => one.stop ≤ next.start := by
  intro vocabulary source
  have plain : vocabulary.Plain := Vocabulary.plain_withBlocks ["raw"]
  have evaluated : (Document.ofSource vocabulary source).toOption.map Document.spans =
      some [⟨2, 16⟩, ⟨18, 34⟩, ⟨34, 43⟩, ⟨43, 54⟩] := by decide +kernel
  match parsed : Document.ofSource vocabulary source with
  | .error fault =>
    rw [parsed] at evaluated
    cases evaluated
  | .ok document =>
    rw [parsed] at evaluated
    exact ⟨plain, document, rfl, Option.some.inj evaluated, Document.spans_in_order plain parsed⟩

end Tree
end MailMerge
