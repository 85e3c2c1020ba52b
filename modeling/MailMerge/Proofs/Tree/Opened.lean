/-
# The blocks that are open

Which blocks are open at a place in a template can be told from the tags before it: a tag that
stands for a conditional or a block opens one, and a tag named `end` and the name of the innermost
block closes that one. What is assembled agrees (`Assembly.Opened.steps`), so the blocks on its
stack are these, in this order.

Once the segments up to a place have been accepted, closing tags for the blocks that are open there
complete them (`Document.ofSegments_completed`). The closing tags can be written behind these
segments, and the template that this gives is cut into the same segments and the closing tags
(`segments_completed`). A text in front of a tag or an output does not stop at a brace, and
an opener that is never closed is not accepted, so nothing runs into what is written behind it.
-/

import MailMerge.Proofs.Source.Canonical
import MailMerge.Proofs.Tree.Accepting
import Mathlib.Data.List.TakeWhile

namespace MailMerge
namespace Tree

open Source (Segment SegmentKind TagHead Fault)
open Markup (Condition)
open Text (byteSize)

/-- What the tags of a usual vocabulary stand for. -/
theorem Vocabulary.Usual.cases {vocabulary : Vocabulary} (usual : vocabulary.Usual) {name : String}
    {rule : TagRule} (known : vocabulary.find? name = some rule) :
    rule = .conditional ∧ name = "if" ∨ (∃ signal, rule = .interrupt signal) ∨ rule = .block .plain := by
  cases usual name rule known with
  | conditional => exact .inl ⟨rfl, rfl⟩
  | «break» => exact .inr (.inl ⟨_, rfl⟩)
  | «continue» => exact .inr (.inl ⟨_, rfl⟩)
  | block => exact .inr (.inr rfl)

/-! ### Open blocks -/

/-- A tag closes the innermost block. -/
def closes (blocks : List TagHead) (head : TagHead) : Bool :=
  blocks.head?.any fun block => head.name == "end" ++ block.name

/-- The blocks that are open after a tag, innermost first. -/
def openAfterTag (vocabulary : Vocabulary) (blocks : List TagHead) (head : TagHead) : List TagHead :=
  if closes blocks head then blocks.tail
  else match vocabulary.find? head.name with
    | some .conditional => head :: blocks
    | some (.block _) => head :: blocks
    | _ => blocks

/-- The blocks that are open after a segment. -/
def openAfter (vocabulary : Vocabulary) (blocks : List TagHead) (segment : Segment) : List TagHead :=
  match segment.kind, TagHead.ofRaw? segment.raw segment.span with
  | .tag, some head => openAfterTag vocabulary blocks head
  | _, _ => blocks

/-- **The blocks that are open** after some segments, given by their tags, innermost first. -/
def openBlocks (vocabulary : Vocabulary) (segments : List Segment) : List TagHead :=
  segments.foldl (openAfter vocabulary) []

/-- **The tree of segments,** or their first fault. -/
def Document.ofSegments (vocabulary : Vocabulary) (segments : List Segment) : Except Fault Document :=
  match Assembly.start.steps vocabulary segments with
  | .error fault => .error fault
  | .ok assembly => assembly.finish

theorem Document.ofSegments_segments (vocabulary : Vocabulary) (source : String) :
    ofSegments vocabulary (Source.segments source) = ofSource vocabulary source := rfl

/-- **A block that a tag has opened:** a plain block, or a conditional opened by `if`. -/
inductive OpenedBy (vocabulary : Vocabulary) (head : TagHead) : OpenBlock → Prop
  | block {nodes : List Node} (known : vocabulary.find? head.name = some (.block .plain)) :
      OpenedBy vocabulary head ⟨head, .block .plain nodes⟩
  | conditional {done : List (Branch Node)} {id : Nat} {predicate : Option Condition}
      {nodes : List Node} (named : head.name = "if")
      (known : vocabulary.find? head.name = some .conditional) :
      OpenedBy vocabulary head ⟨head, .conditional done id predicate nodes⟩

/-- **What is assembled has these blocks open,** and no tag waits. -/
structure Assembly.Opened (vocabulary : Vocabulary) (heads : List TagHead) (assembly : Assembly) :
    Prop where
  waiting : assembly.waiting = none
  blocks : List.Forall₂ (OpenedBy vocabulary) heads assembly.blocks

/-- **A closing tag** of a block. -/
abbrev Closing (vocabulary : Vocabulary) (segment : Segment) (block : TagHead) : Prop :=
  Shows vocabulary segment (.closing block.name)

section

variable {vocabulary : Vocabulary} {assembly next : Assembly} {segment : Segment} {head : TagHead}
  {heads : List TagHead} {block : OpenBlock} {segments closing : List Segment} {fault : Fault}

theorem openAfter_of_tag (kind : segment.kind = .tag)
    (split : TagHead.ofRaw? segment.raw segment.span = some head) :
    openAfter vocabulary heads segment = openAfterTag vocabulary heads head := by
  rw [openAfter, kind, split]

/-- What is no tag opens and closes nothing. -/
theorem openAfter_of_ne (kind : segment.kind ≠ .tag) : openAfter vocabulary heads segment = heads := by
  unfold openAfter
  split
  · rename_i tag _
    exact absurd tag kind
  · rfl

/-- A block is named after the tag that has opened it. -/
theorem OpenedBy.name (h : OpenedBy vocabulary head block) : block.name = head.name := by
  cases h with
  | block known => rfl
  | conditional named known => exact named.symm

theorem OpenedBy.closingTag (h : OpenedBy vocabulary head block) :
    block.closingTag = "end" ++ head.name := by rw [OpenBlock.closingTag, h.name]

theorem OpenedBy.push (h : OpenedBy vocabulary head block) (node : Node) :
    OpenedBy vocabulary head (block.push node) := by
  cases h with
  | block known => exact .block known
  | conditional named known => exact .conditional named known

theorem OpenedBy.nextBranch (h : OpenedBy vocabulary head block) (id : Nat)
    (predicate : Option Condition) : OpenedBy vocabulary head (block.nextBranch id predicate) := by
  cases h with
  | block known => exact .block known
  | conditional named known => exact .conditional named known

namespace Assembly.Opened

theorem start (vocabulary : Vocabulary) : Assembly.start.Opened vocabulary [] := ⟨rfl, .nil⟩

theorem push (opened : assembly.Opened vocabulary heads) (node : Node) :
    (assembly.push node).Opened vocabulary heads := by
  obtain ⟨nodes, blocks, nextId, waiting⟩ := assembly
  obtain ⟨rfl, stand⟩ := opened
  cases stand with
  | nil => exact ⟨rfl, .nil⟩
  | cons inner outer => exact ⟨rfl, .cons (inner.push node) outer⟩

/-- A tag closes what is assembled exactly if it closes the innermost block that is open. -/
theorem isSome_closedBy? (opened : assembly.Opened vocabulary heads) (head : TagHead) :
    (assembly.closedBy? head).isSome = closes heads head := by
  obtain ⟨nodes, blocks, nextId, waiting⟩ := assembly
  obtain ⟨rfl, stand⟩ := opened
  cases stand with
  | nil => rfl
  | cons inner outer =>
    rw [closedBy?, closes, List.head?_cons, Option.any_some]
    dsimp only
    rw [inner.closingTag]
    split
    · rename_i same
      exact (beq_iff_eq.2 same).symm
    · rename_i differ
      exact (beq_eq_false_iff_ne.2 differ).symm

/-- A tag of the vocabulary opens a block if it stands for one. -/
theorem knownTag (usual : vocabulary.Usual) (opened : assembly.Opened vocabulary heads)
    {rule : TagRule} (known : vocabulary.find? head.name = some rule)
    (kept : closes heads head = false) (h : assembly.knownTag head rule = .ok next) :
    next.Opened vocabulary (openAfterTag vocabulary heads head) := by
  rw [openAfterTag, kept, if_neg Bool.false_ne_true, known]
  rcases usual.cases known with ⟨rfl, named⟩ | ⟨signal, rfl⟩ | rfl
  · simp only [Assembly.knownTag] at h
    split at h
    · cases h
    · obtain rfl := Except.ok.inj h
      exact ⟨opened.waiting, .cons (.conditional named known) opened.blocks⟩
  · obtain rfl := Except.ok.inj h
    exact opened.push _
  · obtain rfl := Except.ok.inj h
    exact ⟨opened.waiting, .cons (.block known) opened.blocks⟩

/-- A tag nobody knows opens nothing. -/
theorem unknownTag (opened : assembly.Opened vocabulary heads)
    (h : assembly.unknownTag head = .ok next) : next.Opened vocabulary heads := by
  obtain ⟨nodes, blocks, nextId, waiting⟩ := assembly
  obtain ⟨rfl, stand⟩ := opened
  rw [Assembly.unknownTag] at h
  cases stand with
  | nil => cases h
  | cons inner outer =>
    have branch : ∀ predicate id,
        Opened vocabulary _ ⟨nodes, OpenBlock.nextBranch _ nextId predicate :: _, id, none⟩ :=
      fun predicate _ => ⟨rfl, .cons (inner.nextBranch nextId predicate) outer⟩
    cases inner with
    | block known => cases h
    | conditional named known =>
      dsimp only at h
      split at h
      · split at h
        · cases h
        · obtain rfl := Except.ok.inj h
          exact branch _ _
      · split at h
        · obtain rfl := Except.ok.inj h
          exact branch _ _
        · cases h

/-- **A tag that is accepted** leaves the blocks open that are open after it. -/
theorem tag (usual : vocabulary.Usual) (opened : assembly.Opened vocabulary heads)
    (h : assembly.tag vocabulary head = .ok next) :
    next.Opened vocabulary (openAfterTag vocabulary heads head) := by
  have same := opened.isSome_closedBy? head
  rw [Assembly.tag] at h
  split at h
  · rename_i block outer closed
    rw [closed, Option.isSome_some] at same
    obtain ⟨blocks, -⟩ := closedBy?_eq_some closed
    obtain rfl := Except.ok.inj h
    have stand := opened.blocks
    rw [blocks] at stand
    obtain ⟨inner, heads, -, around, rfl⟩ := List.forall₂_cons_right_iff.1 stand
    have left : Opened vocabulary heads { assembly with blocks := outer } := ⟨opened.waiting, around⟩
    rw [openAfterTag, ← same, if_pos rfl]
    exact left.push _
  · rename_i kept
    rw [kept, Option.isSome_none] at same
    split at h
    · rename_i known
      exact opened.knownTag usual known same.symm h
    · rename_i missing
      rw [openAfterTag, ← same, if_neg Bool.false_ne_true, missing]
      exact opened.unknownTag h

/-- **A segment that is accepted** leaves the blocks open that are open after it. -/
theorem step (usual : vocabulary.Usual) (opened : assembly.Opened vocabulary heads)
    (h : assembly.step vocabulary segment = .ok next) :
    next.Opened vocabulary (openAfter vocabulary heads segment) := by
  rw [Assembly.step, opened.waiting] at h
  dsimp only at h
  split at h
  · rename_i kind
    rw [openAfter_of_ne (by rw [kind]; decide)]
    obtain rfl := Except.ok.inj h
    split
    · exact opened
    · exact opened.push _
  · rename_i kind
    split at h
    · cases h
    · rename_i split
      rw [openAfter_of_tag kind split]
      exact opened.tag usual h
  · rename_i kind
    rw [openAfter_of_ne (by rw [kind]; decide)]
    rw [Assembly.output] at h
    split at h
    · cases h
    · split at h
      · cases h
      · obtain rfl := Except.ok.inj h
        obtain ⟨waiting, stand⟩ := opened.push _
        exact ⟨waiting, stand⟩

/-- **Segments that are accepted** leave the blocks open that are open after them. -/
theorem steps (usual : vocabulary.Usual) (opened : assembly.Opened vocabulary heads)
    (h : assembly.steps vocabulary segments = .ok next) :
    next.Opened vocabulary (segments.foldl (openAfter vocabulary) heads) := by
  induction segments generalizing assembly heads with
  | nil =>
    obtain rfl := Except.ok.inj h
    exact opened
  | cons segment rest ih =>
    rw [Assembly.steps] at h
    split at h
    · cases h
    · rename_i stepped
      exact ih (opened.step usual stepped) h

/-! ### Closing what is open -/

/-- **The end of the template** is where no block is open. -/
theorem finish (opened : assembly.Opened vocabulary []) :
    ∃ document, assembly.finish = .ok document := by
  obtain ⟨nodes, blocks, nextId, waiting⟩ := assembly
  obtain ⟨rfl, stand⟩ := opened
  obtain rfl := List.forall₂_nil_left_iff.1 stand
  exact ⟨_, rfl⟩

/-- **The end of the template finds fault with the innermost block** that is open. -/
theorem finish_open (opened : assembly.Opened vocabulary (head :: heads)) :
    assembly.finish = .error (.neverClosed head.name head.span) := by
  obtain ⟨nodes, blocks, nextId, waiting⟩ := assembly
  obtain ⟨rfl, stand⟩ := opened
  obtain ⟨block, outer, inner, -, rfl⟩ := List.forall₂_cons_left_iff.1 stand
  cases inner with
  | block known => rfl
  | conditional named known =>
    rw [named]
    rfl

/-- **Closing tags**, that of the innermost block first, close all blocks. -/
theorem complete (opened : assembly.Opened vocabulary heads)
    (closes : List.Forall₂ (Closing vocabulary) closing heads) :
    ∃ last, assembly.steps vocabulary closing = .ok last ∧ last.Opened vocabulary [] := by
  induction closes generalizing assembly with
  | nil => exact ⟨assembly, rfl, opened⟩
  | @cons segment head closing heads shows _ ih =>
    obtain ⟨block, outer, inner, around, blocks⟩ := List.forall₂_cons_left_iff.1 opened.blocks
    have left : Opened vocabulary heads { assembly with blocks := outer } := ⟨opened.waiting, around⟩
    obtain ⟨last, rest, closed⟩ := ih (left.push block.close)
    refine ⟨last, ?_, closed⟩
    cases shows with
    | closing kind split name =>
      have stepped : assembly.step vocabulary segment =
          .ok (Assembly.push { assembly with blocks := outer } block.close) := by
        rw [Assembly.step, opened.waiting, kind]
        dsimp only
        rw [split]
        dsimp only
        rw [Assembly.tag_closing blocks (name.trans inner.closingTag.symm), opened.waiting]
      rw [Assembly.steps_cons stepped]
      exact rest

end Assembly.Opened

/-- **Accepted segments are completed by closing tags** of the blocks that are open after them. -/
theorem Document.ofSegments_completed (usual : vocabulary.Usual)
    (accepted : Assembly.start.steps vocabulary segments = .ok assembly)
    (closes : List.Forall₂ (Closing vocabulary) closing (openBlocks vocabulary segments)) :
    ∃ document, ofSegments vocabulary (segments ++ closing) = .ok document := by
  obtain ⟨last, rest, closed⟩ := ((Assembly.Opened.start vocabulary).steps usual accepted).complete closes
  obtain ⟨document, finished⟩ := closed.finish
  refine ⟨document, ?_⟩
  rw [ofSegments, Assembly.steps_append accepted, rest]
  exact finished

/-- **Segments up to one that is not accepted.** -/
theorem Assembly.steps_eq_error (h : assembly.steps vocabulary segments = .error fault) :
    ∃ before segment after middle, segments = before ++ segment :: after ∧
      assembly.steps vocabulary before = .ok middle ∧
        middle.step vocabulary segment = .error fault := by
  induction segments generalizing assembly with
  | nil => cases h
  | cons segment rest ih =>
    rw [steps] at h
    split at h
    · rename_i failed
      obtain rfl := Except.error.inj h
      exact ⟨[], segment, rest, assembly, rfl, rfl, failed⟩
    · rename_i stepped
      obtain ⟨before, failing, after, middle, rfl, accepted, failed⟩ := ih h
      exact ⟨segment :: before, failing, after, middle, rfl, (steps_cons stepped).trans accepted, failed⟩

/-! ### Closing tags, written out -/

theorem mem_openAfter (h : head ∈ openAfter vocabulary heads segment) :
    head ∈ heads ∨ TagHead.ofRaw? segment.raw segment.span = some head := by
  unfold openAfter at h
  split at h
  · rename_i tag _ split
    rw [split]
    have opens : head ∈ tag :: heads → head ∈ heads ∨ some tag = some head := fun mem =>
      (List.mem_cons.1 mem).symm.imp_right fun same => congrArg some same.symm
    unfold openAfterTag at h
    split at h
    · exact .inl (List.mem_of_mem_tail h)
    · split at h
      · exact opens h
      · exact opens h
      · exact .inl h
  · exact .inl h

/-- The name of a tag is a word. -/
theorem word_ofRaw? {raw : String} {span : Text.Span} (h : TagHead.ofRaw? raw span = some head) :
    ∀ c ∈ head.name.toList, Text.isWord c = true := by
  unfold TagHead.ofRaw? at h
  split at h
  · cases h
  · dsimp only at h
    split at h
    · cases h
    · obtain rfl := Option.some.inj h
      rw [String.toList_ofList]
      exact fun _ mem => List.mem_takeWhile_imp mem

/-- The names of open blocks are words. -/
theorem word_openBlocks (words : ∀ head ∈ heads, ∀ c ∈ head.name.toList, Text.isWord c = true) :
    ∀ head ∈ segments.foldl (openAfter vocabulary) heads,
      ∀ c ∈ head.name.toList, Text.isWord c = true := by
  induction segments generalizing heads with
  | nil => exact words
  | cons segment rest ih =>
    refine ih fun head mem => ?_
    rcases mem_openAfter mem with before | split
    · exact words head before
    · exact word_ofRaw? split

/-- **The closing tag of a block,** as it can be written. -/
def closingText (name : String) : List Char :=
  '\x7b' :: '%' :: ('e' :: 'n' :: 'd' :: name.toList ++ ['%', '\x7d'])

/-- The closing tag of a block, to be put behind other pieces. -/
def closingPiece (block : TagHead) : SegmentKind × List Char := (.tag, closingText block.name)

/-- What a closing tag says is a word. -/
theorem word_closing {name : String} (word : ∀ c ∈ name.toList, Text.isWord c = true) :
    ∀ c ∈ 'e' :: 'n' :: 'd' :: name.toList, Text.isWord c = true :=
  List.forall_mem_cons.2 ⟨by decide, List.forall_mem_cons.2 ⟨by decide,
    List.forall_mem_cons.2 ⟨by decide, word⟩⟩⟩

/-- A text that is written as a closing tag is one. -/
theorem shows_closingText {name : String} (word : ∀ c ∈ name.toList, Text.isWord c = true)
    (span : Text.Span) :
    Shows vocabulary ⟨.tag, String.ofList (closingText name), span⟩ (.closing name) := by
  have inner : Source.tagInner? (closingText name) = some ('e' :: 'n' :: 'd' :: name.toList) := by
    rw [closingText, Source.tagInner?, List.reverse_append]
    exact congrArg some (List.reverse_reverse _)
  have start : Text.trimStart ('e' :: 'n' :: 'd' :: name.toList) = 'e' :: 'n' :: 'd' :: name.toList := by
    rw [Text.trimStart_cons, if_neg (by decide)]
  have split : ∃ head, TagHead.ofRaw? (String.ofList (closingText name)) span = some head ∧
      head.name = String.ofList ('e' :: 'n' :: 'd' :: name.toList) := by
    rw [TagHead.ofRaw?, String.toList_ofList, inner]
    dsimp only
    rw [start, List.takeWhile_eq_self_iff.2 (word_closing word)]
    exact ⟨_, rfl, rfl⟩
  obtain ⟨head, split, named⟩ := split
  refine .closing rfl split (named.trans ?_)
  rw [← String.toList_inj, String.toList_ofList, String.toList_append]
  rfl

/-- Nothing of a closing tag's own stands behind its first closer. -/
theorem only_last_of_word {word : List Char} (h : '%' ∉ word) (before after : List Char)
    (same : word ++ ['%', '\x7d'] = before ++ (['%', '\x7d'] ++ after)) : after = [] := by
  induction word generalizing before with
  | nil =>
    have lengths := congrArg List.length same
    simp only [List.length_append, List.length_cons, List.length_nil] at lengths
    exact List.length_eq_zero_iff.1 (by omega)
  | cons c word ih =>
    obtain ⟨first, others⟩ := not_or.1 (fun mem => h (List.mem_cons.2 mem))
    rcases before with _ | ⟨b, before⟩
    · exact absurd (List.cons.inj same).1.symm first
    · exact ih others before (List.cons.inj same).2

/-- **Closing tags are cut as they are written.** -/
theorem wellCut_closing (words : ∀ head ∈ heads, ∀ c ∈ head.name.toList, Text.isWord c = true) :
    Source.WellCut (heads.map closingPiece) := by
  induction heads with
  | nil => exact .nil
  | cons head rest ih =>
    obtain ⟨word, others⟩ := List.forall_mem_cons.1 words
    have plain : '%' ∉ 'e' :: 'n' :: 'd' :: head.name.toList := fun mem =>
      absurd (word_closing word '%' mem) (by decide)
    have marks : SegmentKind.tag.marks? = some (['\x7b', '%'], ['%', '\x7d']) := rfl
    exact .cons (List.cons_ne_nil _ _) (.closed marks (only_last_of_word plain))
      (fun text => nomatch text) (ih others)

theorem flatten_ne_nil_of_wellCut {pieces : List (SegmentKind × List Char)}
    (h : Source.WellCut pieces) (nonempty : pieces ≠ []) : pieces.flatMap (·.2) ≠ [] := by
  cases h with
  | nil => exact absurd rfl nonempty
  | cons solid cutAs apart tail =>
    rw [List.flatMap_cons]
    exact List.append_ne_nil_of_left_ne_nil solid _

/-- **Pieces in front of another one** are cut the same when tags or outputs are written in place
of what follows, if none of them is an opener that is never closed. -/
theorem wellCut_replaced {front back : List (SegmentKind × List Char)}
    {piece : SegmentKind × List Char} {later : List (SegmentKind × List Char)}
    (h : Source.WellCut (front ++ piece :: later))
    (whole : ∀ own ∈ front, ∀ closer, own.1.marks? ≠ some (own.2, closer))
    (wellCut : Source.WellCut back) (tags : ∀ next ∈ back.head?, next.1 ≠ .text) :
    Source.WellCut (front ++ back) := by
  induction front with
  | nil => exact wellCut
  | cons own front ih =>
    obtain ⟨own', others⟩ := List.forall_mem_cons.1 whole
    rcases h with _ | ⟨nonempty, cutAs, apart, tail⟩
    have rest := ih tail others
    refine .cons nonempty ?_ (fun text next mem => ?_) rest
    · rcases cutAs with ⟨unopened, lone⟩ | ⟨marks, first⟩ | ⟨marks, unclosed⟩
      · -- A text that stops at a brace would have nothing behind it.
        exact .text unopened fun last => absurd (lone last)
          (flatten_ne_nil_of_wellCut tail (List.append_ne_nil_of_right_ne_nil _ (List.cons_ne_nil _ _)))
      · exact .closed marks first
      · exact absurd marks (own' _)
    · cases front with
      | nil => exact tags next mem
      | cons other front => exact apart text next mem

theorem locate_append (front back : List (SegmentKind × List Char)) (place : Nat) :
    Source.locate place (front ++ back) =
      Source.locate place front ++ Source.locate (place + byteSize (front.flatMap (·.2))) back := by
  induction front generalizing place with
  | nil => rfl
  | cons piece front ih =>
    rw [List.cons_append, Source.locate, ih, Source.locate, List.flatMap_cons, Text.byteSize_append,
      Nat.add_assoc]
    rfl

/-- Closing tags that are given their places. -/
theorem closing_locate (words : ∀ head ∈ heads, ∀ c ∈ head.name.toList, Text.isWord c = true)
    (place : Nat) :
    List.Forall₂ (Closing vocabulary) (Source.locate place (heads.map closingPiece)) heads := by
  induction heads generalizing place with
  | nil => exact .nil
  | cons head rest ih =>
    obtain ⟨word, others⟩ := List.forall_mem_cons.1 words
    exact .cons (shows_closingText word _) (ih others _)

/-- A segment that is accepted is no opener that is never closed. -/
theorem Assembly.Opened.whole_step (opened : assembly.Opened vocabulary heads)
    (h : assembly.step vocabulary segment = .ok next) (closer : List Char) :
    segment.kind.marks? ≠ some (segment.raw.toList, closer) := by
  intro marks
  cases stepped_of_step h with
  | handed waiting => cases opened.waiting.symm.trans waiting
  | nothing kind empty =>
    rw [kind] at marks
    cases marks
  | text kind =>
    rw [kind] at marks
    cases marks
  | tag kind split tagged =>
    rw [kind] at marks
    obtain ⟨raw, -⟩ := Prod.mk.inj (Option.some.inj marks)
    rw [TagHead.ofRaw?, ← raw] at split
    cases split
  | output kind found read =>
    rw [kind] at marks
    obtain ⟨raw, -⟩ := Prod.mk.inj (Option.some.inj marks)
    rw [← raw] at found
    cases found

theorem Assembly.Opened.whole_steps (usual : vocabulary.Usual) (opened : assembly.Opened vocabulary heads)
    (h : assembly.steps vocabulary segments = .ok next) :
    ∀ segment ∈ segments, ∀ closer, segment.kind.marks? ≠ some (segment.raw.toList, closer) := by
  induction segments generalizing assembly heads with
  | nil => exact fun _ mem => nomatch mem
  | cons segment rest ih =>
    rw [Assembly.steps] at h
    split at h
    · cases h
    · rename_i stepped
      exact List.forall_mem_cons.2 ⟨opened.whole_step stepped, ih (opened.step usual stepped) h⟩

/-- **Segments in front of another one** start the template that they are cut from. -/
theorem locate_front {source : String} {before after : List Segment}
    (cut : Source.segments source = before ++ segment :: after) :
    Source.cut 0 source.toList =
        before.map Segment.piece ++ segment.piece :: after.map Segment.piece ∧
      Source.locate 0 (before.map Segment.piece) = before := by
  have pieces : Source.cut 0 source.toList =
      before.map Segment.piece ++ segment.piece :: after.map Segment.piece := by
    rw [← List.map_cons, ← List.map_append, ← cut]
    exact (Source.piece_locate _ _).symm
  refine ⟨pieces, ?_⟩
  rw [Source.segments, pieces, locate_append] at cut
  have lengths := congrArg List.length (Source.piece_locate (before.map Segment.piece) 0)
  rw [List.length_map, List.length_map] at lengths
  exact List.append_inj_left cut lengths

/-- **Closing tags can be written behind accepted segments** that stand in front of another one:
there is a template with the same segments up to there, and then the closing tags of the blocks
that are open. -/
theorem segments_completed (usual : vocabulary.Usual) {source : String} {before after : List Segment}
    (cut : Source.segments source = before ++ segment :: after)
    (accepted : Assembly.start.steps vocabulary before = .ok assembly) :
    ∃ completed closing, Source.segments completed = before ++ closing ∧
      List.Forall₂ (Closing vocabulary) closing (openBlocks vocabulary before) := by
  have words : ∀ head ∈ openBlocks vocabulary before, ∀ c ∈ head.name.toList, Text.isWord c = true :=
    word_openBlocks fun _ none => nomatch none
  obtain ⟨pieces, places⟩ := locate_front cut
  have whole : ∀ own ∈ before.map Segment.piece, ∀ closer, own.1.marks? ≠ some (own.2, closer) := by
    intro own mem
    obtain ⟨segment, standing, rfl⟩ := List.mem_map.1 mem
    exact (Assembly.Opened.start vocabulary).whole_steps usual accepted segment standing
  have tags : ∀ next ∈ ((openBlocks vocabulary before).map closingPiece).head?, next.1 ≠ .text := by
    intro next mem
    obtain ⟨head, -, rfl⟩ := List.mem_map.1 (List.mem_of_mem_head? mem)
    exact fun text => nomatch text
  have wellCut := wellCut_replaced (pieces ▸ Source.wellCut_cut 0 source.toList) whole
    (wellCut_closing words) tags
  let place := 0 + byteSize ((before.map Segment.piece).flatMap (·.2))
  refine ⟨String.ofList ((before.map Segment.piece ++
    (openBlocks vocabulary before).map closingPiece).flatMap (·.2)), _, ?_, closing_locate words place⟩
  rw [Source.segments, String.toList_ofList, Source.cut_of_wellCut wellCut, locate_append, places]

end

end Tree
end MailMerge
