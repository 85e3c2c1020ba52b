/-
# Where the faults of a template are

A fault lies in the template, and its span ends no earlier than it starts, so it can be
reported, with one exception: an output that breaks off before a gap. The span of that
fault is taken between the end of the markup and the end of the last lexeme, in this
order, and there is no report for it.

A fault of a segment lies in the segment. The end of the template finds fault with an open
block only, whose tag is a segment too.
-/

import MailMerge.Proofs.Markup.Lexing
import MailMerge.Proofs.Source.Segments
import MailMerge.Proofs.Tree.Stepping
import MailMerge.Source.Report

namespace MailMerge

open Text (Span byteSize)

/-! ### The markup of tags and outputs -/

namespace Text

/-- A trimmed text does not end in a blank. -/
theorem getLast?_trimEnd (cs : List Char) : (trimEnd cs).getLast?.any isBlank = false := by
  induction cs with
  | nil => rfl
  | cons c cs ih =>
    rw [trimEnd]
    split
    · split
      · rfl
      · rename_i solid
        exact Bool.eq_false_iff.2 solid
    · rename_i d ds rest
      rw [rest] at ih
      rwa [List.getLast?_cons_cons]

end Text

namespace Markup

theorem isBlank_of_isGap {c : Char} (h : isGap c = true) : Text.isBlank c = true := by
  rcases isGap_iff.1 h with rfl | rfl | rfl | rfl <;> decide

theorem endsInGap_trimEnd (cs : List Char) : endsInGap (Text.trimEnd cs) = false := by
  have solid := Text.getLast?_trimEnd cs
  unfold endsInGap
  cases last : (Text.trimEnd cs).getLast? with
  | none => rfl
  | some c =>
    rw [last] at solid
    refine Bool.eq_false_iff.2 fun gap => ?_
    exact Bool.eq_false_iff.1 solid (isBlank_of_isGap gap)

end Markup

namespace Source

/-- A text ends in the two characters that it starts with from behind. -/
theorem eq_of_reverse {cs back : List Char} {last first : Char} (h : cs.reverse = last :: first :: back) :
    cs = back.reverse ++ [first, last] := by
  rw [← List.reverse_reverse cs, h, List.reverse_cons, List.reverse_cons, List.append_assoc]
  rfl

theorem eq_of_tagInner? {raw inner : List Char} (h : tagInner? raw = some inner) :
    raw = '\x7b' :: '%' :: (inner ++ ['%', '\x7d']) := by
  unfold tagInner? at h
  split at h
  · rename_i rest
    split at h
    · rename_i back reversed
      obtain rfl := Option.some.inj h
      rw [eq_of_reverse reversed]
    · cases h
  · cases h

/-- A segment fits into the template up to its own end. -/
theorem Segment.Within.fits {first last : Nat} {segment : Segment} (h : segment.Within first last) :
    segment.span.Fits segment.span.stop := ⟨h.size ▸ Nat.le_add_right _ _, Nat.le_refl _⟩

theorem TagHead.span_ofRaw? {raw : String} {span : Span} {head : TagHead}
    (h : TagHead.ofRaw? raw span = some head) : head.span = span := by
  unfold TagHead.ofRaw? at h
  split at h
  · cases h
  · dsimp only at h
    split at h
    · cases h
    · obtain rfl := Option.some.inj h
      rfl

/-- **A tag in its place:** its markup stands in the segment, in front of the closing mark, and does not
end in a gap. -/
structure TagHead.At (head : TagHead) (segment : Segment) : Prop where
  inside : ∃ before after, segment.raw.toList = before ++ (head.markup.toList ++ after) ∧ after ≠ [] ∧
    head.markupStart = segment.span.start + byteSize before
  trimmed : Markup.endsInGap head.markup.toList = false

/-- **The markup of a tag** stands in the tag and does not end in a gap. -/
theorem TagHead.at_ofRaw? {segment : Segment} {head : TagHead}
    (h : TagHead.ofRaw? segment.raw segment.span = some head) : head.At segment := by
  unfold TagHead.ofRaw? at h
  split at h
  · cases h
  · rename_i inner found
    dsimp only at h
    split at h
    · cases h
    · obtain rfl := Option.some.inj h
      have suffix : Text.trimStart ((Text.trimStart inner).dropWhile Text.isWord) <:+ inner :=
        (List.dropWhile_suffix _).trans ((List.dropWhile_suffix _).trans (List.dropWhile_suffix _))
      obtain ⟨lead, whole⟩ := suffix
      generalize Text.trimStart ((Text.trimStart inner).dropWhile Text.isWord) = markup at whole ⊢
      obtain ⟨blanks, kept, -⟩ := Text.trimEnd_append_blanks markup
      refine ⟨⟨'\x7b' :: '%' :: lead, blanks ++ ['%', '\x7d'], ?_, by simp, ?_⟩, ?_⟩
      · rw [eq_of_tagInner? found, String.toList_ofList, ← List.append_assoc (Text.trimEnd markup), ← kept,
          ← whole, List.append_assoc]
        rfl
      · have left : byteSize inner - byteSize markup = byteSize lead := by
          rw [← whole, Text.byteSize_append, Nat.add_sub_cancel]
        have marks : byteSize ('\x7b' :: '%' :: lead) = 2 + byteSize lead := by
          rw [Text.byteSize_cons, Text.byteSize_cons, ← Nat.add_assoc]
          rfl
        rw [marks, left, Nat.add_assoc]
      · rw [String.toList_ofList]
        exact Markup.endsInGap_trimEnd _

/-- There is no report for a span that ends before it starts, and one for any other. -/
theorem Fault.report?_eq_none_iff (fault : Fault) (source file : String) :
    fault.report? source file = none ↔ fault.span.stop < fault.span.start := by
  unfold report?
  split
  · rename_i before
    exact iff_of_true rfl before
  · rename_i ordered
    exact iff_of_false (fun same => nomatch same) ordered

end Source

namespace Tree

open Source (Segment TagHead Fault)

theorem eq_of_outputInner? {raw inner : List Char} (h : outputInner? raw = some inner) :
    raw = '\x7b' :: '\x7b' :: (inner ++ ['\x7d', '\x7d']) := by
  unfold outputInner? at h
  split at h
  · rename_i rest
    split at h
    · rename_i back reversed
      obtain rfl := Option.some.inj h
      rw [Source.eq_of_reverse reversed]
    · cases h
  · cases h

/-! ### Faults of a segment -/

/-- **An output that breaks off:** its markup ends in a gap and wants more there. -/
structure BreaksOff (segment : Segment) (fault : Fault) : Prop where
  kind : segment.kind = .output
  markup : ∃ inner, outputInner? segment.raw.toList = some inner ∧
    Markup.outputMachine.BreaksOff (String.ofList inner) (segment.span.start + 2) fault

section

variable {vocabulary : Vocabulary} {assembly next : Assembly} {segment : Segment} {head : TagHead}
  {fault : Fault} {first last : Nat}

/-- The markup of an output ends before the output does. -/
theorem size_outputInner? {raw : String} {inner : List Char} (h : outputInner? raw.toList = some inner) :
    2 + Text.size (String.ofList inner) ≤ Text.size raw := by
  rw [Text.size, Text.size, eq_of_outputInner? h, String.toList_ofList, Text.byteSize_cons,
    Text.byteSize_cons, Text.byteSize_append inner, ← Nat.add_assoc, ← Nat.add_assoc]
  exact Nat.le_add_right _ _

theorem BreaksOff.reversed (h : BreaksOff segment fault) (within : segment.Within first last) :
    fault.span.stop < fault.span.start ∧ fault.span.start ≤ last := by
  obtain ⟨inner, found, breaks⟩ := h.markup
  obtain ⟨before, inside⟩ := breaks.reversed
  have size := size_outputInner? found
  have stop := within.size
  have limit := within.last
  exact ⟨before, by omega⟩

/-- **What a fault of a segment is about:** the segment, or the markup of its output or predicate. -/
inductive FaultOf (segment : Segment) (fault : Fault) : Prop
  | whole (same : fault.span = segment.span)
  | output {inner : List Char} (kind : segment.kind = .output)
      (found : outputInner? segment.raw.toList = some inner)
      (refused : Markup.readOutput (String.ofList inner) (segment.span.start + 2) = .error fault)
  | predicate {head : TagHead} (split : TagHead.ofRaw? segment.raw segment.span = some head)
      (refused : predicateOf head = .error fault)

/-- A tag that may not stand where it does is the fault. -/
theorem faultOf_misplacedTag (split : TagHead.ofRaw? segment.raw segment.span = some head)
    (block : String) (closing? : Option String) : FaultOf segment (misplacedTag block closing? head) := by
  have own : (misplacedTag block closing? head).span = head.span := by
    unfold misplacedTag
    split
    · rfl
    · split
      · split <;> rfl
      · rfl
  exact .whole (own.trans (TagHead.span_ofRaw? split))

theorem Assembly.faultOf_output (h : assembly.output segment = .error fault)
    (kind : segment.kind = .output) : FaultOf segment fault := by
  rw [output] at h
  split at h
  · obtain rfl := Except.error.inj h
    exact .whole rfl
  · rename_i inner found
    split at h
    · rename_i cause refused
      obtain rfl := Except.error.inj h
      exact .output kind found refused
    · cases h

theorem Assembly.faultOf_knownTag (split : TagHead.ofRaw? segment.raw segment.span = some head)
    {rule : TagRule} (h : assembly.knownTag head rule = .error fault) : FaultOf segment fault := by
  cases rule with
  | conditional =>
    simp only [knownTag] at h
    split at h
    · rename_i refused
      obtain rfl := Except.error.inj h
      exact .predicate split refused
    · cases h
  | interrupt signal => cases h
  | leaf action => cases h
  | block policy => cases h
  | takeNext node => cases h

theorem Assembly.faultOf_unknownTag (known : TagHead.ofRaw? segment.raw segment.span = some head)
    (h : assembly.unknownTag head = .error fault) : FaultOf segment fault := by
  rw [unknownTag] at h
  split at h
  · obtain rfl := Except.error.inj h
    exact faultOf_misplacedTag known _ _
  · split at h
    · split at h
      · cases h
      · obtain rfl := Except.error.inj h
        exact faultOf_misplacedTag known _ _
    · split at h
      · split at h
        · rename_i refused
          obtain rfl := Except.error.inj h
          exact .predicate known refused
        · cases h
      · split at h
        · cases h
        · obtain rfl := Except.error.inj h
          exact faultOf_misplacedTag known _ _

/-- **What a segment can be at fault in:** itself or its markup. -/
theorem Assembly.faultOf_step (h : assembly.step vocabulary segment = .error fault) :
    FaultOf segment fault := by
  rw [step] at h
  split at h
  · cases h
  · split at h
    · cases h
    · split at h
      · obtain rfl := Except.error.inj h
        exact .whole rfl
      · rename_i head found
        rw [tag] at h
        split at h
        · cases h
        · split at h
          · exact faultOf_knownTag found h
          · exact faultOf_unknownTag found h
    · rename_i kind
      exact faultOf_output h kind

/-- **A fault of a segment** covers some of its characters, unless that is an output that breaks off. -/
theorem FaultOf.covers (h : FaultOf segment fault) (within : segment.Within first last) :
    (∃ part, fault.span.CoversFrom segment.span.start segment.raw.toList part) ∨
      BreaksOff segment fault := by
  cases h with
  | whole same =>
    refine .inl ⟨segment.raw.toList, [], [], (List.append_nil _).symm, ?_, ?_⟩
    · rw [same]
      rfl
    · rw [same, within.size]
      rfl
  | @output inner kind found refused =>
    refine (Markup.covers_readOutput refused).imp (fun ⟨part, covers⟩ => ?_)
      fun breaks => ⟨kind, inner, found, breaks⟩
    rw [String.toList_ofList] at covers
    have behind : fault.span.CoversFrom (segment.span.start + byteSize ['\x7b', '\x7b']) inner part := covers
    rw [eq_of_outputInner? found]
    exact ⟨part, behind.within ['\x7d', '\x7d']⟩
  | predicate split refused =>
    have tag := TagHead.at_ofRaw? split
    obtain ⟨before, after, whole, -, start⟩ := tag.inside
    obtain ⟨part, covers⟩ := Markup.covers_readCondition refused tag.trimmed
    rw [start] at covers
    rw [whole]
    exact .inl ⟨part, covers.within after⟩

/-- A fault of a segment fits into the segment, unless that is an output that breaks off. -/
theorem FaultOf.fits (h : FaultOf segment fault) (within : segment.Within first last) :
    fault.span.Fits segment.span.stop ∨ BreaksOff segment fault :=
  (h.covers within).imp_left fun ⟨_, covers⟩ => within.size ▸ covers.fits

/-! ### Blocks that are still open -/

/-- **The places of the open blocks,** innermost first. -/
def Assembly.openings (assembly : Assembly) : List Span := assembly.blocks.map (·.head.span)

@[simp] theorem OpenBlock.head_push (block : OpenBlock) (node : Node) :
    (block.push node).head = block.head := by
  unfold push
  split <;> rfl

@[simp] theorem OpenBlock.head_nextBranch (block : OpenBlock) (id : Nat)
    (predicate : Option Markup.Condition) : (block.nextBranch id predicate).head = block.head := by
  unfold nextBranch
  split <;> rfl

@[simp] theorem Assembly.openings_push (assembly : Assembly) (node : Node) :
    (assembly.push node).openings = assembly.openings := by
  obtain ⟨nodes, blocks, nextId, waiting⟩ := assembly
  cases blocks with
  | nil => rfl
  | cons block outer => simp [push, openings]

/-- **A tag opens a block at its own place** if it opens one at all. -/
theorem Assembly.openings_tagged (tagged : assembly.Tagged vocabulary head next) :
    next.openings ⊆ head.span :: assembly.openings := by
  have kept : assembly.openings ⊆ head.span :: assembly.openings := List.subset_cons_self _ _
  cases tagged with
  | close blocks name =>
    rw [openings_push, openings, openings, blocks, List.map_cons]
    exact List.subset_cons_of_subset _ (List.subset_cons_self _ _)
  | conditional known read => exact List.Subset.refl _
  | action action known => rwa [openings_push]
  | block known => exact List.Subset.refl _
  | takeNext known => exact kept
  | unknown blocks own => rwa [openings_push]
  | further blocks read =>
    rw [openings, blocks, List.map_cons] at kept
    rwa [openings, openings, blocks, List.map_cons, List.map_cons, OpenBlock.head_nextBranch]

/-- **A segment opens a block at its own place** if it opens one at all. -/
theorem Assembly.openings_step (h : assembly.step vocabulary segment = .ok next) :
    next.openings ⊆ segment.span :: assembly.openings := by
  have kept : assembly.openings ⊆ segment.span :: assembly.openings := List.subset_cons_self _ _
  cases stepped_of_step h with
  | handed waiting => rwa [openings_push]
  | nothing kind empty => exact kept
  | text kind => rwa [openings_push]
  | tag kind split tagged =>
    rw [← TagHead.span_ofRaw? split]
    exact openings_tagged tagged
  | output kind found read =>
    show (assembly.push _).openings ⊆ _
    rwa [openings_push]

/-- **All segments** open blocks at their own places, and the first fault is one of a segment. -/
theorem Assembly.placed_steps (vocabulary : Vocabulary) (assembly : Assembly) (segments : List Segment) :
    (∀ {fault}, assembly.steps vocabulary segments = .error fault →
      ∃ segment ∈ segments, FaultOf segment fault) ∧
    ∀ {next}, assembly.steps vocabulary segments = .ok next →
      next.openings ⊆ segments.map (·.span) ++ assembly.openings := by
  induction segments generalizing assembly with
  | nil =>
    refine ⟨fun h => (nomatch h), fun h => ?_⟩
    obtain rfl := Except.ok.inj h
    exact List.Subset.refl _
  | cons segment rest ih =>
    simp only [steps]
    cases stepped : assembly.step vocabulary segment with
    | error cause =>
      refine ⟨fun h => ?_, fun h => (nomatch h)⟩
      obtain rfl := Except.error.inj h
      exact ⟨segment, List.mem_cons_self, faultOf_step stepped⟩
    | ok next =>
      obtain ⟨faults, opened⟩ := ih next
      refine ⟨fun h => ?_, fun h => ?_⟩
      · obtain ⟨other, mem, own⟩ := faults h
        exact ⟨other, List.mem_cons_of_mem _ mem, own⟩
      refine List.Subset.trans (opened h) (List.append_subset.2 ⟨?_, ?_⟩)
      · exact fun span mem => List.mem_cons_of_mem _ (List.mem_append_left _ mem)
      · refine List.Subset.trans (openings_step stepped) (List.cons_subset.2 ⟨List.mem_cons_self, ?_⟩)
        exact fun span mem => List.mem_cons_of_mem _ (List.mem_append_right _ mem)

/-- The end of the template finds fault with an open block. -/
theorem mem_of_closeAll {nodes : List Node} {inner : Option Node} {blocks : List OpenBlock}
    (h : closeAll nodes inner blocks = .error fault) : fault.span ∈ blocks.map (·.head.span) := by
  induction blocks generalizing inner with
  | nil => cases h
  | cons block outer ih =>
    have own : ∀ {block : OpenBlock}, block.atEnd = .error fault → fault.span = block.head.span := by
      intro block failed
      unfold OpenBlock.atEnd at failed
      split at failed
      · split at failed
        · cases failed
        · obtain rfl := Except.error.inj failed
          rfl
      · obtain rfl := Except.error.inj failed
        rfl
    simp only [closeAll] at h
    rw [List.map_cons]
    split at h
    · rename_i failed
      obtain rfl := Except.error.inj h
      refine List.mem_cons.2 (.inl ((own failed).trans ?_))
      cases inner with
      | none => rfl
      | some node => rw [OpenBlock.head_push]
    · exact List.mem_cons_of_mem _ (ih h)

theorem Assembly.mem_of_finish (h : assembly.finish = .error fault) : fault.span ∈ assembly.openings := by
  have failed : ∀ {complete : Assembly}, (closeAll complete.nodes none complete.blocks).map
      (fun nodes => (⟨nodes.reverse⟩ : Document)) = .error fault → fault.span ∈ complete.openings := by
    intro complete h
    cases closed : closeAll complete.nodes none complete.blocks with
    | error cause =>
      rw [closed] at h
      obtain rfl := Except.error.inj h
      exact mem_of_closeAll closed
    | ok nodes =>
      rw [closed] at h
      cases h
  rw [finish] at h
  have mem := failed h
  split at mem
  · rwa [openings_push] at mem
  · exact mem

/-- **A fault of a template** is one of a segment. -/
theorem Document.faultOf_ofSource {source : String}
    (h : Document.ofSource vocabulary source = .error fault) :
    ∃ segment ∈ Source.segments source, FaultOf segment fault := by
  obtain ⟨faults, opened⟩ := Assembly.placed_steps vocabulary .start (Source.segments source)
  rw [ofSource] at h
  split at h
  · rename_i cause failed
    obtain rfl := Except.error.inj h
    exact faults failed
  · rename_i last done
    have mem := opened done (Assembly.mem_of_finish h)
    obtain ⟨segment, found, same⟩ := List.mem_map.1 ((List.append_nil _) ▸ mem)
    exact ⟨segment, found, .whole same.symm⟩

/-- **A fault of a template** fits into the template, unless it is that of an output that breaks off. -/
theorem Document.fits_ofSource {source : String} (h : Document.ofSource vocabulary source = .error fault) :
    fault.span.Fits (Text.size source) ∨ ∃ segment ∈ Source.segments source, BreaksOff segment fault := by
  obtain ⟨segment, mem, own⟩ := faultOf_ofSource h
  have within := Source.within_segments mem
  exact (own.fits within).imp (fun fits => ⟨fits.ordered, Nat.le_trans fits.inside within.last⟩)
    fun breaks => ⟨segment, mem, breaks⟩

/-- **Every fault lies in its template, and all can be reported** but those of outputs that break
off before a gap: their spans end before they start. -/
theorem Document.report_fault {source : String} (h : Document.ofSource vocabulary source = .error fault) :
    fault.span.start ≤ Text.size source ∧ fault.span.stop ≤ Text.size source ∧
      (fault.span.stop < fault.span.start ↔ ∃ segment ∈ Source.segments source, BreaksOff segment fault) ∧
      ∀ file, fault.report? source file = none ↔
        ∃ segment ∈ Source.segments source, BreaksOff segment fault := by
  have reversed : ∀ {segment}, segment ∈ Source.segments source → BreaksOff segment fault →
      fault.span.stop < fault.span.start ∧ fault.span.start ≤ Text.size source :=
    fun mem breaks => breaks.reversed (Source.within_segments mem)
  have exactly : fault.span.stop < fault.span.start ↔
      ∃ segment ∈ Source.segments source, BreaksOff segment fault := by
    refine ⟨fun before => ?_, fun ⟨segment, mem, breaks⟩ => (reversed mem breaks).1⟩
    exact (fits_ofSource h).resolve_left fun fits => Nat.not_lt.2 fits.ordered before
  have inside : fault.span.start ≤ Text.size source ∧ fault.span.stop ≤ Text.size source := by
    rcases fits_ofSource h with fits | ⟨segment, mem, breaks⟩
    · exact ⟨Nat.le_trans fits.ordered fits.inside, fits.inside⟩
    · obtain ⟨before, start⟩ := reversed mem breaks
      exact ⟨start, Nat.le_trans (Nat.le_of_lt before) start⟩
  exact ⟨inside.1, inside.2, exactly, fun file => (fault.report?_eq_none_iff source file).trans exactly⟩

/-- The filter after the bar is missing, and the gap before the closing braces makes the span run
backwards. -/
theorem Document.report_fault_bar :
    Document.ofSource .standard "\x7b\x7b a | \x7d\x7d" =
        .error (.markup "Unexpected end of markup" [] ⟨7, 6⟩) ∧
      (Fault.markup "Unexpected end of markup" [] ⟨7, 6⟩).report? "\x7b\x7b a | \x7d\x7d" "<stdin>" = none ∧
      ∃ segment ∈ Source.segments "\x7b\x7b a | \x7d\x7d",
        BreaksOff segment (.markup "Unexpected end of markup" [] ⟨7, 6⟩) := by
  have evaluated : (Document.ofSource .standard "\x7b\x7b a | \x7d\x7d").map (fun _ => ()) =
      .error (.markup "Unexpected end of markup" [] ⟨7, 6⟩) := by decide +kernel
  have failed : Document.ofSource .standard "\x7b\x7b a | \x7d\x7d" =
      .error (.markup "Unexpected end of markup" [] ⟨7, 6⟩) := by
    generalize Document.ofSource .standard _ = result at evaluated ⊢
    match result with
    | .error _ => exact congrArg _ (Except.error.inj evaluated)
    | .ok _ => cases evaluated
  obtain ⟨-, -, exactly, unreported⟩ := Document.report_fault failed
  have breaks := exactly.1 (by decide)
  exact ⟨failed, (unreported _).2 breaks, breaks⟩

end

end Tree
end MailMerge
