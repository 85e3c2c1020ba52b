/-
# The first impossible segment

A template that is refused is refused at the first segment that cannot stand where it does, or at
its end. What is wrong with the segment depends on the innermost block that is open there and on
nothing else around it:

| segment | fault |
| --- | --- |
| tag or output without its closing mark | unterminated |
| output or predicate that does not follow its grammar | that of the markup, inside the segment |
| `else` outside a conditional | unexpected in the innermost block, or in the document |
| `end` in a block | not the closing tag of the innermost block |
| any other tag nobody knows, `elsif` outside a conditional too | unknown |

The segments before it can still be completed, by closing tags for the blocks that are open there,
and there is a template in which they are. Nothing that goes on with the segment is accepted
(`Document.ofSource_fault`). At the end of the template only the innermost block can be wrong: it
is still open.
-/

import MailMerge.Proofs.Tree.Opened
import MailMerge.Proofs.Tree.Placing

namespace MailMerge

open Text (Span)

/-! ### Faults of markup -/

namespace Markup

section

variable {σ α : Type} {machine : Machine σ α} {markup : String} {offset : Nat} {fault : Source.Fault}

/-- **Refused markup** has a fault of markup that is not in front of it. -/
theorem Machine.read_eq_error (h : machine.read markup offset = .error fault) :
    ∃ message expected span, fault = .markup message expected span ∧
      offset ≤ span.start ∧ offset ≤ span.stop := by
  rw [read] at h
  split at h
  · obtain rfl := Except.error.inj h
    exact ⟨_, _, _, rfl, Nat.le_add_right _ _, Nat.le_add_right _ _⟩
  · split at h
    · cases h
    · obtain rfl := Except.error.inj h
      unfold Stuck.fault
      dsimp only
      split
      · exact ⟨_, _, _, rfl, Nat.le_add_right _ _, Nat.le_add_right _ _⟩
      · exact ⟨_, _, _, rfl, Nat.le_add_right _ _, Nat.le_add_right _ _⟩

theorem readOutput_eq_error (h : readOutput markup offset = .error fault) :
    ∃ message expected span, fault = .markup message expected span ∧
      offset ≤ span.start ∧ offset ≤ span.stop := by
  rw [readOutput] at h
  split at h
  · cases h
  · exact Machine.read_eq_error h

/-- A condition that is refused has a fault of a condition. -/
theorem readCondition_eq_error (h : readCondition markup offset = .error fault) :
    ∃ message span, fault = .invalidCondition message span ∧
      offset ≤ span.start ∧ offset ≤ span.stop := by
  rw [readCondition] at h
  split at h
  · cases h
  · rename_i failed
    obtain ⟨message, expected, span, rfl, starts, stops⟩ := Machine.read_eq_error failed
    obtain rfl := Except.error.inj h
    exact ⟨_, span, rfl, starts, stops⟩

end

end Markup

namespace Tree

open Source (Segment TagHead Fault)

/-! ### What is wrong with a segment -/

/-- The innermost block that is open is a conditional. -/
def InConditional (vocabulary : Vocabulary) (blocks : List TagHead) : Prop :=
  ∃ block ∈ blocks.head?, vocabulary.find? block.name = some .conditional

/-- How faults name what a tag stands in. -/
def surrounding (blocks : List TagHead) : String := (blocks.head?.map (·.name)).getD "document"

/-- **A tag that does not close a block.** -/
structure Stays (blocks : List TagHead) (segment : Segment) (head : TagHead) : Prop where
  kind : segment.kind = .tag
  split : TagHead.ofRaw? segment.raw segment.span = some head
  kept : closes blocks head = false

/-- **What is wrong with a segment** where these blocks are open. -/
inductive Blames (vocabulary : Vocabulary) (blocks : List TagHead) (segment : Segment) : Fault → Prop
  | unterminatedTag (kind : segment.kind = .tag)
      (torn : TagHead.ofRaw? segment.raw segment.span = none) :
      Blames vocabulary blocks segment (.unterminatedTag segment.raw segment.span)
  | unterminatedOutput (kind : segment.kind = .output) (torn : outputInner? segment.raw.toList = none) :
      Blames vocabulary blocks segment (.unterminatedOutput segment.raw segment.span)
  | output {inner : List Char} {message : String} {expected : List String} {span : Span}
      (kind : segment.kind = .output) (found : outputInner? segment.raw.toList = some inner)
      (refused : Markup.readOutput (String.ofList inner) (segment.span.start + 2) =
        .error (.markup message expected span)) :
      Blames vocabulary blocks segment (.markup message expected span)
  | predicate {head : TagHead} {message : String} {span : Span} (stays : Stays blocks segment head)
      (asks : vocabulary.find? head.name = some .conditional ∨
        vocabulary.find? head.name = none ∧ head.name = "elsif" ∧ InConditional vocabulary blocks)
      (refused : predicateOf head = .error (.invalidCondition message span)) :
      Blames vocabulary blocks segment (.invalidCondition message span)
  | unexpectedElse {head : TagHead} (stays : Stays blocks segment head)
      (unknown : vocabulary.find? head.name = none) (named : head.name = "else")
      (outside : ¬InConditional vocabulary blocks) :
      Blames vocabulary blocks segment (.unexpectedElse (surrounding blocks) segment.span)
  | invalidEnd {head block : TagHead} {outer : List TagHead} (stays : Stays blocks segment head)
      (unknown : vocabulary.find? head.name = none) (named : head.name = "end")
      (inside : blocks = block :: outer) :
      Blames vocabulary blocks segment (.invalidEnd block.name ("end" ++ block.name) segment.span)
  | unknownTag {head : TagHead} (stays : Stays blocks segment head)
      (unknown : vocabulary.find? head.name = none) (noElse : head.name ≠ "else")
      (noEnd : head.name = "end" → blocks = [])
      (noElsif : head.name = "elsif" → ¬InConditional vocabulary blocks) :
      Blames vocabulary blocks segment (.unknownTag head.name segment.span)

section

variable {vocabulary : Vocabulary} {assembly : Assembly} {segment : Segment} {head block : TagHead}
  {heads : List TagHead} {segments : List Segment} {fault : Fault} {first last : Nat}

/-- A plain block is no conditional. -/
theorem not_inConditional (known : vocabulary.find? block.name = some (.block .plain)) :
    ¬InConditional vocabulary (block :: heads) := by
  rintro ⟨same, mem, conditional⟩
  obtain rfl := Option.some.inj mem
  cases known.symm.trans conditional

/-- A tag that is misplaced in a block is to blame. -/
theorem blames_misplacedTag (stays : Stays (block :: heads) segment head)
    (unknown : vocabulary.find? head.name = none)
    (plain : head.name = "else" ∨ head.name = "elsif" → ¬InConditional vocabulary (block :: heads)) :
    Blames vocabulary (block :: heads) segment
      (misplacedTag block.name (some ("end" ++ block.name)) head) := by
  unfold misplacedTag
  rw [Source.TagHead.span_ofRaw? stays.split]
  dsimp only
  split
  · rename_i named
    exact .unexpectedElse stays unknown named (plain (.inl named))
  · rename_i noElse
    split
    · rename_i named
      exact .invalidEnd stays unknown named rfl
    · rename_i noEnd
      exact .unknownTag stays unknown noElse (fun named => absurd named noEnd)
        fun named => plain (.inr named)

/-- A predicate that is refused is to blame. -/
theorem blames_predicate (stays : Stays heads segment head)
    (asks : vocabulary.find? head.name = some .conditional ∨
      vocabulary.find? head.name = none ∧ head.name = "elsif" ∧ InConditional vocabulary heads)
    (refused : predicateOf head = .error fault) : Blames vocabulary heads segment fault := by
  obtain ⟨message, span, rfl, -⟩ := Markup.readCondition_eq_error refused
  exact .predicate stays asks refused

/-- A tag nobody knows is to blame if it is refused. -/
theorem blames_unknownTag (opened : assembly.Opened vocabulary heads) (stays : Stays heads segment head)
    (unknown : vocabulary.find? head.name = none) (h : assembly.unknownTag head = .error fault) :
    Blames vocabulary heads segment fault := by
  obtain ⟨nodes, blocks, nextId, waiting⟩ := assembly
  obtain ⟨rfl, stand⟩ := opened
  rw [Assembly.unknownTag] at h
  cases stand with
  | nil =>
    have outside : ¬InConditional vocabulary [] := by
      rintro ⟨_, mem, _⟩
      cases mem
    obtain rfl := Except.error.inj h
    unfold misplacedTag
    rw [Source.TagHead.span_ofRaw? stays.split]
    split
    · rename_i named
      exact .unexpectedElse stays unknown named outside
    · rename_i noElse
      exact .unknownTag stays unknown noElse (fun _ => rfl) fun _ => outside
  | cons inner outer =>
    cases inner with
    | block known =>
      obtain rfl := Except.error.inj h
      exact blames_misplacedTag stays unknown fun _ => not_inConditional known
    | conditional named known =>
      dsimp only at h
      split at h
      · rename_i elsif
        split at h
        · rename_i refused
          obtain rfl := Except.error.inj h
          exact blames_predicate stays (.inr ⟨unknown, elsif, _, rfl, known⟩) refused
        · cases h
      · rename_i noElsif
        split at h
        · cases h
        · rename_i noElse
          obtain rfl := Except.error.inj h
          have misplaced := blames_misplacedTag stays unknown fun other =>
            (other.elim noElse noElsif).elim
          rw [named] at misplaced
          exact misplaced

/-- **A tag that is refused** is to blame. -/
theorem blames_tag (usual : vocabulary.Usual) (opened : assembly.Opened vocabulary heads)
    (kind : segment.kind = .tag) (split : TagHead.ofRaw? segment.raw segment.span = some head)
    (h : assembly.tag vocabulary head = .error fault) : Blames vocabulary heads segment fault := by
  have same := opened.isSome_closedBy? head
  rw [Assembly.tag] at h
  split at h
  · cases h
  · rename_i kept
    rw [kept, Option.isSome_none] at same
    have stays : Stays heads segment head := ⟨kind, split, same.symm⟩
    split at h
    · rename_i rule known
      rcases usual.cases known with ⟨rfl, -⟩ | ⟨signal, rfl⟩ | rfl
      · simp only [Assembly.knownTag] at h
        split at h
        · rename_i refused
          obtain rfl := Except.error.inj h
          exact blames_predicate stays (.inl known) refused
        · cases h
      · cases h
      · cases h
    · rename_i unknown
      exact blames_unknownTag opened stays unknown h

/-- **A segment that is refused** is to blame. -/
theorem blames_step (usual : vocabulary.Usual) (opened : assembly.Opened vocabulary heads)
    (h : assembly.step vocabulary segment = .error fault) : Blames vocabulary heads segment fault := by
  rw [Assembly.step, opened.waiting] at h
  dsimp only at h
  split at h
  · cases h
  · rename_i kind
    split at h
    · rename_i torn
      obtain rfl := Except.error.inj h
      exact .unterminatedTag kind torn
    · rename_i split
      exact blames_tag usual opened kind split h
  · rename_i kind
    rw [Assembly.output] at h
    split at h
    · rename_i torn
      obtain rfl := Except.error.inj h
      exact .unterminatedOutput kind torn
    · rename_i inner found
      split at h
      · rename_i refused
        obtain rfl := Except.error.inj h
        obtain ⟨message, expected, span, rfl, -⟩ := Markup.readOutput_eq_error refused
        exact .output kind found refused
      · cases h

/-! ### Where it is -/

/-- **A fault in a segment:** both ends of its span are there. -/
structure FaultIn (segment : Segment) (fault : Fault) : Prop where
  start : segment.span.start ≤ fault.span.start ∧ fault.span.start ≤ segment.span.stop
  stop : segment.span.start ≤ fault.span.stop ∧ fault.span.stop ≤ segment.span.stop

theorem start_le_markupStart {raw : String} {span : Span} (h : TagHead.ofRaw? raw span = some head) :
    span.start ≤ head.markupStart := by
  unfold TagHead.ofRaw? at h
  split at h
  · cases h
  · dsimp only at h
    split at h
    · cases h
    · obtain rfl := Option.some.inj h
      exact Nat.le_trans (Nat.le_add_right _ _) (Nat.le_add_right _ _)

/-- What is wrong with a segment does not start before it. -/
theorem Blames.le_span (blames : Blames vocabulary heads segment fault)
    (within : segment.Within first last) :
    segment.span.start ≤ fault.span.start ∧ segment.span.start ≤ fault.span.stop := by
  have own : segment.span.start ≤ segment.span.start ∧ segment.span.start ≤ segment.span.stop :=
    ⟨Nat.le_refl _, within.fits.ordered⟩
  cases blames with
  | unterminatedTag kind torn => exact own
  | unterminatedOutput kind torn => exact own
  | output kind found refused =>
    obtain ⟨_, _, _, same, starts, stops⟩ := Markup.readOutput_eq_error refused
    cases same
    exact ⟨Nat.le_trans (Nat.le_add_right _ _) starts, Nat.le_trans (Nat.le_add_right _ _) stops⟩
  | predicate stays asks refused =>
    obtain ⟨_, _, same, starts, stops⟩ := Markup.readCondition_eq_error refused
    cases same
    have offset := start_le_markupStart stays.split
    exact ⟨Nat.le_trans offset starts, Nat.le_trans offset stops⟩
  | unexpectedElse stays unknown named outside => exact own
  | invalidEnd stays unknown named inside => exact own
  | unknownTag stays unknown noElse noEnd noElsif => exact own

/-- **What is wrong with a segment is in it.** -/
theorem Blames.faultIn (blames : Blames vocabulary heads segment fault)
    (h : assembly.step vocabulary segment = .error fault) (within : segment.Within first last) :
    FaultIn segment fault := by
  obtain ⟨start, stop⟩ := blames.le_span within
  rcases (Assembly.faultOf_step h).fits within with fits | breaks
  · exact ⟨⟨start, Nat.le_trans fits.ordered fits.inside⟩, stop, fits.inside⟩
  · have here : segment.Within first segment.span.stop := ⟨within.first, within.size, Nat.le_refl _⟩
    obtain ⟨reversed, inside⟩ := breaks.reversed here
    exact ⟨⟨start, inside⟩, stop, Nat.le_trans (Nat.le_of_lt reversed) inside⟩

/-! ### Templates that are refused -/

/-- **Segments that can be completed:** with closing tags of the blocks that are open after them,
whichever way these are written, they are accepted. -/
def Completable (vocabulary : Vocabulary) (segments : List Segment) : Prop :=
  ∀ closing, List.Forall₂ (Closing vocabulary) closing (openBlocks vocabulary segments) →
    ∃ document, Document.ofSegments vocabulary (segments ++ closing) = .ok document

/-- **The first impossible segment,** behind the segments `before`. -/
structure Impossible (vocabulary : Vocabulary) (before : List Segment) (segment : Segment)
    (fault : Fault) : Prop where
  blames : Blames vocabulary (openBlocks vocabulary before) segment fault
  faultIn : FaultIn segment fault
  completable : Completable vocabulary before
  completed : ∃ completed closing document, Source.segments completed = before ++ closing ∧
    List.Forall₂ (Closing vocabulary) closing (openBlocks vocabulary before) ∧
      Document.ofSource vocabulary completed = .ok document
  refused : ∀ rest, Document.ofSegments vocabulary (before ++ segment :: rest) = .error fault

/-- **A block that is left open** at the end: the innermost one of those that are open there. -/
structure LeftOpen (vocabulary : Vocabulary) (segments : List Segment) (block : TagHead) : Prop where
  innermost : (openBlocks vocabulary segments).head? = some block
  completable : Completable vocabulary segments

/-- **The faults of templates point at the first impossible segment.** With `if`, `break`,
`continue` and plain blocks, a template that is refused has a segment that is to blame for the
fault, with segments before it that can be completed and nothing that may follow; or all its
segments could be completed, and the fault is that the innermost block is open at the end. -/
theorem Document.ofSource_fault (usual : vocabulary.Usual) {source : String}
    (h : Document.ofSource vocabulary source = .error fault) :
    (∃ before segment after, Source.segments source = before ++ segment :: after ∧
        Impossible vocabulary before segment fault) ∨
      ∃ block, LeftOpen vocabulary (Source.segments source) block ∧
        fault = .neverClosed block.name block.span := by
  rw [ofSource] at h
  split at h
  · rename_i cause failed
    obtain rfl := Except.error.inj h
    obtain ⟨before, segment, after, middle, cut, accepted, refused⟩ := Assembly.steps_eq_error failed
    have opened := (Assembly.Opened.start vocabulary).steps usual accepted
    have blames := blames_step usual opened refused
    have within : segment.Within 0 (Text.size source) :=
      Source.within_segments (by rw [cut]; exact List.mem_append_right _ List.mem_cons_self)
    obtain ⟨completed, closing, same, closes⟩ := segments_completed usual cut accepted
    obtain ⟨document, complete⟩ := ofSegments_completed usual accepted closes
    rw [← same, ofSegments_segments] at complete
    refine .inl ⟨before, segment, after, cut, blames, blames.faultIn refused within,
      fun _ => ofSegments_completed usual accepted, ⟨completed, closing, document, same, closes, complete⟩,
      fun rest => ?_⟩
    rw [ofSegments, Assembly.steps_append accepted, Assembly.steps, refused]
  · rename_i last accepted
    have opened := (Assembly.Opened.start vocabulary).steps usual accepted
    have complete : Completable vocabulary (Source.segments source) :=
      fun _ => ofSegments_completed usual accepted
    rw [← openBlocks] at opened
    cases left : openBlocks vocabulary (Source.segments source) with
    | nil =>
      rw [left] at opened
      obtain ⟨document, finished⟩ := opened.finish
      cases h.symm.trans finished
    | cons block outer =>
      rw [left] at opened
      refine .inr ⟨block, ⟨by rw [left]; rfl, complete⟩, ?_⟩
      exact Except.error.inj (h.symm.trans opened.finish_open)

/-- `end` closes neither of two blocks, and it is the inner one that says so. -/
theorem Document.ofSource_fault_end :
    let vocabulary := Vocabulary.withBlocks ["raw"]
    let source := "\x7b% if a %\x7d\x7b% raw %\x7db\x7b% end %\x7d\x7b% endif %\x7d"
    vocabulary.Usual ∧
      Document.ofSource vocabulary source = .error (.invalidEnd "raw" "endraw" ⟨20, 29⟩) ∧
        ∃ before segment after, Source.segments source = before ++ segment :: after ∧
          Impossible vocabulary before segment (.invalidEnd "raw" "endraw" ⟨20, 29⟩) := by
  intro vocabulary source
  have usual : vocabulary.Usual := Vocabulary.usual_withBlocks ["raw"]
  have evaluated : (Document.ofSource vocabulary source).map (fun _ => ()) =
      .error (.invalidEnd "raw" "endraw" ⟨20, 29⟩) := by decide +kernel
  have failed : Document.ofSource vocabulary source = .error (.invalidEnd "raw" "endraw" ⟨20, 29⟩) := by
    generalize Document.ofSource vocabulary source = result at evaluated ⊢
    match result with
    | .error _ => exact congrArg _ (Except.error.inj evaluated)
    | .ok _ => cases evaluated
  refine ⟨usual, failed, (Document.ofSource_fault usual failed).resolve_right ?_⟩
  rintro ⟨block, -, same⟩
  cases same

end

end Tree
end MailMerge
