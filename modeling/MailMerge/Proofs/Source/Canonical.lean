/-
# The one way to cut a template

The segments of a template are the only ones that are like this: put together they are the
template, their places run from its start to its end, none is empty, no text stands next to a
text, a text holds no opener and stops at a brace only where the template stops, and a tag or
an output goes up to the first closer after its opener, or is the opener alone where no closer
follows (`canonical_iff_eq_segments`).

Both directions look at one piece at a time. A piece that is like this comes off the front when
what follows is cut (`cut_text`, `cut_closed`, `cut_bare`), so nothing else can have been cut
there; and what is cut off is like this (`wellCut_cut`).
-/

import Mathlib.Data.List.Chain
import MailMerge.Proofs.Source.Segments

namespace MailMerge

open Text (Span byteSize)

namespace Text

/-! ### The first occurrence -/

/-- Nothing is found where there is no occurrence. -/
theorem before?_eq_none_iff {needle hay : List Char} :
    before? needle hay = none ↔ ¬needle <:+: hay := by
  rw [← occursIn_iff, ← before?_isSome, Bool.not_eq_true, Option.isSome_eq_false_iff,
    Option.isNone_iff_eq_none]

/-- No occurrence starts before the one that is found. -/
theorem length_le_of_before? {needle hay inner before after : List Char}
    (h : before? needle hay = some inner) (same : hay = before ++ (needle ++ after)) :
    inner.length ≤ before.length := by
  induction hay generalizing inner before with
  | nil =>
    obtain ⟨rest, whole⟩ := eq_append_of_before? h
    rw [(List.append_eq_nil_iff.1 whole.symm).1]
    exact Nat.zero_le _
  | cons c cs ih =>
    rw [before?] at h
    split at h
    · obtain rfl := Option.some.inj h
      exact Nat.zero_le _
    · rename_i elsewhere
      obtain ⟨front, found, rfl⟩ := Option.map_eq_some_iff.1 h
      rcases before with _ | ⟨b, before⟩
      · exact absurd (List.isPrefixOf_iff_prefix.2 ⟨after, same.symm⟩) elsewhere
      · exact Nat.succ_le_succ (ih found (List.cons.inj same).2)

/-- **Up to what is found** there is no other occurrence. -/
theorem only_last_of_before? {needle hay inner : List Char} (h : before? needle hay = some inner)
    (before after : List Char) (same : inner ++ needle = before ++ (needle ++ after)) :
    after = [] := by
  obtain ⟨rest, rfl⟩ := eq_append_of_before? h
  have whole : inner ++ (needle ++ rest) = before ++ (needle ++ (after ++ rest)) := by
    rw [← List.append_assoc, same]
    simp only [List.append_assoc]
  have shortest : inner.length ≤ before.length := length_le_of_before? h whole
  have lengths := congrArg List.length same
  simp only [List.length_append] at lengths
  exact List.length_eq_zero_iff.1 (by omega)

/-- **An occurrence with no other one up to it** is the one that is found. -/
theorem before?_of_only_last {needle inner : List Char}
    (only : ∀ before after, inner ++ needle = before ++ (needle ++ after) → after = [])
    (rest : List Char) : before? needle (inner ++ (needle ++ rest)) = some inner := by
  have occurs : occursIn needle (inner ++ (needle ++ rest)) = true :=
    occursIn_iff.2 ⟨inner, rest, List.append_assoc ..⟩
  rw [← before?_isSome] at occurs
  obtain ⟨found, first⟩ := Option.isSome_iff_exists.1 occurs
  obtain ⟨after, same⟩ := eq_append_of_before? first
  have shortest : found.length ≤ inner.length := length_le_of_before? first rfl
  rw [← List.append_assoc, ← List.append_assoc] at same
  obtain ⟨between, whole⟩ : found ++ needle <+: inner ++ needle :=
    List.prefix_of_prefix_length_le ⟨after, same.symm⟩ ⟨rest, rfl⟩ (by
      simp only [List.length_append]
      omega)
  obtain rfl : between = [] := only found between (by rw [← whole, List.append_assoc])
  rw [List.append_nil] at whole
  rw [first, List.append_cancel_right whole]

/-! ### Slices -/

theorem sliceFrom_append (span : Span) (place : Nat) (front back : List Char) :
    sliceFrom span place (front ++ back) =
      sliceFrom span place front ++ sliceFrom span (place + byteSize front) back := by
  induction front generalizing place with
  | nil => rfl
  | cons c cs ih =>
    rw [List.cons_append, sliceFrom, sliceFrom, ih, byteSize_cons, Nat.add_assoc]
    split
    · rfl
    · rfl

/-- A span covers all of a run that it surrounds. -/
theorem sliceFrom_inside {span : Span} {place : Nat} {cs : List Char} (starts : span.start ≤ place)
    (stops : place + byteSize cs ≤ span.stop) : sliceFrom span place cs = cs := by
  induction cs generalizing place with
  | nil => rfl
  | cons c cs ih =>
    rw [byteSize_cons] at stops
    have := Char.utf8Size_pos c
    rw [sliceFrom, if_pos ⟨starts, by omega⟩, ih (by omega) (by omega)]

/-- A span covers nothing of a run that is over before it starts, or starts after it is over. -/
theorem sliceFrom_outside {span : Span} {place : Nat} {cs : List Char}
    (apart : place + byteSize cs ≤ span.start ∨ span.stop ≤ place) :
    sliceFrom span place cs = [] := by
  induction cs generalizing place with
  | nil => rfl
  | cons c cs ih =>
    rw [byteSize_cons] at apart
    have := Char.utf8Size_pos c
    rw [sliceFrom, if_neg (by omega), ih (by omega)]

end Text

namespace Source

/-! ### What segments are like -/

/-- The opener of a kind of segment, and what closes it. -/
def SegmentKind.marks? : SegmentKind → Option (List Char × List Char)
  | .text => none
  | .tag => some (['\x7b', '%'], ['%', '\x7d'])
  | .output => some (['\x7b', '\x7b'], ['\x7d', '\x7d'])

/-- **What a piece is like that `rest` follows:** a text without an opener, with a brace at its
end only if nothing follows; an opener with what goes up to the first closer; or an opener alone
that no closer follows. -/
inductive CutAs (rest : List Char) : SegmentKind → List Char → Prop
  | text {raw : List Char}
      (unopened : ∀ kind opener closer, SegmentKind.marks? kind = some (opener, closer) →
        ¬opener <:+: raw)
      (lone : raw.getLast? = some '\x7b' → rest = []) :
      CutAs rest .text raw
  | closed {kind : SegmentKind} {opener closer inner : List Char}
      (marks : kind.marks? = some (opener, closer))
      (first : ∀ before after, inner ++ closer = before ++ (closer ++ after) → after = []) :
      CutAs rest kind (opener ++ (inner ++ closer))
  | bare {kind : SegmentKind} {opener closer : List Char}
      (marks : kind.marks? = some (opener, closer))
      (unclosed : ¬closer <:+: rest) :
      CutAs rest kind opener

/-- **Pieces that are cut as they should be:** none is empty, each is like what its kind asks
for, and no text follows a text. -/
inductive WellCut : List (SegmentKind × List Char) → Prop
  | nil : WellCut []
  | cons {kind : SegmentKind} {raw : List Char} {later : List (SegmentKind × List Char)}
      (nonempty : raw ≠ [])
      (cutAs : CutAs (later.flatMap (·.2)) kind raw)
      (apart : kind = .text → ∀ next ∈ later.head?, next.1 ≠ .text)
      (tail : WellCut later) :
      WellCut ((kind, raw) :: later)

/-- A segment without its place. -/
def Segment.piece (segment : Segment) : SegmentKind × List Char :=
  (segment.kind, segment.raw.toList)

/-- **The segments of a template, told by what they are like.** -/
structure Canonical (source : String) (segments : List Segment) : Prop where
  joined : String.join (segments.map (·.raw)) = source
  starts : ∀ first ∈ segments.head?, first.span.start = 0
  contiguous : segments.IsChain fun one next => one.span.stop = next.span.start
  ends : ∀ last ∈ segments.getLast?, last.span.stop = Text.size source
  sized : ∀ segment ∈ segments, segment.span.stop = segment.span.start + Text.size segment.raw
  sliced : ∀ segment ∈ segments, Text.slice source segment.span = segment.raw
  wellCut : WellCut (segments.map Segment.piece)

/-! ### Openers -/

variable {kind : SegmentKind} {opener closer raw rest cs : List Char} {c d : Char}
  {pieces : List (SegmentKind × List Char)}

/-- **What opens a segment** are the two characters of its opener. -/
theorem opening?_eq_some_iff :
    opening? c d = some (kind, closer) ↔ kind.marks? = some ([c, d], closer) := by
  unfold opening? SegmentKind.marks?
  constructor
  · intro h
    split at h
    · split at h
      · cases h
        simp [*]
      · split at h
        · cases h
          simp [*]
        · cases h
    · cases h
  · intro h
    split at h
    · cases h
    · cases h
      rfl
    · cases h
      rfl

/-- An opener is a brace and one more character. -/
theorem opener_eq (marks : kind.marks? = some (opener, closer)) :
    ∃ second, opener = ['\x7b', second] := by
  unfold SegmentKind.marks? at marks
  split at marks
  · cases marks
  · cases marks
    exact ⟨_, rfl⟩
  · cases marks
    exact ⟨_, rfl⟩

/-- Two braces open an output. -/
theorem opening?_braces : opening? '\x7b' '\x7b' ≠ none := by decide

/-- What a text is like. -/
theorem cutAs_text_iff :
    CutAs rest .text raw ↔
      (∀ kind opener closer, SegmentKind.marks? kind = some (opener, closer) → ¬opener <:+: raw) ∧
        (raw.getLast? = some '\x7b' → rest = []) := by
  constructor
  · rintro (⟨unopened, lone⟩ | ⟨marks, -⟩ | ⟨marks, -⟩)
    · exact ⟨unopened, lone⟩
    · cases marks
    · cases marks
  · rintro ⟨unopened, lone⟩
    exact .text unopened lone

/-- What is no text starts with a brace. -/
theorem CutAs.head?_eq (h : CutAs rest kind raw) (marked : kind ≠ .text) :
    raw.head? = some '\x7b' := by
  rcases h with _ | ⟨marks, -⟩ | ⟨marks, -⟩
  · exact absurd rfl marked
  · obtain ⟨second, rfl⟩ := opener_eq marks
    rfl
  · obtain ⟨second, rfl⟩ := opener_eq marks
    rfl

/-! ### Cutting one piece off -/

/-- Skipping is cutting what is left. -/
theorem cut_skip (skip : Nat) (cs : List Char) : cut skip cs = cut 0 (cs.drop skip) := by
  induction skip generalizing cs with
  | zero => rfl
  | succ skip ih =>
    rcases cs with _ | ⟨c, cs⟩
    · rfl
    · rw [cut, ih, List.drop_succ_cons]

/-- In front of what is no text, a character is a text of its own. -/
theorem addText_of_apart (apart : ∀ next ∈ pieces.head?, next.1 ≠ .text) :
    addText c pieces = (.text, [c]) :: pieces := by
  unfold addText
  split
  · exact absurd rfl (apart _ rfl)
  · rfl

/-- A character that opens nothing is text. -/
theorem cut_cons (plain : ∀ d ∈ cs.head?, opening? c d = none) :
    cut 0 (c :: cs) = addText c (cut 0 cs) := by
  rcases cs with _ | ⟨d, cs⟩
  · rfl
  · rw [cut, plain d rfl]

/-- **A text is cut off whole** where what follows it is no text. -/
theorem cut_text (nonempty : raw ≠ []) (cutAs : CutAs rest .text raw)
    (apart : ∀ next ∈ (cut 0 rest).head?, next.1 ≠ .text) :
    cut 0 (raw ++ rest) = (.text, raw) :: cut 0 rest := by
  induction raw with
  | nil => exact absurd rfl nonempty
  | cons c cs ih =>
    obtain ⟨unopened, lone⟩ := cutAs_text_iff.1 cutAs
    have plain : ∀ d ∈ (cs ++ rest).head?, opening? c d = none := by
      intro d next
      rw [Option.eq_none_iff_forall_ne_some]
      rintro ⟨kind, closer⟩ opens
      have marks := opening?_eq_some_iff.1 opens
      rcases cs with _ | ⟨e, cs⟩
      · -- The opener would start with the last character, which is a brace only at the end.
        obtain ⟨second, same⟩ := opener_eq marks
        obtain rfl := lone (by rw [(List.cons.inj same).1]; rfl)
        cases next
      · obtain rfl : e = d := Option.some.inj next
        exact unopened kind _ closer marks ⟨[], cs, rfl⟩
    rw [List.cons_append, cut_cons plain]
    rcases cs with _ | ⟨e, cs⟩
    · rw [List.nil_append, addText_of_apart apart]
    · have shorter : CutAs rest .text (e :: cs) := cutAs_text_iff.2
        ⟨fun kind opener closer marks inside =>
            unopened kind opener closer marks (inside.trans (List.suffix_cons c _).isInfix),
          fun last => lone (by rwa [List.getLast?_cons_cons])⟩
      rw [ih (List.cons_ne_nil _ _) shorter, addText]

/-- **A tag or an output is cut off** up to the first closer. -/
theorem cut_closed (marks : kind.marks? = some (opener, closer)) {inner : List Char}
    (found : Text.before? closer (inner ++ (closer ++ rest)) = some inner) :
    cut 0 (opener ++ (inner ++ (closer ++ rest))) = (kind, opener ++ (inner ++ closer)) :: cut 0 rest := by
  obtain ⟨second, rfl⟩ := opener_eq marks
  have opens := opening?_eq_some_iff.2 marks
  have dropped : (second :: (inner ++ (closer ++ rest))).drop (inner.length + 3) = rest := by
    rw [List.drop_succ_cons, ← List.append_assoc, ← length_closer opens, ← List.length_append,
      List.drop_left]
  rw [List.cons_append, List.cons_append, List.nil_append, cut, opens]
  simp only [found]
  rw [cut_skip, dropped]
  rfl

/-- **An opener that is never closed** is cut off alone. -/
theorem cut_bare (marks : kind.marks? = some (opener, closer))
    (unclosed : Text.before? closer rest = none) :
    cut 0 (opener ++ rest) = (kind, opener) :: cut 0 rest := by
  obtain ⟨second, rfl⟩ := opener_eq marks
  rw [List.cons_append, List.cons_append, List.nil_append, cut, opening?_eq_some_iff.2 marks]
  simp only [unclosed]
  rw [cut_skip]
  rfl

/-- **Pieces that are cut as they should be are what their characters are cut into.** -/
theorem cut_of_wellCut (h : WellCut pieces) : cut 0 (pieces.flatMap (·.2)) = pieces := by
  induction h with
  | nil => rfl
  | @cons kind raw later nonempty cutAs apart tail ih =>
    rw [List.flatMap_cons]
    by_cases text : kind = .text
    · subst text
      rw [cut_text nonempty cutAs (by rw [ih]; exact apart rfl), ih]
    · rcases cutAs with _ | ⟨marks, first⟩ | ⟨marks, unclosed⟩
      · exact absurd rfl text
      · have found := Text.before?_of_only_last first (later.flatMap (·.2))
        simp only [List.append_assoc]
        rw [cut_closed marks found, ih]
      · rw [cut_bare marks (Text.before?_eq_none_iff.2 unclosed), ih]

/-! ### What is cut off -/

/-- A character that opens nothing is a text of its own in front of what is no text. -/
theorem WellCut.alone (h : WellCut pieces) (apart : ∀ next ∈ pieces.head?, next.1 ≠ .text)
    (plain : ∀ d ∈ (pieces.flatMap (·.2)).head?, opening? c d = none) :
    WellCut ((.text, [c]) :: pieces) := by
  refine .cons (List.cons_ne_nil _ _) (.text ?_ ?_) (fun _ => apart) h
  · intro kind opener closer marks inside
    obtain ⟨second, rfl⟩ := opener_eq marks
    exact absurd inside.length_le (Nat.not_succ_le_self 1)
  · intro last
    obtain rfl : c = '\x7b' := Option.some.inj last
    rcases h with _ | ⟨-, cutAs, -, -⟩
    · rfl
    · -- What follows would start with a brace too, and two braces are an opener.
      have head := cutAs.head?_eq (apart _ rfl)
      refine absurd (plain '\x7b' ?_) opening?_braces
      rw [List.flatMap_cons, List.head?_append, head]
      rfl

/-- **A character that opens nothing** joins the text that follows it. -/
theorem WellCut.addText (h : WellCut pieces)
    (plain : ∀ d ∈ (pieces.flatMap (·.2)).head?, opening? c d = none) :
    WellCut (Source.addText c pieces) := by
  unfold Source.addText
  split
  · rename_i d cs later
    rcases h with _ | ⟨nonempty, cutAs, apart, tail⟩
    obtain ⟨unopened, lone⟩ := cutAs_text_iff.1 cutAs
    obtain ⟨d, cs, rfl⟩ := List.exists_cons_of_ne_nil nonempty
    refine .cons (List.cons_ne_nil _ _) (.text ?_ ?_) apart tail
    · intro kind opener closer marks inside
      rcases List.infix_cons_iff.1 inside with front | behind
      · obtain ⟨second, rfl⟩ := opener_eq marks
        obtain ⟨brace, front⟩ := List.cons_prefix_cons.1 front
        obtain ⟨next, -⟩ := List.cons_prefix_cons.1 front
        subst brace next
        have opens := opening?_eq_some_iff.2 marks
        rw [plain second rfl] at opens
        cases opens
      · exact unopened kind opener closer marks behind
    · intro last
      exact lone (by rwa [List.getLast?_cons_cons] at last)
  · rename_i notText
    refine h.alone ?_ plain
    rintro ⟨kind, raw⟩ first rfl
    obtain ⟨later, rfl⟩ := List.head?_eq_some_iff.1 first
    exact notText raw later rfl

/-- **What a text is cut into is cut as it should be.** -/
theorem wellCut_cut (skip : Nat) (cs : List Char) : WellCut (cut skip cs) := by
  fun_induction cut skip cs with
  | case1 => exact .nil
  | case2 skip c cs ih => exact ih
  | case3 c => exact WellCut.nil.addText (fun _ mem => absurd mem (Option.not_mem_none _))
  | case4 c d cs plain ih =>
    refine ih.addText ?_
    rw [cut_flatten]
    rintro d' ⟨⟩
    exact plain
  | case5 c d cs kind closer opens unclosed ih =>
    have marks := opening?_eq_some_iff.1 opens
    refine .cons (List.cons_ne_nil _ _) (.bare marks ?_) ?_ ih
    · rw [cut_flatten]
      exact Text.before?_eq_none_iff.1 unclosed
    · rintro rfl
      cases marks
  | case6 c d cs kind closer opens inner found ih =>
    have marks := opening?_eq_some_iff.1 opens
    refine .cons (List.cons_ne_nil _ _) (.closed marks (Text.only_last_of_before? found)) ?_ ih
    rintro rfl
    cases marks

/-! ### Places -/

theorem piece_locate (pieces : List (SegmentKind × List Char)) (place : Nat) :
    (locate place pieces).map Segment.piece = pieces := by
  induction pieces generalizing place with
  | nil => rfl
  | cons piece rest ih =>
    rw [locate, List.map_cons, ih, Segment.piece, String.toList_ofList]

theorem starts_locate (pieces : List (SegmentKind × List Char)) (place : Nat) :
    ∀ first ∈ (locate place pieces).head?, first.span.start = place := by
  rcases pieces with _ | ⟨piece, rest⟩
  · rintro first ⟨⟩
  · rintro first ⟨⟩
    rfl

theorem contiguous_locate (pieces : List (SegmentKind × List Char)) (place : Nat) :
    (locate place pieces).IsChain fun one next => one.span.stop = next.span.start := by
  induction pieces generalizing place with
  | nil => exact .nil
  | cons piece rest ih =>
    exact List.isChain_cons.2 ⟨fun next mem => (starts_locate rest _ next mem).symm, ih _⟩

theorem ends_locate (pieces : List (SegmentKind × List Char)) (place : Nat) :
    ∀ last ∈ (locate place pieces).getLast?,
      last.span.stop = place + byteSize (pieces.flatMap (·.2)) := by
  induction pieces generalizing place with
  | nil => rintro last ⟨⟩
  | cons piece rest ih =>
    rw [List.flatMap_cons, Text.byteSize_append, ← Nat.add_assoc]
    intro last mem
    rcases rest with _ | ⟨next, rest⟩
    · cases mem
      rfl
    · exact ih _ last (by rwa [locate, locate, List.getLast?_cons_cons, ← locate] at mem)

/-- **The span of a segment covers its characters.** -/
theorem sliced_locate (pieces : List (SegmentKind × List Char)) (place : Nat) :
    ∀ segment ∈ locate place pieces,
      Text.sliceFrom segment.span place (pieces.flatMap (·.2)) = segment.raw.toList := by
  induction pieces generalizing place with
  | nil => exact fun _ mem => (List.not_mem_nil mem).elim
  | cons piece rest ih =>
    obtain ⟨kind, cs⟩ := piece
    rw [List.flatMap_cons]
    refine List.forall_mem_cons.2 ⟨?_, fun segment mem => ?_⟩
    · rw [Text.sliceFrom_append, Text.sliceFrom_inside (Nat.le_refl _) (Nat.le_refl _),
        Text.sliceFrom_outside (.inr (Nat.le_refl _)), List.append_nil, String.toList_ofList]
    · have later := within_locate rest (place + byteSize cs) segment mem
      rw [Text.sliceFrom_append, Text.sliceFrom_outside (.inl later.first), List.nil_append,
        ih _ segment mem]

/-- **Segments whose places follow one another** are their pieces, given their places. -/
theorem locate_piece {segments : List Segment} {place : Nat}
    (starts : ∀ first ∈ segments.head?, first.span.start = place)
    (contiguous : segments.IsChain fun one next => one.span.stop = next.span.start)
    (sized : ∀ segment ∈ segments,
      segment.span.stop = segment.span.start + Text.size segment.raw) :
    locate place (segments.map Segment.piece) = segments := by
  induction segments generalizing place with
  | nil => rfl
  | cons segment rest ih =>
    obtain ⟨kind, raw, start, stop⟩ := segment
    obtain ⟨next, linked⟩ := List.isChain_cons.1 contiguous
    obtain ⟨size, others⟩ := List.forall_mem_cons.1 sized
    obtain rfl : start = place := starts _ rfl
    obtain rfl : stop = start + byteSize raw.toList := size
    rw [List.map_cons, Segment.piece, locate, String.ofList_toList,
      ih (fun first mem => (next first mem).symm) linked others]

/-! ### The template -/

theorem toList_joined (segments : List Segment) :
    (String.join (segments.map (·.raw))).toList = (segments.map Segment.piece).flatMap (·.2) := by
  rw [String.toList_join, List.flatMap_map, List.flatMap_map]
  rfl

/-- **The segments of a template are the only ones that are like its segments.** -/
theorem canonical_iff_eq_segments (source : String) (tokens : List Segment) :
    Canonical source tokens ↔ tokens = segments source := by
  constructor
  · intro h
    have chars : (tokens.map Segment.piece).flatMap (·.2) = source.toList := by
      rw [← toList_joined, h.joined]
    rw [segments, ← chars, cut_of_wellCut h.wellCut, locate_piece h.starts h.contiguous h.sized]
  · rintro rfl
    have pieces : (segments source).map Segment.piece = cut 0 source.toList := piece_locate _ _
    have chars : (cut 0 source.toList).flatMap (·.2) = source.toList := cut_flatten 0 _
    refine ⟨?_, starts_locate _ 0, contiguous_locate _ 0, ?_, fun _ mem => (within_segments mem).size,
      ?_, ?_⟩
    · rw [← String.toList_inj, toList_joined, pieces, chars]
    · intro last mem
      rw [ends_locate _ 0 last mem, chars, Nat.zero_add, Text.size]
    · intro segment mem
      have covered := sliced_locate _ 0 segment mem
      rw [chars] at covered
      rw [Text.slice, covered, String.ofList_toList]
    · rw [pieces]
      exact wellCut_cut 0 _

example : (segments "\x7b\x7b\x7ba\x7d\x7d\x7d\x7b%x\x7b").map (·.raw) =
    ["\x7b\x7b\x7ba\x7d\x7d", "\x7d", "\x7b%", "x\x7b"] := by decide +kernel

end Source
end MailMerge
