/-
# Segments cover their template

Cutting a template into segments loses nothing: the segments, one after the other, are the
template. None of them is empty, and the place of each is the range of bytes that its
characters take up.
-/

import MailMerge.Source.Segment

namespace MailMerge

open Text (byteSize)

namespace Text

/-- **What stands before an occurrence** is followed by it. -/
theorem eq_append_of_before? {needle hay inner : List Char} (h : before? needle hay = some inner) :
    ∃ rest, hay = inner ++ (needle ++ rest) := by
  induction hay generalizing inner with
  | nil =>
    rw [before?] at h
    split at h
    · rename_i empty
      obtain rfl := Option.some.inj h
      exact ⟨[], by rw [List.isEmpty_iff.1 empty]; rfl⟩
    · cases h
  | cons c cs ih =>
    rw [before?] at h
    split at h
    · rename_i here
      obtain rfl := Option.some.inj h
      obtain ⟨rest, same⟩ := List.isPrefixOf_iff_prefix.1 here
      exact ⟨rest, same.symm⟩
    · obtain ⟨front, found, rfl⟩ := Option.map_eq_some_iff.1 h
      obtain ⟨rest, same⟩ := ih found
      exact ⟨rest, by rw [same]; rfl⟩

end Text

namespace Source

/-! ### Cutting -/

theorem addText_flatten (c : Char) (pieces : List (SegmentKind × List Char)) :
    (addText c pieces).flatMap (·.2) = c :: pieces.flatMap (·.2) := by
  unfold addText
  split <;> simp

/-- What closes a tag or an output are two characters. -/
theorem length_closer {first second : Char} {kind : SegmentKind} {closer : List Char}
    (h : opening? first second = some (kind, closer)) : closer.length = 2 := by
  unfold opening? at h
  split at h
  · split at h
    · cases h
      rfl
    · split at h
      · cases h
        rfl
      · cases h
  · cases h

/-- **Cutting loses nothing.** -/
theorem cut_flatten (skip : Nat) (cs : List Char) :
    (cut skip cs).flatMap (·.2) = cs.drop skip := by
  fun_induction cut skip cs with
  | case1 => simp
  | case2 skip c cs ih => rw [ih, List.drop_succ_cons]
  | case3 c => rfl
  | case4 c d cs none ih => rw [addText_flatten, ih, List.drop_zero, List.drop_zero]
  | case5 c d cs kind closer opens none ih =>
    rw [List.flatMap_cons, ih]
    rfl
  | case6 c d cs kind closer opens inner found ih =>
    obtain ⟨rest, rfl⟩ := Text.eq_append_of_before? found
    have length : (inner ++ closer).length = inner.length + 2 := by
      rw [List.length_append, length_closer opens]
    rw [List.flatMap_cons, ih, List.drop_succ_cons, ← List.append_assoc inner, ← length,
      List.drop_left]
    rfl

theorem addText_nonempty (c : Char) {pieces : List (SegmentKind × List Char)}
    (h : ∀ piece ∈ pieces, piece.2 ≠ []) : ∀ piece ∈ addText c pieces, piece.2 ≠ [] := by
  unfold addText
  split
  · obtain ⟨-, others⟩ := List.forall_mem_cons.1 h
    exact List.forall_mem_cons.2 ⟨List.cons_ne_nil _ _, others⟩
  · exact List.forall_mem_cons.2 ⟨List.cons_ne_nil _ _, h⟩

/-- **No piece is empty.** -/
theorem cut_nonempty (skip : Nat) (cs : List Char) : ∀ piece ∈ cut skip cs, piece.2 ≠ [] := by
  fun_induction cut skip cs with
  | case1 => exact fun _ mem => (List.not_mem_nil mem).elim
  | case2 skip c cs ih => exact ih
  | case3 c => exact List.forall_mem_singleton.2 (List.cons_ne_nil _ _)
  | case4 c d cs none ih => exact addText_nonempty c ih
  | case5 c d cs kind closer opens none ih =>
    exact List.forall_mem_cons.2 ⟨List.cons_ne_nil _ _, ih⟩
  | case6 c d cs kind closer opens inner found ih =>
    exact List.forall_mem_cons.2 ⟨List.cons_ne_nil _ _, ih⟩

/-! ### Places -/

/-- **A segment in its place:** its span is the range of bytes of its characters, and lies
between two places. -/
structure Segment.Within (first last : Nat) (segment : Segment) : Prop where
  first : first ≤ segment.span.start
  size : segment.span.stop = segment.span.start + Text.size segment.raw
  last : segment.span.stop ≤ last

/-- Pieces that are given their places stay within them. -/
theorem within_locate (pieces : List (SegmentKind × List Char)) (place : Nat) :
    ∀ segment ∈ locate place pieces,
      segment.Within place (place + byteSize (pieces.flatMap (·.2))) := by
  induction pieces generalizing place with
  | nil => exact fun _ mem => (List.not_mem_nil mem).elim
  | cons piece rest ih =>
    obtain ⟨kind, cs⟩ := piece
    rw [List.flatMap_cons, Text.byteSize_append, ← Nat.add_assoc]
    refine List.forall_mem_cons.2 ⟨⟨Nat.le_refl _, ?_, Nat.le_add_right _ _⟩, fun segment mem => ?_⟩
    · rw [Text.size, String.toList_ofList]
    · have later := ih (place + byteSize cs) segment mem
      exact ⟨Nat.le_trans (Nat.le_add_right _ _) later.first, later.size, later.last⟩

/-- **Every segment is in its place** within the template. -/
theorem within_segments {source : String} {segment : Segment} (mem : segment ∈ segments source) :
    segment.Within 0 (Text.size source) := by
  have within := within_locate (cut 0 source.toList) 0 segment mem
  rwa [cut_flatten, List.drop_zero, Nat.zero_add] at within

theorem nonempty_locate {pieces : List (SegmentKind × List Char)} (h : ∀ piece ∈ pieces, piece.2 ≠ [])
    (place : Nat) : ∀ segment ∈ locate place pieces, segment.raw.isEmpty = false := by
  induction pieces generalizing place with
  | nil => exact fun _ mem => (List.not_mem_nil mem).elim
  | cons piece rest ih =>
    obtain ⟨own, others⟩ := List.forall_mem_cons.1 h
    refine List.forall_mem_cons.2 ⟨?_, ih others _⟩
    refine Bool.eq_false_iff.2 fun empty => own ?_
    have same : String.ofList piece.2 = "" := String.isEmpty_iff.1 empty
    have chars := congrArg String.toList same
    rwa [String.toList_ofList] at chars

/-- **No segment is empty.** -/
theorem nonempty_segments {source : String} {segment : Segment} (mem : segment ∈ segments source) :
    segment.raw.isEmpty = false := nonempty_locate (cut_nonempty 0 _) 0 segment mem

end Source
end MailMerge
