/-
# What the reports of a template point at

The span of a fault covers characters of its template, whichever these are: it starts and ends
between characters, also where some of them have more than one byte. It counts them in bytes though,
and a report takes its numbers for numbers of characters. So the report points at the characters
that are covered if each of them and each character before them has one byte, and it does not if one
before them has more. If one of them has more, it also points at characters behind them, which
shows unless these take up no columns (`Document.report_pointsAt`).
-/

import MailMerge.Proofs.Source.Pointing
import MailMerge.Proofs.Tree.Spans

namespace MailMerge

open Text (Span byteSize)

namespace Text

/-- **All characters of the text have one byte.** -/
def SingleBytes (s : String) : Prop := ∀ c ∈ s.toList, c.utf8Size = 1

theorem length_le_byteSize (cs : List Char) : cs.length ≤ byteSize cs := by
  induction cs with
  | nil => exact Nat.le_refl _
  | cons c cs ih =>
    have pos := c.utf8Size_pos
    rw [List.length_cons, byteSize_cons]
    omega

/-- **As many bytes as characters** are those of single bytes. -/
theorem byteSize_eq_length_iff (cs : List Char) :
    byteSize cs = cs.length ↔ ∀ c ∈ cs, c.utf8Size = 1 := by
  induction cs with
  | nil => exact iff_of_true rfl fun _ mem => (List.not_mem_nil mem).elim
  | cons c cs ih =>
    have pos := c.utf8Size_pos
    have least := length_le_byteSize cs
    rw [List.forall_mem_cons, ← ih, byteSize_cons, List.length_cons]
    omega

theorem size_eq_length_iff (s : String) : size s = s.length ↔ SingleBytes s := by
  rw [← String.length_toList]
  exact byteSize_eq_length_iff s.toList

/-- A text with more bytes than a part at its start has more characters too. -/
theorem length_lt_of_size_lt {before rest : String} (h : size before < size (before ++ rest)) :
    before.length < (before ++ rest).length := by
  have solid : rest.length ≠ 0 := by
    intro empty
    rw [String.length_eq_zero_iff.1 empty, String.append_empty] at h
    exact Nat.lt_irrefl _ h
  rw [String.length_append]
  omega

/-- What is covered in a part of a text is covered in the text. -/
theorem Span.Covers.inside {span outer : Span} {source raw : String} {part : List Char}
    (h : outer.Covers source raw) (covers : span.CoversFrom outer.start raw.toList part) :
    span.Covers source (String.ofList part) := by
  obtain ⟨before, after, rfl, starts, -⟩ := h
  have behind : span.CoversFrom (0 + byteSize before.toList) raw.toList part := by
    rw [starts] at covers
    rw [Nat.zero_add]
    exact covers
  refine Span.CoversFrom.covers ?_
  rw [String.toList_append, String.toList_append]
  exact behind.within after.toList

end Text

namespace Tree

open Source (Fault OnOneLine Columnless)
open Text (SingleBytes)

section

variable {vocabulary : Vocabulary} {source : String} {fault : Fault}

/-- **The span of a fault covers some characters of the template,** if it can be reported. -/
theorem Document.covers_ofSource (h : Document.ofSource vocabulary source = .error fault)
    (ordered : fault.span.start ≤ fault.span.stop) : ∃ part, fault.span.Covers source part := by
  obtain ⟨segment, mem, own⟩ := faultOf_ofSource h
  have within := Source.within_segments mem
  obtain ⟨part, covers⟩ := (own.covers within).resolve_right fun breaks =>
    Nat.not_lt.2 ordered (breaks.reversed within).1
  exact ⟨_, (Source.covers_segments mem).inside covers⟩

/-- **A fault starts in front of the end of its segment,** if it can be reported: markup ends in front
of the closing mark. -/
theorem FaultOf.start_lt {segment : Source.Segment} (own : FaultOf segment fault)
    (mem : segment ∈ Source.segments source) (ordered : fault.span.start ≤ fault.span.stop) :
    fault.span.start < segment.span.stop := by
  have within := Source.within_segments mem
  cases own with
  | whole same =>
    rw [same]
    exact Source.span_nonempty mem
  | @output inner kind found refused =>
    obtain ⟨part, covers⟩ := (Markup.covers_readOutput refused).resolve_right fun breaks =>
      Nat.not_lt.2 ordered breaks.reversed.1
    have inside := covers.fits.inside
    have opening : byteSize ['\x7b', '\x7b'] = 2 := rfl
    have closing : byteSize ['\x7d', '\x7d'] = 2 := rfl
    have whole : segment.raw.toList = ['\x7b', '\x7b'] ++ (inner ++ ['\x7d', '\x7d']) :=
      eq_of_outputInner? found
    rw [String.toList_ofList] at inside
    rw [within.size, Text.size, whole, Text.byteSize_append, Text.byteSize_append]
    omega
  | predicate split refused =>
    have tag := Source.TagHead.at_ofRaw? split
    obtain ⟨before, after, whole, solid, start⟩ := tag.inside
    obtain ⟨part, covers⟩ := Markup.covers_readCondition refused tag.trimmed
    have inside := covers.fits.inside
    have marks := Text.length_le_byteSize after
    have some := List.length_pos_of_ne_nil solid
    rw [within.size, Text.size, whole, Text.byteSize_append, Text.byteSize_append]
    omega

/-- What holds of the first characters of a part holds at the places behind what comes before. -/
theorem forall_take_iff {p : Char → Prop} (front : List Char) {back : List Char} {count : Nat}
    (there : count ≤ back.length) : (∀ c ∈ back.take count, p c) ↔
      ∀ place, front.length ≤ place → place < front.length + count →
        ∃ c, (front ++ back)[place]? = some c ∧ p c := by
  constructor
  · intro each place low high
    obtain ⟨i, rfl⟩ := Nat.exists_eq_add_of_le low
    have bound := Nat.lt_of_add_lt_add_left high
    have inside := Nat.lt_of_lt_of_le bound there
    have mem : back[i] ∈ back.take count :=
      List.mem_take_iff_getElem.2 ⟨i, Nat.lt_min.2 ⟨bound, inside⟩, rfl⟩
    refine ⟨back[i], ?_, each _ mem⟩
    rw [List.getElem?_append_right low, Nat.add_sub_cancel_left, List.getElem?_eq_getElem inside]
  · intro each c mem
    obtain ⟨i, bound, rfl⟩ := List.mem_take_iff_getElem.1 mem
    obtain ⟨found, there, holds⟩ := each (front.length + i) (Nat.le_add_right _ _) (by omega)
    rw [List.getElem?_append_right (Nat.le_add_right _ _), Nat.add_sub_cancel_left,
      List.getElem?_eq_getElem (Nat.lt_min.1 bound).2] at there
    exact Option.some.inj there ▸ holds

/-- Characters on one line that begin with a part: those behind the part are the first ones after it. -/
theorem forall_behind_iff {p : Char → Prop} {before part after : String} {count : Nat}
    (least : part.length ≤ count)
    (one : OnOneLine (before ++ (part ++ after)).toList before.length count) :
    (∀ place, before.length + part.length ≤ place → place < before.length + count →
        ∃ c, (before ++ (part ++ after)).toList[place]? = some c ∧ p c) ↔
      ∀ c ∈ after.toList.take (count - part.length), p c := by
  have chars : (before ++ (part ++ after)).toList = (before.toList ++ part.toList) ++ after.toList := by
    rw [String.toList_append, String.toList_append, List.append_assoc]
  have front : (before.toList ++ part.toList).length = before.length + part.length := by
    rw [List.length_append, String.length_toList, String.length_toList]
  have behind : count - part.length ≤ after.toList.length := by
    rcases Nat.eq_zero_or_pos count with none | some
    · omega
    · have last := (one (before.length + count - 1) (by omega) (by omega)).1
      rw [chars, List.length_append, front] at last
      omega
  rw [forall_take_iff (before.toList ++ part.toList) behind, front, chars, Nat.add_assoc,
    Nat.add_sub_cancel' least]

/-- A span that can be reported starts at a character of the template, if those before it have
single bytes. -/
theorem Document.length_lt_of_ofSource {before rest : String}
    (h : Document.ofSource vocabulary source = .error fault)
    (ordered : fault.span.start ≤ fault.span.stop) (whole : source = before ++ rest)
    (start : fault.span.start = Text.size before) : before.length < source.toList.length := by
  obtain ⟨segment, mem, own⟩ := faultOf_ofSource h
  have low := own.start_lt mem ordered
  have stop := (Source.within_segments mem).last
  rw [start] at low
  rw [String.length_toList]
  rw [whole] at stop ⊢
  exact Text.length_lt_of_size_lt (Nat.lt_of_lt_of_le low stop)

/-- **When a report points at the characters that are covered.** -/
theorem Document.pointsAt_iff_of_covered {report file before part after : String}
    (h : Document.ofSource vocabulary source = .error fault)
    (text : fault.report? source file = some report) (whole : source = before ++ (part ++ after))
    (span : fault.span = ⟨Text.size before, Text.size before + Text.size part⟩) :
    fault.PointsAt source file before.length part.length report ↔
      SingleBytes before ∧ OnOneLine source.toList before.length (Text.size part) ∧
        ∀ c ∈ after.toList.take (Text.size part - part.length), Columnless c := by
  have least : ∀ s : String, s.length ≤ Text.size s := fun s =>
    String.length_toList (s := s) ▸ Text.length_le_byteSize s.toList
  have start : fault.span.start = Text.size before := congrArg Span.start span
  have length : fault.span.stop - fault.span.start = Text.size part := by
    rw [span]
    exact Nat.add_sub_cancel_left ..
  have exactly : SingleBytes before → (fault.PointsAt source file before.length part.length report ↔
      OnOneLine source.toList before.length (Text.size part) ∧
        ∀ c ∈ after.toList.take (Text.size part - part.length), Columnless c) := by
    intro first
    have same : fault.span.start = before.length :=
      start.trans ((Text.size_eq_length_iff before).2 first)
    have here := length_lt_of_ofSource h (Fault.ordered_of_report? text) whole start
    have empty : part.length = 0 → fault.span.stop - fault.span.start = 0 := by
      intro none
      rw [length, String.length_eq_zero_iff.1 none]
      rfl
    rw [← same] at here ⊢
    rw [Fault.pointsAt_iff text here (length ▸ least part) empty, length, same, whole]
    exact and_congr_right (forall_behind_iff (least part))
  constructor
  · intro points
    have reached := Fault.start_of_pointsAt text points (start ▸ least before)
    have first := (Text.size_eq_length_iff before).1 (start ▸ reached)
    exact ⟨first, (exactly first).1 points⟩
  · rintro ⟨first, covered⟩
    exact (exactly first).2 covered

/-- **What the report of a fault points at.** Its span covers some characters of the template. The
report points at the characters with the numbers of the span, if these are on one line. So it points
at those that are covered, if they are on one line and if they and all characters before them have
single bytes. In general it points at them exactly if all characters before them have single bytes,
the line goes on for as many characters as they have bytes, and those of these that come behind them
take up no columns. -/
theorem Document.report_pointsAt (h : Document.ofSource vocabulary source = .error fault)
    (ordered : fault.span.start ≤ fault.span.stop) (file : String) :
    (∃ part, fault.span.Covers source part) ∧
      ∃ report, fault.report? source file = some report ∧
        (fault.span.start < source.toList.length →
          OnOneLine source.toList fault.span.start (fault.span.stop - fault.span.start) →
            fault.PointsAt source file fault.span.start (fault.span.stop - fault.span.start) report) ∧
        ∀ before part after, source = before ++ (part ++ after) →
          fault.span = ⟨Text.size before, Text.size before + Text.size part⟩ →
            (OnOneLine source.toList before.length part.length → SingleBytes before → SingleBytes part →
              fault.PointsAt source file before.length part.length report) ∧
            (fault.PointsAt source file before.length part.length report ↔
              SingleBytes before ∧ OnOneLine source.toList before.length (Text.size part) ∧
                ∀ c ∈ after.toList.take (Text.size part - part.length), Columnless c) := by
  refine ⟨covers_ofSource h ordered, ?_⟩
  cases text : fault.report? source file with
  | none => exact absurd ((Fault.report?_eq_none_iff fault source file).1 text) (Nat.not_lt.2 ordered)
  | some report =>
    refine ⟨report, rfl, fun here one => ?_, fun before part after whole span => ?_⟩
    · obtain ⟨report', text', points⟩ := Fault.pointsAt_report? ordered here one file
      obtain rfl := Option.some.inj (text.symm.trans text')
      exact points
    · have points := pointsAt_iff_of_covered h text whole span
      refine ⟨fun one first others => points.2 ⟨first, ?_, ?_⟩, points⟩
      · rw [(Text.size_eq_length_iff part).2 others]
        exact one
      · rw [(Text.size_eq_length_iff part).2 others, Nat.sub_self]
        exact fun c mem => (List.not_mem_nil mem).elim

/-- Whether a template is refused can be evaluated without its document. -/
theorem Document.ofSource_eq_error
    (evaluated : (Document.ofSource vocabulary source).map (fun _ => ()) = .error fault) :
    Document.ofSource vocabulary source = .error fault := by
  generalize Document.ofSource vocabulary source = result at evaluated ⊢
  match result with
  | .error _ => exact congrArg _ (Except.error.inj evaluated)
  | .ok _ => cases evaluated

end

/-- A character of two bytes in front of a tag moves what the report points at by one character. One
in the tag adds the character behind the tag, which shows unless that takes up no columns. -/
theorem Document.report_pointsAt_accent :
    Document.ofSource .standard "e\x7b% nope %\x7d x" = .error (.unknownTag "nope" ⟨1, 11⟩) ∧
      (∃ report, (Fault.unknownTag "nope" ⟨1, 11⟩).report? "e\x7b% nope %\x7d x" "<stdin>" = some report ∧
        (Fault.unknownTag "nope" ⟨1, 11⟩).PointsAt "e\x7b% nope %\x7d x" "<stdin>" 1 10 report) ∧
      Document.ofSource .standard "é\x7b% nope %\x7d x" = .error (.unknownTag "nope" ⟨2, 12⟩) ∧
      (∃ report, (Fault.unknownTag "nope" ⟨2, 12⟩).report? "é\x7b% nope %\x7d x" "<stdin>" = some report ∧
        (Fault.unknownTag "nope" ⟨2, 12⟩).PointsAt "é\x7b% nope %\x7d x" "<stdin>" 2 10 report ∧
        ¬(Fault.unknownTag "nope" ⟨2, 12⟩).PointsAt "é\x7b% nope %\x7d x" "<stdin>" 1 10 report) ∧
      Document.ofSource .standard "\x7b% é %\x7d x" = .error (.unknownTag "é" ⟨0, 8⟩) ∧
      (∃ report, (Fault.unknownTag "é" ⟨0, 8⟩).report? "\x7b% é %\x7d x" "<stdin>" = some report ∧
        (Fault.unknownTag "é" ⟨0, 8⟩).PointsAt "\x7b% é %\x7d x" "<stdin>" 0 8 report ∧
        ¬(Fault.unknownTag "é" ⟨0, 8⟩).PointsAt "\x7b% é %\x7d x" "<stdin>" 0 7 report) ∧
      Document.ofSource .standard "\x7b% é %\x7d\u0301" = .error (.unknownTag "é" ⟨0, 8⟩) ∧
      ∃ report, (Fault.unknownTag "é" ⟨0, 8⟩).report? "\x7b% é %\x7d\u0301" "<stdin>" = some report ∧
        (Fault.unknownTag "é" ⟨0, 8⟩).PointsAt "\x7b% é %\x7d\u0301" "<stdin>" 0 7 report := by
  have plain : Document.ofSource .standard "e\x7b% nope %\x7d x" = .error (.unknownTag "nope" ⟨1, 11⟩) :=
    Document.ofSource_eq_error (by decide +kernel)
  have shifted : Document.ofSource .standard "é\x7b% nope %\x7d x" =
      .error (.unknownTag "nope" ⟨2, 12⟩) := Document.ofSource_eq_error (by decide +kernel)
  have widened : Document.ofSource .standard "\x7b% é %\x7d x" = .error (.unknownTag "é" ⟨0, 8⟩) :=
    Document.ofSource_eq_error (by decide +kernel)
  have joined : Document.ofSource .standard "\x7b% é %\x7d\u0301" = .error (.unknownTag "é" ⟨0, 8⟩) :=
    Document.ofSource_eq_error (by decide +kernel)
  have single : ∀ {s : String}, Text.size s = s.length → SingleBytes s := (Text.size_eq_length_iff _).1
  refine ⟨plain, ?_, shifted, ?_, widened, ?_, joined, ?_⟩
  · obtain ⟨-, report, text, -, exactly⟩ := Document.report_pointsAt plain (by decide) "<stdin>"
    have one : OnOneLine "e\x7b% nope %\x7d x".toList 1 10 := .of_single rfl (by decide)
    exact ⟨report, text, (exactly "e" "\x7b% nope %\x7d" " x" rfl rfl).1 one (single rfl) (single rfl)⟩
  · obtain ⟨-, report, text, numbered, exactly⟩ := Document.report_pointsAt shifted (by decide) "<stdin>"
    have one : OnOneLine "é\x7b% nope %\x7d x".toList 2 10 := .of_single rfl (by decide)
    refine ⟨report, text, numbered (by decide) one, fun points => ?_⟩
    have wide := ((exactly "é" "\x7b% nope %\x7d" " x" rfl rfl).2.1 points).1 'é' List.mem_cons_self
    exact absurd wide (by decide)
  · obtain ⟨-, report, text, numbered, exactly⟩ := Document.report_pointsAt widened (by decide) "<stdin>"
    have one : OnOneLine "\x7b% é %\x7d x".toList 0 8 := .of_single rfl (by decide)
    refine ⟨report, text, numbered (by decide) one, fun points => ?_⟩
    have solid := ((exactly "" "\x7b% é %\x7d" " x" rfl rfl).2.1 points).2.2 ' ' List.mem_cons_self
    exact absurd solid.1 (by decide)
  · obtain ⟨-, report, text, -, exactly⟩ := Document.report_pointsAt joined (by decide) "<stdin>"
    have one : OnOneLine "\x7b% é %\x7d\u0301".toList 0 8 := .of_single rfl (by decide)
    refine ⟨report, text, (exactly "" "\x7b% é %\x7d" "\u0301" rfl rfl).2.2 ⟨single rfl, one, ?_⟩⟩
    intro c mem
    obtain rfl := List.mem_singleton.1 mem
    exact ⟨by decide, by decide⟩

end Tree
end MailMerge
