/-
# Tags are split in one way

A tag is the pattern

    {% blanks (name: word characters) blanks (markup: anything) blanks %}

from one end of its text to the other. Many splits of a text can fit the pattern. The one that
counts is the first when each run of blanks and the name are tried from the longest on and the
markup is tried from the shortest on (`readings`). Read off the text, that split is the one with

| part | what it is |
| --- | --- |
| name | the longest run of word characters behind the first blanks, not empty |
| markup | what follows, without the blanks at its ends |

There is such a split exactly if a word character stands behind the first blanks, and it is the
head of the tag (`TagHead.ofRaw?_exact`). No character is both blank and in a word, neither mark
holds one of either, and so no shorter run has to be tried.
-/

import MailMerge.Proofs.Tree.Spans

namespace MailMerge

open Text (Span byteSize isBlank isWord)

namespace Text

/-! ### The two classes of characters -/

/-- **Classes without a character in common:** no range of one meets a range of the other. -/
def Ranges.apart (first second : Ranges) : Bool :=
  first.all fun one => second.all fun other => one.2 < other.1 || other.2 < one.1

theorem Ranges.has_eq_false {first second : Ranges} (apart : first.apart second = true) {c : Char}
    (h : first.has c = true) : second.has c = false := by
  refine Bool.eq_false_iff.2 fun both => ?_
  obtain ⟨one, inFirst, low, high⟩ := Ranges.has_iff.1 h
  obtain ⟨other, inSecond, low', high'⟩ := Ranges.has_iff.1 both
  have separate := List.all_eq_true.1 (List.all_eq_true.1 apart one inFirst) other inSecond
  simp only [Bool.or_eq_true, decide_eq_true_eq] at separate
  omega

/-- **The word characters are those of the table,** the first 128 too: its first four ranges are all
that hold any of these. -/
theorem isWord_eq_has (c : Char) : isWord c = wordRanges.has c := by
  unfold isWord
  split
  · rename_i low
    have all : ∀ n < 128, isPlainWord (Char.ofNat n) = Ranges.has (wordRanges.take 4) (Char.ofNat n) := by
      decide +kernel
    have plain := all c.toNat low
    have above : (wordRanges.drop 4).all fun range => 128 ≤ range.1 := by decide +kernel
    have none : Ranges.has (wordRanges.drop 4) c = false := Bool.eq_false_iff.2 fun has => by
      obtain ⟨range, mem, least, -⟩ := Ranges.has_iff.1 has
      have high := of_decide_eq_true (List.all_eq_true.1 above range mem)
      omega
    rw [Char.ofNat_toNat] at plain
    rw [plain, ← Bool.or_false (Ranges.has _ c), ← none]
    exact List.any_append.symm.trans (by rw [List.take_append_drop]; rfl)
  · rfl

/-- No word character is blank. -/
theorem isBlank_of_isWord {c : Char} (h : isWord c = true) : isBlank c = false := by
  rw [isWord_eq_has] at h
  exact Ranges.has_eq_false (by decide +kernel) h

end Text

namespace Source

/-! ### The pattern -/

section

variable {α : Type} {p : Char → Bool} {next : List Char → List Char → List α} {run rest cs : List Char}
  {a : α}

/-- **Trying runs of a class,** the longest first: what goes on from each run and what follows it. -/
def tryLongest (p : Char → Bool) (next : List Char → List Char → List α) : List Char → List α
  | [] => next [] []
  | c :: cs =>
    (if p c then tryLongest p (fun run rest => next (c :: run) rest) cs else []) ++ next [] (c :: cs)

/-- **Trying fronts,** the shortest first: what goes on from each front and what follows it. -/
def tryShortest (next : List Char → List Char → List α) : List Char → List α
  | [] => next [] []
  | c :: cs => next [] (c :: cs) ++ tryShortest (fun front rest => next (c :: front) rest) cs

theorem exists_of_mem_tryLongest (mem : a ∈ tryLongest p next cs) :
    ∃ run rest, cs = run ++ rest ∧ (∀ c ∈ run, p c = true) ∧ a ∈ next run rest := by
  induction cs generalizing next with
  | nil => exact ⟨[], [], rfl, fun _ mem => (List.not_mem_nil mem).elim, mem⟩
  | cons c cs ih =>
    rcases List.mem_append.1 mem with mem | mem
    · split at mem
      · rename_i own
        obtain ⟨run, rest, rfl, all, mem⟩ := ih mem
        exact ⟨c :: run, rest, rfl, List.forall_mem_cons.2 ⟨own, all⟩, mem⟩
      · exact (List.not_mem_nil mem).elim
    · exact ⟨[], c :: cs, rfl, fun _ mem => (List.not_mem_nil mem).elim, mem⟩

theorem exists_of_mem_tryShortest (mem : a ∈ tryShortest next cs) :
    ∃ front rest, cs = front ++ rest ∧ a ∈ next front rest := by
  induction cs generalizing next with
  | nil => exact ⟨[], [], rfl, mem⟩
  | cons c cs ih =>
    rcases List.mem_append.1 mem with mem | mem
    · exact ⟨[], c :: cs, rfl, mem⟩
    · obtain ⟨front, rest, whole, inside⟩ := ih mem
      exact ⟨c :: front, rest, congrArg _ whole, inside⟩

/-- **The longest run comes first.** -/
theorem head?_tryLongest (all : ∀ c ∈ run, p c = true) (stops : ∀ c ∈ rest.head?, p c = false)
    (goes : (next run rest).head? = some a) : (tryLongest p next (run ++ rest)).head? = some a := by
  induction run generalizing next with
  | nil =>
    cases rest with
    | nil => exact goes
    | cons c rest =>
      have stop : ¬p c = true := Bool.eq_false_iff.1 (stops c rfl)
      rw [List.nil_append, tryLongest, if_neg stop, List.nil_append, goes]
  | cons c run ih =>
    obtain ⟨own, all⟩ := List.forall_mem_cons.1 all
    have later : (tryLongest p (fun run => next (c :: run)) (run ++ rest)).head? = some a := ih all goes
    rw [List.cons_append, tryLongest, if_pos own, List.head?_append, later, Option.some_or]

/-- **A front comes first if nothing goes on from a shorter one.** -/
theorem head?_tryShortest (goes : (next run rest).head? = some a)
    (fails : ∀ front back, front ++ back = run → back ≠ [] → next front (back ++ rest) = []) :
    (tryShortest next (run ++ rest)).head? = some a := by
  induction run generalizing next with
  | nil =>
    cases rest with
    | nil => exact goes
    | cons c rest =>
      rw [List.nil_append, tryShortest, List.head?_append, goes, Option.some_or]
  | cons c run ih =>
    have none : next [] (c :: (run ++ rest)) = [] := fails [] (c :: run) rfl (List.cons_ne_nil _ _)
    have later : (tryShortest (fun front => next (c :: front)) (run ++ rest)).head? = some a :=
      ih goes fun front back whole nonempty => fails (c :: front) back (congrArg _ whole) nonempty
    rw [List.cons_append, tryShortest, none, List.nil_append, later]

end

/-- **The parts of a tag** between its two marks, in their order. -/
structure TagParts where
  lead : List Char
  name : List Char
  gap : List Char
  markup : List Char
  tail : List Char

/-- The tag with these parts. -/
def TagParts.text (parts : TagParts) : List Char :=
  '\x7b' :: '%' :: (parts.lead ++ (parts.name ++ (parts.gap ++ (parts.markup ++ (parts.tail ++
    ['%', '\x7d'])))))

/-- The head of the tag with these parts. -/
def TagParts.head (parts : TagParts) (span : Span) : TagHead where
  name := String.ofList parts.name
  markup := String.ofList parts.markup
  markupStart := span.start + byteSize ('\x7b' :: '%' :: (parts.lead ++ (parts.name ++ parts.gap)))
  span := span

/-- **The ways to read a text as a tag,** in the order in which they are tried. -/
def readings (raw : List Char) : List TagParts :=
  match raw with
  | '\x7b' :: '%' :: inner =>
    inner |> tryLongest Text.blankRanges.has fun lead rest =>
    rest |> tryLongest Text.wordRanges.has fun name rest =>
    if name.isEmpty then []
    else
      rest |> tryLongest Text.blankRanges.has fun gap rest =>
      rest |> tryShortest fun markup rest =>
      rest |> tryLongest Text.blankRanges.has fun tail rest =>
      if rest = ['%', '\x7d'] then [⟨lead, name, gap, markup, tail⟩] else []
  | _ => []

/-- **A tight split:** the name is as long as it can be, and no blank is at an end of the markup. -/
structure TagParts.Tight (parts : TagParts) : Prop where
  lead : ∀ c ∈ parts.lead, isBlank c = true
  gap : ∀ c ∈ parts.gap, isBlank c = true
  tail : ∀ c ∈ parts.tail, isBlank c = true
  name : ∀ c ∈ parts.name, isWord c = true
  named : parts.name ≠ []
  longest : ∀ c ∈ (parts.gap ++ (parts.markup ++ parts.tail)).head?, isWord c = false
  starts : ∀ c ∈ parts.markup.head?, isBlank c = false
  ends : ∀ c ∈ parts.markup.getLast?, isBlank c = false
  /-- All blanks around an empty markup stand in front of it. -/
  bare : parts.markup = [] → parts.tail = []

/-- **A text that a tag can be read from:** behind the first blanks between the marks stands a
word character. -/
def Tagged (raw : List Char) : Prop :=
  ∃ lead first rest, raw = '\x7b' :: '%' :: (lead ++ first :: rest) ++ ['%', '\x7d'] ∧
    (∀ c ∈ lead, isBlank c = true) ∧ isWord first = true

/-! ### The first reading -/

/-- Only a text that a tag can be read from has readings. -/
theorem tagged_of_mem_readings {raw : List Char} {parts : TagParts} (mem : parts ∈ readings raw) :
    Tagged raw := by
  unfold readings at mem
  split at mem
  · obtain ⟨lead, rest, rfl, blanks, mem⟩ := exists_of_mem_tryLongest mem
    obtain ⟨name, rest, rfl, words, mem⟩ := exists_of_mem_tryLongest mem
    split at mem
    · exact (List.not_mem_nil mem).elim
    · rename_i named
      obtain ⟨gap, rest, rfl, -, mem⟩ := exists_of_mem_tryLongest mem
      obtain ⟨markup, rest, rfl, inside⟩ := exists_of_mem_tryShortest mem
      obtain ⟨tail, rest, rfl, -, mem⟩ := exists_of_mem_tryLongest inside
      split at mem
      · rename_i closed
        obtain rfl := closed
        cases name with
        | nil => exact (named rfl).elim
        | cons first name =>
          refine ⟨lead, first, name ++ (gap ++ (markup ++ tail)), by simp, blanks, ?_⟩
          rw [Text.isWord_eq_has]
          exact words first List.mem_cons_self
      · exact (List.not_mem_nil mem).elim
  · exact (List.not_mem_nil mem).elim

/-- The markup does not end before its last character, which is no blank. -/
theorem no_tail_before {back tail : List Char} (nonempty : back ≠ [])
    (ends : ∀ c ∈ back.getLast?, isBlank c = false) (parts : List Char → TagParts) :
    (back ++ (tail ++ ['%', '\x7d']) |> tryLongest Text.blankRanges.has fun run rest =>
      if rest = ['%', '\x7d'] then [parts run] else []) = [] := by
  refine List.eq_nil_iff_forall_not_mem.2 fun _ mem => ?_
  obtain ⟨run, rest, whole, blanks, mem⟩ := exists_of_mem_tryLongest mem
  split at mem
  · rename_i closed
    rw [closed, ← List.append_assoc, List.append_cancel_right_eq] at whole
    obtain ⟨front, last, rfl⟩ := (List.eq_nil_or_concat' back).resolve_left nonempty
    have solid := ends last (by simp)
    have blank : isBlank last = true := blanks last (by rw [← whole]; simp)
    rw [solid] at blank
    cases blank
  · exact List.not_mem_nil mem

section

variable {parts : TagParts} {c : Char}

/-- No blank follows the first blanks. -/
theorem TagParts.Tight.not_blank_name (tight : parts.Tight) {rest : List Char}
    (mem : c ∈ (parts.name ++ rest).head?) : isBlank c = false := by
  rw [List.head?_append] at mem
  rcases Option.or_eq_some_iff.1 mem with own | ⟨empty, -⟩
  · exact Text.isBlank_of_isWord (tight.name c (List.mem_of_mem_head? own))
  · exact (tight.named (List.head?_eq_none_iff.1 empty)).elim

/-- No word character follows the name. -/
theorem TagParts.Tight.not_word_behind (tight : parts.Tight)
    (mem : c ∈ (parts.gap ++ (parts.markup ++ (parts.tail ++ ['%', '\x7d']))).head?) :
    isWord c = false := by
  rw [← List.append_assoc parts.markup, ← List.append_assoc parts.gap, List.head?_append] at mem
  rcases Option.or_eq_some_iff.1 mem with own | ⟨-, mark⟩
  · exact tight.longest c own
  · obtain rfl := Option.some.inj mark
    decide

/-- No blank follows the blanks behind the name. -/
theorem TagParts.Tight.not_blank_behind (tight : parts.Tight)
    (mem : c ∈ (parts.markup ++ (parts.tail ++ ['%', '\x7d'])).head?) : isBlank c = false := by
  rw [List.head?_append] at mem
  rcases Option.or_eq_some_iff.1 mem with own | ⟨empty, mark⟩
  · exact tight.starts c own
  · rw [tight.bare (List.head?_eq_none_iff.1 empty)] at mark
    obtain rfl := Option.some.inj mark
    decide

/-- **A tight split is the first reading** of its text. -/
theorem head?_readings (tight : parts.Tight) : (readings parts.text).head? = some parts := by
  have word : ∀ c, Text.wordRanges.has c = isWord c := fun c => (Text.isWord_eq_has c).symm
  rw [TagParts.text, readings]
  refine head?_tryLongest tight.lead (fun _ => tight.not_blank_name) ?_
  refine head?_tryLongest (fun c mem => (word c).trans (tight.name c mem))
    (fun c mem => (word c).trans (tight.not_word_behind mem)) ?_
  rw [if_neg (by simpa using tight.named)]
  refine head?_tryLongest tight.gap (fun _ => tight.not_blank_behind) ?_
  refine head?_tryShortest ?_ fun front back whole nonempty => ?_
  · refine head?_tryLongest tight.tail (fun c mem => ?_) ?_
    · obtain rfl := Option.some.inj mem
      decide
    · rw [if_pos rfl]
      rfl
  · refine no_tail_before nonempty (fun c last => tight.ends c ?_) _
    rw [← whole, List.getLast?_append, Option.mem_def.1 last]
    rfl

end

/-- **A text has one tight split.** -/
theorem TagParts.Tight.unique {parts other : TagParts} (tight : parts.Tight) (tight' : other.Tight)
    (same : parts.text = other.text) : parts = other := by
  have first := head?_readings tight
  rw [same, head?_readings tight'] at first
  exact (Option.some.inj first).symm

/-! ### The head of a tag -/

/-- **A text starts with a run,** and what follows does not go on with it. -/
theorem exists_run (p : Char → Bool) (cs : List Char) : ∃ run rest, cs = run ++ rest ∧
    (∀ c ∈ run, p c = true) ∧ (∀ c ∈ rest.head?, p c = false) ∧ cs.takeWhile p = run ∧
    cs.dropWhile p = rest := by
  refine ⟨_, _, List.takeWhile_append_dropWhile.symm, fun _ => List.mem_takeWhile_imp,
    fun c mem => ?_, rfl, rfl⟩
  have head := List.head?_dropWhile_not p cs
  rw [Option.mem_def.1 mem] at head
  simpa using head

/-- **A text that does not start with a blank, trimmed:** its own characters, then blanks, and no
blanks where it is empty. -/
theorem exists_trimmed {cs : List Char} (starts : ∀ c ∈ cs.head?, isBlank c = false) :
    ∃ tail, cs = Text.trimEnd cs ++ tail ∧ (∀ c ∈ tail, isBlank c = true) ∧
      (∀ c ∈ (Text.trimEnd cs).head?, isBlank c = false) ∧
      (∀ c ∈ (Text.trimEnd cs).getLast?, isBlank c = false) ∧ (Text.trimEnd cs = [] → tail = []) := by
  obtain ⟨tail, whole, blanks⟩ := Text.trimEnd_append_blanks cs
  have ends := Text.getLast?_trimEnd cs
  generalize Text.trimEnd cs = trimmed at *
  subst whole
  refine ⟨tail, rfl, blanks, fun c mem => ?_, fun c mem => ?_, fun empty => ?_⟩
  · refine starts c ?_
    rw [List.head?_append, Option.mem_def.1 mem]
    rfl
  · rw [Option.mem_def.1 mem] at ends
    exact ends
  · subst empty
    cases tail with
    | nil => rfl
    | cons c tail =>
      have solid := starts c rfl
      rw [blanks c List.mem_cons_self] at solid
      cases solid

theorem tagInner?_eq (inner : List Char) :
    tagInner? ('\x7b' :: '%' :: (inner ++ ['%', '\x7d'])) = some inner := by
  have back : (inner ++ ['%', '\x7d']).reverse = '\x7d' :: '%' :: inner.reverse := by simp
  rw [tagInner?, back]
  exact congrArg some (List.reverse_reverse inner)

section

variable {raw : String} {span : Span} {head : TagHead}

/-- **The head of a tag is that of a tight split.** -/
theorem TagHead.exists_tight (h : TagHead.ofRaw? raw span = some head) :
    ∃ parts : TagParts, parts.text = raw.toList ∧ parts.Tight ∧ parts.head span = head := by
  unfold TagHead.ofRaw? at h
  split at h
  · cases h
  · rename_i inner found
    obtain ⟨lead, fromName, rfl, blanks, -, -, behindLead⟩ := exists_run isBlank inner
    obtain ⟨name, afterName, rfl, words, stops, taken, behindName⟩ := exists_run isWord fromName
    obtain ⟨gap, rest, rfl, gaps, solid, -, behindGap⟩ := exists_run isBlank afterName
    obtain ⟨tail, whole, tails, starts, ends, bare⟩ := exists_trimmed solid
    simp only [Text.trimStart, behindLead, taken, behindName, behindGap] at h
    split at h
    · cases h
    · rename_i named
      obtain rfl := Option.some.inj h
      generalize Text.trimEnd rest = markup at *
      subst whole
      refine ⟨⟨lead, name, gap, markup, tail⟩, ?_, ⟨blanks, gaps, tails, words, ?_, stops, starts, ends,
        bare⟩, ?_⟩
      · rw [eq_of_tagInner? found]
        simp [TagParts.text]
      · simpa using named
      · have size : byteSize (lead ++ (name ++ (gap ++ (markup ++ tail)))) - byteSize (markup ++ tail) =
            byteSize (lead ++ (name ++ gap)) := by
          simp only [Text.byteSize_append]
          omega
        have marks : byteSize ('\x7b' :: '%' :: (lead ++ (name ++ gap))) =
            2 + byteSize (lead ++ (name ++ gap)) := by
          rw [Text.byteSize_cons, Text.byteSize_cons, ← Nat.add_assoc]
          rfl
        rw [size, TagParts.head, marks, Nat.add_assoc]

/-- A tight split leads to a text that a tag can be read from. -/
theorem TagParts.Tight.tagged {parts : TagParts} (tight : parts.Tight) : Tagged parts.text := by
  obtain ⟨first, name, named⟩ := List.exists_cons_of_ne_nil tight.named
  refine ⟨parts.lead, first, name ++ (parts.gap ++ (parts.markup ++ parts.tail)), ?_, tight.lead,
    tight.name first (named ▸ List.mem_cons_self)⟩
  rw [TagParts.text, named]
  simp

/-- **A text that a tag can be read from is read.** -/
theorem TagHead.isSome_of_tagged (tagged : Tagged raw.toList) : (TagHead.ofRaw? raw span).isSome := by
  obtain ⟨lead, first, rest, whole, blanks, word⟩ := tagged
  have inner : tagInner? raw.toList = some (lead ++ first :: rest) := whole ▸ tagInner?_eq _
  have solid : ¬isBlank first = true := Bool.eq_false_iff.1 (Text.isBlank_of_isWord word)
  have behind : Text.trimStart (lead ++ first :: rest) = first :: rest := by
    rw [Text.trimStart, List.dropWhile_append_of_pos blanks, List.dropWhile_cons_of_neg solid]
  rw [TagHead.ofRaw?, inner]
  dsimp only
  rw [behind, List.takeWhile_cons_of_pos word]
  rfl

/-- The markup of a tight split stands in its text, behind what is in front of it. -/
theorem TagParts.slice_markup {parts : TagParts} (whole : parts.text = raw.toList) (span : Span) :
    Text.slice raw ⟨(parts.head span).markupStart - span.start,
      (parts.head span).markupStart - span.start + Text.size (parts.head span).markup⟩ =
        (parts.head span).markup := by
  have covers : (⟨(parts.head span).markupStart - span.start,
      (parts.head span).markupStart - span.start + Text.size (parts.head span).markup⟩ : Span).CoversFrom
        0 raw.toList parts.markup := by
    have place : (parts.head span).markupStart - span.start =
        byteSize ('\x7b' :: '%' :: (parts.lead ++ (parts.name ++ parts.gap))) :=
      Nat.add_sub_cancel_left _ _
    have size : Text.size (parts.head span).markup = byteSize parts.markup := by
      rw [Text.size, TagParts.head, String.toList_ofList]
    refine ⟨'\x7b' :: '%' :: (parts.lead ++ (parts.name ++ parts.gap)), parts.tail ++ ['%', '\x7d'], ?_,
      ?_, ?_⟩
    · rw [← whole, TagParts.text]
      simp
    · rw [place, Nat.zero_add]
    · rw [place, size, Nat.zero_add]
  exact covers.covers.slice

/-- **Splitting a tag is exact.** A text has a head exactly if a word character stands behind the first
blanks between its marks; the head is that of its one tight split, so its name is the longest run of
word characters there and its markup what follows without the blanks at both ends; the markup is the
slice at its place; and the split is the first reading of the pattern, with the blanks and the word
characters of the tables. -/
theorem TagHead.ofRaw?_exact (raw : String) (span : Span) :
    ((TagHead.ofRaw? raw span).isSome ↔ Tagged raw.toList) ∧
    (∀ head, TagHead.ofRaw? raw span = some head ↔
      ∃ parts : TagParts, parts.text = raw.toList ∧ parts.Tight ∧ parts.head span = head) ∧
    (∀ head ∈ TagHead.ofRaw? raw span,
      Text.slice raw ⟨head.markupStart - span.start,
        head.markupStart - span.start + Text.size head.markup⟩ = head.markup) ∧
    TagHead.ofRaw? raw span = (readings raw.toList).head?.map fun parts => parts.head span := by
  have tagged : ∀ {head}, TagHead.ofRaw? raw span = some head → Tagged raw.toList := fun h => by
    obtain ⟨parts, whole, tight, -⟩ := TagHead.exists_tight h
    exact whole ▸ tight.tagged
  refine ⟨⟨fun some => ?_, TagHead.isSome_of_tagged⟩, fun head => ⟨TagHead.exists_tight, ?_⟩,
    fun head mem => ?_, ?_⟩
  · obtain ⟨head, h⟩ := Option.isSome_iff_exists.1 some
    exact tagged h
  · rintro ⟨parts, whole, tight, rfl⟩
    have some : (TagHead.ofRaw? raw span).isSome := TagHead.isSome_of_tagged (whole ▸ tight.tagged)
    obtain ⟨head, h⟩ := Option.isSome_iff_exists.1 some
    obtain ⟨own, whole', tight', rfl⟩ := TagHead.exists_tight h
    rw [h, tight'.unique tight (whole'.trans whole.symm)]
  · obtain ⟨parts, whole, -, rfl⟩ := TagHead.exists_tight mem
    exact TagParts.slice_markup whole span
  · cases h : TagHead.ofRaw? raw span with
    | none =>
      have nothing : readings raw.toList = [] := List.eq_nil_iff_forall_not_mem.2 fun parts mem => by
        have some : (TagHead.ofRaw? raw span).isSome :=
          TagHead.isSome_of_tagged (tagged_of_mem_readings mem)
        rw [h] at some
        cases some
      rw [nothing]
      rfl
    | some head =>
      obtain ⟨parts, whole, tight, rfl⟩ := TagHead.exists_tight h
      rw [← whole, head?_readings tight]
      rfl

example : TagHead.ofRaw? "{% if 50%  %}" ⟨10, 23⟩ = some ⟨"if", "50%", 16, ⟨10, 23⟩⟩ := by decide

end

end Source
end MailMerge
