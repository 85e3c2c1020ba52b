/-
# Lexemes in their places

The lexemes of a markup lie in it one after the other with only gaps around them, and
the last character of a lexeme is never a gap. So the last lexeme ends before the markup
does exactly when the markup ends in a gap. A span that is refused lies in the markup too.
-/

import MailMerge.Markup.Reading
import Mathlib.Data.List.Basic
import Mathlib.Data.List.TakeWhile

namespace MailMerge

open Text (Span byteSize)

namespace Text

/-- **A span that fits** into a text of `size` bytes: it ends in the text, and not before it
starts. -/
structure Span.Fits (span : Span) (size : Nat) : Prop where
  ordered : span.start ≤ span.stop
  inside : span.stop ≤ size

/-- **A span that covers some characters** of a text whose first character stands at `place`. -/
def Span.CoversFrom (span : Span) (place : Nat) (cs part : List Char) : Prop :=
  ∃ before after, cs = before ++ (part ++ after) ∧ span.start = place + byteSize before ∧
    span.stop = place + byteSize before + byteSize part

section

variable {span : Span} {place : Nat} {cs part : List Char}

theorem Span.CoversFrom.fits (h : span.CoversFrom place cs part) : span.Fits (place + byteSize cs) := by
  obtain ⟨before, after, rfl, starts, stops⟩ := h
  rw [byteSize_append, byteSize_append, ← Nat.add_assoc, ← Nat.add_assoc]
  exact ⟨by rw [starts, stops]; exact Nat.le_add_right _ _, stops ▸ Nat.le_add_right _ _⟩

theorem Span.CoversFrom.shift (h : span.CoversFrom place cs part) (offset : Nat) :
    (span.shift offset).CoversFrom (offset + place) cs part := by
  obtain ⟨before, after, whole, starts, stops⟩ := h
  refine ⟨before, after, whole, ?_, ?_⟩
  · rw [Nat.add_assoc, ← starts]
    rfl
  · rw [Nat.add_assoc, Nat.add_assoc, ← Nat.add_assoc place, ← stops]
    rfl

/-- What is covered in a part of a text is covered in the text. -/
theorem Span.CoversFrom.within {before : List Char}
    (h : span.CoversFrom (place + byteSize before) cs part) (after : List Char) :
    span.CoversFrom place (before ++ (cs ++ after)) part := by
  obtain ⟨front, back, rfl, starts, stops⟩ := h
  refine ⟨before ++ front, back ++ after, by simp only [List.append_assoc], ?_, ?_⟩
  · rw [starts, byteSize_append, Nat.add_assoc]
  · rw [stops, byteSize_append, Nat.add_assoc place]

end

end Text

namespace Markup

/-! ### One lexeme -/

theorem isGap_iff {c : Char} : isGap c = true ↔ c = ' ' ∨ c = '\t' ∨ c = '\r' ∨ c = '\n' := by
  simp [isGap, or_assoc]

theorem isGap_of_isDigit {c : Char} (h : Decimal.isDigit c = true) : isGap c = false := by
  refine Bool.eq_false_iff.2 fun gap => ?_
  rcases isGap_iff.1 gap with rfl | rfl | rfl | rfl <;> revert h <;> decide

theorem isGap_of_isNameChar {c : Char} (h : isNameChar c = true) : isGap c = false := by
  refine Bool.eq_false_iff.2 fun gap => ?_
  rcases isGap_iff.1 gap with rfl | rfl | rfl | rfl <;> revert h <;> decide

/-- **A lexeme that stands at the start of a text:** its characters are there, at least one,
and the last of them is no gap. -/
def Scanned.Stands (cs : List Char) : Scanned → Prop
  | .lexeme _ length =>
    ∃ front last rest, cs = front ++ last :: rest ∧ length = front.length + 1 ∧ isGap last = false
  | .refused _ => True

theorem Scanned.stands_single {lexeme : Lexeme} {c : Char} {cs : List Char} (h : isGap c = false) :
    Stands (c :: cs) (.lexeme lexeme 1) := ⟨[], c, cs, rfl, rfl, h⟩

theorem Scanned.stands_pair {lexeme : Lexeme} {c d : Char} {cs : List Char} (h : isGap d = false) :
    Stands (c :: d :: cs) (.lexeme lexeme 2) := ⟨[c], d, cs, rfl, rfl, h⟩

/-- Characters that are no gaps, after others, stand as a lexeme. -/
theorem Scanned.stands_run (lexeme : Lexeme) (before rest : List Char) {run : List Char}
    (nonempty : run ≠ []) (solid : ∀ c ∈ run, isGap c = false) :
    Stands (before ++ (run ++ rest)) (.lexeme lexeme (before.length + run.length)) := by
  obtain ⟨front, last, rfl⟩ := (List.eq_nil_or_concat' run).resolve_left nonempty
  refine ⟨before ++ front, last, rest, by simp, by simp [Nat.add_assoc], solid last (by simp)⟩

theorem stands_scanWord {c : Char} (start : isNameStart c = true) (cs : List Char) :
    (scanWord c cs).Stands (c :: cs) := by
  have solid : ∀ d ∈ c :: cs.takeWhile isNameChar, isGap d = false := by
    refine List.forall_mem_cons.2 ⟨isGap_of_isNameChar ?_, fun d mem => ?_⟩
    · rw [isNameChar, start, Bool.true_or, Bool.true_or]
    · exact isGap_of_isNameChar (List.mem_takeWhile_imp mem)
  have whole : c :: cs = c :: cs.takeWhile isNameChar ++ cs.dropWhile isNameChar := by
    rw [List.cons_append, List.takeWhile_append_dropWhile]
  unfold scanWord
  dsimp only
  split
  · rename_i after question
    refine ⟨c :: cs.takeWhile isNameChar, '?', after, ?_, rfl, by decide⟩
    rw [← question, ← whole]
  · have stands := Scanned.stands_run (ofWord (String.ofList (c :: cs.takeWhile isNameChar))) []
      (cs.dropWhile isNameChar) (List.cons_ne_nil _ _) solid
    rw [List.nil_append, ← whole, List.length_nil, Nat.zero_add] at stands
    exact stands

theorem stands_scanText {quote : Char} (solid : isGap quote = false) (cs : List Char) :
    (scanText quote cs).Stands (quote :: cs) := by
  unfold scanText
  dsimp only
  split
  · rename_i closed
    have whole := List.takeWhile_append_dropWhile (p := (· != quote)) (l := cs)
    cases rest : cs.dropWhile (· != quote) with
    | nil =>
      have length := congrArg List.length whole
      rw [rest, List.append_nil] at length
      exact absurd length (Nat.ne_of_lt closed)
    | cons d after =>
      have closing : d = quote := by
        have head := List.head?_dropWhile_not (· != quote) cs
        rw [rest] at head
        simpa using head
      refine ⟨quote :: cs.takeWhile (· != quote), quote, after, ?_, rfl, solid⟩
      rw [List.cons_append, ← closing, ← rest]
      exact congrArg _ (closing ▸ whole.symm)
  · trivial

theorem isGap_of_mem_digits {cs : List Char} : ∀ c ∈ cs.takeWhile Decimal.isDigit, isGap c = false :=
  fun _ mem => isGap_of_isDigit (List.mem_takeWhile_imp mem)

/-- A number without a point is one run of digits. -/
theorem stands_whole (negative : Bool) (sign : List Char) (signed : sign.length = negative.toNat)
    {cs : List Char} (digits : cs.takeWhile Decimal.isDigit ≠ []) :
    (match Decimal.word? (Decimal.signed negative (cs.takeWhile Decimal.isDigit)) with
      | some n => Scanned.lexeme (.int n) ((cs.takeWhile Decimal.isDigit).length + negative.toNat)
      | none => .refused ((cs.takeWhile Decimal.isDigit).length + negative.toNat)).Stands (sign ++ cs) := by
  split
  · rename_i n _
    have stands := Scanned.stands_run (.int n) sign (cs.dropWhile Decimal.isDigit) digits isGap_of_mem_digits
    rwa [List.takeWhile_append_dropWhile, signed, Nat.add_comm] at stands
  · trivial

theorem stands_scanNumber (negative : Bool) (sign : List Char) (signed : sign.length = negative.toNat)
    {cs : List Char} (digits : cs.takeWhile Decimal.isDigit ≠ []) :
    (scanNumber negative cs).Stands (sign ++ cs) := by
  have whole := List.takeWhile_append_dropWhile (p := Decimal.isDigit) (l := cs)
  unfold scanNumber
  dsimp only
  split
  · rename_i rest point
    split
    · exact stands_whole negative sign signed digits
    · rename_i fraction
      have nonempty : rest.takeWhile Decimal.isDigit ≠ [] := fun empty => fraction (by rw [empty]; rfl)
      have stands := fun lexeme => Scanned.stands_run lexeme (sign ++ cs.takeWhile Decimal.isDigit ++ ['.'])
        (rest.dropWhile Decimal.isDigit) nonempty isGap_of_mem_digits
      rw [List.takeWhile_append_dropWhile, List.append_assoc, List.append_assoc, List.singleton_append,
        ← point, whole, List.length_append, List.length_append, signed] at stands
      rw [Nat.add_comm (List.length _) negative.toNat]
      exact stands _
  · exact stands_whole negative sign signed digits

/-- **A lexeme stands where it is found.** -/
theorem stands_scan {c : Char} (solid : isGap c = false) (cs : List Char) :
    (scan c cs).Stands (c :: cs) := by
  unfold scan
  split
  · rename_i start
    exact stands_scanWord start cs
  · split
    · rename_i digit
      refine stands_scanNumber false [] rfl ?_
      rw [List.takeWhile_cons_of_pos digit]
      exact List.cons_ne_nil _ _
    · split
      · split
        · rename_i d rest digit
          refine stands_scanNumber true ['-'] rfl ?_
          rw [List.takeWhile_cons_of_pos digit]
          exact List.cons_ne_nil _ _
        · trivial
      · exact stands_scanText solid cs
      · exact stands_scanText solid cs
      iterate 5 exact Scanned.stands_pair rfl
      iterate 8 exact Scanned.stands_single solid
      · trivial

/-! ### All lexemes -/

/-- **Lexemes that lie in a text** which starts at `place`: one after the other, with gaps
before each and after the last, and none of them ends with a gap. -/
inductive Laid : Nat → List Char → List Placed → Prop
  | nil {place : Nat} {gaps : List Char} (blank : ∀ c ∈ gaps, isGap c = true) : Laid place gaps []
  | cons {place : Nat} {gaps front : List Char} {last : Char} {rest : List Char} (lexeme : Lexeme)
      {placed : List Placed} (blank : ∀ c ∈ gaps, isGap c = true) (solid : isGap last = false)
      (later : Laid (place + byteSize gaps + byteSize (front ++ [last])) rest placed) :
      Laid place (gaps ++ (front ++ last :: rest))
        (⟨lexeme, place + byteSize gaps, place + byteSize gaps + byteSize (front ++ [last])⟩ :: placed)

/-- A gap may stand before lexemes. -/
theorem Laid.gap {place : Nat} {c : Char} {cs : List Char} {placed : List Placed}
    (gap : isGap c = true) (h : Laid (place + c.utf8Size) cs placed) : Laid place (c :: cs) placed := by
  cases h with
  | nil blank => exact .nil (List.forall_mem_cons.2 ⟨gap, blank⟩)
  | cons lexeme blank solid later =>
    rename_i gaps front last rest placed
    have place : place + c.utf8Size + byteSize gaps = place + byteSize (c :: gaps) := Nat.add_assoc _ _ _
    rw [place] at later ⊢
    exact .cons lexeme (List.forall_mem_cons.2 ⟨gap, blank⟩) solid later

/-- **The lexemes of a text lie in it.** -/
theorem laid_lexFrom {place skip : Nat} {cs : List Char} {placed : List Placed}
    (h : lexFrom place skip cs = .ok placed) :
    Laid (place + byteSize (cs.take skip)) (cs.drop skip) placed := by
  induction cs generalizing place skip placed with
  | nil =>
    obtain rfl := Except.ok.inj h
    rw [List.drop_nil]
    exact .nil fun _ mem => (List.not_mem_nil mem).elim
  | cons c cs ih =>
    cases skip with
    | succ skip =>
      have later := ih h
      rwa [Nat.add_assoc] at later
    | zero =>
      simp only [lexFrom] at h
      split at h
      · rename_i gap
        have later := ih h
        exact .gap gap later
      · rename_i solid
        split at h
        · cases h
        · rename_i lexeme length scanned
          split at h
          · cases h
          · rename_i rest found
            obtain rfl := Except.ok.inj h
            have stands := stands_scan (Bool.eq_false_iff.2 solid) cs
            rw [scanned] at stands
            obtain ⟨front, last, after, whole, rfl, ending⟩ := stands
            have taken : (c :: cs).take (front.length + 1) = front ++ [last] := by
              rw [whole, List.append_cons, List.take_left' (by simp)]
            have left : (c :: cs).drop (front.length + 1) = after := by
              rw [whole, List.append_cons, List.drop_left' (by simp)]
            have later := ih found
            rw [Nat.add_sub_cancel, Nat.add_assoc, ← Text.byteSize_cons, ← List.take_succ_cons, taken,
              ← List.drop_succ_cons, left] at later
            rw [taken, List.take_zero, List.drop_zero, whole]
            exact .cons lexeme (fun _ mem => (List.not_mem_nil mem).elim) ending later

/-- The span of each lexeme covers some characters of the text. -/
theorem Laid.covers {place : Nat} {cs : List Char} {placed : List Placed} (h : Laid place cs placed) :
    ∀ one ∈ placed, ∃ part, one.span.CoversFrom place cs part := by
  induction h with
  | nil => exact fun _ mem => (List.not_mem_nil mem).elim
  | cons lexeme blank solid later ih =>
    rename_i place gaps front last rest placed
    have whole : gaps ++ (front ++ last :: rest) = gaps ++ ((front ++ [last]) ++ rest) := by
      rw [List.append_cons front last rest]
    rw [whole]
    refine List.forall_mem_cons.2 ⟨⟨front ++ [last], gaps, rest, rfl, rfl, rfl⟩, fun one mem => ?_⟩
    obtain ⟨part, covers⟩ := ih one mem
    rw [Nat.add_assoc, ← Text.byteSize_append] at covers
    have inside := covers.within []
    rw [List.append_nil, List.append_assoc] at inside
    exact ⟨part, inside⟩

/-- **Where the last lexeme ends:** at the last character that is no gap. -/
theorem Laid.lastStop {place : Nat} {cs : List Char} {placed : List Placed} (h : Laid place cs placed)
    (nonempty : placed ≠ []) : ∃ front last gaps, cs = front ++ last :: gaps ∧
      isGap last = false ∧ (∀ c ∈ gaps, isGap c = true) ∧
      ∀ other, lastStop placed other = place + byteSize (front ++ [last]) := by
  induction h with
  | nil => exact (nonempty rfl).elim
  | cons lexeme blank solid later ih =>
    rename_i place gaps front last rest placed
    cases later with
    | nil trailing =>
      refine ⟨gaps ++ front, last, rest, by rw [List.append_assoc], solid, trailing, fun other => ?_⟩
      rw [List.append_assoc, Text.byteSize_append gaps, ← Nat.add_assoc]
      rfl
    | cons next nextBlank nextSolid further =>
      obtain ⟨inner, final, trailing, same, ending, gap, stop⟩ := ih (List.cons_ne_nil _ _)
      refine ⟨gaps ++ (front ++ [last]) ++ inner, final, trailing, ?_, ending, gap, fun other => ?_⟩
      · rw [same, List.append_cons front last]
        simp only [List.append_assoc]
      · refine (stop other).trans ?_
        simp only [List.append_assoc, Text.byteSize_append, Nat.add_assoc]

/-- A span that is refused covers some characters of the text. -/
theorem covers_of_refused {place skip : Nat} {cs : List Char} {span : Span}
    (h : lexFrom place skip cs = .error span) : ∃ part, span.CoversFrom place cs part := by
  induction cs generalizing place skip with
  | nil => cases h
  | cons c cs ih =>
    have later : ∀ {skip}, lexFrom (place + c.utf8Size) skip cs = .error span →
        ∃ part, span.CoversFrom place (c :: cs) part := fun refused => by
      obtain ⟨part, covers⟩ := ih refused
      have behind : span.CoversFrom (place + byteSize [c]) cs part := covers
      have inside := behind.within []
      rw [List.append_nil] at inside
      exact ⟨part, inside⟩
    cases skip with
    | succ skip => exact later h
    | zero =>
      simp only [lexFrom] at h
      split at h
      · exact later h
      · split at h
        · rename_i length _
          obtain rfl := Except.error.inj h
          exact ⟨_, [], (c :: cs).drop length, (List.take_append_drop length _).symm, rfl, rfl⟩
        · split at h
          · rename_i refused
            obtain rfl := Except.error.inj h
            exact later refused
          · cases h

/-- The text ends in a gap. -/
def endsInGap (cs : List Char) : Bool := cs.getLast?.any isGap

/-- **The last lexeme ends with the markup,** or before it where a gap follows. -/
theorem lastStop_lex {markup : String} {lexemes : List Placed} (h : lex markup = .ok lexemes) :
    lastStop lexemes (Text.size markup) ≤ Text.size markup ∧
      (lastStop lexemes (Text.size markup) < Text.size markup ↔
        lexemes ≠ [] ∧ endsInGap markup.toList = true) := by
  have laid := laid_lexFrom h
  rw [List.take_zero, List.drop_zero] at laid
  by_cases nonempty : lexemes = []
  · subst nonempty
    exact ⟨Nat.le_refl _, iff_of_false (Nat.lt_irrefl _) fun both => both.1 rfl⟩
  · obtain ⟨front, last, gaps, whole, solid, blank, stop⟩ := laid.lastStop nonempty
    have size : Text.size markup = byteSize (front ++ [last]) + byteSize gaps := by
      rw [Text.size, whole, List.append_cons, Text.byteSize_append _ gaps]
    rw [stop, size, Text.byteSize_nil, Nat.add_zero, Nat.zero_add, whole]
    refine ⟨Nat.le_add_right _ _, ?_⟩
    rcases List.eq_nil_or_concat' gaps with rfl | ⟨gaps, final, rfl⟩
    · refine iff_of_false (Nat.lt_irrefl _) fun both => ?_
      have gap := both.2
      rw [endsInGap, List.getLast?_concat, Option.any_some, solid] at gap
      cases gap
    · have gap := blank final (by simp)
      refine iff_of_true (Nat.lt_add_of_pos_right ?_) ⟨nonempty, ?_⟩
      · rw [Text.byteSize_append]
        exact Nat.lt_of_lt_of_le (Nat.add_pos_left final.utf8Size_pos _) (Nat.le_add_left _ _)
      · rw [endsInGap, ← List.cons_append, ← List.append_assoc, List.getLast?_concat]
        exact gap

/-! ### Faults of markup -/

section

variable {σ α : Type} {machine : Machine σ α} {markup : String} {offset : Nat} {fault : Source.Fault}

/-- **Markup that breaks off:** a machine wants more at its end, and a gap stands there after
the last lexeme. The span of the fault starts at the end of the markup and stops at the end
of the lexeme, which comes before it. -/
inductive Machine.BreaksOff (machine : Machine σ α) (markup : String) (offset : Nat) :
    Source.Fault → Prop
  | intro {lexemes : List Placed} {stuck : Stuck} (lexed : lex markup = .ok lexemes)
      (nonempty : lexemes ≠ []) (gap : endsInGap markup.toList = true)
      (wants : machine.run machine.start lexemes = .error stuck) (atEnd : stuck.found = none) :
      machine.BreaksOff markup offset (stuck.fault lexemes (Text.size markup) offset)

/-- The span of markup that breaks off ends before it starts. -/
theorem Machine.BreaksOff.reversed (h : machine.BreaksOff markup offset fault) :
    fault.span.stop < fault.span.start ∧ fault.span.start ≤ offset + Text.size markup := by
  cases h with
  | intro lexed nonempty gap wants atEnd =>
    rename_i lexemes stuck
    have before := (lastStop_lex lexed).2.2 ⟨nonempty, gap⟩
    rw [Stuck.fault, atEnd]
    exact ⟨Nat.add_lt_add_left before _, Nat.le_refl _⟩

/-- What a machine finds where it is stuck is one of the lexemes. -/
theorem Machine.found_mem {state : σ} {lexemes : List Placed} {stuck : Stuck}
    (h : machine.run state lexemes = .error stuck) {placed : Placed} (found : stuck.found = some placed) :
    placed ∈ lexemes := by
  induction lexemes generalizing state with
  | nil =>
    rw [run] at h
    split at h
    · cases h
    · obtain rfl := Except.error.inj h
      cases found
  | cons lexeme rest ih =>
    rw [run] at h
    split at h
    · exact List.mem_cons_of_mem _ (ih h)
    · obtain rfl := Except.error.inj h
      obtain rfl := Option.some.inj found
      exact List.mem_cons_self

/-- **A fault of markup covers some of its characters,** unless the markup breaks off. -/
theorem Machine.covers_read (h : machine.read markup offset = .error fault) :
    (∃ part, fault.span.CoversFrom offset markup.toList part) ∨
      machine.BreaksOff markup offset fault := by
  rw [read] at h
  split at h
  · rename_i span refused
    obtain rfl := Except.error.inj h
    obtain ⟨part, covers⟩ := covers_of_refused refused
    exact .inl ⟨part, covers.shift offset⟩
  · rename_i lexemes lexed
    split at h
    · cases h
    · rename_i stuck wants
      obtain rfl := Except.error.inj h
      cases found : stuck.found with
      | some placed =>
        have laid := laid_lexFrom lexed
        rw [List.take_zero, List.drop_zero] at laid
        obtain ⟨part, covers⟩ := laid.covers placed (found_mem wants found)
        refine .inl ⟨part, ?_⟩
        rw [Stuck.fault, found]
        exact covers.shift offset
      | none =>
        obtain ⟨inside, reversed⟩ := lastStop_lex lexed
        by_cases breaks : lexemes ≠ [] ∧ endsInGap markup.toList = true
        · exact .inr (.intro lexed breaks.1 breaks.2 wants found)
        · have ends := Nat.le_antisymm inside (Nat.not_lt.1 fun before => breaks (reversed.1 before))
          refine .inl ⟨[], markup.toList, [], by simp, ?_⟩
          rw [Stuck.fault, found, ends]
          exact ⟨rfl, rfl⟩

/-- **A fault of an output's markup.** -/
theorem covers_readOutput (h : readOutput markup offset = .error fault) :
    (∃ part, fault.span.CoversFrom offset markup.toList part) ∨
      outputMachine.BreaksOff markup offset fault := by
  rw [readOutput] at h
  split at h
  · cases h
  · exact Machine.covers_read h

/-- **A fault of a condition covers some characters of its markup,** which does not end in a gap. -/
theorem covers_readCondition (h : readCondition markup offset = .error fault)
    (trimmed : endsInGap markup.toList = false) :
    ∃ part, fault.span.CoversFrom offset markup.toList part := by
  rw [readCondition] at h
  split at h
  · cases h
  · rename_i cause failed
    obtain rfl := Except.error.inj h
    have same : cause.inCondition.span = cause.span := by cases cause <;> rfl
    rw [same]
    refine (Machine.covers_read failed).resolve_right fun breaks => ?_
    cases breaks with
    | intro lexed nonempty gap wants atEnd =>
      rw [trimmed] at gap
      cases gap

end

end Markup
end MailMerge
