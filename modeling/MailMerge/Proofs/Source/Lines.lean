/-
# Lines and columns of characters

Which line and which column of it a character is in follows from its number alone: every line break
starts a new line with its first column, and any other character the next column (`position`). The
lines that a report is made from agree with that: each of them is the characters that have its
number, and no others (`lineOf_linesOf`).
-/

import MailMerge.Source.Report
import Mathlib.Data.List.Basic

namespace MailMerge
namespace Source

/-- **A line ends** with a line break that is no carriage return before a line feed. -/
def endsLine (c : Char) (cs : List Char) : Bool :=
  isLineBreak c && !(c == '\r' && cs.head? == some '\n')

/-- The line and the column of the character with some number, where the first one has these. -/
def positionFrom : Nat → Nat → List Char → Nat → Nat × Nat
  | line, column, c :: cs, number + 1 =>
    if endsLine c cs then positionFrom (line + 1) 1 cs number
    else positionFrom line (column + 1) cs number
  | line, column, _, _ => (line, column)

/-- **The line and the column of a character** of a text, counted from one. -/
def position (cs : List Char) (number : Nat) : Nat × Nat := positionFrom 1 1 cs number

/-- **The line with some number:** the characters behind `front` that have it, and no others do. -/
structure LineOf (cs : List Char) (number : Nat) (front line : List Char) : Prop where
  stands : ∃ back, cs = front ++ (line ++ back)
  exactly : ∀ place < cs.length, (position cs place).1 = number ↔
    front.length ≤ place ∧ place < front.length + line.length

section

variable {c : Char} {cs line : List Char} {lines front back : List (List Char)}

theorem linesOf_ends (h : endsLine c cs = true) : linesOf (c :: cs) = [c] :: linesOf cs := by
  simp only [endsLine, Bool.and_eq_true, Bool.not_eq_true', Bool.and_eq_false_iff, beq_eq_false_iff_ne] at h
  obtain ⟨breaks, alone⟩ := h
  rw [linesOf, if_pos breaks]
  rintro rest rfl rfl
  exact alone.elim (· rfl) (· rfl)

theorem linesOf_goes (h : endsLine c cs = false) :
    linesOf (c :: cs) = (c :: (linesOf cs).headD []) :: (linesOf cs).tail := by
  by_cases pair : c = '\r' ∧ cs.head? = some '\n'
  · obtain ⟨rfl, head⟩ := pair
    obtain ⟨rest, rfl⟩ := List.head?_eq_some_iff.1 head
    have own : linesOf ('\n' :: rest) = ['\n'] :: linesOf rest := linesOf_ends rfl
    rw [own, linesOf]
    rfl
  · have solid : isLineBreak c = false := by
      simp only [endsLine, Bool.and_eq_false_iff, Bool.not_eq_false', Bool.and_eq_true, beq_iff_eq] at h
      exact h.resolve_right pair
    rw [linesOf, solid]
    · cases linesOf cs <;> rfl
    · rintro rest rfl rfl
      exact pair ⟨rfl, rfl⟩

/-- **The lines of a text** are the text. -/
theorem flatten_linesOf (cs : List Char) : (linesOf cs).flatten = cs := by
  induction cs with
  | nil => rfl
  | cons c cs ih =>
    cases ends : endsLine c cs with
    | true => rw [linesOf_ends ends, List.flatten_cons, ih, List.singleton_append]
    | false =>
      rw [linesOf_goes ends, List.flatten_cons, List.cons_append]
      refine congrArg (c :: ·) (Eq.trans ?_ ih)
      cases linesOf cs <;> rfl

/-- **Where the characters of a line are:** its number is that of the lines before it and one, and
the columns of the characters follow one another. -/
theorem positionFrom_linesOf (h : linesOf cs = front ++ line :: back) {offset : Nat}
    (inside : offset < line.length) (number column : Nat) :
    positionFrom number column cs (front.flatten.length + offset) =
      (number + front.length, (if front = [] then column else 1) + offset) := by
  induction cs generalizing front line back offset number column with
  | nil => exact absurd h.symm (by simp [linesOf])
  | cons c cs ih =>
    cases ends : endsLine c cs with
    | true =>
      rw [linesOf_ends ends] at h
      cases front with
      | nil =>
        obtain ⟨rfl, rfl⟩ := List.cons.inj h
        obtain rfl := Nat.lt_one_iff.1 inside
        rfl
      | cons first front =>
        obtain ⟨rfl, same⟩ := List.cons.inj h
        have place : (([c] :: front).flatten.length + offset) = (front.flatten.length + offset) + 1 := by
          simp only [List.flatten_cons, List.length_append, List.length_singleton]
          omega
        rw [place, positionFrom, if_pos ends, ih same inside, List.length_cons]
        simp only [ite_self, Prod.mk.injEq]
        exact ⟨by omega, rfl⟩
    | false =>
      have going : ¬endsLine c cs = true := Bool.eq_false_iff.1 ends
      rw [linesOf_goes ends] at h
      cases front with
      | nil =>
        obtain ⟨rfl, rfl⟩ := List.cons.inj h
        cases offset with
        | zero => rfl
        | succ offset =>
          cases lines : linesOf cs with
          | nil =>
            rw [lines] at inside
            exact absurd inside (by simp)
          | cons next others =>
            rw [lines] at inside
            have whole : linesOf cs = [] ++ next :: others := lines
            have later := ih whole (Nat.lt_of_succ_lt_succ inside) number (column + 1)
            rw [List.flatten_nil, List.length_nil, Nat.zero_add] at later ⊢
            rw [positionFrom, if_neg going, later]
            simp only [if_true, List.length_nil, Prod.mk.injEq, true_and]
            omega
      | cons first front =>
        obtain ⟨rfl, same⟩ := List.cons.inj h
        cases lines : linesOf cs with
        | nil =>
          rw [lines] at same
          exact absurd same.symm (by simp)
        | cons next others =>
          rw [lines, List.tail_cons] at same
          have whole : linesOf cs = (next :: front) ++ line :: back := by
            rw [lines, same]
            rfl
          have later := ih whole inside number (column + 1)
          rw [List.headD_cons]
          have place : ((c :: next) :: front).flatten.length + offset =
              ((next :: front).flatten.length + offset) + 1 := by
            simp only [List.flatten_cons, List.length_append, List.length_cons]
            omega
          rw [place, positionFrom, if_neg going, later]
          rfl

/-- The place of a character of a line. -/
theorem position_of_line (h : linesOf cs = front ++ line :: back) {place : Nat}
    (starts : front.flatten.length ≤ place) (inside : place < front.flatten.length + line.length) :
    position cs place = (front.length + 1, place - front.flatten.length + 1) := by
  obtain ⟨offset, rfl⟩ := Nat.exists_eq_add_of_le starts
  rw [position, positionFrom_linesOf h (Nat.lt_of_add_lt_add_left inside), ite_self,
    Nat.add_sub_cancel_left, Nat.add_comm 1, Nat.add_comm 1]

theorem length_of_lines (h : linesOf cs = front ++ line :: back) :
    cs.length = front.flatten.length + line.length + back.flatten.length := by
  rw [← flatten_linesOf cs, h, List.flatten_append, List.flatten_cons, List.length_append,
    List.length_append, Nat.add_assoc]

/-- **The line of a place** is the one that it is in, and the last one for a place after the end. -/
theorem lineAt_eq {lines : List (List Char)} (nonempty : lines ≠ []) {place start : Nat}
    (after : start ≤ place) (number : Nat) :
    ∃ front line back, lines = front ++ line :: back ∧
      lineAt place number start lines = (number + front.length, start + front.flatten.length, line) ∧
      start + front.flatten.length ≤ place ∧
      (place < start + front.flatten.length + line.length ∨ back = []) := by
  induction lines generalizing number start with
  | nil => exact absurd rfl nonempty
  | cons line rest ih =>
    cases rest with
    | nil => exact ⟨[], line, [], rfl, rfl, after, .inr rfl⟩
    | cons next others =>
      rw [lineAt]
      split
      · rename_i inside
        exact ⟨[], line, next :: others, rfl, rfl, after, .inl inside⟩
      · rename_i beyond
        obtain ⟨front, found, back, whole, same, starts, ends⟩ :=
          ih (List.cons_ne_nil _ _) (Nat.not_lt.1 beyond) (number + 1)
        refine ⟨line :: front, found, back, by rw [whole, List.cons_append], ?_, ?_, ?_⟩
        · rw [same, List.length_cons, List.flatten_cons, List.length_append, Nat.add_assoc start,
            Nat.add_assoc number, Nat.add_comm 1]
        · rwa [List.flatten_cons, List.length_append, ← Nat.add_assoc]
        · rwa [List.flatten_cons, List.length_append, ← Nat.add_assoc]

theorem linesOf_ne_nil (h : cs ≠ []) : linesOf cs ≠ [] := by
  intro empty
  have whole := flatten_linesOf cs
  rw [empty] at whole
  exact h whole.symm

/-- A character of the text is not behind the last line. -/
theorem inside_of_line (h : linesOf cs = front ++ line :: back) {place : Nat} (here : place < cs.length)
    (ends : place < front.flatten.length + line.length ∨ back = []) :
    place < front.flatten.length + line.length := by
  rcases ends with inside | rfl
  · exact inside
  · rwa [length_of_lines h] at here

/-- Every character is in a line. -/
theorem exists_line {place : Nat} (h : place < cs.length) : ∃ front line back,
    linesOf cs = front ++ line :: back ∧ front.flatten.length ≤ place ∧
      place < front.flatten.length + line.length := by
  have nonempty : cs ≠ [] := List.ne_nil_of_length_pos (Nat.zero_lt_of_lt h)
  obtain ⟨front, line, back, whole, -, starts, ends⟩ :=
    lineAt_eq (linesOf_ne_nil nonempty) (Nat.zero_le place) 1
  rw [Nat.zero_add] at starts ends
  exact ⟨front, line, back, whole, starts, inside_of_line whole h ends⟩

/-- Lines with the same number are the same. -/
theorem line_unique {front' back' : List (List Char)} {line' : List Char}
    (h : linesOf cs = front ++ line :: back) (h' : linesOf cs = front' ++ line' :: back')
    (same : front.length = front'.length) : front = front' ∧ line = line' := by
  obtain ⟨fronts, tails⟩ := List.append_inj (h.symm.trans h') same
  exact ⟨fronts, (List.cons.inj tails).1⟩

/-- **A line of the text is the line with its number.** -/
theorem lineOf_linesOf (h : linesOf cs = front ++ line :: back) :
    LineOf cs (front.length + 1) front.flatten line where
  stands := ⟨back.flatten, by
    rw [← flatten_linesOf cs, h, List.flatten_append, List.flatten_cons]⟩
  exactly place inside := by
    constructor
    · intro same
      obtain ⟨front', line', back', whole, starts, ends⟩ := exists_line inside
      rw [position_of_line whole starts ends] at same
      obtain ⟨rfl, rfl⟩ := line_unique whole h (Nat.succ.inj same)
      exact ⟨starts, ends⟩
    · rintro ⟨starts, ends⟩
      rw [position_of_line h starts ends]

/-- **A line is the only one with its number,** if it has characters. -/
theorem LineOf.unique {cs front front' line line' : List Char} {number place : Nat}
    (h : LineOf cs number front line) (h' : LineOf cs number front' line')
    (starts : front.length ≤ place) (inside : place < front.length + line.length) :
    front = front' ∧ line = line' := by
  obtain ⟨back, whole⟩ := h.stands
  obtain ⟨back', whole'⟩ := h'.stands
  have length := congrArg List.length whole
  have length' := congrArg List.length whole'
  simp only [List.length_append] at length length'
  have same : ∀ place < cs.length, (front.length ≤ place ∧ place < front.length + line.length) ↔
      (front'.length ≤ place ∧ place < front'.length + line'.length) := fun place inside =>
    (h.exactly place inside).symm.trans (h'.exactly place inside)
  have own := (same place (by omega)).1 ⟨starts, inside⟩
  have first := same front.length (by omega)
  have last := same (front.length + line.length - 1) (by omega)
  have first' := same front'.length (by omega)
  have last' := same (front'.length + line'.length - 1) (by omega)
  obtain ⟨fronts, tails⟩ := List.append_inj (whole.symm.trans whole') (by omega)
  exact ⟨fronts, (List.append_inj tails (by omega)).1⟩

/-- **Characters on one line,** `count` of them from the one numbered `first`. -/
def OnOneLine (cs : List Char) (first count : Nat) : Prop :=
  ∀ place, first ≤ place → place < first + count →
    place < cs.length ∧ (position cs place).1 = (position cs first).1

/-- Characters of a line are on one line. -/
theorem OnOneLine.of_line {first count : Nat} (whole : linesOf cs = front ++ line :: back)
    (starts : front.flatten.length ≤ first) (ends : first + count ≤ front.flatten.length + line.length) :
    OnOneLine cs first count := by
  have length := length_of_lines whole
  have own := (lineOf_linesOf whole).exactly
  intro place low high
  refine ⟨by omega, ?_⟩
  rw [(own place (by omega)).2 ⟨by omega, by omega⟩, (own first (by omega)).2 ⟨starts, by omega⟩]

/-- Characters of a text that is a single line are on one line. -/
theorem OnOneLine.of_single {first count : Nat} (single : linesOf cs = [cs])
    (ends : first + count ≤ cs.length) : OnOneLine cs first count := by
  have whole : linesOf cs = [] ++ cs :: [] := single
  refine of_line whole (Nat.zero_le first) ?_
  rw [List.flatten_nil, List.length_nil, Nat.zero_add]
  exact ends

/-- Characters on one line end in the line of the first one. -/
theorem OnOneLine.ends {first count : Nat} (h : OnOneLine cs first count)
    (whole : linesOf cs = front ++ line :: back) (starts : front.flatten.length ≤ first)
    (inside : first < front.flatten.length + line.length) :
    first + count ≤ front.flatten.length + line.length := by
  refine Nat.not_lt.1 fun beyond => ?_
  have here : first < cs.length := (h first (Nat.le_refl _) (by omega)).1
  have number := ((lineOf_linesOf whole).exactly first here).2 ⟨starts, inside⟩
  -- the first character behind the line would have to be in it
  obtain ⟨there, same⟩ := h _ (Nat.le_of_lt inside) (by omega)
  have own := ((lineOf_linesOf whole).exactly _ there).1 (same.trans number)
  exact Nat.lt_irrefl _ own.2

end

end Source
end MailMerge
