/-
# Cells of a row

A row under a line has cells, and a character takes up as many of them as it is wide, after those of
the characters before it (`columnsFrom`). The row of the mark has marks in the cells of the characters
of the span and nowhere else (`mark_iff`).

Characters that follow one another take up all cells from the first column of the first one to the
last column of the last one. So if there are more of them, the cells are the same only if those that
come to the others take up no columns (`cellOf_same_iff`).
-/

import MailMerge.Source.Report
import Mathlib.Data.List.Basic

namespace MailMerge
namespace Source

/-! ### Columns and cells -/

/-- How many columns a place takes up: those of its character, and one behind the line. -/
def widthAt (place : Nat) : List Char → Nat
  | [] => 1
  | c :: _ => columnWidth c place

/-- The columns that `count` places of a line take up from `place` on. -/
def columnsFrom : Nat → Nat → List Char → Nat
  | 0, _, _ => 0
  | count + 1, place, cs => widthAt place cs + columnsFrom count (place + 1) cs.tail

/-- **A character that takes up no columns,** wherever it stands. -/
def Columnless (c : Char) : Prop := Text.isBlank c = false ∧ Text.columnsOf c = 0

/-- **The cells of some characters of a line,** `length` of them from the place `start` on: all their
columns, and where there are none the first column of that place. -/
def CellOf (line : List Char) (start length cell : Nat) : Prop :=
  ∃ place, start ≤ place ∧ place < start + max length 1 ∧ columnsFrom place 0 line ≤ cell ∧
    cell < columnsFrom (place + 1) 0 line ∧ (length = 0 → cell = columnsFrom place 0 line)

section

variable {draw : Nat → Char × Char} {line cs : List Char} {count place cell start length : Nat}
  {x : Char}

/-! ### Rows and marks -/

theorem length_cells (first rest : Char) (width : Nat) : (cells first rest width).length = width := by
  cases width <;> simp [cells]

theorem getElem?_cells {first rest : Char} {width : Nat} (h : cell < width) :
    (cells first rest width)[cell]? = some (if cell = 0 then first else rest) := by
  cases width with
  | zero => exact absurd h (Nat.not_lt_zero _)
  | succ width =>
    rw [cells]
    cases cell with
    | zero => rfl
    | succ cell =>
      rw [List.getElem?_cons_succ, List.getElem?_replicate, if_pos (Nat.lt_of_succ_lt_succ h)]
      rfl

theorem row_succ (draw : Nat → Char × Char) (count place : Nat) (cs : List Char) :
    row draw (count + 1) place cs = cells (draw place).1 (draw place).2 (widthAt place cs) ++
      row draw count (place + 1) cs.tail := by
  cases cs <;> rfl

theorem length_row (draw : Nat → Char × Char) (count place : Nat) (cs : List Char) :
    (row draw count place cs).length = columnsFrom count place cs := by
  induction count generalizing place cs with
  | zero => rfl
  | succ count ih => rw [row_succ, List.length_append, length_cells, ih, columnsFrom]

/-- **What a row holds in a cell** is what is drawn at the place whose columns the cell is in. -/
theorem getElem?_row : (row draw count place cs)[cell]? = some x ↔
    ∃ i < count, columnsFrom i place cs ≤ cell ∧ cell < columnsFrom (i + 1) place cs ∧
      x = if cell = columnsFrom i place cs then (draw (place + i)).1 else (draw (place + i)).2 := by
  induction count generalizing place cs cell with
  | zero => simp [row]
  | succ count ih =>
    rw [row_succ]
    by_cases own : cell < widthAt place cs
    · rw [List.getElem?_append_left (by rwa [length_cells]), getElem?_cells own, Option.some.injEq]
      constructor
      · rintro rfl
        exact ⟨0, Nat.succ_pos _, Nat.zero_le _, own, rfl⟩
      · rintro ⟨i, -, starts, -, same⟩
        cases i with
        | zero => exact same.symm
        | succ i =>
          rw [columnsFrom] at starts
          omega
    · obtain ⟨later, rfl⟩ := Nat.exists_eq_add_of_le (Nat.not_lt.1 own)
      rw [List.getElem?_append_right (by rw [length_cells]; exact Nat.le_add_right _ _), length_cells,
        Nat.add_sub_cancel_left, ih]
      have shift : ∀ i, place + 1 + i = place + (i + 1) := fun i => by omega
      constructor
      · rintro ⟨i, bound, starts, ends, same⟩
        refine ⟨i + 1, Nat.succ_lt_succ bound, Nat.add_le_add_left starts _, Nat.add_lt_add_left ends _, ?_⟩
        simp only [same, columnsFrom, Nat.add_left_cancel_iff, shift]
      · rintro ⟨i, bound, starts, ends, same⟩
        cases i with
        | zero => exact absurd ends own
        | succ i =>
          refine ⟨i, Nat.lt_of_succ_lt_succ bound, Nat.le_of_add_le_add_left starts,
            Nat.lt_of_add_lt_add_left ends, ?_⟩
          simp only [same, columnsFrom, Nat.add_left_cancel_iff, shift]

/-- The first cell of a place has a mark if its character is in the span. -/
theorem markCell_fst_iff : (markCell start length place).1 ≠ ' ' ↔
    start ≤ place ∧ place < start + max length 1 := by
  unfold markCell
  split
  · rename_i empty
    subst empty
    split
    · exact iff_of_true (by decide) (by omega)
    · exact iff_of_false (fun solid => solid rfl) (by omega)
  · split
    · exact iff_of_true (by decide) (by omega)
    · split
      · exact iff_of_true (by decide) (by omega)
      · exact iff_of_false (fun solid => solid rfl) (by omega)

/-- The other cells of a place have a mark too, unless the span is empty. -/
theorem markCell_snd_iff : (markCell start length place).2 ≠ ' ' ↔
    (start ≤ place ∧ place < start + max length 1) ∧ length ≠ 0 := by
  unfold markCell
  split
  · rename_i empty
    refine iff_of_false (fun solid => ?_) fun both => both.2 empty
    split at solid <;> exact solid rfl
  · split
    · exact iff_of_true (by decide) (by omega)
    · split
      · exact iff_of_true (by decide) (by omega)
      · exact iff_of_false (fun solid => solid rfl) (by omega)

/-- **The row of the mark** has marks in the cells of the characters of the span. -/
theorem mark_iff : (row (markCell start length) (start + length + 2) 0 line).getD cell ' ' ≠ ' ' ↔
    CellOf line start length cell := by
  have held : (row (markCell start length) (start + length + 2) 0 line).getD cell ' ' ≠ ' ' ↔
      ∃ x, (row (markCell start length) (start + length + 2) 0 line)[cell]? = some x ∧ x ≠ ' ' := by
    rw [List.getD_eq_getElem?_getD]
    cases (row (markCell start length) (start + length + 2) 0 line)[cell]? <;> simp
  rw [held]
  constructor
  · rintro ⟨x, drawn, solid⟩
    obtain ⟨place, -, starts, ends, rfl⟩ := getElem?_row.1 drawn
    rw [Nat.zero_add] at solid
    split at solid
    · rename_i first
      obtain ⟨low, high⟩ := markCell_fst_iff.1 solid
      exact ⟨place, low, high, starts, ends, fun _ => first⟩
    · obtain ⟨⟨low, high⟩, some⟩ := markCell_snd_iff.1 solid
      exact ⟨place, low, high, starts, ends, fun none => absurd none some⟩
  · rintro ⟨place, low, high, starts, ends, upright⟩
    refine ⟨_, getElem?_row.2 ⟨place, by omega, starts, ends, rfl⟩, ?_⟩
    rw [Nat.zero_add]
    split
    · exact markCell_fst_iff.2 ⟨low, high⟩
    · rename_i later
      exact markCell_snd_iff.2 ⟨⟨low, high⟩, fun none => later (upright none)⟩

/-- The marks of a row. -/
theorem markCell_mem (start length place : Nat) :
    markCell start length place ∈ [('│', ' '), ('┬', '─'), ('─', '─'), (' ', ' ')] := by
  unfold markCell
  split
  · split <;> simp
  · split
    · simp
    · split <;> simp

/-- A mark is no line break. -/
theorem newline_notMem_row (count : Nat) (line : List Char) :
    '\n' ∉ row (markCell start length) count 0 line := by
  intro mem
  obtain ⟨cell, drawn⟩ := List.getElem?_of_mem mem
  obtain ⟨place, -, -, -, same⟩ := getElem?_row.1 drawn
  have solid : ∀ marks ∈ [('│', ' '), ('┬', '─'), ('─', '─'), (' ', ' ')],
      marks.1 ≠ '\n' ∧ marks.2 ≠ '\n' := by decide
  have own := solid _ (markCell_mem start length (0 + place))
  split at same
  · exact own.1 same.symm
  · exact own.2 same.symm

/-! ### Characters without columns -/

theorem columnWidth_eq_zero_iff {c : Char} : columnWidth c place = 0 ↔ Columnless c := by
  unfold columnWidth Columnless
  split
  · rename_i tab
    subst tab
    exact iff_of_false (by omega) fun solid => absurd solid.1 (by decide)
  · split
    · rename_i blank
      simp [blank]
    · rename_i solid
      simp [solid]

/-- Columns are those of some places and those of the places behind them. -/
theorem columnsFrom_add (count more place : Nat) (cs : List Char) :
    columnsFrom (count + more) place cs =
      columnsFrom count place cs + columnsFrom more (place + count) (cs.drop count) := by
  induction count generalizing place cs with
  | zero => simp [columnsFrom]
  | succ count ih =>
    have later := ih (place + 1) cs.tail
    rw [Nat.add_right_comm place 1 count, List.drop_tail] at later
    rw [Nat.add_right_comm, columnsFrom, columnsFrom, later, ← Nat.add_assoc]
    rfl

theorem columnsFrom_eq_zero_iff : columnsFrom count place cs = 0 ↔
    ∀ i < count, widthAt (place + i) (cs.drop i) = 0 := by
  induction count generalizing place cs with
  | zero => simp [columnsFrom]
  | succ count ih =>
    rw [columnsFrom, Nat.add_eq_zero_iff, ih]
    constructor
    · rintro ⟨own, later⟩ i bound
      cases i with
      | zero => exact own
      | succ i =>
        have inside := later i (Nat.lt_of_succ_lt_succ bound)
        rwa [Nat.add_right_comm, List.drop_tail] at inside
    · intro each
      refine ⟨each 0 (Nat.succ_pos _), fun i bound => ?_⟩
      have inside := each (i + 1) (Nat.succ_lt_succ bound)
      rwa [Nat.add_right_comm, List.drop_tail]

theorem columnsFrom_mono {count more : Nat} (h : count ≤ more) :
    columnsFrom count place cs ≤ columnsFrom more place cs := by
  obtain ⟨further, rfl⟩ := Nat.exists_eq_add_of_le h
  rw [columnsFrom_add]
  exact Nat.le_add_right _ _

/-- **The cells of characters that follow one another** go from the first column of the first one
to the last column of the last one. -/
theorem cellOf_iff (some : length ≠ 0) : CellOf line start length cell ↔
    columnsFrom start 0 line ≤ cell ∧ cell < columnsFrom (start + length) 0 line := by
  constructor
  · rintro ⟨place, low, high, starts, ends, -⟩
    rw [Nat.max_eq_left (Nat.one_le_iff_ne_zero.2 some)] at high
    exact ⟨Nat.le_trans (columnsFrom_mono low) starts, Nat.lt_of_lt_of_le ends (columnsFrom_mono high)⟩
  · rintro ⟨starts, ends⟩
    have found : ∃ place, start ≤ place ∧ place < start + length ∧ columnsFrom place 0 line ≤ cell ∧
        cell < columnsFrom (place + 1) 0 line := by
      clear some
      induction length with
      | zero => exact absurd ends (Nat.not_lt.2 starts)
      | succ length ih =>
        by_cases before : cell < columnsFrom (start + length) 0 line
        · obtain ⟨place, low, high, cells⟩ := ih before
          exact ⟨place, low, Nat.lt_succ_of_lt high, cells⟩
        · exact ⟨start + length, Nat.le_add_right _ _, Nat.lt_succ_self _, Nat.not_lt.1 before, ends⟩
    obtain ⟨place, low, high, starts, ends⟩ := found
    refine ⟨place, low, ?_, starts, ends, fun none => absurd none some⟩
    exact Nat.lt_of_lt_of_le high (Nat.add_le_add_left (Nat.le_max_left _ _) _)

/-- **More characters have the same cells** if those that come to them take up no columns. -/
theorem cellOf_same_iff (few : count ≤ length) (both : count = 0 → length = 0) :
    (∀ cell, CellOf line start count cell ↔ CellOf line start length cell) ↔
      ∀ place, start + count ≤ place → place < start + length →
        widthAt place (line.drop place) = 0 := by
  rcases Nat.eq_zero_or_pos count with rfl | pos
  · obtain rfl := both rfl
    exact iff_of_true (fun _ => Iff.rfl) fun place low high => absurd high (Nat.not_lt.2 low)
  · obtain ⟨more, rfl⟩ := Nat.exists_eq_add_of_le few
    have total : columnsFrom (start + (count + more)) 0 line = columnsFrom (start + count) 0 line +
        columnsFrom more (start + count) (line.drop (start + count)) := by
      rw [← Nat.add_assoc, columnsFrom_add, Nat.zero_add]
    have none : (∀ place, start + count ≤ place → place < start + (count + more) →
        widthAt place (line.drop place) = 0) ↔
        columnsFrom more (start + count) (line.drop (start + count)) = 0 := by
      rw [columnsFrom_eq_zero_iff, ← Nat.add_assoc]
      simp only [List.drop_drop]
      constructor
      · intro each i bound
        exact each _ (Nat.le_add_right _ _) (Nat.add_lt_add_left bound _)
      · intro each place low high
        obtain ⟨i, rfl⟩ := Nat.exists_eq_add_of_le low
        exact each i (Nat.lt_of_add_lt_add_left high)
    rw [none]
    constructor
    · intro same
      refine Nat.eq_zero_of_not_pos fun wide => ?_
      -- the first column behind the first characters would have to be one of theirs
      have own := (same (columnsFrom (start + count) 0 line)).2 ((cellOf_iff (by omega)).2
        ⟨columnsFrom_mono (Nat.le_add_right _ _), total ▸ Nat.lt_add_of_pos_right wide⟩)
      exact Nat.lt_irrefl _ ((cellOf_iff (Nat.ne_of_gt pos)).1 own).2
    · intro narrow cell
      rw [cellOf_iff (Nat.ne_of_gt pos), cellOf_iff (by omega), total, narrow, Nat.add_zero]

/-- What a place of a line takes up as it is shown, without the blanks at its end. -/
theorem widthAt_trimEnd_eq_zero_iff (inside : place < cs.length) :
    widthAt place ((Text.trimEnd cs).drop place) = 0 ↔ ∃ c, cs[place]? = some c ∧ Columnless c := by
  obtain ⟨blanks, whole, blank⟩ := Text.trimEnd_append_blanks cs
  generalize Text.trimEnd cs = visible at whole ⊢
  subst whole
  by_cases shown : place < visible.length
  · rw [List.drop_eq_getElem_cons shown, widthAt, columnWidth_eq_zero_iff,
      List.getElem?_append_left shown, List.getElem?_eq_getElem shown]
    simp
  · have behind := Nat.not_lt.1 shown
    rw [List.drop_eq_nil_of_le behind, widthAt]
    refine iff_of_false Nat.one_ne_zero ?_
    rintro ⟨c, own, solid, -⟩
    rw [List.getElem?_append_right behind] at own
    rw [blank c (List.mem_of_getElem? own)] at solid
    cases solid

end

end Source
end MailMerge
