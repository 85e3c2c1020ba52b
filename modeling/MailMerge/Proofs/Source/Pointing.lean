/-
# What a report points at

A report names a line and a column, shows the line and marks some cells under it. A report that points
at some characters names the position of the first, shows the line that all of them are in, and has
marks in their cells and nowhere else (`Fault.PointsAt`).

A span is read as numbers of characters. So a report points at the characters with the numbers that
the span has in bytes (`Fault.pointsAt_report?`), and the position it names is that of no other
character (`Fault.start_of_pointsAt`). From that character on the cells of fewer characters are the
same only if all those behind them take up no columns (`Fault.pointsAt_iff`).
-/

import MailMerge.Proofs.Source.Lines
import MailMerge.Proofs.Source.Cells

namespace MailMerge
namespace Source

open Text (Span)

/-- The line of a report that names the file, the line and the column. -/
def placeLine (file : String) (place : Nat × Nat) : String :=
  spaces ((toString place.1).length + 2) ++ "╭─[" ++ file ++ ":" ++ toString place.1 ++ ":" ++
    toString place.2 ++ "]"

/-- **A report laid out:** what is wrong, the place, and the line with its number over the marks and
the label. -/
def layout (wrong file : String) (place : Nat × Nat) (line marks leader : List Char) (label : String) :
    String :=
  let number := toString place.1
  let margin := spaces (number.length + 2)
  "\n".intercalate
    ["Error: " ++ wrong,
      placeLine file place,
      margin ++ "│",
      " " ++ number ++ " │ " ++ String.ofList line,
      margin ++ "│ " ++ String.ofList marks,
      margin ++ "│ " ++ String.ofList leader ++ " " ++ label,
      String.ofList (List.replicate (number.length + 2) '─') ++ "╯",
      ""]

/-- **A report that points at characters of a text,** `count` of them from the one numbered `first`:
it names the position of the first one and shows the line that they are in, with marks in their
cells and nowhere else. -/
inductive Fault.PointsAt (fault : Fault) (source file : String) (first count : Nat) : String → Prop
  | intro {front line marks leader : List Char}
      (own : LineOf source.toList (position source.toList first).1 front line)
      (starts : front.length ≤ first) (ends : first + count ≤ front.length + line.length)
      (marked : ∀ cell, marks.getD cell ' ' ≠ ' ' ↔
        CellOf (Text.trimEnd line) (first - front.length) count cell) :
      fault.PointsAt source file first count (layout fault.message file (position source.toList first)
        (shown 0 (Text.trimEnd line)) marks leader fault.label)

/-- **What stands above the marks** of a report that is laid out depends on the place and the line. -/
theorem exists_upper (wrong file : String) (place : Nat × Nat) (line : List Char) :
    ∃ upper, ∀ marks leader label, ∃ rest,
      (layout wrong file place line marks leader label).toList = upper ++ (marks ++ '\n' :: rest) := by
  let margin := spaces ((toString place.1).length + 2)
  refine ⟨("Error: " ++ wrong ++ "\n" ++ placeLine file place ++ "\n" ++ margin ++ "│\n " ++
    toString place.1 ++ " │ " ++ String.ofList line ++ "\n" ++ margin ++ "│ ").toList,
    fun marks leader label => ⟨(margin ++ "│ " ++ String.ofList leader ++ " " ++ label ++ "\n" ++
      String.ofList (List.replicate ((toString place.1).length + 2) '─') ++ "╯\n").toList, ?_⟩⟩
  simp [layout, margin]

/-- Texts up to a sign that one of them does not have. -/
theorem eq_or_of_append_cons {x y back back' : List Char} {sign : Char} (apart : sign ∉ y)
    (h : x ++ sign :: back = y ++ sign :: back') : x = y ∨ x[y.length]? = some sign := by
  rcases List.append_eq_append_iff.1 h with ⟨more, rfl, tails⟩ | ⟨more, rfl, tails⟩
  · cases more with
    | nil => exact .inl (List.append_nil _).symm
    | cons c more =>
      rw [(List.cons.inj tails).1] at apart
      exact absurd (List.mem_append_right _ List.mem_cons_self) apart
  · cases more with
    | nil => exact .inl (List.append_nil _)
    | cons c more =>
      refine .inr ?_
      rw [(List.cons.inj tails).1, List.getElem?_append_right (Nat.le_refl _), Nat.sub_self]
      rfl

/-- Texts up to the first sign of a kind are told apart by it. -/
theorem eq_of_append_cons {x y back back' : List Char} {sign : Char} (apart : sign ∉ x)
    (apart' : sign ∉ y) (h : x ++ sign :: back = y ++ sign :: back') : x = y ∧ back = back' := by
  induction x generalizing y with
  | nil =>
    cases y with
    | nil => exact ⟨rfl, (List.cons.inj h).2⟩
    | cons d y => exact absurd (List.mem_cons.2 (.inl (List.cons.inj h).1)) apart'
  | cons c x ih =>
    cases y with
    | nil => exact absurd (List.mem_cons.2 (.inl (List.cons.inj h).1.symm)) apart
    | cons d y =>
      obtain ⟨rfl, tails⟩ := List.cons.inj h
      obtain ⟨rfl, same⟩ := ih (fun mem => apart (List.mem_cons_of_mem _ mem))
        (fun mem => apart' (List.mem_cons_of_mem _ mem)) tails
      exact ⟨rfl, same⟩

theorem notMem_toString {sign : Char} (h : sign.isDigit = false) (number : Nat) :
    sign ∉ (toString number).toList := by
  intro mem
  rw [Nat.toString_eq_ofList_toDigits, String.toList_ofList] at mem
  rw [Nat.isDigit_of_mem_toDigits (by decide) (by decide) mem] at h
  cases h

/-- Numbers are told apart by their numerals. -/
theorem eq_of_numeral {m n : Nat} (h : (toString m).toList = (toString n).toList) : m = n := by
  simp only [Nat.toString_eq_ofList_toDigits, String.toList_ofList] at h
  rw [← Nat.ofDigitChars_ten_toDigits (n := m), h, Nat.ofDigitChars_ten_toDigits]

/-- **The place is read off its line.** -/
theorem placeLine_inj {file rest rest' : String} {place place' : Nat × Nat}
    (h : placeLine file place ++ rest = placeLine file place' ++ rest') : place = place' := by
  have spelled : ∀ (place : Nat × Nat) (rest : String), (placeLine file place ++ rest).toList =
      List.replicate ((toString place.1).length + 2) ' ' ++ '╭' :: ('─' :: '[' :: (file.toList ++
        ':' :: ((toString place.1).toList ++ ':' :: ((toString place.2).toList ++ ']' :: rest.toList)))) := by
    intro place rest
    simp [placeLine, spaces]
  have chars := congrArg String.toList h
  rw [spelled, spelled] at chars
  have blank : ∀ count, '╭' ∉ List.replicate count ' ' := fun _ mem =>
    absurd (List.eq_of_mem_replicate mem) (by decide)
  obtain ⟨-, chars⟩ := eq_of_append_cons (blank _) (blank _) chars
  have chars := (List.cons.inj (List.append_cancel_left (List.cons.inj (List.cons.inj chars).2).2)).2
  obtain ⟨lines, chars⟩ :=
    eq_of_append_cons (notMem_toString (by decide) _) (notMem_toString (by decide) _) chars
  obtain ⟨columns, -⟩ :=
    eq_of_append_cons (notMem_toString (by decide) _) (notMem_toString (by decide) _) chars
  exact Prod.ext (eq_of_numeral lines) (eq_of_numeral columns)

section

variable {source file report : String} {span : Span} {fault : Fault} {first count : Nat}

/-- **The place of a span** that the text reaches is that of its start in the line it is in. -/
theorem Spot.ofSpan?_eq (nonempty : source.toList ≠ [])
    (reached : max span.start (span.stop - 1) ≤ source.length) : ∃ front line back,
      linesOf source.toList = front ++ line :: back ∧
      Spot.ofSpan? source span = some ⟨front.length + 1, front.flatten.length, line, span⟩ ∧
      front.flatten.length ≤ span.start ∧
      (span.start < front.flatten.length + line.length ∨ back = []) := by
  obtain ⟨front, line, back, whole, same, starts, ends⟩ :=
    lineAt_eq (linesOf_ne_nil nonempty) (Nat.zero_le span.start) 1
  rw [Nat.zero_add] at same starts ends
  refine ⟨front, line, back, whole, ?_, starts, ends⟩
  rw [ofSpan?, if_neg (Nat.not_lt.2 reached), same, Nat.add_comm]

theorem Spot.frame_eq (spot : Spot) (file label : String) :
    spot.frame file label = placeLine file (spot.number, spot.span.start - spot.lineStart + 1) ::
      ((spot.margin ++ "│") :: (spot.rows label ++
        [String.ofList (List.replicate (spot.numeral.length + 2) '─') ++ "╯"])) := by
  simp only [frame, placeLine, position, margin, numeral, String.append_assoc, List.cons_append,
    List.nil_append]

/-- **What a report shows** of a spot whose span does not go on after the line. -/
theorem Spot.layout_frame {spot : Spot} (ends : spot.span.stop ≤ spot.lineStart + spot.line.length)
    (wrong file label : String) :
    "\n".intercalate (("Error: " ++ wrong) :: spot.frame file label ++ [""]) =
      layout wrong file (spot.number, spot.span.start - spot.lineStart + 1)
        (shown 0 (Text.trimEnd spot.line))
        (row (markCell (spot.span.start - spot.lineStart) (spot.span.stop - spot.span.start))
          (spot.span.start - spot.lineStart + (spot.span.stop - spot.span.start) + 2) 0
          (Text.trimEnd spot.line))
        (row (labelCell (spot.span.start - spot.lineStart) (spot.span.stop - spot.span.start))
          (spot.span.start - spot.lineStart + (spot.span.stop - spot.span.start) + 2) 0
          (Text.trimEnd spot.line)) label := by
  rw [frame_eq, rows, if_pos ends]
  rfl

/-- **A report without the line** is not laid out. -/
theorem Spot.frame_ne_layout {spot : Spot}
    (beyond : spot.lineStart + spot.line.length < spot.span.stop) (wrong file label label' : String)
    (line marks leader : List Char) :
    "\n".intercalate (("Error: " ++ wrong) :: spot.frame file label ++ [""]) ≠
      layout wrong file (spot.number, spot.span.start - spot.lineStart + 1) line marks leader
        label' := by
  intro same
  have chars := congrArg String.toList same
  rw [frame_eq, rows, if_neg (Nat.not_le.2 beyond)] at chars
  simp only [margin, spaces, numeral, Nat.toString_eq_repr, List.replicate_succ, String.ofList_cons,
    String.reduceSingleton, List.cons_append, List.nil_append, String.intercalate_cons_cons,
    String.intercalate_singleton, String.append_empty, String.toList_append, String.reduceToList,
    String.toList_ofList, List.append_assoc, layout, Nat.toList_repr, List.cons.injEq,
    List.append_cancel_left_eq, true_and] at chars
  -- where the layout has the number of the line, the report has a space
  obtain ⟨digit, digits, numeral⟩ : ∃ digit digits, Nat.toDigits 10 spot.number = digit :: digits :=
    List.exists_cons_of_ne_nil Nat.toDigits_ne_nil
  have mem : digit ∈ Nat.toDigits 10 spot.number := numeral ▸ List.mem_cons_self
  have solid := Nat.isDigit_of_mem_toDigits (by decide) (by decide) mem
  rw [numeral] at chars
  rw [← (List.cons.inj chars).1] at solid
  cases solid

theorem Fault.report?_eq {spot : Spot} (ordered : fault.span.start ≤ fault.span.stop)
    (spotted : Spot.ofSpan? source fault.span = some spot) (file : String) :
    fault.report? source file =
      some ("\n".intercalate (("Error: " ++ fault.message) :: spot.frame file fault.label ++ [""])) := by
  rw [report?, if_neg (Nat.not_lt.2 ordered), spotted]
  rfl

/-- **Where the text does not reach the span** the report names no place. -/
theorem Fault.report?_unreached (ordered : fault.span.start ≤ fault.span.stop)
    (beyond : source.length < max fault.span.start (fault.span.stop - 1)) (file : String) :
    fault.report? source file = some ("Error: " ++ fault.message ++ "\n") := by
  have spotted : Spot.ofSpan? source fault.span = none := if_pos beyond
  rw [report?, if_neg (Nat.not_lt.2 ordered), spotted]
  refine congrArg some ?_
  rw [Option.elim_none, List.cons_append, List.nil_append,
    String.intercalate_cons_of_ne_nil (List.cons_ne_nil _ _), String.intercalate_singleton,
    String.append_empty]

/-- **The report of a span that the text reaches** shows the line of its start. -/
theorem Fault.report?_reached (ordered : fault.span.start ≤ fault.span.stop)
    (here : fault.span.start < source.toList.length)
    (reached : max fault.span.start (fault.span.stop - 1) ≤ source.length) (file : String) :
    ∃ front line back, linesOf source.toList = front ++ line :: back ∧
      front.flatten.length ≤ fault.span.start ∧
      fault.span.start < front.flatten.length + line.length ∧
      fault.report? source file = some ("\n".intercalate (("Error: " ++ fault.message) ::
        Spot.frame ⟨front.length + 1, front.flatten.length, line, fault.span⟩ file fault.label ++
          [""])) := by
  have nonempty : source.toList ≠ [] := List.ne_nil_of_length_pos (Nat.zero_lt_of_lt here)
  obtain ⟨front, line, back, whole, spotted, starts, behind⟩ := Spot.ofSpan?_eq nonempty reached
  exact ⟨front, line, back, whole, starts, inside_of_line whole here behind,
    report?_eq ordered spotted file⟩

theorem Fault.ordered_of_report? (text : fault.report? source file = some report) :
    fault.span.start ≤ fault.span.stop := by
  refine Nat.not_lt.1 fun before => ?_
  rw [report?, if_pos before] at text
  cases text

/-- **Only a span that the text reaches** is pointed at. -/
theorem Fault.reached_of_pointsAt (text : fault.report? source file = some report)
    (points : fault.PointsAt source file first count report) :
    max fault.span.start (fault.span.stop - 1) ≤ source.length := by
  refine Nat.not_lt.1 fun beyond => ?_
  rw [report?_unreached (ordered_of_report? text) beyond] at text
  cases points
  have chars := congrArg String.toList (Option.some.inj text)
  simp [layout, placeLine] at chars

/-- The text reaches a span whose characters are on one line. -/
theorem OnOneLine.reached (one : OnOneLine source.toList span.start (span.stop - span.start))
    (here : span.start < source.toList.length) : max span.start (span.stop - 1) ≤ source.length := by
  rw [← String.length_toList]
  by_cases some : span.start < span.stop
  · have last := (one (span.stop - 1) (by omega) (by omega)).1
    omega
  · omega

/-- **Characters of a line that come to others in the same cells** take up no columns. -/
theorem cellOf_same_iff_columnless {cs middle : List Char} {front back : List (List Char)}
    {length : Nat}
    (whole : linesOf cs = front ++ middle :: back) (starts : front.flatten.length ≤ first)
    (ends : first + length ≤ front.flatten.length + middle.length) (few : count ≤ length)
    (both : count = 0 → length = 0) :
    (∀ cell, CellOf (Text.trimEnd middle) (first - front.flatten.length) count cell ↔
        CellOf (Text.trimEnd middle) (first - front.flatten.length) length cell) ↔
      ∀ place, first + count ≤ place → place < first + length →
        ∃ c, cs[place]? = some c ∧ Columnless c := by
  obtain ⟨start, rfl⟩ := Nat.exists_eq_add_of_le starts
  have stands : cs = front.flatten ++ (middle ++ back.flatten) := by
    rw [← flatten_linesOf cs, whole, List.flatten_append, List.flatten_cons]
  have own : ∀ place < middle.length, cs[front.flatten.length + place]? = middle[place]? := by
    intro place inside
    rw [stands, List.getElem?_append_right (Nat.le_add_right _ _), Nat.add_sub_cancel_left,
      List.getElem?_append_left inside]
  rw [Nat.add_sub_cancel_left, cellOf_same_iff few both]
  constructor
  · intro narrow place low high
    obtain ⟨offset, rfl⟩ := Nat.exists_eq_add_of_le
      (Nat.le_trans (Nat.le_add_right _ start) (Nat.le_trans (Nat.le_add_right _ count) low))
    have inside : offset < middle.length := by omega
    rw [own offset inside]
    exact (widthAt_trimEnd_eq_zero_iff inside).1 (narrow offset (by omega) (by omega))
  · intro each place low high
    have inside : place < middle.length := by omega
    have some := each (front.flatten.length + place) (by omega) (by omega)
    rw [own place inside] at some
    exact (widthAt_trimEnd_eq_zero_iff inside).2 some

/-- **The marks can be read off a report.** No character among them is the line break behind them. -/
theorem marks_of_layout {wrong label : String} {place : Nat × Nat}
    {line visible marks leader leader' : List Char} {start length : Nat} (few : count ≤ length)
    (marked : ∀ cell, marks.getD cell ' ' ≠ ' ' ↔ CellOf line start count cell)
    (h : layout wrong file place visible (row (markCell start length) (start + length + 2) 0 line)
      leader label = layout wrong file place visible marks leader' label) :
    marks = row (markCell start length) (start + length + 2) 0 line := by
  obtain ⟨upper, spelled⟩ := exists_upper wrong file place visible
  obtain ⟨rest, drawn⟩ := spelled (row (markCell start length) (start + length + 2) 0 line) leader
    label
  obtain ⟨rest', given⟩ := spelled marks leader' label
  have chars := List.append_cancel_left (given.symm.trans (h ▸ drawn))
  rcases eq_or_of_append_cons (newline_notMem_row _ _) chars with same | longer
  · exact same
  · -- a line break would be a mark far behind the characters
    have solid : marks.getD (columnsFrom (start + length + 2) 0 line) ' ' ≠ ' ' := by
      rw [length_row] at longer
      rw [List.getD_eq_getElem?_getD, longer]
      decide
    obtain ⟨place, -, high, -, ends, -⟩ := (marked _).1 solid
    have within : columnsFrom (place + 1) 0 line ≤ columnsFrom (start + length + 2) 0 line :=
      columnsFrom_mono (by omega)
    omega

/-- **What a report points at** that starts where its span does: as many characters as the span has
numbers, or fewer if those behind them take up no columns. -/
theorem Fault.pointsAt_iff (text : fault.report? source file = some report)
    (here : fault.span.start < source.toList.length)
    (few : count ≤ fault.span.stop - fault.span.start)
    (both : count = 0 → fault.span.stop - fault.span.start = 0) :
    fault.PointsAt source file fault.span.start count report ↔
      OnOneLine source.toList fault.span.start (fault.span.stop - fault.span.start) ∧
        ∀ place, fault.span.start + count ≤ place →
          place < fault.span.start + (fault.span.stop - fault.span.start) →
            ∃ c, source.toList[place]? = some c ∧ Columnless c := by
  have ordered := ordered_of_report? text
  constructor
  · intro points
    obtain ⟨front, line, back, whole, starts, inside, shown⟩ :=
      report?_reached ordered here (reached_of_pointsAt text points) file
    have place := position_of_line whole starts inside
    obtain @⟨front', line', marks, leader, own, -, ends, marked⟩ := points
    rw [place] at own
    obtain ⟨rfl, rfl⟩ := (lineOf_linesOf whole).unique own starts inside
    have same := Option.some.inj (shown.symm.trans text)
    rw [place] at same
    have stops : fault.span.stop ≤ front.flatten.length + line.length := Nat.not_lt.1 fun beyond =>
      @Spot.frame_ne_layout ⟨_, _, line, fault.span⟩ beyond _ _ _ _ _ _ _ same
    have one : OnOneLine source.toList fault.span.start (fault.span.stop - fault.span.start) :=
      OnOneLine.of_line whole starts (by omega)
    refine ⟨one, (cellOf_same_iff_columnless whole starts (by omega) few both).1 fun cell => ?_⟩
    rw [Spot.layout_frame stops] at same
    rw [← marked cell, marks_of_layout few marked same]
    exact mark_iff
  · rintro ⟨one, columnless⟩
    obtain ⟨front, line, back, whole, starts, inside, shown⟩ :=
      report?_reached ordered here (one.reached here) file
    have ends := one.ends whole starts inside
    have place := position_of_line whole starts inside
    have own : LineOf source.toList (position source.toList fault.span.start).1 front.flatten line := by
      rw [place]
      exact lineOf_linesOf whole
    have same := (cellOf_same_iff_columnless whole starts ends few both).2 columnless
    obtain rfl := Option.some.inj (text.symm.trans shown)
    have stops : fault.span.stop ≤ front.flatten.length + line.length := by omega
    have within : fault.span.start + count ≤ front.flatten.length + line.length := by omega
    rw [@Spot.layout_frame ⟨_, _, line, fault.span⟩ stops, ← place]
    exact .intro own starts within fun cell => mark_iff.trans (same cell).symm

/-- **A report points at the characters with the numbers of the span,** if they are on one line. -/
theorem Fault.pointsAt_report? (ordered : fault.span.start ≤ fault.span.stop)
    (here : fault.span.start < source.toList.length)
    (one : OnOneLine source.toList fault.span.start (fault.span.stop - fault.span.start)) (file : String) :
    ∃ report, fault.report? source file = some report ∧
      fault.PointsAt source file fault.span.start (fault.span.stop - fault.span.start) report := by
  obtain ⟨front, line, back, -, -, -, text⟩ := report?_reached ordered here (one.reached here) file
  refine ⟨_, text, (pointsAt_iff text here (Nat.le_refl _) id).2 ⟨one, fun place low high => ?_⟩⟩
  exact absurd high (Nat.not_lt.2 low)

/-- A report goes on after the line of the place. -/
theorem exists_rest (wrong place : String) {lines : List String} (nonempty : lines ≠ []) :
    ∃ rest, "\n".intercalate (wrong :: place :: lines) = wrong ++ ("\n" ++ (place ++ rest)) := by
  refine ⟨"\n" ++ "\n".intercalate lines, ?_⟩
  rw [String.intercalate_cons_of_ne_nil (List.cons_ne_nil _ _),
    String.intercalate_cons_of_ne_nil nonempty]
  simp only [String.append_assoc]

/-- **A report that points at characters in front of the number where the span starts,** or there,
points there. -/
theorem Fault.start_of_pointsAt (text : fault.report? source file = some report)
    (points : fault.PointsAt source file first count report) (low : first ≤ fault.span.start) :
    fault.span.start = first := by
  have named : ∃ rest, report =
      "Error: " ++ fault.message ++ ("\n" ++ (placeLine file (position source.toList first) ++ rest)) := by
    cases points
    exact exists_rest _ _ (List.cons_ne_nil _ _)
  obtain ⟨rest, named⟩ := named
  have ordered := ordered_of_report? text
  have reached := reached_of_pointsAt text points
  by_cases inside : first < source.toList.length
  · have nonempty : source.toList ≠ [] := List.ne_nil_of_length_pos (Nat.zero_lt_of_lt inside)
    obtain ⟨front, line, back, whole, spotted, starts, -⟩ := Spot.ofSpan?_eq nonempty reached
    rw [report?_eq ordered spotted, Spot.frame_eq] at text
    obtain ⟨rest', shown⟩ := exists_rest ("Error: " ++ fault.message)
      (placeLine file (front.length + 1, fault.span.start - front.flatten.length + 1))
      (List.cons_ne_nil _ _)
    have same := (Option.some.inj text).symm.trans shown
    rw [named, String.append_right_inj, String.append_right_inj] at same
    -- both places are in the line with the same number, and as many characters behind its start
    obtain ⟨front', line', back', whole', starts', ends'⟩ := exists_line inside
    have place := placeLine_inj same
    rw [position_of_line whole' starts' ends'] at place
    obtain ⟨lines, columns⟩ := Prod.ext_iff.1 place
    obtain ⟨rfl, rfl⟩ := line_unique whole' whole (Nat.succ.inj lines)
    dsimp only at columns
    omega
  · rw [String.length_toList] at inside
    omega

end

end Source
end MailMerge
