/-
# Reports of faults

A report shows the line a fault is in and marks the place.

    Error: <what is wrong>
       ╭─[<file>:<line>:<column>]
       │
     1 │ <the line>
       │   ──┬──
       │     ╰──── <what is wrong there>
    ───╯

The margin is two wider than the number of the line. The mark is a bar under the
characters of the span, or an upright where it has none, and its middle leads to
the label. Both rows go on for two columns after the span.

Places are taken as numbers of characters. A line ends with any of the line
breaks of the character set; it is shown without blanks at its end, a tab up to
the next fourth place and any other blank as a space. The rows under it are as
wide as its characters are. A span that the text does not reach leaves only the
first line of the report. The layout is that of a span within one line; for one that
goes on after its line see `Spot.rows`.
-/

import MailMerge.Source.Fault
import MailMerge.Text.Blank
import MailMerge.Text.Width

namespace MailMerge
namespace Source

open Text (Span)

/-- Characters that end a line. -/
def isLineBreak (c : Char) : Bool :=
  (10 ≤ c.toNat && c.toNat ≤ 13) || c.toNat == 0x85 || c.toNat == 0x2028 || c.toNat == 0x2029

/-- The lines of a text with what ends them. A carriage return and a line feed
after it are one line break. -/
def linesOf : List Char → List (List Char)
  | [] => []
  | '\r' :: '\n' :: cs => ['\r', '\n'] :: linesOf cs
  | c :: cs =>
    if isLineBreak c then [c] :: linesOf cs
    else match linesOf cs with
      | [] => [[c]]
      | line :: lines => (c :: line) :: lines

/-- **The line of a place:** its number, the place where it starts and its
characters. A place after the end is in the last line. -/
def lineAt (place : Nat) : Nat → Nat → List (List Char) → Nat × Nat × List Char
  | number, start, [] => (number, start, [])
  | number, start, [line] => (number, start, line)
  | number, start, line :: next :: lines =>
    if place < start + line.length then (number, start, line)
    else lineAt place (number + 1) (start + line.length) (next :: lines)

/-- The columns that a character takes up at a place of a line. A tab goes up to
the next fourth place. -/
def columnWidth (c : Char) (place : Nat) : Nat :=
  if c = '\t' then 4 - place % 4 else if Text.isBlank c then 1 else Text.columnsOf c

/-- A line as it is shown, from a place on. -/
def shown : Nat → List Char → List Char
  | _, [] => []
  | place, c :: cs =>
    let drawn := if Text.isBlank c then List.replicate (columnWidth c place) ' ' else [c]
    drawn ++ shown (place + 1) cs

/-- What a place of a row holds in `width` columns: one character in the first of
them, another in the others. -/
def cells (first rest : Char) : Nat → List Char
  | 0 => []
  | width + 1 => first :: List.replicate width rest

/-- **A row under a line:** what `draw` has for each of `count` places from `place`
on, as wide as the character of the line that stands there. -/
def row (draw : Nat → Char × Char) : Nat → Nat → List Char → List Char
  | 0, _, _ => []
  | count + 1, place, [] => (draw place).1 :: row draw count (place + 1) []
  | count + 1, place, c :: cs =>
    cells (draw place).1 (draw place).2 (columnWidth c place) ++ row draw count (place + 1) cs

/-- What the row of the mark holds at a place. -/
def markCell (start length place : Nat) : Char × Char :=
  if length = 0 then (if place = start then ('│', ' ') else (' ', ' '))
  else if place = start + length / 2 then ('┬', '─')
  else if start ≤ place ∧ place < start + length then ('─', '─')
  else (' ', ' ')

/-- What the row of the label holds at a place. -/
def labelCell (start length place : Nat) : Char × Char :=
  let middle := start + length / 2
  if place = middle then ('╰', '─') else if middle < place then ('─', '─') else (' ', ' ')

/-- The label of a fault. -/
def Fault.label : Fault → String
  | .markup message expected _ =>
    if expected.isEmpty then message else message ++ "\nExpected: " ++ ", ".intercalate expected
  | .neverClosed .. => "block opened here"
  | fault => fault.message

/-- A number of spaces. -/
def spaces (count : Nat) : String := String.ofList (List.replicate count ' ')

/-- **The place a report points to:** the line with its number and the place where
it starts, and the span of the fault. -/
structure Spot where
  number : Nat
  lineStart : Nat
  line : List Char
  span : Span

/-- **The place of a span in a text.** There is none where the text ends before the
span starts or before the last character of the span. -/
def Spot.ofSpan? (source : String) (span : Span) : Option Spot :=
  if source.length < max span.start (span.stop - 1) then none
  else
    let (number, lineStart, line) := lineAt span.start 1 0 (linesOf source.toList)
    some ⟨number, lineStart, line, span⟩

/-- The number of the line. -/
def Spot.numeral (spot : Spot) : String := toString spot.number

/-- What stands before the frame, where there is no number of a line. -/
def Spot.margin (spot : Spot) : String := spaces (spot.numeral.length + 2)

/-- The position in words: the line and the column, both counted from one. -/
def Spot.position (spot : Spot) : String :=
  spot.numeral ++ ":" ++ toString (spot.span.start - spot.lineStart + 1)

/-- **The line and the rows under it,** for a span that ends in the line it starts in.

A span that goes on after the line has a report of its own kind, which shows all lines
of the span with marks at their side. It is not laid out here: the single empty row
stands in its place and is not what that report looks like. -/
def Spot.rows (spot : Spot) (label : String) : List String :=
  if spot.span.stop ≤ spot.lineStart + spot.line.length then
    let visible := Text.trimEnd spot.line
    let start := spot.span.start - spot.lineStart
    let length := spot.span.stop - spot.span.start
    let draw := fun cell => String.ofList (row (cell start length) (start + length + 2) 0 visible)
    [" " ++ spot.numeral ++ " │ " ++ String.ofList (shown 0 visible),
      spot.margin ++ "│ " ++ draw markCell,
      spot.margin ++ "│ " ++ draw labelCell ++ " " ++ label]
  else [spot.margin ++ "│ "]

/-- **What a report shows of a file:** the position, then the line and its rows. -/
def Spot.frame (spot : Spot) (file label : String) : List String :=
  [spot.margin ++ "╭─[" ++ file ++ ":" ++ spot.position ++ "]", spot.margin ++ "│"]
  ++ spot.rows label
  ++ [String.ofList (List.replicate (spot.numeral.length + 2) '─') ++ "╯"]

/-- **The report of a fault** in a file: what is wrong, and the place where the text
has one. There is no report for a span that ends before it starts. -/
def Fault.report? (fault : Fault) (source file : String) : Option String :=
  if fault.span.stop < fault.span.start then none
  else
    let frame := (Spot.ofSpan? source fault.span).elim [] (·.frame file fault.label)
    some ("\n".intercalate (("Error: " ++ fault.message) :: frame ++ [""]))

end Source
end MailMerge
