/-
# Segments of a template

A template is cut into text, tags and outputs. `{%` opens a tag that goes up to
the first `%}` after it, `{{` an output that goes up to the first `}}`. An opener
that is never closed is a segment of its own two characters. Everything else is
text, and text that is not interrupted is one segment.
-/

import MailMerge.Text.Search
import MailMerge.Text.Span

namespace MailMerge
namespace Source

open Text (Span)

/-- The kinds of segments. -/
inductive SegmentKind where
  | text
  | tag
  | output
deriving DecidableEq, Repr

/-- **A segment:** its kind, its characters and its place. -/
structure Segment where
  kind : SegmentKind
  raw : String
  span : Span
deriving DecidableEq, Repr

/-- The kind of segment that two characters open, and what closes it. -/
def opening? (first second : Char) : Option (SegmentKind × List Char) :=
  if first = '\x7b' then
    if second = '%' then some (.tag, ['%', '\x7d'])
    else if second = '\x7b' then some (.output, ['\x7d', '\x7d'])
    else none
  else none

/-- Puts a character of text in front of pieces. -/
def addText (c : Char) : List (SegmentKind × List Char) → List (SegmentKind × List Char)
  | (.text, cs) :: rest => (.text, c :: cs) :: rest
  | rest => (.text, [c]) :: rest

/-- The pieces of a text. The next `skip` characters belong to a piece that has
been taken already. -/
def cut : Nat → List Char → List (SegmentKind × List Char)
  | _, [] => []
  | skip + 1, _ :: cs => cut skip cs
  | 0, [c] => [(.text, [c])]
  | 0, c :: d :: cs =>
    match opening? c d with
    | none => addText c (cut 0 (d :: cs))
    | some (kind, closer) =>
      match Text.before? closer cs with
      | none => (kind, [c, d]) :: cut 1 (d :: cs)
      | some inner =>
        (kind, c :: d :: (inner ++ closer)) :: cut (inner.length + 3) (d :: cs)

/-- Gives pieces their places, the first one standing at `place`. -/
def locate : Nat → List (SegmentKind × List Char) → List Segment
  | _, [] => []
  | place, (kind, cs) :: rest =>
    let stop := place + Text.byteSize cs
    ⟨kind, String.ofList cs, place, stop⟩ :: locate stop rest

/-- **The segments of a template,** in order. -/
def segments (source : String) : List Segment := locate 0 (cut 0 source.toList)

end Source
end MailMerge
