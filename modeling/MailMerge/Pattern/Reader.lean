/-
# Reading patterns

| written | matches |
| --- | --- |
| `.` | any character but a line feed |
| `^`, `$` | the start, the end of the text |
| `a|b` | either side, which may be empty |
| `(a)`, `(?:a)` | what the group holds |
| `a*`, `a+`, `a?` | any number, at least one, at most one; a further `?` makes no difference |
| `[a-c]`, `[^a]` | one character of the class, one that is not in it |
| `\.` | the character itself, where it is a punctuation mark |

A pattern is read character by character. Open groups are kept on a stack. It is
refused if a group or class is not closed or a group is closed that is not open,
if there is nothing to repeat, if a range runs backwards, or if it ends in a
backslash.
-/

import MailMerge.Pattern.Basic

namespace MailMerge
namespace Pattern

/-- **A group being read:** the alternatives that are complete, and the parts of
the current one, both newest first. -/
structure Group where
  alternatives : List Pattern
  parts : List Pattern

/-- The group in which nothing has been read. -/
def Group.start : Group := ⟨[], []⟩

/-- The parts of an alternative in sequence. -/
def sequence (parts : List Pattern) : Pattern :=
  parts.foldl (fun rest part => andThen part rest) .empty

/-- The pattern of a group. -/
def Group.close (group : Group) : Pattern :=
  group.alternatives.foldl (fun rest alternative => .alt alternative rest) (sequence group.parts)

/-- **A class being read.** `last` is a character that may begin a range, and
`dash` says that a dash has followed it. -/
structure ClassDraft where
  negated : Bool
  ranges : Text.Ranges
  last : Option Nat
  dash : Bool

/-- The class with the last character and the dash as they stand. -/
def ClassDraft.close (draft : ClassDraft) : Pattern :=
  let single := draft.last.toList.map fun n => (n, n)
  let dash := if draft.dash then [('-'.toNat, '-'.toNat)] else []
  .char draft.negated (draft.ranges ++ single ++ dash)

/-- Adds a character to a class, none if it ends a range that runs backwards. -/
def ClassDraft.add? (draft : ClassDraft) (c : Char) : Option ClassDraft :=
  match draft.last, draft.dash with
  | some low, true =>
    if low ≤ c.toNat then
      some { draft with ranges := draft.ranges ++ [(low, c.toNat)], last := none, dash := false }
    else none
  | some low, false =>
    some { draft with ranges := draft.ranges ++ [(low, low)], last := some c.toNat }
  | none, _ => some { draft with last := some c.toNat }

/-- **Where the reading stands.** -/
inductive Mode where
  | normal
  /-- After a repetition, where a question mark makes no difference. -/
  | repeated
  | escape
  | groupStart
  | groupMark
  | classStart
  | classFirst (negated : Bool)
  | inClass (draft : ClassDraft)
  | classEscape (draft : ClassDraft)

/-- **A pattern being read:** the current group, those around it, and the mode. -/
structure Reading where
  group : Group
  outer : List Group
  mode : Mode

/-- A part is added to the current group. -/
def Reading.push (reading : Reading) (part : Pattern) (mode : Mode) : Reading :=
  { reading with group := { reading.group with parts := part :: reading.group.parts }, mode := mode }

/-- The last part is repeated, none if there is none. -/
def Reading.repeat? (reading : Reading) (change : Pattern → Pattern) : Option Reading :=
  match reading.group.parts with
  | [] => none
  | part :: rest =>
    some { reading with group := { reading.group with parts := change part :: rest }, mode := .repeated }

/-- The pattern of one character. -/
def single (c : Char) : Pattern := .char false [(c.toNat, c.toNat)]

/-- A punctuation mark, which a backslash makes stand for itself. -/
def isEscapable (c : Char) : Bool :=
  33 ≤ c.toNat && c.toNat < 127 && !c.isAlphanum && c != '<' && c != '>'

/-- The character that stands after a backslash. -/
def escaped? (c : Char) : Option Char :=
  if isEscapable c then some c
  else if c = 'n' then some '\n'
  else if c = 't' then some '\t'
  else if c = 'r' then some '\r'
  else none

/-- A step outside of classes. -/
def Reading.outside (reading : Reading) (c : Char) : Option Reading :=
  match c with
  | '\\' => some { reading with mode := .escape }
  | '(' => some ⟨.start, reading.group :: reading.outer, .groupStart⟩
  | ')' =>
    match reading.outer with
    | [] => none
    | group :: outer =>
      some ((⟨group, outer, .normal⟩ : Reading).push reading.group.close .normal)
  | '[' => some { reading with mode := .classStart }
  | '|' =>
    some { reading with
      group := ⟨sequence reading.group.parts :: reading.group.alternatives, []⟩, mode := .normal }
  | '*' => reading.repeat? .star
  | '+' => reading.repeat? fun part => .seq part (.star part)
  | '?' => reading.repeat? fun part => .alt part .empty
  | '\x7b' => none
  | '^' => some (reading.push .atStart .normal)
  | '$' => some (reading.push .atEnd .normal)
  | '.' => some (reading.push (.char true [('\n'.toNat, '\n'.toNat)]) .normal)
  | c => some (reading.push (single c) .normal)

/-- A step inside a class that may be closed. -/
def Reading.insideClass (reading : Reading) (draft : ClassDraft) (c : Char) : Option Reading :=
  match c with
  | ']' => some (reading.push draft.close .normal)
  | '[' => none
  | '\\' => some { reading with mode := .classEscape draft }
  | '-' =>
    if draft.last.isSome && !draft.dash then
      some { reading with mode := .inClass { draft with dash := true } }
    else (draft.add? c).map fun next => { reading with mode := .inClass next }
  | c => (draft.add? c).map fun next => { reading with mode := .inClass next }

/-- The first character of a class, which may be a closing bracket. -/
def Reading.firstOfClass (reading : Reading) (negated : Bool) (c : Char) : Option Reading :=
  let draft : ClassDraft := ⟨negated, [], none, false⟩
  if c = ']' then some { reading with mode := .inClass { draft with last := some c.toNat } }
  else reading.insideClass draft c

/-- **One step of reading a pattern.** -/
def Reading.step (reading : Reading) (c : Char) : Option Reading :=
  match reading.mode with
  | .normal => reading.outside c
  | .repeated => if c = '?' then some { reading with mode := .normal } else reading.outside c
  | .escape => (escaped? c).map fun d => reading.push (single d) .normal
  | .groupStart => if c = '?' then some { reading with mode := .groupMark } else reading.outside c
  | .groupMark => if c = ':' then some { reading with mode := .normal } else none
  | .classStart =>
    if c = '^' then some { reading with mode := .classFirst true } else reading.firstOfClass false c
  | .classFirst negated => reading.firstOfClass negated c
  | .inClass draft => reading.insideClass draft c
  | .classEscape draft =>
    (escaped? c).bind fun d => (draft.add? d).map fun next => { reading with mode := .inClass next }

/-- All groups and classes are closed. -/
def Reading.finish? (reading : Reading) : Option Pattern :=
  match reading.outer, reading.mode with
  | [], .normal => some reading.group.close
  | [], .repeated => some reading.group.close
  | _, _ => none

/-- **Reading a pattern,** none if it is not well formed. -/
def read? (s : String) : Option Pattern :=
  (s.toList.foldlM Reading.step ⟨.start, [], .normal⟩).bind Reading.finish?

end Pattern
end MailMerge
