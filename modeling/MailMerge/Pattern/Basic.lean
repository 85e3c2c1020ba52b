/-
# Patterns

A pattern is found in a text if some part of the text matches it. Matching goes
by derivatives: the derivative of a pattern by a character is what must match the
rest once that character has been taken. The start and the end of the text are
facts about a place, so the two questions asked at a place, whether the pattern
may end here and what is left of it after a character, are told where they are.
-/

import MailMerge.Text.Ranges

namespace MailMerge

/-- **A pattern.** -/
inductive Pattern where
  | never
  | empty
  | atStart
  | atEnd
  /-- One character in the ranges, or one outside of them. -/
  | char (negated : Bool) (ranges : Text.Ranges)
  | seq (first second : Pattern)
  | alt (first second : Pattern)
  | star (body : Pattern)
deriving DecidableEq, Repr

namespace Pattern

/-- One after the other, where nothing follows what never matches. -/
def andThen : Pattern → Pattern → Pattern
  | .never, _ => .never
  | .empty, second => second
  | first, second => .seq first second

/-- Either of two, where what never matches is left out. -/
def orElse (first second : Pattern) : Pattern :=
  if first = .never then second
  else if second = .never || first = second then first
  else .alt first second

/-- **The pattern may end at a place,** which is the start or the end of the text or not. -/
def nullable (isStart isEnd : Bool) : Pattern → Bool
  | .never => false
  | .empty => true
  | .atStart => isStart
  | .atEnd => isEnd
  | .char _ _ => false
  | .seq first second => nullable isStart isEnd first && nullable isStart isEnd second
  | .alt first second => nullable isStart isEnd first || nullable isStart isEnd second
  | .star _ => true

/-- **The derivative by a character** at a place that is the start of the text or not. -/
def derive (isStart : Bool) (c : Char) : Pattern → Pattern
  | .never => .never
  | .empty => .never
  | .atStart => .never
  | .atEnd => .never
  | .char negated ranges => if ranges.has c != negated then .empty else .never
  | .seq first second =>
    let left := andThen (derive isStart c first) second
    if nullable isStart false first then orElse left (derive isStart c second) else left
  | .alt first second => orElse (derive isStart c first) (derive isStart c second)
  | .star body => andThen (derive isStart c body) (.star body)

/-- A match that began before, as far as `pending` says, or one that begins here
or later ends somewhere in the text. -/
def searchFrom (pattern : Pattern) (isStart : Bool) (pending : Pattern) : List Char → Bool
  | [] => nullable isStart true pending
  | c :: cs =>
    nullable isStart false pending
      || searchFrom pattern false (orElse (derive isStart c pending) pattern) cs

/-- **The pattern is found somewhere in the text.** -/
def foundIn (pattern : Pattern) (s : String) : Bool :=
  searchFrom pattern true pattern s.toList

end Pattern
end MailMerge
