/-
# Places in a text

Places are counted in bytes of the UTF-8 form of the text. A span is the range
from one place up to another.
-/

namespace MailMerge
namespace Text

/-- **A span:** the bytes from `start` up to, not including, `stop`. -/
structure Span where
  start : Nat
  stop : Nat
deriving DecidableEq, Repr

/-- The bytes that a run of characters takes. -/
def byteSize : List Char → Nat
  | [] => 0
  | c :: cs => c.utf8Size + byteSize cs

@[simp] theorem byteSize_nil : byteSize [] = 0 := rfl

@[simp] theorem byteSize_cons (c : Char) (cs : List Char) :
    byteSize (c :: cs) = c.utf8Size + byteSize cs := rfl

@[simp] theorem byteSize_append (as bs : List Char) :
    byteSize (as ++ bs) = byteSize as + byteSize bs := by
  induction as with
  | nil => simp
  | cons c cs ih => simp [ih, Nat.add_assoc]

/-- The bytes of a text. -/
def size (s : String) : Nat := byteSize s.toList

/-- The characters that start in `span`, the first one standing at `place`. -/
def sliceFrom (span : Span) : Nat → List Char → List Char
  | _, [] => []
  | place, c :: cs =>
    if span.start ≤ place ∧ place < span.stop then c :: sliceFrom span (place + c.utf8Size) cs
    else sliceFrom span (place + c.utf8Size) cs

/-- **The part of a text that a span covers.** -/
def slice (s : String) (span : Span) : String := String.ofList (sliceFrom span 0 s.toList)

/-- A span further on by `offset` bytes. -/
def Span.shift (offset : Nat) (span : Span) : Span := ⟨offset + span.start, offset + span.stop⟩

end Text
end MailMerge
