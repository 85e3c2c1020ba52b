/-
# Classes of characters

A class of characters is a list of ranges of code points. Membership is decided
by the ranges alone, so a class can be read off its table.
-/

namespace MailMerge
namespace Text

/-- Ranges of code points, both ends included. -/
abbrev Ranges := List (Nat × Nat)

/-- **Membership in a class:** some range holds the character's code point. -/
def Ranges.has (ranges : Ranges) (c : Char) : Bool :=
  ranges.any fun range => range.1 ≤ c.toNat && c.toNat ≤ range.2

theorem Ranges.has_iff {ranges : Ranges} {c : Char} :
    ranges.has c = true ↔ ∃ range ∈ ranges, range.1 ≤ c.toNat ∧ c.toNat ≤ range.2 := by
  simp [Ranges.has]

end Text
end MailMerge
