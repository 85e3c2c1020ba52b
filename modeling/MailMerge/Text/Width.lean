/-
# Columns of characters

How many columns a character takes where columns are equally wide: two for the
characters of the East Asian scripts and for pictures, none for a mark that joins
the character before it and for a sign that is not shown, one for everything else.
-/

import MailMerge.Text.WidthTable

namespace MailMerge
namespace Text

/-- **The columns of a character.** The first 128 characters take one each. -/
def columnsOf (c : Char) : Nat :=
  if c.toNat < 128 then 1
  else if wideRanges.has c then 2
  else if joiningRanges.has c then 0
  else 1

end Text
end MailMerge
