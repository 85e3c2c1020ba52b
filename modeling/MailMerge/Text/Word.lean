/-
# Words

A tag's name is a run of word characters: letters of any script, digits, marks
and the low line.
-/

import MailMerge.Text.WordTable

namespace MailMerge
namespace Text

/-- The letters, digits and low line of the first 128 characters. -/
def isPlainWord (c : Char) : Bool :=
  ('a' ≤ c && c ≤ 'z') || ('A' ≤ c && c ≤ 'Z') || ('0' ≤ c && c ≤ '9') || c == '_'

/-- **Word characters:** letters, marks, digits and connecting punctuation of
every script. The first 128 are decided without the table. -/
def isWord (c : Char) : Bool :=
  if c.toNat < 128 then isPlainWord c else wordRanges.has c

end Text
end MailMerge
