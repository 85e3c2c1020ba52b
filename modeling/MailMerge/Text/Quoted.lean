/-
# Quoted text

A quoted text stands between double quotes. Inside, the quote and the backslash
take a backslash, tab, line feed, carriage return and NUL have letters of their
own, and a character that would not show, or would attach to its neighbour, is
spelled by its number between braces.
-/

import MailMerge.Text.EscapeTable

namespace MailMerge
namespace Text

/-- Lower case hexadecimal digits of `n`, no leading zeros. -/
def hexDigits (n : Nat) : List Char := Nat.toDigits 16 n

/-- How one character is written inside quotes. -/
def quoteChar (c : Char) : List Char :=
  if c == '"' then ['\\', '"']
  else if c == '\\' then ['\\', '\\']
  else if c == '\n' then ['\\', 'n']
  else if c == '\t' then ['\\', 't']
  else if c == '\r' then ['\\', 'r']
  else if c == '\x00' then ['\\', '0']
  else if 32 ≤ c.toNat && c.toNat < 127 then [c]
  else if escapedRanges.has c then ['\\', 'u', '\x7b'] ++ hexDigits c.toNat ++ ['\x7d']
  else [c]

/-- **Quoting:** the text between double quotes, with what would not show spelled out. -/
def quoted (s : String) : String :=
  String.ofList ('"' :: s.toList.flatMap quoteChar ++ ['"'])

end Text
end MailMerge
