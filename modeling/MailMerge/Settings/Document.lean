/-
# Settings documents

A settings document is a sequence of lines. A line is blank, opens a table with
its name in brackets, or gives a name a value. A comment runs from a number sign
to the end of its line. Values are truth values, texts with escapes between double
quotes, and texts as they are between single quotes.

A table may be opened once and a name given a value once per table; anything else
is refused.
-/

import MailMerge.Decimal.Numeral
import MailMerge.Text.Span

namespace MailMerge
namespace Settings

/-- The values of settings. -/
inductive Setting where
  | bool (value : Bool)
  | text (value : String)

/-- **An entry of a document:** its table, its name and its value. -/
structure Entry where
  table : String
  name : String
  value : Setting

/-- Blanks within a line. -/
def isGap (c : Char) : Bool := c == ' ' || c == '\t'

/-- Controls, which may stand in no text and no comment, except the tab. -/
def isControl (c : Char) : Bool := (c.toNat < 32 && c != '\t') || c.toNat == 127

/-- Nothing but blanks, or blanks and a comment. -/
def isRest (cs : List Char) : Bool :=
  match cs.dropWhile isGap with
  | [] => true
  | c :: rest => c == '#' && !rest.any isControl

/-- The value of a hexadecimal digit. -/
def hexValue? (c : Char) : Option Nat :=
  if '0' ≤ c && c ≤ '9' then some (c.toNat - '0'.toNat)
  else if 'a' ≤ c && c ≤ 'f' then some (c.toNat - 'a'.toNat + 10)
  else if 'A' ≤ c && c ≤ 'F' then some (c.toNat - 'A'.toNat + 10)
  else none

/-- **Where the reading of a quoted text stands:** in plain text, after a
backslash, or among the digits of a character's number. -/
inductive QuoteMode where
  | plain
  | escape
  | digits (left value : Nat)

/-- The character a letter after a backslash stands for. -/
def escapeLetter? (c : Char) : Option Char :=
  match c with
  | '"' => some '"'
  | '\\' => some '\\'
  | 'b' => some '\x08'
  | 't' => some '\t'
  | 'n' => some '\n'
  | 'f' => some '\x0c'
  | 'r' => some '\r'
  | _ => none

/-- The character with a number, unless the number is none of a character. -/
def charOf? (n : Nat) : Option Char := if n.isValidChar then some (Char.ofNat n) else none

/-- A text with escapes up to its closing quote, and what follows. The characters
taken so far are kept newest first. -/
def readQuoted : QuoteMode → List Char → List Char → Option (String × List Char)
  | _, _, [] => none
  | .plain, taken, c :: cs =>
    if c == '"' then some (String.ofList taken.reverse, cs)
    else if c == '\\' then readQuoted .escape taken cs
    else if isControl c then none
    else readQuoted .plain (c :: taken) cs
  | .escape, taken, c :: cs =>
    if c == 'u' then readQuoted (.digits 4 0) taken cs
    else if c == 'U' then readQuoted (.digits 8 0) taken cs
    else match escapeLetter? c with
      | some d => readQuoted .plain (d :: taken) cs
      | none => none
  | .digits left value, taken, c :: cs =>
    match hexValue? c with
    | none => none
    | some digit =>
      let value := 16 * value + digit
      if 1 < left then readQuoted (.digits (left - 1) value) taken cs
      else match charOf? value with
        | some d => readQuoted .plain (d :: taken) cs
        | none => none

/-- A text up to its closing single quote, and what follows. -/
def readLiteral (cs : List Char) : Option (String × List Char) :=
  let taken := cs.takeWhile (· != '\'')
  match cs.dropWhile (· != '\'') with
  | [] => none
  | _ :: rest => if taken.any isControl then none else some (String.ofList taken, rest)

/-- What a name without quotes is made of. -/
def isBare (c : Char) : Bool :=
  ('a' ≤ c && c ≤ 'z') || ('A' ≤ c && c ≤ 'Z') || Decimal.isDigit c || c == '_' || c == '-'

/-- A name, with or without quotes, and what follows. -/
def readName (cs : List Char) : Option (String × List Char) :=
  match cs with
  | '"' :: rest => readQuoted .plain [] rest
  | '\'' :: rest => readLiteral rest
  | cs =>
    let name := cs.takeWhile isBare
    if name.isEmpty then none else some (String.ofList name, cs.dropWhile isBare)

/-- A value, and what follows. -/
def readValue (cs : List Char) : Option (Setting × List Char) :=
  match cs with
  | '"' :: rest => (readQuoted .plain [] rest).map fun found => (.text found.1, found.2)
  | '\'' :: rest => (readLiteral rest).map fun found => (.text found.1, found.2)
  | 't' :: 'r' :: 'u' :: 'e' :: rest => some (.bool true, rest)
  | 'f' :: 'a' :: 'l' :: 's' :: 'e' :: rest => some (.bool false, rest)
  | _ => none

/-- **What a line is.** -/
inductive Line where
  | blank
  | table (name : String)
  | entry (name : String) (value : Setting)

/-- The line of some characters, none if they are no line. -/
def Line.read? (cs : List Char) : Option Line :=
  let start := cs.dropWhile isGap
  if isRest start then some .blank
  else match start with
    | '[' :: rest =>
      (readName (rest.dropWhile isGap)).bind fun (name, rest) =>
        match rest.dropWhile isGap with
        | ']' :: rest => if isRest rest then some (.table name) else none
        | _ => none
    | start =>
      (readName start).bind fun (name, rest) =>
        match rest.dropWhile isGap with
        | '=' :: rest =>
          (readValue (rest.dropWhile isGap)).bind fun (value, rest) =>
            if isRest rest then some (.entry name value) else none
        | _ => none

/-- The lines of a text. A carriage return before a line feed belongs to it. -/
def splitLines : List Char → List (List Char)
  | [] => [[]]
  | '\n' :: cs => [] :: splitLines cs
  | '\r' :: '\n' :: cs => [] :: splitLines cs
  | c :: cs =>
    match splitLines cs with
    | line :: lines => (c :: line) :: lines
    | [] => [[c]]

/-- **A document being read:** the current table, the tables that were opened,
and the entries, newest first. -/
structure Draft where
  table : String
  tables : List String
  entries : List Entry

/-- A line is added to a document. -/
def Draft.step (draft : Draft) (cs : List Char) : Option Draft :=
  match Line.read? cs with
  | none => none
  | some .blank => some draft
  | some (.table name) =>
    if draft.tables.contains name then none
    else some { draft with table := name, tables := name :: draft.tables }
  | some (.entry name value) =>
    if draft.entries.any fun entry => entry.table == draft.table && entry.name == name then none
    else some { draft with entries := ⟨draft.table, name, value⟩ :: draft.entries }

/-- **Reading a document:** the tables it opens and its entries, in order. Entries
before the first table have the table without a name. -/
def readDocument? (s : String) : Option (List String × List Entry) :=
  ((splitLines s.toList).foldlM Draft.step ⟨"", [], []⟩).map fun draft =>
    (draft.tables.reverse, draft.entries.reverse)

end Settings
end MailMerge
