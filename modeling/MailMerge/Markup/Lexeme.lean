/-
# Lexemes of markup

The markup of a tag or an output is a sequence of lexemes with gaps of spaces,
tabs and line ends between them. At every place the longest lexeme counts: a
keyword is a keyword only if it is the whole word, a number takes up a fraction
only if a digit follows the point, and `<=` is one lexeme.

| lexeme | written |
| --- | --- |
| name | a letter or low line, then letters, digits, low lines and dashes, then at most one question mark |
| text | between two quotes of one kind, anything but that quote |
| whole number | digits after an optional minus, in the range of 64 bits |
| double | a whole number, a point and digits |

Where no lexeme starts the markup is refused: at one character that starts none,
from an opening quote to the end where the quote is never closed, or at a whole
number that is out of range.
-/

import MailMerge.Decimal.Numeral
import MailMerge.Decimal.Layout
import MailMerge.Text.Span

namespace MailMerge
namespace Markup

open Text (Span byteSize)

/-- **The lexemes.** -/
inductive Lexeme where
  | and
  | or
  | eq
  | ne
  | le
  | ge
  | lt
  | gt
  | contains
  | trueWord
  | falseWord
  | nilWord
  | pipe
  | colon
  | comma
  | dot
  | openBracket
  | closeBracket
  | name (word : String)
  | text (value : String)
  | int (value : Int64)
  | float (value : Float)

/-- How an error message names a lexeme. -/
def Lexeme.describe : Lexeme → String
  | .and => "'and'"
  | .or => "'or'"
  | .eq => "'=='"
  | .ne => "'!='"
  | .le => "'<='"
  | .ge => "'>='"
  | .lt => "'<'"
  | .gt => "'>'"
  | .contains => "'contains'"
  | .trueWord => "'true'"
  | .falseWord => "'false'"
  | .nilWord => "'nil'"
  | .pipe => "'|'"
  | .colon => "':'"
  | .comma => "','"
  | .dot => "'.'"
  | .openBracket => "'['"
  | .closeBracket => "']'"
  | .name word => "identifier '" ++ word ++ "'"
  | .text value => "string \"" ++ value ++ "\""
  | .int value => "number " ++ toString value.toInt
  | .float value => "number " ++ Decimal.Layout.plain.text value

/-- A lexeme with its place in the markup. -/
structure Placed where
  lexeme : Lexeme
  span : Span

/-- What stands between lexemes. -/
def isGap (c : Char) : Bool := c == ' ' || c == '\t' || c == '\r' || c == '\n'

/-- What a name may start with. -/
def isNameStart (c : Char) : Bool := ('a' ≤ c && c ≤ 'z') || ('A' ≤ c && c ≤ 'Z') || c == '_'

/-- What a name may go on with. -/
def isNameChar (c : Char) : Bool := isNameStart c || Decimal.isDigit c || c == '-'

/-- The lexeme of a whole word: a keyword or a name. -/
def ofWord (word : String) : Lexeme :=
  if word = "and" then .and
  else if word = "or" then .or
  else if word = "contains" then .contains
  else if word = "true" then .trueWord
  else if word = "false" then .falseWord
  else if word = "nil" || word = "null" then .nilWord
  else .name word

/-- **What stands at a place:** a lexeme of some number of characters, or that
many characters that cannot be taken. -/
inductive Scanned where
  | lexeme (lexeme : Lexeme) (length : Nat)
  | refused (length : Nat)

/-- A word, its question mark included. -/
def scanWord (c : Char) (cs : List Char) : Scanned :=
  let word := c :: cs.takeWhile isNameChar
  match cs.dropWhile isNameChar with
  | '?' :: _ => .lexeme (ofWord (String.ofList (word ++ ['?']))) (word.length + 1)
  | _ => .lexeme (ofWord (String.ofList word)) word.length

/-- A text after its opening quote. -/
def scanText (quote : Char) (cs : List Char) : Scanned :=
  let value := cs.takeWhile (· != quote)
  if value.length < cs.length then .lexeme (.text (String.ofList value)) (value.length + 2)
  else .refused (cs.length + 1)

/-- A number whose digits start after `negative` many minus signs. -/
def scanNumber (negative : Bool) (cs : List Char) : Scanned :=
  let whole := cs.takeWhile Decimal.isDigit
  let length := whole.length + negative.toNat
  let wholeNumber := match Decimal.word? (Decimal.signed negative whole) with
    | some n => .lexeme (.int n) length
    | none => .refused length
  match cs.dropWhile Decimal.isDigit with
  | '.' :: rest =>
    let fraction := rest.takeWhile Decimal.isDigit
    if fraction.isEmpty then wholeNumber
    else
      let value := Decimal.nearest negative (Decimal.digitsValue (whole ++ fraction)) (-fraction.length)
      .lexeme (.float value) (length + 1 + fraction.length)
  | _ => wholeNumber

/-- **The lexeme at a place** where `c` stands and `cs` follows, `c` being no gap. -/
def scan (c : Char) (cs : List Char) : Scanned :=
  if isNameStart c then scanWord c cs
  else if Decimal.isDigit c then scanNumber false (c :: cs)
  else
    match c, cs with
    | '-', d :: _ => if Decimal.isDigit d then scanNumber true cs else .refused 1
    | '"', _ => scanText '"' cs
    | '\'', _ => scanText '\'' cs
    | '=', '=' :: _ => .lexeme .eq 2
    | '!', '=' :: _ => .lexeme .ne 2
    | '<', '>' :: _ => .lexeme .ne 2
    | '<', '=' :: _ => .lexeme .le 2
    | '>', '=' :: _ => .lexeme .ge 2
    | '<', _ => .lexeme .lt 1
    | '>', _ => .lexeme .gt 1
    | '|', _ => .lexeme .pipe 1
    | ':', _ => .lexeme .colon 1
    | ',', _ => .lexeme .comma 1
    | '.', _ => .lexeme .dot 1
    | '[', _ => .lexeme .openBracket 1
    | ']', _ => .lexeme .closeBracket 1
    | _, _ => .refused 1

/-- The lexemes from `place` on, after `skip` characters of a lexeme that has
been taken already; or the span that is refused. -/
def lexFrom : Nat → Nat → List Char → Except Span (List Placed)
  | _, _, [] => .ok []
  | place, skip + 1, c :: cs => lexFrom (place + c.utf8Size) skip cs
  | place, 0, c :: cs =>
    if isGap c then lexFrom (place + c.utf8Size) 0 cs
    else match scan c cs with
      | .refused length => .error ⟨place, place + byteSize ((c :: cs).take length)⟩
      | .lexeme lexeme length =>
        match lexFrom (place + c.utf8Size) (length - 1) cs with
        | .error span => .error span
        | .ok rest =>
          .ok (⟨lexeme, place, place + byteSize ((c :: cs).take length)⟩ :: rest)

/-- **The lexemes of a markup** with their places, or the first span that is refused. -/
def lex (markup : String) : Except Span (List Placed) := lexFrom 0 0 markup.toList

end Markup
end MailMerge
