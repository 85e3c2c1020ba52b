/-
# The head of a tag

A tag is `{%`, a name, its markup and `%}`, with blanks between them as wanted.
The name is the longest run of word characters, and the markup is what follows,
without the blanks at its ends.
-/

import MailMerge.Source.Segment
import MailMerge.Text.Blank
import MailMerge.Text.Word

namespace MailMerge
namespace Source

open Text (Span byteSize)

/-- **The head of a tag.** `markupStart` is the place of the markup in the
template, `span` that of the whole tag. -/
structure TagHead where
  name : String
  markup : String
  markupStart : Nat
  span : Span
deriving DecidableEq, Repr

/-- What stands between `{%` and `%}`, if the text has that form. -/
def tagInner? (raw : List Char) : Option (List Char) :=
  match raw with
  | '\x7b' :: '%' :: rest =>
    match rest.reverse with
    | '\x7d' :: '%' :: inner => some inner.reverse
    | _ => none
  | _ => none

/-- **The head of a tag** at `span`, or nothing where the text is no tag. -/
def TagHead.ofRaw? (raw : String) (span : Span) : Option TagHead :=
  match tagInner? raw.toList with
  | none => none
  | some inner =>
    let fromName := Text.trimStart inner
    let name := fromName.takeWhile Text.isWord
    let afterName := fromName.dropWhile Text.isWord
    let markup := Text.trimStart afterName
    if name.isEmpty then none
    else some
      { name := String.ofList name
        markup := String.ofList (Text.trimEnd markup)
        markupStart := span.start + 2 + (byteSize inner - byteSize markup)
        span := span }

end Source
end MailMerge
