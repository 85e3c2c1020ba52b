/-
# Reading JSON

A document is read in two passes. The first goes over the characters and finds
the marks, texts and words; the second goes over what was found and builds the
document, keeping the containers that are still open on a stack. Each pass is a
machine that takes one step per item and refuses an item that cannot come next.
-/

import MailMerge.Json.Numeral

namespace MailMerge
namespace Json

/-- **What the first pass finds:** punctuation marks, texts, and words that
stand for a document of their own. -/
inductive Token where
  | openArray
  | closeArray
  | openObject
  | closeObject
  | comma
  | colon
  | text (value : String)
  | scalar (value : Json)

/-- Where the first pass stands. Characters of an unfinished text or word are
kept newest first. -/
inductive Mode where
  | between
  | word (taken : List Char)
  | text (taken : List Char)
  | escape (taken : List Char)
  /-- `left` hexadecimal digits of a code unit are missing; `high` is the first
  half of a pair that is to be completed. -/
  | unit (taken : List Char) (high : Option Nat) (left value : Nat)
  | pairBackslash (taken : List Char) (high : Nat)
  | pairLetter (taken : List Char) (high : Nat)

/-- The first pass: what it has found, newest first, and where it stands. -/
structure Scan where
  found : List Token
  mode : Mode

/-- A word is `true`, `false`, `null` or a number. -/
def wordToken? (taken : List Char) : Option Token :=
  let word := taken.reverse
  if word == ['n', 'u', 'l', 'l'] then some (.scalar .null)
  else if word == ['t', 'r', 'u', 'e'] then some (.scalar (.bool true))
  else if word == ['f', 'a', 'l', 's', 'e'] then some (.scalar (.bool false))
  else (number? word).map .scalar

/-- Characters of which words are made. -/
def isWordChar (c : Char) : Bool :=
  Decimal.isDigit c || ('a' ≤ c && c ≤ 'z') || ('A' ≤ c && c ≤ 'Z') || c == '-' || c == '+' || c == '.'

/-- The value of a hexadecimal digit. -/
def hexValue? (c : Char) : Option Nat :=
  if Decimal.isDigit c then some (c.toNat - '0'.toNat)
  else if 'a' ≤ c && c ≤ 'f' then some (c.toNat - 'a'.toNat + 10)
  else if 'A' ≤ c && c ≤ 'F' then some (c.toNat - 'A'.toNat + 10)
  else none

/-- A step from between the items. -/
def Scan.begin (found : List Token) (c : Char) : Option Scan :=
  if c == ' ' || c == '\n' || c == '\t' || c == '\r' then some ⟨found, .between⟩
  else if c == '[' then some ⟨.openArray :: found, .between⟩
  else if c == ']' then some ⟨.closeArray :: found, .between⟩
  else if c == '\x7b' then some ⟨.openObject :: found, .between⟩
  else if c == '\x7d' then some ⟨.closeObject :: found, .between⟩
  else if c == ',' then some ⟨.comma :: found, .between⟩
  else if c == ':' then some ⟨.colon :: found, .between⟩
  else if c == '"' then some ⟨found, .text []⟩
  else if isWordChar c then some ⟨found, .word [c]⟩
  else none

/-- The character a letter after a backslash stands for. -/
def escapeLetter? (c : Char) : Option Char :=
  match c with
  | '"' => some '"'
  | '\\' => some '\\'
  | '/' => some '/'
  | 'b' => some '\x08'
  | 'f' => some '\x0c'
  | 'n' => some '\n'
  | 'r' => some '\r'
  | 't' => some '\t'
  | _ => none

/-- What a complete code unit leads to: a character, the wait for the second
half of a pair, or nothing where halves do not match. -/
def closeUnit (taken : List Char) (high : Option Nat) (value : Nat) : Option Mode :=
  match high with
  | some first =>
    if 0xDC00 ≤ value && value ≤ 0xDFFF then
      some (.text (Char.ofNat (0x10000 + (first - 0xD800) * 0x400 + (value - 0xDC00)) :: taken))
    else none
  | none =>
    if 0xD800 ≤ value && value ≤ 0xDBFF then some (.pairBackslash taken value)
    else if 0xDC00 ≤ value && value ≤ 0xDFFF then none
    else some (.text (Char.ofNat value :: taken))

/-- **One step of the first pass.** -/
def Scan.step (scan : Scan) (c : Char) : Option Scan :=
  match scan.mode with
  | .between => Scan.begin scan.found c
  | .word taken =>
    if isWordChar c then some ⟨scan.found, .word (c :: taken)⟩
    else (wordToken? taken).bind fun token => Scan.begin (token :: scan.found) c
  | .text taken =>
    if c == '"' then some ⟨.text (String.ofList taken.reverse) :: scan.found, .between⟩
    else if c == '\\' then some ⟨scan.found, .escape taken⟩
    else if c.toNat < 32 then none
    else some ⟨scan.found, .text (c :: taken)⟩
  | .escape taken =>
    if c == 'u' then some ⟨scan.found, .unit taken none 4 0⟩
    else (escapeLetter? c).map fun d => ⟨scan.found, .text (d :: taken)⟩
  | .unit taken high left value =>
    (hexValue? c).bind fun digit =>
      if left ≤ 1 then (closeUnit taken high (16 * value + digit)).map (⟨scan.found, ·⟩)
      else some ⟨scan.found, .unit taken high (left - 1) (16 * value + digit)⟩
  | .pairBackslash taken high =>
    if c == '\\' then some ⟨scan.found, .pairLetter taken high⟩ else none
  | .pairLetter taken high =>
    if c == 'u' then some ⟨scan.found, .unit taken (some high) 4 0⟩ else none

/-- **The first pass:** the marks, texts and words of a text, in order. -/
def tokens? (cs : List Char) : Option (List Token) :=
  (cs.foldlM Scan.step ⟨[], .between⟩).bind fun scan =>
    match scan.mode with
    | .between => some scan.found.reverse
    | .word taken => (wordToken? taken).map fun token => (token :: scan.found).reverse
    | _ => none

/-- An open container with what it holds so far, an array's items newest first. -/
inductive Frame where
  | array (items : List Json)
  | object (members : Dict Json) (name : String)

/-- What may come next. -/
inductive Expect where
  | value
  | valueOrClose
  | nameOrClose
  | name
  | colon
  | commaOrClose
  | nothing (document : Json)

/-- The second pass: the open containers, innermost first, and what may come next. -/
structure Build where
  frames : List Frame
  expect : Expect

/-- Containers may be nested this deep. -/
def maxDepth : Nat := 127

/-- Hands a complete document to the innermost open container. -/
def Build.complete (frames : List Frame) (document : Json) : Build :=
  match frames with
  | [] => ⟨[], .nothing document⟩
  | .array items :: outer => ⟨.array (document :: items) :: outer, .commaOrClose⟩
  | .object members name :: outer => ⟨.object (members.insert name document) name :: outer, .commaOrClose⟩

/-- Opens a container, unless too many are open. -/
def Build.enter (build : Build) (frame : Frame) (expect : Expect) : Option Build :=
  if build.frames.length < maxDepth then some ⟨frame :: build.frames, expect⟩ else none

/-- A step where a value may come. -/
def Build.value (build : Build) : Token → Option Build
  | .openArray => build.enter (.array []) .valueOrClose
  | .openObject => build.enter (.object ∅ "") .nameOrClose
  | .text value => some (Build.complete build.frames (.text value))
  | .scalar value => some (Build.complete build.frames value)
  | _ => none

/-- A step where the name of a member must come. -/
def Build.name (build : Build) (value : String) : Option Build :=
  match build.frames with
  | .object members _ :: outer => some ⟨.object members value :: outer, .colon⟩
  | _ => none

/-- **One step of the second pass.** -/
def Build.step (build : Build) (token : Token) : Option Build :=
  match build.expect, token, build.frames with
  | .value, token, _ => build.value token
  | .valueOrClose, .closeArray, .array items :: outer =>
    some (Build.complete outer (.array items.reverse))
  | .valueOrClose, token, _ => build.value token
  | .nameOrClose, .closeObject, .object members _ :: outer =>
    some (Build.complete outer (.object members))
  | .nameOrClose, .text value, _ => build.name value
  | .name, .text value, _ => build.name value
  | .colon, .colon, frames => some ⟨frames, .value⟩
  | .commaOrClose, .comma, .array items :: outer => some ⟨.array items :: outer, .value⟩
  | .commaOrClose, .comma, .object members name :: outer =>
    some ⟨.object members name :: outer, .name⟩
  | .commaOrClose, .closeArray, .array items :: outer =>
    some (Build.complete outer (.array items.reverse))
  | .commaOrClose, .closeObject, .object members _ :: outer =>
    some (Build.complete outer (.object members))
  | _, _, _ => none

/-- **Reading a document:** one JSON value with nothing but blanks around it. -/
def read? (s : String) : Option Json :=
  (tokens? s.toList).bind fun tokens =>
    (tokens.foldlM Build.step ⟨[], .value⟩).bind fun build =>
      match build.expect with
      | .nothing document => some document
      | _ => none

end Json
end MailMerge
