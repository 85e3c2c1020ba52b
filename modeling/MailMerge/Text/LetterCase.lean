/-
# Upper and lower case

The case of a text is changed character by character, a character becoming one
or more. One letter looks around it: a capital sigma that ends a word becomes
`ς`, any other `σ`. It ends a word when, passing over characters that have no
say in case, a cased character stands before it and none after it.
-/

import MailMerge.Text.CaseTable

namespace MailMerge
namespace Text

/-- The other case of `c` in a table of runs, `c` itself when it has none. -/
def CaseRun.apply (runs : List CaseRun) (c : Char) : Char :=
  let n := c.toNat
  match runs.find? fun run => run.first ≤ n && n ≤ run.last && (n - run.first) % run.stride == 0 with
  | some run => Char.ofNat (n + run.shift).toNat
  | none => c

/-- The case of `c` by a table of expansions and one of runs. -/
def changeCase (expansions : List (Nat × List Nat)) (runs : List CaseRun) (c : Char) : List Char :=
  match expansions.find? fun entry => entry.1 == c.toNat with
  | some entry => entry.2.map Char.ofNat
  | none => [CaseRun.apply runs c]

/-- The upper case of one character. -/
def upperOf (c : Char) : List Char :=
  if 'a' ≤ c && c ≤ 'z' then [Char.ofNat (c.toNat - 32)]
  else if c.toNat < 128 then [c]
  else changeCase upperExpansions upperRuns c

/-- The lower case of one character on its own. -/
def lowerOf (c : Char) : List Char :=
  if 'A' ≤ c && c ≤ 'Z' then [Char.ofNat (c.toNat + 32)]
  else if c.toNat < 128 then [c]
  else changeCase lowerExpansions lowerRuns c

/-- **Upper case** of a text. -/
def upcase (s : String) : String := String.ofList (s.toList.flatMap upperOf)

/-- The first character that has a say in case has case. -/
def meetsCased (cs : List Char) : Bool :=
  match cs.dropWhile caseIgnorableRanges.has with
  | c :: _ => casedRanges.has c
  | [] => false

/-- The lower case of a text whose characters `before`, nearest first, precede it. -/
def lowerAfter (before : List Char) : List Char → List Char
  | [] => []
  | c :: cs =>
    let lowered :=
      if c == 'Σ' then (if meetsCased before && !meetsCased cs then ['ς'] else ['σ'])
      else lowerOf c
    lowered ++ lowerAfter (c :: before) cs

/-- **Lower case** of a text, a sigma at the end of a word written as such. -/
def downcase (s : String) : String := String.ofList (lowerAfter [] s.toList)

/-- **Capitalising:** the first character in upper case, the others in lower
case, each on its own. -/
def capitalize (s : String) : String :=
  match s.toList with
  | [] => ""
  | c :: cs => String.ofList (upperOf c ++ cs.flatMap lowerOf)

end Text
end MailMerge
