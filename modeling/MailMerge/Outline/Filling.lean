/-
# Filling in an outline

The texts of the recipients are made from the text of an outline, a table and the
texts of the sections by replacing keys. One pass replaces every key of the table
by the recipient's entry, in the text and in the sections, then every key of a
section by that section, and cuts the text off at the mark where output stops.
Passes are made until one finds nothing to replace. Longer keys go first, so no
key is replaced inside a longer one.

A chain of sections takes at most one pass per section, so a text that has not
settled after two passes more than there are sections never will.
-/

import MailMerge.Outline.Table
import MailMerge.Text.Search

namespace MailMerge
namespace Outline

/-- Puts an item before the first that is no longer than it. -/
def insertByLength {α : Type} (item : String × α) : List (String × α) → List (String × α)
  | [] => [item]
  | other :: rest =>
    if Text.size item.1 < Text.size other.1 then other :: insertByLength item rest
    else item :: other :: rest

/-- **Longest keys first,** keys of one length in the order they had. Empty keys
are left out, since they stand for nothing in a text. -/
def longestFirst {α : Type} (items : List (String × α)) : List (String × α) :=
  (items.filter fun item => !item.1.isEmpty).foldr insertByLength []

/-- **A text being filled in,** with the sections as far as they are filled in,
and whether the pass has replaced anything. -/
structure Work where
  output : String
  bodies : Dict String
  changed : Bool

/-- Replaces a key in a text, and says whether it was there. -/
def replaceKey (key value text : String) : String × Bool :=
  if Text.contains text key then (Text.replaceAll text key value, true) else (text, false)

/-- Replaces a key in the sections, except in one that has the name `exempt`. -/
def replaceInBodies (key value : String) (exempt : Option String) :
    List (String × String) → List (String × String) × Bool
  | [] => ([], false)
  | (name, body) :: rest =>
    let (rest, changedRest) := replaceInBodies key value exempt rest
    if exempt = some name then ((name, body) :: rest, changedRest)
    else
      let (body, changed) := replaceKey key value body
      ((name, body) :: rest, changed || changedRest)

/-- Replaces a key in the text and in the sections. -/
def Work.replace (work : Work) (key value : String) (exempt : Option String) : Work :=
  let (output, changedOutput) := replaceKey key value work.output
  let (bodies, changedBodies) := replaceInBodies key value exempt work.bodies.pairs
  ⟨output, ⟨bodies⟩, work.changed || changedOutput || changedBodies⟩

/-- Replaces the keys of the table by the entries of one recipient. -/
def Work.replaceCells (work : Work) (cells : List (String × String)) : Work :=
  cells.foldl (fun work cell => work.replace cell.1 cell.2 none) work

/-- Replaces the keys of the sections by the sections as far as they are filled in. -/
def Work.replaceSections (work : Work) (keys : List String) : Work :=
  keys.foldl (fun work key => work.replace key ((work.bodies.find? key).getD "") (some key)) work

/-- Cuts the text off where all output stops. -/
def Work.cutAt (work : Work) (halt : Option String) : Work :=
  match halt with
  | none => work
  | some key =>
    match Text.beforeFirst? work.output key with
    | some before => { work with output := before }
    | none => work

/-- **One pass** over the text and the sections. -/
def pass (cells : List (String × String)) (keys : List String) (halt : Option String)
    (output : String) (bodies : Dict String) : Work :=
  (((⟨output, bodies, false⟩ : Work).replaceCells cells).replaceSections keys).cutAt halt

/-- **Passes until nothing changes,** at most so many. -/
def settle (cells : List (String × String)) (keys : List String) (halt : Option String) :
    Nat → String → Dict String → Option String
  | 0, _, _ => none
  | passes + 1, output, bodies =>
    let work := pass cells keys halt output bodies
    if work.changed then settle cells keys halt passes work.output work.bodies
    else some work.output

/-- The entries of one recipient. -/
def entriesOf (columns : List (String × List String)) (index : Nat) : List (String × String) :=
  columns.map fun column => (column.1, column.2[index]?.getD "")

/-- The texts of the recipients with the given numbers. -/
def fillEach (text : String) (columns : List (String × List String)) (sections : Dict String)
    (halt : Option String) : List Nat → Except Fault (List String)
  | [] => .ok []
  | index :: rest =>
    let bodies : Dict String := ⟨sections.pairs.filter fun body => !body.1.isEmpty⟩
    let keys := (longestFirst sections.pairs).map (·.1)
    match settle (entriesOf columns index) keys halt (sections.size + 2) text bodies with
    | none => .error (.unresolved index)
    | some output =>
      match fillEach text columns sections halt rest with
      | .error fault => .error fault
      | .ok outputs => .ok (output :: outputs)

/-- All columns have `count` entries, or the first that has not. -/
def checkColumns (count : Nat) : List (String × List String) → Except Fault Unit
  | [] => .ok ()
  | (key, column) :: rest =>
    if column.length = count then checkColumns count rest
    else .error (.tableMismatch key count column.length)

/-- **Filling in a text** for `count` recipients. -/
def fill (text : String) (table : Table) (sections : Dict String) (count : Nat)
    (halt : Option String) : Except Fault (List String) :=
  match checkColumns count table.pairs with
  | .error fault => .error fault
  | .ok () => fillEach text (longestFirst table.pairs) sections halt (List.range count)

/-- **Filling in a text** for as many recipients as the table has entries for. -/
def fillText (text : String) (table : Table) (sections : Dict String) : Except Fault (List String) :=
  match table.pairs with
  | [] => .error .emptyRecipients
  | (_, column) :: _ =>
    if column.isEmpty then .error .emptyRecipients
    else fill text table sections column.length none

/-- **The texts of `count` recipients** from an outline and a table. -/
def strings (outline : Outline) (table : Table) (count : Nat) : Except Fault (List String) :=
  fill outline.text table outline.sectionTexts count outline.halt

/-- **The texts of a batch** of recipients. -/
def batch (outline : Outline) (base : Render.Env) (recipients : Recipients) :
    Except Fault (List String) :=
  match recipients.count with
  | .error fault => .error fault
  | .ok count =>
    match outline.table base recipients with
    | .error fault => .error fault
    | .ok table => outline.strings table count

end Outline
end MailMerge
