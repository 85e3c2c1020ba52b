/-
# The table of a batch

For every recipient each placeholder is filled once, with the recipient's own
values laid over the shared ones. The table has a column per placeholder and an
entry per recipient in it. Recipients are gone through in order and, for each,
placeholders in the order of their keys, so the first failure in that order is
the failure of the batch.
-/

import MailMerge.Outline.Basic

namespace MailMerge
namespace Outline

open Render (Env Scope)

/-- **The recipients of a batch:** for every name one value per recipient. -/
abbrev Recipients := Dict (List Value)

/-- **A table:** for every key one text per recipient. -/
abbrev Table := Dict (List String)

/-- All columns have `expected` entries, or the first that has not. -/
def checkLengths (expected : Nat) : List (String × List Value) → Except Fault Unit
  | [] => .ok ()
  | (name, values) :: rest =>
    if values.length = expected then checkLengths expected rest
    else .error (.lengthMismatch name expected values.length)

/-- **The number of recipients.** There must be at least one, and every name must
have as many values as the first. -/
def Recipients.count (recipients : Recipients) : Except Fault Nat :=
  match recipients.pairs with
  | [] => .error .emptyRecipients
  | (_, first) :: rest =>
    match checkLengths first.length rest with
    | .error fault => .error fault
    | .ok () => if first.isEmpty then .error .emptyRecipients else .ok first.length

/-- **The own values of one recipient.** -/
def Recipients.scope (recipients : Recipients) (index : Nat) : Scope :=
  recipients.mapEntries fun values => values[index]?.getD .nil

/-- **Filling one placeholder** for recipient `index`, whose values are in the
environment. A fault is contained, which records it in the environment that the
placeholders after it are filled in. The text of an output must not hold the
opening mark of keys. -/
def fillCell (format : KeyFormat) (env : Env) (index : Nat) (producer : Producer) :
    Except Fault String × Env :=
  let (filled, after) : Except Render.Fault String × Env := match producer.render env with
    | .ok text => (.ok text, env)
    | .error fault => env.contain fault
  match filled, producer with
  | .error fault, _ => (.error (.personal index fault), after)
  | .ok text, .output _ =>
    (if Text.contains text format.opening then .error (.reservedText text) else .ok text, after)
  | .ok text, .choice _ => (.ok text, after)

/-- The text of one placeholder for recipient `index`. -/
def cell (format : KeyFormat) (env : Env) (index : Nat) (producer : Producer) :
    Except Fault String := (fillCell format env index producer).1

/-- The texts of all placeholders for one recipient. -/
def cells (format : KeyFormat) (env : Env) (index : Nat) : List Producer → Except Fault (List String)
  | [] => .ok []
  | producer :: producers =>
    match fillCell format env index producer with
    | (.error fault, _) => .error fault
    | (.ok text, after) =>
      match cells format after index producers with
      | .error fault => .error fault
      | .ok texts => .ok (text :: texts)

/-- The texts of the recipients with the given numbers. -/
def rows (outline : Outline) (base : Env) (recipients : Recipients) :
    List Nat → Except Fault (List (List String))
  | [] => .ok []
  | index :: rest =>
    let env := base.enter (recipients.scope index)
    match cells outline.format env index outline.producers.entries with
    | .error fault => .error fault
    | .ok row =>
      match rows outline base recipients rest with
      | .error fault => .error fault
      | .ok more => .ok (row :: more)

/-- The columns of rows, under their keys. -/
def columns : List String → List (List String) → List (String × List String)
  | [], _ => []
  | key :: keys, rows => (key, rows.filterMap List.head?) :: columns keys (rows.map List.tail)

/-- **The table of an outline** for a batch of recipients. -/
def table (outline : Outline) (base : Env) (recipients : Recipients) : Except Fault Table :=
  match recipients.count with
  | .error fault => .error fault
  | .ok count =>
    match rows outline base recipients (List.range count) with
    | .error fault => .error fault
    | .ok found => .ok ⟨columns outline.producers.keys found⟩

end Outline
end MailMerge
