/-
# Sketches

A sketch is an outline without keys. Each of its pieces holds what an outline
only refers to: an output, or a whole passage with its guard, the conditionals it
reports and its parts. A sketch is made of nodes as an outline is, and depends on
the environment alone.

| piece | stands for |
| --- | --- |
| literal | text |
| output | the placeholder of an output |
| halt | the mark at which all output stops |
| passage | the placeholder of a choice, and the section it shows |

Passages are never nested. A conditional inside a branch has its passages taken
out under the branch's guard, and the runs of parts between them become passages
of the branch.
-/

import MailMerge.Outline.Draft

namespace MailMerge
namespace Outline

open Render (Env Outcome)
open MailMerge.Tree (Node Branch Output)

/-- **A part:** a piece that is there whatever a predicate says. -/
inductive Part where
  | literal (text : String)
  | output (output : Output)
  | halt

/-- **A passage:** the parts of one run of a branch, shown when the guard holds,
with the conditionals whose faults are reported in its place. -/
structure Passage where
  branch : Nat
  run : Nat
  guard : Guard
  reports : List Nat
  parts : List Part

/-- The passage under an outer guard. -/
def Passage.under (passage : Passage) (guard : Guard) : Passage :=
  { passage with guard := passage.guard.under guard }

/-- The passage with one more conditional to report. -/
def Passage.reporting (passage : Passage) (owner : Nat) : Passage :=
  { passage with reports := passage.reports ++ [owner] }

/-- The first of some passages is to report a conditional. -/
def reportFirst (owner : Nat) : List Passage → List Passage
  | [] => []
  | first :: rest => first.reporting owner :: rest

/-- **A piece of a sketch.** -/
inductive Piece where
  | part (part : Part)
  | passage (passage : Passage)

/-- The piece is a passage. -/
def Piece.isPassage : Piece → Bool
  | .part _ => false
  | .passage _ => true

/-- The parts among pieces. -/
def partsOf : List Piece → List Part
  | [] => []
  | .part part :: rest => part :: partsOf rest
  | .passage _ :: rest => partsOf rest

/-- The passage of a run of parts, none if there are no parts. -/
def passageOfRun (branch run : Nat) (guard : Guard) (parts : List Part) : List Passage :=
  if parts.isEmpty then [] else [⟨branch, run, guard, [], parts⟩]

/-- **The passages of a body with passages in it.** `parts` are the parts since the
last passage and `runs` the number of runs so far. -/
def passagesFrom (branch : Nat) (guard : Guard) : Nat → List Part → List Piece → List Passage
  | runs, parts, [] => passageOfRun branch runs guard parts
  | runs, parts, .part part :: rest => passagesFrom branch guard runs (parts ++ [part]) rest
  | runs, parts, .passage inner :: rest =>
    passageOfRun branch runs guard parts ++
      inner.under guard :: passagesFrom branch guard (if parts.isEmpty then runs else runs + 1) [] rest

/-- **The passages of a branch:** its body as one, or one for each run. -/
def passagesOf (branch : Nat) (guard : Guard) (body : List Piece) : List Passage :=
  if body.any Piece.isPassage then passagesFrom branch guard 0 [] body
  else [⟨branch, 0, guard, [], partsOf body⟩]

/-- The result of sketching: pieces of one kind or another, and the environment afterwards. -/
abbrev Sketched (α : Type) := Except Fault (List α) × Env

/-- The piece that is a text, unless it holds the opening mark of keys. -/
def sketchText (format : KeyFormat) (text : String) : Except Fault (List Piece) :=
  if Text.contains text format.opening then .error (.reservedText text)
  else if text.isEmpty then .ok []
  else .ok [.part (.literal text)]

/-- The piece that rendering gave; a fault is contained first. -/
def sketchOutcome (format : KeyFormat) (outcome : Outcome) : Sketched Piece :=
  match outcome.contained with
  | (.ok text, env) => (sketchText format text, env)
  | (.error fault, env) => (.error (.shared fault), env)

/-- Ends a body with the mark at which all output stops, if a signal to stop was
raised in it, and drops the signal. -/
def closeSketch (depth : Nat) (pieces : List Piece) (env : Env) : List Piece × Env :=
  if depth < env.interrupts.length then (pieces ++ [.part .halt], env.dropInterrupts depth)
  else (pieces, env.dropInterrupts depth)

/-- The passages of a conditional, as pieces after its scope has been left. -/
def passagePieces (sketched : Sketched Passage) : Sketched Piece :=
  (sketched.1.map fun passages => passages.map .passage, sketched.2)

mutual

/-- **Sketches nodes in order,** up to the first signal to stop. -/
def sketchAll (format : KeyFormat) (env : Env) : List Node → Sketched Piece
  | [] => (.ok [], env)
  | node :: nodes =>
    if env.interrupted then (.ok [], env)
    else match node with
      | .tag _ (.interrupt signal) => (.ok [], env.interrupt signal)
      | node =>
        match sketchNode format env node with
        | (.error fault, after) => (.error fault, after)
        | (.ok pieces, after) =>
          match sketchAll format after nodes with
          | (.error fault, last) => (.error fault, last)
          | (.ok more, last) => (.ok (pieces ++ more), last)
termination_by structural nodes => nodes

/-- **Sketches one node.** -/
def sketchNode (format : KeyFormat) (env : Env) : Node → Sketched Piece
  | .text raw => (sketchText format raw, env)
  | .output output =>
    if env.selects output.names then (.ok [.part (.output output)], env)
    else sketchOutcome format (Render.renderOutput env output, env)
  | .tag head action => sketchOutcome format (Render.runTag action head.markup env)
  | .block _ body => sketchAll format env body
  | .conditional _ branches =>
    let (result, after) :=
      if isPersonal env branches then
        passagePieces
          (sketchBranches format ((Tree.conditionalId? branches).getD 0) [] (env.enter ∅) branches)
      else sketchChosen format (env.enter ∅) branches
    (result, after.leave)
termination_by structural node => node

/-- **Sketches the branch whose predicate holds** of a conditional that reads no
personal name. -/
def sketchChosen (format : KeyFormat) (env : Env) : List (Branch Node) → Sketched Piece
  | [] => (.ok [], env)
  | ⟨_, predicate, body⟩ :: branches =>
    match predicate with
    | none => sketchAll format env body
    | some condition =>
      match Render.evalCondition env condition with
      | .error fault => sketchOutcome format (.error fault, env)
      | .ok true => sketchAll format env body
      | .ok false => sketchChosen format env branches
termination_by structural branches => branches

/-- **Sketches every branch** of a conditional that reads a personal name, up to
the first one without a predicate. The first passage of the last of them reports
the conditional. -/
def sketchBranches (format : KeyFormat) (owner : Nat) (passed : List BranchCondition) (env : Env) :
    List (Branch Node) → Sketched Passage
  | [] => (.ok [], env)
  | ⟨id, predicate, body⟩ :: branches =>
    match sketchAll format env body with
    | (.error fault, after) => (.error fault, after)
    | (.ok pieces, after) =>
      let own := predicate.map fun condition => (⟨id, owner, condition⟩ : BranchCondition)
      let (closed, after) := closeSketch env.interrupts.length pieces after
      let passages := passagesOf id (Guard.ofBranch own passed) closed
      match own with
      | none => (.ok (reportFirst owner passages), after)
      | some condition =>
        if branches.isEmpty then (.ok (reportFirst owner passages), after)
        else
          match sketchBranches format owner (passed ++ [condition]) after branches with
          | (.error fault, last) => (.error fault, last)
          | (.ok more, last) => (.ok (passages ++ more), last)
termination_by structural branches => branches

end

end Outline
end MailMerge
