/-
# Drawing up an outline

The tree is walked once in the environment of the data that all recipients share.
What reads no personal name is rendered at once, faults contained as in any
rendering. An output that reads one becomes a placeholder. So does a conditional
whose predicates read one: its branches are all drawn up, and each becomes
sections with guards.

| branch body | becomes |
| --- | --- |
| without a choice in it | one section, even if it is empty |
| with choices in it | one section for each run of fragments between them, and the choices themselves under the branch's guard |

A signal to stop inside a branch ends the branch's text with the mark at which
all output stops, and has no effect on the branches after it. The first choice of
the last branch that can be reached reports the faults of the conditional's
predicates. Text that holds the opening mark of keys is refused.
-/

import MailMerge.Outline.Basic
import MailMerge.Render.Walk

namespace MailMerge
namespace Outline

open Render (Env)
open MailMerge.Tree (Node Branch Output Document)

/-- **A draft:** the fragments of some nodes, what fills their placeholders, and
their sections. -/
structure Draft where
  fragments : List Fragment
  producers : Dict Producer
  sections : Dict (List Fragment)

namespace Draft

/-- The draft of nothing. -/
def empty : Draft := ⟨[], ∅, ∅⟩

/-- Adds a fragment. -/
def push (draft : Draft) (fragment : Fragment) : Draft :=
  { draft with fragments := pushFragment draft.fragments fragment }

/-- Takes over what fills placeholders and the sections of another draft. -/
def register (draft child : Draft) : Draft :=
  { draft with
    producers := draft.producers.overlay child.producers
    sections := draft.sections.overlay child.sections }

/-- Takes over a whole draft at the end of this one. -/
def absorb (draft child : Draft) : Draft :=
  child.fragments.foldl push (draft.register child)

/-- **Adds text,** unless it holds the opening mark of keys. -/
def pushText (format : KeyFormat) (draft : Draft) (text : String) : Except Fault Draft :=
  if Text.contains text format.opening then .error (.reservedText text)
  else if text.isEmpty then .ok draft
  else .ok (draft.push (.literal text))

/-- Puts a choice under a guard. -/
def guardChoice (draft : Draft) (key : String) (guard : Guard) : Draft :=
  { draft with
    producers := draft.producers.modify key fun
      | .choice choice => .choice { choice with guard := choice.guard.under guard }
      | producer => producer }

/-- Lets the choice that a fragment stands for report a conditional. -/
def reportTo (draft : Draft) (owner : Nat) : Option Fragment → Draft
  | some (.choice key) =>
    { draft with
      producers := draft.producers.modify key fun
        | .choice choice => .choice { choice with reports := choice.reports ++ [owner] }
        | producer => producer }
  | _ => draft

/-- **Adds a section:** its fragments under one key, and the choice that shows it
under another. -/
def addSection (draft : Draft) (ring : Keyring) (branch run : Nat) (body : List Fragment)
    (guard : Guard) : Draft × Keyring :=
  let (bodyKey, ring) := ring.take (.body branch run)
  let (choiceKey, ring) := ring.take (.choice branch run)
  let registered := { draft with
    producers := draft.producers.insert choiceKey (.choice ⟨guard, bodyKey, []⟩)
    sections := draft.sections.insert bodyKey body }
  (registered.push (.choice choiceKey), ring)

/-- Adds the run of fragments before a choice as a section, if there is one. -/
def addRun (draft : Draft) (ring : Keyring) (branch runs : Nat) (run : List Fragment)
    (guard : Guard) : Draft × Keyring × Nat :=
  if run.isEmpty then (draft, ring, runs)
  else
    let (draft, ring) := draft.addSection ring branch runs run guard
    (draft, ring, runs + 1)

/-- **Adds a body with choices in it.** `run` are the fragments since the last
choice and `runs` the number of sections so far. -/
def addRuns (branch : Nat) (guard : Guard) :
    Draft → Keyring → Nat → List Fragment → List Fragment → Draft × Keyring
  | draft, ring, runs, run, [] =>
    let (draft, ring, _) := draft.addRun ring branch runs run guard
    (draft, ring)
  | draft, ring, runs, run, .choice key :: rest =>
    let (draft, ring, runs) := draft.addRun ring branch runs run guard
    addRuns branch guard ((draft.guardChoice key guard).push (.choice key)) ring runs [] rest
  | draft, ring, runs, run, fragment :: rest =>
    addRuns branch guard draft ring runs (run ++ [fragment]) rest

/-- **Adds the body of a branch:** as one section, or as a section per run. -/
def addBranch (draft : Draft) (ring : Keyring) (branch : Nat) (guard : Guard) (child : Draft) :
    Draft × Keyring :=
  let registered := draft.register child
  if child.fragments.any Fragment.isChoice then
    addRuns branch guard registered ring 0 [] child.fragments
  else registered.addSection ring branch 0 child.fragments guard

end Draft

/-- **What is carried along while an outline is drawn up:** the environment, the
keyring, and the key at which output stops once it is needed. -/
structure Walker where
  env : Env
  ring : Keyring
  halt : Option String

/-- The key of a slot. -/
def Walker.take (walker : Walker) (slot : Slot) : String × Walker :=
  let (key, ring) := walker.ring.take slot
  (key, { walker with ring := ring })

/-- The result of drawing something up. -/
abbrev Drawn := Except Fault Draft × Walker

/-- Adds what rendering gave to a draft; a fault is contained first. -/
def Walker.addOutcome (walker : Walker) (draft : Draft) (outcome : Render.Outcome) : Drawn :=
  match outcome.contained with
  | (.ok text, env) => (draft.pushText walker.ring.format text, { walker with env := env })
  | (.error fault, env) => (.error (.shared fault), { walker with env := env })

/-- Ends a body with the mark at which output stops, if it raised a signal to
stop, and drops the signal. -/
def Walker.closeBody (walker : Walker) (depth : Nat) (body : Draft) : Draft × Walker :=
  if depth < walker.env.interrupts.length then
    let (key, walker) := walker.take .halt
    (body.push (.halt key),
      { walker with env := walker.env.dropInterrupts depth, halt := some key })
  else (body, { walker with env := walker.env.dropInterrupts depth })

/-- Some predicate reads a personal name. -/
def isPersonal (env : Env) (branches : List (Branch Node)) : Bool :=
  branches.any fun branch =>
    match branch.predicate with
    | some condition => env.selects condition.names
    | none => false

mutual

/-- **Draws up nodes in order** at the end of a draft, up to the first signal to stop. -/
def drawAll (walker : Walker) (draft : Draft) : List Node → Drawn
  | [] => (.ok draft, walker)
  | node :: nodes =>
    if walker.env.interrupted then (.ok draft, walker)
    else match node with
      | .tag _ (.interrupt signal) =>
        (.ok draft, { walker with env := walker.env.interrupt signal })
      | node =>
        match drawNode walker draft node with
        | (.ok next, after) => drawAll after next nodes
        | (.error fault, after) => (.error fault, after)
termination_by structural nodes => nodes

/-- **Draws up one node** at the end of a draft. -/
def drawNode (walker : Walker) (draft : Draft) : Node → Drawn
  | .text raw => (draft.pushText walker.ring.format raw, walker)
  | .output output =>
    if walker.env.selects output.names then
      let (key, after) := walker.take (.output output.id)
      let registered := { draft with producers := draft.producers.insert key (.output output) }
      (.ok (registered.push (.output key)), after)
    else walker.addOutcome draft (Render.renderOutput walker.env output, walker.env)
  | .tag head action => walker.addOutcome draft (Render.runTag action head.markup walker.env)
  | .block _ body =>
    match drawAll walker .empty body with
    | (.ok child, after) => (.ok (draft.absorb child), after)
    | (.error fault, after) => (.error fault, after)
  | .conditional _ branches =>
    let inside := { walker with env := walker.env.enter ∅ }
    let (result, after) :=
      if isPersonal walker.env branches then
        drawBranches ((Tree.conditionalId? branches).getD 0) [] none .empty inside branches
      else drawChosen inside branches
    let outside := { after with env := after.env.leave }
    match result with
    | .ok child => (.ok (draft.absorb child), outside)
    | .error fault => (.error fault, outside)
termination_by structural node => node

/-- **Draws up the branch whose predicate holds** of a conditional that reads no
personal name. -/
def drawChosen (walker : Walker) : List (Branch Node) → Drawn
  | [] => (.ok .empty, walker)
  | ⟨_, predicate, body⟩ :: branches =>
    match predicate with
    | none => drawAll walker .empty body
    | some condition =>
      match Render.evalCondition walker.env condition with
      | .error fault => walker.addOutcome .empty (.error fault, walker.env)
      | .ok true => drawAll walker .empty body
      | .ok false => drawChosen walker branches
termination_by structural branches => branches

/-- **Draws up every branch** of a conditional that reads a personal name, up to
the first one without a predicate. `passed` are the predicates passed over, and
`reporter` is the first fragment of the branch before. -/
def drawBranches (owner : Nat) (passed : List BranchCondition) (reporter : Option Fragment)
    (draft : Draft) (walker : Walker) : List (Branch Node) → Drawn
  | [] => (.ok (draft.reportTo owner reporter), walker)
  | ⟨id, predicate, body⟩ :: branches =>
    match drawAll walker .empty body with
    | (.error fault, after) => (.error fault, after)
    | (.ok child, after) =>
      let own := predicate.map fun condition => (⟨id, owner, condition⟩ : BranchCondition)
      let (child, after) := after.closeBody walker.env.interrupts.length child
      let (next, ring) := draft.addBranch after.ring id (Guard.ofBranch own passed) child
      let after := { after with ring := ring }
      let first := next.fragments[draft.fragments.length]?
      match own with
      | none => (.ok (next.reportTo owner first), after)
      | some condition => drawBranches owner (passed ++ [condition]) first next after branches
termination_by structural branches => branches

end

/-- **The outline of a document** in an environment, with the environment and the
keyring as they are afterwards, also where it fails. -/
def ofDocument (document : Document) (env : Env) (ring : Keyring) :
    Except Fault Outline × Env × Keyring :=
  match drawAll ⟨env, ring, none⟩ .empty document.nodes with
  | (.error fault, after) => (.error fault, after.env, after.ring)
  | (.ok draft, after) =>
    (.ok
      { fragments := draft.fragments
        producers := draft.producers
        sections := draft.sections
        format := after.ring.format
        halt := after.halt },
      after.env, after.ring)

end Outline
end MailMerge
