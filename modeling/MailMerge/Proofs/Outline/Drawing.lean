/-
# Steps of drawing up

Nodes are drawn up one after the other, a signal to stop ends them, and a draft
that takes over another one gets its fragments, pushed one by one, and what it
has registered.
-/

import MailMerge.Outline.Draft
import MailMerge.Proofs.Tree.Items

namespace MailMerge
namespace Outline

open MailMerge.Tree (Node Branch)
open Render (Interrupt)
open Source (TagHead)

/-- What a node does to a draft in a row of nodes, if it is no signal to stop. -/
theorem drawAll_cons {node : Node} (plain : node.signal? = none) (walker : Walker) (draft : Draft)
    (nodes : List Node) :
    drawAll walker draft (node :: nodes) =
      if walker.env.interrupted then (.ok draft, walker)
      else match drawNode walker draft node with
        | (.ok next, after) => drawAll after next nodes
        | (.error fault, after) => (.error fault, after) := by
  match node with
  | .text _ => rfl
  | .output _ => rfl
  | .block _ _ => rfl
  | .conditional _ _ => rfl
  | .tag _ (.leaf _) => rfl

/-- A signal to stop ends a row of nodes. -/
theorem drawAll_signal {node : Node} {signal : Interrupt} (stop : node.signal? = some signal)
    (walker : Walker) (draft : Draft) (nodes : List Node) :
    drawAll walker draft (node :: nodes) =
      if walker.env.interrupted then (.ok draft, walker)
      else (.ok draft, { walker with env := walker.env.interrupt signal }) := by
  match node with
  | .tag _ (.interrupt _) =>
    obtain rfl := Option.some.inj stop
    rfl

/-- Nodes are passed over while a signal to stop is pending. -/
theorem drawAll_interrupted {walker : Walker} (pending : walker.env.interrupted) (draft : Draft)
    (nodes : List Node) : drawAll walker draft nodes = (.ok draft, walker) := by
  cases nodes with
  | nil => rfl
  | cons node rest =>
    cases stop : node.signal? with
    | some signal => rw [drawAll_signal stop, if_pos pending]
    | none => rw [drawAll_cons stop, if_pos pending]

/-- **Nodes after a signal that is left pending** make no difference to drawing up. -/
theorem drawAll_append_of_interrupted (nodes more : List Node) (walker : Walker) (draft : Draft)
    (pending : (drawAll walker draft nodes).2.env.interrupted) :
    drawAll walker draft (nodes ++ more) = drawAll walker draft nodes := by
  induction nodes generalizing walker draft with
  | nil => exact drawAll_interrupted pending draft more
  | cons node rest ih =>
    rw [List.cons_append]
    cases stop : node.signal? with
    | some signal => rw [drawAll_signal stop, drawAll_signal stop]
    | none =>
      rw [drawAll_cons stop] at pending
      rw [drawAll_cons stop, drawAll_cons stop]
      split
      · rfl
      · rename_i goes
        rw [if_neg goes] at pending
        split
        · rename_i next after drawn
          rw [drawn] at pending
          exact ih after next pending
        · rfl

/-- **A draft takes over what was drawn up** apart from it, if that did not fail. -/
def Draft.takeOver (draft : Draft) (drawn : Drawn) : Drawn := (drawn.1.map draft.absorb, drawn.2)

/-- What is drawn up inside a conditional, with its scope left again. -/
def outside (drawn : Drawn) : Drawn := (drawn.1, { drawn.2 with env := drawn.2.env.leave })

/-- What is drawn up of the branches of a conditional, in the scope it opens. -/
def drawInside (walker : Walker) (branches : List (Branch Node)) : Drawn :=
  let inside := { walker with env := walker.env.enter ∅ }
  if isPersonal walker.env branches then
    drawBranches ((Tree.conditionalId? branches).getD 0) [] none .empty inside branches
  else drawChosen inside branches

/-- A block is drawn up as its body. -/
theorem drawNode_block (walker : Walker) (draft : Draft) (head : TagHead) (body : List Node) :
    drawNode walker draft (.block head body) = draft.takeOver (drawAll walker .empty body) := by
  rw [drawNode, Draft.takeOver]
  split <;> simp [*, Except.map]

/-- **A conditional is drawn up** inside a scope of its own. -/
theorem drawNode_conditional (walker : Walker) (draft : Draft) (head : TagHead)
    (branches : List (Branch Node)) :
    drawNode walker draft (.conditional head branches) =
      draft.takeOver (outside (drawInside walker branches)) := by
  rw [drawNode]
  simp only [Draft.takeOver, outside, drawInside]
  split <;> rename_i h <;> simp [h, Except.map]

/-- **An output that is put off** is a placeholder, under the key of its slot. -/
def Draft.putOff (draft : Draft) (walker : Walker) (output : Tree.Output) : Drawn :=
  let (key, after) := walker.take (.output output.id)
  let registered := { draft with producers := draft.producers.insert key (.output output) }
  (.ok (registered.push (.output key)), after)

/-- An output that reads a personal name is put off, and another one is rendered. -/
theorem drawNode_output (walker : Walker) (draft : Draft) (output : Tree.Output) :
    drawNode walker draft (.output output) =
      if walker.env.selects output.names then draft.putOff walker output
      else walker.addOutcome draft (Render.renderOutput walker.env output, walker.env) := rfl

/-- **A branch is added** after its body has been drawn up: the body ends where output stops if
it raised a signal to stop, and goes under the guard of the branch. -/
def Draft.addDrawn (draft : Draft) (depth branch : Nat) (guard : Guard) (child : Draft)
    (walker : Walker) : Draft × Walker :=
  let (child, closed) := walker.closeBody depth child
  let (next, ring) := draft.addBranch closed.ring branch guard child
  (next, { closed with ring := ring })

/-- Closing a body drops signals. -/
theorem closeBody_env {draft : Draft} (walker : Walker) (depth : Nat) :
    (walker.closeBody depth draft).2.env = walker.env.dropInterrupts depth := by
  unfold Walker.closeBody
  split <;> rfl

/-- A result that is there is what was found. -/
theorem eq_ok_of_toOption {ε α : Type} {result : Except ε α} {found : α}
    (h : result.toOption = some found) : result = .ok found := by
  cases result with
  | error fault => cases h
  | ok other => rw [Option.some.inj h]

/-- **What goes on after something has been drawn up,** if that did not fail. -/
def Drawn.andThen (drawn : Drawn) (next : Draft → Walker → Drawn) : Drawn :=
  match drawn with
  | (.error fault, after) => (.error fault, after)
  | (.ok child, after) => next child after

/-- What has been drawn up without a fault. -/
def Drawn.done (drawn : Draft × Walker) : Drawn := (.ok drawn.1, drawn.2)

/-- Taking over goes on after what was drawn up. -/
theorem Draft.takeOver_eq_andThen (draft : Draft) (drawn : Drawn) :
    draft.takeOver drawn = drawn.andThen fun child after => (.ok (draft.absorb child), after) := by
  obtain ⟨_ | child, after⟩ := drawn <;> rfl

/-- While no signal to stop is pending, the nodes after a node are drawn up after it. -/
theorem drawAll_next {node : Node} (plain : node.signal? = none) {walker : Walker}
    (goes : ¬ walker.env.interrupted) (draft : Draft) (nodes : List Node) :
    drawAll walker draft (node :: nodes) =
      Drawn.andThen (drawNode walker draft node) fun next after => drawAll after next nodes := by
  rw [drawAll_cons plain, if_neg goes]
  obtain ⟨_ | next, after⟩ := drawNode walker draft node <;> rfl

/-- The branch for everything else is the last one that is drawn up. -/
theorem drawBranches_else (owner : Nat) (passed : List BranchCondition)
    (reporter : Option Fragment) (draft : Draft) (walker : Walker) (id : Nat) (body : List Node)
    (branches : List (Branch Node)) :
    drawBranches owner passed reporter draft walker (⟨id, none, body⟩ :: branches) =
      Drawn.andThen (drawAll walker .empty body) fun child after =>
        (Drawn.done (draft.addDrawn walker.env.interrupts.length id (Guard.ofBranch none passed)
          child after)).andThen fun next last =>
            (.ok (next.reportTo owner next.fragments[draft.fragments.length]?), last) := by
  rw [drawBranches]
  rfl

/-- A branch with a predicate is drawn up, and then those after it. -/
theorem drawBranches_cons (owner : Nat) (passed : List BranchCondition)
    (reporter : Option Fragment) (draft : Draft) (walker : Walker) (id : Nat)
    (predicate : Markup.Condition) (body : List Node) (branches : List (Branch Node)) :
    drawBranches owner passed reporter draft walker (⟨id, some predicate, body⟩ :: branches) =
      Drawn.andThen (drawAll walker .empty body) fun child after =>
        (Drawn.done (draft.addDrawn walker.env.interrupts.length id
          (Guard.ofBranch (some ⟨id, owner, predicate⟩) passed) child after)).andThen fun next last =>
            drawBranches owner (passed ++ [⟨id, owner, predicate⟩])
              next.fragments[draft.fragments.length]? next last branches := by
  rw [drawBranches]
  rfl

namespace Draft

theorem push_fragments (draft : Draft) (fragment : Fragment) :
    (draft.push fragment).fragments = pushFragment draft.fragments fragment := rfl

/-- Pushing fragments one by one is pushing them onto the fragments alone. -/
theorem foldl_push (fragments : List Fragment) (draft : Draft) :
    fragments.foldl push draft =
      { draft with fragments := fragments.foldl pushFragment draft.fragments } := by
  induction fragments generalizing draft with
  | nil => rfl
  | cons fragment rest ih => rw [List.foldl_cons, ih]; rfl

/-- **What taking over a draft gives.** -/
theorem absorb_eq (draft child : Draft) :
    draft.absorb child =
      { fragments := child.fragments.foldl pushFragment draft.fragments
        producers := draft.producers.overlay child.producers
        sections := draft.sections.overlay child.sections } := by
  rw [absorb, foldl_push]
  rfl

end Draft

/-- Pushing fragments onto others adds their text. -/
theorem textOf_foldl_pushFragment (more fragments : List Fragment) :
    textOf (more.foldl pushFragment fragments) = textOf fragments ++ textOf more := by
  induction more generalizing fragments with
  | nil => simp [textOf]
  | cons fragment rest ih =>
    rw [List.foldl_cons, ih, textOf_pushFragment, textOf, String.append_assoc]

end Outline
end MailMerge
