/-
# What a tree is made of

A template's tree is read from its start to its end as a sequence of items: the
outputs, the starts of the branches, and the tags with an action of their own.
What a document reads, which numbers it uses and which actions it can take are
read off the items.
-/

import MailMerge.Tree.Node

namespace MailMerge
namespace Tree

open Markup (Condition)
open Render (Interrupt)

/-- **An item of a tree.** -/
inductive Item where
  | output (output : Output)
  | branch (id : Nat) (predicate : Option Condition)
  | action (action : LeafAction)

/-- The number of an output or a branch. -/
def Item.id? : Item → Option Nat
  | .output source => some source.id
  | .branch id _ => some id
  | .action _ => none

/-- The names an item reads. -/
def Item.names : Item → List String
  | .output source => source.names
  | .branch _ (some predicate) => predicate.names
  | .branch _ none => []
  | .action _ => []

/-- The action of a tag. -/
def Item.action? : Item → Option LeafAction
  | .action run => some run
  | _ => none

mutual

/-- The items of a node. -/
def Node.items : Node → List Item
  | .text _ => []
  | .output output => [.output output]
  | .tag _ (.interrupt _) => []
  | .tag _ (.leaf action) => [.action action]
  | .block _ body => itemsOf body
  | .conditional _ branches => itemsOfBranches branches
termination_by structural node => node

/-- **The items of nodes,** in the order of the source. -/
def itemsOf : List Node → List Item
  | [] => []
  | node :: nodes => node.items ++ itemsOf nodes
termination_by structural nodes => nodes

/-- The items of branches: the start of each, then those of its body. -/
def itemsOfBranches : List (Branch Node) → List Item
  | [] => []
  | ⟨id, predicate, body⟩ :: branches =>
    .branch id predicate :: (itemsOf body ++ itemsOfBranches branches)
termination_by structural branches => branches

end

/-- The numbers of the outputs and branches among items. -/
def idsIn (items : List Item) : List Nat := items.filterMap Item.id?

/-- The names that items read. -/
def namesIn (items : List Item) : List String := items.flatMap Item.names

/-- The actions of tags among items. -/
def actionsIn (items : List Item) : List LeafAction := items.filterMap Item.action?

/-- **The numbers of a document's outputs and branches,** in the order of the source. -/
def Document.ids (document : Document) : List Nat := idsIn (itemsOf document.nodes)

/-- **The names a document reads,** in outputs and predicates. -/
def Document.names (document : Document) : List String := namesIn (itemsOf document.nodes)

/-- **The actions of a document's own tags.** -/
def Document.actions (document : Document) : List LeafAction := actionsIn (itemsOf document.nodes)

@[simp] theorem idsIn_nil : idsIn [] = [] := rfl

@[simp] theorem idsIn_append (first second : List Item) :
    idsIn (first ++ second) = idsIn first ++ idsIn second := List.filterMap_append

@[simp] theorem idsIn_output (output : Output) (items : List Item) :
    idsIn (.output output :: items) = output.id :: idsIn items := rfl

@[simp] theorem idsIn_branch (id : Nat) (predicate : Option Condition) (items : List Item) :
    idsIn (.branch id predicate :: items) = id :: idsIn items := rfl

@[simp] theorem idsIn_action (action : LeafAction) (items : List Item) :
    idsIn (.action action :: items) = idsIn items := rfl

@[simp] theorem namesIn_nil : namesIn [] = [] := rfl

@[simp] theorem namesIn_append (first second : List Item) :
    namesIn (first ++ second) = namesIn first ++ namesIn second := List.flatMap_append

@[simp] theorem namesIn_cons (item : Item) (items : List Item) :
    namesIn (item :: items) = item.names ++ namesIn items := rfl

@[simp] theorem actionsIn_nil : actionsIn [] = [] := rfl

@[simp] theorem actionsIn_append (first second : List Item) :
    actionsIn (first ++ second) = actionsIn first ++ actionsIn second := List.filterMap_append

@[simp] theorem actionsIn_output (output : Output) (items : List Item) :
    actionsIn (.output output :: items) = actionsIn items := rfl

@[simp] theorem actionsIn_branch (id : Nat) (predicate : Option Condition) (items : List Item) :
    actionsIn (.branch id predicate :: items) = actionsIn items := rfl

@[simp] theorem actionsIn_action (action : LeafAction) (items : List Item) :
    actionsIn (.action action :: items) = action :: actionsIn items := rfl

/-- **The signal a node raises** when its turn comes, if it is a tag for that. -/
def Node.signal? : Node → Option Interrupt
  | .tag _ (.interrupt signal) => some signal
  | _ => none

/-- **An action that leaves the settings alone:** it hands on whether faults are
contained and which names are personal. -/
def KeepsSettings (action : LeafAction) : Prop :=
  ∀ markup env, (action markup env).2.strict = env.strict ∧
    (action markup env).2.selector = env.selector

end Tree
end MailMerge
