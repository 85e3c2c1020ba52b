/-
# The tree of a template

A template is a sequence of nodes: text, outputs, tags, blocks that hold further
nodes, and conditionals with branches. Outputs and branches are numbered as they
are met in the source, so a number names one of them for good.
-/

import MailMerge.Render.Evaluate
import MailMerge.Source.TagHead

namespace MailMerge
namespace Tree

open Markup (Expr FilterCall Condition)
open Source (TagHead)
open Text (Span)
open Render (Env Interrupt)

/-- **An output:** its number, its markup without blanks around it, what it
evaluates, and its place. -/
structure Output where
  id : Nat
  markup : String
  expr : Expr
  filters : List FilterCall
  span : Span

/-- The names an output reads. -/
def Output.names (output : Output) : List String :=
  Markup.namesOfPipeline output.expr output.filters

/-- **What a tag of one's own does:** it gets its markup and the environment, and
gives back a text or a fault with the environment as it leaves it. -/
abbrev LeafAction := String → Env → Except Render.Fault String × Env

/-- What a tag without a body does. -/
inductive TagAction where
  | interrupt (signal : Interrupt)
  | leaf (action : LeafAction)

/-- **A branch of a conditional.** The branch without a predicate is the one for
everything else. -/
structure Branch (ν : Type) where
  id : Nat
  predicate : Option Condition
  body : List ν

/-- **A node of the tree.** -/
inductive Node where
  | text (raw : String)
  | output (output : Output)
  | tag (head : TagHead) (action : TagAction)
  | block (head : TagHead) (body : List Node)
  | conditional (head : TagHead) (branches : List (Branch Node))

/-- **A template's tree.** -/
structure Document where
  nodes : List Node

/-- The branches that can be chosen: up to the first one without a predicate. -/
def reachable {ν : Type} : List (Branch ν) → List (Branch ν)
  | [] => []
  | branch :: rest => branch :: if branch.predicate.isNone then [] else reachable rest

/-- The number of a conditional is that of its first branch. -/
def conditionalId? {ν : Type} (branches : List (Branch ν)) : Option Nat := branches.head?.map (·.id)

mutual

/-- The nodes of a tree, the node itself and all below it. -/
def Node.count : Node → Nat
  | .text _ => 1
  | .output _ => 1
  | .tag _ _ => 1
  | .block _ body => 1 + countAll body
  | .conditional _ branches => 1 + countBranches branches
termination_by structural node => node

/-- The nodes of a sequence and all below them. -/
def countAll : List Node → Nat
  | [] => 0
  | node :: nodes => node.count + countAll nodes
termination_by structural nodes => nodes

/-- The nodes in the bodies of branches. -/
def countBranches : List (Branch Node) → Nat
  | [] => 0
  | ⟨_, _, body⟩ :: branches => countAll body + countBranches branches
termination_by structural branches => branches

end

/-- **The number of nodes** of a template. -/
def Document.nodeCount (document : Document) : Nat := countAll document.nodes

end Tree
end MailMerge
