/-
# Other numbers and places

Outputs and branches are numbered, and placed, as they are met in the source. So where one
body of a template is replaced by another, what comes after it is what it was, except for its
numbers and places. A renaming gives everything in a tree other ones. Tags keep
their actions and markups, and conditions stay as they are.
-/

import Mathlib.Data.List.Nodup
import MailMerge.Proofs.Tree.Items

namespace MailMerge
namespace Tree

open Source (TagHead)
open Text (Span)

/-- **A renaming:** other numbers for outputs and branches, and other places. -/
structure Renaming where
  id : Nat → Nat
  place : Nat → Nat

/-- **A renaming that keeps numbers apart.** -/
def Renaming.KeepsApart (names : Renaming) (ids : List Nat) : Prop :=
  ∀ first ∈ ids, ∀ second ∈ ids, names.id first = names.id second → first = second

/-- Numbers whose other numbers are distinct are kept apart. -/
theorem Renaming.keepsApart_of_nodup {names : Renaming} {ids : List Nat}
    (distinct : (ids.map names.id).Nodup) : names.KeepsApart ids :=
  fun _ hfirst _ hsecond same => List.inj_on_of_nodup_map distinct hfirst hsecond same

variable (names : Renaming)

/-- The span in its other place. -/
def Renaming.span (span : Span) : Span := ⟨names.place span.start, names.place span.stop⟩

/-- The output with its other number, in its other place. -/
def Output.renamed (output : Output) : Output :=
  { output with id := names.id output.id, span := names.span output.span }

/-- The head of a tag in its other place. -/
def Renaming.head (head : TagHead) : TagHead :=
  { head with markupStart := names.place head.markupStart, span := names.span head.span }

mutual

/-- A node with its other numbers and places. -/
def Node.renamed : Node → Node
  | .text raw => .text raw
  | .output output => .output (output.renamed names)
  | .tag head action => .tag (names.head head) action
  | .block head body => .block (names.head head) (renamedAll body)
  | .conditional head branches => .conditional (names.head head) (renamedBranches branches)
termination_by structural node => node

/-- **Nodes with their other numbers and places.** -/
def renamedAll : List Node → List Node
  | [] => []
  | node :: nodes => node.renamed :: renamedAll nodes
termination_by structural nodes => nodes

/-- Branches with their other numbers and places. -/
def renamedBranches : List (Branch Node) → List (Branch Node)
  | [] => []
  | ⟨id, predicate, body⟩ :: branches =>
    ⟨names.id id, predicate, renamedAll body⟩ :: renamedBranches branches
termination_by structural branches => branches

end

/-- The node raises the same signal. -/
theorem Node.signal?_renamed (node : Node) : (node.renamed names).signal? = node.signal? := by
  match node with
  | .text _ => rfl
  | .output _ => rfl
  | .tag _ (.interrupt _) => rfl
  | .tag _ (.leaf _) => rfl
  | .block _ _ => rfl
  | .conditional _ _ => rfl

theorem renamedBranches_eq_nil_iff {branches : List (Branch Node)} :
    renamedBranches names branches = [] ↔ branches = [] := by
  cases branches with
  | nil => exact ⟨fun _ => rfl, fun _ => rfl⟩
  | cons branch rest => simp [renamedBranches]

mutual

/-- The numbers of a node become the other ones. -/
theorem idsIn_node_renamed (node : Node) :
    idsIn (node.renamed names).items = (idsIn node.items).map names.id := by
  match node with
  | .text _ => rfl
  | .output _ => rfl
  | .tag _ (.interrupt _) => rfl
  | .tag _ (.leaf _) => rfl
  | .block _ body => exact idsIn_renamedAll body
  | .conditional _ branches => exact idsIn_renamedBranches branches
termination_by structural node

/-- **The numbers of nodes become the other ones.** -/
theorem idsIn_renamedAll (nodes : List Node) :
    idsIn (itemsOf (renamedAll names nodes)) = (idsIn (itemsOf nodes)).map names.id := by
  match nodes with
  | [] => rfl
  | node :: rest =>
    rw [renamedAll, itemsOf, itemsOf, idsIn_append, idsIn_append, List.map_append,
      idsIn_node_renamed node, idsIn_renamedAll rest]
termination_by structural nodes

/-- The numbers of branches become the other ones. -/
theorem idsIn_renamedBranches (branches : List (Branch Node)) :
    idsIn (itemsOfBranches (renamedBranches names branches)) =
      (idsIn (itemsOfBranches branches)).map names.id := by
  match branches with
  | [] => rfl
  | ⟨id, predicate, body⟩ :: rest =>
    rw [renamedBranches, itemsOfBranches, itemsOfBranches, idsIn_branch, idsIn_branch, idsIn_append,
      idsIn_append, List.map_cons, List.map_append, idsIn_renamedAll body, idsIn_renamedBranches rest]
termination_by structural branches

end

end Tree
end MailMerge
