/-
# The nodes of a tree, in the order of the source

Going through a tree in the order of its source comes to a node before the nodes below it, and to
the nodes of a branch before those of the next one. What is handed on from a node to the nodes that
stand directly in it holds of every node below it.

The numbers of outputs and branches count up from zero in this order. A conditional has at least one
branch, so it has a number, and no other conditional has the same.
-/

import MailMerge.Proofs.Tree.Marks

namespace MailMerge
namespace Tree

/-! ### Going through a tree -/

mutual

/-- A node, and all nodes below it. -/
def Node.preorder : Node → List Node
  | .text raw => [.text raw]
  | .output output => [.output output]
  | .tag head action => [.tag head action]
  | .block head body => .block head body :: preorderOf body
  | .conditional head branches => .conditional head branches :: preorderOfBranches branches
termination_by structural node => node

/-- **Nodes and all nodes below them,** in the order of the source. -/
def preorderOf : List Node → List Node
  | [] => []
  | node :: nodes => node.preorder ++ preorderOf nodes
termination_by structural nodes => nodes

/-- The nodes in the bodies of branches, and all nodes below them. -/
def preorderOfBranches : List (Branch Node) → List Node
  | [] => []
  | ⟨_, _, body⟩ :: branches => preorderOf body ++ preorderOfBranches branches
termination_by structural branches => branches

end

/-- **All nodes of a document,** in the order of the source. -/
def Document.preorder (document : Document) : List Node := preorderOf document.nodes

/-- The nodes that stand directly in a node. -/
def Node.children : Node → List Node
  | .block _ body => body
  | .conditional _ branches => branches.flatMap (·.body)
  | _ => []

/-- The branches of a node, if it is a conditional. -/
def Node.branches? : Node → Option (List (Branch Node))
  | .conditional _ branches => some branches
  | _ => none

/-- **The conditionals of a document,** each given by its branches, in the order of the source. -/
def Document.conditionals (document : Document) : List (List (Branch Node)) :=
  document.preorder.filterMap Node.branches?

mutual

/-- What a node hands on holds of it and all nodes below it. -/
theorem Node.forall_preorder {kept : Node → Prop}
    (step : ∀ node, kept node → ∀ child ∈ node.children, kept child) (node : Node) (own : kept node) :
    ∀ below ∈ node.preorder, kept below := by
  match node with
  | .text _ => exact List.forall_mem_singleton.2 own
  | .output _ => exact List.forall_mem_singleton.2 own
  | .tag _ _ => exact List.forall_mem_singleton.2 own
  | .block _ body =>
    have inside : ∀ child ∈ body, kept child := step _ own
    exact List.forall_mem_cons.2 ⟨own, forall_preorderOf step body inside⟩
  | .conditional _ branches =>
    have inside : ∀ child ∈ branches.flatMap (·.body), kept child := step _ own
    exact List.forall_mem_cons.2 ⟨own, forall_preorderOfBranches step branches inside⟩
termination_by structural node

/-- **What nodes hand on to those that stand in them** holds of all nodes below them. -/
theorem forall_preorderOf {kept : Node → Prop}
    (step : ∀ node, kept node → ∀ child ∈ node.children, kept child) (nodes : List Node)
    (own : ∀ node ∈ nodes, kept node) : ∀ below ∈ preorderOf nodes, kept below := by
  match nodes with
  | [] => exact fun _ mem => (List.not_mem_nil mem).elim
  | node :: rest =>
    obtain ⟨first, others⟩ := List.forall_mem_cons.1 own
    exact List.forall_mem_append.2 ⟨node.forall_preorder step first, forall_preorderOf step rest others⟩
termination_by structural nodes

/-- What branches hand on holds of all nodes in them. -/
theorem forall_preorderOfBranches {kept : Node → Prop}
    (step : ∀ node, kept node → ∀ child ∈ node.children, kept child) (branches : List (Branch Node))
    (own : ∀ node ∈ branches.flatMap (·.body), kept node) :
    ∀ below ∈ preorderOfBranches branches, kept below := by
  match branches with
  | [] => exact fun _ mem => (List.not_mem_nil mem).elim
  | ⟨_, _, body⟩ :: rest =>
    obtain ⟨first, others⟩ := List.forall_mem_append.1 own
    exact List.forall_mem_append.2
      ⟨forall_preorderOf step body first, forall_preorderOfBranches step rest others⟩
termination_by structural branches

end

/-! ### What is below a node, written out -/

theorem infix_marksOf {nodes : List Node} {node : Node} (mem : node ∈ nodes) :
    node.marks <:+: marksOf nodes := by
  obtain ⟨before, after, rfl⟩ := List.append_of_mem mem
  rw [marksOf_append, marksOf]
  exact ⟨marksOf before, marksOf after, by rw [List.append_assoc]⟩

theorem infix_marksOfBranches {branches : List (Branch Node)} {node : Node}
    (mem : node ∈ branches.flatMap (·.body)) : node.marks <:+: marksOfBranches branches := by
  obtain ⟨⟨id, predicate, body⟩, own, inside⟩ := List.mem_flatMap.1 mem
  obtain ⟨before, after, rfl⟩ := List.append_of_mem own
  refine (infix_marksOf inside).trans ?_
  rw [marksOfBranches_append, marksOfBranches]
  exact ⟨marksOfBranches before ++ [.next predicate], marksOfBranches after, by simp⟩

/-- A node that stands in another is written out inside it. -/
theorem Node.infix_marks {node child : Node} (mem : child ∈ node.children) :
    child.marks <:+: node.marks := by
  match node with
  | .block head body =>
    have inside : child ∈ body := mem
    exact (infix_marksOf inside).trans ⟨[.block head], [.closing head.name], by simp [marks]⟩
  | .conditional head [] => exact (List.not_mem_nil mem).elim
  | .conditional head (⟨id, predicate, body⟩ :: rest) =>
    rcases List.mem_append.1 mem with first | later
    · exact (infix_marksOf first).trans ⟨[.conditional head predicate],
        marksOfBranches rest ++ [.closing "if"], by simp [marks]⟩
    · exact (infix_marksOfBranches later).trans ⟨.conditional head predicate :: marksOf body,
        [.closing "if"], by simp [marks]⟩

/-- **Every node of a tree is written out** as a part of the tree. -/
theorem infix_marksOf_of_preorder {nodes : List Node} {node : Node} (mem : node ∈ preorderOf nodes) :
    node.marks <:+: marksOf nodes := by
  have all : ∀ below ∈ preorderOf nodes, below.marks <:+: marksOf nodes :=
    forall_preorderOf (fun _ own _ child => (Node.infix_marks child).trans own) nodes
      fun _ => infix_marksOf
  exact all node mem

/-! ### What is below a node, item by item -/

theorem items_subset {nodes : List Node} {node : Node} (mem : node ∈ nodes) :
    node.items ⊆ itemsOf nodes := by
  obtain ⟨before, after, rfl⟩ := List.append_of_mem mem
  rw [itemsOf_append, itemsOf]
  exact List.subset_append_of_subset_right _ (List.subset_append_left _ _)

/-- A node that stands in another has no items but those of the other. -/
theorem Node.items_subset_of_child {node child : Node} (mem : child ∈ node.children) :
    child.items ⊆ node.items := by
  match node with
  | .block _ body => exact items_subset mem
  | .conditional _ branches =>
    obtain ⟨⟨id, predicate, body⟩, own, inside⟩ := List.mem_flatMap.1 mem
    obtain ⟨before, after, rfl⟩ := List.append_of_mem own
    rw [items, itemsOfBranches_append, itemsOfBranches]
    refine List.subset_append_of_subset_right _ (List.subset_cons_of_subset _ ?_)
    exact List.subset_append_of_subset_left _ (items_subset inside)

/-- **Every node of a tree** has no items but those of the tree. -/
theorem items_subset_of_preorder {nodes : List Node} {node : Node} (mem : node ∈ preorderOf nodes) :
    node.items ⊆ itemsOf nodes := by
  have all : ∀ below ∈ preorderOf nodes, below.items ⊆ itemsOf nodes :=
    forall_preorderOf (fun _ own _ child => List.Subset.trans (Node.items_subset_of_child child) own)
      nodes fun _ => items_subset
  exact all node mem

/-- What all actions of tags among items are like, those among some of the items are like. -/
theorem actionsIn_subset {items others : List Item} (sub : items ⊆ others) :
    actionsIn items ⊆ actionsIn others := by
  intro action mem
  obtain ⟨item, own, found⟩ := List.mem_filterMap.1 mem
  exact List.mem_filterMap.2 ⟨item, sub own, found⟩

/-! ### The numbers of conditionals -/

/-- The numbers of conditionals among nodes. -/
def conditionalIds (nodes : List Node) : List Nat :=
  (nodes.filterMap Node.branches?).filterMap conditionalId?

@[simp] theorem conditionalIds_append (first second : List Node) :
    conditionalIds (first ++ second) = conditionalIds first ++ conditionalIds second := by
  simp [conditionalIds]

theorem conditionalIds_cons_conditional (head : Source.TagHead) (branches : List (Branch Node))
    (nodes : List Node) : conditionalIds (.conditional head branches :: nodes) =
      (conditionalId? branches).toList ++ conditionalIds nodes := by
  cases branches <;> rfl

mutual

/-- The conditionals of a node have numbers of the node. -/
theorem Node.conditionalIds_sublist (node : Node) :
    (conditionalIds node.preorder).Sublist (idsIn node.items) := by
  match node with
  | .text _ => exact .slnil
  | .output _ => exact List.nil_sublist _
  | .tag _ _ => exact List.nil_sublist _
  | .block _ body => exact conditionalIdsOf_sublist body
  | .conditional head [] => exact .slnil
  | .conditional head (⟨id, predicate, body⟩ :: rest) =>
    have inside := (conditionalIdsOf_sublist body).append (conditionalIdsOfBranches_sublist rest)
    rw [Node.preorder, preorderOfBranches, conditionalIds_cons_conditional, conditionalIds_append,
      Node.items, itemsOfBranches, idsIn_branch, idsIn_append]
    exact inside.cons_cons id
termination_by structural node

/-- **The numbers of conditionals** are in order among all numbers. -/
theorem conditionalIdsOf_sublist (nodes : List Node) :
    (conditionalIds (preorderOf nodes)).Sublist (idsIn (itemsOf nodes)) := by
  match nodes with
  | [] => exact .slnil
  | node :: rest =>
    rw [preorderOf, itemsOf, conditionalIds_append, idsIn_append]
    exact node.conditionalIds_sublist.append (conditionalIdsOf_sublist rest)
termination_by structural nodes

/-- The conditionals in branches have numbers of the branches. -/
theorem conditionalIdsOfBranches_sublist (branches : List (Branch Node)) :
    (conditionalIds (preorderOfBranches branches)).Sublist (idsIn (itemsOfBranches branches)) := by
  match branches with
  | [] => exact .slnil
  | ⟨id, predicate, body⟩ :: rest =>
    rw [preorderOfBranches, itemsOfBranches, conditionalIds_append, idsIn_branch, idsIn_append]
    exact ((conditionalIdsOf_sublist body).append (conditionalIdsOfBranches_sublist rest)).cons id
termination_by structural branches

end

section

variable {vocabulary : Vocabulary} {source : String} {document : Document}

/-- **Every node of a tree is shown** by a segment of its template. -/
theorem Document.shown_of_preorder (plain : vocabulary.Plain)
    (h : Document.ofSource vocabulary source = .ok document) {node : Node}
    (mem : node ∈ document.preorder) {mark : Mark} (written : mark ∈ node.marks) :
    ∃ segment ∈ Source.segments source, Shows vocabulary segment mark := by
  have all := shows_ofSource plain h
  have found := (infix_marksOf_of_preorder mem).subset written
  obtain ⟨index, bound, rfl⟩ := List.mem_iff_getElem.1 found
  exact ⟨_, List.getElem_mem _, all.get (all.length_eq ▸ bound) bound⟩

/-- **Numbers are given in the order of the source.** With `if`, `break`, `continue` and plain
blocks, the numbers of outputs and branches are `0`, `1`, `2` and so on, so no two are the same.
Every conditional has a number, that of its first branch, which no other conditional has. -/
theorem Document.ids_in_order (plain : vocabulary.Plain)
    (h : Document.ofSource vocabulary source = .ok document) :
    document.ids = List.range document.ids.length ∧ document.ids.Nodup ∧
      (∀ branches ∈ document.conditionals, ∃ id ∈ document.ids, conditionalId? branches = some id) ∧
      document.conditionals.Pairwise fun one other => conditionalId? one ≠ conditionalId? other := by
  obtain ⟨⟨count, ids⟩, -⟩ := ids_ofSource plain h
  have distinct : document.ids.Nodup := ids ▸ List.nodup_range
  have sublist : (document.conditionals.filterMap conditionalId?).Sublist document.ids :=
    conditionalIdsOf_sublist document.nodes
  have numbered : ∀ branches ∈ document.conditionals, ∃ id, conditionalId? branches = some id := by
    intro branches mem
    obtain ⟨node, inside, own⟩ := List.mem_filterMap.1 mem
    match node, branches with
    | .conditional head [], [] =>
      obtain ⟨segment, -, shown⟩ := shown_of_preorder plain h inside List.mem_cons_self
      cases shown
    | .conditional head (branch :: rest), _ => exact ⟨branch.id, Option.some.inj own ▸ rfl⟩
  refine ⟨by rw [ids, List.length_range], distinct, fun branches mem => ?_, ?_⟩
  · obtain ⟨id, own⟩ := numbered branches mem
    exact ⟨id, sublist.subset (List.mem_filterMap.2 ⟨branches, mem, own⟩), own⟩
  · have apart := List.pairwise_filterMap.1 (distinct.sublist sublist)
    refine apart.imp_of_mem fun {one other} mem _ differ same => ?_
    obtain ⟨id, own⟩ := numbered one mem
    exact differ id own id (same ▸ own) rfl

end

/-- A conditional inside a block inside the first of three branches: the numbers of the inner one
come between that of the first branch and that of the second. -/
theorem Document.ids_in_order_nested :
    let vocabulary := Vocabulary.withBlocks ["raw"]
    let source := "{{ a }}{% if b %}{% raw %}{% if c %}{{ d }}{% endif %}{% endraw %}{% elsif e %}{{ f }}{% else %}{% endif %}"
    vocabulary.Plain ∧ ∃ document, Document.ofSource vocabulary source = .ok document ∧
      document.ids = [0, 1, 2, 3, 4, 5, 6] ∧ document.ids.Nodup ∧
      document.conditionals.map conditionalId? = [some 1, some 2] ∧
      document.conditionals.Pairwise fun one other => conditionalId? one ≠ conditionalId? other := by
  intro vocabulary source
  have plain : vocabulary.Plain := Vocabulary.plain_withBlocks ["raw"]
  have evaluated : (Document.ofSource vocabulary source).toOption.map (fun document =>
      (document.ids.length, document.conditionals.map conditionalId?)) = some (7, [some 1, some 2]) := by
    decide +kernel
  match parsed : Document.ofSource vocabulary source with
  | .error fault =>
    rw [parsed] at evaluated
    cases evaluated
  | .ok document =>
    rw [parsed] at evaluated
    obtain ⟨length, conditionals⟩ := Prod.mk.inj (Option.some.inj evaluated)
    obtain ⟨ids, distinct, -, apart⟩ := Document.ids_in_order plain parsed
    exact ⟨plain, document, rfl, by rw [ids, length]; rfl, distinct, conditionals, apart⟩

end Tree
end MailMerge
