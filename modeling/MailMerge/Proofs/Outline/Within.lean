/-
# What passages are about

The guards of the passages of some nodes ask about branches of these nodes only, and
their faults belong to conditionals of these nodes. So does what the passages report.

What sketching leaves as it was depends on what the tags do. So it is a relation between
the environments before and after, of which each step of the walk is known (`Framing`).
Without tags of one's own sketching changes signals and faults alone.
-/

import MailMerge.Proofs.Outline.Representation
import MailMerge.Proofs.Outline.Guarding
import MailMerge.Proofs.Render.Reading

namespace MailMerge
namespace Outline

open MailMerge.Tree (Node Branch LeafAction itemsOf itemsOfBranches idsIn actionsIn)
open Render (Env Outcome)

/-- **A guard within numbers:** its predicates are of branches and conditionals with these
numbers. -/
def Guard.Within (ids : List Nat) (guard : Guard) : Prop :=
  ∀ term ∈ guard.terms, term.condition.branch ∈ ids ∧ term.condition.owner ∈ ids

/-- **A passage within numbers:** its guard is, and it reports conditionals with these
numbers. -/
structure Passage.Within (ids : List Nat) (passage : Passage) : Prop where
  guard : passage.guard.Within ids
  reports : ∀ owner ∈ passage.reports, owner ∈ ids

/-- The passages among pieces are within numbers. -/
def PassagesWithin (ids : List Nat) (pieces : List Piece) : Prop :=
  ∀ passage, .passage passage ∈ pieces → passage.Within ids

/-- **What every step of sketching keeps,** as a relation between the environments before and
after: the steps of rendering, and closing a body, which drops signals. -/
structure Framing (kept : Env → Env → Prop) (admitted : LeafAction → Prop) : Prop
    extends Render.Framing kept admitted where
  close : ∀ {env after}, kept env after → kept env (after.dropInterrupts env.interrupts.length)

/-- **What sketching keeps:** the environment as far as the relation says, and numbers. -/
structure Keeps (kept : Env → Env → Prop) (env : Env) (ids : List Nat) (sketched : Sketched Piece) :
    Prop where
  env : kept env sketched.2
  within : ∀ pieces, sketched.1 = .ok pieces → PassagesWithin ids pieces

section Guards

variable {ids : List Nat}

theorem Guard.Within.add {guard : Guard} (h : guard.Within ids) {condition : BranchCondition}
    (own : condition.branch ∈ ids ∧ condition.owner ∈ ids) (expected : Bool) :
    (guard.add condition expected).Within ids := by
  unfold Guard.add
  split
  · exact h
  · intro term mem
    rcases List.mem_append.1 mem with mem | mem
    · exact h term mem
    · obtain rfl := List.mem_singleton.1 mem
      exact own

/-- The guard of a branch is about the branch and those passed over. -/
theorem Guard.within_ofBranch {own : Option BranchCondition} {passed : List BranchCondition}
    (h : ∀ condition ∈ passed, condition.branch ∈ ids ∧ condition.owner ∈ ids)
    (hown : ∀ condition ∈ own, condition.branch ∈ ids ∧ condition.owner ∈ ids) :
    (Guard.ofBranch own passed).Within ids := by
  refine ofBranch_induction (fun _ mem => (List.not_mem_nil mem).elim) fun guard within condition mem =>
    within.add ?_
  rcases List.mem_append.1 mem with mem | mem
  · exact h condition mem
  · exact hown condition (Option.mem_toList.1 mem)

theorem Guard.Within.under {guard outer : Guard} (h : guard.Within ids) (houter : outer.Within ids) :
    (guard.under outer).Within ids := by
  intro term mem
  rcases List.mem_append.1 mem with mem | mem
  · exact houter term (List.mem_filter.1 mem).1
  · exact h term mem

theorem within_passageOfRun {branch run : Nat} {guard : Guard} (h : guard.Within ids)
    (parts : List Part) : ∀ passage ∈ passageOfRun branch run guard parts, passage.Within ids := by
  intro passage mem
  unfold passageOfRun at mem
  split at mem
  · exact (List.not_mem_nil mem).elim
  · obtain rfl := List.mem_singleton.1 mem
    exact ⟨h, fun _ mem => (List.not_mem_nil mem).elim⟩

theorem within_passagesFrom {branch : Nat} {guard : Guard} (h : guard.Within ids) (rest : List Piece)
    (runs : Nat) (parts : List Part) (hrest : PassagesWithin ids rest) :
    ∀ passage ∈ passagesFrom branch guard runs parts rest, passage.Within ids := by
  induction rest generalizing runs parts with
  | nil => exact within_passageOfRun h parts
  | cons piece rest ih =>
    have others : PassagesWithin ids rest := fun passage mem => hrest passage (List.mem_cons_of_mem _ mem)
    cases piece with
    | part own => exact ih runs _ others
    | passage inner =>
      have own := hrest inner List.mem_cons_self
      intro passage mem
      rcases List.mem_append.1 mem with mem | mem
      · exact within_passageOfRun h parts passage mem
      · rcases List.mem_cons.1 mem with rfl | mem
        · exact ⟨own.guard.under h, own.reports⟩
        · exact ih _ [] others passage mem

/-- The passages of a branch are within the numbers of the branch. -/
theorem within_passagesOf (branch : Nat) {guard : Guard} (h : guard.Within ids) {body : List Piece}
    (hbody : PassagesWithin ids body) : ∀ passage ∈ passagesOf branch guard body, passage.Within ids := by
  intro passage mem
  unfold passagesOf at mem
  split at mem
  · exact within_passagesFrom h body 0 [] hbody passage mem
  · obtain rfl := List.mem_singleton.1 mem
    exact ⟨h, fun _ mem => (List.not_mem_nil mem).elim⟩

theorem within_reportFirst {owner : Nat} (mem : owner ∈ ids) {passages : List Passage}
    (h : ∀ passage ∈ passages, passage.Within ids) :
    ∀ passage ∈ reportFirst owner passages, passage.Within ids := by
  cases passages with
  | nil => exact h
  | cons first rest =>
    obtain ⟨own, others⟩ := List.forall_mem_cons.1 h
    refine List.forall_mem_cons.2 ⟨⟨own.guard, fun reported found => ?_⟩, others⟩
    rcases List.mem_append.1 found with found | found
    · exact own.reports reported found
    · exact List.mem_singleton.1 found ▸ mem

/-- One more branch is passed over, whose numbers are among those meant. -/
theorem passed_within_concat {passed : List BranchCondition}
    (hpassed : ∀ condition ∈ passed, condition.branch ∈ ids ∧ condition.owner ∈ ids) {branch owner : Nat}
    (mem : branch ∈ ids) (howner : owner ∈ ids) (predicate : Markup.Condition) :
    ∀ condition ∈ passed ++ [(⟨branch, owner, predicate⟩ : BranchCondition)],
      condition.branch ∈ ids ∧ condition.owner ∈ ids :=
  List.forall_mem_append.2 ⟨hpassed, List.forall_mem_singleton.2 ⟨mem, howner⟩⟩

end Guards

/-! ### Sketching -/

section Sketching

variable {format : KeyFormat} {ids : List Nat}

theorem PassagesWithin.append {first second : List Piece} (h : PassagesWithin ids first)
    (h' : PassagesWithin ids second) : PassagesWithin ids (first ++ second) :=
  fun passage mem => (List.mem_append.1 mem).elim (h passage) (h' passage)

theorem passagesWithin_parts {pieces : List Piece} (h : ∀ piece ∈ pieces, piece.isPassage = false) :
    PassagesWithin ids pieces := fun _ mem => Bool.noConfusion (h _ mem)

/-- Closing a body drops signals. -/
theorem env_closeSketch (depth : Nat) (pieces : List Piece) (env : Env) :
    (closeSketch depth pieces env).2 = env.dropInterrupts depth := by
  unfold closeSketch
  split <;> rfl

theorem closeSketch_within {pieces : List Piece} (h : PassagesWithin ids pieces) (depth : Nat) (env : Env) :
    PassagesWithin ids (closeSketch depth pieces env).1 := by
  unfold closeSketch
  split
  · refine h.append (passagesWithin_parts fun piece mem => ?_)
    rw [List.mem_singleton.1 mem]
    rfl
  · exact h

/-- Closing a body changes signals alone. -/
theorem bare_closeSketch (depth : Nat) (pieces : List Piece) (env : Env) :
    (closeSketch depth pieces env).2.bare = env.bare := by
  rw [env_closeSketch]
  rfl

theorem passagesWithin_map {passages : List Passage} (h : ∀ passage ∈ passages, passage.Within ids) :
    PassagesWithin ids (passages.map .passage) := by
  intro passage mem
  obtain ⟨own, hown, same⟩ := List.mem_map.1 mem
  exact Piece.passage.inj same ▸ h own hown

section Framing

variable {kept : Env → Env → Prop} {admitted : LeafAction → Prop} {env last : Env}

theorem keeps_none (same : kept env last) : Keeps kept env ids (.ok [], last) := by
  refine ⟨same, fun pieces found => ?_⟩
  obtain rfl := Except.ok.inj found
  exact fun _ mem => (List.not_mem_nil mem).elim

theorem keeps_fault (same : kept env last) (fault : Fault) : Keeps kept env ids (.error fault, last) :=
  ⟨same, fun _ found => by cases found⟩

theorem keeps_text (same : kept env last) (text : String) :
    Keeps kept env ids (sketchText format text, last) := by
  unfold sketchText
  split
  · exact keeps_fault same _
  · split
    · exact keeps_none same
    · refine ⟨same, fun pieces found => ?_⟩
      obtain rfl := Except.ok.inj found
      exact passagesWithin_parts fun piece mem => by rw [List.mem_singleton.1 mem]; rfl

theorem keeps_outcome (framing : Framing kept admitted) {outcome : Outcome} (same : kept env outcome.2) :
    Keeps kept env ids (sketchOutcome format outcome) := by
  have contained : kept env outcome.contained.2 := by
    obtain ⟨_ | _, after⟩ := outcome
    · exact framing.trans same (framing.contain after _)
    · exact same
  unfold sketchOutcome
  generalize outcome.contained = result at contained ⊢
  match result with
  | (.ok text, after) => exact keeps_text contained text
  | (.error fault, after) => exact keeps_fault contained _

theorem Keeps.after (framing : Framing kept admitted) {middle : Env} {pieces : List Piece}
    {sketched : Sketched Piece} (h : Keeps kept middle ids sketched) (same : kept env middle)
    (first : PassagesWithin ids pieces) : Keeps kept env ids (sketched.after pieces) := by
  obtain ⟨result, last⟩ := sketched
  refine ⟨framing.trans same h.env, fun all found => ?_⟩
  cases result with
  | error fault => cases found
  | ok more =>
    obtain rfl := Except.ok.inj found
    exact first.append (h.within more rfl)

theorem keeps_passages (same : kept env last) {passages : List Passage}
    (h : ∀ passage ∈ passages, passage.Within ids) :
    Keeps kept env ids (passagePieces (.ok passages, last)) := by
  refine ⟨same, fun pieces found => ?_⟩
  obtain rfl := Except.ok.inj found
  exact passagesWithin_map h

end Framing

section Walk

variable {kept : Env → Env → Prop} {admitted : LeafAction → Prop} (framing : Framing kept admitted)

include framing

mutual

/-- A node's sketch keeps the environment and the numbers of the node. -/
theorem keeps_sketchNode (node : Node) (env : Env) (sub : idsIn node.items ⊆ ids)
    (tags : ∀ action ∈ actionsIn node.items, admitted action) :
    Keeps kept env ids (sketchNode format env node) := by
  match node with
  | .text raw => exact keeps_text (framing.refl env) raw
  | .output source =>
    rw [sketchNode]
    split
    · refine ⟨framing.refl env, fun pieces found => ?_⟩
      obtain rfl := Except.ok.inj found
      exact passagesWithin_parts fun piece mem => by rw [List.mem_singleton.1 mem]; rfl
    · exact keeps_outcome framing (framing.refl env)
  | .tag head (.interrupt signal) =>
    have raised : kept env (Render.runTag (.interrupt signal) head.markup env).2 :=
      framing.interrupt env signal
    exact keeps_outcome framing raised
  | .tag head (.leaf action) =>
    exact keeps_outcome framing (framing.act (tags action List.mem_cons_self) head.markup env)
  | .block _ body => exact keeps_sketchAll body env sub tags
  | .conditional head branches =>
    rw [sketchNode_conditional]
    have inside : Keeps kept (env.enter ∅) ids (sketchInside format env branches) := by
      unfold sketchInside
      split
      · refine keeps_sketchBranches branches _ [] (env.enter ∅) sub tags ?_ fun _ mem =>
          (List.not_mem_nil mem).elim
        intro nonempty
        obtain ⟨branch, rest, rfl⟩ := List.exists_cons_of_ne_nil nonempty
        obtain ⟨id, predicate, body⟩ := branch
        exact sub List.mem_cons_self
      · exact keeps_sketchChosen branches (env.enter ∅) sub tags
    exact ⟨framing.leave inside.env, inside.within⟩
termination_by structural node

/-- **A sketch keeps the environment and the numbers of the nodes.** -/
theorem keeps_sketchAll (nodes : List Node) (env : Env) (sub : idsIn (itemsOf nodes) ⊆ ids)
    (tags : ∀ action ∈ actionsIn (itemsOf nodes), admitted action) :
    Keeps kept env ids (sketchAll format env nodes) := by
  match nodes with
  | [] => exact keeps_none (framing.refl env)
  | node :: rest =>
    rw [itemsOf, Tree.idsIn_append] at sub
    rw [itemsOf, Tree.actionsIn_append] at tags
    obtain ⟨own, others⟩ := List.forall_mem_append.1 tags
    cases stop : node.signal? with
    | some signal =>
      rw [sketchAll_signal stop]
      split
      · exact keeps_none (framing.refl env)
      · exact keeps_none (framing.interrupt env signal)
    | none =>
      rw [sketchAll_cons stop]
      split
      · exact keeps_none (framing.refl env)
      · have first : Keeps kept env ids (sketchNode format env node) :=
          keeps_sketchNode node env (List.append_subset.1 sub).1 own
        generalize sketchNode format env node = sketched at first ⊢
        match sketched with
        | (.error fault, after) => exact keeps_fault first.env fault
        | (.ok pieces, after) =>
          exact (keeps_sketchAll rest after (List.append_subset.1 sub).2 others).after framing first.env
            (first.within pieces rfl)
termination_by structural nodes

/-- The sketch of the chosen branch keeps the environment and the numbers. -/
theorem keeps_sketchChosen (branches : List (Branch Node)) (env : Env)
    (sub : idsIn (itemsOfBranches branches) ⊆ ids)
    (tags : ∀ action ∈ actionsIn (itemsOfBranches branches), admitted action) :
    Keeps kept env ids (sketchChosen format env branches) := by
  match branches with
  | [] => exact keeps_none (framing.refl env)
  | ⟨id, predicate, body⟩ :: rest =>
    rw [itemsOfBranches, Tree.idsIn_branch, Tree.idsIn_append] at sub
    rw [itemsOfBranches, Tree.actionsIn_branch, Tree.actionsIn_append] at tags
    obtain ⟨own, others⟩ := List.forall_mem_append.1 tags
    obtain ⟨subBody, subRest⟩ := List.append_subset.1 (List.cons_subset.1 sub).2
    cases predicate with
    | none => exact keeps_sketchAll body env subBody own
    | some condition =>
      rw [sketchChosen]
      cases Render.evalCondition env condition with
      | error fault => exact keeps_outcome framing (framing.refl env)
      | ok holds =>
        cases holds with
        | true => exact keeps_sketchAll body env subBody own
        | false => exact keeps_sketchChosen rest env subRest others
termination_by structural branches

/-- The passages of a conditional keep the environment and the numbers. -/
theorem keeps_sketchBranches (branches : List (Branch Node)) (owner : Nat)
    (passed : List BranchCondition) (env : Env) (sub : idsIn (itemsOfBranches branches) ⊆ ids)
    (tags : ∀ action ∈ actionsIn (itemsOfBranches branches), admitted action)
    (howner : branches ≠ [] → owner ∈ ids)
    (hpassed : ∀ condition ∈ passed, condition.branch ∈ ids ∧ condition.owner ∈ ids) :
    Keeps kept env ids (passagePieces (sketchBranches format owner passed env branches)) := by
  match branches with
  | [] => exact keeps_none (framing.refl env)
  | ⟨id, predicate, body⟩ :: rest =>
    have owned := howner (List.cons_ne_nil _ _)
    rw [itemsOfBranches, Tree.idsIn_branch, Tree.idsIn_append] at sub
    rw [itemsOfBranches, Tree.actionsIn_branch, Tree.actionsIn_append] at tags
    obtain ⟨own_tags, other_tags⟩ := List.forall_mem_append.1 tags
    obtain ⟨subOwn, sub⟩ := List.cons_subset.1 sub
    obtain ⟨subBody, subRest⟩ := List.append_subset.1 sub
    rw [sketchBranches]
    have inner : Keeps kept env ids (sketchAll format env body) :=
      keeps_sketchAll body env subBody own_tags
    generalize sketchAll format env body = sketched at inner ⊢
    match sketched with
    | (.error fault, after) => exact keeps_fault inner.env fault
    | (.ok pieces, after) =>
      have closed := closeSketch_within (inner.within pieces rfl) env.interrupts.length after
      have same : kept env (closeSketch env.interrupts.length pieces after).2 :=
        env_closeSketch .. ▸ framing.close inner.env
      dsimp only
      generalize closeSketch env.interrupts.length pieces after = closing at closed same ⊢
      obtain ⟨closedBody, last⟩ := closing
      cases predicate with
      | none =>
        have guard : (Guard.ofBranch none passed).Within ids :=
          Guard.within_ofBranch hpassed fun _ mem => (Option.not_mem_none _ mem).elim
        have passages := within_passagesOf id guard closed
        exact keeps_passages same (within_reportFirst owned passages)
      | some condition =>
        have own : ∀ found ∈ some (⟨id, owner, condition⟩ : BranchCondition),
            found.branch ∈ ids ∧ found.owner ∈ ids := fun _ mem => by
          obtain rfl := Option.some.inj mem
          exact ⟨subOwn, owned⟩
        have guard := Guard.within_ofBranch hpassed own
        have passages := within_passagesOf id guard closed
        dsimp only [Option.map]
        split
        · exact keeps_passages same (within_reportFirst owned passages)
        · have others := keeps_sketchBranches rest owner _ last subRest other_tags (fun _ => owned)
            (passed_within_concat hpassed subOwn owned condition)
          have joined := others.after framing same (passagesWithin_map passages)
          rw [← passagePieces_append] at joined
          exact joined
termination_by structural branches

end

end Walk

/-- Without tags of one's own, signals and faults are all that changes. -/
theorem framing_bare : Framing (fun env after => after.bare = env.bare) fun _ => False where
  toFraming := Render.framing_bare
  close same := same

/-- The numbers are kept whatever tags do. -/
theorem framing_any : Framing (fun _ _ => True) fun _ => True where
  toFraming := by constructor <;> simp
  close _ := trivial

/-- Nodes without tags of one's own keep what is not a signal or a fault. -/
theorem keeps_bare {nodes : List Node} (plain : actionsIn (itemsOf nodes) = []) (env : Env) :
    Keeps (fun env after => after.bare = env.bare) env (idsIn (itemsOf nodes))
      (sketchAll format env nodes) :=
  keeps_sketchAll framing_bare nodes env (List.Subset.refl _) fun _ mem =>
    (List.not_mem_nil (plain ▸ mem)).elim

/-- **What is sketched of nodes** is about their numbers, whatever their tags do. -/
theorem passagesWithin_sketchAll {nodes : List Node} {env after : Env} {pieces : List Piece}
    (sub : idsIn (itemsOf nodes) ⊆ ids) (sketch : sketchAll format env nodes = (.ok pieces, after)) :
    PassagesWithin ids pieces := by
  have kept : Keeps (fun _ _ => True) env ids (sketchAll format env nodes) :=
    keeps_sketchAll framing_any nodes env sub fun _ _ => trivial
  rw [sketch] at kept
  exact kept.within pieces rfl

/-- Sketching leaves the environment as it was, apart from signals and faults. -/
theorem bare_sketchAll {nodes : List Node} {env after : Env} {pieces : List Piece}
    (plain : actionsIn (itemsOf nodes) = []) (sketch : sketchAll format env nodes = (.ok pieces, after)) :
    after.bare = env.bare := by
  have kept : Keeps (fun env after => after.bare = env.bare) env (idsIn (itemsOf nodes))
    (sketchAll format env nodes) := keeps_bare plain env
  rw [sketch] at kept
  exact kept.env

/-- Sketching a node does so too. -/
theorem bare_sketchNode {node : Node} {env after : Env} {pieces : List Piece}
    (plain : actionsIn node.items = []) (sketch : sketchNode format env node = (.ok pieces, after)) :
    after.bare = env.bare := by
  have kept : Keeps (fun env after => after.bare = env.bare) env (idsIn node.items)
      (sketchNode format env node) :=
    keeps_sketchNode framing_bare node env (List.Subset.refl _) fun _ mem =>
      (List.not_mem_nil (plain ▸ mem)).elim
  rw [sketch] at kept
  exact kept.env

end Sketching

end Outline
end MailMerge
