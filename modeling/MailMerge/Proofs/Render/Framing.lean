/-
# What rendering keeps

What rendering leaves as it was depends on what the tags do. So it is a relation between the
environments before and after, of which each step of rendering is known: containing a fault, raising
a signal to stop, leaving a scope that was entered empty, and running the action of a tag. A relation
that all steps keep is kept by all of rendering, whether it gives a text or a fault.
-/

import MailMerge.Proofs.Tree.Items
import MailMerge.Render.Walk

namespace MailMerge
namespace Render

open MailMerge.Tree (Node Branch LeafAction itemsOf itemsOfBranches actionsIn)

/-! ### Nodes in a row -/

/-- What a node gives in a row of nodes: no node but a signal to stop is special. -/
theorem renderAll_cons {node : Node} (plain : node.signal? = none) (env : Env) (nodes : List Node) :
    renderAll env (node :: nodes) =
      if env.interrupted then (.ok "", env)
      else match (renderNode env node).contained with
        | (.ok text, after) => (renderAll after nodes).after text
        | (.error fault, after) => (.error fault, after) := by
  match node with
  | .text _ => rfl
  | .output _ => rfl
  | .block _ _ => rfl
  | .conditional _ _ => rfl
  | .tag _ (.leaf _) => rfl

/-- A signal to stop ends a row of nodes. -/
theorem renderAll_signal {node : Node} {signal : Interrupt} (stop : node.signal? = some signal)
    (env : Env) (nodes : List Node) :
    renderAll env (node :: nodes) =
      if env.interrupted then (.ok "", env) else (.ok "", env.interrupt signal) := by
  match node with
  | .tag _ (.interrupt _) =>
    obtain rfl := Option.some.inj stop
    rfl

/-- A text in front changes no environment. -/
@[simp] theorem env_after (text : String) (outcome : Outcome) : (outcome.after text).2 = outcome.2 := by
  obtain ⟨_ | _, env⟩ := outcome <;> rfl

/-- Nodes are passed over while a signal to stop is pending. -/
theorem renderAll_interrupted {env : Env} (pending : env.interrupted) (nodes : List Node) :
    renderAll env nodes = (.ok "", env) := by
  cases nodes with
  | nil => rfl
  | cons node rest =>
    cases stop : node.signal? with
    | some signal => rw [renderAll_signal stop, if_pos pending]
    | none => rw [renderAll_cons stop, if_pos pending]

/-- **Nodes after a signal that is left pending** make no difference to rendering. -/
theorem renderAll_append_of_interrupted (nodes more : List Node) (env : Env)
    (pending : (renderAll env nodes).2.interrupted) :
    renderAll env (nodes ++ more) = renderAll env nodes := by
  induction nodes generalizing env with
  | nil => exact renderAll_interrupted pending more
  | cons node rest ih =>
    rw [List.cons_append]
    cases stop : node.signal? with
    | some signal => rw [renderAll_signal stop, renderAll_signal stop]
    | none =>
      rw [renderAll_cons stop] at pending
      rw [renderAll_cons stop, renderAll_cons stop]
      split
      · rfl
      · rename_i goes
        rw [if_neg goes] at pending
        split
        · rename_i text after contained
          rw [contained] at pending
          rw [ih after (env_after text _ ▸ pending)]
        · rfl

/-! ### Relations that are kept -/

/-- **What every step of rendering keeps,** where the actions of tags are admitted ones. -/
structure Framing (kept : Env → Env → Prop) (admitted : LeafAction → Prop) : Prop where
  refl : ∀ env, kept env env
  trans : ∀ {env middle after}, kept env middle → kept middle after → kept env after
  contain : ∀ env fault, kept env (env.contain fault).2
  interrupt : ∀ env signal, kept env (env.interrupt signal)
  leave : ∀ {env after}, kept (env.enter ∅) after → kept env after.leave
  act : ∀ {action}, admitted action → ∀ markup env, kept env (action markup env).2

section

variable {kept : Env → Env → Prop} {admitted : LeafAction → Prop}

theorem Framing.contained (framing : Framing kept admitted) {env : Env} {outcome : Outcome}
    (h : kept env outcome.2) : kept env outcome.contained.2 := by
  obtain ⟨fault | text, after⟩ := outcome
  · exact framing.trans h (framing.contain after fault)
  · exact h

mutual

/-- **A node keeps what every step keeps.** -/
theorem Framing.renderNode (framing : Framing kept admitted) (node : Node) (env : Env)
    (tags : ∀ action ∈ actionsIn node.items, admitted action) : kept env (renderNode env node).2 := by
  match node with
  | .text _ => exact framing.refl env
  | .output _ => exact framing.refl env
  | .tag _ (.interrupt signal) => exact framing.interrupt env signal
  | .tag head (.leaf action) =>
    exact framing.act (tags action (List.mem_singleton_self action)) head.markup env
  | .block _ body => exact framing.renderAll body env tags
  | .conditional _ branches =>
    exact framing.leave (framing.renderBranches branches (env.enter ∅) tags)
termination_by structural node

/-- **Nodes in a row keep what every step keeps.** -/
theorem Framing.renderAll (framing : Framing kept admitted) (nodes : List Node) (env : Env)
    (tags : ∀ action ∈ actionsIn (itemsOf nodes), admitted action) :
    kept env (renderAll env nodes).2 := by
  match nodes with
  | [] => exact framing.refl env
  | node :: rest =>
    rw [itemsOf, Tree.actionsIn_append] at tags
    obtain ⟨own, others⟩ := List.forall_mem_append.1 tags
    cases stop : node.signal? with
    | some signal =>
      rw [renderAll_signal stop]
      split
      · exact framing.refl env
      · exact framing.interrupt env signal
    | none =>
      rw [renderAll_cons stop]
      have first : kept env (Render.renderNode env node).contained.2 :=
        framing.contained (framing.renderNode node env own)
      split
      · exact framing.refl env
      · split
        · rename_i text after contained
          rw [contained] at first
          rw [env_after]
          exact framing.trans first (framing.renderAll rest after others)
        · rename_i contained
          rwa [contained] at first
termination_by structural nodes

/-- Branches keep what every step keeps. -/
theorem Framing.renderBranches (framing : Framing kept admitted) (branches : List (Branch Node))
    (env : Env) (tags : ∀ action ∈ actionsIn (itemsOfBranches branches), admitted action) :
    kept env (renderBranches env branches).2 := by
  match branches with
  | [] => exact framing.refl env
  | ⟨_, predicate, body⟩ :: rest =>
    rw [itemsOfBranches, Tree.actionsIn_branch, Tree.actionsIn_append] at tags
    obtain ⟨own, others⟩ := List.forall_mem_append.1 tags
    cases predicate with
    | none => exact framing.renderAll body env own
    | some condition =>
      rw [Render.renderBranches]
      cases evalCondition env condition with
      | error fault => exact framing.refl env
      | ok holds =>
        cases holds with
        | true => exact framing.renderAll body env own
        | false => exact framing.renderBranches rest env others
termination_by structural branches

end

end

end Render
end MailMerge
