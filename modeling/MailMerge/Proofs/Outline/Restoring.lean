/-
# What rendering and drawing up restore

Rendering nodes and drawing them up leave the scopes as they found them, whichever way they end: as
many as before, and all but the innermost one unchanged. Faults are only added to those contained
before, and signals to stop only to those pending before. This holds for tags that stay in their
scope: they may read names and bind them there, write registers, and raise and take up signals.

| operation | innermost scope | other scopes | registers | signals | faults |
| --- | --- | --- | --- | --- | --- |
| binding a name | changed | | | | |
| writing registers | | | changed | | |
| raising a signal | | | | one more | |
| taking up a signal | | | | one less | |

A tag could take up a signal that was pending before, but nodes are passed over while one is, so no
tag ever runs then.

A conditional leaves the innermost scope as it was too, since its branches have a scope of their own.
And where a signal is left pending, the nodes that follow make no difference.
-/

import MailMerge.Extension
import MailMerge.Proofs.Outline.Within
import MailMerge.Proofs.Render.Strictness
import MailMerge.Proofs.Tree.Preorder

namespace MailMerge

open MailMerge.Tree (Node Branch Document LeafAction itemsOf itemsOfBranches actionsIn)

namespace Render

/-! ### Environments with the same scopes -/

/-- **What operations of tags lead to,** one after the other. -/
inductive Env.Reaches (env : Env) : Env → Prop
  | refl : Reaches env env
  | set {middle : Env} (before : Reaches env middle) (name : String) (value : Value) :
    Reaches env (middle.set name value)
  | registers {middle : Env} (before : Reaches env middle) (registers : Scope) :
    Reaches env { middle with registers := registers }
  | interrupt {middle : Env} (before : Reaches env middle) (signal : Interrupt) :
    Reaches env (middle.interrupt signal)
  | takeInterrupt {middle : Env} (before : Reaches env middle) : Reaches env middle.takeInterrupt.2

/-- **A tag that stays in its scope:** whatever it reads and gives, all it does is to bind names in
the innermost scope, write registers, and raise and take up signals. -/
def StaysInScope (action : LeafAction) : Prop := ∀ markup env, Env.Reaches env (action markup env).2

/-- **What is restored apart from signals:** the scopes around the innermost one, and the faults
contained before. -/
structure KeepsOuter (env after : Env) : Prop where
  outer : after.outer = env.outer
  faults : env.faults <+: after.faults

/-- **What is restored:** the scopes around the innermost one, the faults contained before, and the
signals pending before, with the newest of either added at its own end. -/
structure Restored (env after : Env) : Prop extends KeepsOuter env after where
  interrupts : env.interrupts <:+ after.interrupts

/-- **The same scopes,** the innermost one included. -/
structure SameScopes (env after : Env) : Prop where
  inner : after.inner = env.inner
  outer : after.outer = env.outer

theorem KeepsOuter.trans {env middle after : Env} (first : KeepsOuter env middle)
    (second : KeepsOuter middle after) : KeepsOuter env after :=
  ⟨second.outer.trans first.outer, first.faults.trans second.faults⟩

/-- Operations of tags keep the outer scopes and the faults. -/
theorem Env.Reaches.keepsOuter {env after : Env} (h : env.Reaches after) : KeepsOuter env after := by
  induction h with
  | refl => exact ⟨rfl, List.prefix_refl _⟩
  | set before name value ih => exact ih.trans ⟨rfl, List.prefix_refl _⟩
  | registers before registers ih => exact ih.trans ⟨rfl, List.prefix_refl _⟩
  | interrupt before signal ih => exact ih.trans ⟨rfl, List.prefix_refl _⟩
  | @takeInterrupt middle before ih =>
    refine ih.trans ?_
    unfold Env.takeInterrupt
    split <;> exact ⟨rfl, List.prefix_refl _⟩

/-- Where nothing is done while a signal is pending, the pending signals are restored too. -/
theorem KeepsOuter.restored {env after : Env} (h : KeepsOuter env after)
    (idle : env.interrupted → after = env) : Restored env after := by
  refine ⟨h, ?_⟩
  cases pending : env.interrupted with
  | true => exact idle pending ▸ List.suffix_refl _
  | false =>
    have none : env.interrupts = [] := by simpa [Env.interrupted] using pending
    exact none ▸ List.nil_suffix

/-- Leaving a scope that was entered brings back the scopes of before. -/
theorem SameScopes.of_leave {env after : Env} {scope : Scope} (h : after.outer = (env.enter scope).outer) :
    SameScopes env after.leave := by
  have outer : after.outer = env.inner :: env.outer := h
  unfold Env.leave
  rw [outer]
  exact ⟨rfl, rfl⟩

/-- **The ready-made tags** stay in their scope. -/
theorem staysInScope_extension :
    ∀ action ∈ [Extension.echo, Extension.fail, Extension.assign, Extension.get, Extension.counter,
      Extension.interrupt, Extension.pop], StaysInScope action := by
  simp only [List.forall_mem_cons, List.not_mem_nil, false_implies, implies_true, and_true]
  exact ⟨fun _ _ => .refl, fun _ _ => .refl, fun _ _ => .set .refl _ _, fun _ _ => .refl,
    fun _ _ => .registers .refl _, fun _ _ => .interrupt .refl _, fun _ _ => .takeInterrupt .refl⟩

end Render

namespace Outline

open Render (Env KeepsOuter Restored SameScopes StaysInScope)

/-- Each step of rendering and drawing up keeps the outer scopes and the faults. -/
theorem framing_keepsOuter : Framing KeepsOuter StaysInScope where
  refl _ := ⟨rfl, List.prefix_refl _⟩
  trans := .trans
  contain env fault := by
    unfold Env.contain
    split
    · exact ⟨rfl, List.prefix_refl _⟩
    · exact ⟨rfl, List.prefix_append _ _⟩
  interrupt _ _ := ⟨rfl, List.prefix_refl _⟩
  close kept := ⟨kept.outer, kept.faults⟩
  leave {env after} kept :=
    ⟨(SameScopes.of_leave kept.outer).outer, Render.faults_leave after ▸ kept.faults⟩
  act stays markup env := (stays markup env).keepsOuter

/-! ### Relations that drawing up keeps -/

section Framing

variable {kept : Env → Env → Prop} {admitted : LeafAction → Prop}

theorem Framing.addOutcome (framing : Framing kept admitted) {walker : Walker} {outcome : Render.Outcome}
    (h : kept walker.env outcome.2) (draft : Draft) :
    kept walker.env (walker.addOutcome draft outcome).2.env := by
  have contained := framing.contained h
  unfold Walker.addOutcome
  split <;> rename_i same <;> rwa [same] at contained

/-- A branch is kept, and so is what goes on after it has been added. -/
theorem Framing.addDrawn (framing : Framing kept admitted) {walker after : Walker}
    (h : kept walker.env after.env) (draft child : Draft) (branch : Nat) (guard : Guard) :
    kept walker.env
      (draft.addDrawn walker.env.interrupts.length branch guard child after).2.env := by
  have closed : (after.closeBody walker.env.interrupts.length child).2.env =
      after.env.dropInterrupts walker.env.interrupts.length := closeBody_env after _
  have dropped := framing.close h
  rwa [← closed] at dropped

/-- What holds after something has been drawn up, and is handed on, holds after what goes on. -/
theorem Drawn.env_andThen {holds : Env → Prop} {drawn : Drawn} {next : Draft → Walker → Drawn}
    (h : holds drawn.2.env) (goes : ∀ draft after, holds after.env → holds (next draft after).2.env) :
    holds (drawn.andThen next).2.env := by
  obtain ⟨fault | draft, after⟩ := drawn
  · exact h
  · exact goes draft after h

/-- What holds after every branch and after the chosen one holds after what is drawn up inside a
conditional. -/
theorem env_drawInside {holds : Env → Prop} {walker : Walker} {branches : List (Branch Node)}
    (every : holds (drawBranches ((Tree.conditionalId? branches).getD 0) [] none .empty
      { walker with env := walker.env.enter ∅ } branches).2.env)
    (chosen : holds (drawChosen { walker with env := walker.env.enter ∅ } branches).2.env) :
    holds (drawInside walker branches).2.env := by
  unfold drawInside
  split
  · exact every
  · exact chosen

mutual

/-- **Drawing up a node keeps what every step keeps.** -/
theorem Framing.drawNode (framing : Framing kept admitted) (node : Node) (walker : Walker) (draft : Draft)
    (tags : ∀ action ∈ actionsIn node.items, admitted action) :
    kept walker.env (drawNode walker draft node).2.env := by
  match node with
  | .text _ => exact framing.refl walker.env
  | .output output =>
    rw [Outline.drawNode]
    split
    · exact framing.refl walker.env
    · exact framing.addOutcome (framing.refl walker.env) draft
  | .tag head (.interrupt signal) =>
    have raised : kept walker.env (Render.runTag (.interrupt signal) head.markup walker.env).2 :=
      framing.interrupt walker.env signal
    exact framing.addOutcome raised draft
  | .tag head (.leaf action) =>
    have acted := framing.act (tags action (List.mem_singleton_self action)) head.markup walker.env
    exact framing.addOutcome acted draft
  | .block _ body =>
    rw [drawNode_block]
    exact framing.drawAll body walker .empty tags
  | .conditional _ branches =>
    rw [drawNode_conditional]
    exact framing.leave (env_drawInside
      (framing.drawBranches branches _ _ _ _ { walker with env := walker.env.enter ∅ } tags)
      (framing.drawChosen branches { walker with env := walker.env.enter ∅ } tags))
termination_by structural node

/-- **Drawing up nodes in a row keeps what every step keeps.** -/
theorem Framing.drawAll (framing : Framing kept admitted) (nodes : List Node) (walker : Walker)
    (draft : Draft) (tags : ∀ action ∈ actionsIn (itemsOf nodes), admitted action) :
    kept walker.env (drawAll walker draft nodes).2.env := by
  match nodes with
  | [] => exact framing.refl walker.env
  | node :: rest =>
    rw [itemsOf, Tree.actionsIn_append] at tags
    obtain ⟨own, others⟩ := List.forall_mem_append.1 tags
    cases stop : node.signal? with
    | some signal =>
      rw [drawAll_signal stop]
      split
      · exact framing.refl walker.env
      · exact framing.interrupt walker.env signal
    | none =>
      by_cases pending : walker.env.interrupted
      · rw [drawAll_cons stop, if_pos pending]
        exact framing.refl walker.env
      · rw [drawAll_next stop pending]
        refine Drawn.env_andThen (framing.drawNode node walker draft own) fun next after first => ?_
        exact framing.trans first (framing.drawAll rest after next others)
termination_by structural nodes

/-- Drawing up the chosen branch keeps what every step keeps. -/
theorem Framing.drawChosen (framing : Framing kept admitted) (branches : List (Branch Node))
    (walker : Walker) (tags : ∀ action ∈ actionsIn (itemsOfBranches branches), admitted action) :
    kept walker.env (drawChosen walker branches).2.env := by
  match branches with
  | [] => exact framing.refl walker.env
  | ⟨_, predicate, body⟩ :: rest =>
    rw [itemsOfBranches, Tree.actionsIn_branch, Tree.actionsIn_append] at tags
    obtain ⟨own, others⟩ := List.forall_mem_append.1 tags
    cases predicate with
    | none => exact framing.drawAll body walker .empty own
    | some condition =>
      rw [Outline.drawChosen]
      cases Render.evalCondition walker.env condition with
      | error fault => exact framing.addOutcome (framing.refl walker.env) .empty
      | ok holds =>
        cases holds with
        | true => exact framing.drawAll body walker .empty own
        | false => exact framing.drawChosen rest walker others
termination_by structural branches

/-- Drawing up every branch keeps what every step keeps. -/
theorem Framing.drawBranches (framing : Framing kept admitted) (branches : List (Branch Node))
    (owner : Nat) (passed : List BranchCondition) (reporter : Option Fragment) (draft : Draft)
    (walker : Walker) (tags : ∀ action ∈ actionsIn (itemsOfBranches branches), admitted action) :
    kept walker.env (drawBranches owner passed reporter draft walker branches).2.env := by
  match branches with
  | [] => exact framing.refl walker.env
  | ⟨id, predicate, body⟩ :: rest =>
    rw [itemsOfBranches, Tree.actionsIn_branch, Tree.actionsIn_append] at tags
    obtain ⟨own, others⟩ := List.forall_mem_append.1 tags
    have inside := framing.drawAll body walker .empty own
    cases predicate with
    | none =>
      rw [drawBranches_else]
      exact Drawn.env_andThen inside fun child after first => framing.addDrawn first draft child id _
    | some condition =>
      rw [drawBranches_cons]
      refine Drawn.env_andThen inside fun child after first => ?_
      exact framing.trans (framing.addDrawn first draft child id _)
        (framing.drawBranches rest owner _ _ _ _ others)
termination_by structural branches

end

/-- What is drawn up inside a conditional keeps what every step keeps. -/
theorem Framing.drawInside (framing : Framing kept admitted) (walker : Walker)
    (branches : List (Branch Node))
    (tags : ∀ action ∈ actionsIn (itemsOfBranches branches), admitted action) :
    kept (walker.env.enter ∅) (drawInside walker branches).2.env :=
  env_drawInside (framing.drawBranches branches _ _ _ _ { walker with env := walker.env.enter ∅ } tags)
    (framing.drawChosen branches { walker with env := walker.env.enter ∅ } tags)

end Framing

/-! ### Every exit -/

/-- **Rendering and drawing up restore the environment,** whether they give a result or a fault: with
tags that stay in their scope, the scopes around the innermost one are the same, and faults and
signals are only added. A conditional leaves even the innermost scope as it was. Where a signal to
stop is left pending, nodes that follow change neither the result nor the environment. -/
theorem walks_restore (document : Document) (stay : ∀ action ∈ document.actions, StaysInScope action)
    (env : Env) :
    Restored env (Render.renderAll env document.nodes).2 ∧
      (∀ ring, Restored env (ofDocument document env ring).2.1) ∧
      (∀ head branches, .conditional head branches ∈ document.preorder →
        (∀ env, SameScopes env (Render.renderNode env (.conditional head branches)).2) ∧
        ∀ walker draft, SameScopes walker.env (drawNode walker draft (.conditional head branches)).2.env) ∧
      (∀ nodes more env, (Render.renderAll env nodes).2.interrupted →
        Render.renderAll env (nodes ++ more) = Render.renderAll env nodes) ∧
      ∀ nodes more walker draft, (drawAll walker draft nodes).2.env.interrupted →
        drawAll walker draft (nodes ++ more) = drawAll walker draft nodes := by
  have inside : ∀ {head branches}, .conditional head branches ∈ document.preorder →
      ∀ action ∈ actionsIn (itemsOfBranches branches), StaysInScope action :=
    fun mem action own => stay action (Tree.actionsIn_subset (Tree.items_subset_of_preorder mem) own)
  refine ⟨?_, fun ring => ?_, fun head branches mem => ⟨fun env => ?_, fun walker draft => ?_⟩,
    Render.renderAll_append_of_interrupted, drawAll_append_of_interrupted⟩
  · refine KeepsOuter.restored ?_ fun pending => by rw [Render.renderAll_interrupted pending]
    exact framing_keepsOuter.renderAll document.nodes env stay
  · have walk : (ofDocument document env ring).2.1 =
        (drawAll ⟨env, ring, none⟩ .empty document.nodes).2.env := by
      unfold ofDocument
      split <;> rename_i same <;> rw [same]
    rw [walk]
    refine KeepsOuter.restored ?_ fun pending => ?_
    · exact framing_keepsOuter.drawAll document.nodes ⟨env, ring, none⟩ .empty stay
    · have idle : (⟨env, ring, none⟩ : Walker).env.interrupted := pending
      rw [drawAll_interrupted idle]
  · exact .of_leave (framing_keepsOuter.renderBranches branches _ (inside mem)).outer
  · rw [drawNode_conditional]
    exact .of_leave (framing_keepsOuter.drawInside walker branches (inside mem)).outer

/-- Inside a conditional that reads a personal name a name is bound, and then a tag fails where faults
are not contained: the name is not bound afterwards. Behind a tag that raises a signal the same nodes
are not come to. -/
theorem walks_restore_failing :
    let head : Source.TagHead := ⟨"tag", "x 1", 10, ⟨0, 16⟩⟩
    let branch : Branch Node := ⟨0, some (.last ⟨.lookup "b" [], none⟩),
      [.tag head (.leaf Extension.assign), .tag head (.leaf Extension.fail)]⟩
    let document : Document := ⟨[.tag head (.leaf Extension.pop), .conditional head [branch]]⟩
    let env : Env := { (Env.ofFilters Render.standardFilters).set "b" (.bool true) with
      strict := true, selector := some (.ofNames ["b"]) }
    let walker : Walker := ⟨env, .ofFormat .standard, none⟩
    let raising : List Node := [.tag head (.leaf Extension.interrupt)]
    (∀ action ∈ document.actions, StaysInScope action) ∧
      (ofDocument document env walker.ring).1.map (fun _ => ()) = .error (.shared (.custom "x 1")) ∧
      ((ofDocument document env walker.ring).2.1.get "x").isNil = true ∧
      Restored env (ofDocument document env walker.ring).2.1 ∧
      Restored env (Render.renderAll env document.nodes).2 ∧
      SameScopes env (Render.renderNode env (.conditional head [branch])).2 ∧
      (Render.renderAll env raising).2.interrupted ∧
      Render.renderAll env (raising ++ document.nodes) = Render.renderAll env raising ∧
      (drawAll walker .empty raising).2.env.interrupted ∧
      drawAll walker .empty (raising ++ document.nodes) = drawAll walker .empty raising := by
  intro head branch document env walker raising
  have stay : ∀ action ∈ document.actions, StaysInScope action := by
    intro action mem
    have ready : document.actions = [Extension.pop, Extension.assign, Extension.fail] := rfl
    rw [ready] at mem
    refine Render.staysInScope_extension action ?_
    simp only [List.mem_cons, List.not_mem_nil, or_false] at mem ⊢
    tauto
  have inside : .conditional head [branch] ∈ document.preorder := .tail _ (.head _)
  have pending : (Render.renderAll env raising).2.interrupted = true := by decide +kernel
  have pendingDrawn : (drawAll walker .empty raising).2.env.interrupted = true := by decide +kernel
  obtain ⟨rendered, drawn, scopes, renderedOn, drawnOn⟩ := walks_restore document stay env
  exact ⟨stay, by decide +kernel, by decide +kernel, drawn _, rendered, (scopes _ _ inside).1 env,
    pending, renderedOn _ _ _ pending, pendingDrawn, drawnOn _ _ _ _ pendingDrawn⟩

end Outline
end MailMerge
