/-
# Two walks over one document

An outline is compared with another one of the same document: one over other personal data,
one drawn up again with a later keyring, or one with other marks. The two walks then take
the same steps, and what has to be known is which relation each step keeps. That is said
once here: the laws of a relation between environments and of a relation between walks, and
by one induction over the tree that two walks with these laws come to what the laws say.
-/

import MailMerge.Proofs.Outline.Drawing

namespace MailMerge

open MailMerge.Tree (Node Branch Document Output LeafAction itemsOf itemsOfBranches actionsIn)
open Render (Env Outcome)

namespace Render

/-- **Environments in which the same is read:** names are personal in both or in neither, the
same signals are pending, and what reads no personal name has the same result. Every step
keeps this, where the actions of tags are admitted ones. -/
structure Matching (alike : Env → Env → Prop) (admitted : LeafAction → Prop) : Prop where
  selects : ∀ {env env'}, alike env env' → ∀ names, env'.selects names = env.selects names
  interrupts : ∀ {env env'}, alike env env' → env'.interrupts = env.interrupts
  output : ∀ {env env'}, alike env env' → ∀ output : Output, env.selects output.names = false →
    renderOutput env' output = renderOutput env output
  condition : ∀ {env env'}, alike env env' → ∀ condition : Markup.Condition,
    env.selects condition.names = false → evalCondition env' condition = evalCondition env condition
  enter : ∀ {env env'}, alike env env' → alike (env.enter ∅) (env'.enter ∅)
  interrupt : ∀ {env env'}, alike env env' → ∀ signal, alike (env.interrupt signal) (env'.interrupt signal)
  act : ∀ {action}, admitted action → ∀ {env env'}, alike env env' → ∀ markup,
    (action markup env').1 = (action markup env).1 ∧ alike (action markup env).2 (action markup env').2
  contain : ∀ {env env'}, alike env env' → ∀ fault,
    (env'.contain fault).1 = (env.contain fault).1 ∧ alike (env.contain fault).2 (env'.contain fault).2

/-- In one environment the same is read, whatever tags do. -/
theorem matching_eq : Matching Eq fun _ => True where
  selects same _ := same ▸ rfl
  interrupts same := same ▸ rfl
  output same _ _ := same ▸ rfl
  condition same _ _ := same ▸ rfl
  enter same := same ▸ rfl
  interrupt same _ := same ▸ rfl
  act _ _ _ same _ := same ▸ ⟨rfl, rfl⟩
  contain same _ := same ▸ ⟨rfl, rfl⟩

section

variable {alike : Env → Env → Prop} {admitted : LeafAction → Prop} {env env' : Env}

theorem Matching.interrupted (matching : Matching alike admitted) (h : alike env env') :
    env'.interrupted = env.interrupted := by
  unfold Env.interrupted
  rw [matching.interrupts h]

/-- A fault is contained alike. -/
theorem Matching.contained (matching : Matching alike admitted) {outcome outcome' : Outcome}
    (result : outcome'.1 = outcome.1) (after : alike outcome.2 outcome'.2) :
    outcome'.contained.1 = outcome.contained.1 ∧ alike outcome.contained.2 outcome'.contained.2 := by
  obtain ⟨result₁, env⟩ := outcome
  obtain ⟨result₂, env'⟩ := outcome'
  obtain rfl : result₂ = result₁ := result
  cases result₂ with
  | ok text => exact ⟨rfl, after⟩
  | error fault => exact matching.contain after fault

end

end Render

namespace Outline

open Render (Matching)

/-- **Whether a conditional is put off** is decided without a look at any value. -/
theorem isPersonal_congr {env env' : Env} (same : ∀ names, env'.selects names = env.selects names)
    (branches : List (Branch Node)) : isPersonal env' branches = isPersonal env branches := by
  unfold isPersonal
  refine congrArg _ (funext fun branch => ?_)
  cases branch.predicate with
  | none => rfl
  | some condition => exact same condition.names

/-- No predicate of a conditional that is not put off reads a personal name. -/
theorem selects_of_isPersonal {env : Env} {branches : List (Branch Node)}
    (h : isPersonal env branches = false) {branch : Branch Node} (mem : branch ∈ branches)
    {condition : Markup.Condition} (own : branch.predicate = some condition) :
    env.selects condition.names = false := by
  have none := List.any_eq_false.1 h branch mem
  rw [own] at none
  exact Bool.eq_false_iff.2 none

/-- **Drafts that grow alike:** what is related stays so when one draft takes over another, and
when the first fragment that was added reports a conditional. -/
structure Drafting (drafts : Draft → Draft → Prop) : Prop where
  empty : drafts .empty .empty
  absorb : ∀ {draft draft' child child'}, drafts draft draft' → drafts child child' →
    drafts (draft.absorb child) (draft'.absorb child')
  report : ∀ {draft draft' next next'}, drafts draft draft' → drafts next next' → ∀ owner,
    drafts (next.reportTo owner next.fragments[draft.fragments.length]?)
      (next'.reportTo owner next'.fragments[draft'.fragments.length]?)

theorem drafting_eq : Drafting Eq where
  empty := rfl
  absorb own inner := own ▸ inner ▸ rfl
  report before after _ := before ▸ after ▸ rfl

/-- **What two walks keep of each other:** `near` relates them, `drafts` relates what they have
drawn up so far, and `come ring` what they come to, where the first of them had `ring` for its
keyring before. -/
structure Pairing (alike : Env → Env → Prop) (admitted : LeafAction → Prop)
    (near : Walker → Walker → Prop) (drafts : Draft → Draft → Prop)
    (come : Keyring → Drawn → Drawn → Prop) : Prop
    extends Matching alike admitted, Drafting drafts where
  env : ∀ {walker walker'}, near walker walker' → alike walker.env walker'.env
  withEnv : ∀ {walker walker'}, near walker walker' → ∀ {env env'}, alike env env' →
    near { walker with env := env } { walker' with env := env' }
  ok : ∀ {walker walker'}, near walker walker' → ∀ {draft draft'}, drafts draft draft' →
    come walker.ring (.ok draft, walker) (.ok draft', walker')
  failed : ∀ {walker walker'}, near walker walker' → ∀ fault,
    come walker.ring (.error fault, walker) (.error fault, walker')
  text : ∀ {walker walker'}, near walker walker' → ∀ {draft draft'}, drafts draft draft' → ∀ text,
    come walker.ring (draft.pushText walker.ring.format text, walker)
      (draft'.pushText walker'.ring.format text, walker')
  putOff : ∀ {walker walker'}, near walker walker' → ∀ {draft draft'}, drafts draft draft' →
    ∀ output, come walker.ring (draft.putOff walker output) (draft'.putOff walker' output)
  added : ∀ {walker walker'}, near walker walker' → ∀ {draft draft'}, drafts draft draft' →
    ∀ {child child'}, drafts child child' → ∀ depth branch guard,
      come walker.ring (Drawn.done (draft.addDrawn depth branch guard child walker))
        (Drawn.done (draft'.addDrawn depth branch guard child' walker'))
  outside : ∀ {ring drawn drawn'}, come ring drawn drawn' →
    come ring (Outline.outside drawn) (Outline.outside drawn')
  andThen : ∀ {ring drawn drawn'}, come ring drawn drawn' → ∀ {next next'},
    (∀ {child child' after after'}, near after after' → drafts child child' →
      come after.ring (next child after) (next' child' after')) →
    come ring (Drawn.andThen drawn next) (Drawn.andThen drawn' next')

section

variable {alike : Env → Env → Prop} {admitted : LeafAction → Prop} {near : Walker → Walker → Prop}
  {drafts : Draft → Draft → Prop} {come : Keyring → Drawn → Drawn → Prop}

theorem Pairing.takeOver (pairing : Pairing alike admitted near drafts come) {ring : Keyring}
    {drawn drawn' : Drawn} (h : come ring drawn drawn') {draft draft' : Draft}
    (before : drafts draft draft') : come ring (draft.takeOver drawn) (draft'.takeOver drawn') := by
  rw [Draft.takeOver_eq_andThen, Draft.takeOver_eq_andThen]
  exact pairing.andThen h fun walkers inner => pairing.ok walkers (pairing.absorb before inner)

/-- What rendering gave comes to the same in both walks. -/
theorem Pairing.addOutcome (pairing : Pairing alike admitted near drafts come)
    {walker walker' : Walker} (h : near walker walker') {draft draft' : Draft}
    (before : drafts draft draft') {outcome outcome' : Outcome} (result : outcome'.1 = outcome.1)
    (after : alike outcome.2 outcome'.2) :
    come walker.ring (walker.addOutcome draft outcome) (walker'.addOutcome draft' outcome') := by
  have contained := pairing.contained result after
  unfold Walker.addOutcome
  generalize outcome.contained = settled at contained
  generalize outcome'.contained = settled' at contained
  obtain ⟨result, env⟩ := settled
  obtain ⟨result', env'⟩ := settled'
  obtain ⟨rfl, envs⟩ := contained
  have walkers := pairing.withEnv h envs
  cases result' with
  | ok text => exact pairing.text walkers before text
  | error fault => exact pairing.failed walkers (.shared fault)

-- By recursion on the tree. The relations are never opened: only their laws are used, and the
-- tests of the two walks are made equal before a case is split, so that both take one branch.
mutual

/-- **A node keeps what two walks keep.** -/
theorem Pairing.drawNode (pairing : Pairing alike admitted near drafts come) (node : Node)
    (tags : ∀ action ∈ actionsIn node.items, admitted action) {walker walker' : Walker}
    (h : near walker walker') {draft draft' : Draft} (before : drafts draft draft') :
    come walker.ring (drawNode walker draft node) (drawNode walker' draft' node) := by
  have envs := pairing.env h
  match node with
  | .text raw => exact pairing.text h before raw
  | .output output =>
    rw [drawNode_output, drawNode_output, pairing.selects envs]
    split
    · exact pairing.putOff h before output
    · rename_i unselected
      have value := pairing.output envs output (Bool.eq_false_iff.2 unselected)
      exact pairing.addOutcome h before value envs
  | .tag head (.interrupt signal) =>
    rw [Outline.drawNode, Outline.drawNode]
    refine pairing.addOutcome h before ?_ (pairing.interrupt envs signal)
    rfl
  | .tag head (.leaf action) =>
    obtain ⟨result, after⟩ := pairing.act (tags action (List.mem_singleton_self action)) envs head.markup
    exact pairing.addOutcome h before result after
  | .block _ body =>
    rw [drawNode_block, drawNode_block]
    exact pairing.takeOver (pairing.drawAll body tags h pairing.empty) before
  | .conditional _ branches =>
    rw [drawNode_conditional, drawNode_conditional]
    refine pairing.takeOver (pairing.outside ?_) before
    have inside := pairing.withEnv h (pairing.enter envs)
    unfold drawInside
    rw [isPersonal_congr (pairing.selects envs)]
    split
    · exact pairing.drawBranches branches tags _ [] inside pairing.empty pairing.empty
    · rename_i shared
      refine pairing.drawChosen branches tags inside fun branch mem condition own => ?_
      have kept : isPersonal walker.env branches = false := Bool.eq_false_iff.2 shared
      exact selects_of_isPersonal kept mem own
termination_by structural node

/-- **Nodes in a row keep what two walks keep.** -/
theorem Pairing.drawAll (pairing : Pairing alike admitted near drafts come) (nodes : List Node)
    (tags : ∀ action ∈ actionsIn (itemsOf nodes), admitted action) {walker walker' : Walker}
    (h : near walker walker') {draft draft' : Draft} (before : drafts draft draft') :
    come walker.ring (drawAll walker draft nodes) (drawAll walker' draft' nodes) := by
  have envs := pairing.env h
  match nodes with
  | [] => exact pairing.ok h before
  | node :: rest =>
    rw [itemsOf, Tree.actionsIn_append] at tags
    obtain ⟨own, others⟩ := List.forall_mem_append.1 tags
    cases stop : node.signal? with
    | some signal =>
      rw [drawAll_signal stop, drawAll_signal stop, pairing.interrupted envs]
      split
      · exact pairing.ok h before
      · exact pairing.ok (pairing.withEnv h (pairing.interrupt envs signal)) before
    | none =>
      by_cases pending : walker.env.interrupted
      · rw [drawAll_interrupted pending, drawAll_interrupted ((pairing.interrupted envs).trans pending)]
        exact pairing.ok h before
      · have goes : ¬ walker'.env.interrupted := by rwa [pairing.interrupted envs]
        rw [drawAll_next stop pending, drawAll_next stop goes]
        exact pairing.andThen (pairing.drawNode node own h before) fun walkers next =>
          pairing.drawAll rest others walkers next
termination_by structural nodes

/-- Of a conditional that reads no personal name both walks take the same branch. -/
theorem Pairing.drawChosen (pairing : Pairing alike admitted near drafts come)
    (branches : List (Branch Node))
    (tags : ∀ action ∈ actionsIn (itemsOfBranches branches), admitted action)
    {walker walker' : Walker} (h : near walker walker')
    (shared : ∀ branch ∈ branches, ∀ condition, branch.predicate = some condition →
      walker.env.selects condition.names = false) :
    come walker.ring (drawChosen walker branches) (drawChosen walker' branches) := by
  match branches with
  | [] => exact pairing.ok h pairing.empty
  | ⟨_, predicate, body⟩ :: rest =>
    rw [itemsOfBranches, Tree.actionsIn_branch, Tree.actionsIn_append] at tags
    obtain ⟨own, others⟩ := List.forall_mem_append.1 tags
    obtain ⟨unselected, later⟩ := List.forall_mem_cons.1 shared
    cases predicate with
    | none => exact pairing.drawAll body own h pairing.empty
    | some condition =>
      have envs := pairing.env h
      rw [Outline.drawChosen, Outline.drawChosen,
        pairing.condition envs condition (unselected condition rfl)]
      cases Render.evalCondition walker.env condition with
      | error fault => exact pairing.addOutcome h pairing.empty rfl envs
      | ok holds =>
        cases holds with
        | true => exact pairing.drawAll body own h pairing.empty
        | false => exact pairing.drawChosen rest others h later
termination_by structural branches

/-- **Every branch keeps what two walks keep,** with the fragment that would report the
conditional if there were no more branches. -/
theorem Pairing.drawBranches (pairing : Pairing alike admitted near drafts come)
    (branches : List (Branch Node))
    (tags : ∀ action ∈ actionsIn (itemsOfBranches branches), admitted action) (owner : Nat)
    (passed : List BranchCondition) {reporter reporter' : Option Fragment} {walker walker' : Walker}
    (h : near walker walker') {draft draft' : Draft} (before : drafts draft draft')
    (reported : drafts (draft.reportTo owner reporter) (draft'.reportTo owner reporter')) :
    come walker.ring (drawBranches owner passed reporter draft walker branches)
      (drawBranches owner passed reporter' draft' walker' branches) := by
  match branches with
  | [] => exact pairing.ok h reported
  | ⟨id, predicate, body⟩ :: rest =>
    rw [itemsOfBranches, Tree.actionsIn_branch, Tree.actionsIn_append] at tags
    obtain ⟨own, others⟩ := List.forall_mem_append.1 tags
    have inside := pairing.drawAll body own h pairing.empty
    have depths := congrArg List.length (pairing.interrupts (pairing.env h))
    cases predicate with
    | none =>
      rw [drawBranches_else, drawBranches_else, depths]
      refine pairing.andThen inside fun after inner => ?_
      refine pairing.andThen (pairing.added after before inner _ id _) fun last next => ?_
      exact pairing.ok last (pairing.report before next owner)
    | some condition =>
      rw [drawBranches_cons, drawBranches_cons, depths]
      refine pairing.andThen inside fun after inner => ?_
      refine pairing.andThen (pairing.added after before inner _ id _) fun last next => ?_
      -- if no branch follows, the first fragment of this one reports the conditional
      exact pairing.drawBranches rest others owner _ last next (pairing.report before next owner)
termination_by structural branches

end

/-- **Two walks over one document** come to what its nodes come to. -/
theorem Pairing.drawDocument (pairing : Pairing alike admitted near drafts come) (document : Document)
    (tags : ∀ action ∈ document.actions, admitted action) {walker walker' : Walker}
    (h : near walker walker') :
    come walker.ring (Outline.drawAll walker .empty document.nodes)
      (Outline.drawAll walker' .empty document.nodes) :=
  pairing.drawAll document.nodes tags h pairing.empty

end

end Outline
end MailMerge
