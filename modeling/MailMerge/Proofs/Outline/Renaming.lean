/-
# Sketches under other numbers

Numbers tell outputs and branches apart and nothing else. So under other numbers, and in
other places, nodes have the sketch they had, with the other numbers in it, as long as
numbers that differ still do. Nor does a sketch depend on the faults that were contained
before, if the tags do not look at them.
-/

import MailMerge.Proofs.Outline.Within
import MailMerge.Proofs.Tree.Renaming

namespace MailMerge

open MailMerge.Tree (Renaming Node Branch LeafAction itemsOf itemsOfBranches idsIn actionsIn renamedAll
  renamedBranches)

/-! ### Environments with other faults -/

namespace Render

/-- The environment with other faults. -/
def Env.withFaults (env : Env) (faults : List Fault) : Env := { env with faults := faults }

theorem agreesOn_withFaults (env : Env) (faults : List Fault) (names : List String) :
    AgreesOn names env (env.withFaults faults) := ⟨rfl, fun _ _ => rfl⟩

theorem leave_withFaults (env : Env) (faults : List Fault) :
    (env.withFaults faults).leave = env.leave.withFaults faults := by
  obtain ⟨inner, _ | ⟨scope, outer⟩, _, _, _, _, _, _⟩ := env <;> rfl

/-- Containing a fault looks at no fault from before. -/
theorem contained_withFaults (result : Except Fault String) (env : Env) (faults : List Fault) :
    ∃ more, Outcome.contained (result, env.withFaults faults) =
      ((Outcome.contained (result, env)).1, (Outcome.contained (result, env)).2.withFaults more) := by
  cases result with
  | ok text => exact ⟨faults, rfl⟩
  | error fault =>
    have strict : (env.withFaults faults).strict = env.strict := rfl
    simp only [Outcome.contained, Env.contain, strict]
    split
    · exact ⟨faults, rfl⟩
    · exact ⟨faults ++ [fault], rfl⟩

/-- **An action that does not look at faults:** what was contained before makes no difference. -/
def Faultblind (action : LeafAction) : Prop :=
  ∀ markup env faults, ∃ more, action markup (env.withFaults faults) =
    ((action markup env).1, (action markup env).2.withFaults more)

end Render

namespace Outline

open Render (Env Faultblind)

/-! ### Guards and passages -/

section Renamed

variable (names : Renaming)

/-- The predicate of a branch with other numbers. -/
def BranchCondition.renamed (condition : BranchCondition) : BranchCondition :=
  { condition with branch := names.id condition.branch, owner := names.id condition.owner }

/-- The term with other numbers. -/
def Term.renamed (term : Term) : Term := { term with condition := term.condition.renamed names }

/-- The guard with other numbers. -/
def Guard.renamed (guard : Guard) : Guard := ⟨guard.terms.map (Term.renamed names)⟩

/-- The part with other numbers. -/
def Part.renamed : Part → Part
  | .literal text => .literal text
  | .output source => .output (source.renamed names)
  | .halt => .halt

/-- **The passage with other numbers.** -/
def Passage.renamed (passage : Passage) : Passage where
  branch := names.id passage.branch
  run := passage.run
  guard := passage.guard.renamed names
  reports := passage.reports.map names.id
  parts := passage.parts.map (Part.renamed names)

/-- **The piece with other numbers.** -/
def Piece.renamed : Piece → Piece
  | .part own => .part (own.renamed names)
  | .passage own => .passage (own.renamed names)

end Renamed

section Guards

variable {names : Renaming} {ids : List Nat}

/-- A guard asks about the same branches. -/
theorem Guard.mentions_renamed (apart : names.KeepsApart ids) {guard : Guard} (h : guard.Within ids)
    {branch : Nat} (mem : branch ∈ ids) :
    (guard.renamed names).mentions (names.id branch) = guard.mentions branch := by
  unfold Guard.mentions Guard.renamed
  rw [List.any_map, Bool.eq_iff_iff, List.any_eq_true, List.any_eq_true]
  refine exists_congr fun term => and_congr_right fun found => ?_
  have same : names.id term.condition.branch = names.id branch ↔ term.condition.branch = branch :=
    ⟨apart _ (h term found).1 _ mem, congrArg names.id⟩
  simpa [Term.renamed, BranchCondition.renamed] using same

theorem Guard.add_renamed (apart : names.KeepsApart ids) {guard : Guard} (h : guard.Within ids)
    {condition : BranchCondition} (mem : condition.branch ∈ ids) (expected : Bool) :
    (guard.renamed names).add (condition.renamed names) expected =
      (guard.add condition expected).renamed names := by
  have same : (guard.renamed names).mentions (condition.renamed names).branch =
      guard.mentions condition.branch := mentions_renamed apart h mem
  unfold Guard.add
  rw [same]
  split
  · rfl
  · simp [Guard.renamed, Term.renamed]

/-- **The guard of a branch** has the other numbers. -/
theorem Guard.ofBranch_renamed (apart : names.KeepsApart ids) {own : Option BranchCondition}
    {passed : List BranchCondition}
    (h : ∀ condition ∈ passed, condition.branch ∈ ids ∧ condition.owner ∈ ids)
    (hown : ∀ condition ∈ own, condition.branch ∈ ids ∧ condition.owner ∈ ids) :
    Guard.ofBranch (own.map (BranchCondition.renamed names))
        (passed.map (BranchCondition.renamed names)) =
      (Guard.ofBranch own passed).renamed names := by
  have general : ∀ (rest : List BranchCondition) (guard : Guard), guard.Within ids →
      (∀ condition ∈ rest, condition.branch ∈ ids ∧ condition.owner ∈ ids) →
        (rest.map (BranchCondition.renamed names)).foldl
            (fun guard condition => guard.add condition false) (guard.renamed names) =
          (rest.foldl (fun guard condition => guard.add condition false) guard).renamed names := by
    intro rest
    induction rest with
    | nil => exact fun _ _ _ => rfl
    | cons condition rest ih =>
      intro guard hguard hrest
      obtain ⟨first, others⟩ := List.forall_mem_cons.1 hrest
      rw [List.map_cons, List.foldl_cons, List.foldl_cons, add_renamed apart hguard first.1]
      exact ih _ (hguard.add first false) others
  have none_within : Guard.always.Within ids := fun _ mem => (List.not_mem_nil mem).elim
  have excluded := general passed Guard.always none_within h
  cases own with
  | none => exact excluded
  | some condition =>
    have within : (Guard.ofBranch none passed).Within ids :=
      within_ofBranch h fun _ mem => (Option.not_mem_none _ mem).elim
    unfold Guard.ofBranch at within ⊢
    rw [← add_renamed apart within (hown condition rfl).1]
    exact congrArg (Guard.add · (condition.renamed names) true) excluded

theorem Guard.under_renamed (apart : names.KeepsApart ids) {guard outer : Guard} (h : guard.Within ids)
    (houter : outer.Within ids) :
    (guard.renamed names).under (outer.renamed names) = (guard.under outer).renamed names := by
  have kept : (outer.renamed names).terms.filter
        (fun term => !(guard.renamed names).mentions term.condition.branch) =
      (outer.terms.filter fun term => !guard.mentions term.condition.branch).map (Term.renamed names) := by
    unfold Guard.renamed
    rw [List.filter_map]
    refine congrArg _ (List.filter_congr fun term mem => ?_)
    exact congrArg (!·) (mentions_renamed apart h (houter term mem).1)
  unfold Guard.under
  rw [kept]
  simp only [Guard.renamed, List.map_append]

@[simp] theorem isPassage_renamed (piece : Piece) : (piece.renamed names).isPassage = piece.isPassage := by
  cases piece <;> rfl

theorem partsOf_renamed (pieces : List Piece) :
    partsOf (pieces.map (Piece.renamed names)) = (partsOf pieces).map (Part.renamed names) := by
  induction pieces with
  | nil => rfl
  | cons piece rest ih =>
    cases piece with
    | part own => exact congrArg (own.renamed names :: ·) ih
    | passage own => exact ih

theorem passageOfRun_renamed (branch run : Nat) (guard : Guard) (parts : List Part) :
    passageOfRun (names.id branch) run (guard.renamed names) (parts.map (Part.renamed names)) =
      (passageOfRun branch run guard parts).map (Passage.renamed names) := by
  cases parts <;> rfl

theorem passagesFrom_renamed (apart : names.KeepsApart ids) (branch : Nat) {guard : Guard}
    (h : guard.Within ids) (rest : List Piece) (runs : Nat) (parts : List Part)
    (hrest : PassagesWithin ids rest) :
    passagesFrom (names.id branch) (guard.renamed names) runs (parts.map (Part.renamed names))
        (rest.map (Piece.renamed names)) =
      (passagesFrom branch guard runs parts rest).map (Passage.renamed names) := by
  induction rest generalizing runs parts with
  | nil => exact passageOfRun_renamed branch runs guard parts
  | cons piece rest ih =>
    have others : PassagesWithin ids rest := fun passage mem => hrest passage (List.mem_cons_of_mem _ mem)
    cases piece with
    | part own =>
      have joined : parts.map (Part.renamed names) ++ [own.renamed names] =
          (parts ++ [own]).map (Part.renamed names) := by simp
      rw [List.map_cons, Piece.renamed, passagesFrom, passagesFrom, joined]
      exact ih runs _ others
    | passage inner =>
      have under : (inner.renamed names).under (guard.renamed names) =
          (inner.under guard).renamed names := by
        have own := (hrest inner List.mem_cons_self).guard
        unfold Passage.under Passage.renamed
        rw [Guard.under_renamed apart own h]
      have later := ih (if parts.isEmpty then runs else runs + 1) [] others
      rw [List.map_cons, Piece.renamed, passagesFrom, passagesFrom, List.map_append, List.map_cons,
        passageOfRun_renamed, under, List.isEmpty_map]
      exact congrArg (_ ++ _ :: ·) later

/-- **The passages of a branch** have the other numbers. -/
theorem passagesOf_renamed (apart : names.KeepsApart ids) (branch : Nat) {guard : Guard}
    (h : guard.Within ids) {body : List Piece} (hbody : PassagesWithin ids body) :
    passagesOf (names.id branch) (guard.renamed names) (body.map (Piece.renamed names)) =
      (passagesOf branch guard body).map (Passage.renamed names) := by
  have found : (body.map (Piece.renamed names)).any Piece.isPassage = body.any Piece.isPassage := by
    rw [List.any_map]
    exact List.any_congr rfl isPassage_renamed
  unfold passagesOf
  rw [found]
  split
  · exact passagesFrom_renamed apart branch h body 0 [] hbody
  · rw [partsOf_renamed]
    rfl

theorem reportFirst_renamed (owner : Nat) (passages : List Passage) :
    reportFirst (names.id owner) (passages.map (Passage.renamed names)) =
      (reportFirst owner passages).map (Passage.renamed names) := by
  cases passages with
  | nil => rfl
  | cons first rest => simp [reportFirst, Passage.reporting, Passage.renamed]

theorem closeSketch_renamed (depth : Nat) (pieces : List Piece) (env : Env) (faults : List Render.Fault) :
    closeSketch depth (pieces.map (Piece.renamed names)) (env.withFaults faults) =
      ((closeSketch depth pieces env).1.map (Piece.renamed names),
        (closeSketch depth pieces env).2.withFaults faults) := by
  have same : (env.withFaults faults).interrupts = env.interrupts := rfl
  unfold closeSketch
  rw [same]
  split
  · rw [List.map_append]
    rfl
  · rfl

theorem passed_renamed_concat (passed : List BranchCondition) (branch owner : Nat)
    (predicate : Markup.Condition) :
    (passed ++ [(⟨branch, owner, predicate⟩ : BranchCondition)]).map (BranchCondition.renamed names) =
      passed.map (BranchCondition.renamed names) ++ [⟨names.id branch, names.id owner, predicate⟩] :=
  List.map_append

/-- **The passages of a branch with its body closed** have the other numbers. -/
theorem passagesOf_closeSketch_renamed (apart : names.KeepsApart ids) {owner id : Nat}
    {passed : List BranchCondition} (howner : owner ∈ ids) (mem : id ∈ ids)
    (hpassed : ∀ condition ∈ passed, condition.branch ∈ ids ∧ condition.owner ∈ ids)
    (predicate : Option Markup.Condition) {pieces : List Piece} (h : PassagesWithin ids pieces)
    (depth : Nat) (env : Env) (faults : List Render.Fault) :
    passagesOf (names.id id)
        (Guard.ofBranch (predicate.map fun condition => ⟨names.id id, names.id owner, condition⟩)
          (passed.map (BranchCondition.renamed names)))
        (closeSketch depth (pieces.map (Piece.renamed names)) (env.withFaults faults)).1 =
      (passagesOf id (Guard.ofBranch (predicate.map fun condition => ⟨id, owner, condition⟩) passed)
        (closeSketch depth pieces env).1).map (Passage.renamed names) := by
  have own : ∀ found ∈ predicate.map fun condition => (⟨id, owner, condition⟩ : BranchCondition),
      found.branch ∈ ids ∧ found.owner ∈ ids := fun found hfound => by
    obtain ⟨condition, -, rfl⟩ := Option.map_eq_some_iff.1 hfound
    exact ⟨mem, howner⟩
  have guard := Guard.ofBranch_renamed apart hpassed own
  have passages := passagesOf_renamed apart id (Guard.within_ofBranch hpassed own)
    (closeSketch_within h depth env)
  rw [← guard, Option.map_map] at passages
  rw [closeSketch_renamed]
  exact passages

end Guards

/-! ### Sketching -/

/-- **A sketch under other numbers,** after other faults. -/
def Sketched.RenamedTo {α : Type} (rename : α → α) (first second : Sketched α) : Prop :=
  ∃ faults, second = (first.1.map (List.map rename), first.2.withFaults faults)

section Sketching

variable {format : KeyFormat} {names : Renaming} {ids : List Nat}

theorem Sketched.RenamedTo.after {first second : Sketched Piece}
    (h : first.RenamedTo (Piece.renamed names) second) (pieces : List Piece) :
    (first.after pieces).RenamedTo (Piece.renamed names)
      (second.after (pieces.map (Piece.renamed names))) := by
  obtain ⟨faults, rfl⟩ := h
  refine ⟨faults, ?_⟩
  obtain ⟨fault | more, env⟩ := first
  · rfl
  · simp [Sketched.after, Except.map]

theorem passagePieces_renamed {first second : Sketched Passage}
    (h : first.RenamedTo (Passage.renamed names) second) :
    (passagePieces first).RenamedTo (Piece.renamed names) (passagePieces second) := by
  obtain ⟨faults, rfl⟩ := h
  refine ⟨faults, ?_⟩
  obtain ⟨fault | passages, env⟩ := first
  · rfl
  · simp [passagePieces, Except.map, Function.comp_def, Piece.renamed]

theorem renamed_text (text : String) (env : Env) (faults : List Render.Fault) :
    Sketched.RenamedTo (Piece.renamed names) (sketchText format text, env)
      (sketchText format text, env.withFaults faults) := by
  refine ⟨faults, ?_⟩
  unfold sketchText
  split
  · rfl
  · split <;> rfl

theorem renamed_outcome (result : Except Render.Fault String) (env : Env) (faults : List Render.Fault) :
    (sketchOutcome format (result, env)).RenamedTo (Piece.renamed names)
      (sketchOutcome format (result, env.withFaults faults)) := by
  obtain ⟨more, same⟩ := Render.contained_withFaults result env faults
  unfold sketchOutcome
  rw [same]
  generalize Render.Outcome.contained (result, env) = contained
  match contained with
  | (.ok text, after) => exact renamed_text text after more
  | (.error fault, after) => exact ⟨more, rfl⟩

theorem isPersonal_renamed (env : Env) (faults : List Render.Fault) (branches : List (Branch Node)) :
    isPersonal (env.withFaults faults) (renamedBranches names branches) = isPersonal env branches := by
  induction branches with
  | nil => rfl
  | cons branch rest ih => exact congrArg (_ || ·) ih

theorem evalCondition_withFaults (env : Env) (faults : List Render.Fault) (condition : Markup.Condition) :
    Render.evalCondition (env.withFaults faults) condition = Render.evalCondition env condition :=
  Render.evalCondition_agree condition (Render.agreesOn_withFaults env faults _).get

mutual

/-- A node has its sketch under other numbers. -/
theorem renamed_sketchNode (apart : names.KeepsApart ids) (node : Node) (env : Env)
    (faults : List Render.Fault) (sub : idsIn node.items ⊆ ids)
    (blind : ∀ action ∈ actionsIn node.items, Faultblind action) :
    (sketchNode format env node).RenamedTo (Piece.renamed names)
      (sketchNode format (env.withFaults faults) (node.renamed names)) := by
  match node with
  | .text raw => exact renamed_text raw env faults
  | .output source =>
    have value := Render.renderOutput_agree source (Render.agreesOn_withFaults env faults _)
    have same : Render.renderOutput (env.withFaults faults) (source.renamed names) =
        Render.renderOutput env source := value
    have selected : (env.withFaults faults).selects (source.renamed names).names =
        env.selects source.names := rfl
    rw [Node.renamed, sketchNode, sketchNode, selected, same]
    split
    · exact ⟨faults, rfl⟩
    · exact renamed_outcome _ env faults
  | .tag head (.interrupt signal) => exact renamed_outcome (.ok "") (env.interrupt signal) faults
  | .tag head (.leaf action) =>
    obtain ⟨more, same⟩ := blind action List.mem_cons_self head.markup env faults
    have run : Render.runTag (.leaf action) (names.head head).markup (env.withFaults faults) =
      ((action head.markup env).1, (action head.markup env).2.withFaults more) := same
    rw [Node.renamed, sketchNode, sketchNode, run]
    exact renamed_outcome _ _ more
  | .block _ body => exact renamed_sketchAll apart body env faults sub blind
  | .conditional head branches =>
    rw [Node.renamed, sketchNode_conditional, sketchNode_conditional]
    have inside : (sketchInside format env branches).RenamedTo (Piece.renamed names)
        (sketchInside format (env.withFaults faults) (renamedBranches names branches)) := by
      unfold sketchInside
      rw [isPersonal_renamed]
      split
      · cases branches with
        | nil => exact ⟨faults, rfl⟩
        | cons branch rest =>
          obtain ⟨id, predicate, body⟩ := branch
          exact passagePieces_renamed (renamed_sketchBranches apart (⟨id, predicate, body⟩ :: rest) id []
            (env.enter ∅) faults sub blind (sub List.mem_cons_self) fun _ mem =>
              (List.not_mem_nil mem).elim)
      · exact renamed_sketchChosen apart branches (env.enter ∅) faults sub blind
    obtain ⟨more, same⟩ := inside
    refine ⟨more, ?_⟩
    rw [same]
    exact congrArg (Prod.mk _) (Render.leave_withFaults _ more)
termination_by structural node

/-- **Nodes have their sketch under other numbers.** -/
theorem renamed_sketchAll (apart : names.KeepsApart ids) (nodes : List Node) (env : Env)
    (faults : List Render.Fault) (sub : idsIn (itemsOf nodes) ⊆ ids)
    (blind : ∀ action ∈ actionsIn (itemsOf nodes), Faultblind action) :
    (sketchAll format env nodes).RenamedTo (Piece.renamed names)
      (sketchAll format (env.withFaults faults) (renamedAll names nodes)) := by
  match nodes with
  | [] => exact ⟨faults, rfl⟩
  | node :: rest =>
    rw [itemsOf, Tree.idsIn_append] at sub
    rw [itemsOf, Tree.actionsIn_append] at blind
    obtain ⟨own, others⟩ := List.forall_mem_append.1 blind
    have interrupted : (env.withFaults faults).interrupted = env.interrupted := rfl
    have signals := node.signal?_renamed names
    rw [renamedAll]
    cases stop : node.signal? with
    | some signal =>
      rw [sketchAll_signal stop, sketchAll_signal (signals.trans stop), interrupted]
      split
      · exact ⟨faults, rfl⟩
      · exact ⟨faults, rfl⟩
    | none =>
      rw [sketchAll_cons stop, sketchAll_cons (signals.trans stop), interrupted]
      split
      · exact ⟨faults, rfl⟩
      · obtain ⟨more, same⟩ :=
          renamed_sketchNode apart node env faults (List.append_subset.1 sub).1 own
        rw [same]
        generalize sketchNode format env node = sketched
        match sketched with
        | (.error fault, after) => exact ⟨more, rfl⟩
        | (.ok pieces, after) =>
          exact (renamed_sketchAll apart rest after more (List.append_subset.1 sub).2 others).after pieces
termination_by structural nodes

/-- The chosen branch has its sketch under other numbers. -/
theorem renamed_sketchChosen (apart : names.KeepsApart ids) (branches : List (Branch Node)) (env : Env)
    (faults : List Render.Fault) (sub : idsIn (itemsOfBranches branches) ⊆ ids)
    (blind : ∀ action ∈ actionsIn (itemsOfBranches branches), Faultblind action) :
    (sketchChosen format env branches).RenamedTo (Piece.renamed names)
      (sketchChosen format (env.withFaults faults) (renamedBranches names branches)) := by
  match branches with
  | [] => exact ⟨faults, rfl⟩
  | ⟨id, predicate, body⟩ :: rest =>
    rw [itemsOfBranches, Tree.idsIn_branch, Tree.idsIn_append] at sub
    rw [itemsOfBranches, Tree.actionsIn_branch, Tree.actionsIn_append] at blind
    obtain ⟨own, others⟩ := List.forall_mem_append.1 blind
    obtain ⟨subBody, subRest⟩ := List.append_subset.1 (List.cons_subset.1 sub).2
    cases predicate with
    | none => exact renamed_sketchAll apart body env faults subBody own
    | some condition =>
      rw [renamedBranches, sketchChosen, sketchChosen, evalCondition_withFaults]
      cases Render.evalCondition env condition with
      | error fault => exact renamed_outcome (.error fault) env faults
      | ok holds =>
        cases holds with
        | true => exact renamed_sketchAll apart body env faults subBody own
        | false => exact renamed_sketchChosen apart rest env faults subRest others
termination_by structural branches

/-- **The branches of a conditional** have their passages under other numbers. -/
theorem renamed_sketchBranches (apart : names.KeepsApart ids) (branches : List (Branch Node)) (owner : Nat)
    (passed : List BranchCondition) (env : Env) (faults : List Render.Fault)
    (sub : idsIn (itemsOfBranches branches) ⊆ ids)
    (blind : ∀ action ∈ actionsIn (itemsOfBranches branches), Faultblind action)
    (howner : owner ∈ ids)
    (hpassed : ∀ condition ∈ passed, condition.branch ∈ ids ∧ condition.owner ∈ ids) :
    (sketchBranches format owner passed env branches).RenamedTo (Passage.renamed names)
      (sketchBranches format (names.id owner) (passed.map (BranchCondition.renamed names))
        (env.withFaults faults) (renamedBranches names branches)) := by
  match branches with
  | [] => exact ⟨faults, rfl⟩
  | ⟨id, predicate, body⟩ :: rest =>
    rw [itemsOfBranches, Tree.idsIn_branch, Tree.idsIn_append] at sub
    rw [itemsOfBranches, Tree.actionsIn_branch, Tree.actionsIn_append] at blind
    obtain ⟨ownBlind, otherBlind⟩ := List.forall_mem_append.1 blind
    obtain ⟨subOwn, sub⟩ := List.cons_subset.1 sub
    obtain ⟨subBody, subRest⟩ := List.append_subset.1 sub
    obtain ⟨more, same⟩ : (sketchAll format env body).RenamedTo (Piece.renamed names)
        (sketchAll format (env.withFaults faults) (renamedAll names body)) :=
      renamed_sketchAll apart body env faults subBody ownBlind
    rw [renamedBranches, sketchBranches, sketchBranches, same]
    match sketch : sketchAll format env body with
    | (.error fault, after) => exact ⟨more, rfl⟩
    | (.ok pieces, after) =>
      have depth : (env.withFaults faults).interrupts = env.interrupts := rfl
      have passages := passagesOf_closeSketch_renamed apart howner subOwn hpassed predicate
        (passagesWithin_sketchAll subBody sketch) env.interrupts.length after more
      have reporting := (congrArg (reportFirst (names.id owner)) passages).trans
        (reportFirst_renamed owner _)
      dsimp only [Except.map]
      rw [depth]
      rw [closeSketch_renamed] at passages reporting ⊢
      cases predicate with
      | none => exact ⟨more, congrArg₂ Prod.mk (congrArg Except.ok reporting) rfl⟩
      | some condition =>
        have nonempty : (renamedBranches names rest).isEmpty = rest.isEmpty := by
          cases rest <;> rfl
        dsimp only [Option.map] at passages reporting ⊢
        rw [nonempty]
        split
        · exact ⟨more, congrArg₂ Prod.mk (congrArg Except.ok reporting) rfl⟩
        · obtain ⟨final, others⟩ := renamed_sketchBranches apart rest owner _ _ more subRest otherBlind
            howner (passed_within_concat hpassed subOwn howner condition)
          rw [passed_renamed_concat] at others
          refine ⟨final, ?_⟩
          rw [passages, others]
          generalize sketchBranches format owner _ _ rest = remainder
          match remainder with
          | (.error fault, _) => rfl
          | (.ok found, _) => exact congrArg₂ Prod.mk (congrArg Except.ok List.map_append.symm) rfl
termination_by structural branches

end

end Sketching

end Outline
end MailMerge
