/-
# The branches of a conditional that reads a personal name

Of a conditional that reads a personal name every branch is sketched. As long as all
branches before are passed over, a branch whose predicate holds is read, and the guards of
the later ones fail with it. If a predicate fails with a fault, the guards of all later
branches fail with that fault, and the last one reports it.
-/

import MailMerge.Proofs.Outline.Answers
import MailMerge.Proofs.Outline.Undeferred

namespace MailMerge
namespace Outline

open MailMerge.Tree (Node Branch itemsOf itemsOfBranches idsIn actionsIn)
open Render (Env)

section Closing

variable {own : Env} {entry : Slot → String}

/-- A closed body reads as the body, and output ends in it if a signal was raised. -/
theorem readPieces_closeSketch (pieces : List Piece) (middle : Env) :
    readPieces own entry (closeSketch 0 pieces middle).1 =
      ((readPieces own entry pieces).1, (readPieces own entry pieces).2 || middle.interrupted) := by
  unfold closeSketch Env.interrupted
  split
  · rename_i raised
    rw [readPieces_append]
    have signals : middle.interrupts.isEmpty = false := by
      rw [List.isEmpty_eq_false_iff]
      exact List.ne_nil_of_length_pos raised
    generalize readPieces own entry pieces = filled
    obtain ⟨text, ends⟩ := filled
    cases ends <;> simp [signals, Filled.andThen, readPieces, readPiece, fillPart]
  · rename_i none
    have signals : middle.interrupts = [] := List.eq_nil_of_length_eq_zero (by omega)
    simp [signals]

theorem subset_closeSketch (depth : Nat) (pieces : List Piece) (middle : Env) :
    pieces ⊆ (closeSketch depth pieces middle).1 := by
  unfold closeSketch
  split
  · exact List.subset_append_left ..
  · exact List.Subset.refl _

theorem interrupts_closeSketch (pieces : List Piece) (middle : Env) :
    (closeSketch 0 pieces middle).2.interrupts = [] := by
  unfold closeSketch Env.dropInterrupts
  split <;> simp

end Closing

/-- **What is sketched of a conditional** with a branch in front: the passages of the branch,
and, unless it is the last that can be reached, those of the others. -/
theorem sketchBranches_ok {format : KeyFormat} {owner id : Nat} {passed : List BranchCondition}
    {shared after : Env} {predicate : Option Markup.Condition} {body : List Node}
    {rest : List (Branch Node)} {passages : List Passage}
    (h : sketchBranches format owner passed shared (⟨id, predicate, body⟩ :: rest) =
      (.ok passages, after)) :
    ∃ pieces middle, sketchAll format shared body = (.ok pieces, middle) ∧
      ((predicate = none ∨ rest = []) ∧
          passages = reportFirst owner (passagesOf id
            (Guard.ofBranch (predicate.map fun condition => ⟨id, owner, condition⟩) passed)
            (closeSketch shared.interrupts.length pieces middle).1) ∧
          after = (closeSketch shared.interrupts.length pieces middle).2 ∨
        ∃ condition more, predicate = some condition ∧ rest ≠ [] ∧
          sketchBranches format owner (passed ++ [⟨id, owner, condition⟩])
            (closeSketch shared.interrupts.length pieces middle).2 rest = (.ok more, after) ∧
          passages = passagesOf id (Guard.ofBranch (some ⟨id, owner, condition⟩) passed)
            (closeSketch shared.interrupts.length pieces middle).1 ++ more) := by
  rw [sketchBranches] at h
  generalize sketchAll format shared body = sketched at h ⊢
  match sketched with
  | (.error fault, _) => cases h
  | (.ok pieces, middle) =>
    refine ⟨pieces, middle, rfl, ?_⟩
    dsimp only at h ⊢
    generalize closeSketch shared.interrupts.length pieces middle = closing at h ⊢
    obtain ⟨closed, last⟩ := closing
    cases predicate with
    | none =>
      obtain ⟨same, rfl⟩ := Prod.mk.inj h
      exact .inl ⟨.inl rfl, (Except.ok.inj same).symm, rfl⟩
    | some condition =>
      dsimp only [Option.map] at h ⊢
      split at h
      · rename_i empty
        obtain ⟨same, rfl⟩ := Prod.mk.inj h
        exact .inl ⟨.inr (List.isEmpty_iff.1 empty), (Except.ok.inj same).symm, rfl⟩
      · rename_i nonempty
        generalize hothers : sketchBranches format owner (passed ++ [⟨id, owner, condition⟩]) last
          rest = others at h
        match others with
        | (.error fault, _) => cases h
        | (.ok more, final) =>
          obtain ⟨same, rfl⟩ := Prod.mk.inj h
          exact .inr ⟨condition, more, rfl, fun none => nonempty (List.isEmpty_iff.2 none), hothers,
            (Except.ok.inj same).symm⟩

/-! ### Numbers that are used once -/

section Branches

variable {own : Env} {entry : Slot → String} {format : KeyFormat}

/-- **What holds of a branch of a conditional:** no number is used twice in it and before it,
and the conditional's is none of its body's. -/
structure BranchApart (owner : Nat) (passed : List BranchCondition) (ids : List Nat) (body : List Piece)
    (own : Option BranchCondition) : Prop where
  distinct : ((passed ++ own.toList).map BranchCondition.branch ++ ids).Nodup
  within : PassagesWithin ids body
  foreign : owner ∉ ids
  owned : ∀ condition ∈ passed ++ own.toList, condition.owner = owner

namespace BranchApart

variable {owner : Nat} {passed : List BranchCondition} {ids : List Nat} {body : List Piece}
  {condition : Option BranchCondition} (h : BranchApart owner passed ids body condition)

include h

theorem conditions_distinct : ((passed ++ condition.toList).map BranchCondition.branch).Nodup :=
  (List.nodup_append.1 h.distinct).1

/-- The branch's guard and the guards in its body ask about different branches. -/
theorem apart {inner : Passage} (mem : .passage inner ∈ body) :
    ∀ id ∈ (Guard.ofBranch condition passed).branches, id ∉ inner.guard.branches := by
  intro id hid found
  obtain ⟨term, hterm, rfl⟩ := List.mem_map.1 found
  refine (List.nodup_append.1 h.distinct).2.2 _ ?_ _ ((h.within inner mem).guard term hterm).1 rfl
  rwa [← Guard.branches_ofBranch h.conditions_distinct]

/-- A passage of the branch reports nothing that the conditional does. -/
theorem unreported {branch : Nat} {passage : Passage}
    (mem : passage ∈ passagesOf branch (Guard.ofBranch condition passed) body) :
    passage.reports.contains owner = false := by
  refine Bool.eq_false_iff.2 fun reports => ?_
  have reports := List.contains_iff_mem.1 reports
  rcases mem_passagesOf mem with ⟨-, -, none⟩ | ⟨inner, hinner, rfl⟩
  · rw [none] at reports
    exact List.not_mem_nil reports
  · exact h.foreign ((h.within inner hinner).reports owner reports)

/-- The fault of a branch's guard belongs to the conditional. -/
theorem owner_of_error {other : Nat} {fault : Render.Fault}
    (failed : (Guard.ofBranch condition passed).check own = .error (other, fault)) : other = owner := by
  obtain ⟨term, hterm, rfl, -⟩ := Guard.checkTerms_error failed
  rw [Guard.terms_ofBranch h.conditions_distinct] at hterm
  refine h.owned _ ?_
  rcases List.mem_append.1 hterm with mem | mem
  · obtain ⟨found, hfound, rfl⟩ := List.mem_map.1 mem
    exact List.mem_append_left _ hfound
  · obtain ⟨found, hfound, rfl⟩ := List.mem_map.1 mem
    exact List.mem_append_right _ hfound

/-- **A branch that is shown** reads as its body, also if it reports the conditional. -/
theorem readPassages_shown (entry : Slot → String) (branch : Nat) (holds : (Guard.ofBranch condition passed).check own = .ok true) :
    readPassages own entry (passagesOf branch (Guard.ofBranch condition passed) body) =
        readPieces own entry body ∧
      readPassages own entry (reportFirst owner
          (passagesOf branch (Guard.ofBranch condition passed) body)) = readPieces own entry body := by
  have read : readPassages own entry (passagesOf branch (Guard.ofBranch condition passed) body) =
      readPieces own entry body := readPassages_passagesOf holds fun inner mem => h.apart mem
  refine ⟨read, (readPassages_reportFirst fun passage mem fault failed => ?_).trans read⟩
  rcases mem_passagesOf mem with ⟨-, same, -⟩ | ⟨inner, hinner, rfl⟩
  · rw [same, holds] at failed
    cases failed
  · rw [Passage.under, Guard.check_under (h.apart hinner), holds] at failed
    obtain ⟨term, hterm, same, -⟩ := Guard.checkTerms_error failed
    exact h.foreign (same ▸ ((h.within inner hinner).guard term hterm).2)

/-- **A branch that is not shown** reads as nothing, or as what it reports. -/
theorem readPassages_hidden (entry : Slot → String) (branch : Nat)
    (hidden : (Guard.ofBranch condition passed).check own ≠ .ok true) :
    readPassages own entry (passagesOf branch (Guard.ofBranch condition passed) body) = ("", false) ∧
      readPassages own entry (reportFirst owner
          (passagesOf branch (Guard.ofBranch condition passed) body)) =
        reported ((Guard.ofBranch condition passed).check own) := by
  have check : ∀ passage ∈ passagesOf branch (Guard.ofBranch condition passed) body,
      passage.guard.check own = (Guard.ofBranch condition passed).check own :=
    check_passagesOf (fun inner mem => h.apart mem) hidden
  constructor
  · refine readPassages_nothing fun passage mem => ?_
    refine readPassage_nothing (check passage mem ▸ hidden) (h.unreported mem) fun other fault failed => ?_
    exact h.owner_of_error (check passage mem ▸ failed)
  · exact readPassages_reported (passagesOf_ne_nil branch _ body)
      (fun passage mem => ⟨check passage mem, h.unreported mem⟩) hidden fun other fault failed =>
        h.owner_of_error failed

/-- A branch that reports a fault has it contained. -/
theorem contained_of_error (branch : Nat)
    (answers : Answers own entry ((reportFirst owner
      (passagesOf branch (Guard.ofBranch condition passed) body)).map .passage))
    {other : Nat} {fault : Render.Fault}
    (failed : (Guard.ofBranch condition passed).check own = .error (other, fault)) :
    own.strict = false := by
  have hidden : (Guard.ofBranch condition passed).check own ≠ .ok true := fun holds => by
    rw [holds] at failed
    cases failed
  have check : ∀ passage ∈ passagesOf branch (Guard.ofBranch condition passed) body,
      passage.guard.check own = (Guard.ofBranch condition passed).check own :=
    check_passagesOf (fun inner mem => h.apart mem) hidden
  obtain ⟨first, rest, same⟩ :=
    List.exists_cons_of_ne_nil (passagesOf_ne_nil branch (Guard.ofBranch condition passed) body)
  rw [same] at answers check
  obtain rfl := h.owner_of_error failed
  refine answers.choice (first.reporting other) List.mem_cons_self other fault ?_ ?_
  · exact (check first List.mem_cons_self).trans failed
  · exact List.contains_iff_mem.2 (List.mem_append_right _ (List.mem_singleton_self _))

end BranchApart

/-- **What holds of the branches that are left** of a conditional: no number is used twice
in them and before them, and the conditional's is that of no output or branch inside. -/
structure BranchesApart (owner : Nat) (passed : List BranchCondition) (branches : List (Branch Node)) :
    Prop where
  distinct : (passed.map BranchCondition.branch ++ idsIn (itemsOfBranches branches)).Nodup
  foreign : ∀ branch ∈ branches, owner ∉ idsIn (itemsOf branch.body)
  owned : ∀ condition ∈ passed, condition.owner = owner
  plain : actionsIn (itemsOfBranches branches) = []

namespace BranchesApart

variable {owner id : Nat} {passed : List BranchCondition} {predicate : Option Markup.Condition}
  {body : List Node} {rest : List (Branch Node)}
  (h : BranchesApart owner passed (⟨id, predicate, body⟩ :: rest))

include h

theorem plain_body : actionsIn (itemsOf body) = [] := by
  have plain := h.plain
  rw [itemsOfBranches, Tree.actionsIn_branch, Tree.actionsIn_append, List.append_eq_nil_iff] at plain
  exact plain.1

theorem distinct_body : (idsIn (itemsOf body)).Nodup := by
  have distinct := h.distinct
  rw [itemsOfBranches, Tree.idsIn_branch, Tree.idsIn_append] at distinct
  exact distinct.sublist (((List.sublist_append_left ..).cons _).trans (List.sublist_append_right ..))

theorem head {pieces : List Piece} (within : PassagesWithin (idsIn (itemsOf body)) pieces) :
    BranchApart owner passed (idsIn (itemsOf body)) pieces
      (predicate.map fun condition => ⟨id, owner, condition⟩) where
  distinct := by
    have distinct := h.distinct
    rw [itemsOfBranches, Tree.idsIn_branch, Tree.idsIn_append] at distinct
    refine distinct.sublist ?_
    cases predicate with
    | none =>
      rw [Option.map_none, Option.toList_none, List.append_nil]
      exact List.Sublist.append_left ((List.sublist_append_left ..).cons id) _
    | some condition =>
      rw [Option.map_some, Option.toList_some, List.map_append, List.append_assoc]
      exact List.Sublist.append_left ((List.sublist_append_left ..).cons_cons id) _
  within := within
  foreign := h.foreign _ List.mem_cons_self
  owned condition mem := by
    rcases List.mem_append.1 mem with mem | mem
    · exact h.owned condition mem
    · cases predicate with
      | none => exact (List.not_mem_nil mem).elim
      | some own =>
        obtain rfl := List.mem_singleton.1 mem
        rfl

theorem tail (condition : Markup.Condition) :
    BranchesApart owner (passed ++ [⟨id, owner, condition⟩]) rest where
  distinct := by
    have distinct := h.distinct
    rw [itemsOfBranches, Tree.idsIn_branch, Tree.idsIn_append] at distinct
    refine distinct.sublist ?_
    rw [List.map_append, List.append_assoc]
    exact List.Sublist.append_left ((List.sublist_append_right ..).cons_cons id) _
  foreign branch mem := h.foreign branch (List.mem_cons_of_mem _ mem)
  owned found mem := by
    rcases List.mem_append.1 mem with mem | mem
    · exact h.owned found mem
    · obtain rfl := List.mem_singleton.1 mem
      rfl
  plain := by
    have plain := h.plain
    rw [itemsOfBranches, Tree.actionsIn_branch, Tree.actionsIn_append, List.append_eq_nil_iff] at plain
    exact plain.2

end BranchesApart

/-- One more branch that is passed over. -/
theorem passedOver_concat (own : Env) (passed : List BranchCondition) (condition : BranchCondition) :
    passedOver own (passed ++ [condition]) =
      match passedOver own passed with
      | .ok true => Guard.checkTerms own [⟨condition, false⟩]
      | other => other := by
  rw [passedOver, passedTerms, List.map_append, Guard.checkTerms_append]
  rfl

/-- After the branches of a conditional no signal is pending that was not before. -/
theorem interrupts_sketchBranches {branches : List (Branch Node)} {owner : Nat}
    {passed : List BranchCondition} {shared after : Env} {passages : List Passage}
    (fresh : shared.interrupts = [])
    (sketch : sketchBranches format owner passed shared branches = (.ok passages, after)) :
    after.interrupts = [] := by
  induction branches generalizing passed shared passages with
  | nil =>
    obtain ⟨-, rfl⟩ := Prod.mk.inj sketch
    exact fresh
  | cons branch rest ih =>
    obtain ⟨id, predicate, body⟩ := branch
    have closed : ∀ pieces middle,
        (closeSketch shared.interrupts.length pieces middle).2.interrupts = [] := fun pieces middle => by
      rw [fresh]
      exact interrupts_closeSketch pieces middle
    obtain ⟨pieces, middle, -, ⟨-, -, rfl⟩ | ⟨condition, more, -, -, others, -⟩⟩ := sketchBranches_ok sketch
    · exact closed pieces middle
    · exact ih (closed pieces middle) others

/-- **Branches of which none can be shown** come to what the last of them reports. -/
theorem readPassages_unreached {branches : List (Branch Node)} (nonempty : branches ≠ []) {owner : Nat}
    {passed : List BranchCondition} {shared after : Env} {passages : List Passage}
    (apart : BranchesApart owner passed branches) (hidden : passedOver own passed ≠ .ok true)
    (sketch : sketchBranches format owner passed shared branches = (.ok passages, after))
    (answers : Answers own entry (passages.map .passage)) :
    readPassages own entry passages = reported (passedOver own passed) ∧
      ∀ other fault, passedOver own passed = .error (other, fault) → own.strict = false := by
  induction branches generalizing passed shared passages with
  | nil => exact absurd rfl nonempty
  | cons branch rest ih =>
    obtain ⟨id, predicate, body⟩ := branch
    obtain ⟨pieces, middle, hbody, outcome⟩ := sketchBranches_ok sketch
    have within := passagesWithin_sketchAll (List.Subset.refl _) hbody
    have head := apart.head (closeSketch_within within shared.interrupts.length middle)
    have check : (Guard.ofBranch (predicate.map fun condition => ⟨id, owner, condition⟩) passed).check
        own = passedOver own passed := by
      rw [Guard.check_ofBranch head.conditions_distinct]
      split
      · rename_i holds
        exact absurd holds hidden
      · rfl
    rcases outcome with ⟨-, rfl, -⟩ | ⟨condition, more, rfl, left, others, rfl⟩
    · have read := (head.readPassages_hidden entry id (check ▸ hidden)).2
      refine ⟨check ▸ read, fun other fault failed => ?_⟩
      exact head.contained_of_error id answers (check.trans failed)
    · have nothing := (head.readPassages_hidden entry id (check ▸ hidden)).1
      have unchanged : passedOver own (passed ++ [⟨id, owner, condition⟩]) = passedOver own passed := by
        rw [passedOver_concat]
        split
        · rename_i holds
          exact absurd holds hidden
        · rfl
      have rest_read := ih left (apart.tail condition) (unchanged ▸ hidden) others
        (answers.subset (by rw [List.map_append]; exact List.subset_append_right ..))
      rw [unchanged] at rest_read
      dsimp only [Option.map] at nothing
      rw [readPassages_append, nothing, Filled.nil_andThen]
      exact rest_read

end Branches

end Outline
end MailMerge
