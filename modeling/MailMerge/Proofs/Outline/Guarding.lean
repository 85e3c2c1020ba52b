/-
# What guards ask

Where branches have different numbers, no predicate of a guard is left out. The guard
of a branch asks that the branches passed over do not hold and that its own predicate
does, and a guard under another one asks what that one asks first. The first predicate
that fails decides, with the conditional it belongs to.
-/

import MailMerge.Outline.Guard

namespace MailMerge
namespace Outline

open Render (Env)

/-- The terms that ask branches not to hold. -/
def passedTerms (passed : List BranchCondition) : List Term := passed.map fun condition => ⟨condition, false⟩

/-- **Whether branches are passed over,** or the first of their predicates that fails. -/
def passedOver (env : Env) (passed : List BranchCondition) : Except (Nat × Render.Fault) Bool :=
  Guard.checkTerms env (passedTerms passed)

/-- The numbers of the branches that a guard has predicates of. -/
def Guard.branches (guard : Guard) : List Nat := guard.terms.map fun term => term.condition.branch

namespace Guard

theorem mentions_iff {guard : Guard} {branch : Nat} :
    guard.mentions branch = true ↔ branch ∈ guard.branches := by
  simp [mentions, branches]

/-- A predicate of another branch is added at the end. -/
theorem terms_add {guard : Guard} {condition : BranchCondition} (new : condition.branch ∉ guard.branches)
    (expected : Bool) : (guard.add condition expected).terms = guard.terms ++ [⟨condition, expected⟩] := by
  rw [add, if_neg (mt mentions_iff.1 new)]

theorem branches_add {guard : Guard} {condition : BranchCondition} (new : condition.branch ∉ guard.branches)
    (expected : Bool) : (guard.add condition expected).branches = guard.branches ++ [condition.branch] := by
  rw [branches, terms_add new, List.map_append]
  rfl

/-- **What adding predicates keeps,** the guards of branches have. -/
theorem ofBranch_induction {motive : Guard → Prop} {own : Option BranchCondition}
    {passed : List BranchCondition} (empty : motive always)
    (add : ∀ guard, motive guard → ∀ condition ∈ passed ++ own.toList, ∀ expected,
      motive (guard.add condition expected)) : motive (ofBranch own passed) := by
  have excluded : motive (passed.foldl (fun guard condition => guard.add condition false) always) :=
    List.foldlRecOn passed _ empty fun guard h condition mem =>
      add guard h condition (List.mem_append_left _ mem) false
  cases own with
  | none => exact excluded
  | some condition =>
    exact add _ excluded condition (List.mem_append_right _ List.mem_cons_self) true

/-- **The guard of a branch asks** about the branches passed over and then about its own. -/
theorem terms_ofBranch {own : Option BranchCondition} {passed : List BranchCondition}
    (distinct : ((passed ++ own.toList).map BranchCondition.branch).Nodup) :
    (ofBranch own passed).terms = passedTerms passed ++ own.toList.map fun condition => ⟨condition, true⟩ := by
  have general : ∀ (rest : List BranchCondition) (guard : Guard),
      (guard.branches ++ rest.map BranchCondition.branch).Nodup →
        (rest.foldl (fun guard condition => guard.add condition false) guard).terms =
          guard.terms ++ passedTerms rest := by
    intro rest
    induction rest with
    | nil => exact fun guard _ => (List.append_nil _).symm
    | cons condition rest ih =>
      intro guard distinct
      have new : condition.branch ∉ guard.branches := fun mem =>
        (List.nodup_append.1 distinct).2.2 _ mem _ List.mem_cons_self rfl
      rw [List.foldl_cons, ih _ (by rw [branches_add new, List.append_assoc]; exact distinct),
        terms_add new, List.append_assoc]
      rfl
  have excluded : (passed.foldl (fun guard condition => guard.add condition false) always).terms =
      passedTerms passed := by
    refine general passed always ?_
    rw [List.map_append] at distinct
    exact (List.nodup_append.1 distinct).1
  cases own with
  | none => simpa [ofBranch] using excluded
  | some condition =>
    rw [ofBranch, terms_add, excluded]
    · rfl
    · rw [Guard.branches, excluded, passedTerms, List.map_map]
      intro mem
      rw [List.map_append] at distinct
      exact (List.nodup_append.1 distinct).2.2 _ mem _ List.mem_cons_self rfl

theorem branches_ofBranch {own : Option BranchCondition} {passed : List BranchCondition}
    (distinct : ((passed ++ own.toList).map BranchCondition.branch).Nodup) :
    (ofBranch own passed).branches = (passed ++ own.toList).map BranchCondition.branch := by
  rw [branches, terms_ofBranch distinct, passedTerms, List.map_append, List.map_map, List.map_map,
    List.map_append]
  rfl

/-- **Under an outer guard** nothing of it is left out, if it asks about other branches. -/
theorem terms_under {guard outer : Guard} (apart : ∀ branch ∈ outer.branches, branch ∉ guard.branches) :
    (guard.under outer).terms = outer.terms ++ guard.terms := by
  refine congrArg (· ++ guard.terms) (List.filter_eq_self.2 fun term mem => ?_)
  have none := apart term.condition.branch (List.mem_map.2 ⟨term, mem, rfl⟩)
  simp [Bool.eq_false_iff.2 (mt mentions_iff.1 none)]

/-- **A guard under another one** comes out as that one, and only if it holds as itself. -/
theorem check_under {guard outer : Guard} (apart : ∀ branch ∈ outer.branches, branch ∉ guard.branches)
    (env : Env) :
    (guard.under outer).check env =
      match outer.check env with
      | .ok true => guard.check env
      | other => other := by
  rw [check, terms_under apart, checkTerms_append]
  rfl

/-- **The guard of a branch** comes out as its predicate, if the branches before it are
passed over. -/
theorem check_ofBranch {own : Option BranchCondition} {passed : List BranchCondition}
    (distinct : ((passed ++ own.toList).map BranchCondition.branch).Nodup) (env : Env) :
    (ofBranch own passed).check env =
      match passedOver env passed with
      | .ok true => checkTerms env (own.toList.map fun condition => ⟨condition, true⟩)
      | other => other := by
  rw [check, terms_ofBranch distinct, checkTerms_append]
  rfl

/-- A fault is that of a predicate, and belongs to the predicate's conditional. -/
theorem checkTerms_error {env : Env} {terms : List Term} {owner : Nat} {fault : Render.Fault}
    (h : checkTerms env terms = .error (owner, fault)) :
    ∃ term ∈ terms, term.condition.owner = owner ∧
      Render.evalCondition env term.condition.predicate = .error fault := by
  induction terms with
  | nil => cases h
  | cons term rest ih =>
    rw [checkTerms] at h
    split at h
    · rename_i own
      obtain ⟨rfl, rfl⟩ := Prod.mk.inj (Except.error.inj h)
      exact ⟨term, List.mem_cons_self, rfl, own⟩
    · split at h
      · obtain ⟨found, mem, same⟩ := ih h
        exact ⟨found, List.mem_cons_of_mem _ mem, same⟩
      · cases h

end Guard
end Outline
end MailMerge
