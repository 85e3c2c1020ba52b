/-
# Guards under one another

A guard is that of a branch, or a guard under another one. Under another one a guard asks what
that one asks, and then what it asks itself, so that the outer guard decides unless it holds.
A branch that both ask about keeps the predicate and the place it has in the inner guard. So a
guard never asks twice about a branch, and to be under the same guard again adds nothing.
-/

import MailMerge.Proofs.Outline.Guarding
import Mathlib.Data.List.Nodup

namespace MailMerge
namespace Outline
namespace Guard

open Markup (Condition Literal Operator)
open Render (Env)

/-- **Guards that can come about:** those of branches, put under one another any number of
times. -/
inductive Composed : Guard → Prop
  | ofBranch (own : Option BranchCondition) (passed : List BranchCondition) :
      Composed (ofBranch own passed)
  | under {guard outer : Guard} (hguard : Composed guard) (houter : Composed outer) :
      Composed (guard.under outer)

section Under

variable (guard outer : Guard)

/-- Of the outer guard's branches those come first that the inner one does not ask about. -/
theorem branches_under : (guard.under outer).branches =
    (outer.branches.filter fun branch => !guard.mentions branch) ++ guard.branches := by
  rw [branches, under, List.map_append, branches, List.filter_map]
  rfl

theorem mem_branches_under {branch : Nat} :
    branch ∈ (guard.under outer).branches ↔ branch ∈ outer.branches ∨ branch ∈ guard.branches := by
  rw [branches_under, List.mem_append, List.mem_filter, Bool.not_eq_true', ← Bool.not_eq_true,
    mentions_iff]
  by_cases own : branch ∈ guard.branches
  · simp only [own, or_true]
  · simp only [own, not_false_eq_true, and_true, or_false]

end Under

/-- A predicate of a branch that is asked about already is not added. -/
theorem nodup_add {guard : Guard} (h : guard.branches.Nodup) (condition : BranchCondition)
    (expected : Bool) : (guard.add condition expected).branches.Nodup := by
  by_cases known : condition.branch ∈ guard.branches
  · rwa [add, if_pos (mentions_iff.2 known)]
  · rw [branches_add known, ← List.concat_eq_append]
    exact List.Nodup.concat known h

theorem nodup_under {guard outer : Guard} (h : guard.branches.Nodup) (houter : outer.branches.Nodup) :
    (guard.under outer).branches.Nodup := by
  rw [branches_under]
  refine List.nodup_append.2 ⟨houter.filter _, h, ?_⟩
  rintro branch left _ right rfl
  have other := (List.mem_filter.1 left).2
  rw [mentions_iff.2 right] at other
  cases other

/-- **No guard asks twice about a branch.** -/
theorem Composed.nodup {guard : Guard} (h : guard.Composed) : guard.branches.Nodup := by
  induction h with
  | ofBranch own passed =>
    exact ofBranch_induction (motive := fun guard => guard.branches.Nodup) List.nodup_nil
      fun _ distinct condition _ expected => nodup_add distinct condition expected
  | under _ _ hguard houter => exact nodup_under hguard houter

/-- **A guard that asks about all the branches** of another one is the same under it. -/
theorem under_eq_self {guard outer : Guard} (asked : outer.branches ⊆ guard.branches) :
    guard.under outer = guard := by
  have none : outer.terms.filter (fun term => !guard.mentions term.condition.branch) = [] := by
    refine List.filter_eq_nil_iff.2 fun term mem => ?_
    have known := mentions_iff.2 (asked (List.mem_map.2 ⟨term, mem, rfl⟩))
    rw [known]
    exact Bool.false_ne_true
  rw [under, none, List.nil_append]

/-- **Guards under one another are joined in order.** Where they ask about different branches, the
outer one decides if it does not hold, with the fault and the conditional of its first predicate
that fails, and otherwise the inner one does. Whatever they ask about, the branches of both are
asked about once, and to be under the same guard again changes nothing. -/
theorem under_conjoins {inner outer : Guard} (hinner : inner.Composed) (houter : outer.Composed) :
    ((∀ branch ∈ outer.branches, branch ∉ inner.branches) → ∀ env,
        (inner.under outer).check env =
          match outer.check env with
          | .ok true => inner.check env
          | other => other) ∧
      (∀ branch, branch ∈ (inner.under outer).branches ↔
        branch ∈ outer.branches ∨ branch ∈ inner.branches) ∧
      (inner.under outer).branches.Nodup ∧
      (inner.under outer).under outer = inner.under outer := by
  have asked : outer.branches ⊆ (inner.under outer).branches := fun _ mem =>
    (mem_branches_under inner outer).2 (.inl mem)
  exact ⟨check_under, fun _ => mem_branches_under inner outer, (hinner.under houter).nodup,
    under_eq_self asked⟩

/-- The second branch of conditional 5 stands in the first of conditional 2, and that in the last
of conditional 1. For one text the outer guard does not hold and the fault of the inner one is not
met; the other way round it is. For the other text the fault of the inner guard is met. Put around
the outer guard, the joined one adds in front what the inner one asks and nothing more. -/
theorem under_conjoins_text :
    let text (own : String) := (Env.ofFilters Render.standardFilters).set "a" (.text own)
    let asks (operator : Operator) (literal : Literal) : Condition :=
      .last ⟨.lookup "a" [], some (operator, .literal literal)⟩
    let inner := ofBranch (some ⟨6, 5, asks .gt (.int 5)⟩) [⟨5, 5, asks .eq (.text "")⟩]
    let outer := (ofBranch (some ⟨2, 2, asks .ne (.text "no")⟩) []).under
      (ofBranch none [⟨1, 1, asks .eq .nil⟩])
    let both := inner.under outer
    inner.Composed ∧ outer.Composed ∧ (∀ branch ∈ outer.branches, branch ∉ inner.branches) ∧
      both.check (text "no") = .ok false ∧
      (outer.under inner).check (text "no") = .error (5, .comparison "\"no\"" "5") ∧
      both.check (text "yes") = .error (5, .comparison "\"yes\"" "5") ∧
      both.branches = [1, 2, 5, 6] ∧ both.under outer = both ∧
      (outer.under both).branches = [5, 6, 1, 2] ∧ (outer.under both).under both = outer.under both := by
  intro text asks inner outer both
  have hinner : inner.Composed := .ofBranch _ _
  have houter : outer.Composed := .under (.ofBranch _ _) (.ofBranch _ _)
  have apart : ∀ branch ∈ outer.branches, branch ∉ inner.branches := by decide
  obtain ⟨joined, -, -, again⟩ := under_conjoins hinner houter
  obtain ⟨-, -, -, sharing⟩ := under_conjoins houter (hinner.under houter)
  refine ⟨hinner, houter, apart, ?_, rfl, ?_, rfl, again, rfl, sharing⟩
  · rw [joined apart]
    rfl
  · rw [joined apart]
    rfl

end Guard
end Outline
end MailMerge
