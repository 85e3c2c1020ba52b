/-
# Guards

A section of a conditional is shown when every predicate on the way to it comes
out as it must: those of the branches around it and its own hold, those of the
branches passed over do not. A guard lists these predicates in the order in which
rendering evaluates them, so its first failing predicate is the one that
rendering would meet.
-/

import MailMerge.Render.Evaluate

namespace MailMerge
namespace Outline

open Markup (Condition)
open Render (Env)

/-- **The predicate of a branch,** with the number of the branch and of the
conditional it belongs to. -/
structure BranchCondition where
  branch : Nat
  owner : Nat
  predicate : Condition

/-- A predicate and how it must come out. -/
structure Term where
  condition : BranchCondition
  expected : Bool

/-- **A guard:** predicates in the order of evaluation, at most one per branch. -/
structure Guard where
  terms : List Term

namespace Guard

/-- The guard that always holds. -/
def always : Guard := ⟨[]⟩

/-- The guard has a predicate of a branch. -/
def mentions (guard : Guard) (branch : Nat) : Bool :=
  guard.terms.any fun term => term.condition.branch == branch

/-- Adds a predicate at the end, unless its branch has one already. -/
def add (guard : Guard) (condition : BranchCondition) (expected : Bool) : Guard :=
  if guard.mentions condition.branch then guard else ⟨guard.terms ++ [⟨condition, expected⟩]⟩

/-- **The guard of a branch:** the branches passed over do not hold, and its own
predicate, if it has one, does. -/
def ofBranch (own : Option BranchCondition) (passed : List BranchCondition) : Guard :=
  let excluded := passed.foldl (fun guard condition => guard.add condition false) always
  match own with
  | some condition => excluded.add condition true
  | none => excluded

/-- The predicates that must come out as `expected`, in order. -/
def conditions (guard : Guard) (expected : Bool) : List BranchCondition :=
  (guard.terms.filter fun term => term.expected == expected).map (·.condition)

/-- **Under an outer guard:** what that one asks comes first, apart from branches
that this guard has a predicate of. -/
def under (guard outer : Guard) : Guard :=
  ⟨(outer.terms.filter fun term => !guard.mentions term.condition.branch) ++ guard.terms⟩

/-- The outcome of terms, up to the first that decides. -/
def checkTerms (env : Env) : List Term → Except (Nat × Render.Fault) Bool
  | [] => .ok true
  | term :: rest =>
    match Render.evalCondition env term.condition.predicate with
    | .error fault => .error (term.condition.owner, fault)
    | .ok outcome => if outcome == term.expected then checkTerms env rest else .ok false

/-- **Whether the guard holds,** or its first failing predicate with the number
of the conditional it belongs to. -/
def check (guard : Guard) (env : Env) : Except (Nat × Render.Fault) Bool :=
  checkTerms env guard.terms

/-- Whether the guard holds, or the fault of its first failing predicate. -/
def holds (guard : Guard) (env : Env) : Except Render.Fault Bool :=
  match guard.check env with
  | .ok outcome => .ok outcome
  | .error (_, fault) => .error fault

/-- Terms are checked one after the other. -/
theorem checkTerms_append (env : Env) (first second : List Term) :
    checkTerms env (first ++ second) =
      match checkTerms env first with
      | .ok true => checkTerms env second
      | other => other := by
  induction first with
  | nil => simp [checkTerms]
  | cons term rest ih =>
    simp only [List.cons_append, checkTerms]
    split
    · rfl
    · split
      · exact ih
      · rfl

end Guard
end Outline
end MailMerge
