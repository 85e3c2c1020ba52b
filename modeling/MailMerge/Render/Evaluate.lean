/-
# Evaluating expressions and conditions

An expression always has a value, since what is not there is `nil`. Filters and
comparisons can fail. A condition is gone through from left to right, and what
cannot change the result any more is not looked at. That is the recursion over its
tree, in which a joint leaves its right side alone if its left side decides it.
-/

import MailMerge.Render.Comparison
import MailMerge.Render.Env

namespace MailMerge
namespace Render

open Markup (Expr Step FilterCall Literal Comparison Condition Joined)

/-- The value of a literal. -/
def ofLiteral : Literal → Value
  | .nil => .nil
  | .bool value => .bool value
  | .int value => .int value
  | .float value => .float value
  | .text value => .text value

mutual

/-- **The value of an expression.** -/
def evalExpr (env : Env) : Expr → Value
  | .literal literal => ofLiteral literal
  | .lookup root path => followPath env (env.get root) path
termination_by structural expr => expr

/-- The value that a path leads to. -/
def followPath (env : Env) (value : Value) : List Step → Value
  | [] => value
  | .member name :: path => followPath env (value.member name) path
  | .index key :: path => followPath env (value.index (evalExpr env key)) path
termination_by structural path => path

end

/-- The value after a pipeline of filters. -/
def applyFilters (env : Env) : Value → List FilterCall → Except Fault Value
  | value, [] => .ok value
  | value, filter :: filters =>
    match env.filters.apply filter.name value (filter.arguments.map (evalExpr env)) with
    | .ok next => applyFilters env next filters
    | .error fault => .error fault

/-- **The value of an output:** its expression after all its filters. -/
def evalPipeline (env : Env) (expr : Expr) (filters : List FilterCall) : Except Fault Value :=
  applyFilters env (evalExpr env expr) filters

/-- The truth of a comparison. -/
def evalComparison (env : Env) (comparison : Comparison) : Except Fault Bool :=
  let left := evalExpr env comparison.left
  match comparison.right with
  | none => .ok left.truthy
  | some (operator, right) => compareValues left operator (evalExpr env right)

/-- **The truth of a condition.** After a false comparison nothing joined to it
by `and` is looked at, after a true one nothing joined to it by `or`. -/
def evalCondition (env : Env) : Condition → Except Fault Bool
  | .last comparison => evalComparison env comparison
  | .join comparison joint rest =>
    match evalComparison env comparison, joint with
    | .error fault, _ => .error fault
    | .ok true, .or => .ok true
    | .ok false, .and => .ok false
    | .ok _, _ => evalCondition env rest

/-- **The truth of a tree.** Where the left side of a joint decides, the right side is not looked at. -/
def evalJoined (env : Env) : Joined → Except Fault Bool
  | .compare comparison => evalComparison env comparison
  | .join left .and right => do
    if ← evalJoined env left then evalJoined env right else return false
  | .join left .or right => do
    if ← evalJoined env left then return true else evalJoined env right

/-- **A condition is as true as its tree.** -/
theorem evalJoined_joined (env : Env) (condition : Condition) :
    evalJoined env condition.joined = evalCondition env condition := by
  induction condition with
  | last comparison => rfl
  | join comparison joint rest ih =>
    have first : evalJoined env (.compare comparison) = evalComparison env comparison := rfl
    unfold evalCondition
    cases joint <;> rw [Condition.joined, evalJoined, first, ih] <;>
      rcases evalComparison env comparison with fault | _ | _ <;> rfl

end Render
end MailMerge
