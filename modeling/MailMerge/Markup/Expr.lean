/-
# Expressions and conditions

An expression is a literal or a look-up: a name followed by members and indices.
An output pipes one expression through filters. A condition is a chain of
comparisons joined by `and` and `or`, where everything after a joint belongs to
its right side.

A chain is also a tree: a joint with what is before it on its left and all that
is after it on its right. `Joined` has every tree of comparisons, whichever way
the joints are grouped, and `Condition` those of which a single comparison stands
to the left of every joint.
-/

namespace MailMerge
namespace Markup

/-- A value written in the markup itself. -/
inductive Literal where
  | nil
  | bool (value : Bool)
  | int (value : Int64)
  | float (value : Float)
  | text (value : String)

mutual

/-- **An expression:** a literal, or a name with the path that leads on from it. -/
inductive Expr where
  | literal (literal : Literal)
  | lookup (root : String) (path : List Step)

/-- A step of a path: to a member, or to what an expression selects. -/
inductive Step where
  | member (name : String)
  | index (key : Expr)

end

instance : Inhabited Expr := ⟨.literal .nil⟩

/-- A filter with its arguments. -/
structure FilterCall where
  name : String
  arguments : List Expr

/-- The operators of a comparison. -/
inductive Operator where
  | eq
  | ne
  | lt
  | gt
  | le
  | ge
  | contains
deriving DecidableEq, Repr

/-- How an operator is written. -/
def Operator.symbol : Operator → String
  | .eq => "=="
  | .ne => "!="
  | .lt => "<"
  | .gt => ">"
  | .le => "<="
  | .ge => ">="
  | .contains => "contains"

/-- **A comparison:** two expressions under an operator, or one whose truth is tested. -/
structure Comparison where
  left : Expr
  right : Option (Operator × Expr)

/-- How a comparison is joined to what follows it. -/
inductive Joint where
  | and
  | or
deriving DecidableEq, Repr

/-- **A condition:** a comparison, alone or joined to the condition that follows. -/
inductive Condition where
  | last (comparison : Comparison)
  | join (comparison : Comparison) (joint : Joint) (rest : Condition)

/-- **A condition as a tree:** a comparison, or a joint with a condition on either side. -/
inductive Joined where
  | compare (comparison : Comparison)
  | join (left : Joined) (joint : Joint) (right : Joined)

/-- The tree of a condition. -/
def Condition.joined : Condition → Joined
  | .last comparison => .compare comparison
  | .join comparison joint rest => .join (.compare comparison) joint rest.joined

mutual

/-- **The names an expression reads,** in the order they are written. -/
def Expr.names : Expr → List String
  | .literal _ => []
  | .lookup root path => root :: Step.namesOf path
termination_by structural expr => expr

/-- The names the indices of a path read. -/
def Step.namesOf : List Step → List String
  | [] => []
  | .member _ :: path => Step.namesOf path
  | .index key :: path => key.names ++ Step.namesOf path
termination_by structural path => path

end

/-- The names an expression and its filters read. -/
def namesOfPipeline (expr : Expr) (filters : List FilterCall) : List String :=
  expr.names ++ filters.flatMap fun filter => filter.arguments.flatMap Expr.names

/-- The names a comparison reads. -/
def Comparison.names (comparison : Comparison) : List String :=
  comparison.left.names ++ match comparison.right with
    | some (_, right) => right.names
    | none => []

/-- The names a condition reads. -/
def Condition.names : Condition → List String
  | .last comparison => comparison.names
  | .join comparison _ rest => comparison.names ++ rest.names

/-- The names a tree reads, from left to right. -/
def Joined.names : Joined → List String
  | .compare comparison => comparison.names
  | .join left _ right => left.names ++ right.names

/-- A condition reads what its tree reads. -/
theorem Condition.names_joined (condition : Condition) : condition.joined.names = condition.names := by
  induction condition with
  | last comparison => rfl
  | join comparison joint rest ih => rw [joined, Joined.names, ih, Joined.names, names]

end Markup
end MailMerge
