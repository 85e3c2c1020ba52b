/-
# The environment of a rendering

Rendering happens in an environment. It holds the scopes in which names are
looked up, innermost first, registers that outlive every scope, the signals to
stop that nobody has taken up yet, and the faults that were contained. Names are
bound in the innermost scope, and the outermost scope is never left.
-/

import MailMerge.Markup.Expr
import MailMerge.Render.Filter
import MailMerge.Render.Selector

namespace MailMerge
namespace Render

/-- Names and their values. -/
abbrev Scope := Dict Value

/-- A signal to stop the rest of the current block. -/
inductive Interrupt where
  | break
  | continue
deriving DecidableEq, Repr

/-- The name of a signal. -/
def Interrupt.name : Interrupt → String
  | .break => "Break"
  | .continue => "Continue"

/-- **The environment of a rendering.** `interrupts` has the newest signal first,
`faults` the oldest fault. -/
structure Env where
  inner : Scope
  outer : List Scope
  registers : Scope
  interrupts : List Interrupt
  faults : List Fault
  strict : Bool
  filters : FilterSet
  selector : Option Selector

namespace Env

/-- The environment with one empty scope and the given filters. -/
def ofFilters (filters : FilterSet) : Env :=
  { inner := ∅, outer := [], registers := ∅, interrupts := [], faults := []
    strict := false, filters := filters, selector := none }

/-- Enters a scope. -/
def enter (env : Env) (scope : Scope) : Env :=
  { env with inner := scope, outer := env.inner :: env.outer }

/-- Leaves the innermost scope, unless it is the only one. -/
def leave (env : Env) : Env :=
  match env.outer with
  | [] => env
  | scope :: outer => { env with inner := scope, outer := outer }

/-- The value of `name` in the first of `scopes` that binds it. -/
def findIn (name : String) : List Scope → Option Value
  | [] => none
  | scope :: scopes =>
    match scope.find? name with
    | some value => some value
    | none => findIn name scopes

/-- **Look-up** of a name from the innermost scope outwards; `nil` if nothing binds it. -/
def get (env : Env) (name : String) : Value := (findIn name (env.inner :: env.outer)).getD .nil

/-- **Binding** a name in the innermost scope. -/
def set (env : Env) (name : String) (value : Value) : Env :=
  { env with inner := env.inner.insert name value }

/-- The value of a register, `nil` if it has none. -/
def register (env : Env) (name : String) : Value := (env.registers.find? name).getD .nil

/-- Sets a register. -/
def setRegister (env : Env) (name : String) (value : Value) : Env :=
  { env with registers := env.registers.insert name value }

/-- A signal to stop is pending. -/
def interrupted (env : Env) : Bool := !env.interrupts.isEmpty

/-- Raises a signal to stop. -/
def interrupt (env : Env) (signal : Interrupt) : Env :=
  { env with interrupts := signal :: env.interrupts }

/-- Takes up the newest signal. -/
def takeInterrupt (env : Env) : Option Interrupt × Env :=
  match env.interrupts with
  | [] => (none, env)
  | signal :: rest => (some signal, { env with interrupts := rest })

/-- Drops the signals raised since `depth` many were pending. -/
def dropInterrupts (env : Env) (depth : Nat) : Env :=
  { env with interrupts := env.interrupts.drop (env.interrupts.length - depth) }

/-- **Containing a fault:** it is recorded and its text goes into the output. A
strict environment hands it back instead. -/
def contain (env : Env) (fault : Fault) : Except Fault String × Env :=
  if env.strict then (.error fault, env)
  else (.ok ("Liquid error: " ++ fault.message), { env with faults := env.faults ++ [fault] })

/-- Some of the names is personal. -/
def selects (env : Env) (names : List String) : Bool :=
  match env.selector with
  | some selector => names.any selector.selects
  | none => false

@[simp] theorem leave_enter (env : Env) (scope : Scope) : (env.enter scope).leave = env := rfl

theorem get_set (env : Env) (name other : String) (value : Value) :
    (env.set name value).get other = if name = other then value else env.get other := by
  by_cases h : name = other <;> simp [get, set, findIn, h]

@[simp] theorem dropInterrupts_self (env : Env) :
    env.dropInterrupts env.interrupts.length = env := by
  simp [dropInterrupts]

end Env
end Render
end MailMerge
