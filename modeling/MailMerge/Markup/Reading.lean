/-
# Reading markup

Markup is read by machines that take one step per lexeme. A machine's state says
what has been read and what may come next, so the first lexeme that cannot
continue the markup is the first one for which there is no step.

| grammar | rule |
| --- | --- |
| expression | literal, or name followed by `. name` and `[ expression ]` |
| output | expression followed by filters: a bar, a name, and after a colon arguments with commas between |
| condition | comparisons joined by `and` and `or`: expression, or expression operator expression |

A fault lists what could have stood instead. Where an expression or a name must
stand nothing is listed.
-/

import MailMerge.Markup.Lexeme
import MailMerge.Markup.Expr
import MailMerge.Source.Fault
import MailMerge.Text.Blank

namespace MailMerge
namespace Markup

open Text (Span)

/-- Something that could stand next. -/
inductive Expected where
  | lexeme (lexeme : Lexeme)
  | endOfMarkup

/-- How a fault names what could stand next. -/
def Expected.describe : Expected → String
  | .lexeme l => l.describe
  | .endOfMarkup => "end of markup"

/-- **A machine that reads lexemes:** where it starts, the step a lexeme allows,
the result if the markup may end here, and what could come next. -/
structure Machine (σ α : Type) where
  start : σ
  step : σ → Lexeme → Option σ
  result? : σ → Option α
  expected : σ → List Expected

/-- Where a machine cannot go on: at a lexeme, or at the end of the markup. -/
structure Stuck where
  found : Option Placed
  expected : List Expected

/-- **Running a machine** from a state to the end of the lexemes. -/
def Machine.run {σ α : Type} (machine : Machine σ α) : σ → List Placed → Except Stuck α
  | state, [] =>
    match machine.result? state with
    | some result => .ok result
    | none => .error ⟨none, machine.expected state⟩
  | state, placed :: rest =>
    match machine.step state placed.lexeme with
    | some next => machine.run next rest
    | none => .error ⟨some placed, machine.expected state⟩

/-- Where the reading of an expression stands: before it, after a point, or
after a complete expression. -/
inductive Point where
  | operand
  | afterDot (root : String) (path : List Step)
  | whole (expr : Expr)

/-- **An expression being read.** `enclosing` are the look-ups whose index is
being read, innermost first. -/
structure Progress where
  enclosing : List (String × List Step)
  point : Point

/-- Nothing of the expression has been read. -/
def Progress.start : Progress := ⟨[], .operand⟩

/-- The literal a lexeme stands for. -/
def Lexeme.literal? : Lexeme → Option Literal
  | .nilWord => some .nil
  | .trueWord => some (.bool true)
  | .falseWord => some (.bool false)
  | .int value => some (.int value)
  | .float value => some (.float value)
  | .text value => some (.text value)
  | _ => none

/-- **A step within an expression.** -/
def Progress.step (reading : Progress) (lexeme : Lexeme) : Option Progress :=
  match reading.point, lexeme with
  | .operand, .name word => some ⟨reading.enclosing, .whole (.lookup word [])⟩
  | .operand, lexeme =>
    lexeme.literal?.map fun literal => ⟨reading.enclosing, .whole (.literal literal)⟩
  | .afterDot root path, .name word =>
    some ⟨reading.enclosing, .whole (.lookup root (path ++ [.member word]))⟩
  | .whole (.lookup root path), .dot => some ⟨reading.enclosing, .afterDot root path⟩
  | .whole (.lookup root path), .openBracket => some ⟨(root, path) :: reading.enclosing, .operand⟩
  | .whole expr, .closeBracket =>
    match reading.enclosing with
    | (root, path) :: outer => some ⟨outer, .whole (.lookup root (path ++ [.index expr]))⟩
    | [] => none
  | _, _ => none

/-- The expression, if it may end here. -/
def Progress.whole? (reading : Progress) : Option Expr :=
  match reading.enclosing, reading.point with
  | [], .whole expr => some expr
  | _, _ => none

/-- What could come next in an expression that `follow` may follow. -/
def Progress.expected (reading : Progress) (follow : List Expected) : List Expected :=
  let closing := if reading.enclosing.isEmpty then follow else [.lexeme .closeBracket]
  match reading.point with
  | .whole (.lookup _ _) => [.lexeme .dot, .lexeme .openBracket] ++ closing
  | .whole (.literal _) => closing
  | _ => []

/-- **An output being read:** its expression, a filter's name, what follows the
name, or one of its arguments. -/
inductive OutputState where
  | subject (reading : Progress)
  | filterName (expr : Expr) (filters : List FilterCall)
  | afterName (expr : Expr) (filters : List FilterCall) (name : String)
  | argument (expr : Expr) (filters : List FilterCall) (name : String) (arguments : List Expr)
      (reading : Progress)

/-- A step within an output. -/
def OutputState.step (state : OutputState) (lexeme : Lexeme) : Option OutputState :=
  match state with
  | .subject reading =>
    match reading.step lexeme, reading.whole?, lexeme with
    | some next, _, _ => some (.subject next)
    | none, some expr, .pipe => some (.filterName expr [])
    | none, _, _ => none
  | .filterName expr filters =>
    match lexeme with
    | .name word => some (.afterName expr filters word)
    | _ => none
  | .afterName expr filters name =>
    match lexeme with
    | .colon => some (.argument expr filters name [] .start)
    | .pipe => some (.filterName expr (filters ++ [⟨name, []⟩]))
    | _ => none
  | .argument expr filters name arguments reading =>
    match reading.step lexeme, reading.whole?, lexeme with
    | some next, _, _ => some (.argument expr filters name arguments next)
    | none, some last, .comma => some (.argument expr filters name (arguments ++ [last]) .start)
    | none, some last, .pipe =>
      some (.filterName expr (filters ++ [⟨name, arguments ++ [last]⟩]))
    | none, _, _ => none

/-- The output, if it may end here. -/
def OutputState.result? : OutputState → Option (Expr × List FilterCall)
  | .subject reading => reading.whole?.map fun expr => (expr, [])
  | .filterName _ _ => none
  | .afterName expr filters name => some (expr, filters ++ [⟨name, []⟩])
  | .argument expr filters name arguments reading =>
    reading.whole?.map fun last => (expr, filters ++ [⟨name, arguments ++ [last]⟩])

/-- What could come next in an output. -/
def OutputState.expected : OutputState → List Expected
  | .subject reading => reading.expected [.lexeme .pipe, .endOfMarkup]
  | .filterName _ _ => []
  | .afterName _ _ _ => [.lexeme .colon, .lexeme .pipe, .endOfMarkup]
  | .argument _ _ _ _ reading =>
    reading.expected [.lexeme .comma, .lexeme .pipe, .endOfMarkup]

/-- **The machine that reads an output.** -/
def outputMachine : Machine OutputState (Expr × List FilterCall) where
  start := .subject .start
  step := OutputState.step
  result? := OutputState.result?
  expected := OutputState.expected

/-- The operator a lexeme stands for. -/
def Lexeme.operator? : Lexeme → Option Operator
  | .eq => some .eq
  | .ne => some .ne
  | .le => some .le
  | .ge => some .ge
  | .lt => some .lt
  | .gt => some .gt
  | .contains => some .contains
  | _ => none

/-- The joint a lexeme stands for. -/
def Lexeme.joint? : Lexeme → Option Joint
  | .and => some .and
  | .or => some .or
  | _ => none

/-- **A condition being read:** the left or the right side of a comparison,
after the comparisons that are complete. -/
inductive ConditionState where
  | left (done : List (Comparison × Joint)) (reading : Progress)
  | right (done : List (Comparison × Joint)) (first : Expr) (operator : Operator)
      (reading : Progress)

/-- A step within a condition. -/
def ConditionState.step (state : ConditionState) (lexeme : Lexeme) : Option ConditionState :=
  match state with
  | .left done reading =>
    match reading.step lexeme, reading.whole?, lexeme.operator?, lexeme.joint? with
    | some next, _, _, _ => some (.left done next)
    | none, some expr, some operator, _ => some (.right done expr operator .start)
    | none, some expr, none, some joint => some (.left (done ++ [(⟨expr, none⟩, joint)]) .start)
    | none, _, _, _ => none
  | .right done first operator reading =>
    match reading.step lexeme, reading.whole?, lexeme.joint? with
    | some next, _, _ => some (.right done first operator next)
    | none, some second, some joint =>
      some (.left (done ++ [(⟨first, some (operator, second)⟩, joint)]) .start)
    | none, _, _ => none

/-- The comparisons in `done` joined to a last one. -/
def Condition.ofChain (done : List (Comparison × Joint)) (last : Comparison) : Condition :=
  done.foldr (fun entry rest => .join entry.1 entry.2 rest) (.last last)

/-- The tree that joins the comparisons in `done` to a last one, begun at its right end. -/
def Joined.ofChain (done : List (Comparison × Joint)) (last : Comparison) : Joined :=
  done.reverse.foldl (fun right entry => .join (.compare entry.1) entry.2 right) (.compare last)

/-- **Joining to the right:** `c₀ j₁ c₁ j₂ c₂ …` as `c₀ j₁ (c₁ j₂ (c₂ …))`. Each comparison is
paired with the joint behind it until only the last one is left. -/
def Joined.foldRight (first : Comparison) (rest : List (Joint × Comparison)) : Joined :=
  let paired := rest.foldl (fun paired entry => (paired.1 ++ [(paired.2, entry.1)], entry.2)) ([], first)
  ofChain paired.1 paired.2

/-- The machine's condition has the tree that joins its comparisons to the right. -/
theorem Condition.joined_ofChain (done : List (Comparison × Joint)) (last : Comparison) :
    (ofChain done last).joined = .ofChain done last := by
  rw [Joined.ofChain, List.foldl_reverse]
  induction done with
  | nil => rfl
  | cons entry done ih => exact congrArg (Joined.join (.compare entry.1) entry.2) ih

/-- The condition, if it may end here. -/
def ConditionState.result? : ConditionState → Option Condition
  | .left done reading => reading.whole?.map fun expr => Condition.ofChain done ⟨expr, none⟩
  | .right done first operator reading =>
    reading.whole?.map fun second => Condition.ofChain done ⟨first, some (operator, second)⟩

/-- What may follow a whole comparison. -/
def afterComparison : List Expected := [.lexeme .and, .lexeme .or, .endOfMarkup]

/-- What may follow the left side of a comparison. -/
def afterLeft : List Expected :=
  [.lexeme .eq, .lexeme .ne, .lexeme .le, .lexeme .ge, .lexeme .lt, .lexeme .gt, .lexeme .contains]
    ++ afterComparison

/-- What could come next in a condition. -/
def ConditionState.expected : ConditionState → List Expected
  | .left _ reading => reading.expected afterLeft
  | .right _ _ _ reading => reading.expected afterComparison

/-- **The machine that reads a condition.** -/
def conditionMachine : Machine ConditionState Condition where
  start := .left [] .start
  step := ConditionState.step
  result? := ConditionState.result?
  expected := ConditionState.expected

/-- The end of the last lexeme, or `ifNone`. -/
def lastStop (lexemes : List Placed) (ifNone : Nat) : Nat :=
  (lexemes.getLast?.map fun placed => placed.span.stop).getD ifNone

/-- The fault of a machine that is stuck in a markup of `size` bytes at `offset`.
At the end of the markup the span runs from that end to the end of the last lexeme. -/
def Stuck.fault (stuck : Stuck) (lexemes : List Placed) (size offset : Nat) : Source.Fault :=
  let expected := stuck.expected.map Expected.describe
  match stuck.found with
  | some placed =>
    .markup ("Unexpected " ++ placed.lexeme.describe) expected (placed.span.shift offset)
  | none =>
    .markup "Unexpected end of markup" expected ⟨offset + size, offset + lastStop lexemes size⟩

/-- **Reading markup** that stands at `offset` with a machine. -/
def Machine.read {σ α : Type} (machine : Machine σ α) (markup : String) (offset : Nat) :
    Except Source.Fault α :=
  match lex markup with
  | .error span =>
    .error (.markup ("Unexpected character '" ++ Text.slice markup span ++ "'") [] (span.shift offset))
  | .ok lexemes =>
    match machine.run machine.start lexemes with
    | .ok result => .ok result
    | .error stuck => .error (stuck.fault lexemes (Text.size markup) offset)

/-- **Reading an output.** Blank markup is `nil` without filters. -/
def readOutput (markup : String) (offset : Nat) : Except Source.Fault (Expr × List FilterCall) :=
  if markup.toList.all Text.isBlank then .ok (.literal .nil, [])
  else outputMachine.read markup offset

/-- **Reading a condition.** -/
def readCondition (markup : String) (offset : Nat) : Except Source.Fault Condition :=
  match conditionMachine.read markup offset with
  | .ok condition => .ok condition
  | .error fault => .error fault.inCondition

end Markup
end MailMerge
