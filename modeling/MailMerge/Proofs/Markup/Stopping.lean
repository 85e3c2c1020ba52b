/-
# The first impossible lexeme

Markup that is refused, though it has lexemes, is refused at the first lexeme that nothing accepted
goes on with there, or at its end. What is in front of that lexeme can be completed: in an index by
closing brackets, where an expression or a name must stand by a name. What is listed as expected
can stand there (`markup_stopsAt`):

| after | expected | completed by |
| --- | --- | --- |
| the start, a point, a bar, a colon, a comma, an operator, a joint | nothing is listed | a name |
| a look-up | a point, an opening bracket and what may follow an expression | nothing |
| a literal | what may follow an expression | nothing |
| an expression in an index | a closing bracket | a closing bracket for every open index |
| the name of a filter | a colon, a bar, the end | nothing |

No state of a machine is lost, that is, some lexemes lead on from it to an end, and every lexeme it
expects is one that it takes (`Machine.Guided`). So the lexemes before the one that is refused are
the start of accepted ones, and since a machine has one step for a lexeme at most, those up to it
are not.
-/

import MailMerge.Proofs.Markup.Chains
import MailMerge.Proofs.Markup.Locality
import MailMerge.Proofs.Tree.Placing
import Mathlib.Data.List.Nodup

namespace MailMerge
namespace Markup

open Text (Span)

/-! ### What is accepted -/

/-- A way to read markup that stands at some offset. -/
abbrev Reader (α : Type) := String → Nat → Except Source.Fault α

/-- **Lexemes that a reader accepts:** those of a markup that it reads without a fault. -/
def Accepted {α : Type} (read : Reader α) (lexemes : List Lexeme) : Prop :=
  ∃ markup placed, lex markup = .ok placed ∧ placed.map (·.lexeme) = lexemes ∧
    ∃ offset result, read markup offset = .ok result

/-- **Lexemes that a reader accepts if others follow.** -/
def CanStart {α : Type} (read : Reader α) (lexemes : List Lexeme) : Prop :=
  ∃ rest, Accepted read (lexemes ++ rest)

/-- **Texts that name what can follow some lexemes:** each names a lexeme or the end, every lexeme
that is named can come next, and if the end is, the lexemes are accepted as they are. -/
structure Follow {α : Type} (read : Reader α) (before : List Lexeme) (expected : List String) : Prop where
  named : ∀ text ∈ expected, text = "end of markup" ∨ ∃ lexeme : Lexeme, lexeme.describe = text
  lexemes : ∀ lexeme : Lexeme, lexeme.describe ∈ expected → CanStart read (before ++ [lexeme])
  ending : "end of markup" ∈ expected → Accepted read before

/-- **Where a reader stops** in the lexemes of a markup of `size` bytes at `offset`, with the message,
the expectations and the span: at the first lexeme up to which nothing accepted starts like this, or
at the end. -/
inductive StopsAt {α : Type} (read : Reader α) (placed : List Placed) (size offset : Nat) :
    String → List String → Span → Prop
  | lexeme {before after : List Placed} {here : Placed} {expected : List String}
      (cut : placed = before ++ here :: after)
      (possible : CanStart read (before.map (·.lexeme)))
      (impossible : ¬CanStart read (before.map (·.lexeme) ++ [here.lexeme]))
      (follow : Follow read (before.map (·.lexeme)) expected) :
      StopsAt read placed size offset ("Unexpected " ++ here.lexeme.describe) expected
        (here.span.shift offset)
  | ending {expected : List String} {span : Span}
      (possible : CanStart read (placed.map (·.lexeme)))
      (refused : ¬Accepted read (placed.map (·.lexeme)))
      (follow : Follow read (placed.map (·.lexeme)) expected)
      (start : span.start = offset + size) :
      StopsAt read placed size offset "Unexpected end of markup" expected span

/-! ### Signs and keywords -/

/-- The signs and the keywords. -/
def fixedLexemes : List Lexeme :=
  [.and, .or, .eq, .ne, .le, .ge, .lt, .gt, .contains, .trueWord, .falseWord, .nilWord, .pipe, .colon,
    .comma, .dot, .openBracket, .closeBracket]

/-- The name of a sign or keyword starts with a quote, and that of no other lexeme does. -/
theorem head?_describe (lexeme : Lexeme) :
    lexeme.describe.toList.head? = some '\'' ↔ lexeme ∈ fixedLexemes := by
  cases lexeme <;> simp [Lexeme.describe, fixedLexemes]

/-- **A sign or keyword is known by its name.** -/
theorem eq_of_describe {fixed other : Lexeme} (h : fixed ∈ fixedLexemes)
    (same : other.describe = fixed.describe) : other = fixed := by
  have alike : other ∈ fixedLexemes := by
    rw [← head?_describe, same, head?_describe]
    exact h
  have distinct : (fixedLexemes.map Lexeme.describe).Nodup := by decide
  exact List.inj_on_of_nodup_map distinct alike h same

theorem describe_ne_end (lexeme : Lexeme) : lexeme.describe ≠ "end of markup" := by
  cases lexeme <;> intro same <;> have head := congrArg (·.toList.head?) same <;>
    simp [Lexeme.describe] at head

/-- **Signs and keywords can be written.** -/
theorem writable_of_fixed : ∀ fixed ∈ fixedLexemes, fixed.Writable := by
  have written : ∀ {c : Char} {cs : List Char} {lexeme : Lexeme} (_ : isGap c = false)
      (_ : scan c cs = .lexeme lexeme (cs.length + 1)), lexeme.Writable := writable_of_scan
  simp only [fixedLexemes, List.forall_mem_cons]
  exact ⟨@written 'a' ['n', 'd'] _ rfl rfl, @written 'o' ['r'] _ rfl rfl,
    @written '=' ['='] _ rfl rfl, @written '!' ['='] _ rfl rfl, @written '<' ['='] _ rfl rfl,
    @written '>' ['='] _ rfl rfl, @written '<' [] _ rfl rfl, @written '>' [] _ rfl rfl,
    @written 'c' ['o', 'n', 't', 'a', 'i', 'n', 's'] _ rfl rfl,
    @written 't' ['r', 'u', 'e'] _ rfl rfl, @written 'f' ['a', 'l', 's', 'e'] _ rfl rfl,
    @written 'n' ['i', 'l'] _ rfl rfl, @written '|' [] _ rfl rfl, @written ':' [] _ rfl rfl,
    @written ',' [] _ rfl rfl, @written '.' [] _ rfl rfl, @written '[' [] _ rfl rfl,
    @written ']' [] _ rfl rfl, fun _ mem => (List.not_mem_nil mem).elim⟩

/-- A name that can be written. -/
theorem writable_name : (Lexeme.name "a").Writable := by
  have scanned : scan 'a' [] = .lexeme (.name "a") 1 := rfl
  exact writable_of_scan rfl scanned

/-! ### Machines -/

section

variable {σ α : Type} {machine : Machine σ α} {read : Reader α} {placed : List Placed}

/-- **A machine none of whose states is lost,** and which takes what it expects. -/
structure Machine.Guided (machine : Machine σ α) : Prop where
  completes : ∀ state, ∃ (lexemes : List Lexeme) (last : σ), (∀ lexeme ∈ lexemes, lexeme.Writable) ∧
    lexemes.foldlM machine.step state = some last ∧ (machine.result? last).isSome
  takes : ∀ {state lexeme}, .lexeme lexeme ∈ machine.expected state →
    lexeme ∈ fixedLexemes ∧ (machine.step state lexeme).isSome
  ends : ∀ {state}, .endOfMarkup ∈ machine.expected state → (machine.result? state).isSome

/-- **Where a run gets stuck:** after some steps, at a lexeme without a step or at the end. -/
theorem Machine.run_eq_error {state : σ} {stuck : Stuck} (h : machine.run state placed = .error stuck) :
    ∃ before last, (before.map (·.lexeme)).foldlM machine.step state = some last ∧
      stuck.expected = machine.expected last ∧
        ((∃ here after, placed = before ++ here :: after ∧ stuck.found = some here ∧
            machine.step last here.lexeme = none) ∨
          (placed = before ∧ stuck.found = none ∧ machine.result? last = none)) := by
  induction placed generalizing state with
  | nil =>
    rw [run] at h
    split at h
    · cases h
    · rename_i noEnd
      obtain rfl := Except.error.inj h
      exact ⟨[], state, rfl, rfl, .inr ⟨rfl, rfl, noEnd⟩⟩
  | cons first rest ih =>
    rw [run] at h
    split at h
    · rename_i next stepped
      obtain ⟨before, last, steps, same, stops⟩ := ih h
      refine ⟨first :: before, last, ?_, same, ?_⟩
      · rw [List.map_cons, List.foldlM_cons, stepped]
        exact steps
      · rcases stops with ⟨here, after, rfl, stop⟩ | ⟨rfl, stop⟩
        · exact .inl ⟨here, after, rfl, stop⟩
        · exact .inr ⟨rfl, stop⟩
    · rename_i noStep
      obtain rfl := Except.error.inj h
      exact ⟨[], state, rfl, rfl, .inl ⟨first, rest, rfl, rfl, noStep⟩⟩

/-- **A machine that a reader runs.** -/
structure Machine.Serves (machine : Machine σ α) {β : Type} (read : Reader β) : Prop where
  accepted : ∀ {lexemes result}, (∀ lexeme ∈ lexemes, lexeme.Writable) →
    machine.Accepts lexemes result → Accepted read lexemes
  accepts : ∀ {lexemes}, lexemes ≠ [] → Accepted read lexemes → ∃ result, machine.Accepts lexemes result

variable {β : Type} {read : Reader β} {before rest : List Lexeme} {state last : σ}

/-- Lexemes that lead to an end of the machine are accepted by the reader. -/
theorem Machine.Serves.reaches (serves : machine.Serves read)
    (writable : ∀ lexeme ∈ before, lexeme.Writable)
    (steps : before.foldlM machine.step machine.start = some state)
    (others : ∀ lexeme ∈ rest, lexeme.Writable) (on : rest.foldlM machine.step state = some last)
    (ends : (machine.result? last).isSome) : Accepted read (before ++ rest) := by
  obtain ⟨result, ends⟩ := Option.isSome_iff_exists.1 ends
  refine serves.accepted (fun lexeme mem => ?_) ⟨last, foldlM_trans steps on, ends⟩
  exact (List.mem_append.1 mem).elim (writable lexeme) (others lexeme)

/-- **What has led to a state can be completed.** -/
theorem Machine.Guided.canStart (guided : machine.Guided) (serves : machine.Serves read)
    (writable : ∀ lexeme ∈ before, lexeme.Writable)
    (steps : before.foldlM machine.step machine.start = some state) : CanStart read before := by
  obtain ⟨rest, last, others, on, ends⟩ := guided.completes state
  exact ⟨rest, serves.reaches writable steps others on ends⟩

/-- **What a state expects can follow** what has led to it. -/
theorem Machine.Guided.follow (guided : machine.Guided) (serves : machine.Serves read)
    (writable : ∀ lexeme ∈ before, lexeme.Writable)
    (steps : before.foldlM machine.step machine.start = some state) :
    Follow read before ((machine.expected state).map Expected.describe) where
  named text mem := by
    obtain ⟨expected, -, rfl⟩ := List.mem_map.1 mem
    cases expected with
    | lexeme lexeme => exact .inr ⟨lexeme, rfl⟩
    | endOfMarkup => exact .inl rfl
  lexemes lexeme mem := by
    obtain ⟨expected, mem, same⟩ := List.mem_map.1 mem
    cases expected with
    | lexeme fixed =>
      obtain ⟨isFixed, taken⟩ := guided.takes mem
      obtain rfl := eq_of_describe isFixed same.symm
      obtain ⟨next, stepped⟩ := Option.isSome_iff_exists.1 taken
      have on : [lexeme].foldlM machine.step state = some next := by
        rw [List.foldlM_cons, stepped]
        rfl
      refine guided.canStart serves (fun other mem => ?_) (foldlM_trans steps on)
      rcases List.mem_append.1 mem with mem | mem
      · exact writable other mem
      · exact List.mem_singleton.1 mem ▸ writable_of_fixed _ isFixed
    | endOfMarkup => exact absurd same.symm (describe_ne_end lexeme)
  ending mem := by
    obtain ⟨expected, mem, same⟩ := List.mem_map.1 mem
    cases expected with
    | lexeme fixed => exact absurd same (describe_ne_end fixed)
    | endOfMarkup =>
      have none : ∀ lexeme ∈ ([] : List Lexeme), lexeme.Writable := fun _ mem => nomatch mem
      have whole := serves.reaches writable steps none rfl (guided.ends mem)
      rwa [List.append_nil] at whole

/-- **A machine that gets stuck** is where its reader stops. -/
theorem Machine.Guided.stopsAt (guided : machine.Guided) (serves : machine.Serves read) {stuck : Stuck}
    (h : machine.run machine.start placed = .error stuck)
    (writable : ∀ one ∈ placed, one.lexeme.Writable) (empty : placed = [] → ¬Accepted read [])
    (size offset : Nat) : ∃ message expected span,
      stuck.fault placed size offset = .markup message expected span ∧
        StopsAt read placed size offset message expected span := by
  obtain ⟨before, last, steps, same, stops⟩ := run_eq_error h
  unfold Stuck.fault
  rw [same]
  rcases stops with ⟨here, after, rfl, found, noStep⟩ | ⟨rfl, found, noEnd⟩
  · have written : ∀ lexeme ∈ before.map (·.lexeme), lexeme.Writable :=
      List.forall_mem_map.2 fun one mem => writable one (List.mem_append_left _ mem)
    rw [found]
    refine ⟨_, _, _, rfl, .lexeme rfl (guided.canStart serves written steps) ?_
      (guided.follow serves written steps)⟩
    rintro ⟨rest, accepted⟩
    have nonempty : before.map (·.lexeme) ++ [here.lexeme] ++ rest ≠ [] := by simp
    obtain ⟨result, final, run, -⟩ := serves.accepts nonempty accepted
    rw [List.append_assoc, List.foldlM_append, steps] at run
    simp [noStep] at run
  · have written : ∀ lexeme ∈ placed.map (·.lexeme), lexeme.Writable := List.forall_mem_map.2 writable
    rw [found]
    refine ⟨_, _, _, rfl, .ending (guided.canStart serves written steps) (fun accepted => ?_)
      (guided.follow serves written steps) rfl⟩
    rcases List.eq_nil_or_concat placed with rfl | ⟨front, one, rfl⟩
    · exact empty rfl accepted
    · obtain ⟨result, final, run, ends⟩ := serves.accepts (by simp) accepted
      rw [steps] at run
      obtain rfl := Option.some.inj run
      rw [noEnd] at ends
      cases ends

end

/-! ### The states of an expression -/

/-- Closing brackets lead out of all indices. -/
theorem Progress.closes (enclosing : List (String × List Step)) (expr : Expr) :
    ∃ whole, (List.replicate enclosing.length Lexeme.closeBracket).foldlM step ⟨enclosing, .whole expr⟩ =
      some ⟨[], .whole whole⟩ := by
  induction enclosing generalizing expr with
  | nil => exact ⟨expr, rfl⟩
  | cons entry outer ih =>
    obtain ⟨root, path⟩ := entry
    obtain ⟨whole, steps⟩ := ih (.lookup root (path ++ [.index expr]))
    refine ⟨whole, ?_⟩
    rw [List.length_cons, List.replicate_succ, List.foldlM_cons, step_closeBracket]
    exact steps

/-- **An expression can be completed:** by a name, if one is missing, and closing brackets. -/
theorem Progress.completes (reading : Progress) : ∃ (lexemes : List Lexeme) (whole : Expr),
    (∀ lexeme ∈ lexemes, lexeme.Writable) ∧ lexemes.foldlM step reading = some ⟨[], .whole whole⟩ := by
  obtain ⟨enclosing, point⟩ := reading
  have brackets : ∀ lexeme ∈ List.replicate enclosing.length Lexeme.closeBracket, lexeme.Writable :=
    fun _ mem => List.eq_of_mem_replicate mem ▸ writable_of_fixed _ (by simp [fixedLexemes])
  have named := List.forall_mem_cons.2 ⟨writable_name, brackets⟩
  cases point with
  | operand =>
    obtain ⟨whole, steps⟩ := closes enclosing (.lookup "a" [])
    exact ⟨_, whole, named, steps⟩
  | afterDot root path =>
    obtain ⟨whole, steps⟩ := closes enclosing (.lookup root (path ++ [.member "a"]))
    exact ⟨_, whole, named, steps⟩
  | whole expr =>
    obtain ⟨whole, steps⟩ := closes enclosing expr
    exact ⟨_, whole, brackets, steps⟩

/-- **What an expression expects** it takes, or it is what may follow the whole expression. -/
theorem Progress.cases_of_expected {reading : Progress} {follow : List Expected} {expected : Expected}
    (h : expected ∈ reading.expected follow) :
    (∃ lexeme, expected = .lexeme lexeme ∧ lexeme ∈ fixedLexemes ∧ (reading.step lexeme).isSome) ∨
      (expected ∈ follow ∧ ∃ expr, reading = ⟨[], .whole expr⟩) := by
  obtain ⟨enclosing, point⟩ := reading
  have closing : ∀ expr, expected ∈ (if enclosing.isEmpty then follow else [.lexeme .closeBracket]) →
      (∃ lexeme, expected = .lexeme lexeme ∧ lexeme ∈ fixedLexemes ∧
        (step ⟨enclosing, .whole expr⟩ lexeme).isSome) ∨
        (expected ∈ follow ∧ ∃ whole, (⟨enclosing, .whole expr⟩ : Progress) = ⟨[], .whole whole⟩) := by
    intro expr mem
    cases enclosing with
    | nil => exact .inr ⟨mem, expr, rfl⟩
    | cons entry outer =>
      obtain rfl := List.mem_singleton.1 mem
      refine .inl ⟨.closeBracket, rfl, by simp [fixedLexemes], ?_⟩
      rw [step_closeBracket]
      rfl
  cases point with
  | operand => cases h
  | afterDot root path => cases h
  | whole expr =>
    cases expr with
    | literal literal => exact closing _ h
    | lookup root path =>
      rcases List.mem_append.1 h with sign | mem
      · rcases List.mem_pair.1 sign with rfl | rfl
        · exact .inl ⟨.dot, rfl, by simp [fixedLexemes], rfl⟩
        · exact .inl ⟨.openBracket, rfl, by simp [fixedLexemes], rfl⟩
      · exact closing _ mem

/-! ### States that hold an expression -/

/-- **A state that holds an expression being read:** the steps in the expression are steps of the
machine, and the markup may end after a whole one. -/
structure Machine.Holds {σ α : Type} (machine : Machine σ α) (holding : Progress → σ) : Prop where
  steps : ∀ part lexeme next, part.step lexeme = some next →
    machine.step (holding part) lexeme = some (holding next)
  ends : ∀ expr, (machine.result? (holding ⟨[], .whole expr⟩)).isSome

section

variable {σ α : Type} {machine : Machine σ α} {holding : Progress → σ} {reading : Progress}
  {follow : List Expected}

theorem Machine.Holds.completes (holds : machine.Holds holding) (reading : Progress) :
    ∃ (lexemes : List Lexeme) (last : σ), (∀ lexeme ∈ lexemes, lexeme.Writable) ∧
      lexemes.foldlM machine.step (holding reading) = some last ∧ (machine.result? last).isSome := by
  obtain ⟨lexemes, whole, writable, steps⟩ := reading.completes
  exact ⟨lexemes, _, writable, foldlM_embed holds.steps steps, holds.ends whole⟩

/-- What is expected is taken in the expression, or after it if that takes what may follow. -/
theorem Machine.Holds.takes (holds : machine.Holds holding) {lexeme : Lexeme}
    (mem : .lexeme lexeme ∈ reading.expected follow)
    (later : ∀ expr, .lexeme lexeme ∈ follow →
      lexeme ∈ fixedLexemes ∧ (machine.step (holding ⟨[], .whole expr⟩) lexeme).isSome) :
    lexeme ∈ fixedLexemes ∧ (machine.step (holding reading) lexeme).isSome := by
  rcases Progress.cases_of_expected mem with ⟨_, same, fixed, taken⟩ | ⟨follows, expr, rfl⟩
  · cases same
    obtain ⟨next, inside⟩ := Option.isSome_iff_exists.1 taken
    exact ⟨fixed, Option.isSome_of_eq_some (holds.steps _ _ _ inside)⟩
  · exact later expr follows

theorem Machine.Holds.ends_of_expected (holds : machine.Holds holding)
    (mem : .endOfMarkup ∈ reading.expected follow) : (machine.result? (holding reading)).isSome := by
  rcases Progress.cases_of_expected mem with ⟨_, same, _⟩ | ⟨-, expr, rfl⟩
  · cases same
  · exact holds.ends expr

end

/-! ### Outputs -/

theorem holds_subject : outputMachine.Holds .subject where
  steps part lexeme next inside := by simp only [outputMachine, OutputState.step, inside]
  ends _ := rfl

theorem holds_argument (expr : Expr) (filters : List FilterCall) (name : String) (arguments : List Expr) :
    outputMachine.Holds (.argument expr filters name arguments) where
  steps part lexeme next inside := by simp only [outputMachine, OutputState.step, inside]
  ends _ := rfl

/-- **The machine that reads an output** is never lost. -/
theorem outputMachine_guided : outputMachine.Guided where
  completes state := by
    cases state with
    | subject reading => exact holds_subject.completes reading
    | filterName expr filters =>
      exact ⟨[.name "a"], .afterName expr filters "a", List.forall_mem_singleton.2 writable_name, rfl, rfl⟩
    | afterName expr filters name =>
      exact ⟨[], .afterName expr filters name, (fun _ mem => nomatch mem), rfl, rfl⟩
    | argument expr filters name arguments reading => exact (holds_argument ..).completes reading
  takes {state lexeme} mem := by
    cases state with
    | subject reading =>
      refine holds_subject.takes mem fun expr follows => ?_
      obtain rfl : lexeme = .pipe := by simpa using follows
      have ends : OutputState.result? (.subject ⟨[], .whole expr⟩) = some (expr, []) := rfl
      exact ⟨by simp [fixedLexemes], Option.isSome_of_eq_some (OutputState.step_pipe ends)⟩
    | filterName expr filters => cases mem
    | afterName expr filters name =>
      obtain rfl | rfl : lexeme = .colon ∨ lexeme = .pipe := by
        simpa [outputMachine, OutputState.expected] using mem
      · exact ⟨by simp [fixedLexemes], rfl⟩
      · exact ⟨by simp [fixedLexemes], rfl⟩
    | argument expr filters name arguments reading =>
      refine (holds_argument ..).takes mem fun last follows => ?_
      obtain rfl | rfl : lexeme = .comma ∨ lexeme = .pipe := by simpa using follows
      · exact ⟨by simp [fixedLexemes], Option.isSome_of_eq_some (OutputState.step_comma ..)⟩
      · have ends : OutputState.result? (.argument expr filters name arguments ⟨[], .whole last⟩) =
            some (expr, filters ++ [⟨name, arguments ++ [last]⟩]) := rfl
        exact ⟨by simp [fixedLexemes], Option.isSome_of_eq_some (OutputState.step_pipe ends)⟩
  ends {state} mem := by
    cases state with
    | subject reading => exact holds_subject.ends_of_expected mem
    | filterName expr filters => cases mem
    | afterName expr filters name => rfl
    | argument expr filters name arguments reading => exact (holds_argument ..).ends_of_expected mem

/-! ### Conditions -/

/-- An operator after the left side of a comparison leads to its right side. -/
theorem ConditionState.step_operator (done : List (Comparison × Joint)) (expr : Expr)
    (operator : Operator) : step (.left done ⟨[], .whole expr⟩) operator.lexeme =
      some (.right done expr operator .start) := by
  rw [step, Progress.step_operator]
  cases operator <;> rfl

/-- A joint after a comparison leads to the next one. -/
theorem ConditionState.isSome_step_joint {state : ConditionState} {condition : Condition}
    (h : state.result? = some condition) (joint : Joint) : (state.step joint.lexeme).isSome := by
  unfold result? at h
  split at h
  · obtain ⟨expr, ends, rfl⟩ := Option.map_eq_some_iff.1 h
    rw [Progress.eq_of_whole? ends, step, Progress.step_joint]
    cases joint <;> rfl
  · obtain ⟨second, ends, rfl⟩ := Option.map_eq_some_iff.1 h
    rw [Progress.eq_of_whole? ends, step, Progress.step_joint]
    cases joint <;> rfl

theorem holds_left (done : List (Comparison × Joint)) : conditionMachine.Holds (.left done) where
  steps part lexeme next inside := by simp only [conditionMachine, ConditionState.step, inside]
  ends _ := rfl

theorem holds_right (done : List (Comparison × Joint)) (first : Expr) (operator : Operator) :
    conditionMachine.Holds (.right done first operator) where
  steps part lexeme next inside := by simp only [conditionMachine, ConditionState.step, inside]
  ends _ := rfl

/-- **The machine that reads a condition** is never lost. -/
theorem conditionMachine_guided : conditionMachine.Guided where
  completes state := by
    cases state with
    | left done reading => exact (holds_left done).completes reading
    | right done first operator reading => exact (holds_right ..).completes reading
  takes {state lexeme} mem := by
    have joins : ∀ {state : ConditionState} {condition : Condition}, state.result? = some condition →
        Expected.lexeme lexeme ∈ afterComparison →
          lexeme ∈ fixedLexemes ∧ (state.step lexeme).isSome := by
      intro state condition ends follows
      obtain rfl | rfl : lexeme = .and ∨ lexeme = .or := by simpa [afterComparison] using follows
      · exact ⟨by simp [fixedLexemes], ConditionState.isSome_step_joint ends .and⟩
      · exact ⟨by simp [fixedLexemes], ConditionState.isSome_step_joint ends .or⟩
    cases state with
    | left done reading =>
      refine (holds_left done).takes mem fun expr follows => ?_
      have ends : ConditionState.result? (.left done ⟨[], .whole expr⟩) =
          some (.ofChain done ⟨expr, none⟩) := rfl
      rcases List.mem_append.1 follows with operators | follows
      · have compares : ∃ operator : Operator, lexeme = operator.lexeme := by
          simp only [List.mem_cons, List.not_mem_nil, or_false, Expected.lexeme.injEq] at operators
          rcases operators with rfl | rfl | rfl | rfl | rfl | rfl | rfl
          exacts [⟨.eq, rfl⟩, ⟨.ne, rfl⟩, ⟨.le, rfl⟩, ⟨.ge, rfl⟩, ⟨.lt, rfl⟩, ⟨.gt, rfl⟩, ⟨.contains, rfl⟩]
        obtain ⟨operator, rfl⟩ := compares
        refine ⟨by cases operator <;> simp [Operator.lexeme, fixedLexemes], ?_⟩
        exact Option.isSome_of_eq_some (ConditionState.step_operator done expr operator)
      · exact joins ends follows
    | right done first operator reading =>
      refine (holds_right ..).takes mem fun second follows => ?_
      have ends : ConditionState.result? (.right done first operator ⟨[], .whole second⟩) =
          some (.ofChain done ⟨first, some (operator, second)⟩) := rfl
      exact joins ends follows
  ends {state} mem := by
    cases state with
    | left done reading => exact (holds_left done).ends_of_expected mem
    | right done first operator reading => exact (holds_right ..).ends_of_expected mem

/-! ### Blank markup -/

theorem isBlank_of_between {c first last : Char} (low : first ≤ c) (high : c ≤ last)
    (apart : ∀ range ∈ Text.blankRanges, range.2 < first.toNat ∨ last.toNat < range.1) :
    Text.isBlank c = false := by
  refine Bool.eq_false_iff.2 fun blank => ?_
  obtain ⟨range, mem, start, stop⟩ := Text.Ranges.has_iff.1 blank
  have low : first.toNat ≤ c.toNat := low
  have high : c.toNat ≤ last.toNat := high
  have apart := apart range mem
  omega

/-- **No lexeme starts with a blank.** -/
theorem isBlank_of_scan {c : Char} {cs : List Char} {lexeme : Lexeme} {length : Nat}
    (h : scan c cs = .lexeme lexeme length) : Text.isBlank c = false := by
  unfold scan at h
  split at h
  · rename_i start
    simp only [isNameStart, Bool.or_eq_true, Bool.and_eq_true, decide_eq_true_eq, beq_iff_eq] at start
    obtain (⟨low, high⟩ | ⟨low, high⟩) | rfl := start
    · exact isBlank_of_between low high (by decide)
    · exact isBlank_of_between low high (by decide)
    · decide
  · split at h
    · rename_i digit
      simp only [Decimal.isDigit, Bool.and_eq_true, decide_eq_true_eq] at digit
      exact isBlank_of_between digit.1 digit.2 (by decide)
    · split at h <;> first
        | decide
        | cases h

/-- **Blank markup has no lexemes.** -/
theorem lexFrom_blank {place : Nat} {cs : List Char} {placed : List Placed}
    (blank : ∀ c ∈ cs, Text.isBlank c = true) (h : lexFrom place 0 cs = .ok placed) : placed = [] := by
  induction cs generalizing place with
  | nil => exact (Except.ok.inj h).symm
  | cons c cs ih =>
    obtain ⟨own, others⟩ := List.forall_mem_cons.1 blank
    rw [lexFrom] at h
    split at h
    · exact ih others h
    · split at h
      · cases h
      · rename_i scanned
        rw [isBlank_of_scan scanned] at own
        cases own

/-- Markup that is not blank has lexemes. -/
theorem isBlank_of_lex {markup : String} (h : lex markup = .ok []) :
    markup.toList.all Text.isBlank = true := by
  have laid := laid_lexFrom h
  rw [List.drop_zero] at laid
  generalize markup.toList = cs at laid ⊢
  cases laid with
  | nil blank => exact List.all_eq_true.2 fun c mem => isBlank_of_isGap (blank c mem)

/-! ### The readers -/

theorem outputMachine_serves : outputMachine.Serves readOutput where
  accepted {lexemes result} writable accepts := by
    obtain ⟨markup, placed, lexed, rfl⟩ := exists_markup writable
    refine ⟨markup, placed, lexed, rfl, 0, ?_⟩
    unfold readOutput
    split
    · exact ⟨_, rfl⟩
    · exact ⟨result, Machine.read_eq_ok_iff.2 ⟨placed, lexed, accepts⟩⟩
  accepts {lexemes} nonempty accepted := by
    obtain ⟨markup, placed, lexed, rfl, offset, result, read⟩ := accepted
    unfold readOutput at read
    split at read
    · rename_i blank
      obtain rfl := lexFrom_blank (List.all_eq_true.1 blank) lexed
      exact absurd rfl nonempty
    · obtain ⟨placed', lexed', accepts⟩ := Machine.read_eq_ok_iff.1 read
      obtain rfl := Except.ok.inj (lexed.symm.trans lexed')
      exact ⟨result, accepts⟩

/-- A condition is read by its machine, also from markup without lexemes. -/
theorem accepted_readCondition {lexemes : List Lexeme} (accepted : Accepted readCondition lexemes) :
    ∃ condition, conditionMachine.Accepts lexemes condition := by
  obtain ⟨markup, placed, lexed, rfl, offset, condition, read⟩ := accepted
  unfold readCondition at read
  split at read
  · rename_i found
    obtain ⟨placed', lexed', accepts⟩ := Machine.read_eq_ok_iff.1 found
    obtain rfl := Except.ok.inj (lexed.symm.trans lexed')
    exact ⟨_, accepts⟩
  · cases read

theorem conditionMachine_serves : conditionMachine.Serves readCondition where
  accepted {lexemes condition} writable accepts := by
    obtain ⟨markup, placed, lexed, rfl⟩ := exists_markup writable
    have read : conditionMachine.read markup 0 = .ok condition :=
      Machine.read_eq_ok_iff.2 ⟨placed, lexed, accepts⟩
    exact ⟨markup, placed, lexed, rfl, 0, condition, by rw [readCondition, read]⟩
  accepts _ accepted := accepted_readCondition accepted

/-- There is no condition without lexemes. -/
theorem not_accepted_empty : ¬Accepted readCondition [] := by
  intro accepted
  obtain ⟨condition, last, steps, ends⟩ := accepted_readCondition accepted
  obtain rfl := Option.some.inj steps
  cases ends

/-- **Markup with lexemes is refused at the first impossible one,** or at its end. -/
theorem markup_stopsAt {markup : String} {placed : List Placed} (lexed : lex markup = .ok placed)
    (offset : Nat) :
    (∀ fault, readOutput markup offset = .error fault → ∃ message expected span,
      fault = .markup message expected span ∧
        StopsAt readOutput placed (Text.size markup) offset message expected span) ∧
    ∀ fault, readCondition markup offset = .error fault → ∃ message expected span,
      fault = (Source.Fault.markup message expected span).inCondition ∧
        StopsAt readCondition placed (Text.size markup) offset message expected span := by
  have writable := writable_of_lexFrom lexed
  constructor
  · intro fault h
    unfold readOutput at h
    split at h
    · cases h
    · rename_i solid
      simp only [Machine.read, lexed] at h
      split at h
      · cases h
      · rename_i stuck failed
        obtain rfl := Except.error.inj h
        refine outputMachine_guided.stopsAt outputMachine_serves failed writable ?_ _ offset
        rintro rfl
        exact absurd (isBlank_of_lex lexed) solid
  · intro fault h
    unfold readCondition at h
    split at h
    · cases h
    · rename_i found
      obtain rfl := Except.error.inj h
      simp only [Machine.read, lexed] at found
      split at found
      · cases found
      · rename_i stuck failed
        obtain rfl := Except.error.inj found
        obtain ⟨message, expected, span, same, stops⟩ := conditionMachine_guided.stopsAt
          conditionMachine_serves failed writable (fun _ => not_accepted_empty) (Text.size markup) offset
        exact ⟨message, expected, span, congrArg _ same, stops⟩

/-- An output stops at a second name, and a condition after an operator at its end. -/
theorem markup_stopsAt_name_and_end :
    lex "a b" = .ok [⟨.name "a", 0, 1⟩, ⟨.name "b", 2, 3⟩] ∧
      StopsAt readOutput [⟨.name "a", 0, 1⟩, ⟨.name "b", 2, 3⟩] 3 7 "Unexpected identifier 'b'"
        ["'.'", "'['", "'|'", "end of markup"] ⟨9, 10⟩ ∧
      lex "a > " = .ok [⟨.name "a", 0, 1⟩, ⟨.gt, 2, 3⟩] ∧
      ∃ message expected span, Source.Fault.invalidCondition "Unexpected end of markup" ⟨11, 10⟩ =
          (Source.Fault.markup message expected span).inCondition ∧
        StopsAt readCondition [⟨.name "a", 0, 1⟩, ⟨.gt, 2, 3⟩] 4 7 message expected span := by
  have output : lex "a b" = .ok [⟨.name "a", 0, 1⟩, ⟨.name "b", 2, 3⟩] := rfl
  have condition : lex "a > " = .ok [⟨.name "a", 0, 1⟩, ⟨.gt, 2, 3⟩] := rfl
  refine ⟨output, ?_, condition, (markup_stopsAt condition 7).2 _ rfl⟩
  have failed : readOutput "a b" 7 = .error (.markup "Unexpected identifier 'b'"
    ["'.'", "'['", "'|'", "end of markup"] ⟨9, 10⟩) := rfl
  obtain ⟨message, expected, span, same, stops⟩ := (markup_stopsAt output 7).1 _ failed
  cases same
  exact stops

end Markup
end MailMerge
