/-
# What an output's markup says

The markup of an output is read into an expression and its filters exactly if its lexemes are
the ones that the expression and the filters are written with (`readOutput_eq_ok_iff`). Nothing
is skipped, nothing is made up, and there is one way to read what can be read.

| part | lexemes |
| --- | --- |
| literal | its own lexeme |
| look-up | the name, then `. name` for a member and `[ expression ]` for an index |
| filter | `\|` and the name, then, if there are arguments, `:` and the arguments with `,` between |

A state of the machine that reads an output stands for the lexemes that have led to it, and each
step adds the lexeme it takes (`OutputState.lexemes_of_step`), so what is read is what stands
there. The other way round, the lexemes of an expression lead from the place where it is expected
to the place behind it, whatever encloses it (`Expr.read_lexemes`), and so do those of a filter.
-/

import Mathlib.Data.List.Basic
import MailMerge.Markup.Reading

namespace MailMerge
namespace Markup

/-! ### Lexemes of expressions and filters -/

/-- The lexeme of a literal. -/
def Literal.lexeme : Literal → Lexeme
  | .nil => .nilWord
  | .bool true => .trueWord
  | .bool false => .falseWord
  | .int value => .int value
  | .float value => .float value
  | .text value => .text value

mutual

/-- **The lexemes of an expression.** -/
def Expr.lexemes : Expr → List Lexeme
  | .literal literal => [literal.lexeme]
  | .lookup root path => .name root :: Step.lexemesOf path
termination_by structural expr => expr

/-- The lexemes of a path. -/
def Step.lexemesOf : List Step → List Lexeme
  | [] => []
  | .member name :: path => .dot :: .name name :: Step.lexemesOf path
  | .index key :: path => .openBracket :: (key.lexemes ++ .closeBracket :: Step.lexemesOf path)
termination_by structural path => path

end

/-- The lexemes of expressions, each with a comma behind it. -/
def precedingLexemes (exprs : List Expr) : List Lexeme :=
  exprs.flatMap fun expr => expr.lexemes ++ [.comma]

/-- **The lexemes of a filter.** -/
def FilterCall.lexemes (filter : FilterCall) : List Lexeme :=
  .pipe :: .name filter.name :: match filter.arguments with
    | [] => []
    | arguments => .colon :: List.intercalate [.comma] (arguments.map Expr.lexemes)

/-- **The lexemes of an expression and its filters.** -/
def pipelineLexemes (expr : Expr) (filters : List FilterCall) : List Lexeme :=
  expr.lexemes ++ filters.flatMap FilterCall.lexemes

/-- A literal is what its lexeme stands for, and no other lexeme stands for it. -/
theorem literal?_eq_some_iff {lexeme : Lexeme} {literal : Literal} :
    lexeme.literal? = some literal ↔ lexeme = literal.lexeme := by
  constructor
  · intro h
    unfold Lexeme.literal? at h
    split at h <;> cases h <;> rfl
  · rintro rfl
    unfold Literal.lexeme
    split <;> rfl

theorem Step.lexemesOf_append (front back : List Step) :
    Step.lexemesOf (front ++ back) = Step.lexemesOf front ++ Step.lexemesOf back := by
  induction front with
  | nil => rfl
  | cons step path ih =>
    rcases step with name | key
    · rw [List.cons_append, lexemesOf, lexemesOf, ih]
      rfl
    · rw [List.cons_append, lexemesOf, lexemesOf, ih]
      simp only [List.cons_append, List.append_assoc]

/-- A look-up that goes on. -/
theorem Expr.lexemes_lookup_append (root : String) (path more : List Step) :
    (Expr.lookup root (path ++ more)).lexemes =
      (Expr.lookup root path).lexemes ++ Step.lexemesOf more := by
  rw [lexemes, lexemes, Step.lexemesOf_append, List.cons_append]

/-- Separators stand behind all but the last. -/
theorem intercalate_concat {α : Type} (separator : List α) (runs : List (List α)) (last : List α) :
    List.intercalate separator (runs ++ [last]) = runs.flatMap (· ++ separator) ++ last := by
  induction runs with
  | nil => exact List.intercalate_singleton
  | cons run runs ih =>
    have nonempty : runs ++ [last] ≠ [] := List.append_ne_nil_of_right_ne_nil _ (List.cons_ne_nil _ _)
    rw [List.cons_append, List.intercalate_cons_of_ne_nil nonempty, ih, List.flatMap_cons]
    simp only [List.append_assoc]

/-- The lexemes of a filter whose arguments end in `last`. -/
theorem FilterCall.lexemes_concat (name : String) (arguments : List Expr) (last : Expr) :
    (FilterCall.mk name (arguments ++ [last])).lexemes =
      [.pipe, .name name, .colon] ++ (precedingLexemes arguments ++ last.lexemes) := by
  have separated := intercalate_concat [Lexeme.comma] (arguments.map Expr.lexemes) last.lexemes
  rw [List.flatMap_map] at separated
  unfold lexemes
  split
  · rename_i empty
    exact absurd empty (List.append_ne_nil_of_right_ne_nil _ (List.cons_ne_nil _ _))
  · rw [List.map_append, List.map_cons, List.map_nil, separated]
    rfl

theorem pipelineLexemes_concat (expr : Expr) (filters : List FilterCall) (filter : FilterCall) :
    pipelineLexemes expr (filters ++ [filter]) = pipelineLexemes expr filters ++ filter.lexemes := by
  rw [pipelineLexemes, pipelineLexemes, List.flatMap_append, List.flatMap_singleton,
    List.append_assoc]

/-! ### Machines -/

section

variable {σ τ α : Type}

/-- **What a machine accepts:** lexemes that each allow a step, up to a state with that result. -/
def Machine.Accepts (machine : Machine σ α) (lexemes : List Lexeme) (result : α) : Prop :=
  ∃ last, lexemes.foldlM machine.step machine.start = some last ∧ machine.result? last = some result

/-- A run that succeeds takes a step for every lexeme. -/
theorem Machine.run_eq_ok_iff {machine : Machine σ α} {state : σ} {placed : List Placed} {result : α} :
    machine.run state placed = .ok result ↔
      ∃ last, (placed.map (·.lexeme)).foldlM machine.step state = some last ∧
        machine.result? last = some result := by
  induction placed generalizing state with
  | nil =>
    rw [run, List.map_nil, List.foldlM_nil]
    cases ends : machine.result? state with
    | none => simp [ends]
    | some final => simp [ends]
  | cons first rest ih =>
    rw [run, List.map_cons, List.foldlM_cons]
    cases machine.step state first.lexeme with
    | none => simp
    | some next => exact ih

/-- **Reading succeeds** on the markups whose lexemes are accepted. -/
theorem Machine.read_eq_ok_iff {machine : Machine σ α} {markup : String} {offset : Nat} {result : α} :
    machine.read markup offset = .ok result ↔
      ∃ placed, lex markup = .ok placed ∧ machine.Accepts (placed.map (·.lexeme)) result := by
  unfold Accepts
  rw [read]
  cases lexed : lex markup with
  | error span => simp
  | ok placed =>
    simp only [Except.ok.injEq, exists_eq_left', ← run_eq_ok_iff]
    cases machine.run machine.start placed with
    | error stuck => simp
    | ok final => simp

/-- Steps over two runs of lexemes, one after the other. -/
theorem foldlM_trans {step : σ → Lexeme → Option σ} {first second : List Lexeme}
    {start between last : σ} (h : first.foldlM step start = some between)
    (h' : second.foldlM step between = some last) :
    (first ++ second).foldlM step start = some last := by
  rw [List.foldlM_append, h]
  exact h'

/-- Steps that a larger state takes over from a part of it. -/
theorem foldlM_embed {step : σ → Lexeme → Option σ} {inner : τ → Lexeme → Option τ} {embed : τ → σ}
    (takes : ∀ part lexeme next, inner part lexeme = some next →
      step (embed part) lexeme = some (embed next))
    {lexemes : List Lexeme} {start last : τ} (h : lexemes.foldlM inner start = some last) :
    lexemes.foldlM step (embed start) = some (embed last) := by
  induction lexemes generalizing start with
  | nil =>
    obtain rfl := Option.some.inj h
    rfl
  | cons lexeme lexemes ih =>
    rw [List.foldlM_cons] at h
    obtain ⟨next, first, rest⟩ := Option.bind_eq_some_iff.1 h
    rw [List.foldlM_cons, takes _ _ _ first]
    exact ih rest

/-- **What a state stands for** grows by the lexemes of the steps, if each step adds its own. -/
theorem lexemes_of_foldlM {step : σ → Lexeme → Option σ} {read : σ → List Lexeme}
    (adds : ∀ state lexeme next, step state lexeme = some next → read next = read state ++ [lexeme])
    {lexemes : List Lexeme} {start last : σ} (h : lexemes.foldlM step start = some last) :
    read last = read start ++ lexemes := by
  induction lexemes generalizing start with
  | nil =>
    obtain rfl := Option.some.inj h
    rw [List.append_nil]
  | cons lexeme lexemes ih =>
    rw [List.foldlM_cons] at h
    obtain ⟨next, first, rest⟩ := Option.bind_eq_some_iff.1 h
    rw [ih rest, adds _ _ _ first, List.append_assoc]
    rfl

end

/-! ### An expression -/

/-- The lexemes that have led to a point. -/
def Point.lexemes : Point → List Lexeme
  | .operand => []
  | .afterDot root path => (Expr.lookup root path).lexemes ++ [.dot]
  | .whole expr => expr.lexemes

/-- The lexemes that have led into the indices of look-ups, the innermost first. -/
def enclosingLexemes : List (String × List Step) → List Lexeme
  | [] => []
  | (root, path) :: outer =>
    enclosingLexemes outer ++ ((Expr.lookup root path).lexemes ++ [.openBracket])

/-- **The lexemes that have been read** of an expression. -/
def Progress.lexemes (reading : Progress) : List Lexeme :=
  enclosingLexemes reading.enclosing ++ reading.point.lexemes

/-- **A step within an expression** adds its lexeme. -/
theorem Progress.lexemes_of_step {reading next : Progress} {lexeme : Lexeme}
    (h : reading.step lexeme = some next) : next.lexemes = reading.lexemes ++ [lexeme] := by
  obtain ⟨enclosing, point⟩ := reading
  unfold step at h
  dsimp only at h
  split at h
  · cases h
    simp [lexemes, Point.lexemes, Expr.lexemes, Step.lexemesOf]
  · obtain ⟨literal, stands, rfl⟩ := Option.map_eq_some_iff.1 h
    rw [literal?_eq_some_iff.1 stands]
    simp [lexemes, Point.lexemes, Expr.lexemes]
  · cases h
    simp [lexemes, Point.lexemes, Expr.lexemes_lookup_append, Step.lexemesOf]
  · cases h
    simp [lexemes, Point.lexemes]
  · cases h
    simp [lexemes, Point.lexemes, enclosingLexemes]
  · split at h
    · cases h
      simp [lexemes, Point.lexemes, enclosingLexemes, Expr.lexemes_lookup_append, Step.lexemesOf]
    · cases h
  · cases h

/-- An expression that may end is whole, and nothing encloses it. -/
theorem Progress.eq_of_whole? {reading : Progress} {expr : Expr}
    (h : reading.whole? = some expr) : reading = ⟨[], .whole expr⟩ := by
  obtain ⟨enclosing, point⟩ := reading
  unfold whole? at h
  dsimp only at h
  split at h
  · obtain rfl := Option.some.inj h
    rfl
  · cases h

theorem Progress.lexemes_of_whole? {reading : Progress} {expr : Expr}
    (h : reading.whole? = some expr) : reading.lexemes = expr.lexemes := by
  rw [eq_of_whole? h]
  rfl

/-- A bracket that closes an index. -/
theorem Progress.step_closeBracket (root : String) (path : List Step)
    (outer : List (String × List Step)) (key : Expr) :
    step ⟨(root, path) :: outer, .whole key⟩ .closeBracket =
      some ⟨outer, .whole (.lookup root (path ++ [.index key]))⟩ := by
  cases key with
  | literal literal => rfl
  | lookup root' path' => rfl

mutual

/-- **The lexemes of an expression** lead to the place behind it. -/
theorem Expr.read_lexemes : ∀ (expr : Expr) (enclosing : List (String × List Step)),
    expr.lexemes.foldlM Progress.step ⟨enclosing, .operand⟩ = some ⟨enclosing, .whole expr⟩
  | .literal literal, enclosing => by
    cases literal with
    | bool value => cases value <;> rfl
    | _ => rfl
  | .lookup root path, enclosing => Step.read_lexemesOf path enclosing root []
termination_by structural expr => expr

/-- **The lexemes of a path** lead on along it. -/
theorem Step.read_lexemesOf : ∀ (path : List Step) (enclosing : List (String × List Step))
    (root : String) (before : List Step),
    (Step.lexemesOf path).foldlM Progress.step ⟨enclosing, .whole (.lookup root before)⟩ =
      some ⟨enclosing, .whole (.lookup root (before ++ path))⟩
  | [], enclosing, root, before => by
    rw [List.append_nil]
    rfl
  | .member name :: path, enclosing, root, before => by
    have on := Step.read_lexemesOf path enclosing root (before ++ [.member name])
    rw [List.append_assoc] at on
    exact on
  | .index key :: path, enclosing, root, before => by
    have inside := key.read_lexemes ((root, before) :: enclosing)
    have on := Step.read_lexemesOf path enclosing root (before ++ [.index key])
    rw [List.append_assoc] at on
    have closed : (.closeBracket :: Step.lexemesOf path).foldlM Progress.step
        ⟨(root, before) :: enclosing, .whole key⟩ =
          some ⟨enclosing, .whole (.lookup root (before ++ .index key :: path))⟩ := by
      rw [List.foldlM_cons, Progress.step_closeBracket]
      exact on
    exact foldlM_trans inside closed
termination_by structural path => path

end

/-! ### An output -/

/-- **The lexemes that have been read** of an output. -/
def OutputState.lexemes : OutputState → List Lexeme
  | .subject reading => reading.lexemes
  | .filterName expr filters => pipelineLexemes expr filters ++ [.pipe]
  | .afterName expr filters name => pipelineLexemes expr (filters ++ [⟨name, []⟩])
  | .argument expr filters name arguments reading =>
    pipelineLexemes expr filters ++
      ([.pipe, .name name, .colon] ++ (precedingLexemes arguments ++ reading.lexemes))

/-- **An output may end** after its expression, after the name of a filter and after an argument. -/
theorem OutputState.cases_of_result? {state : OutputState} {expr : Expr} {filters : List FilterCall}
    (h : state.result? = some (expr, filters)) :
    (filters = [] ∧ state = .subject ⟨[], .whole expr⟩) ∨
      (∃ before name, filters = before ++ [⟨name, []⟩] ∧ state = .afterName expr before name) ∨
      ∃ before name arguments last, filters = before ++ [⟨name, arguments ++ [last]⟩] ∧
        state = .argument expr before name arguments ⟨[], .whole last⟩ := by
  unfold result? at h
  split at h
  · obtain ⟨whole, ends, same⟩ := Option.map_eq_some_iff.1 h
    cases same
    exact .inl ⟨rfl, by rw [Progress.eq_of_whole? ends]⟩
  · cases h
  · cases h
    exact .inr (.inl ⟨_, _, rfl, rfl⟩)
  · obtain ⟨last, ends, same⟩ := Option.map_eq_some_iff.1 h
    cases same
    exact .inr (.inr ⟨_, _, _, _, rfl, by rw [Progress.eq_of_whole? ends]⟩)

/-- **An output that may end** has been read as it is written. -/
theorem OutputState.lexemes_of_result? {state : OutputState} {expr : Expr} {filters : List FilterCall}
    (h : state.result? = some (expr, filters)) : state.lexemes = pipelineLexemes expr filters := by
  obtain ⟨rfl, rfl⟩ | ⟨before, name, rfl, rfl⟩ | ⟨before, name, arguments, last, rfl, rfl⟩ :=
    cases_of_result? h
  · exact (List.append_nil _).symm
  · rfl
  · rw [pipelineLexemes_concat, FilterCall.lexemes_concat]
    rfl

/-- **A step within an output** adds its lexeme. -/
theorem OutputState.lexemes_of_step {state next : OutputState} {lexeme : Lexeme}
    (h : state.step lexeme = some next) : next.lexemes = state.lexemes ++ [lexeme] := by
  unfold step at h
  split at h
  · split at h
    · rename_i inside
      cases h
      exact Progress.lexemes_of_step inside
    · rename_i ends _
      cases h
      rw [lexemes, lexemes, Progress.lexemes_of_whole? ends, pipelineLexemes]
      simp
    · cases h
  · split at h
    · cases h
      rw [lexemes, lexemes, pipelineLexemes_concat, List.append_assoc]
      rfl
    · cases h
  · split at h
    · cases h
      rw [lexemes, lexemes, pipelineLexemes_concat, List.append_assoc]
      rfl
    · cases h
      rfl
    · cases h
  · split at h
    · rename_i inside
      cases h
      rw [lexemes, lexemes, Progress.lexemes_of_step inside]
      simp only [List.append_assoc]
    · rename_i ends _
      cases h
      rw [lexemes, lexemes, Progress.lexemes_of_whole? ends]
      simp [precedingLexemes, Progress.lexemes, Progress.start, enclosingLexemes, Point.lexemes]
    · rename_i ends _
      cases h
      rw [lexemes, lexemes, Progress.lexemes_of_whole? ends, pipelineLexemes_concat,
        FilterCall.lexemes_concat]
    · cases h

/-- A bar after an output that may end starts the next filter. -/
theorem OutputState.step_pipe {state : OutputState} {expr : Expr} {filters : List FilterCall}
    (h : state.result? = some (expr, filters)) : state.step .pipe = some (.filterName expr filters) := by
  obtain ⟨rfl, rfl⟩ | ⟨before, name, rfl, rfl⟩ | ⟨before, name, arguments, last, rfl, rfl⟩ :=
    cases_of_result? h
  · cases expr with
    | literal literal => rfl
    | lookup root path => rfl
  · rfl
  · cases last with
    | literal literal => rfl
    | lookup root path => rfl

/-- A comma after a whole argument starts the next one. -/
theorem OutputState.step_comma (expr : Expr) (filters : List FilterCall) (name : String)
    (arguments : List Expr) (last : Expr) :
    step (.argument expr filters name arguments ⟨[], .whole last⟩) .comma =
      some (.argument expr filters name (arguments ++ [last]) .start) := by
  cases last with
  | literal literal => rfl
  | lookup root path => rfl

/-- **The lexemes of an argument** lead behind it. -/
theorem OutputState.read_argument (expr : Expr) (filters : List FilterCall) (name : String)
    (arguments : List Expr) (last : Expr) :
    last.lexemes.foldlM step (.argument expr filters name arguments .start) =
      some (.argument expr filters name arguments ⟨[], .whole last⟩) := by
  refine foldlM_embed (fun reading lexeme next inside => ?_) (last.read_lexemes [])
  simp only [step, inside]

/-- **The lexemes of arguments** lead behind the last of them. -/
theorem OutputState.read_arguments (expr : Expr) (filters : List FilterCall) (name : String)
    (done arguments : List Expr) (last : Expr) :
    (precedingLexemes arguments ++ last.lexemes).foldlM step
        (.argument expr filters name done .start) =
      some (.argument expr filters name (done ++ arguments) ⟨[], .whole last⟩) := by
  induction arguments generalizing done with
  | nil =>
    rw [List.append_nil]
    exact read_argument expr filters name done last
  | cons first arguments ih =>
    have on := ih (done ++ [first])
    rw [List.append_assoc] at on
    have next : (.comma :: (precedingLexemes arguments ++ last.lexemes)).foldlM step
        (.argument expr filters name done ⟨[], .whole first⟩) =
          some (.argument expr filters name (done ++ first :: arguments) ⟨[], .whole last⟩) := by
      rw [List.foldlM_cons, step_comma]
      exact on
    rw [precedingLexemes, List.flatMap_cons, List.append_assoc, List.append_assoc]
    exact foldlM_trans (read_argument expr filters name done first) next

/-- **The lexemes of a filter** lead from an output that may end to one that may end after it. -/
theorem FilterCall.read_lexemes {state : OutputState} {expr : Expr} {filters : List FilterCall}
    (h : state.result? = some (expr, filters)) (filter : FilterCall) :
    ∃ next, filter.lexemes.foldlM OutputState.step state = some next ∧
      next.result? = some (expr, filters ++ [filter]) := by
  obtain ⟨name, arguments⟩ := filter
  rcases List.eq_nil_or_concat' arguments with rfl | ⟨arguments, last, rfl⟩
  · refine ⟨.afterName expr filters name, ?_, rfl⟩
    rw [lexemes, List.foldlM_cons, OutputState.step_pipe h]
    rfl
  · refine ⟨.argument expr filters name arguments ⟨[], .whole last⟩, ?_, rfl⟩
    rw [lexemes_concat, List.cons_append, List.foldlM_cons, OutputState.step_pipe h]
    exact OutputState.read_arguments expr filters name [] arguments last

/-- **The lexemes of filters** lead on over one filter after the other. -/
theorem OutputState.read_filters {state : OutputState} {expr : Expr} {before : List FilterCall}
    (h : state.result? = some (expr, before)) (filters : List FilterCall) :
    ∃ next, (filters.flatMap FilterCall.lexemes).foldlM step state = some next ∧
      next.result? = some (expr, before ++ filters) := by
  induction filters generalizing state before with
  | nil => exact ⟨state, rfl, by rw [List.append_nil, h]⟩
  | cons filter filters ih =>
    obtain ⟨between, first, ends⟩ := filter.read_lexemes h
    obtain ⟨next, rest, ends⟩ := ih ends
    rw [List.append_assoc] at ends
    exact ⟨next, foldlM_trans first rest, ends⟩

/-- **The machine that reads an output** accepts the lexemes of an expression and its filters,
with these as the result, and nothing else. -/
theorem outputMachine_accepts_iff {lexemes : List Lexeme} {expr : Expr} {filters : List FilterCall} :
    outputMachine.Accepts lexemes (expr, filters) ↔ lexemes = pipelineLexemes expr filters := by
  constructor
  · rintro ⟨last, steps, ends⟩
    have read := lexemes_of_foldlM (fun _ _ _ => OutputState.lexemes_of_step) steps
    rw [OutputState.lexemes_of_result? ends] at read
    exact read.symm
  · rintro rfl
    have subject : expr.lexemes.foldlM OutputState.step (.subject .start) =
        some (.subject ⟨[], .whole expr⟩) := by
      refine foldlM_embed (fun reading lexeme next inside => ?_) (expr.read_lexemes [])
      simp only [OutputState.step, inside]
    have ends : OutputState.result? (.subject ⟨[], .whole expr⟩) = some (expr, []) := rfl
    obtain ⟨last, steps, ends⟩ := OutputState.read_filters ends filters
    exact ⟨last, foldlM_trans subject steps, ends⟩

/-- **What an output's markup says:** reading it succeeds with an expression and filters exactly
if its lexemes are theirs. Blank markup says `nil`. -/
theorem readOutput_eq_ok_iff (markup : String) (offset : Nat) (expr : Expr)
    (filters : List FilterCall) :
    readOutput markup offset = .ok (expr, filters) ↔
      if markup.toList.all Text.isBlank then expr = .literal .nil ∧ filters = []
      else ∃ placed, lex markup = .ok placed ∧
        placed.map (·.lexeme) = pipelineLexemes expr filters := by
  unfold readOutput
  split
  · rw [Except.ok.injEq, Prod.mk.injEq, eq_comm, @eq_comm _ [] filters]
  · simp only [Machine.read_eq_ok_iff, outputMachine_accepts_iff]

end Markup
end MailMerge
