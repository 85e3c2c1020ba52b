/-
# What a condition's markup says

A condition is written as comparisons with a joint between each and the next. As a tree, many
conditions have these lexemes, since the joints can be grouped in any way. The markup of a
condition is read into the one whose joints lean to the right, that is, where a single comparison
stands to the left of every joint (`readCondition_eq_ok_iff`). No comparison is dropped, none is
doubled, and each is paired with the joint that is written behind it.

| part | lexemes |
| --- | --- |
| comparison | its left side, then, if it compares, the operator and its right side |
| condition | what stands to the left of the joint, the joint, what stands to its right |

The comparisons that are complete are kept with their joints until the last one is known. A state
of the machine stands for the lexemes of these and of the comparison that is being read
(`ConditionState.lexemes_of_step`). The other way round, a comparison leads from the place where
it is expected to a place where the condition may end or a joint may follow
(`Comparison.read_lexemes`), and a condition is a run of comparisons.
-/

import MailMerge.Proofs.Markup.Language

namespace MailMerge
namespace Markup

/-! ### Lexemes of comparisons and conditions -/

/-- The lexeme of an operator. -/
def Operator.lexeme : Operator → Lexeme
  | .eq => .eq
  | .ne => .ne
  | .lt => .lt
  | .gt => .gt
  | .le => .le
  | .ge => .ge
  | .contains => .contains

/-- The lexeme of a joint. -/
def Joint.lexeme : Joint → Lexeme
  | .and => .and
  | .or => .or

/-- **The lexemes of a comparison.** -/
def Comparison.lexemes (comparison : Comparison) : List Lexeme :=
  comparison.left.lexemes ++ match comparison.right with
    | none => []
    | some (operator, right) => operator.lexeme :: right.lexemes

/-- The lexemes of a condition. -/
def Condition.lexemes : Condition → List Lexeme
  | .last comparison => comparison.lexemes
  | .join comparison joint rest => comparison.lexemes ++ joint.lexeme :: rest.lexemes

/-- The lexemes of comparisons, each with its joint behind it. -/
def chainLexemes (done : List (Comparison × Joint)) : List Lexeme :=
  done.flatMap fun entry => entry.1.lexemes ++ [entry.2.lexeme]

theorem operator?_eq_some_iff {lexeme : Lexeme} {operator : Operator} :
    lexeme.operator? = some operator ↔ lexeme = operator.lexeme := by
  constructor
  · intro h
    unfold Lexeme.operator? at h
    split at h <;> cases h <;> rfl
  · rintro rfl
    cases operator <;> rfl

theorem joint?_eq_some_iff {lexeme : Lexeme} {joint : Joint} :
    lexeme.joint? = some joint ↔ lexeme = joint.lexeme := by
  constructor
  · intro h
    unfold Lexeme.joint? at h
    split at h <;> cases h <;> rfl
  · rintro rfl
    cases joint <;> rfl

theorem chainLexemes_concat (done : List (Comparison × Joint)) (comparison : Comparison)
    (joint : Joint) :
    chainLexemes (done ++ [(comparison, joint)]) =
      chainLexemes done ++ (comparison.lexemes ++ [joint.lexeme]) := by
  rw [chainLexemes, List.flatMap_append, List.flatMap_singleton]
  rfl

/-- The comparisons of a chain are all there, with the last one at the end. -/
theorem Condition.lexemes_ofChain (done : List (Comparison × Joint)) (last : Comparison) :
    (ofChain done last).lexemes = chainLexemes done ++ last.lexemes := by
  induction done with
  | nil => rfl
  | cons entry done ih =>
    have unfolded : ofChain (entry :: done) last = .join entry.1 entry.2 (ofChain done last) := rfl
    have split : chainLexemes (entry :: done) =
        entry.1.lexemes ++ [entry.2.lexeme] ++ chainLexemes done := List.flatMap_cons
    rw [unfolded, lexemes, ih, split, List.append_assoc, List.append_assoc]
    rfl

/-! ### Reading a condition -/

/-- **The lexemes that have been read** of a condition. -/
def ConditionState.lexemes : ConditionState → List Lexeme
  | .left done reading => chainLexemes done ++ reading.lexemes
  | .right done first operator reading =>
    chainLexemes done ++ (first.lexemes ++ operator.lexeme :: reading.lexemes)

/-- Nothing has been read where an expression is expected. -/
theorem Progress.lexemes_start : Progress.start.lexemes = [] := rfl

/-- **A step within a condition** adds its lexeme. -/
theorem ConditionState.lexemes_of_step {state next : ConditionState} {lexeme : Lexeme}
    (h : state.step lexeme = some next) : next.lexemes = state.lexemes ++ [lexeme] := by
  unfold step at h
  split at h
  · split at h
    · rename_i inside
      cases h
      rw [lexemes, lexemes, Progress.lexemes_of_step inside, List.append_assoc]
    · rename_i ends compares
      cases h
      rw [lexemes, lexemes, Progress.lexemes_of_whole? ends, Progress.lexemes_start,
        operator?_eq_some_iff.1 compares, List.append_assoc]
    · rename_i ends _ joins
      cases h
      rw [lexemes, lexemes, Progress.lexemes_of_whole? ends, Progress.lexemes_start,
        chainLexemes_concat, joint?_eq_some_iff.1 joins]
      simp [Comparison.lexemes]
    · cases h
  · split at h
    · rename_i inside
      cases h
      rw [lexemes, lexemes, Progress.lexemes_of_step inside]
      simp only [List.append_assoc, List.cons_append]
    · rename_i ends joins
      cases h
      rw [lexemes, lexemes, Progress.lexemes_of_whole? ends, Progress.lexemes_start,
        chainLexemes_concat, joint?_eq_some_iff.1 joins]
      simp [Comparison.lexemes]
    · cases h

/-- **A condition that may end** has been read as it is written. -/
theorem ConditionState.lexemes_of_result? {state : ConditionState} {condition : Condition}
    (h : state.result? = some condition) : state.lexemes = condition.lexemes := by
  unfold result? at h
  split at h
  · obtain ⟨expr, ends, rfl⟩ := Option.map_eq_some_iff.1 h
    rw [Condition.lexemes_ofChain, lexemes, Progress.lexemes_of_whole? ends, Comparison.lexemes,
      List.append_nil]
  · obtain ⟨second, ends, rfl⟩ := Option.map_eq_some_iff.1 h
    rw [Condition.lexemes_ofChain, lexemes, Progress.lexemes_of_whole? ends, Comparison.lexemes]

/-- Neither an operator nor a joint goes on with a whole expression. -/
theorem Progress.step_operator (expr : Expr) (operator : Operator) :
    step ⟨[], .whole expr⟩ operator.lexeme = none := by
  cases expr <;> cases operator <;> rfl

theorem Progress.step_joint (expr : Expr) (joint : Joint) :
    step ⟨[], .whole expr⟩ joint.lexeme = none := by
  cases expr <;> cases joint <;> rfl

/-- **The lexemes of a comparison** lead behind it: there the condition may end, and a joint puts
the comparison to those that are complete. -/
theorem Comparison.read_lexemes (comparison : Comparison) (done : List (Comparison × Joint)) :
    ∃ next, comparison.lexemes.foldlM ConditionState.step (.left done .start) = some next ∧
      next.result? = some (.ofChain done comparison) ∧
      ∀ joint : Joint, next.step joint.lexeme = some (.left (done ++ [(comparison, joint)]) .start) := by
  obtain ⟨left, right⟩ := comparison
  have first : left.lexemes.foldlM ConditionState.step (.left done .start) =
      some (.left done ⟨[], .whole left⟩) := by
    refine foldlM_embed (fun reading lexeme next inside => ?_) (left.read_lexemes [])
    simp only [ConditionState.step, inside]
  rcases right with _ | ⟨operator, right⟩
  · refine ⟨.left done ⟨[], .whole left⟩, ?_, rfl, fun joint => ?_⟩
    · rw [lexemes, List.append_nil]
      exact first
    · rw [ConditionState.step, Progress.step_joint]
      cases joint <;> rfl
  · have second : right.lexemes.foldlM ConditionState.step (.right done left operator .start) =
        some (.right done left operator ⟨[], .whole right⟩) := by
      refine foldlM_embed (fun reading lexeme next inside => ?_) (right.read_lexemes [])
      simp only [ConditionState.step, inside]
    have compares : ConditionState.step (.left done ⟨[], .whole left⟩) operator.lexeme =
        some (.right done left operator .start) := by
      rw [ConditionState.step, Progress.step_operator]
      cases operator <;> rfl
    refine ⟨.right done left operator ⟨[], .whole right⟩, foldlM_trans first ?_, rfl, fun joint => ?_⟩
    · rw [List.foldlM_cons, compares]
      exact second
    · rw [ConditionState.step, Progress.step_joint]
      cases joint <;> rfl

/-- **The lexemes of a condition** lead from the comparisons before it to an end at which the
condition stands behind them. -/
theorem Condition.read_lexemes (condition : Condition) (done : List (Comparison × Joint)) :
    ∃ next, condition.lexemes.foldlM ConditionState.step (.left done .start) = some next ∧
      next.result? = some (done.foldr (fun entry rest => .join entry.1 entry.2 rest) condition) := by
  induction condition generalizing done with
  | last comparison =>
    obtain ⟨next, steps, ends, _⟩ := comparison.read_lexemes done
    exact ⟨next, steps, ends⟩
  | join comparison joint rest ih =>
    obtain ⟨between, steps, _, joins⟩ := comparison.read_lexemes done
    obtain ⟨next, on, ends⟩ := ih (done ++ [(comparison, joint)])
    rw [List.foldr_append] at ends
    refine ⟨next, foldlM_trans steps ?_, ends⟩
    rw [List.foldlM_cons, joins]
    exact on

/-- **The machine that reads a condition** accepts the lexemes of a condition, with it as the
result, and nothing else. -/
theorem conditionMachine_accepts_iff {lexemes : List Lexeme} {condition : Condition} :
    conditionMachine.Accepts lexemes condition ↔ lexemes = condition.lexemes := by
  constructor
  · rintro ⟨last, steps, ends⟩
    have read := lexemes_of_foldlM (fun _ _ _ => ConditionState.lexemes_of_step) steps
    rw [ConditionState.lexemes_of_result? ends] at read
    exact read.symm
  · rintro rfl
    obtain ⟨last, steps, ends⟩ := condition.read_lexemes []
    exact ⟨last, steps, ends⟩

/-! ### Conditions as trees -/

/-- **The lexemes of a tree:** its comparisons from left to right with the joints between them. -/
def Joined.lexemes : Joined → List Lexeme
  | .compare comparison => comparison.lexemes
  | .join left joint right => left.lexemes ++ joint.lexeme :: right.lexemes

/-- **A tree that leans to the right:** a single comparison stands to the left of every joint. -/
def Joined.LeansRight : Joined → Prop
  | .compare _ => True
  | .join left _ right => (∃ comparison, left = .compare comparison) ∧ right.LeansRight

/-- **A tree that is written as a markup:** the lexemes of the markup are those of the tree. -/
def Joined.WrittenAs (markup : String) (tree : Joined) : Prop :=
  ∃ placed, lex markup = .ok placed ∧ placed.map (·.lexeme) = tree.lexemes

theorem Condition.lexemes_joined (condition : Condition) :
    condition.joined.lexemes = condition.lexemes := by
  induction condition with
  | last comparison => rfl
  | join comparison joint rest ih => rw [joined, Joined.lexemes, ih, Joined.lexemes, lexemes]

/-- **The trees of conditions** are those that lean to the right. -/
theorem Joined.leansRight_iff {tree : Joined} :
    tree.LeansRight ↔ ∃ condition : Condition, condition.joined = tree := by
  constructor
  · intro leans
    induction tree with
    | compare comparison => exact ⟨.last comparison, rfl⟩
    | join left joint right _ ih =>
      obtain ⟨⟨comparison, rfl⟩, leans⟩ := leans
      obtain ⟨rest, rfl⟩ := ih leans
      exact ⟨.join comparison joint rest, rfl⟩
  · rintro ⟨condition, rfl⟩
    induction condition with
    | last comparison => trivial
    | join comparison joint rest ih => exact ⟨⟨comparison, rfl⟩, ih⟩

/-- **A condition is known by its tree.** -/
theorem Condition.joined_injective {condition other : Condition}
    (h : condition.joined = other.joined) : condition = other := by
  induction condition generalizing other with
  | last comparison =>
    cases other with
    | last comparison' =>
      cases h
      rfl
    | join comparison' joint' rest' => cases h
  | join comparison joint rest ih =>
    cases other with
    | last comparison' => cases h
    | join comparison' joint' rest' =>
      obtain ⟨same, sameJoint, sameRest⟩ := Joined.join.inj h
      rw [Joined.compare.inj same, sameJoint, ih sameRest]

/-- A condition is read exactly from the markups that its tree is written as. -/
theorem readCondition_ok_iff_writtenAs {markup : String} {offset : Nat} {condition : Condition} :
    readCondition markup offset = .ok condition ↔ condition.joined.WrittenAs markup := by
  have machine : readCondition markup offset = .ok condition ↔
      conditionMachine.read markup offset = .ok condition := by
    unfold readCondition
    cases conditionMachine.read markup offset with
    | error fault => simp
    | ok read => simp
  rw [machine, Machine.read_eq_ok_iff]
  simp only [conditionMachine_accepts_iff, Joined.WrittenAs, Condition.lexemes_joined]

/-- **What a condition's markup says:** reading it comes to a tree exactly if the tree leans to
the right and its lexemes are those of the markup. So a markup is accepted exactly if it has one
such tree, and it has no two. -/
theorem readCondition_eq_ok_iff (markup : String) (offset : Nat) :
    (∀ tree : Joined, (readCondition markup offset).map Condition.joined = .ok tree ↔
      tree.LeansRight ∧ tree.WrittenAs markup) ∧
    ((∃ condition, readCondition markup offset = .ok condition) ↔
      ∃! tree : Joined, tree.LeansRight ∧ tree.WrittenAs markup) := by
  have reads : ∀ tree : Joined, (readCondition markup offset).map Condition.joined = .ok tree ↔
      tree.LeansRight ∧ tree.WrittenAs markup := by
    intro tree
    constructor
    · intro h
      cases read : readCondition markup offset with
      | error fault =>
        rw [read] at h
        cases h
      | ok condition =>
        rw [read] at h
        obtain rfl := Except.ok.inj h
        exact ⟨Joined.leansRight_iff.2 ⟨condition, rfl⟩, readCondition_ok_iff_writtenAs.1 read⟩
    · rintro ⟨leans, written⟩
      obtain ⟨condition, rfl⟩ := Joined.leansRight_iff.1 leans
      rw [readCondition_ok_iff_writtenAs.2 written]
      rfl
  refine ⟨reads, ?_, ?_⟩
  · rintro ⟨condition, read⟩
    have comes : ∀ tree : Joined, tree.LeansRight ∧ tree.WrittenAs markup ↔ condition.joined = tree := by
      intro tree
      rw [← reads, read]
      exact ⟨Except.ok.inj, congrArg Except.ok⟩
    exact ⟨condition.joined, (comes _).2 rfl, fun tree h => ((comes tree).1 h).symm⟩
  · rintro ⟨tree, ⟨leans, written⟩, _⟩
    obtain ⟨condition, rfl⟩ := Joined.leansRight_iff.1 leans
    exact ⟨condition, readCondition_ok_iff_writtenAs.2 written⟩

end Markup
end MailMerge
