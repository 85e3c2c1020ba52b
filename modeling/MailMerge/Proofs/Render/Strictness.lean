/-
# Strict rendering

A strict environment hands a fault back, where any other one contains it and goes on. So
rendering strictly takes the same steps as rendering otherwise, up to the first fault. If
none arises, both give the same text and leave the same environment behind. If one does,
strict rendering ends with the fault that the other one records first.

This holds for tags with actions of their own, too, as long as these leave to the walk what
becomes of a fault.
-/

import MailMerge.Extension
import MailMerge.Proofs.Render.Reading

namespace MailMerge
namespace Render

open MailMerge.Tree (Node Branch Document LeafAction itemsOf itemsOfBranches actionsIn)

/-- **The environment made strict,** or made to contain faults. -/
def Env.withStrict (env : Env) (strict : Bool) : Env := { env with strict := strict }

/-- **An action that leaves the sink of faults alone:** what it does is the same whether or not
faults are contained and whatever has been recorded, and it changes neither. -/
def IgnoresSink (action : LeafAction) : Prop :=
  ∀ markup env strict faults,
    action markup { env with strict := strict, faults := faults } =
      ((action markup env).1, { (action markup env).2 with strict := strict, faults := faults })

theorem IgnoresSink.faults {action : LeafAction} (h : IgnoresSink action) (markup : String)
    (env : Env) : (action markup env).2.faults = env.faults := by
  have same := congrArg (·.2.faults) (h markup env env.strict env.faults)
  exact same

theorem IgnoresSink.withStrict {action : LeafAction} (h : IgnoresSink action) (markup : String)
    (env : Env) (strict : Bool) :
    action markup (env.withStrict strict) =
      ((action markup env).1, (action markup env).2.withStrict strict) := by
  refine (h markup env strict env.faults).trans ?_
  rw [← h.faults markup env]
  rfl

theorem withStrict_self {env : Env} {strict : Bool} (h : env.strict = strict) :
    env.withStrict strict = env := by
  subst h
  rfl

theorem interrupted_withStrict (env : Env) (strict : Bool) :
    (env.withStrict strict).interrupted = env.interrupted := rfl

theorem renderOutput_withStrict (env : Env) (strict : Bool) (output : Tree.Output) :
    renderOutput (env.withStrict strict) output = renderOutput env output :=
  renderOutput_agree output ⟨rfl, fun _ _ => rfl⟩

theorem evalCondition_withStrict (env : Env) (strict : Bool) (condition : Markup.Condition) :
    evalCondition (env.withStrict strict) condition = evalCondition env condition :=
  evalCondition_agree condition fun _ _ => rfl

theorem leave_withStrict (env : Env) (strict : Bool) :
    (env.withStrict strict).leave = env.leave.withStrict strict := by
  obtain ⟨inner, outer, registers, interrupts, faults, own, filters, selector⟩ := env
  cases outer <;> rfl

theorem faults_leave (env : Env) : env.leave.faults = env.faults := by
  unfold Env.leave
  split <;> rfl

/-- **Outcomes that agree up to the first fault,** with faults contained and strictly, of a run
that had recorded the faults `before`: no fault has been contained and the outcomes are the
same, or the strict one is the first fault that the other one has contained. -/
inductive UpToFault (before : List Fault) : Outcome → Outcome → Prop
  | same (result : Except Fault String) (after : Env) (faults : after.faults = before) :
    UpToFault before (result, after.withStrict false) (result, after.withStrict true)
  | stopped {fault : Fault} (more : List Fault) (result : Except Fault String) {after stop : Env}
    (faults : after.faults = before ++ fault :: more) (lenient : after.strict = false)
    (strict : stop.strict = true) : UpToFault before (result, after) (.error fault, stop)

namespace UpToFault

variable {before : List Fault} {lenient strict : Outcome}

/-- Faults are contained from the first to the last step, and those recorded are kept. -/
theorem recorded (h : UpToFault before lenient strict) :
    lenient.2.strict = false ∧ ∃ more, lenient.2.faults = before ++ more := by
  cases h with
  | same result after faults => exact ⟨rfl, [], by rw [List.append_nil]; exact faults⟩
  | stopped more result faults lenient strict => exact ⟨lenient, _, faults⟩

/-- **Containing a fault** is where the outcomes part. -/
theorem contained (h : UpToFault before lenient strict) :
    UpToFault before lenient.contained strict.contained := by
  cases h with
  | same result after faults =>
    cases result with
    | ok text => exact .same (.ok text) after faults
    | error fault =>
      refine .stopped [] (.ok _) ?_ rfl rfl
      show after.faults ++ [fault] = before ++ [fault]
      rw [faults]
  | @stopped fault more result after stop faults lenient strict =>
    have handed : Outcome.contained (.error fault, stop) = (.error fault, stop) := by
      simp [Outcome.contained, Env.contain, strict]
    rw [handed]
    cases result with
    | ok text => exact .stopped more (.ok text) faults lenient strict
    | error other =>
      simp only [Outcome.contained, Env.contain, lenient]
      refine .stopped (more ++ [other]) (.ok _) ?_ rfl strict
      show after.faults ++ [other] = _
      rw [faults, List.append_assoc, List.cons_append]

theorem after (h : UpToFault before lenient strict) (text : String) :
    UpToFault before (lenient.after text) (strict.after text) := by
  cases h with
  | same result after faults => cases result <;> exact .same _ after faults
  | stopped more result faults lenient strict =>
    cases result <;> exact .stopped more _ faults lenient strict

theorem leave (h : UpToFault before lenient strict) :
    UpToFault before (lenient.1, lenient.2.leave) (strict.1, strict.2.leave) := by
  cases h with
  | same result after faults =>
    simp only [leave_withStrict]
    exact .same result after.leave ((faults_leave after).trans faults)
  | @stopped fault more result after stop faults lenient strict =>
    exact .stopped more result ((faults_leave after).trans faults)
      ((sameSettings_leave after).strict.trans lenient)
      ((sameSettings_leave stop).strict.trans strict)

end UpToFault

mutual

/-- A node is rendered alike up to the first fault. -/
theorem upToFault_renderNode (node : Node) (env : Env)
    (ignore : ∀ action ∈ actionsIn node.items, IgnoresSink action) :
    UpToFault env.faults (renderNode (env.withStrict false) node)
      (renderNode (env.withStrict true) node) := by
  match node with
  | .text raw => exact .same (.ok raw) env rfl
  | .output output =>
    simp only [renderNode, renderOutput_withStrict]
    exact .same _ env rfl
  | .tag _ (.interrupt signal) => exact .same (.ok "") (env.interrupt signal) rfl
  | .tag head (.leaf action) =>
    have own : IgnoresSink action := ignore action (by simp [Node.items])
    simp only [renderNode, runTag, own.withStrict]
    exact .same _ _ (own.faults head.markup env)
  | .block _ body => exact upToFault_renderAll body env ignore
  | .conditional _ branches => exact (upToFault_renderBranches branches (env.enter ∅) ignore).leave
termination_by structural node

/-- **Nodes in a row are rendered alike up to the first fault.** -/
theorem upToFault_renderAll (nodes : List Node) (env : Env)
    (ignore : ∀ action ∈ actionsIn (itemsOf nodes), IgnoresSink action) :
    UpToFault env.faults (renderAll (env.withStrict false) nodes)
      (renderAll (env.withStrict true) nodes) := by
  match nodes with
  | [] => exact .same (.ok "") env rfl
  | node :: nodes =>
    simp only [itemsOf, Tree.actionsIn_append, List.mem_append] at ignore
    have rest := fun env => upToFault_renderAll nodes env fun action h => ignore action (.inr h)
    cases signal : node.signal? with
    | some raised =>
      rw [renderAll_signal signal, renderAll_signal signal, interrupted_withStrict, interrupted_withStrict]
      split
      · exact .same (.ok "") env rfl
      · exact .same (.ok "") (env.interrupt raised) rfl
    | none =>
      rw [renderAll_cons signal, renderAll_cons signal, interrupted_withStrict, interrupted_withStrict]
      split
      · exact .same (.ok "") env rfl
      · have first := (upToFault_renderNode node env fun action h => ignore action (.inl h)).contained
        generalize (renderNode (env.withStrict false) node).contained = lenient at first ⊢
        generalize (renderNode (env.withStrict true) node).contained = strict at first ⊢
        cases first with
        | same result after faults =>
          cases result with
          | ok text => exact faults ▸ (rest after).after text
          | error fault => exact .same (.error fault) after faults
        | @stopped fault more result after stop faults lenient strict =>
          cases result with
          | error other => exact .stopped more (.error other) faults lenient strict
          | ok text =>
            -- Only the rendering that contains faults goes on, and it keeps those it has recorded.
            obtain ⟨lenient', further, faults'⟩ := ((rest after).after text).recorded
            rw [withStrict_self lenient] at lenient' faults'
            refine .stopped (more ++ further) _ (faults'.trans ?_) lenient' strict
            rw [faults, List.append_assoc, List.cons_append]
termination_by structural nodes

/-- Branches are rendered alike up to the first fault. -/
theorem upToFault_renderBranches (branches : List (Branch Node)) (env : Env)
    (ignore : ∀ action ∈ actionsIn (itemsOfBranches branches), IgnoresSink action) :
    UpToFault env.faults (renderBranches (env.withStrict false) branches)
      (renderBranches (env.withStrict true) branches) := by
  match branches with
  | [] => exact .same (.ok "") env rfl
  | ⟨_, predicate, body⟩ :: branches =>
    simp only [itemsOfBranches, Tree.actionsIn_branch, Tree.actionsIn_append, List.mem_append] at ignore
    have own := upToFault_renderAll body env fun action h => ignore action (.inl h)
    have others := upToFault_renderBranches branches env fun action h => ignore action (.inr h)
    cases predicate with
    | none => exact own
    | some condition =>
      simp only [renderBranches, evalCondition_withStrict]
      cases evalCondition env condition with
      | error fault => exact .same (.error fault) env rfl
      | ok holds => cases holds <;> assumption
termination_by structural branches

end

/-- **Agreement up to the first fault.** Rendering that contains faults gives `text` and leaves
`after` behind. Strict rendering gives the same text and leaves the same environment behind if
no fault has been recorded there, and otherwise hands back the one that was recorded first. -/
structure AgreesUpToFault (document : Document) (env : Env) (text : String) (after : Env) : Prop where
  lenient : renderAll (env.withStrict false) document.nodes = (.ok text, after)
  ok : ∀ other, (renderAll (env.withStrict true) document.nodes).1 = .ok other ↔
    after.faults = [] ∧ other = text
  sameEnv : after.faults = [] →
    (renderAll (env.withStrict true) document.nodes).2 = after.withStrict true
  fault : ∀ fault, (renderAll (env.withStrict true) document.nodes).1 = .error fault ↔
    after.faults.head? = some fault

/-- **Rendering that contains faults always gives a text,** and strict rendering agrees with it up
to the first fault. -/
theorem renderAll_upToFault (document : Document) (env : Env)
    (ignore : ∀ action ∈ document.actions, IgnoresSink action) (fresh : env.faults = []) :
    ∃ text after, AgreesUpToFault document env text after := by
  have outcomes := upToFault_renderAll document.nodes env ignore
  rw [fresh] at outcomes
  obtain ⟨text, after, lenient⟩ : ∃ text after,
      renderAll (env.withStrict false) document.nodes = (.ok text, after) := by
    cases run : renderAll (env.withStrict false) document.nodes with
    | mk result after =>
      cases result with
      | ok text => exact ⟨text, after, rfl⟩
      | error fault =>
        have calm := outcomes.recorded.1
        rw [run, strict_of_renderAll_error run] at calm
        cases calm
  rw [lenient] at outcomes
  refine ⟨text, after, lenient, ?_, ?_, ?_⟩ <;>
    generalize renderAll (env.withStrict true) document.nodes = strict at outcomes
  · intro other
    cases outcomes with
    | same result after faults =>
      have none : (after.withStrict false).faults = [] := faults
      simp only [none, true_and, Except.ok.injEq]
      exact eq_comm
    | stopped more result faults => simp [faults]
  · intro none
    cases outcomes with
    | same result after faults => rfl
    | stopped more result faults => simp [faults] at none
  · intro fault
    cases outcomes with
    | same result after faults =>
      have none : (after.withStrict false).faults = [] := faults
      simp [none]
    | stopped more result faults => simp [faults]

/-- A tag that binds a name, a filter nobody knows in the branch that this name chooses, and a
tag that fails after it: both faults are recorded, and the first ends strict rendering. -/
theorem renderAll_upToFault_filter :
    let head : Source.TagHead := ⟨"assign", "x 1", 10, ⟨0, 16⟩⟩
    let late : Source.TagHead := ⟨"fail", "late", 70, ⟨60, 76⟩⟩
    let x : Markup.Expr := .lookup "x" []
    let document : Document := ⟨[
      .tag head (.leaf Extension.assign),
      .conditional head [
        ⟨0, some (.last ⟨x, none⟩), [.text "[", .output ⟨1, "x | nope", x, [⟨"nope", []⟩], ⟨30, 44⟩⟩]⟩,
        ⟨2, none, [.text "no"]⟩],
      .tag late (.leaf Extension.fail)]⟩
    let env : Env := Env.ofFilters standardFilters
    (∀ action ∈ document.actions, IgnoresSink action) ∧ env.faults = [] ∧
      (renderAll (env.withStrict false) document.nodes).2.faults =
        [.undefinedFilter "nope", .custom "late"] ∧
      ∃ text after, AgreesUpToFault document env text after := by
  intro head late x document env
  have ignore : ∀ action ∈ document.actions, IgnoresSink action := by
    intro action mem
    rcases List.mem_cons.1 mem with rfl | mem
    · exact fun _ _ _ _ => rfl
    · obtain rfl := List.mem_singleton.1 mem
      exact fun _ _ _ _ => rfl
  exact ⟨ignore, rfl, by decide, renderAll_upToFault document env ignore rfl⟩

end Render
end MailMerge
