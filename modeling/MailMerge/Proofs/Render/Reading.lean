/-
# What rendering reads

Evaluation reads an environment only through its filters and the values of the names
that stand in what is evaluated. An environment of one recipient goes with the shared
one: both have the same filters and settings, and give the same value to every name
that is not personal.

Rendering a template whose tags have no actions of their own leaves an environment as
it was, apart from signals to stop and contained faults.
-/

import MailMerge.Proofs.Render.Containment

namespace MailMerge
namespace Render

open Markup (Expr Step FilterCall Comparison Condition Joined)
open MailMerge.Tree (Node Output actionsIn)

/-! ### Environments that agree -/

/-- **Environments that give names the same values.** -/
def SameValues (names : List String) (first second : Env) : Prop :=
  ∀ name ∈ names, second.get name = first.get name

theorem SameValues.subset {names others : List String} {first second : Env}
    (h : SameValues names first second) (sub : others ⊆ names) : SameValues others first second :=
  fun name mem => h name (sub mem)

/-- **Environments that agree on names:** they have the same filters and give the names
the same values. -/
structure AgreesOn (names : List String) (first second : Env) : Prop where
  filters : second.filters = first.filters
  get : SameValues names first second

theorem AgreesOn.subset {names others : List String} {first second : Env}
    (h : AgreesOn names first second) (sub : others ⊆ names) : AgreesOn others first second :=
  ⟨h.filters, h.get.subset sub⟩

mutual

/-- **The value of an expression** depends on the values of the names in it. -/
theorem evalExpr_agree (expr : Expr) {first second : Env} (h : SameValues expr.names first second) :
    evalExpr second expr = evalExpr first expr := by
  match expr with
  | .literal _ => rfl
  | .lookup root path =>
    have root_same : second.get root = first.get root := h root List.mem_cons_self
    have path_names : SameValues (Step.namesOf path) first second :=
      h.subset (List.subset_cons_self root _)
    rw [evalExpr, evalExpr, root_same, followPath_agree path _ path_names]
termination_by structural expr

/-- The value that a path leads to depends on the values of the names in its indices. -/
theorem followPath_agree (path : List Step) (value : Value) {first second : Env}
    (h : SameValues (Step.namesOf path) first second) :
    followPath second value path = followPath first value path := by
  match path with
  | [] => rfl
  | .member name :: path => exact followPath_agree path _ h
  | .index key :: path =>
    rw [followPath, followPath, evalExpr_agree key (h.subset (List.subset_append_left ..)),
      followPath_agree path _ (h.subset (List.subset_append_right ..))]
termination_by structural path

end

theorem applyFilters_agree (calls : List FilterCall) (value : Value) {first second : Env}
    (h : AgreesOn (calls.flatMap fun call => call.arguments.flatMap Expr.names) first second) :
    applyFilters second value calls = applyFilters first value calls := by
  induction calls generalizing value with
  | nil => rfl
  | cons call rest ih =>
    have arguments : call.arguments.map (evalExpr second) = call.arguments.map (evalExpr first) := by
      refine List.map_congr_left fun argument mem => evalExpr_agree argument (h.get.subset ?_)
      exact fun name found =>
        List.mem_append_left _ (List.mem_flatMap.2 ⟨argument, mem, found⟩)
    have others := fun next => ih next (h.subset (List.subset_append_right ..))
    simp only [applyFilters, arguments, h.filters, others]

/-- **The value of an output** after its filters depends on the names it reads. -/
theorem evalPipeline_agree (expr : Expr) (calls : List FilterCall) {first second : Env}
    (h : AgreesOn (Markup.namesOfPipeline expr calls) first second) :
    evalPipeline second expr calls = evalPipeline first expr calls := by
  have value := evalExpr_agree expr (h.get.subset (List.subset_append_left ..))
  have filtered := applyFilters_agree calls (evalExpr first expr)
    (h.subset (List.subset_append_right ..))
  rw [evalPipeline, evalPipeline, value, filtered]

/-- **The text of an output** depends on the names it reads. -/
theorem renderOutput_agree (output : Output) {first second : Env}
    (h : AgreesOn output.names first second) : renderOutput second output = renderOutput first output :=
  congrArg (Except.map Value.output) (evalPipeline_agree output.expr output.filters h)

theorem evalComparison_agree (comparison : Comparison) {first second : Env}
    (h : SameValues comparison.names first second) :
    evalComparison second comparison = evalComparison first comparison := by
  obtain ⟨left, right⟩ := comparison
  have left_same := evalExpr_agree left (h.subset (List.subset_append_left ..))
  cases right with
  | none => simp only [evalComparison, left_same]
  | some pair =>
    have right_same := evalExpr_agree pair.2 (h.subset (List.subset_append_right ..))
    simp only [evalComparison, left_same, right_same]

/-- **The truth of a tree** depends on the values of the names it reads. -/
theorem evalJoined_agree (tree : Joined) {first second : Env} (h : SameValues tree.names first second) :
    evalJoined second tree = evalJoined first tree := by
  induction tree with
  | compare comparison => exact evalComparison_agree comparison h
  | join left joint right ihLeft ihRight =>
    have before := ihLeft (h.subset (List.subset_append_left ..))
    have behind := ihRight (h.subset (List.subset_append_right ..))
    cases joint <;> simp only [evalJoined, before, behind]

/-- **The truth of a condition** is that of its tree, which reads the same names. -/
theorem evalCondition_agree (condition : Condition) {first second : Env}
    (h : SameValues condition.names first second) :
    evalCondition second condition = evalCondition first condition := by
  rw [← evalJoined_joined, ← evalJoined_joined]
  exact evalJoined_agree condition.joined (condition.names_joined ▸ h)

/-- **The listed names are all that is read.** Environments with the same filters and the same
values of the names of an output give it the same value or fault, and the same text. For a
condition no filters matter: the same values of its names give the same truth or fault. That
holds of every tree of comparisons, whichever way its joints are grouped. -/
theorem reads_only_names :
    (∀ (output : Output) (first second : Env), second.filters = first.filters →
      (∀ name ∈ output.names, second.get name = first.get name) →
        evalPipeline second output.expr output.filters =
            evalPipeline first output.expr output.filters ∧
          renderOutput second output = renderOutput first output) ∧
      (∀ (condition : Condition) (first second : Env),
        (∀ name ∈ condition.names, second.get name = first.get name) →
          evalCondition second condition = evalCondition first condition) ∧
      ∀ (tree : Joined) (first second : Env),
        (∀ name ∈ tree.names, second.get name = first.get name) →
          evalJoined second tree = evalJoined first tree := by
  refine ⟨fun output first second filters values => ?_,
    fun condition first second values => evalCondition_agree condition values,
    fun tree first second values => evalJoined_agree tree values⟩
  have agree : AgreesOn output.names first second := ⟨filters, values⟩
  exact ⟨evalPipeline_agree output.expr output.filters agree, renderOutput_agree output agree⟩

/-- An index inside an index in the argument of a filter, a condition that fails at its second
comparison, and a tree in which this condition stands to the left of another joint. A name that is
not read has another value. -/
theorem reads_only_names_index :
    let entry : Expr := .lookup "m" [.index (.lookup "l" [.index (.lookup "i" [])])]
    let output : Output := ⟨0, "", .lookup "a" [], [⟨"append", [entry]⟩], ⟨0, 0⟩⟩
    let condition : Condition :=
      .join ⟨entry, some (.eq, .lookup "a" [])⟩ .or (.last ⟨.lookup "i" [], some (.lt, entry)⟩)
    let tree : Joined := .join condition.joined .and (.compare ⟨.lookup "a" [], none⟩)
    let first := (Env.ofFilters standardFilters).enter (.ofList [("a", .text "x"), ("i", .int 0),
      ("l", .array [.text "k"]), ("m", .map (.ofList [("k", .text "y")]))])
    let second := first.set "k" (.text "z")
    (∀ name ∈ output.names, second.get name = first.get name) ∧
      (∀ name ∈ condition.names, second.get name = first.get name) ∧
      (∀ name ∈ tree.names, second.get name = first.get name) ∧
      first.get "k" = .nil ∧ second.get "k" = .text "z" ∧
      renderOutput second output = .ok "xy" ∧
      evalCondition second condition = .error (.comparison "0" "\"y\"") ∧
      evalJoined second tree = .error (.comparison "0" "\"y\"") := by
  intro entry output condition tree first second
  have unread : ∀ names : List String, "k" ∉ names → ∀ name ∈ names,
      second.get name = first.get name := by
    intro names absent name mem
    rw [Env.get_set, if_neg]
    rintro rfl
    exact absent mem
  have output_names := unread output.names (by decide)
  have condition_names := unread condition.names (by decide)
  have tree_names := unread tree.names (by decide)
  refine ⟨output_names, condition_names, tree_names, rfl, rfl, ?_, ?_, ?_⟩
  · rw [(reads_only_names.1 output first second rfl output_names).2]
    rfl
  · rw [reads_only_names.2.1 condition first second condition_names]
    rfl
  · rw [reads_only_names.2.2 tree first second tree_names]
    rfl

/-- **An environment of one recipient** goes with an environment of the data all share. -/
structure Shares (shared own : Env) : Prop where
  filters : own.filters = shared.filters
  strict : own.strict = shared.strict
  get : ∀ name, shared.selects [name] = false → own.get name = shared.get name

/-- **The same data:** the same filters, settings and values of all names. -/
structure SameData (first second : Env) : Prop where
  filters : second.filters = first.filters
  strict : second.strict = first.strict
  get : ∀ name, second.get name = first.get name

theorem SameData.agreesOn {first second : Env} (h : SameData first second) (names : List String) :
    AgreesOn names first second := ⟨h.filters, fun name _ => h.get name⟩

theorem SameData.symm {first second : Env} (h : SameData first second) : SameData second first :=
  ⟨h.filters.symm, h.strict.symm, fun name => (h.get name).symm⟩

theorem SameData.trans {first second third : Env} (h : SameData first second)
    (h' : SameData second third) : SameData first third :=
  ⟨h'.filters.trans h.filters, h'.strict.trans h.strict, fun name => (h'.get name).trans (h.get name)⟩

/-- Containing a fault records it and keeps the data. -/
theorem sameData_contain (env : Env) (fault : Fault) : SameData env (env.contain fault).2 := by
  unfold Env.contain
  split <;> exact ⟨rfl, rfl, fun _ => rfl⟩

/-- Containing a fault comes to the same where the data is the same. -/
theorem SameData.contain_fst {first second : Env} (h : SameData first second) (fault : Fault) :
    (second.contain fault).1 = (first.contain fault).1 := by
  unfold Env.contain
  rw [h.strict]
  split <;> rfl

/-- Names none of which is personal have their shared values. -/
theorem Shares.agreesOn {shared own : Env} (h : Shares shared own) {names : List String}
    (unselected : shared.selects names = false) : AgreesOn names shared own := by
  refine ⟨h.filters, fun name mem => h.get name ?_⟩
  unfold Env.selects at unselected ⊢
  cases selector : shared.selector with
  | none => rfl
  | some own =>
    rw [selector] at unselected
    have none := List.any_eq_false.1 unselected name mem
    simpa using none

/-- An empty scope binds nothing. -/
@[simp] theorem get_enter_empty (env : Env) (name : String) : (env.enter ∅).get name = env.get name := rfl

theorem Shares.enter {shared own : Env} (h : Shares shared own) : Shares (shared.enter ∅) own :=
  ⟨h.filters, h.strict, h.get⟩

theorem SameData.enter {first second : Env} (h : SameData first second) :
    SameData (first.enter ∅) second := ⟨h.filters, h.strict, h.get⟩

/-! ### What rendering leaves as it was -/

/-- **An environment without its signals and faults.** -/
def Env.bare (env : Env) : Env := { env with interrupts := [], faults := [] }

theorem get_of_bare {first second : Env} (same : second.bare = first.bare) (name : String) :
    second.get name = first.get name := by
  have bare : second.bare.get name = first.bare.get name := by rw [same]
  exact bare

theorem selects_of_bare {first second : Env} (same : second.bare = first.bare) (names : List String) :
    second.selects names = first.selects names := by
  have bare : second.bare.selects names = first.bare.selects names := by rw [same]
  exact bare

theorem Shares.of_bare {shared own after : Env} (h : Shares shared own)
    (same : after.bare = shared.bare) : Shares after own where
  filters := h.filters.trans (congrArg Env.filters same).symm
  strict := h.strict.trans (congrArg Env.strict same).symm
  get name unselected := by
    rw [get_of_bare same]
    exact h.get name (selects_of_bare same _ ▸ unselected)

theorem SameData.of_bare {first second after : Env} (h : SameData first second)
    (same : after.bare = first.bare) : SameData after second where
  filters := h.filters.trans (congrArg Env.filters same).symm
  strict := h.strict.trans (congrArg Env.strict same).symm
  get name := (h.get name).trans (get_of_bare same name).symm

theorem bare_contained (outcome : Outcome) : outcome.contained.2.bare = outcome.2.bare := by
  obtain ⟨_ | _, env⟩ := outcome
  · simp only [Outcome.contained, Env.contain]
    split <;> rfl
  · rfl

/-- What was as before inside a scope is as before after leaving it. -/
theorem bare_leave {env after : Env} {scope : Scope} (same : after.bare = (env.enter scope).bare) :
    after.leave.bare = env.bare := by
  have outer : after.outer = env.inner :: env.outer := congrArg Env.outer same
  have left : after.leave.bare = after.bare.leave := by
    unfold Env.leave Env.bare
    rw [outer]
  rw [left, same]
  rfl

/-- Without actions of tags, every step of rendering leaves the environment as it was. -/
theorem framing_bare : Framing (fun env after => after.bare = env.bare) fun _ => False where
  refl _ := rfl
  trans first second := second.trans first
  contain env fault := bare_contained (.error fault, env)
  interrupt _ _ := rfl
  leave := bare_leave
  act impossible := impossible.elim

/-- A node whose tags have no actions leaves the environment as it was, apart from signals and faults. -/
theorem bare_renderNode (node : Node) (env : Env) (plain : actionsIn node.items = []) :
    (renderNode env node).2.bare = env.bare :=
  framing_bare.renderNode node env fun _ mem => (List.not_mem_nil (plain ▸ mem)).elim

end Render
end MailMerge
