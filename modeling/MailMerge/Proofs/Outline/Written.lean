/-
# What is written while an outline is drawn up

The texts of a template and the values of its outputs that read no personal name are
written into the outline. Drawing up fails only if one of them holds the opening mark of
keys, or if a fault is not to be contained. A text is written if the walk comes to it: in
the branch that holds of a conditional without personal names, in any branch that can be
reached of one with personal names, and before the first signal to stop.

The fault of a predicate is written too, but with marks that faults cannot hold it is never
refused.
-/

import MailMerge.Proofs.Outline.Entries
import MailMerge.Proofs.Outline.Simulation

namespace MailMerge
namespace Outline

open Render (Env Outcome SameData)
open MailMerge.Tree (Node Branch itemsOf itemsOfBranches actionsIn)

/-! ### Texts that the walk comes to -/

mutual

/-- A node that raises a signal to stop the nodes after it. -/
def stops (env : Env) : Node → Bool
  | .text _ => false
  | .output _ => false
  | .tag _ (.interrupt _) => true
  | .tag _ (.leaf _) => false
  | .block _ body => stopsAny env body
  | .conditional _ branches => if isPersonal env branches then false else stopsChosen env branches
termination_by structural node => node

/-- **Some of the nodes raises a signal to stop.** -/
def stopsAny (env : Env) : List Node → Bool
  | [] => false
  | node :: nodes => stops env node || stopsAny env nodes
termination_by structural nodes => nodes

/-- The branch whose predicate holds raises a signal to stop. -/
def stopsChosen (env : Env) : List (Branch Node) → Bool
  | [] => false
  | ⟨_, predicate, body⟩ :: branches =>
    match predicate with
    | none => stopsAny env body
    | some condition =>
      match Render.evalCondition env condition with
      | .error _ => false
      | .ok true => stopsAny env body
      | .ok false => stopsChosen env branches
termination_by structural branches => branches

end

/-- **The branch that is chosen:** the first one whose predicate holds. -/
inductive Chosen (env : Env) : List (Branch Node) → List Node → Prop
  | other (id : Nat) (body : List Node) (rest : List (Branch Node)) :
      Chosen env (⟨id, none, body⟩ :: rest) body
  | holds {condition : Markup.Condition} (id : Nat) (body : List Node) (rest : List (Branch Node))
      (own : Render.evalCondition env condition = .ok true) :
      Chosen env (⟨id, some condition, body⟩ :: rest) body
  | fails {condition : Markup.Condition} (id : Nat) (body : List Node) {rest : List (Branch Node)}
      {chosen : List Node} (own : Render.evalCondition env condition = .ok false)
      (later : Chosen env rest chosen) : Chosen env (⟨id, some condition, body⟩ :: rest) chosen

/-- **A text that is written** while nodes are drawn up over the data of an environment. -/
inductive Written (env : Env) : List Node → String → Prop
  | text (raw : String) (nodes : List Node) : Written env (.text raw :: nodes) raw
  | output {output : Tree.Output} {text : String} (nodes : List Node)
      (shared : env.selects output.names = false)
      (value : Render.settled env.strict (Render.renderOutput env output) = .ok text) :
      Written env (.output output :: nodes) text
  | block {body : List Node} {text : String} (head : Source.TagHead) (nodes : List Node)
      (inner : Written env body text) : Written env (.block head body :: nodes) text
  | chosen {branches : List (Branch Node)} {body : List Node} {text : String} (head : Source.TagHead)
      (nodes : List Node) (shared : isPersonal env branches = false) (own : Chosen env branches body)
      (inner : Written env body text) : Written env (.conditional head branches :: nodes) text
  | branch {branches : List (Branch Node)} {branch : Branch Node} {text : String}
      (head : Source.TagHead) (nodes : List Node) (personal : isPersonal env branches = true)
      (mem : branch ∈ Tree.reachable branches) (inner : Written env branch.body text) :
      Written env (.conditional head branches :: nodes) text
  | later {node : Node} {nodes : List Node} {text : String} (going : stops env node = false)
      (rest : Written env nodes text) : Written env (node :: nodes) text

/-! ### The data of the walk -/

/-- **Inside the data of an environment:** the same data, and the same names are personal. -/
structure Inside (base env : Env) : Prop where
  data : SameData base env
  selector : env.selector = base.selector

namespace Inside

variable {base env : Env}

theorem refl (base : Env) : Inside base base := ⟨⟨rfl, rfl, fun _ => rfl⟩, rfl⟩

section Reading

variable (h : Inside base env)

include h

theorem enter : Inside base (env.enter ∅) := ⟨⟨h.data.filters, h.data.strict, h.data.get⟩, h.selector⟩

theorem of_bare {after : Env} (same : after.bare = env.bare) : Inside base after where
  data := {
    filters := (congrArg Env.filters same :).trans h.data.filters
    strict := (congrArg Env.strict same :).trans h.data.strict
    get := fun name => (Render.get_of_bare same name).trans (h.data.get name) }
  selector := (congrArg Env.selector same :).trans h.selector

theorem selects (names : List String) : env.selects names = base.selects names := by
  unfold Env.selects
  rw [h.selector]

theorem isPersonal (branches : List (Branch Node)) :
    isPersonal env branches = Outline.isPersonal base branches := by
  unfold Outline.isPersonal
  simp only [h.selects]

theorem renderOutput (output : Tree.Output) :
    Render.renderOutput env output = Render.renderOutput base output :=
  Render.renderOutput_agree output (h.data.agreesOn _)

theorem evalCondition (condition : Markup.Condition) :
    Render.evalCondition env condition = Render.evalCondition base condition :=
  Render.evalCondition_agree condition (h.data.agreesOn _).get

end Reading

end Inside

/-! ### Faults of the walk -/

/-- **A fault that is accounted for:** a text among those that are written holds the opening
mark of keys, or a fault was not to be contained. -/
inductive Blamed (format : KeyFormat) (strict : Bool) (written : String → Prop) : Fault → Prop
  | reserved {text : String} (own : written text) (holds : Text.contains text format.opening = true) :
      Blamed format strict written (.reservedText text)
  | shared (fault : Render.Fault) (handed : strict = true) : Blamed format strict written (.shared fault)

/-- **A sketch that is accounted for:** its fault is, and after a signal to stop nothing more
is sketched. -/
structure Accounted (format : KeyFormat) (strict : Bool) (written : String → Prop) (ends : Bool)
    (sketched : Sketched Piece) : Prop where
  fault : ∀ fault, sketched.1 = .error fault → Blamed format strict written fault
  stop : ends = true → ∀ pieces, sketched.1 = .ok pieces → sketched.2.interrupted = true

section Accounting

variable {format : KeyFormat} {strict : Bool} {written others : String → Prop} {ends : Bool}

theorem Blamed.mono {fault : Fault} (h : Blamed format strict written fault)
    (sub : ∀ text, written text → others text) : Blamed format strict others fault := by
  cases h with
  | reserved own holds => exact .reserved (sub _ own) holds
  | shared fault handed => exact .shared fault handed

theorem Accounted.mono {sketched : Sketched Piece} (h : Accounted format strict written ends sketched)
    (sub : ∀ text, written text → others text) : Accounted format strict others ends sketched :=
  ⟨fun fault found => (h.fault fault found).mono sub, h.stop⟩

/-- A scope that is left has no part in it. -/
theorem Accounted.leave {sketched : Sketched Piece} (h : Accounted format strict written ends sketched) :
    Accounted format strict written ends (sketched.1, sketched.2.leave) :=
  ⟨h.fault, fun ended pieces found => (interrupted_leave _).trans (h.stop ended pieces found)⟩

theorem accounted_ok {pieces : List Piece} {after : Env} (stop : ends = true → after.interrupted = true) :
    Accounted format strict written ends (.ok pieces, after) :=
  ⟨fun _ found => (by cases found), fun ended _ _ => stop ended⟩

theorem accounted_error {fault : Fault} {after : Env} (h : Blamed format strict written fault) :
    Accounted format strict written ends (.error fault, after) :=
  ⟨fun _ found => Except.error.inj found ▸ h, fun _ _ found => by cases found⟩

theorem accounted_text {text : String} {after : Env}
    (own : Text.contains text format.opening = true → written text)
    (stop : ends = true → after.interrupted = true) :
    Accounted format strict written ends (sketchText format text, after) := by
  unfold sketchText
  split
  · rename_i holds
    exact accounted_error (.reserved (own holds) holds)
  · split <;> exact accounted_ok stop

/-- **What rendering gave is accounted for** if the text it comes to is. -/
theorem accounted_outcome {outcome : Outcome}
    (own : ∀ text, Render.settled outcome.2.strict outcome.1 = .ok text →
      Text.contains text format.opening = true → written text)
    (same : outcome.2.strict = strict) (stop : ends = true → outcome.2.interrupted = true) :
    Accounted format strict written ends (sketchOutcome format outcome) := by
  have settled := Render.contained_fst outcome.1 outcome.2
  have pending := interrupted_contained outcome
  have kept := (Render.sameSettings_contained outcome).strict
  unfold sketchOutcome
  generalize contained : outcome.contained = result at settled pending kept ⊢
  match result with
  | (.ok text, after) => exact accounted_text (own text settled.symm) fun ended => pending.trans (stop ended)
  | (.error fault, after) =>
    have handed := Render.strict_of_contained_error contained
    exact accounted_error (.shared fault (same.symm.trans (kept.symm.trans handed)))

/-- Pieces in front are no fault. -/
theorem Accounted.after {sketched : Sketched Piece} (h : Accounted format strict written ends sketched)
    (pieces : List Piece) : Accounted format strict written ends (sketched.after pieces) := by
  obtain ⟨result, last⟩ := sketched
  cases result with
  | error fault => exact accounted_error (h.fault fault rfl)
  | ok more => exact accounted_ok fun ended => h.stop ended more rfl

end Accounting

section Walk

variable {format : KeyFormat} {base : Env}

mutual

/-- A node is accounted for, whatever nodes come after it. -/
theorem accounted_sketchNode (hidden : format.Hidden) (node : Node) {env : Env} (h : Inside base env)
    (plain : actionsIn node.items = []) :
    Accounted format base.strict (fun text => ∀ nodes, Written base (node :: nodes) text)
      (stops base node) (sketchNode format env node) := by
  match node with
  | .text raw => exact accounted_text (fun _ nodes => .text raw nodes) fun ended => by cases ended
  | .output output =>
    rw [sketchNode]
    split
    · exact accounted_ok fun ended => by cases ended
    · rename_i shared
      refine accounted_outcome (fun text settled _ nodes => ?_) h.data.strict fun ended => by cases ended
      rw [h.selects, Bool.not_eq_true] at shared
      dsimp only at settled
      rw [h.data.strict, h.renderOutput] at settled
      exact .output nodes shared settled
  | .tag head (.interrupt signal) =>
    have raised : (Render.runTag (.interrupt signal) head.markup env).2.interrupted = true := rfl
    refine accounted_outcome (fun text settled holds => ?_) h.data.strict fun _ => raised
    obtain rfl := Except.ok.inj settled
    rw [hidden.contains_empty] at holds
    cases holds
  | .block head body =>
    have inner := accounted_sketchAll hidden body h plain
    exact inner.mono fun text own nodes => .block head nodes own
  | .conditional head branches =>
    rw [sketchNode_conditional, sketchInside, h.isPersonal, stops]
    refine Accounted.leave ?_
    cases personal : isPersonal base branches with
    | true =>
      refine ⟨fun fault failed => ?_, fun ended => by cases ended⟩
      have blamed := blamed_sketchBranches hidden branches h.enter plain failed
      exact blamed.mono fun text ⟨branch, mem, own⟩ nodes => .branch head nodes personal mem own
    | false =>
      have chosen := accounted_sketchChosen hidden branches h.enter plain
      exact chosen.mono fun text ⟨body, own, inner⟩ nodes => .chosen head nodes personal own inner
termination_by structural node

/-- **Nodes in a row are accounted for.** -/
theorem accounted_sketchAll (hidden : format.Hidden) (nodes : List Node) {env : Env} (h : Inside base env)
    (plain : actionsIn (itemsOf nodes) = []) :
    Accounted format base.strict (Written base nodes) (stopsAny base nodes)
      (sketchAll format env nodes) := by
  match nodes with
  | [] => exact accounted_ok fun ended => by cases ended
  | node :: rest =>
    rw [itemsOf, Tree.actionsIn_append, List.append_eq_nil_iff] at plain
    cases pending : env.interrupted with
    | true =>
      rw [sketchAll_interrupted pending]
      exact accounted_ok fun _ => pending
    | false =>
      cases signal : node.signal? with
      | some raised =>
        rw [sketchAll_signal signal, pending]
        exact accounted_ok fun _ => (rfl : (env.interrupt raised).interrupted = true)
      | none =>
        rw [sketchAll_cons signal, pending]
        have first := accounted_sketchNode hidden node h plain.1
        cases sketched : sketchNode format env node with
        | mk result after =>
          rw [sketched] at first
          cases result with
          | error fault => exact accounted_error ((first.fault fault rfl).mono fun text own => own rest)
          | ok pieces =>
            cases ended : stops base node with
            | true =>
              -- nothing is sketched after the node, so no text after it is written
              have raised := first.stop ended pieces rfl
              exact (sketchAll_interrupted raised rest ▸ accounted_ok fun _ => raised :
                Accounted _ _ _ _ (sketchAll format after rest)).after pieces
            | false =>
              have same : after.bare = env.bare := bare_sketchNode plain.1 sketched
              have more := accounted_sketchAll hidden rest (h.of_bare same) plain.2
              rw [stopsAny, ended, Bool.false_or]
              exact (more.mono fun text own => .later ended own).after pieces
termination_by structural nodes

/-- The branch that is chosen is accounted for. -/
theorem accounted_sketchChosen (hidden : format.Hidden) (branches : List (Branch Node)) {env : Env}
    (h : Inside base env) (plain : actionsIn (itemsOfBranches branches) = []) :
    Accounted format base.strict (fun text => ∃ body, Chosen base branches body ∧ Written base body text)
      (stopsChosen base branches) (sketchChosen format env branches) := by
  match branches with
  | [] => exact accounted_ok fun ended => by cases ended
  | ⟨id, predicate, body⟩ :: rest =>
    rw [itemsOfBranches, Tree.actionsIn_branch, Tree.actionsIn_append, List.append_eq_nil_iff] at plain
    cases predicate with
    | none =>
      have inner := accounted_sketchAll hidden body h plain.1
      exact inner.mono fun text own => ⟨body, .other id body rest, own⟩
    | some condition =>
      rw [sketchChosen, stopsChosen, h.evalCondition]
      cases own : Render.evalCondition base condition with
      | error fault =>
        refine accounted_outcome (fun text settled holds => ?_) h.data.strict fun ended => by cases ended
        dsimp only [Render.settled] at settled
        split at settled
        · cases settled
        · obtain rfl := Except.ok.inj settled
          rw [hidden.contains_predicate own] at holds
          cases holds
      | ok holds =>
        cases holds with
        | true =>
          have inner := accounted_sketchAll hidden body h plain.1
          exact inner.mono fun text written => ⟨body, .holds id body rest own, written⟩
        | false =>
          have others := accounted_sketchChosen hidden rest h plain.2
          exact others.mono fun text ⟨chosen, later, written⟩ =>
            ⟨chosen, .fails id body own later, written⟩
termination_by structural branches

/-- The faults of every branch are accounted for. -/
theorem blamed_sketchBranches (hidden : format.Hidden) (branches : List (Branch Node)) {owner : Nat}
    {passed : List BranchCondition} {env : Env} (h : Inside base env)
    (plain : actionsIn (itemsOfBranches branches) = []) {fault : Fault}
    (failed : (passagePieces (sketchBranches format owner passed env branches)).1 = .error fault) :
    Blamed format base.strict
      (fun text => ∃ branch ∈ Tree.reachable branches, Written base branch.body text) fault := by
  match branches with
  | [] => cases failed
  | ⟨id, predicate, body⟩ :: rest =>
    rw [itemsOfBranches, Tree.actionsIn_branch, Tree.actionsIn_append, List.append_eq_nil_iff] at plain
    rw [sketchBranches] at failed
    have inner := accounted_sketchAll hidden body h plain.1
    generalize sketched : sketchAll format env body = drawn at inner failed
    match drawn with
    | (.error own, after) =>
      obtain rfl := Except.error.inj failed
      exact (inner.fault own rfl).mono fun text written => ⟨_, List.mem_cons_self, written⟩
    | (.ok pieces, after) =>
      have same : after.bare = env.bare := bare_sketchAll plain.1 sketched
      have closed := (bare_closeSketch env.interrupts.length pieces after).trans same
      dsimp only at failed
      generalize closeSketch env.interrupts.length pieces after = closing at closed failed
      obtain ⟨_, last⟩ := closing
      cases predicate with
      | none => cases failed
      | some condition =>
        dsimp only [Option.map] at failed
        split at failed
        · cases failed
        · generalize others : sketchBranches format owner _ last rest = more at failed
          match more with
          | (.ok _, _) => cases failed
          | (.error own, _) =>
            obtain rfl := Except.error.inj failed
            have blamed := blamed_sketchBranches hidden rest (h.of_bare closed) plain.2
              (congrArg (fun sketched => (passagePieces sketched).1) others)
            refine blamed.mono fun text ⟨branch, mem, written⟩ => ⟨branch, ?_, written⟩
            exact List.mem_cons_of_mem _ mem
termination_by structural branches

end

end Walk

end Outline
end MailMerge
