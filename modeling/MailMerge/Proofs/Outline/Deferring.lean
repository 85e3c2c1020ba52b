/-
# Conditionals that are left open

A conditional whose predicates read a personal name is left open when an outline is drawn up: all
its branches that can be reached are drawn up, and each recipient takes one of them. A section is
reached over crossings, one for each such conditional around it, from the outermost to its own.
At a crossing the predicates of the branches before the one that is entered are evaluated in
order and must not hold, and then that branch's own must, if it has one.

| on the way | comes to |
| --- | --- |
| a predicate that comes out as it must | the next one |
| a predicate that comes out otherwise | no section |
| a predicate that fails | its fault, with the number of its conditional |

Blocks and conditionals that read no personal name are not on the way, since nothing is left open
there, and what stands behind a signal to stop is not reached at all.

What is left open is nested as the template is (`Nest`): of two conditionals one is inside a branch
of the other, or no branch is inside both.
-/

import MailMerge.Proofs.Outline.Written

namespace MailMerge
namespace Outline

open MailMerge.Tree (Node Branch itemsOf itemsOfBranches idsIn)
open Markup (Condition)
open Render (Env)

/-! ### Ways to a section -/

/-- **A crossing:** the branch that is entered, its conditional, the predicates of the branches
that are passed over, and its own. -/
structure Crossing where
  branch : Nat
  owner : Nat
  passed : List Condition
  own : Option Condition

/-- Predicates are evaluated in order, and each must not hold. -/
def passing (context : Env) (owner : Nat) : List Condition → Except (Nat × Render.Fault) Bool
  | [] => .ok true
  | predicate :: rest =>
    match Render.evalCondition context predicate with
    | .error fault => .error (owner, fault)
    | .ok true => .ok false
    | .ok false => passing context owner rest

/-- What the branch's own predicate comes to. -/
def entering (context : Env) (owner : Nat) : Option Condition → Except (Nat × Render.Fault) Bool
  | none => .ok true
  | some predicate =>
    match Render.evalCondition context predicate with
    | .error fault => .error (owner, fault)
    | .ok holds => .ok holds

/-- **Walking over a crossing:** the branches before are passed over, and then the branch is
entered. -/
def Crossing.walk (context : Env) (crossing : Crossing) : Except (Nat × Render.Fault) Bool :=
  match passing context crossing.owner crossing.passed with
  | .ok true => entering context crossing.owner crossing.own
  | other => other

/-- **Walking to a section,** up to the first crossing that stops. -/
def walk (context : Env) : List Crossing → Except (Nat × Render.Fault) Bool
  | [] => .ok true
  | crossing :: rest =>
    match crossing.walk context with
    | .ok true => walk context rest
    | other => other

/-- The crossings into branches, where the predicates of others have been passed over. -/
def crossingsOf (owner : Nat) (passed : List Condition) : List (Branch Node) → List Crossing
  | [] => []
  | ⟨id, predicate, _⟩ :: branches =>
    ⟨id, owner, passed, predicate⟩ :: crossingsOf owner (passed ++ predicate.toList) branches

/-- **The crossings at a conditional,** one for each branch that can be reached. -/
def crossingsAt (owner : Nat) (passed : List Condition) (branches : List (Branch Node)) :
    List Crossing := crossingsOf owner passed (Tree.reachable branches)

/-! ### What is left open -/

/-- **A conditional that is left open:** its number, the numbers of all that is inside it, the way
to it, and the crossings at it. -/
structure Deferral where
  owner : Nat
  ids : List Nat
  path : List Crossing
  crossings : List Crossing

/-- The predicates of the branches that can be reached, in order. -/
def Deferral.predicates (deferral : Deferral) : List Condition :=
  deferral.crossings.filterMap (·.own)

/-- A conditional that nothing is around. -/
def Deferral.ofBranches (branches : List (Branch Node)) : Deferral :=
  let owner := (Tree.conditionalId? branches).getD 0
  ⟨owner, idsIn (itemsOfBranches branches), [], crossingsAt owner [] branches⟩

/-- A conditional behind one more crossing. -/
def Deferral.behind (crossing : Crossing) (deferral : Deferral) : Deferral :=
  { deferral with path := crossing :: deferral.path }

mutual

/-- The conditionals in a node that are left open. -/
def deferralsOf (env : Env) : Node → List Deferral
  | .text _ => []
  | .output _ => []
  | .tag _ _ => []
  | .block _ body => deferralsIn env body
  | .conditional _ branches =>
    if isPersonal env branches then
      .ofBranches branches ::
        deferralsBehind env ((Tree.conditionalId? branches).getD 0) [] branches
    else deferralsInChosen env branches
termination_by structural node => node

/-- **The conditionals in nodes that are left open,** over the data of an environment. -/
def deferralsIn (env : Env) : List Node → List Deferral
  | [] => []
  | node :: nodes => deferralsOf env node ++ if stops env node then [] else deferralsIn env nodes
termination_by structural nodes => nodes

/-- Those in the branch whose predicate holds. -/
def deferralsInChosen (env : Env) : List (Branch Node) → List Deferral
  | [] => []
  | ⟨_, predicate, body⟩ :: branches =>
    match predicate with
    | none => deferralsIn env body
    | some condition =>
      match Render.evalCondition env condition with
      | .error _ => []
      | .ok true => deferralsIn env body
      | .ok false => deferralsInChosen env branches
termination_by structural branches => branches

/-- Those in the branches of a conditional that is left open itself, behind its crossings. -/
def deferralsBehind (env : Env) (owner : Nat) (passed : List Condition) :
    List (Branch Node) → List Deferral
  | [] => []
  | ⟨id, predicate, body⟩ :: branches =>
    (deferralsIn env body).map (Deferral.behind ⟨id, owner, passed, predicate⟩) ++
      match predicate with
      | none => []
      | some condition => deferralsBehind env owner (passed ++ [condition]) branches
termination_by structural branches => branches

end

/-- **The conditionals of a document that are left open.** With a signal pending nothing is drawn
up. -/
def deferralsInDocument (env : Env) (document : Tree.Document) : List Deferral :=
  if env.interrupted then [] else deferralsIn env document.nodes

/-! ### Walking -/

section Walking

variable {context : Env} {owner : Nat}

theorem passing_append (first second : List Condition) :
    passing context owner (first ++ second) =
      match passing context owner first with
      | .ok true => passing context owner second
      | other => other := by
  induction first with
  | nil => rfl
  | cons predicate rest ih =>
    rw [List.cons_append, passing, passing]
    cases Render.evalCondition context predicate with
    | error fault => rfl
    | ok holds =>
      cases holds with
      | true => rfl
      | false => exact ih

theorem walk_append (first second : List Crossing) :
    walk context (first ++ second) =
      match walk context first with
      | .ok true => walk context second
      | other => other := by
  induction first with
  | nil => rfl
  | cons crossing rest ih =>
    rw [List.cons_append, walk, walk]
    cases crossing.walk context with
    | error failure => rfl
    | ok holds =>
      cases holds with
      | true => exact ih
      | false => rfl

/-- **A guard that asks about a crossing:** its terms are those of the crossing, in order. -/
theorem check_ofBranch_walk {branch : Nat} {predicate : Option Condition}
    {passed : List BranchCondition} (owned : ∀ condition ∈ passed, condition.owner = owner)
    (distinct : ((passed ++ (predicate.map fun condition =>
      (⟨branch, owner, condition⟩ : BranchCondition)).toList).map BranchCondition.branch).Nodup) :
    (Guard.ofBranch (predicate.map fun condition => ⟨branch, owner, condition⟩) passed).check context =
      Crossing.walk context ⟨branch, owner, passed.map (·.predicate), predicate⟩ := by
  have skipped : passedOver context passed = passing context owner (passed.map (·.predicate)) := by
    clear distinct
    induction passed with
    | nil => rfl
    | cons condition rest ih =>
      obtain ⟨own, others⟩ := List.forall_mem_cons.1 owned
      rw [List.map_cons, passing, ← ih others, passedOver, passedTerms, List.map_cons, Guard.checkTerms]
      cases Render.evalCondition context condition.predicate with
      | error fault => rw [own]
      | ok holds => cases holds <;> rfl
  have enter : Guard.checkTerms context ((predicate.map fun condition =>
      (⟨branch, owner, condition⟩ : BranchCondition)).toList.map fun condition => ⟨condition, true⟩) =
        entering context owner predicate := by
    cases predicate with
    | none => rfl
    | some condition =>
      rw [Option.map_some, Option.toList_some, List.map_singleton, Guard.checkTerms, entering]
      cases Render.evalCondition context condition with
      | error fault => rfl
      | ok holds => cases holds <;> rfl
  rw [Guard.check_ofBranch distinct, skipped, enter]
  rfl

theorem crossingsAt_none (passed : List Condition) (id : Nat) (body : List Node)
    (branches : List (Branch Node)) :
    crossingsAt owner passed (⟨id, none, body⟩ :: branches) = [⟨id, owner, passed, none⟩] := rfl

theorem crossingsAt_some (passed : List Condition) (id : Nat) (condition : Condition)
    (body : List Node) (branches : List (Branch Node)) :
    crossingsAt owner passed (⟨id, some condition, body⟩ :: branches) =
      ⟨id, owner, passed, some condition⟩ :: crossingsAt owner (passed ++ [condition]) branches := rfl

/-- **A crossing at a conditional** asks for a part of its predicates: those up to its own branch's,
and all of them if that has none. -/
theorem asked_of_mem {passed : List Condition} {branches : List (Branch Node)} {crossing : Crossing}
    (mem : crossing ∈ crossingsAt owner passed branches) :
    crossing.owner = owner ∧ ∃ later,
      passed ++ (crossingsAt owner passed branches).filterMap (·.own) =
          crossing.passed ++ (crossing.own.toList ++ later) ∧
        (crossing.own = none → later = []) := by
  induction branches generalizing passed with
  | nil => cases mem
  | cons branch rest ih =>
    obtain ⟨id, predicate, body⟩ := branch
    cases predicate with
    | none =>
      rw [crossingsAt_none] at mem ⊢
      obtain rfl := List.mem_singleton.1 mem
      exact ⟨rfl, [], rfl, fun _ => rfl⟩
    | some condition =>
      rw [crossingsAt_some] at mem ⊢
      rcases List.mem_cons.1 mem with rfl | mem
      · exact ⟨rfl, _, rfl, fun none => nomatch none⟩
      · obtain ⟨own, later, same, last⟩ := ih mem
        rw [List.append_assoc] at same
        exact ⟨own, later, same, last⟩

/-- The last crossing asks for all predicates. -/
theorem asked_of_getLast? {passed : List Condition} {branches : List (Branch Node)}
    {crossing : Crossing} (last : (crossingsAt owner passed branches).getLast? = some crossing) :
    passed ++ (crossingsAt owner passed branches).filterMap (·.own) =
      crossing.passed ++ crossing.own.toList := by
  induction branches generalizing passed with
  | nil => cases last
  | cons branch rest ih =>
    obtain ⟨id, predicate, body⟩ := branch
    cases predicate with
    | none =>
      rw [crossingsAt_none] at last ⊢
      obtain rfl := Option.some.inj last
      rfl
    | some condition =>
      rw [crossingsAt_some] at last ⊢
      cases others : crossingsAt owner (passed ++ [condition]) rest with
      | nil =>
        rw [others] at last
        obtain rfl := Option.some.inj last
        rfl
      | cons next more =>
        rw [others, List.getLast?_cons_cons, ← others] at last
        have same := ih last
        rw [List.append_assoc] at same
        rw [← others]
        exact same

/-! ### Predicates that fail -/

/-- **A crossing whose conditional's predicates fail** before one holds comes to the fault, or
does not enter its branch because a later predicate is the one that fails. -/
theorem Crossing.walk_of_fails {crossing : Crossing} {later : List Condition}
    {failure : Nat × Render.Fault} (last : crossing.own = none → later = [])
    (fails : passing context crossing.owner (crossing.passed ++ (crossing.own.toList ++ later)) =
      .error failure) :
    crossing.walk context = .error failure ∨ crossing.walk context = .ok false ∧ later ≠ [] := by
  rw [passing_append] at fails
  rw [walk]
  cases skipped : passing context crossing.owner crossing.passed with
  | error other =>
    rw [skipped] at fails
    exact .inl fails
  | ok holds =>
    rw [skipped] at fails
    cases holds with
    | false => cases fails
    | true =>
      cases predicate : crossing.own with
      | none =>
        rw [predicate, last predicate] at fails
        cases fails
      | some condition =>
        rw [predicate] at fails
        dsimp only [Option.toList_some, List.cons_append, passing] at fails
        dsimp only [entering]
        cases evaluated : Render.evalCondition context condition with
        | error fault =>
          rw [evaluated] at fails
          exact .inl fails
        | ok holds =>
          rw [evaluated] at fails
          cases holds with
          | true => cases fails
          | false =>
            refine .inr ⟨rfl, ?_⟩
            rintro rfl
            cases fails

/-- Where the predicates of a conditional fail, no branch of it is entered. -/
theorem walk_of_failing {branches : List (Branch Node)} {crossing : Crossing}
    {failure : Nat × Render.Fault} (mem : crossing ∈ crossingsAt owner [] branches)
    (fails : passing context owner ((crossingsAt owner [] branches).filterMap (·.own)) =
      .error failure) :
    crossing.walk context = .error failure ∨ crossing.walk context = .ok false := by
  obtain ⟨own, later, same, last⟩ := asked_of_mem mem
  rw [List.nil_append] at same
  rw [same, ← own] at fails
  exact (crossing.walk_of_fails last fails).imp_right And.left

/-- **The last crossing** comes to the fault. -/
theorem walk_of_failing_last {branches : List (Branch Node)} {crossing : Crossing}
    {failure : Nat × Render.Fault} (last : (crossingsAt owner [] branches).getLast? = some crossing)
    (fails : passing context owner ((crossingsAt owner [] branches).filterMap (·.own)) =
      .error failure) :
    crossing.walk context = .error failure := by
  obtain ⟨own, -⟩ := asked_of_mem (List.mem_of_getLast? last)
  have same := asked_of_getLast? last
  rw [List.nil_append] at same
  rw [same, ← own, ← List.append_nil crossing.own.toList] at fails
  exact (crossing.walk_of_fails (fun _ => rfl) fails).resolve_right fun later => later.2 rfl

end Walking

/-! ### Nesting -/

/-- **How what is left open is nested:** its numbers are among those given, each crossing at a
conditional is into a branch with a number inside it, the first one's being its own, no branch is
entered at two crossings, and a branch inside a conditional is reached over one of its crossings. -/
structure Nest (ids : List Nat) (deferrals : List Deferral) : Prop where
  within : ∀ deferral ∈ deferrals, deferral.ids ⊆ ids
  inside : ∀ deferral ∈ deferrals, ∀ crossing ∈ deferral.crossings, crossing.branch ∈ deferral.ids
  fork : ∀ deferral ∈ deferrals, ∃ branches,
    deferral.crossings = crossingsAt deferral.owner [] branches ∧
      (deferral.crossings.head?.map (·.branch)) = some deferral.owner
  distinct : (deferrals.flatMap fun deferral => deferral.crossings.map (·.branch)).Nodup
  nested : ∀ outer ∈ deferrals, ∀ inner ∈ deferrals, ∀ crossing ∈ inner.crossings,
    crossing.branch ∈ outer.ids →
      ∃ taken ∈ outer.crossings, outer.path ++ [taken] <+: inner.path ++ [crossing]

section Nesting

variable {ids others : List Nat} {deferrals more : List Deferral}

theorem Nest.nil (ids : List Nat) : Nest ids [] where
  within _ mem := nomatch mem
  inside _ mem := nomatch mem
  fork _ mem := nomatch mem
  distinct := .nil
  nested _ mem := nomatch mem

theorem Nest.weaken (h : Nest ids deferrals) (sub : ids ⊆ others) : Nest others deferrals where
  within deferral mem := List.Subset.trans (h.within deferral mem) sub
  inside := h.inside
  fork := h.fork
  distinct := h.distinct
  nested := h.nested

/-- The branches that are entered have numbers among those given. -/
theorem Nest.crossing_mem (h : Nest ids deferrals) :
    ∀ deferral ∈ deferrals, ∀ crossing ∈ deferral.crossings, crossing.branch ∈ ids :=
  fun deferral mem crossing own => h.within deferral mem (h.inside deferral mem crossing own)

theorem Nest.branch_mem (h : Nest ids deferrals) {branch : Nat}
    (mem : branch ∈ deferrals.flatMap fun deferral => deferral.crossings.map (·.branch)) :
    branch ∈ ids := by
  obtain ⟨deferral, found, here⟩ := List.mem_flatMap.1 mem
  obtain ⟨crossing, own, rfl⟩ := List.mem_map.1 here
  exact h.crossing_mem deferral found crossing own

/-- **What is left open in nodes that follow one another** is nested if it is in each part. -/
theorem Nest.append (h : Nest ids deferrals) (h' : Nest others more) (apart : ids.Disjoint others) :
    Nest (ids ++ others) (deferrals ++ more) where
  within := List.forall_mem_append.2 ⟨(h.weaken (List.subset_append_left ..)).within,
    (h'.weaken (List.subset_append_right ..)).within⟩
  inside := List.forall_mem_append.2 ⟨h.inside, h'.inside⟩
  fork := List.forall_mem_append.2 ⟨h.fork, h'.fork⟩
  distinct := by
    rw [List.flatMap_append]
    exact List.nodup_append.2 ⟨h.distinct, h'.distinct, fun branch mem other found same =>
      apart (h.branch_mem mem) (same ▸ h'.branch_mem found)⟩
  nested := by
    intro outer houter inner hinner crossing mem here
    rcases List.mem_append.1 houter with houter | houter <;>
      rcases List.mem_append.1 hinner with hinner | hinner
    · exact h.nested outer houter inner hinner crossing mem here
    · exact absurd (h'.crossing_mem inner hinner crossing mem) (apart (h.within outer houter here))
    · exact absurd (h'.within outer houter here) (apart (h.crossing_mem inner hinner crossing mem))
    · exact h'.nested outer houter inner hinner crossing mem here

/-- Behind one more crossing everything is nested as before. -/
theorem Nest.behind (h : Nest ids deferrals) (crossing : Crossing) :
    Nest ids (deferrals.map (Deferral.behind crossing)) where
  within := List.forall_mem_map.2 h.within
  inside := List.forall_mem_map.2 h.inside
  fork := List.forall_mem_map.2 h.fork
  distinct := by
    rw [List.flatMap_map]
    exact h.distinct
  nested := List.forall_mem_map.2 fun outer houter => List.forall_mem_map.2
    fun inner hinner own mem here => by
      obtain ⟨taken, htaken, leads⟩ := h.nested outer houter inner hinner own mem here
      exact ⟨taken, htaken, List.cons_prefix_cons.2 ⟨rfl, leads⟩⟩

/-- **What is behind crossings:** it is reached over one of them, and none of them is inside it. -/
structure Below (crossings : List Crossing) (deferrals : List Deferral) : Prop where
  starts : ∀ deferral ∈ deferrals, ∃ crossing ∈ crossings, [crossing] <+: deferral.path
  apart : ∀ deferral ∈ deferrals, ∀ crossing ∈ crossings, crossing.branch ∉ deferral.ids

theorem Below.nil (crossings : List Crossing) : Below crossings [] where
  starts _ mem := nomatch mem
  apart _ mem := nomatch mem

/-- **A conditional around what is left open** in its branches. -/
theorem Nest.cons (h : Nest ids deferrals) {branches : List (Branch Node)}
    (same : ids = idsIn (itemsOfBranches branches)) (nonempty : branches ≠ [])
    (entered : (crossingsAt ((Tree.conditionalId? branches).getD 0) [] branches).map
      (·.branch) |>.Sublist ids)
    (nodup : ids.Nodup)
    (below : Below (crossingsAt ((Tree.conditionalId? branches).getD 0) [] branches) deferrals) :
    Nest ids (.ofBranches branches :: deferrals) := by
  subst same
  have own : ∀ crossing ∈ (Deferral.ofBranches branches).crossings,
      crossing.branch ∈ idsIn (itemsOfBranches branches) :=
    fun crossing mem => entered.subset (List.mem_map_of_mem mem)
  refine ⟨List.forall_mem_cons.2 ⟨List.Subset.refl _, h.within⟩,
    List.forall_mem_cons.2 ⟨own, h.inside⟩, List.forall_mem_cons.2 ⟨⟨branches, rfl, ?_⟩, h.fork⟩, ?_, ?_⟩
  · obtain ⟨⟨id, predicate, body⟩, rest, rfl⟩ := List.exists_cons_of_ne_nil nonempty
    rfl
  · rw [List.flatMap_cons]
    refine List.nodup_append.2 ⟨nodup.sublist entered, h.distinct, ?_⟩
    rintro branch mem _ found rfl
    obtain ⟨crossing, hcrossing, rfl⟩ := List.mem_map.1 mem
    obtain ⟨deferral, hdeferral, here⟩ := List.mem_flatMap.1 found
    obtain ⟨inner, hinner, alike⟩ := List.mem_map.1 here
    exact below.apart deferral hdeferral crossing hcrossing
      (alike ▸ h.inside deferral hdeferral inner hinner)
  · refine List.forall_mem_cons.2 ⟨List.forall_mem_cons.2 ⟨fun crossing mem _ => ?_, fun inner hinner
      crossing mem _ => ?_⟩, fun outer houter => List.forall_mem_cons.2 ⟨fun crossing mem here => ?_,
        h.nested outer houter⟩⟩
    · exact ⟨crossing, mem, List.prefix_rfl⟩
    · obtain ⟨taken, htaken, starts⟩ := below.starts inner hinner
      exact ⟨taken, htaken, starts.trans (List.prefix_append ..)⟩
    · exact absurd here (below.apart outer houter crossing mem)

/-- The branches that are entered at a conditional have numbers of its own. -/
theorem branches_crossingsAt (owner : Nat) (passed : List Condition) (branches : List (Branch Node)) :
    ((crossingsAt owner passed branches).map (·.branch)).Sublist (idsIn (itemsOfBranches branches)) := by
  induction branches generalizing passed with
  | nil => exact List.Sublist.slnil
  | cons branch rest ih =>
    obtain ⟨id, predicate, body⟩ := branch
    rw [itemsOfBranches, Tree.idsIn_branch, Tree.idsIn_append]
    cases predicate with
    | none =>
      rw [crossingsAt_none]
      exact (List.nil_sublist _).cons_cons id
    | some condition =>
      rw [crossingsAt_some, List.map_cons]
      exact ((ih _).trans (List.sublist_append_right ..)).cons_cons id

/-- Below the crossings at a conditional with one more branch in front. -/
theorem Below.cons {crossing : Crossing} {crossings : List Crossing} {inner outer : List Deferral}
    (h : Below crossings outer) (own : ∀ deferral ∈ inner ++ outer, crossing.branch ∉ deferral.ids)
    (apart : ∀ deferral ∈ inner, ∀ other ∈ crossings, other.branch ∉ deferral.ids) :
    Below (crossing :: crossings) (inner.map (Deferral.behind crossing) ++ outer) where
  starts := by
    refine List.forall_mem_append.2 ⟨List.forall_mem_map.2 fun deferral _ => ?_, fun deferral mem => ?_⟩
    · exact ⟨crossing, List.mem_cons_self, List.cons_prefix_cons.2 ⟨rfl, List.nil_prefix⟩⟩
    · obtain ⟨other, hother, starts⟩ := h.starts deferral mem
      exact ⟨other, List.mem_cons_of_mem _ hother, starts⟩
  apart := by
    obtain ⟨ownInner, ownOuter⟩ := List.forall_mem_append.1 own
    refine List.forall_mem_append.2 ⟨List.forall_mem_map.2 fun deferral mem => ?_, fun deferral mem => ?_⟩
    · exact List.forall_mem_cons.2 ⟨ownInner deferral mem, apart deferral mem⟩
    · exact List.forall_mem_cons.2 ⟨ownOuter deferral mem, h.apart deferral mem⟩

end Nesting

section Walk

variable (env : Env)

mutual

/-- What a node leaves open is nested. -/
theorem nest_node (node : Node) (distinct : (idsIn node.items).Nodup) :
    Nest (idsIn node.items) (deferralsOf env node) := by
  match node with
  | .text _ => exact .nil _
  | .output _ => exact .nil _
  | .tag _ _ => exact .nil _
  | .block _ body => exact nest_nodes body distinct
  | .conditional head branches =>
    rw [deferralsOf]
    cases personal : isPersonal env branches with
    | false => exact nest_chosen branches distinct
    | true =>
      have nonempty : branches ≠ [] := by
        rintro rfl
        cases personal
      obtain ⟨inner, below⟩ := nest_behind branches _ [] distinct
      exact inner.cons rfl nonempty (branches_crossingsAt _ _ branches) distinct below
termination_by structural node

/-- **What nodes leave open is nested.** -/
theorem nest_nodes (nodes : List Node) (distinct : (idsIn (itemsOf nodes)).Nodup) :
    Nest (idsIn (itemsOf nodes)) (deferralsIn env nodes) := by
  match nodes with
  | [] => exact .nil _
  | node :: rest =>
    rw [itemsOf, Tree.idsIn_append] at distinct ⊢
    obtain ⟨own, others, apart⟩ := List.nodup_append.1 distinct
    have first := nest_node node own
    have apart : (idsIn node.items).Disjoint (idsIn (itemsOf rest)) :=
      fun id mem found => apart id mem id found rfl
    rw [deferralsIn]
    split
    · exact first.append (.nil _) apart
    · exact first.append (nest_nodes rest others) apart
termination_by structural nodes

/-- What the branch that is chosen leaves open is nested. -/
theorem nest_chosen (branches : List (Branch Node)) (distinct : (idsIn (itemsOfBranches branches)).Nodup) :
    Nest (idsIn (itemsOfBranches branches)) (deferralsInChosen env branches) := by
  match branches with
  | [] => exact .nil _
  | ⟨id, predicate, body⟩ :: rest =>
    rw [itemsOfBranches, Tree.idsIn_branch, Tree.idsIn_append] at distinct ⊢
    obtain ⟨own, others, -⟩ := List.nodup_append.1 (List.nodup_cons.1 distinct).2
    have inner := (nest_nodes body own).weaken
      (List.subset_cons_of_subset id (List.subset_append_left _ (idsIn (itemsOfBranches rest))))
    have later := (nest_chosen rest others).weaken
      (List.subset_cons_of_subset id (List.subset_append_right (idsIn (itemsOf body)) _))
    cases predicate with
    | none => exact inner
    | some condition =>
      rw [deferralsInChosen]
      split
      · exact .nil _
      · exact inner
      · exact later
termination_by structural branches

/-- What branches leave open is nested, below the crossings into them. -/
theorem nest_behind (branches : List (Branch Node)) (owner : Nat) (passed : List Condition)
    (distinct : (idsIn (itemsOfBranches branches)).Nodup) :
    Nest (idsIn (itemsOfBranches branches)) (deferralsBehind env owner passed branches) ∧
      Below (crossingsAt owner passed branches) (deferralsBehind env owner passed branches) := by
  match branches with
  | [] => exact ⟨.nil _, .nil _⟩
  | ⟨id, predicate, body⟩ :: rest =>
    rw [itemsOfBranches, Tree.idsIn_branch, Tree.idsIn_append] at distinct ⊢
    obtain ⟨new, distinct⟩ := List.nodup_cons.1 distinct
    obtain ⟨ownDistinct, restDistinct, apart⟩ := List.nodup_append.1 distinct
    have apart : (idsIn (itemsOf body)).Disjoint (idsIn (itemsOfBranches rest)) :=
      fun found mem mem' => apart found mem found mem' rfl
    have body' := nest_nodes body ownDistinct
    have ownNew : ∀ deferral ∈ deferralsIn env body, id ∉ deferral.ids := fun deferral mem here =>
      new (List.mem_append_left _ (body'.within deferral mem here))
    cases predicate with
    | none =>
      rw [deferralsBehind, crossingsAt_none]
      refine ⟨((body'.behind _).append (.nil _) apart).weaken (List.subset_cons_self _ _), ?_⟩
      refine (Below.nil _).cons (fun deferral mem => ?_) fun _ _ _ mem => nomatch mem
      rw [List.append_nil] at mem
      exact ownNew deferral mem
    | some condition =>
      obtain ⟨later, below⟩ := nest_behind rest owner (passed ++ [condition]) restDistinct
      have entered := (branches_crossingsAt owner (passed ++ [condition]) rest).subset
      rw [deferralsBehind, crossingsAt_some]
      refine ⟨((body'.behind _).append later apart).weaken (List.subset_cons_self _ _), below.cons ?_ ?_⟩
      · refine List.forall_mem_append.2 ⟨ownNew, fun deferral mem here => ?_⟩
        exact new (List.mem_append_right _ (later.within deferral mem here))
      · exact fun deferral mem other hother here =>
          apart (body'.within deferral mem here) (entered (List.mem_map_of_mem hother))
termination_by structural branches

end

end Walk

end Outline
end MailMerge
