/-
# Where passages come from

Each passage of a sketch is traced to the crossings that lead to its branch. Guards are made from
the inside out, and the terms of an outer branch are put in front of those of an inner one, so a
guard asks for what is on the way to its branch, from the outermost conditional to its own.

A conditional that is left open has its faults reported by one passage. It is behind the last
crossing at the conditional, where all predicates have been asked for. If an inner conditional
comes first in the last branch, this is a passage of that one.
-/

import MailMerge.Proofs.Outline.Deferring

namespace MailMerge
namespace Outline

open MailMerge.Tree (Node Branch itemsOf itemsOfBranches idsIn actionsIn)
open Render (Env)

/-! ### Passages among pieces -/

/-- The passages among pieces. -/
def passagesIn (pieces : List Piece) : List Passage := pieces.filterMap Piece.passage?

section Passages

variable {pieces : List Piece}

theorem mem_passagesIn {passage : Passage} : passage ∈ passagesIn pieces ↔ .passage passage ∈ pieces := by
  rw [passagesIn, List.mem_filterMap]
  constructor
  · rintro ⟨piece, mem, same⟩
    cases piece with
    | part own => cases same
    | passage own => exact Option.some.inj same ▸ mem
  · exact fun mem => ⟨_, mem, rfl⟩

theorem passagesIn_append (first second : List Piece) :
    passagesIn (first ++ second) = passagesIn first ++ passagesIn second := List.filterMap_append

theorem passagesIn_map (passages : List Passage) : passagesIn (passages.map .passage) = passages := by
  rw [passagesIn, List.filterMap_map]
  exact List.filterMap_some

/-- The end of all output is no passage. -/
theorem passagesIn_closeSketch (depth : Nat) (pieces : List Piece) (env : Env) :
    passagesIn (closeSketch depth pieces env).1 = passagesIn pieces := by
  unfold closeSketch
  split
  · exact (passagesIn_append pieces _).trans (List.append_nil _)
  · rfl

theorem passagesIn_sketchText {format : KeyFormat} {text : String}
    (sketch : sketchText format text = .ok pieces) : passagesIn pieces = [] := by
  unfold sketchText at sketch
  split at sketch
  · cases sketch
  · split at sketch <;>
    · obtain rfl := Except.ok.inj sketch
      rfl

/-- **What is rendered at once** has no passage, and raises no signal that was not raised. -/
theorem passagesIn_sketchOutcome {format : KeyFormat} {outcome : Render.Outcome} {after : Env}
    (sketch : sketchOutcome format outcome = (.ok pieces, after)) :
    passagesIn pieces = [] ∧ after.interrupted = outcome.2.interrupted := by
  have kept := interrupted_contained outcome
  unfold sketchOutcome at sketch
  generalize outcome.contained = contained at sketch kept
  match contained with
  | (.error fault, _) => cases sketch
  | (.ok text, env) =>
    obtain ⟨sketched, rfl⟩ := Prod.mk.inj sketch
    exact ⟨passagesIn_sketchText sketched, kept⟩

/-- **The passages of a branch** report what the passages in its body do. -/
theorem reports_passagesOf (branch : Nat) (guard : Guard) (body : List Piece) :
    (passagesOf branch guard body).flatMap (·.reports) = (passagesIn body).flatMap (·.reports) := by
  have ofRun : ∀ run parts, (passageOfRun branch run guard parts).flatMap (·.reports) = [] := by
    intro run parts
    unfold passageOfRun
    split <;> rfl
  have general : ∀ (rest : List Piece) runs parts,
      (passagesFrom branch guard runs parts rest).flatMap (·.reports) =
        (passagesIn rest).flatMap (·.reports) := by
    intro rest
    induction rest with
    | nil => exact ofRun
    | cons piece rest ih =>
      intro runs parts
      cases piece with
      | part own => exact ih runs _
      | passage inner =>
        rw [passagesFrom, List.flatMap_append, ofRun, List.nil_append, List.flatMap_cons, ih]
        rfl
  unfold passagesOf
  split
  · exact general body 0 []
  · rename_i none
    rw [parts_of_no_passage none, passagesIn, List.filterMap_map]
    exact (congrArg (List.flatMap _) (List.filterMap_eq_nil_iff.2 fun _ _ => rfl)).symm

/-- The first passage reports one more conditional. -/
theorem reports_reportFirst (owner : Nat) {passages : List Passage} (nonempty : passages ≠ []) :
    ((reportFirst owner passages).flatMap (·.reports)).Perm
      (owner :: passages.flatMap (·.reports)) := by
  obtain ⟨first, rest, rfl⟩ := List.exists_cons_of_ne_nil nonempty
  rw [reportFirst, List.flatMap_cons, List.flatMap_cons, Passage.reporting, List.append_assoc]
  exact List.perm_middle

end Passages

/-! ### Traces -/

/-- **A way that leads to a branch:** over a crossing of what is left open. -/
def Leads (deferrals : List Deferral) (branch : Nat) (way : List Crossing) : Prop :=
  ∃ deferral ∈ deferrals, ∃ crossing ∈ deferral.crossings,
    crossing.branch = branch ∧ way = deferral.path ++ [crossing]

/-- **A way over the last crossing** at a conditional. -/
def Deferral.LastOn (deferral : Deferral) (way : List Crossing) : Prop :=
  ∃ crossing, deferral.crossings.getLast? = some crossing ∧ deferral.path ++ [crossing] <+: way

/-- **A passage that is reached on a way:** the way leads to its branch, its guard asks for what is
on the way, and a conditional whose faults it reports is around it and has its last crossing on the
way. -/
structure Reached (deferrals : List Deferral) (passage : Passage) (way : List Crossing) : Prop where
  leads : Leads deferrals passage.branch way
  check : ∀ context, passage.guard.check context = walk context way
  reports : ∀ owner ∈ passage.reports, ∃ deferral ∈ deferrals,
    deferral.owner = owner ∧ passage.branch ∈ deferral.ids ∧ deferral.LastOn way

/-- **Passages that are traced:** each is reached on some way, and what is left open is what they
report, once for each. -/
structure Traced (deferrals : List Deferral) (passages : List Passage) : Prop where
  reached : ∀ passage ∈ passages, ∃ way, Reached deferrals passage way
  reports : (passages.flatMap (·.reports)).Perm (deferrals.map (·.owner))

/-- With crossings in front, a conditional has the crossings it had. -/
def Deferral.Wider (deferral wider : Deferral) : Prop :=
  ∃ before, wider = { deferral with crossings := before ++ deferral.crossings }

section Traces

variable {deferrals more : List Deferral} {passages others : List Passage}

/-- A conditional is as wide as itself. -/
theorem Deferral.Wider.refl (deferral : Deferral) : deferral.Wider deferral := ⟨[], rfl⟩

/-- Where there is more to cross, a passage is reached as before. -/
theorem Reached.mono {passage : Passage} {way : List Crossing} (h : Reached deferrals passage way)
    (sub : ∀ deferral ∈ deferrals, ∃ wider ∈ more, deferral.Wider wider) : Reached more passage way where
  leads := by
    obtain ⟨deferral, mem, crossing, own, same, rfl⟩ := h.leads
    obtain ⟨_, found, before, rfl⟩ := sub deferral mem
    exact ⟨_, found, crossing, List.mem_append_right _ own, same, rfl⟩
  check := h.check
  reports owner mem := by
    obtain ⟨deferral, mem, same, inside, crossing, last, leads⟩ := h.reports owner mem
    obtain ⟨_, found, before, rfl⟩ := sub deferral mem
    refine ⟨_, found, same, inside, crossing, ?_, leads⟩
    rw [List.getLast?_append, last]
    rfl

theorem Reached.subset {passage : Passage} {way : List Crossing} (h : Reached deferrals passage way)
    (sub : deferrals ⊆ more) : Reached more passage way :=
  h.mono fun deferral mem => ⟨deferral, sub mem, .refl deferral⟩

theorem Traced.nil : Traced [] [] where
  reached _ mem := nomatch mem
  reports := .nil

/-- **Passages that follow one another** are traced if those of each part are. -/
theorem Traced.append (h : Traced deferrals passages) (h' : Traced more others) :
    Traced (deferrals ++ more) (passages ++ others) where
  reached := by
    refine List.forall_mem_append.2 ⟨fun passage mem => ?_, fun passage mem => ?_⟩
    · obtain ⟨way, reached⟩ := h.reached passage mem
      exact ⟨way, reached.subset (List.subset_append_left ..)⟩
    · obtain ⟨way, reached⟩ := h'.reached passage mem
      exact ⟨way, reached.subset (List.subset_append_right ..)⟩
  reports := by
    rw [List.flatMap_append, List.map_append]
    exact h.reports.append h'.reports

/-- **Under a guard** that asks for a crossing, a passage is reached behind that crossing. -/
theorem Reached.under {passage : Passage} {way : List Crossing} (h : Reached deferrals passage way)
    {guard : Guard} {crossing : Crossing} (asks : ∀ context, guard.check context = crossing.walk context)
    (apart : ∀ id ∈ guard.branches, id ∉ passage.guard.branches) :
    Reached (deferrals.map (Deferral.behind crossing)) (passage.under guard) (crossing :: way) where
  leads := by
    obtain ⟨deferral, mem, own, hown, same, rfl⟩ := h.leads
    exact ⟨_, List.mem_map_of_mem mem, own, hown, same, rfl⟩
  check context := by
    rw [Passage.under, Guard.check_under apart, asks, h.check]
    rfl
  reports owner mem := by
    obtain ⟨deferral, mem, same, inside, last, hlast, leads⟩ := h.reports owner mem
    exact ⟨_, List.mem_map_of_mem mem, same, inside, last, hlast, List.cons_prefix_cons.2 ⟨rfl, leads⟩⟩

end Traces

/-! ### The branches of a conditional -/

/-- A conditional that nothing is around, from one of its crossings on. -/
def Deferral.ofCrossings (owner : Nat) (ids : List Nat) (crossings : List Crossing) : Deferral :=
  ⟨owner, ids, [], crossings⟩

/-- **A passage of a branch's own:** its guard asks for the crossing into the branch, and it reports
nothing. -/
structure Run (crossing : Crossing) (passage : Passage) : Prop where
  branch : passage.branch = crossing.branch
  check : ∀ context, passage.guard.check context = crossing.walk context
  reports : passage.reports = []

/-- **The passages of a branch that is entered:** the branch's own, and those of what is left open in
it, which are behind the crossing. Nothing is reported for the branch's own conditional. -/
structure Entered (crossing : Crossing) (deferrals : List Deferral) (passages : List Passage) : Prop where
  reached : ∀ passage ∈ passages,
    Run crossing passage ∨ ∃ way, Reached deferrals passage (crossing :: way)
  reports : (passages.flatMap (·.reports)).Perm (deferrals.map (·.owner))

section Branches

variable {owner : Nat} {ids : List Nat} {crossing : Crossing} {crossings : List Crossing}
  {deferrals more : List Deferral} {passages others : List Passage}

/-- A branch's own passage is reached over the crossing into the branch. -/
theorem Run.reached {passage : Passage} (h : Run crossing passage) (mem : crossing ∈ crossings) :
    Reached (.ofCrossings owner ids crossings :: deferrals) passage [crossing] where
  leads := ⟨_, List.mem_cons_self, crossing, mem, h.branch.symm, rfl⟩
  check context := by
    rw [h.check, walk]
    rcases crossing.walk context with _ | _ | _ <;> rfl
  reports _ found := absurd found (h.reports ▸ List.not_mem_nil)

/-- **What is traced in a body** is traced behind the crossing into its branch. -/
theorem Traced.entered {body : List Piece} (h : Traced deferrals (passagesIn body)) {guard : Guard}
    (asks : ∀ context, guard.check context = crossing.walk context)
    (apart : ∀ inner, .passage inner ∈ body → ∀ id ∈ guard.branches, id ∉ inner.guard.branches) :
    Entered crossing (deferrals.map (Deferral.behind crossing))
      (passagesOf crossing.branch guard body) where
  reached passage mem := by
    rcases mem_passagesOf mem with ⟨branch, own, none⟩ | ⟨inner, hinner, rfl⟩
    · exact .inl ⟨branch, own ▸ asks, none⟩
    · obtain ⟨way, reached⟩ := h.reached inner (mem_passagesIn.2 hinner)
      exact .inr ⟨way, reached.under asks (apart inner hinner)⟩
  reports := by
    rw [reports_passagesOf, List.map_map]
    exact h.reports

/-- **The last branch:** its first passage reports the conditional. -/
theorem Entered.last (owner : Nat) (h : Entered crossing deferrals passages) (nonempty : passages ≠ [])
    (own : crossing.branch ∈ ids)
    (inside : ∀ deferral ∈ deferrals, ∀ inner ∈ deferral.crossings, inner.branch ∈ ids) :
    Traced (.ofCrossings owner ids [crossing] :: deferrals) (reportFirst owner passages) where
  reached := by
    -- in either case the way begins with the crossing, which is the conditional's last
    have found : ∀ passage ∈ passages, ∃ way, passage.branch ∈ ids ∧
        Reached (.ofCrossings owner ids [crossing] :: deferrals) passage (crossing :: way) := by
      intro passage mem
      rcases h.reached passage mem with run | ⟨way, reached⟩
      · exact ⟨[], run.branch ▸ own, run.reached List.mem_cons_self⟩
      · obtain ⟨deferral, hdeferral, inner, hinner, same, -⟩ := reached.leads
        exact ⟨way, same ▸ inside deferral hdeferral inner hinner,
          reached.subset (List.subset_cons_self ..)⟩
    obtain ⟨first, rest, rfl⟩ := List.exists_cons_of_ne_nil nonempty
    obtain ⟨⟨way, branch, reached⟩, others⟩ := List.forall_mem_cons.1 found
    refine List.forall_mem_cons.2 ⟨⟨crossing :: way, reached.leads, reached.check, ?_⟩,
      fun passage mem => (others passage mem).imp' _ fun _ own => own.2⟩
    refine List.forall_mem_append.2 ⟨reached.reports, List.forall_mem_singleton.2 ?_⟩
    exact ⟨_, List.mem_cons_self, rfl, branch, crossing, rfl, List.cons_prefix_cons.2 ⟨rfl, List.nil_prefix⟩⟩
  reports := (reports_reportFirst owner nonempty).trans (h.reports.cons owner)

/-- **A branch in front of others** whose passages are traced from their own crossings on. -/
theorem Entered.fork (h : Entered crossing deferrals passages)
    (h' : Traced (.ofCrossings owner ids crossings :: more) others) :
    Traced (.ofCrossings owner ids (crossing :: crossings) :: (deferrals ++ more)) (passages ++ others) where
  reached := by
    refine List.forall_mem_append.2 ⟨fun passage mem => ?_, fun passage mem => ?_⟩
    · rcases h.reached passage mem with run | ⟨way, reached⟩
      · exact ⟨_, run.reached List.mem_cons_self⟩
      · exact ⟨_, reached.subset (List.subset_cons_of_subset _ (List.subset_append_left ..))⟩
    · refine (h'.reached passage mem).imp fun _ reached => reached.mono ?_
      refine List.forall_mem_cons.2 ⟨⟨_, List.mem_cons_self, [crossing], rfl⟩, fun deferral mem => ?_⟩
      exact ⟨deferral, List.mem_cons_of_mem _ (List.mem_append_right _ mem), .refl deferral⟩
  reports := by
    rw [List.flatMap_append, List.map_cons, List.map_append]
    exact (h.reports.append h'.reports).trans List.perm_middle

/-- **A branch whose body is traced** is entered over its crossing. -/
theorem Traced.entered_branch {format : KeyFormat} {id : Nat} {passed : List BranchCondition}
    {predicate : Option Markup.Condition} {body : List Node} {rest : List (Branch Node)}
    {env middle : Env} {pieces : List Piece} (h : Traced deferrals (passagesIn pieces))
    (apart : BranchesApart owner passed (⟨id, predicate, body⟩ :: rest))
    (sketch : sketchAll format env body = (.ok pieces, middle)) (depth : Nat) :
    Entered ⟨id, owner, passed.map (·.predicate), predicate⟩
      (deferrals.map (Deferral.behind ⟨id, owner, passed.map (·.predicate), predicate⟩))
      (passagesOf id (Guard.ofBranch (predicate.map fun condition => ⟨id, owner, condition⟩) passed)
        (closeSketch depth pieces middle).1) := by
  have head := apart.head
    (closeSketch_within (passagesWithin_sketchAll (List.Subset.refl _) sketch) depth middle)
  rw [← passagesIn_closeSketch depth pieces middle] at h
  exact h.entered (fun context => check_ofBranch_walk apart.owned head.conditions_distinct)
    fun inner => head.apart

end Branches

/-! ### The walk -/

section Walk

variable {format : KeyFormat} {base : Env}

mutual

/-- **What is sketched of a node** is traced, and a signal is raised just if the node stops. -/
theorem traced_sketchNode (node : Node) {env after : Env} {pieces : List Piece} (h : Inside base env)
    (fresh : env.interrupted = false) (goes : node.signal? = none) (plain : actionsIn node.items = [])
    (distinct : (idsIn node.items).Nodup) (sketch : sketchNode format env node = (.ok pieces, after)) :
    after.interrupted = stops base node ∧ Traced (deferralsOf base node) (passagesIn pieces) := by
  match node with
  | .text raw =>
    obtain ⟨sketched, rfl⟩ := Prod.mk.inj sketch
    rw [passagesIn_sketchText sketched]
    exact ⟨fresh, .nil⟩
  | .output source =>
    rw [sketchNode] at sketch
    split at sketch
    · obtain ⟨same, rfl⟩ := Prod.mk.inj sketch
      obtain rfl := Except.ok.inj same
      exact ⟨fresh, .nil⟩
    · obtain ⟨none, kept⟩ := passagesIn_sketchOutcome sketch
      rw [none]
      exact ⟨kept.trans fresh, .nil⟩
  | .tag _ (.interrupt _) => cases goes
  | .tag _ (.leaf _) => exact absurd plain (List.cons_ne_nil _ _)
  | .block _ body => exact traced_sketchAll body h fresh plain distinct sketch
  | .conditional head branches =>
    rw [sketchNode_conditional] at sketch
    rw [stops, deferralsOf]
    generalize found : sketchInside format env branches = sketched at sketch
    obtain ⟨result, last⟩ := sketched
    obtain ⟨rfl, rfl⟩ := Prod.mk.inj sketch
    rw [sketchInside, h.isPersonal] at found
    rw [interrupted_leave]
    cases personal : isPersonal base branches with
    | false =>
      rw [personal] at found
      exact traced_sketchChosen branches h.enter fresh plain distinct found
    | true =>
      rw [if_pos personal] at found
      obtain ⟨passages, opened, rfl⟩ := passagePieces_ok found
      have nonempty : branches ≠ [] := by
        rintro rfl
        cases personal
      rw [passagesIn_map]
      have quiet : (env.enter ∅).interrupts = [] := interrupted_eq_false.1 fresh
      have dropped := interrupts_sketchBranches quiet opened
      exact ⟨interrupted_eq_false.2 dropped, traced_sketchBranches branches nonempty h.enter fresh
        (List.Subset.refl _) (branchesApart_start distinct plain) opened⟩
termination_by structural node

/-- **What is sketched of nodes in a row** is traced. -/
theorem traced_sketchAll (nodes : List Node) {env after : Env} {pieces : List Piece} (h : Inside base env)
    (fresh : env.interrupted = false) (plain : actionsIn (itemsOf nodes) = [])
    (distinct : (idsIn (itemsOf nodes)).Nodup) (sketch : sketchAll format env nodes = (.ok pieces, after)) :
    after.interrupted = stopsAny base nodes ∧ Traced (deferralsIn base nodes) (passagesIn pieces) := by
  match nodes with
  | [] =>
    obtain ⟨same, rfl⟩ := Prod.mk.inj sketch
    obtain rfl := Except.ok.inj same
    exact ⟨fresh, .nil⟩
  | node :: rest =>
    rw [itemsOf, Tree.actionsIn_append, List.append_eq_nil_iff] at plain
    rw [itemsOf, Tree.idsIn_append, List.nodup_append] at distinct
    rw [stopsAny, deferralsIn]
    cases signal : node.signal? with
    | some raised =>
      rw [sketchAll_signal signal, fresh] at sketch
      obtain ⟨same, rfl⟩ := Prod.mk.inj sketch
      obtain rfl := Except.ok.inj same
      match node with
      | .tag _ (.interrupt _) => exact ⟨rfl, .nil⟩
    | none =>
      rw [sketchAll_cons signal, fresh] at sketch
      generalize hnode : sketchNode format env node = sketched at sketch
      match sketched with
      | (.error fault, _) => cases (Prod.mk.inj sketch).1
      | (.ok first, middle) =>
        obtain ⟨more, hrest, rfl⟩ := Sketched.after_ok sketch
        obtain ⟨raised, traced⟩ := traced_sketchNode node h fresh signal plain.1 distinct.1 hnode
        rw [passagesIn_append]
        cases ended : stops base node with
        | true =>
          rw [ended] at raised
          rw [sketchAll_interrupted raised] at hrest
          obtain ⟨same, rfl⟩ := Prod.mk.inj hrest
          obtain rfl := Except.ok.inj same
          exact ⟨raised, traced.append .nil⟩
        | false =>
          have inside := h.of_bare (bare_sketchNode plain.1 hnode)
          have others := traced_sketchAll rest inside (raised.trans ended) plain.2 distinct.2.1 hrest
          exact ⟨others.1, traced.append others.2⟩
termination_by structural nodes

/-- What is sketched of the branch that is chosen is traced. -/
theorem traced_sketchChosen (branches : List (Branch Node)) {env after : Env} {pieces : List Piece}
    (h : Inside base env) (fresh : env.interrupted = false)
    (plain : actionsIn (itemsOfBranches branches) = [])
    (distinct : (idsIn (itemsOfBranches branches)).Nodup)
    (sketch : sketchChosen format env branches = (.ok pieces, after)) :
    after.interrupted = stopsChosen base branches ∧
      Traced (deferralsInChosen base branches) (passagesIn pieces) := by
  match branches with
  | [] =>
    obtain ⟨same, rfl⟩ := Prod.mk.inj sketch
    obtain rfl := Except.ok.inj same
    exact ⟨fresh, .nil⟩
  | ⟨id, predicate, body⟩ :: rest =>
    rw [itemsOfBranches, Tree.actionsIn_branch, Tree.actionsIn_append, List.append_eq_nil_iff] at plain
    rw [itemsOfBranches, Tree.idsIn_branch, Tree.idsIn_append] at distinct
    have distinct := List.nodup_append.1 (List.nodup_cons.1 distinct).2
    cases predicate with
    | none => exact traced_sketchAll body h fresh plain.1 distinct.1 sketch
    | some condition =>
      rw [sketchChosen, h.evalCondition] at sketch
      rw [stopsChosen, deferralsInChosen]
      generalize Render.evalCondition base condition = outcome at sketch ⊢
      match outcome with
      | .error fault =>
        obtain ⟨none, kept⟩ := passagesIn_sketchOutcome sketch
        rw [none]
        exact ⟨kept.trans fresh, .nil⟩
      | .ok true => exact traced_sketchAll body h fresh plain.1 distinct.1 sketch
      | .ok false => exact traced_sketchChosen rest h fresh plain.2 distinct.2.1 sketch
termination_by structural branches

/-- **What is sketched of the branches of a conditional** is traced from the crossings into them on. -/
theorem traced_sketchBranches (branches : List (Branch Node)) (nonempty : branches ≠ [])
    {owner : Nat} {ids : List Nat} {passed : List BranchCondition} {env after : Env}
    {passages : List Passage} (h : Inside base env) (fresh : env.interrupted = false)
    (sub : idsIn (itemsOfBranches branches) ⊆ ids) (apart : BranchesApart owner passed branches)
    (sketch : sketchBranches format owner passed env branches = (.ok passages, after)) :
    Traced (.ofCrossings owner ids (crossingsAt owner (passed.map (·.predicate)) branches) ::
      deferralsBehind base owner (passed.map (·.predicate)) branches) passages := by
  match branches with
  | [] => exact absurd rfl nonempty
  | ⟨id, predicate, body⟩ :: rest =>
    rw [itemsOfBranches, Tree.idsIn_branch, Tree.idsIn_append] at sub
    obtain ⟨own, sub⟩ := List.cons_subset.1 sub
    obtain ⟨subBody, subRest⟩ := List.append_subset.1 sub
    obtain ⟨pieces, middle, hbody, outcome⟩ := sketchBranches_ok sketch
    obtain ⟨-, traced⟩ := traced_sketchAll body h fresh apart.plain_body apart.distinct_body hbody
    have entered := traced.entered_branch apart hbody env.interrupts.length
    rcases outcome with ⟨last, rfl, -⟩ | ⟨condition, more, rfl, left, others, rfl⟩
    · have nest := (nest_nodes base body apart.distinct_body).weaken subBody
      have result := entered.last owner (passagesOf_ne_nil _ _ _) own (List.forall_mem_map.2 nest.crossing_mem)
      cases predicate with
      | none =>
        rw [crossingsAt_none, deferralsBehind, List.append_nil]
        exact result
      | some condition =>
        obtain rfl := last.resolve_left (Option.some_ne_none condition)
        rw [crossingsAt_some, deferralsBehind, deferralsBehind, List.append_nil]
        exact result
    · have closed : (closeSketch env.interrupts.length pieces middle).2.interrupted = false := by
        rw [interrupted_eq_false.1 fresh]
        exact interrupted_eq_false.2 (interrupts_closeSketch pieces middle)
      have bare := (bare_closeSketch env.interrupts.length pieces middle).trans
        (bare_sketchAll apart.plain_body hbody)
      have later := traced_sketchBranches rest left (h.of_bare bare) closed subRest (apart.tail condition)
        others
      rw [List.map_append] at later
      exact entered.fork later
termination_by structural branches

end

end Walk

end Outline
end MailMerge
