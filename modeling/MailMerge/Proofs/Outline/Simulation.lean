/-
# Reading a sketch is rendering

A sketch is made once, in the environment of the data that all recipients share. What a
recipient reads of it is what rendering the nodes gives in an environment in which every
name has the recipient's value: the same text, with all output ended in both or in neither.
-/

import MailMerge.Proofs.Outline.Branching

namespace MailMerge
namespace Outline

open MailMerge.Tree (Node Branch itemsOf itemsOfBranches idsIn actionsIn)
open Render (Env Outcome Shares SameData)

/-- **What nodes render to is what is read:** the text, and whether output has ended,
be it in a passage or in the sketch. -/
structure Reads (after : Env) (outcome : Outcome) (filled : Filled) : Prop where
  text : outcome.1 = .ok filled.1
  stops : outcome.2.interrupted = (filled.2 || after.interrupted)

theorem interrupted_eq_false {env : Env} : env.interrupted = false ↔ env.interrupts = [] := by
  simp [Env.interrupted]

section Nodes

variable {own : Env} {entry : Slot → String} {format : KeyFormat}

theorem interrupted_contained (outcome : Outcome) :
    outcome.contained.2.interrupted = outcome.2.interrupted := by
  obtain ⟨_ | _, env⟩ := outcome
  · simp only [Outcome.contained, Env.contain]
    split <;> rfl
  · rfl

theorem interrupted_leave (env : Env) : env.leave.interrupted = env.interrupted := by
  unfold Env.leave
  split <;> rfl

/-- A text that is sketched reads as it is. -/
theorem readPieces_sketchText {text : String} {pieces : List Piece}
    (h : sketchText format text = .ok pieces) : readPieces own entry pieces = (text, false) := by
  unfold sketchText at h
  split at h
  · cases h
  · split at h
    · rename_i empty
      obtain rfl := Except.ok.inj h
      rw [String.isEmpty_iff.1 empty]
      rfl
    · obtain rfl := Except.ok.inj h
      simp [readPieces, readPiece, fillPart]

/-- **What is rendered at once** is read as it was rendered. -/
theorem reads_sketchOutcome {shared direct after : Env} {result : Except Render.Fault String}
    {pieces : List Piece} (strict : direct.strict = shared.strict)
    (same : direct.interrupted = shared.interrupted)
    (sketch : sketchOutcome format (result, shared) = (.ok pieces, after)) :
    Reads after (Outcome.contained (result, direct)) (readPieces own entry pieces) := by
  have text := Render.contained_fst result shared
  have stops := interrupted_contained (result, shared)
  unfold sketchOutcome at sketch
  generalize Outcome.contained (result, shared) = contained at sketch text stops
  match contained with
  | (.error fault, _) => cases sketch
  | (.ok found, env) =>
    obtain ⟨sketched, rfl⟩ := Prod.mk.inj sketch
    rw [readPieces_sketchText sketched]
    refine ⟨?_, ?_⟩
    · rw [Render.contained_fst, strict, ← text]
    · rw [interrupted_contained, same]
      exact stops.symm

/-- What is left of a scope after rendering is read as in the scope. -/
theorem Reads.leave {after : Env} {outcome : Outcome} {filled : Filled}
    (h : Reads after outcome.contained filled) :
    Reads after.leave (Outcome.contained (outcome.1, outcome.2.leave)) filled := by
  refine ⟨?_, ?_⟩
  · rw [contained_leave]
    exact h.text
  · rw [contained_leave, interrupted_leave, interrupted_leave]
    exact h.stops

/-- **Two walks side by side:** one renders with the data of a recipient, the other sketches
with the data all share, and no signal is pending in either. -/
structure Beside (own shared direct : Env) : Prop where
  shares : Shares shared own
  same : SameData direct own
  shared_fresh : shared.interrupts = []
  direct_fresh : direct.interrupts = []

theorem Beside.enter {shared direct : Env} (h : Beside own shared direct) :
    Beside own (shared.enter ∅) (direct.enter ∅) :=
  ⟨h.shares.enter, h.same.enter, h.shared_fresh, h.direct_fresh⟩

theorem Beside.interrupted {shared direct : Env} (h : Beside own shared direct) :
    direct.interrupted = shared.interrupted := by
  rw [Env.interrupted, Env.interrupted, h.shared_fresh, h.direct_fresh]

theorem Beside.strict {shared direct : Env} (h : Beside own shared direct) :
    direct.strict = shared.strict := h.same.strict.symm.trans h.shares.strict

/-- Nothing is rendered while a signal is pending. -/
theorem renderAll_interrupted {env : Env} (pending : env.interrupted = true) (nodes : List Node) :
    Render.renderAll env nodes = (.ok "", env) := by
  cases nodes with
  | nil => rfl
  | cons node rest =>
    cases stop : node.signal? with
    | none => rw [Render.renderAll_cons stop, if_pos pending]
    | some signal => rw [Render.renderAll_signal stop, if_pos pending]

/-- Nothing is sketched while a signal is pending. -/
theorem sketchAll_interrupted {env : Env} (pending : env.interrupted = true) (nodes : List Node) :
    sketchAll format env nodes = (.ok [], env) := by
  cases nodes with
  | nil => rfl
  | cons node rest =>
    cases stop : node.signal? with
    | none => rw [sketchAll_cons stop, if_pos pending]
    | some signal => rw [sketchAll_signal stop, if_pos pending]

/-- **Reading goes on** with what follows, if output does. -/
theorem Reads.append {middle after env : Env} {text : String} {first more : List Piece}
    {rest : List Node} (h : Reads middle (.ok text, env) (readPieces own entry first))
    (sketch : sketchAll format middle rest = (.ok more, after))
    (others : middle.interrupts = [] → env.interrupts = [] →
      Reads after (Render.renderAll env rest) (readPieces own entry more)) :
    Reads after ((Render.renderAll env rest).after text) (readPieces own entry (first ++ more)) := by
  obtain ⟨found, stops⟩ := h
  obtain rfl := Except.ok.inj found
  dsimp only at stops
  rw [readPieces_append]
  generalize readPieces own entry first = filled at stops ⊢
  obtain ⟨text, ends⟩ := filled
  cases pending : env.interrupted with
  | true =>
    rw [renderAll_interrupted pending]
    rw [pending] at stops
    cases ends with
    | true => exact ⟨congrArg _ String.append_empty, pending⟩
    | false =>
      -- the signal was raised by shared data alone, so the sketch has ended too
      have ended : middle.interrupted = true := by simpa using stops.symm
      rw [sketchAll_interrupted ended] at sketch
      obtain ⟨same, rfl⟩ := Prod.mk.inj sketch
      obtain rfl := Except.ok.inj same
      refine ⟨rfl, ?_⟩
      rw [ended, Bool.or_true]
      exact pending
  | false =>
    rw [pending] at stops
    obtain ⟨goes, fresh⟩ := Bool.or_eq_false_iff.1 stops.symm
    dsimp only at goes
    subst goes
    have read := others (interrupted_eq_false.1 fresh) (interrupted_eq_false.1 pending)
    generalize Render.renderAll env rest = last at read ⊢
    obtain ⟨result, final⟩ := last
    obtain ⟨same, last_stops⟩ := read
    dsimp only at same
    subst same
    exact ⟨rfl, last_stops⟩

/-- The branches of a conditional before any is passed over. -/
theorem branchesApart_start {branches : List (Branch Node)}
    (distinct : (idsIn (itemsOfBranches branches)).Nodup) (plain : actionsIn (itemsOfBranches branches) = []) :
    BranchesApart ((Tree.conditionalId? branches).getD 0) [] branches where
  distinct := distinct
  foreign branch mem found := by
    have inside : ∀ others : List (Branch Node), branch ∈ others →
        idsIn (itemsOf branch.body) ⊆ idsIn (itemsOfBranches others) := by
      intro others
      induction others with
      | nil => exact fun mem => (List.not_mem_nil mem).elim
      | cons first rest ih =>
        obtain ⟨id, predicate, body⟩ := first
        rw [itemsOfBranches, Tree.idsIn_branch, Tree.idsIn_append]
        intro mem
        rcases List.mem_cons.1 mem with rfl | mem
        · exact fun _ found => List.mem_cons_of_mem _ (List.mem_append_left _ found)
        · exact fun _ found => List.mem_cons_of_mem _ (List.mem_append_right _ (ih mem found))
    obtain ⟨first, rest, rfl⟩ := List.exists_cons_of_ne_nil (List.ne_nil_of_mem mem)
    obtain ⟨id, predicate, body⟩ := first
    rw [itemsOfBranches, Tree.idsIn_branch, Tree.idsIn_append] at distinct
    refine (List.nodup_cons.1 distinct).1 ?_
    rcases List.mem_cons.1 mem with rfl | mem
    · exact List.mem_append_left _ found
    · exact List.mem_append_right _ (inside rest mem found)
  owned _ mem := (List.not_mem_nil mem).elim
  plain := plain

theorem Beside.of_bare {shared direct middle env : Env} (h : Beside own shared direct)
    (shared_same : middle.bare = shared.bare) (direct_same : env.bare = direct.bare)
    (shared_fresh : middle.interrupts = []) (direct_fresh : env.interrupts = []) :
    Beside own middle env :=
  ⟨h.shares.of_bare shared_same, h.same.of_bare direct_same, shared_fresh, direct_fresh⟩

theorem Reads.close {middle : Env} {outcome : Outcome} {pieces : List Piece}
    (h : Reads middle outcome (readPieces own entry pieces)) :
    Reads (closeSketch 0 pieces middle).2 outcome
      (readPieces own entry (closeSketch 0 pieces middle).1) := by
  rw [readPieces_closeSketch]
  refine ⟨h.text, ?_⟩
  rw [interrupted_eq_false.2 (interrupts_closeSketch pieces middle), Bool.or_false]
  exact h.stops

/-! ### A branch of a personal conditional -/

section Personal

variable {owner id : Nat} {passed : List BranchCondition} {predicate : Option Markup.Condition}
  {body : List Node} {rest : List (Branch Node)} {shared direct after : Env} {passages : List Passage}
  (beside : Beside own shared direct)
  (apart : BranchesApart owner passed (⟨id, predicate, body⟩ :: rest))
  (none_held : passedOver own passed = .ok true)
  (sketch : sketchBranches format owner passed shared (⟨id, predicate, body⟩ :: rest) =
    (.ok passages, after))
  (answers : Answers own entry (passages.map .passage))

include beside apart none_held sketch answers

/-- **The branch that is rendered** is read, and no other. -/
theorem reads_shown (holds : ∀ condition ∈ predicate, Render.evalCondition own condition = .ok true)
    (body_reads : ∀ {pieces : List Piece} {middle : Env}, sketchAll format shared body = (.ok pieces, middle) →
      Answers own entry pieces → Reads middle (Render.renderAll direct body) (readPieces own entry pieces)) :
    Reads after (Render.renderAll direct body) (readPassages own entry passages) := by
  obtain ⟨pieces, middle, hbody, outcome⟩ := sketchBranches_ok sketch
  have fresh := interrupts_sketchBranches beside.shared_fresh sketch
  rw [beside.shared_fresh, List.length_nil] at outcome
  have within := passagesWithin_sketchAll (List.Subset.refl _) hbody
  have head := apart.head (closeSketch_within within 0 middle)
  have check : (Guard.ofBranch (predicate.map fun condition => ⟨id, owner, condition⟩) passed).check own =
      .ok true := by
    rw [Guard.check_ofBranch head.conditions_distinct, none_held]
    cases predicate with
    | none => rfl
    | some condition => simp [Guard.checkTerms, holds condition rfl]
  obtain ⟨shown, shown_reporting⟩ := head.readPassages_shown entry id check
  have closed : Answers own entry (closeSketch 0 pieces middle).1 →
      Reads (closeSketch 0 pieces middle).2 (Render.renderAll direct body)
        (readPieces own entry (closeSketch 0 pieces middle).1) := fun answered =>
    (body_reads hbody (answered.subset (subset_closeSketch 0 pieces middle))).close
  rcases outcome with ⟨-, rfl, rfl⟩ | ⟨condition, more, rfl, left, others, rfl⟩
  · rw [shown_reporting]
    exact closed (answers.unreport.body (fun inner mem => head.apart mem) check)
  · rw [List.map_append] at answers
    have read := closed ((answers.subset (List.subset_append_left ..)).body
      (fun inner mem => head.apart mem) check)
    -- the later branches ask this one not to hold, and nothing of them is shown
    have excluded : passedOver own (passed ++ [⟨id, owner, condition⟩]) = .ok false := by
      rw [passedOver_concat, none_held]
      simp [Guard.checkTerms, holds condition rfl]
    have nothing := (readPassages_unreached left (apart.tail condition) (by simp [excluded]) others
      (answers.subset (List.subset_append_right ..))).1
    rw [excluded] at nothing
    dsimp only [Option.map] at shown
    rw [readPassages_append, shown, nothing]
    refine ⟨?_, ?_⟩
    · rw [reported, Filled.andThen_nil]
      exact read.text
    · rw [reported, Filled.andThen_nil, interrupted_eq_false.2 fresh]
      rw [← interrupted_eq_false.2 (interrupts_closeSketch pieces middle)]
      exact read.stops

/-- **A predicate that fails** leaves its fault in place of the conditional. -/
theorem reads_failed {condition : Markup.Condition} (own_predicate : predicate = some condition)
    {fault : Render.Fault} (failed : Render.evalCondition own condition = .error fault) :
    Reads after (Outcome.contained (.error fault, direct)) (readPassages own entry passages) := by
  subst own_predicate
  obtain ⟨pieces, middle, hbody, outcome⟩ := sketchBranches_ok sketch
  have fresh := interrupts_sketchBranches beside.shared_fresh sketch
  have within := passagesWithin_sketchAll (List.Subset.refl _) hbody
  have head := apart.head (closeSketch_within within shared.interrupts.length middle)
  dsimp only [Option.map] at outcome head
  have check : (Guard.ofBranch (some ⟨id, owner, condition⟩) passed).check own = .error (owner, fault) := by
    rw [Guard.check_ofBranch head.conditions_distinct, none_held]
    simp [Guard.checkTerms, failed]
  have hidden : (Guard.ofBranch (some ⟨id, owner, condition⟩) passed).check own ≠ .ok true := by
    simp [check]
  have read : readPassages own entry passages = (fault.text, false) ∧ own.strict = false := by
    rcases outcome with ⟨-, rfl, -⟩ | ⟨other, more, same, left, others, rfl⟩
    · refine ⟨?_, head.contained_of_error id answers check⟩
      rw [(head.readPassages_hidden entry id hidden).2, check]
      rfl
    · obtain rfl := Option.some.inj same
      have excluded : passedOver own (passed ++ [⟨id, owner, condition⟩]) = .error (owner, fault) := by
        rw [passedOver_concat, none_held]
        simp [Guard.checkTerms, failed]
      rw [List.map_append] at answers
      obtain ⟨read, contained⟩ := readPassages_unreached left (apart.tail condition) (by simp [excluded])
        others (answers.subset (List.subset_append_right ..))
      refine ⟨?_, contained owner fault excluded⟩
      rw [readPassages_append, (head.readPassages_hidden entry id hidden).1, Filled.nil_andThen, read,
        excluded]
      rfl
  rw [read.1]
  refine ⟨?_, ?_⟩
  · rw [Render.contained_fst, ← beside.same.strict, read.2]
    rfl
  · rw [interrupted_contained, interrupted_eq_false.2 fresh]
    exact interrupted_eq_false.2 beside.direct_fresh

/-- **A branch that is passed over** leaves what is read to the others. -/
theorem reads_passed {condition : Markup.Condition} (own_predicate : predicate = some condition)
    (passes : Render.evalCondition own condition = .ok false)
    (rest_reads : ∀ {middle : Env} {more : List Passage}, Beside own middle direct →
      BranchesApart owner (passed ++ [⟨id, owner, condition⟩]) rest →
      passedOver own (passed ++ [⟨id, owner, condition⟩]) = .ok true →
      sketchBranches format owner (passed ++ [⟨id, owner, condition⟩]) middle rest = (.ok more, after) →
      Answers own entry (more.map .passage) →
      Reads after (Render.renderBranches direct rest).contained (readPassages own entry more)) :
    Reads after (Render.renderBranches direct rest).contained (readPassages own entry passages) := by
  subst own_predicate
  obtain ⟨pieces, middle, hbody, outcome⟩ := sketchBranches_ok sketch
  have fresh := interrupts_sketchBranches beside.shared_fresh sketch
  rw [beside.shared_fresh, List.length_nil] at outcome
  have within := passagesWithin_sketchAll (List.Subset.refl _) hbody
  have closed_within := closeSketch_within within 0 middle
  have closed_bare := bare_closeSketch 0 pieces middle
  have head := apart.head closed_within
  dsimp only [Option.map] at outcome head
  have check : (Guard.ofBranch (some ⟨id, owner, condition⟩) passed).check own = .ok false := by
    rw [Guard.check_ofBranch head.conditions_distinct, none_held]
    simp [Guard.checkTerms, passes]
  have hidden : (Guard.ofBranch (some ⟨id, owner, condition⟩) passed).check own ≠ .ok true := by
    simp [check]
  obtain ⟨nothing, nothing_reporting⟩ := head.readPassages_hidden entry id hidden
  rcases outcome with ⟨last, rfl, -⟩ | ⟨other, more, same, left, others, rfl⟩
  · obtain rfl := last.resolve_left (Option.some_ne_none condition)
    rw [nothing_reporting, check]
    refine ⟨rfl, ?_⟩
    rw [interrupted_eq_false.2 fresh]
    exact interrupted_eq_false.2 beside.direct_fresh
  · obtain rfl := Option.some.inj same
    rw [readPassages_append, nothing, Filled.nil_andThen]
    rw [List.map_append] at answers
    refine rest_reads ?_ (apart.tail condition) ?_ others (answers.subset (List.subset_append_right ..))
    · exact beside.of_bare (closed_bare.trans (bare_sketchAll apart.plain_body hbody)) rfl
        (interrupts_closeSketch pieces middle) beside.direct_fresh
    · rw [passedOver_concat, none_held]
      simp [Guard.checkTerms, passes]

end Personal

/-! ### Nodes -/

/-- A text that stands in the template is read as it is rendered. -/
theorem reads_text {raw : String} {shared direct after : Env} {pieces : List Piece}
    (beside : Beside own shared direct)
    (sketch : sketchNode format shared (.text raw) = (.ok pieces, after)) :
    Reads after (Render.renderNode direct (.text raw)).contained (readPieces own entry pieces) := by
  obtain ⟨sketched, rfl⟩ := Prod.mk.inj sketch
  rw [readPieces_sketchText sketched]
  refine ⟨rfl, ?_⟩
  rw [Bool.false_or]
  exact beside.interrupted

/-- **An output** is read from the recipient's entry, or as it was rendered for all. -/
theorem reads_output {source : Tree.Output} {shared direct after : Env} {pieces : List Piece}
    (beside : Beside own shared direct)
    (sketch : sketchNode format shared (.output source) = (.ok pieces, after))
    (answers : Answers own entry pieces) :
    Reads after (Render.renderNode direct (.output source)).contained (readPieces own entry pieces) := by
  have own_result : Render.renderOutput own source = Render.renderOutput direct source :=
    Render.renderOutput_agree source (beside.same.agreesOn source.names)
  rw [sketchNode] at sketch
  split at sketch
  · obtain ⟨same, rfl⟩ := Prod.mk.inj sketch
    obtain rfl := Except.ok.inj same
    have settled := answers.output _ (List.mem_singleton_self _) source (List.mem_singleton_self _)
    have read : readPieces own entry [.part (.output source)] = (entry (.output source.id), false) :=
      Filled.andThen_nil _
    rw [read]
    refine ⟨?_, ?_⟩
    · rw [Render.renderNode, Render.contained_fst, ← beside.same.strict, ← own_result]
      exact settled
    · rw [Render.renderNode, interrupted_contained, Bool.false_or]
      exact beside.interrupted
  · rename_i unselected
    have shared_result : Render.renderOutput own source = Render.renderOutput shared source :=
      Render.renderOutput_agree source (beside.shares.agreesOn (Bool.eq_false_iff.2 unselected))
    rw [Render.renderNode, ← own_result, shared_result]
    exact reads_sketchOutcome beside.strict beside.interrupted sketch

/-- Pieces that are sketched after others. -/
theorem Sketched.after_ok {sketched : Sketched Piece} {first all : List Piece} {last : Env}
    (h : sketched.after first = (.ok all, last)) :
    ∃ more, sketched = (.ok more, last) ∧ first ++ more = all := by
  obtain ⟨_ | more, env⟩ := sketched
  · cases (Prod.mk.inj h).1
  · obtain ⟨same, rfl⟩ := Prod.mk.inj h
    exact ⟨more, rfl, Except.ok.inj same⟩

/-- Passages that are pieces. -/
theorem passagePieces_ok {sketched : Sketched Passage} {pieces : List Piece} {last : Env}
    (h : passagePieces sketched = (.ok pieces, last)) :
    ∃ passages, sketched = (.ok passages, last) ∧ passages.map .passage = pieces := by
  obtain ⟨_ | passages, env⟩ := sketched
  · cases (Prod.mk.inj h).1
  · obtain ⟨same, rfl⟩ := Prod.mk.inj h
    exact ⟨passages, rfl, Except.ok.inj same⟩

/-- Neither the first predicate of a conditional nor the others read a personal name. -/
theorem isPersonal_cons_eq_false {env : Env} {id : Nat} {condition : Markup.Condition} {body : List Node}
    {rest : List (Branch Node)} (h : isPersonal env (⟨id, some condition, body⟩ :: rest) = false) :
    env.selects condition.names = false ∧ isPersonal env rest = false :=
  Bool.or_eq_false_iff.1 h

/-- The nodes of a conditional are read if its branches are, in a scope of their own. -/
theorem reads_conditional (head : Source.TagHead) {branches : List (Branch Node)} {shared direct after : Env}
    {pieces : List Piece} (sketch : sketchNode format shared (.conditional head branches) = (.ok pieces, after))
    (inside : ∀ {last : Env}, sketchInside format shared branches = (.ok pieces, last) →
      Reads last (Render.renderBranches (direct.enter ∅) branches).contained
        (readPieces own entry pieces)) :
    Reads after (Render.renderNode direct (.conditional head branches)).contained
      (readPieces own entry pieces) := by
  rw [sketchNode_conditional] at sketch
  generalize sketchInside format shared branches = sketched at sketch inside
  obtain ⟨result, last⟩ := sketched
  obtain ⟨found, rfl⟩ := Prod.mk.inj sketch
  exact (inside (congrArg (·, last) found)).leave

mutual

/-- **What a node renders to** is what is read of its sketch. -/
theorem reads_sketchNode (node : Node) {shared direct after : Env} {pieces : List Piece}
    (beside : Beside own shared direct) (goes : node.signal? = none) (plain : actionsIn node.items = [])
    (distinct : (idsIn node.items).Nodup) (sketch : sketchNode format shared node = (.ok pieces, after))
    (answers : Answers own entry pieces) :
    Reads after (Render.renderNode direct node).contained (readPieces own entry pieces) := by
  match node with
  | .text _ => exact reads_text beside sketch
  | .output _ => exact reads_output beside sketch answers
  | .tag _ (.interrupt _) => cases goes
  | .tag _ (.leaf _) => exact absurd plain (List.cons_ne_nil _ _)
  | .block _ body =>
    rw [Render.renderNode, Render.contained_renderAll]
    exact reads_sketchAll body beside plain distinct sketch answers
  | .conditional head branches =>
    refine reads_conditional head sketch fun {last} inside => ?_
    unfold sketchInside at inside
    split at inside
    · obtain ⟨passages, found, rfl⟩ := passagePieces_ok inside
      exact reads_sketchBranches branches _ [] beside.enter (branchesApart_start distinct plain) rfl
        found answers
    · rename_i shared_only
      exact reads_sketchChosen branches beside.enter (Bool.eq_false_iff.2 shared_only) plain distinct
        inside answers
termination_by structural node

/-- **What nodes in a row render to** is what is read of their sketch. -/
theorem reads_sketchAll (nodes : List Node) {shared direct after : Env} {pieces : List Piece}
    (beside : Beside own shared direct) (plain : actionsIn (itemsOf nodes) = [])
    (distinct : (idsIn (itemsOf nodes)).Nodup)
    (sketch : sketchAll format shared nodes = (.ok pieces, after)) (answers : Answers own entry pieces) :
    Reads after (Render.renderAll direct nodes) (readPieces own entry pieces) := by
  match nodes with
  | [] =>
    obtain ⟨same, rfl⟩ := Prod.mk.inj sketch
    obtain rfl := Except.ok.inj same
    exact ⟨rfl, beside.interrupted⟩
  | node :: rest =>
    rw [itemsOf, Tree.actionsIn_append, List.append_eq_nil_iff] at plain
    rw [itemsOf, Tree.idsIn_append, List.nodup_append] at distinct
    have shared_goes : ¬ shared.interrupted = true := by
      rw [interrupted_eq_false.2 beside.shared_fresh]
      exact Bool.false_ne_true
    have direct_goes : ¬ direct.interrupted = true := by
      rw [interrupted_eq_false.2 beside.direct_fresh]
      exact Bool.false_ne_true
    cases stop : node.signal? with
    | some signal =>
      rw [sketchAll_signal stop, if_neg shared_goes] at sketch
      obtain ⟨same, rfl⟩ := Prod.mk.inj sketch
      obtain rfl := Except.ok.inj same
      rw [Render.renderAll_signal stop, if_neg direct_goes]
      refine ⟨rfl, ?_⟩
      simp [Env.interrupted, Env.interrupt]
    | none =>
      rw [sketchAll_cons stop, if_neg shared_goes] at sketch
      rw [Render.renderAll_cons stop, if_neg direct_goes]
      generalize hnode : sketchNode format shared node = sketched at sketch
      match sketched with
      | (.error fault, _) => cases (Prod.mk.inj sketch).1
      | (.ok first, middle) =>
        obtain ⟨more, hrest, rfl⟩ := Sketched.after_ok sketch
        have read := reads_sketchNode node beside stop plain.1 distinct.1 hnode
          (answers.subset (List.subset_append_left ..))
        have direct_bare := (Render.bare_contained _).trans (Render.bare_renderNode node direct plain.1)
        generalize (Render.renderNode direct node).contained = rendered at read direct_bare ⊢
        obtain ⟨result, env⟩ := rendered
        obtain rfl := read.text
        refine read.append hrest fun shared_fresh direct_fresh => ?_
        exact reads_sketchAll rest
          (beside.of_bare (bare_sketchNode plain.1 hnode) direct_bare shared_fresh direct_fresh)
          plain.2 distinct.2.1 hrest (answers.subset (List.subset_append_right ..))
termination_by structural nodes

/-- **A conditional that reads no personal name** renders the branch that was sketched. -/
theorem reads_sketchChosen (branches : List (Branch Node)) {shared direct after : Env}
    {pieces : List Piece} (beside : Beside own shared direct)
    (shared_only : isPersonal shared branches = false) (plain : actionsIn (itemsOfBranches branches) = [])
    (distinct : (idsIn (itemsOfBranches branches)).Nodup)
    (sketch : sketchChosen format shared branches = (.ok pieces, after))
    (answers : Answers own entry pieces) :
    Reads after (Render.renderBranches direct branches).contained (readPieces own entry pieces) := by
  match branches with
  | [] =>
    obtain ⟨same, rfl⟩ := Prod.mk.inj sketch
    obtain rfl := Except.ok.inj same
    exact ⟨rfl, beside.interrupted⟩
  | ⟨id, predicate, body⟩ :: rest =>
    rw [itemsOfBranches, Tree.actionsIn_branch, Tree.actionsIn_append, List.append_eq_nil_iff] at plain
    rw [itemsOfBranches, Tree.idsIn_branch, Tree.idsIn_append] at distinct
    have distinct := List.nodup_append.1 (List.nodup_cons.1 distinct).2
    have body_reads : sketchAll format shared body = (.ok pieces, after) →
        Reads after (Render.renderAll direct body).contained (readPieces own entry pieces) := by
      intro sketched
      rw [Render.contained_renderAll]
      exact reads_sketchAll body beside plain.1 distinct.1 sketched answers
    cases predicate with
    | none => exact body_reads sketch
    | some condition =>
      obtain ⟨unselected, rest_shared⟩ := isPersonal_cons_eq_false shared_only
      have shared_outcome : Render.evalCondition own condition = Render.evalCondition shared condition :=
        Render.evalCondition_agree condition (beside.shares.agreesOn unselected).get
      have direct_outcome : Render.evalCondition own condition = Render.evalCondition direct condition :=
        Render.evalCondition_agree condition (beside.same.agreesOn _).get
      rw [sketchChosen, ← shared_outcome] at sketch
      rw [Render.renderBranches, ← direct_outcome]
      generalize Render.evalCondition own condition = outcome at sketch ⊢
      match outcome with
      | .error fault => exact reads_sketchOutcome beside.strict beside.interrupted sketch
      | .ok true => exact body_reads sketch
      | .ok false =>
        exact reads_sketchChosen rest beside rest_shared plain.2 distinct.2.1 sketch answers
termination_by structural branches

/-- **A conditional that reads a personal name** renders what is read of its passages. -/
theorem reads_sketchBranches (branches : List (Branch Node)) (owner : Nat) (passed : List BranchCondition)
    {shared direct after : Env} {passages : List Passage} (beside : Beside own shared direct)
    (apart : BranchesApart owner passed branches) (none_held : passedOver own passed = .ok true)
    (sketch : sketchBranches format owner passed shared branches = (.ok passages, after))
    (answers : Answers own entry (passages.map .passage)) :
    Reads after (Render.renderBranches direct branches).contained (readPassages own entry passages) := by
  match branches with
  | [] =>
    obtain ⟨same, rfl⟩ := Prod.mk.inj sketch
    obtain rfl := Except.ok.inj same
    exact ⟨rfl, beside.interrupted⟩
  | ⟨id, predicate, body⟩ :: rest =>
    have shown : (∀ condition ∈ predicate, Render.evalCondition own condition = .ok true) →
        Reads after (Render.renderAll direct body).contained (readPassages own entry passages) := by
      intro holds
      rw [Render.contained_renderAll]
      exact reads_shown beside apart none_held sketch answers holds fun found answered =>
        reads_sketchAll body beside apart.plain_body apart.distinct_body found answered
    cases predicate with
    | none => exact shown fun _ mem => (Option.not_mem_none _ mem).elim
    | some condition =>
      have direct_outcome : Render.evalCondition own condition = Render.evalCondition direct condition :=
        Render.evalCondition_agree condition (beside.same.agreesOn _).get
      rw [Render.renderBranches, ← direct_outcome]
      cases outcome : Render.evalCondition own condition with
      | error fault => exact reads_failed beside apart none_held sketch answers rfl outcome
      | ok holds =>
        cases holds with
        | true => exact shown fun found mem => Option.some.inj mem ▸ outcome
        | false =>
          exact reads_passed beside apart none_held sketch answers rfl outcome
            fun beside' apart' none_held' sketch' answers' =>
              reads_sketchBranches rest owner _ beside' apart' none_held' sketch' answers'
termination_by structural branches

end

end Nodes

end Outline
end MailMerge
