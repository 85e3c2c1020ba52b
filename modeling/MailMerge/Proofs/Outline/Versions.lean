/-
# Two versions of one branch

Of a conditional that reads a personal name every branch is sketched, one after the other,
in the one scope that the conditional opens. A signal that a branch raises ends with the
branch. A name that it binds stays bound for the branches after it.

| of another body of one branch | branches before it | branches after it |
| --- | --- | --- |
| its text, outputs and signals | show nothing | show nothing |
| the names it binds in the conditional's scope | show nothing | read these names |

So the branches before are sketched as under any other body, and so are those after it if
the other body leaves the same names bound.
-/

import MailMerge.Proofs.Outline.Branching
import MailMerge.Proofs.Outline.Renaming

namespace MailMerge

open MailMerge.Tree (Renaming Node Branch LeafAction itemsOf itemsOfBranches idsIn actionsIn renamedAll
  renamedBranches)

/-! ### Tags that bind names -/

namespace Render

/-- **What can be left behind** in a scope: names bound in it, contained faults, and signals
on top of those that were there. -/
structure Frames (env after : Env) : Prop where
  kept : after = { env with inner := after.inner, interrupts := after.interrupts, faults := after.faults }
  signals : env.interrupts <:+ after.interrupts

/-- **A tag that binds names.** It may read what it likes apart from faults, and leaves
nothing behind but names in the innermost scope and signals. -/
structure Binds (action : LeafAction) : Prop where
  frames : ∀ markup env, Frames env (action markup env).2
  blind : Faultblind action

namespace Frames

theorem refl (env : Env) : Frames env env := ⟨rfl, List.suffix_refl _⟩

theorem trans {env middle after : Env} (first : Frames env middle) (second : Frames middle after) :
    Frames env after := by
  refine ⟨?_, first.signals.trans second.signals⟩
  have kept := second.kept
  rw [first.kept] at kept
  exact kept

theorem contain (env : Env) (fault : Fault) : Frames env (env.contain fault).2 := by
  unfold Env.contain
  split
  · exact refl env
  · exact ⟨rfl, List.suffix_refl _⟩

/-- Dropping the signals that were raised leaves names and faults. -/
theorem dropInterrupts {env after : Env} (h : Frames env after) :
    after.dropInterrupts env.interrupts.length =
      { env with inner := after.inner, faults := after.faults } := by
  obtain ⟨raised, all⟩ := h.signals
  have dropped : after.interrupts.drop (after.interrupts.length - env.interrupts.length) =
      env.interrupts := by
    rw [← all, List.length_append, Nat.add_sub_cancel, List.drop_left]
  unfold Env.dropInterrupts
  rw [dropped, h.kept]

/-- **The same names** bound in the same environment: apart from faults nothing else differs. -/
theorem dropInterrupts_same {env first second : Env} {faults : List Fault} (h : Frames env first)
    (h' : Frames (env.withFaults faults) second) (same : first.inner = second.inner) :
    second.dropInterrupts env.interrupts.length =
      (first.dropInterrupts env.interrupts.length).withFaults second.faults := by
  have depth : (env.withFaults faults).interrupts = env.interrupts := rfl
  have dropped := h'.dropInterrupts
  rw [depth] at dropped
  rw [h.dropInterrupts, dropped, same]
  rfl

theorem leave {env after : Env} (h : Frames (env.enter ∅) after) : Frames env after.leave := by
  rw [h.kept]
  exact ⟨rfl, h.signals⟩

end Frames

end Render

namespace Outline

open Render (Env Scope Frames Binds)

/-- **Tags that bind names** leave nothing else behind. -/
theorem framing_frames : Framing Frames Binds where
  refl := .refl
  trans := .trans
  contain := .contain
  interrupt _ signal := ⟨rfl, List.suffix_cons signal _⟩
  close h := by
    rw [h.dropInterrupts]
    exact ⟨rfl, List.suffix_refl _⟩
  leave := .leave
  act binds := binds.frames

/-! ### Whose passages there are -/

/-- **Passages that belong to branches** with these numbers. -/
def Belong (ids : List Nat) (passages : List Passage) : Prop :=
  ∀ passage ∈ passages, passage.branch ∈ ids

/-- **The passages of branches** with these numbers. -/
def passagesAt (ids : List Nat) (passages : List Passage) : List Passage :=
  passages.filter fun passage => ids.contains passage.branch

/-- **Passages around one branch:** those of the branches before it, its own, and those of the
branches after it. -/
structure Around (before own later : List Nat) (passages first mine second : List Passage) : Prop where
  all : passages = first ++ (mine ++ second)
  first : Belong before first
  own : Belong own mine
  second : Belong later second

section Belong

variable {ids : List Nat} {passages : List Passage}

theorem Belong.weaken (h : Belong ids passages) {more : List Nat} (sub : ids ⊆ more) :
    Belong more passages := fun passage mem => sub (h passage mem)

theorem Belong.none (ids : List Nat) : Belong ids [] := fun _ mem => (List.not_mem_nil mem).elim

theorem Belong.reportFirst (h : Belong ids passages) (owner : Nat) :
    Belong ids (reportFirst owner passages) := by
  cases passages with
  | nil => exact h
  | cons first rest => exact List.forall_mem_cons.2 (List.forall_mem_cons.1 h)

/-- With other numbers passages belong to the other numbers. -/
theorem Belong.renamed (h : Belong ids passages) (names : Renaming) :
    Belong (ids.map names.id) (passages.map (Passage.renamed names)) := by
  intro passage mem
  obtain ⟨own, hown, rfl⟩ := List.mem_map.1 mem
  exact List.mem_map_of_mem (h own hown)

theorem passagesAt_append (ids : List Nat) (first second : List Passage) :
    passagesAt ids (first ++ second) = passagesAt ids first ++ passagesAt ids second :=
  List.filter_append ..

theorem Belong.passagesAt_self (h : Belong ids passages) : passagesAt ids passages = passages :=
  List.filter_eq_self.2 fun passage mem => List.contains_iff_mem.2 (h passage mem)

theorem Belong.passagesAt_of_disjoint (h : Belong ids passages) {others : List Nat}
    (disjoint : ∀ id ∈ ids, id ∉ others) : passagesAt others passages = [] :=
  List.filter_eq_nil_iff.2 fun passage mem found =>
    disjoint _ (h passage mem) (List.contains_iff_mem.1 found)

/-- **The passages of the branches before** one are the first ones, those of the branches after
it the last ones. -/
theorem Around.passagesAt {before own later : List Nat} {first mine second : List Passage}
    (h : Around before own later passages first mine second) (distinct : (before ++ (own ++ later)).Nodup) :
    passagesAt before passages = first ∧ passagesAt later passages = second := by
  obtain ⟨-, others, apart⟩ := List.nodup_append.1 distinct
  obtain ⟨-, -, apart_later⟩ := List.nodup_append.1 others
  have first_later := h.first.passagesAt_of_disjoint fun id mem found =>
    apart id mem id (List.mem_append_right own found) rfl
  have own_before := h.own.passagesAt_of_disjoint fun id mem found =>
    apart id found id (List.mem_append_left later mem) rfl
  have own_later := h.own.passagesAt_of_disjoint fun id mem found => apart_later id mem id found rfl
  have second_before := h.second.passagesAt_of_disjoint fun id mem found =>
    apart id found id (List.mem_append_right own mem) rfl
  simp only [h.all, passagesAt_append, h.first.passagesAt_self, h.second.passagesAt_self, first_later,
    own_before, own_later, second_before, List.append_nil, List.nil_append, and_self]

end Belong

section Sketching

variable {format : KeyFormat}

theorem slotsIn_closeSketch (depth : Nat) (pieces : List Piece) (env : Env) :
    slotsIn (closeSketch depth pieces env).1 = slotsIn pieces := by
  unfold closeSketch
  split
  · simp [Piece.slots, Part.slots]
  · rfl

theorem mem_slotsIn_of_passage {passages : List Passage} {passage : Passage} (mem : passage ∈ passages) :
    passage.choiceSlot ∈ slotsIn (passages.map .passage) :=
  List.mem_flatMap.2 ⟨.passage passage, List.mem_map_of_mem mem, List.mem_cons_self⟩

/-- The passages of a branch belong to it and to the branches in its body. -/
theorem belong_passagesOf (id : Nat) {body : List Node} {env after : Env} {pieces : List Piece}
    (distinct : (idsIn (itemsOf body)).Nodup) (sketch : sketchAll format env body = (.ok pieces, after))
    (guard : Guard) (depth : Nat) :
    Belong (id :: idsIn (itemsOf body)) (passagesOf id guard (closeSketch depth pieces after).1) := by
  have drawn := draws_all body ⟨env, .ofFormat format, none⟩ .empty []
    (.empty (Keyring.regular_ofFormat format)) distinct fun _ mem => (List.not_mem_nil mem).elim
  have sketched : sketchAll (Keyring.ofFormat format).format env body = (.ok pieces, after) := sketch
  dsimp only at drawn
  rw [sketched] at drawn
  generalize drawAll _ _ body = result at drawn
  cases drawn with
  | drawn grown =>
    intro passage mem
    rcases slotsIn_passagesOf (mem_slotsIn_of_passage mem) with own | found
    · exact Option.some.inj own ▸ List.mem_cons_self
    · rw [slotsIn_closeSketch] at found
      obtain ⟨other, hother, same⟩ := grown.within _ found
      exact Option.some.inj same ▸ List.mem_cons_of_mem _ hother

/-- The passages of a conditional belong to its branches and to those in their bodies. -/
theorem belong_sketchBranches {branches : List (Branch Node)} {owner : Nat} {passed : List BranchCondition}
    {env after : Env} {passages : List Passage} (distinct : (idsIn (itemsOfBranches branches)).Nodup)
    (sketch : sketchBranches format owner passed env branches = (.ok passages, after)) :
    Belong (idsIn (itemsOfBranches branches)) passages := by
  cases branches with
  | nil =>
    obtain ⟨none, -⟩ := Prod.mk.inj sketch
    obtain rfl := Except.ok.inj none
    exact .none _
  | cons branch rest =>
    have drawn := draws_branches (branch :: rest) (List.cons_ne_nil _ _) owner passed none
      ⟨env, .ofFormat format, none⟩ .empty [] (.empty (Keyring.regular_ofFormat format))
      (fun _ mem => (List.not_mem_nil mem).elim) distinct fun _ mem => (List.not_mem_nil mem).elim
    have sketched : sketchBranches (Keyring.ofFormat format).format owner passed env (branch :: rest) =
      (.ok passages, after) := sketch
    dsimp only at drawn
    rw [sketched] at drawn
    generalize drawBranches _ _ _ _ _ _ = result at drawn
    dsimp only [passagePieces, Except.map] at drawn
    cases drawn with
    | drawn grown =>
      intro passage mem
      obtain ⟨id, hid, same⟩ := grown.within _ (mem_slotsIn_of_passage mem)
      exact Option.some.inj same ▸ hid

end Sketching

/-! ### Two versions of one branch -/

section Versions

variable {format : KeyFormat} {names : Renaming} {ids : List Nat} {owner id : Nat}
  {passed : List BranchCondition} {env middle : Env} {predicate : Option Markup.Condition}
  {body other : List Node} {later rest : List (Branch Node)} {pieces : List Piece}

/-- Sketching nodes whose tags bind names leaves behind names, signals and faults. -/
theorem frames_of_sketch {after : Env} (binds : ∀ action ∈ actionsIn (itemsOf body), Binds action)
    (sketch : sketchAll format env body = (.ok pieces, after)) : Frames env after := by
  have kept : Keeps Frames env (idsIn (itemsOf body)) (sketchAll format env body) :=
    keeps_sketchAll framing_frames body env (List.Subset.refl _) binds
  rw [sketch] at kept
  exact kept.env

/-- The environment after a branch that is the last is that after its closed body. -/
theorem env_sketchBranches_last (sketch : sketchAll format env body = (.ok pieces, middle))
    (last : predicate = none ∨ rest = []) :
    (sketchBranches format owner passed env (⟨id, predicate, body⟩ :: rest)).2 =
      middle.dropInterrupts env.interrupts.length := by
  rw [sketchBranches, sketch, ← env_closeSketch env.interrupts.length pieces middle]
  dsimp only
  rcases last with rfl | rfl
  · rfl
  · cases predicate <;> rfl

/-- The environment after other branches is what it is after these, once the first is closed. -/
theorem env_sketchBranches_cons (sketch : sketchAll format env body = (.ok pieces, middle))
    (nonempty : rest ≠ []) (condition : Markup.Condition) :
    (sketchBranches format owner passed env (⟨id, some condition, body⟩ :: rest)).2 =
      (sketchBranches format owner (passed ++ [⟨id, owner, condition⟩])
        (middle.dropInterrupts env.interrupts.length) rest).2 := by
  obtain ⟨branch, more, rfl⟩ := List.exists_cons_of_ne_nil nonempty
  rw [sketchBranches, sketch, ← env_closeSketch env.interrupts.length pieces middle]
  dsimp only [Option.map, List.isEmpty_cons]
  generalize sketchBranches format owner _ _ (branch :: more) = others
  obtain ⟨_ | _, final⟩ := others <;> rfl

/-- **A branch after which there is no other** has the passages of its body and reports. -/
theorem sketchBranches_ok_last {passages : List Passage} {after : Env}
    (h : sketchBranches format owner passed env (⟨id, predicate, body⟩ :: rest) = (.ok passages, after))
    (last : predicate = none ∨ rest = []) :
    ∃ pieces middle, sketchAll format env body = (.ok pieces, middle) ∧
      passages = reportFirst owner (passagesOf id
        (Guard.ofBranch (predicate.map fun condition => ⟨id, owner, condition⟩) passed)
        (closeSketch env.interrupts.length pieces middle).1) := by
  obtain ⟨pieces, middle, sketch, ⟨-, same, -⟩ | ⟨condition, -, some, nonempty, -⟩⟩ := sketchBranches_ok h
  · exact ⟨pieces, middle, sketch, same⟩
  · rcases last with none | empty
    · cases some.symm.trans none
    · exact absurd empty nonempty

/-- **A branch before others** has the passages of its body, and the others follow. -/
theorem sketchBranches_ok_cons {condition : Markup.Condition} {passages : List Passage} {after : Env}
    (h : sketchBranches format owner passed env (⟨id, some condition, body⟩ :: rest) =
      (.ok passages, after))
    (nonempty : rest ≠ []) :
    ∃ pieces middle more, sketchAll format env body = (.ok pieces, middle) ∧
      sketchBranches format owner (passed ++ [⟨id, owner, condition⟩])
        (middle.dropInterrupts env.interrupts.length) rest = (.ok more, after) ∧
      passages = passagesOf id (Guard.ofBranch (some ⟨id, owner, condition⟩) passed)
        (closeSketch env.interrupts.length pieces middle).1 ++ more := by
  obtain ⟨pieces, middle, sketch, ⟨last, -, -⟩ | ⟨own, more, some, -, others, same⟩⟩ := sketchBranches_ok h
  · rcases last with none | empty
    · cases none
    · exact absurd empty nonempty
  · obtain rfl := Option.some.inj some
    rw [env_closeSketch] at others
    exact ⟨pieces, middle, more, sketch, others, same⟩

/-- A branch is the last that can be reached, or has a predicate and others after it. -/
theorem last_or_cons (predicate : Option Markup.Condition) (rest : List (Branch Node)) :
    (predicate = none ∨ rest = []) ∨ ∃ condition, predicate = some condition ∧ rest ≠ [] := by
  cases predicate with
  | none => exact .inl (.inl rfl)
  | some condition =>
    cases rest with
    | nil => exact .inl (.inr rfl)
    | cons branch more => exact .inr ⟨condition, rfl, List.cons_ne_nil _ _⟩

/-- **What two versions of a conditional have in common** that differ in the body of one branch:
the passages of the branches before it, and, if the branch binds the same names in both, those of
the branches after it. -/
structure Versions (names : Renaming) (before later own own' : List Nat)
    (passages passages' first mine mine' second second' : List Passage) (scope scope' : Scope) : Prop where
  around : Around before own later passages first mine second
  around' : Around (before.map names.id) own' (later.map names.id) passages'
    (first.map (Passage.renamed names)) mine' second'
  alike : scope = scope' → second' = second.map (Passage.renamed names)

/-- The passages of an earlier branch, in front of the others, are the same in both versions. -/
theorem Versions.prepend {before laterIds own own' : List Nat}
    {passages passages' first mine mine' second second' : List Passage} {scope scope' : Scope}
    (h : Versions names before laterIds own own' passages passages' first mine mine' second second'
      scope scope')
    {front : List Passage} {numbers : List Nat} (belong : Belong numbers front) :
    Versions names (numbers ++ before) laterIds own own' (front ++ passages)
      (front.map (Passage.renamed names) ++ passages') (front ++ first) mine mine' second second'
      scope scope' := by
  have joined : Belong (numbers ++ before) (front ++ first) :=
    List.forall_mem_append.2 ⟨belong.weaken (List.subset_append_left ..),
      h.around.first.weaken (List.subset_append_right ..)⟩
  refine ⟨⟨?_, joined, h.around.own, h.around.second⟩,
    ⟨?_, joined.renamed names, h.around'.own, h.around'.second⟩, h.alike⟩
  · rw [h.around.all, List.append_assoc]
  · rw [h.around'.all, List.map_append, List.append_assoc]

/-- **A branch before the one that differs** has the same passages in both versions, and leaves the
same environment but for faults. -/
theorem earlier_alike (apart : names.KeepsApart ids) (howner : owner ∈ ids) (mem : id ∈ ids)
    (hpassed : ∀ condition ∈ passed, condition.branch ∈ ids ∧ condition.owner ∈ ids)
    (predicate : Option Markup.Condition) (sub : idsIn (itemsOf body) ⊆ ids)
    (blind : ∀ action ∈ actionsIn (itemsOf body), Render.Faultblind action) {faults : List Render.Fault}
    {middle' : Env} {pieces' : List Piece} (sketch : sketchAll format env body = (.ok pieces, middle))
    (sketch' : sketchAll format (env.withFaults faults) (renamedAll names body) = (.ok pieces', middle')) :
    (∃ more, middle' = middle.withFaults more) ∧
      passagesOf (names.id id)
          (Guard.ofBranch (predicate.map fun condition => ⟨names.id id, names.id owner, condition⟩)
            (passed.map (BranchCondition.renamed names)))
          (closeSketch env.interrupts.length pieces' middle').1 =
        (passagesOf id (Guard.ofBranch (predicate.map fun condition => ⟨id, owner, condition⟩) passed)
          (closeSketch env.interrupts.length pieces middle).1).map (Passage.renamed names) := by
  obtain ⟨more, renamed⟩ := @renamed_sketchAll format names ids apart body env faults sub blind
  rw [sketch, sketch'] at renamed
  obtain ⟨pieces_same, env_same⟩ := Prod.mk.inj renamed
  obtain rfl : pieces' = pieces.map (Piece.renamed names) := Except.ok.inj pieces_same
  obtain rfl : middle' = middle.withFaults more := env_same
  exact ⟨⟨more, rfl⟩, passagesOf_closeSketch_renamed apart howner mem hpassed predicate
    (passagesWithin_sketchAll sub sketch) _ middle more⟩

/-- **The branches after the one that differs** are sketched alike if the same names are bound. -/
theorem later_alike (apart : names.KeepsApart ids) (howner : owner ∈ ids)
    (hpassed : ∀ condition ∈ passed, condition.branch ∈ ids ∧ condition.owner ∈ ids)
    (sub : idsIn (itemsOfBranches later) ⊆ ids)
    (binds : ∀ action ∈ actionsIn (itemsOfBranches later), Binds action) {faults : List Render.Fault}
    {middle' last last' : Env} {more more' : List Passage} (frames : Frames env middle)
    (frames' : Frames (env.withFaults faults) middle') (same : middle.inner = middle'.inner)
    (h : sketchBranches format owner passed (middle.dropInterrupts env.interrupts.length) later =
      (.ok more, last))
    (h' : sketchBranches format (names.id owner) (passed.map (BranchCondition.renamed names))
      (middle'.dropInterrupts env.interrupts.length) (renamedBranches names later) = (.ok more', last')) :
    more' = more.map (Passage.renamed names) := by
  rw [frames.dropInterrupts_same frames' same] at h'
  obtain ⟨final, renamed⟩ := @renamed_sketchBranches format names ids apart later owner passed
    (middle.dropInterrupts env.interrupts.length) middle'.faults sub
    (fun action found => (binds action found).blind) howner hpassed
  rw [h, h'] at renamed
  exact Except.ok.inj (congrArg Prod.fst renamed)

/-- **The branch that differs.** After it comes what is after it in both versions, in an
environment that is the same if the same names are bound. -/
theorem versions_changed (apart : names.KeepsApart ids) (howner : owner ∈ ids) (mem : id ∈ ids)
    (hpassed : ∀ condition ∈ passed, condition.branch ∈ ids ∧ condition.owner ∈ ids)
    (sub : idsIn (itemsOfBranches later) ⊆ ids)
    (distinct : (idsIn (itemsOfBranches (⟨id, predicate, body⟩ :: later))).Nodup)
    (distinct' : (idsIn (itemsOfBranches (⟨names.id id, predicate, other⟩ ::
      renamedBranches names later))).Nodup)
    (binds : ∀ action ∈ actionsIn (itemsOfBranches (⟨id, predicate, body⟩ :: later)), Binds action)
    (binds' : ∀ action ∈ actionsIn (itemsOf other), Binds action) (faults : List Render.Fault)
    {passages passages' : List Passage} {last last' : Env}
    (h : sketchBranches format owner passed env (⟨id, predicate, body⟩ :: later) = (.ok passages, last))
    (h' : sketchBranches format (names.id owner) (passed.map (BranchCondition.renamed names))
      (env.withFaults faults) (⟨names.id id, predicate, other⟩ :: renamedBranches names later) =
        (.ok passages', last')) :
    ∃ mine mine' second second', Versions names [] (idsIn (itemsOfBranches later))
      (id :: idsIn (itemsOf body)) (names.id id :: idsIn (itemsOf other)) passages passages' [] mine mine'
      second second' (sketchBranches format owner passed env [⟨id, predicate, body⟩]).2.inner
      (sketchBranches format (names.id owner) (passed.map (BranchCondition.renamed names))
        (env.withFaults faults) [⟨names.id id, predicate, other⟩]).2.inner := by
  rw [itemsOfBranches, Tree.idsIn_branch, Tree.idsIn_append] at distinct distinct'
  rw [itemsOfBranches, Tree.actionsIn_branch, Tree.actionsIn_append] at binds
  obtain ⟨distinctBody, distinctLater, -⟩ := List.nodup_append.1 (List.nodup_cons.1 distinct).2
  obtain ⟨distinctOther, distinctLater', -⟩ := List.nodup_append.1 (List.nodup_cons.1 distinct').2
  obtain ⟨bindsBody, bindsLater⟩ := List.forall_mem_append.1 binds
  rcases last_or_cons predicate later with isLast | ⟨condition, rfl, nonempty⟩
  · obtain ⟨pieces, middle, sketch, rfl⟩ := sketchBranches_ok_last h isLast
    obtain ⟨pieces', middle', sketch', rfl⟩ :=
      sketchBranches_ok_last h' (isLast.imp_right (Tree.renamedBranches_eq_nil_iff names).2)
    exact ⟨_, _, [], [],
      ⟨(List.append_nil _).symm, .none _,
        (belong_passagesOf _ distinctBody sketch _ _).reportFirst owner, .none _⟩,
      ⟨(List.append_nil _).symm, .none _,
        (belong_passagesOf _ distinctOther sketch' _ _).reportFirst _, .none _⟩,
      fun _ => rfl⟩
  · obtain ⟨pieces, middle, more, sketch, others, rfl⟩ := sketchBranches_ok_cons h nonempty
    obtain ⟨pieces', middle', more', sketch', others', rfl⟩ :=
      sketchBranches_ok_cons h' (mt (Tree.renamedBranches_eq_nil_iff names).1 nonempty)
    have second := belong_sketchBranches distinctLater others
    have second' := belong_sketchBranches distinctLater' others'
    rw [Tree.idsIn_renamedBranches] at second'
    refine ⟨_, _, more, more', ⟨rfl, .none _, belong_passagesOf _ distinctBody sketch _ _, second⟩,
      ⟨rfl, .none _, belong_passagesOf _ distinctOther sketch' _ _, second'⟩, fun same => ?_⟩
    rw [env_sketchBranches_last sketch (.inr rfl), env_sketchBranches_last sketch' (.inr rfl)] at same
    rw [← passed_renamed_concat] at others'
    exact later_alike apart howner (passed_within_concat hpassed mem howner condition) sub bindsLater
      (frames_of_sketch bindsBody sketch) (frames_of_sketch binds' sketch') same others others'

/-- **A body without tags of its own** binds nothing for the branches after it. -/
theorem inner_sketchBranches_plain (plain : actionsIn (itemsOf body) = []) (before : List (Branch Node))
    (passed : List BranchCondition) (env : Env) :
    (sketchBranches format owner passed env (before ++ [⟨id, predicate, body⟩])).2.inner =
      (sketchBranches format owner passed env before).2.inner := by
  induction before generalizing passed env with
  | nil =>
    have kept : Keeps (fun env after => after.bare = env.bare) env (idsIn (itemsOf body))
      (sketchAll format env body) := keeps_bare plain env
    have inner : (sketchAll format env body).2.bare.inner = env.bare.inner := congrArg Env.inner kept.env
    rw [List.nil_append]
    cases sketch : sketchAll format env body with
    | mk result middle =>
      rw [sketch] at inner
      cases result with
      | error fault =>
        rw [sketchBranches, sketchBranches, sketch]
        exact inner
      | ok pieces =>
        rw [env_sketchBranches_last sketch (.inr rfl)]
        exact inner
  | cons branch before ih =>
    obtain ⟨number, condition, earlier⟩ := branch
    rw [List.cons_append]
    cases sketch : sketchAll format env earlier with
    | mk result middle =>
      cases result with
      | error fault => rw [sketchBranches, sketchBranches, sketch]
      | ok pieces =>
        have more : before ++ [⟨id, predicate, body⟩] ≠ [] :=
          List.append_ne_nil_of_right_ne_nil _ (List.cons_ne_nil _ _)
        cases condition with
        | none => rw [env_sketchBranches_last sketch (.inl rfl), env_sketchBranches_last sketch (.inl rfl)]
        | some condition =>
          rw [env_sketchBranches_cons sketch more, ih]
          cases before with
          | nil =>
            rw [env_sketchBranches_last sketch (.inr rfl)]
            rfl
          | cons second before => rw [env_sketchBranches_cons sketch (List.cons_ne_nil _ _)]

/-- **Two versions of the branches of a conditional.** Before the branch that is changed nothing
differs, by induction on the branches before it. -/
theorem versions_sketchBranches (apart : names.KeepsApart ids) (howner : owner ∈ ids) (mem : id ∈ ids)
    (hlater : idsIn (itemsOfBranches later) ⊆ ids)
    (binds' : ∀ action ∈ actionsIn (itemsOf other), Binds action) (before : List (Branch Node))
    (sub : idsIn (itemsOfBranches before) ⊆ ids) (passed : List BranchCondition)
    (hpassed : ∀ condition ∈ passed, condition.branch ∈ ids ∧ condition.owner ∈ ids)
    (distinct : (idsIn (itemsOfBranches (before ++ ⟨id, predicate, body⟩ :: later))).Nodup)
    (distinct' : (idsIn (itemsOfBranches (renamedBranches names before ++
      ⟨names.id id, predicate, other⟩ :: renamedBranches names later))).Nodup)
    (binds : ∀ action ∈ actionsIn (itemsOfBranches (before ++ ⟨id, predicate, body⟩ :: later)),
      Binds action)
    (env : Env) (faults : List Render.Fault) {passages passages' : List Passage} {last last' : Env}
    (h : sketchBranches format owner passed env (before ++ ⟨id, predicate, body⟩ :: later) =
      (.ok passages, last))
    (h' : sketchBranches format (names.id owner) (passed.map (BranchCondition.renamed names))
      (env.withFaults faults) (renamedBranches names before ++
        ⟨names.id id, predicate, other⟩ :: renamedBranches names later) = (.ok passages', last')) :
    ∃ first mine mine' second second', Versions names (idsIn (itemsOfBranches before))
      (idsIn (itemsOfBranches later)) (id :: idsIn (itemsOf body)) (names.id id :: idsIn (itemsOf other))
      passages passages' first mine mine' second second'
      (sketchBranches format owner passed env (before ++ [⟨id, predicate, body⟩])).2.inner
      (sketchBranches format (names.id owner) (passed.map (BranchCondition.renamed names))
        (env.withFaults faults) (renamedBranches names before ++
          [⟨names.id id, predicate, other⟩])).2.inner := by
  induction before generalizing passed env faults passages passages' with
  | nil =>
    exact ⟨[], versions_changed apart howner mem hpassed hlater distinct distinct' binds binds' faults
      h h'⟩
  | cons branch before ih =>
    obtain ⟨number, condition, earlier⟩ := branch
    rw [List.cons_append, itemsOfBranches, Tree.idsIn_branch, Tree.idsIn_append] at distinct
    rw [renamedBranches, List.cons_append, itemsOfBranches, Tree.idsIn_branch, Tree.idsIn_append]
      at distinct'
    rw [List.cons_append, itemsOfBranches, Tree.actionsIn_branch, Tree.actionsIn_append] at binds
    rw [itemsOfBranches, Tree.idsIn_branch, Tree.idsIn_append] at sub ⊢
    obtain ⟨distinctEarlier, distinctRest, -⟩ := List.nodup_append.1 (List.nodup_cons.1 distinct).2
    obtain ⟨-, distinctRest', -⟩ := List.nodup_append.1 (List.nodup_cons.1 distinct').2
    obtain ⟨bindsEarlier, bindsRest⟩ := List.forall_mem_append.1 binds
    obtain ⟨numberMem, sub⟩ := List.cons_subset.1 sub
    obtain ⟨subEarlier, subRest⟩ := List.append_subset.1 sub
    have blind : ∀ action ∈ actionsIn (itemsOf earlier), Render.Faultblind action :=
      fun action found => (bindsEarlier action found).blind
    have nonempty : ∀ tail (branch : Branch Node) more, tail ++ branch :: more ≠ [] := fun _ _ _ =>
      List.append_ne_nil_of_right_ne_nil _ (List.cons_ne_nil _ _)
    have depth : (env.withFaults faults).interrupts = env.interrupts := rfl
    rcases last_or_cons condition (before ++ ⟨id, predicate, body⟩ :: later) with
      isLast | ⟨own, rfl, -⟩
    · obtain rfl := isLast.resolve_right (nonempty _ _ _)
      obtain ⟨pieces, middle, sketch, rfl⟩ := sketchBranches_ok_last h (.inl rfl)
      obtain ⟨pieces', middle', sketch', rfl⟩ := sketchBranches_ok_last h' (.inl rfl)
      obtain ⟨-, passages⟩ :=
        earlier_alike apart howner numberMem hpassed none subEarlier blind sketch sketch'
      have front := ((belong_passagesOf number distinctEarlier sketch (Guard.ofBranch none passed)
        env.interrupts.length).reportFirst owner).weaken
          (List.cons_subset_cons number (List.subset_append_left _ (idsIn (itemsOfBranches before))))
      dsimp only [Option.map] at passages ⊢
      rw [depth, passages, reportFirst_renamed]
      exact ⟨_, [], [], [], [], ⟨(List.append_nil _).symm, front, .none _, .none _⟩,
        ⟨(List.append_nil _).symm, front.renamed names, .none _, .none _⟩, fun _ => rfl⟩
    · obtain ⟨pieces, middle, rest, sketch, others, rfl⟩ := sketchBranches_ok_cons h (nonempty _ _ _)
      obtain ⟨pieces', middle', rest', sketch', others', rfl⟩ := sketchBranches_ok_cons h' (nonempty _ _ _)
      obtain ⟨⟨more, rfl⟩, passages⟩ :=
        earlier_alike apart howner numberMem hpassed (some own) subEarlier blind sketch sketch'
      rw [← passed_renamed_concat] at others'
      obtain ⟨first, mine, mine', second, second', versions⟩ := ih subRest _
        (passed_within_concat hpassed numberMem howner own) distinctRest distinctRest' bindsRest _ more
        others others'
      dsimp only [Option.map] at passages
      rw [depth, passages, List.cons_append, env_sketchBranches_cons sketch (nonempty _ _ _),
        renamedBranches, List.cons_append, env_sketchBranches_cons sketch' (nonempty _ _ _),
        ← passed_renamed_concat]
      exact ⟨_, mine, mine', second, second',
        versions.prepend (belong_passagesOf number distinctEarlier sketch _ _)⟩

end Versions

end Outline
end MailMerge
