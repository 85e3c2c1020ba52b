/-
# What one branch shows of another

The branches of a conditional are drawn up one after the other. So what is drawn up of one
can show in what is drawn up of the next, and it does so in one way: the names that it binds
in the conditional's scope are still bound. Neither its text nor its outputs, and no signal
that it raises, shows in another branch.
-/

import MailMerge.Extension
import MailMerge.Proofs.Outline.Versions
import MailMerge.Proofs.Tree.Numbering

namespace MailMerge

open MailMerge.Tree (Renaming Node Branch itemsOf itemsOfBranches idsIn actionsIn renamedBranches)

namespace Render

/-- **Binding a name** to a text is binding names. -/
theorem binds_assign : Binds Extension.assign where
  frames _ _ := ⟨rfl, List.suffix_refl _⟩
  blind _ _ faults := ⟨faults, rfl⟩

end Render

namespace Outline

open Render (Env Scope Binds)

/-- **What branches of a conditional bind** in its scope when they are drawn up one after the
other. -/
def boundBy (walker : Walker) (branches : List (Branch Node)) : Scope :=
  (drawBranches ((Tree.conditionalId? branches).getD 0) [] none .empty
    { walker with env := walker.env.enter ∅ } branches).2.env.inner

section Drawing

variable {walker : Walker} {branches : List (Branch Node)}

/-- What branches up to one bind is what is bound after they are sketched. -/
theorem boundBy_upTo (regular : walker.ring.Regular) {branch : Branch Node} {later : List (Branch Node)}
    (distinct : (idsIn (itemsOfBranches (branches ++ branch :: later))).Nodup) {owner : Nat}
    (number : Tree.conditionalId? (branches ++ [branch]) = some owner) :
    boundBy walker (branches ++ [branch]) = (sketchBranches walker.ring.format owner []
      (walker.env.enter ∅) (branches ++ [branch])).2.inner := by
  rw [List.append_cons, Tree.itemsOfBranches_append, Tree.idsIn_append] at distinct
  have drawn := draws_branches (branches ++ [branch])
    (List.append_ne_nil_of_right_ne_nil _ (List.cons_ne_nil _ _)) owner [] none
    { walker with env := walker.env.enter ∅ } .empty [] (.empty regular)
    (fun _ mem => (List.not_mem_nil mem).elim) (List.nodup_append.1 distinct).1
    fun _ mem => (List.not_mem_nil mem).elim
  have env : ∀ sketched : Sketched Passage, sketched.2 = (passagePieces sketched).2 := fun _ => rfl
  rw [boundBy, number, Option.getD_some, env]
  dsimp only at drawn
  generalize drawBranches _ _ _ _ _ _ = result at drawn ⊢
  generalize passagePieces _ = sketched at drawn ⊢
  cases drawn <;> rfl

/-- **A conditional that is drawn up** has the passages of its branches. -/
theorem exists_passages_of_drawn (regular : walker.ring.Regular)
    (distinct : (idsIn (itemsOfBranches branches)).Nodup) (personal : isPersonal walker.env branches = true)
    {head : Source.TagHead} {draft : Draft} {after : Walker}
    (drawn : drawNode walker .empty (.conditional head branches) = (.ok draft, after)) :
    ∃ passages last, sketchBranches walker.ring.format ((Tree.conditionalId? branches).getD 0) []
        (walker.env.enter ∅) branches = (.ok passages, last) ∧
      Represents after.ring draft (passages.map .passage) (passages.map .passage) := by
  have draws := draws_node (.conditional head branches) walker .empty [] (.empty regular) distinct
    fun _ mem => (List.not_mem_nil mem).elim
  rw [drawn, sketchNode_conditional, sketchInside, if_pos personal] at draws
  generalize sketchBranches _ _ _ _ branches = sketched at draws ⊢
  obtain ⟨_ | passages, last⟩ := sketched
  · cases draws
  · have draws : Draws walker.ring walker.halt [] (idsIn (itemsOfBranches branches)) (.ok draft, after)
      (.ok (passages.map .passage), last.leave) := draws
    generalize last.leave = final at draws
    cases draws with
    | drawn grown => exact ⟨passages, last, rfl, grown.represents⟩

end Drawing

section Siblings

variable {names : Renaming} {head head' : Source.TagHead} {before later : List (Branch Node)} {id : Nat}
  {predicate : Option Markup.Condition} {body other : List Node} {walker walker' : Walker}
  {draft draft' : Draft} {after after' : Walker}

/-- The number of a conditional is that of a branch up to any one, whatever the bodies are. -/
theorem exists_owner (names : Renaming) (before : List (Branch Node)) (id : Nat)
    (predicate : Option Markup.Condition) :
    ∃ owner, owner ∈ idsIn (itemsOfBranches before) ++ [id] ∧
      (∀ body later, Tree.conditionalId? (before ++ ⟨id, predicate, body⟩ :: later) = some owner) ∧
      ∀ body later, Tree.conditionalId? (renamedBranches names before ++
        ⟨names.id id, predicate, body⟩ :: later) = some (names.id owner) := by
  cases before with
  | nil => exact ⟨id, List.mem_cons_self, fun _ _ => rfl, fun _ _ => rfl⟩
  | cons branch rest =>
    obtain ⟨number, condition, earlier⟩ := branch
    exact ⟨number, List.mem_cons_self, fun _ _ => rfl, fun _ _ => rfl⟩

/-- Both versions read personal names or neither does. -/
theorem isPersonal_versions (names : Renaming) (env : Env) (before later : List (Branch Node)) (id : Nat)
    (predicate : Option Markup.Condition) (body other : List Node) :
    isPersonal env (renamedBranches names before ++ ⟨names.id id, predicate, other⟩ ::
        renamedBranches names later) =
      isPersonal env (before ++ ⟨id, predicate, body⟩ :: later) := by
  have earlier : isPersonal env (renamedBranches names before) = isPersonal env before :=
    isPersonal_renamed env env.faults before
  have others : isPersonal env (renamedBranches names later) = isPersonal env later :=
    isPersonal_renamed env env.faults later
  unfold isPersonal at earlier others ⊢
  rw [List.any_append, List.any_append, List.any_cons, List.any_cons, earlier, others]

/-- The numbers of the branches around one, in order. -/
theorem idsIn_around (before later : List (Branch Node)) (id : Nat) (predicate : Option Markup.Condition)
    (body : List Node) :
    idsIn (itemsOfBranches (before ++ ⟨id, predicate, body⟩ :: later)) =
      idsIn (itemsOfBranches before) ++
        ((id :: idsIn (itemsOf body)) ++ idsIn (itemsOfBranches later)) := by
  rw [Tree.itemsOfBranches_append, Tree.idsIn_append, itemsOfBranches, Tree.idsIn_branch, Tree.idsIn_append]
  rfl

/-- If the numbers are distinct in both versions, the other numbers tell the other branches apart. -/
theorem keepsApart_of_versions {names : Renaming} {before later own : List Nat} {id : Nat}
    (distinct : (before.map names.id ++ ((names.id id :: own) ++ later.map names.id)).Nodup) :
    names.KeepsApart (before ++ id :: later) := by
  refine names.keepsApart_of_nodup (distinct.sublist ?_)
  rw [List.map_append, List.map_cons]
  exact (List.Sublist.refl _).append ((List.sublist_append_right own _).cons_cons _)

/-- **What is bound after a branch without tags of its own** does not depend on its body. -/
theorem inner_versions_plain {format : KeyFormat} {ids : List Nat} {owner : Nat}
    (apart : names.KeepsApart ids) (sub : idsIn (itemsOfBranches before) ⊆ ids) (mem : owner ∈ ids)
    (binds : ∀ action ∈ actionsIn (itemsOfBranches before), Binds action)
    (plain : actionsIn (itemsOf body) = []) (plain' : actionsIn (itemsOf other) = []) (env : Env) :
    (sketchBranches format owner [] env (before ++ [⟨id, predicate, body⟩])).2.inner =
      (sketchBranches format (names.id owner) [] env
        (renamedBranches names before ++ [⟨names.id id, predicate, other⟩])).2.inner := by
  have blind : ∀ action ∈ actionsIn (itemsOfBranches before), Render.Faultblind action :=
    fun action mem => (binds action mem).blind
  obtain ⟨faults, renamed⟩ := @renamed_sketchBranches format names _ apart before owner [] env
    env.faults sub blind mem fun _ mem => (List.not_mem_nil mem).elim
  rw [inner_sketchBranches_plain plain, inner_sketchBranches_plain plain']
  exact (congrArg (fun sketched => sketched.2.inner) renamed).symm

/-- **The other branches of a conditional** whose branches are all drawn up, in two versions that
differ in the body of one branch and in numbers and places. Both drafts represent passages, their
sections and what fills their placeholders. The passages of the branches before the one that
differs are the same up to the numbers. So are those of the branches after it, if the branches up
to it bind the same names in both versions. Signals bind nothing, and nor does a body without tags
of its own. -/
theorem drawNode_siblings (regular : walker.ring.Regular) (regular' : walker'.ring.Regular)
    (format : walker'.ring.format = walker.ring.format) (env : walker'.env = walker.env)
    (personal : isPersonal walker.env (before ++ ⟨id, predicate, body⟩ :: later) = true)
    (distinct : (idsIn (itemsOfBranches (before ++ ⟨id, predicate, body⟩ :: later))).Nodup)
    (distinct' : (idsIn (itemsOfBranches (renamedBranches names before ++
      ⟨names.id id, predicate, other⟩ :: renamedBranches names later))).Nodup)
    (binds : ∀ action ∈ actionsIn (itemsOfBranches (before ++ ⟨id, predicate, body⟩ :: later)),
      Binds action)
    (binds' : ∀ action ∈ actionsIn (itemsOf other), Binds action)
    (drawn : drawNode walker .empty (.conditional head (before ++ ⟨id, predicate, body⟩ :: later)) =
      (.ok draft, after))
    (drawn' : drawNode walker' .empty (.conditional head' (renamedBranches names before ++
      ⟨names.id id, predicate, other⟩ :: renamedBranches names later)) = (.ok draft', after')) :
    ∃ passages passages',
      Represents after.ring draft (passages.map .passage) (passages.map .passage) ∧
      Represents after'.ring draft' (passages'.map .passage) (passages'.map .passage) ∧
      passagesAt ((idsIn (itemsOfBranches before)).map names.id) passages' =
        (passagesAt (idsIn (itemsOfBranches before)) passages).map (Passage.renamed names) ∧
      (boundBy walker (before ++ [⟨id, predicate, body⟩]) =
          boundBy walker' (renamedBranches names before ++ [⟨names.id id, predicate, other⟩]) →
        passagesAt ((idsIn (itemsOfBranches later)).map names.id) passages' =
          (passagesAt (idsIn (itemsOfBranches later)) passages).map (Passage.renamed names)) ∧
      (actionsIn (itemsOf body) = [] → actionsIn (itemsOf other) = [] →
        boundBy walker (before ++ [⟨id, predicate, body⟩]) =
          boundBy walker' (renamedBranches names before ++ [⟨names.id id, predicate, other⟩])) := by
  have apart_first := distinct
  have apart_second := distinct'
  rw [idsIn_around] at apart_first
  rw [idsIn_around, Tree.idsIn_renamedBranches, Tree.idsIn_renamedBranches] at apart_second
  have apart := keepsApart_of_versions apart_second
  obtain ⟨owner, howner, number, number'⟩ := exists_owner names before id predicate
  have owner_mem : owner ∈ idsIn (itemsOfBranches before) ++ id :: idsIn (itemsOfBranches later) := by
    rw [List.append_cons]
    exact List.mem_append_left _ howner
  have sub_before : idsIn (itemsOfBranches before) ⊆
      idsIn (itemsOfBranches before) ++ id :: idsIn (itemsOfBranches later) := List.subset_append_left ..
  have personal' : isPersonal walker'.env (renamedBranches names before ++
      ⟨names.id id, predicate, other⟩ :: renamedBranches names later) = true := by
    rw [env, isPersonal_versions]
    exact personal
  obtain ⟨passages, last, sketch, represents⟩ := exists_passages_of_drawn regular distinct personal drawn
  obtain ⟨passages', last', sketch', represents'⟩ :=
    exists_passages_of_drawn regular' distinct' personal' drawn'
  have bound := boundBy_upTo regular distinct (number body [])
  have bound' := boundBy_upTo regular' distinct' (number' other [])
  rw [number] at sketch
  rw [number', format, env] at sketch'
  rw [format, env] at bound'
  obtain ⟨first, mine, mine', second, second', versions⟩ := versions_sketchBranches apart owner_mem
    (List.mem_append_right _ List.mem_cons_self)
    (List.subset_append_of_subset_right _ (List.subset_cons_self ..)) binds' before sub_before []
    (fun _ mem => (List.not_mem_nil mem).elim) distinct distinct' binds (walker.env.enter ∅)
    walker.env.faults sketch sketch'
  obtain ⟨hfirst, hsecond⟩ := versions.around.passagesAt apart_first
  obtain ⟨hfirst', hsecond'⟩ := versions.around'.passagesAt apart_second
  refine ⟨passages, passages', represents, represents', ?_, fun same => ?_, fun plain plain' => ?_⟩
  · rw [hfirst, hfirst']
  · rw [hsecond, hsecond']
    rw [bound, bound'] at same
    exact versions.alike same
  · rw [bound, bound']
    rw [Tree.itemsOfBranches_append, Tree.actionsIn_append] at binds
    exact inner_versions_plain apart sub_before owner_mem
      (fun action mem => binds action (List.mem_append_left _ mem)) plain plain' _

/-- Where there is a draft nothing was refused. -/
theorem exists_draft {drawn : Drawn} (h : drawn.1.toOption.isSome = true) :
    ∃ draft, drawn = (.ok draft, drawn.2) := by
  obtain ⟨_ | draft, after⟩ := drawn
  · cases h
  · exact ⟨draft, rfl⟩

/-- The first branch binds a name that the last one reads. What the branch between them writes makes
no difference to either, but for the numbers after it. -/
theorem drawNode_siblings_assign :
    let head : Source.TagHead := ⟨"if", "a", 0, ⟨0, 8⟩⟩
    let reads := fun name => Markup.Condition.last ⟨.lookup name [], none⟩
    let output := fun number name => Node.output ⟨number, name, .lookup name [], [], ⟨20, 27⟩⟩
    let assign : Node := .tag ⟨"assign", "x 1", 10, ⟨10, 26⟩⟩ (.leaf Extension.assign)
    let names : Renaming := ⟨fun number => if number < 2 then number else number + 1, (· + 7)⟩
    let before : List (Branch Node) := [⟨0, some (reads "a"), [assign]⟩]
    let later : List (Branch Node) := [⟨2, none, [output 3 "x"]⟩]
    let first := before ++ ⟨1, some (reads "b"), [.text "one"]⟩ :: later
    let second := renamedBranches names before ++
      ⟨names.id 1, some (reads "b"), [output 2 "b"]⟩ :: renamedBranches names later
    let env : Env := { Env.ofFilters Render.standardFilters with selector := some (.ofNames ["a", "b"]) }
    let walker : Walker := ⟨env, .ofFormat .standard, none⟩
    ∃ draft after draft' after' passages passages',
      drawNode walker .empty (.conditional head first) = (.ok draft, after) ∧
      drawNode walker .empty (.conditional head second) = (.ok draft', after') ∧
      Represents after.ring draft (passages.map .passage) (passages.map .passage) ∧
      Represents after'.ring draft' (passages'.map .passage) (passages'.map .passage) ∧
      passagesAt [0] passages' = (passagesAt [0] passages).map (Passage.renamed names) ∧
      passagesAt [3, 4] passages' = (passagesAt [2, 3] passages).map (Passage.renamed names) := by
  intro head reads output assign names before later first second env walker
  have binds : ∀ action ∈ actionsIn (itemsOfBranches first), Binds action :=
    List.forall_mem_singleton.2 Render.binds_assign
  have binds' : ∀ action ∈ actionsIn (itemsOf [output 2 "b"]), Binds action := fun _ mem =>
    (List.not_mem_nil mem).elim
  have accepted : (drawNode walker .empty (.conditional head first)).1.toOption.isSome = true := by
    decide +kernel
  have accepted' : (drawNode walker .empty (.conditional head second)).1.toOption.isSome = true := by
    decide +kernel
  obtain ⟨draft, drawn⟩ := exists_draft accepted
  obtain ⟨draft', drawn'⟩ := exists_draft accepted'
  have regular := Keyring.regular_ofFormat .standard
  obtain ⟨passages, passages', represents, represents', earlier, others, bound⟩ :=
    drawNode_siblings regular regular rfl rfl (by decide +kernel) (by decide +kernel) (by decide +kernel)
      binds binds' drawn drawn'
  exact ⟨draft, _, draft', _, passages, passages', drawn, drawn', represents, represents', earlier,
    others (bound rfl rfl)⟩

/-- The branch for everything else writes what a branch bound that no recipient of its takes. -/
example :
    let x : Markup.Expr := .lookup "x" []
    let branches : List (Branch Node) := [
      ⟨0, some (.last ⟨.lookup "a" [], none⟩),
        [.tag ⟨"assign", "x 1", 10, ⟨8, 24⟩⟩ (.leaf Extension.assign)]⟩,
      ⟨1, none, [.output ⟨2, "x", x, [], ⟨34, 41⟩⟩]⟩]
    let env : Env := { Env.ofFilters Render.standardFilters with selector := some (.ofNames ["a"]) }
    (drawNode ⟨env, .ofFormat .standard, none⟩ .empty (.conditional ⟨"if", "a", 3, ⟨0, 8⟩⟩ branches)).1.toOption.map
      (fun draft => draft.sections.entries.map textOf) = some ["", "1"] := by
  decide +kernel

end Siblings

end Outline
end MailMerge
