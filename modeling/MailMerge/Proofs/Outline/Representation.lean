/-
# Drawing up represents sketching

Whatever is drawn up, the draft represents the sketch of the same nodes: drawing up
fails as sketching does, and otherwise the draft has grown by the pieces that the
sketch has. So everything about outlines can be read off sketches and a keyring.
The numbers of outputs and branches tell their slots apart.
-/

import MailMerge.Proofs.Outline.Runs

namespace MailMerge
namespace Outline

open MailMerge.Tree (Node Branch Output Document itemsOf itemsOfBranches idsIn)
open Render (Env Outcome)

/-- **A draft that has grown by pieces.** It represented `before`, with the keyring
`ring` and the halting key `halt`; the slots of the new pieces belong to the numbers
`ids`. -/
structure Grown (ring : Keyring) (halt : Option String) (before : List Piece) (ids : List Nat)
    (draft : Draft) (after : Walker) (pieces : List Piece) : Prop where
  later : ring.Extends after.ring
  represents : Represents after.ring draft (before ++ pieces) (before ++ pieces)
  within : ∀ slot ∈ slotsIn pieces, ∃ id ∈ ids, slot.id? = some id
  halt : after.halt = if haltsIn pieces then some (after.ring.keyOf .halt) else halt

/-- **Drawing up agrees with sketching:** both fail alike, or the draft grows by the
pieces of the sketch; the environment afterwards is the same. -/
inductive Draws (ring : Keyring) (halt : Option String) (before : List Piece) (ids : List Nat) :
    Drawn → Sketched Piece → Prop
  | fault (fault : Fault) (after : Walker) :
      Draws ring halt before ids (.error fault, after) (.error fault, after.env)
  | drawn {draft : Draft} {after : Walker} {pieces : List Piece}
      (grown : Grown ring halt before ids draft after pieces) :
      Draws ring halt before ids (.ok draft, after) (.ok pieces, after.env)

/-- What is sketched after some pieces. -/
def Sketched.after (pieces : List Piece) (sketched : Sketched Piece) : Sketched Piece :=
  (sketched.1.map (pieces ++ ·), sketched.2)

/-- What a node does in a row of nodes, if it is no signal to stop. -/
theorem sketchAll_cons {node : Node} (plain : node.signal? = none) (format : KeyFormat) (env : Env)
    (nodes : List Node) :
    sketchAll format env (node :: nodes) =
      if env.interrupted then (.ok [], env)
      else match sketchNode format env node with
        | (.ok pieces, after) => (sketchAll format after nodes).after pieces
        | (.error fault, after) => (.error fault, after) := by
  rw [sketchAll]
  · congr 1
    generalize sketchNode format env node = own
    obtain ⟨fault | pieces, after⟩ := own
    · rfl
    · dsimp only [Sketched.after]
      generalize sketchAll format after nodes = others
      obtain ⟨fault | more, last⟩ := others <;> rfl
  · rintro head signal rfl
    cases plain

/-- A signal to stop ends a row of nodes. -/
theorem sketchAll_signal {node : Node} {signal : Render.Interrupt} (stop : node.signal? = some signal)
    (format : KeyFormat) (env : Env) (nodes : List Node) :
    sketchAll format env (node :: nodes) =
      if env.interrupted then (.ok [], env) else (.ok [], env.interrupt signal) := by
  match node with
  | .tag _ (.interrupt _) =>
    obtain rfl := Option.some.inj stop
    rfl

/-- What is sketched of the branches of a conditional, in the scope it opens. -/
def sketchInside (format : KeyFormat) (env : Env) (branches : List (Branch Node)) : Sketched Piece :=
  if isPersonal env branches then
    passagePieces
      (sketchBranches format ((Tree.conditionalId? branches).getD 0) [] (env.enter ∅) branches)
  else sketchChosen format (env.enter ∅) branches

/-- **A conditional is sketched** inside a scope of its own. -/
theorem sketchNode_conditional (format : KeyFormat) (env : Env) (head : Source.TagHead)
    (branches : List (Branch Node)) :
    sketchNode format env (.conditional head branches) =
      ((sketchInside format env branches).1, (sketchInside format env branches).2.leave) := rfl

/-- Passages put in front of others stay pieces. -/
theorem passagePieces_append (passages : List Passage) (sketched : Sketched Passage) :
    passagePieces (match sketched with
        | (.error fault, last) => (.error fault, last)
        | (.ok more, last) => (.ok (passages ++ more), last)) =
      (passagePieces sketched).after (passages.map .passage) := by
  match sketched with
  | (.error _, _) => rfl
  | (.ok more, last) => simp [passagePieces, Sketched.after, Except.map]

/-! ### Steps -/

section Steps

variable {ring : Keyring} {halt : Option String} {before pieces : List Piece} {ids : List Nat}
  {draft child : Draft} {after : Walker}

/-- A draft may be left as it is. -/
theorem Grown.refl (h : Represents after.ring draft before before) :
    Grown after.ring after.halt before ids draft after [] where
  later := .refl _
  represents := by rwa [List.append_nil]
  within := fun _ mem => (List.not_mem_nil mem).elim
  halt := rfl

theorem draws_same (after : Walker) (h : Represents after.ring draft before before) :
    Draws after.ring after.halt before ids (.ok draft, after) (.ok [], after.env) := .drawn (.refl h)

/-- More numbers may be meant. -/
theorem Grown.weaken (h : Grown ring halt before ids draft after pieces) {more : List Nat}
    (sub : ids ⊆ more) : Grown ring halt before more draft after pieces where
  later := h.later
  represents := h.represents
  within slot mem := by
    obtain ⟨id, hid, same⟩ := h.within slot mem
    exact ⟨id, sub hid, same⟩
  halt := h.halt

theorem Draws.weaken {drawn : Drawn} {sketched : Sketched Piece}
    (h : Draws ring halt before ids drawn sketched) {more : List Nat} (sub : ids ⊆ more) :
    Draws ring halt before more drawn sketched := by
  cases h with
  | fault fault after => exact .fault fault after
  | drawn grown => exact .drawn (grown.weaken sub)

/-- **What is drawn up next** grows the draft by further pieces. -/
theorem Grown.trans (h : Grown ring halt before ids draft after pieces) {more : List Nat}
    {drawn : Drawn} {sketched : Sketched Piece}
    (next : Draws after.ring after.halt (before ++ pieces) more drawn sketched) :
    Draws ring halt before (ids ++ more) drawn (sketched.after pieces) := by
  cases next with
  | fault fault last => exact .fault fault last
  | @drawn draft last others grown =>
    have both : Grown ring halt before (ids ++ more) draft last (pieces ++ others) := by
      refine ⟨h.later.trans grown.later, ?_, fun slot mem => ?_, ?_⟩
      · rw [← List.append_assoc]
        exact grown.represents
      · rw [slotsIn_append, List.mem_append] at mem
        rcases mem with mem | mem
        · obtain ⟨id, hid, same⟩ := h.within slot mem
          exact ⟨id, List.mem_append_left _ hid, same⟩
        · obtain ⟨id, hid, same⟩ := grown.within slot mem
          exact ⟨id, List.mem_append_right _ hid, same⟩
      · rw [grown.halt, h.halt, haltsIn_append]
        cases first : haltsIn pieces <;> cases second : haltsIn others
        · rfl
        · rfl
        · have has := h.represents.keyed.hasHalt (by rw [haltsIn_append, first, Bool.or_true])
          rw [grown.later.keyOf has]
          rfl
        · rfl
    exact .drawn both

/-- **A part without a placeholder** is added with the keys there are. -/
theorem Grown.part (h : Represents after.ring draft before before) (part : Part)
    (plain : part.slots = []) (noHalt : part.isHalt = false) :
    Grown after.ring after.halt before ids (draft.push (part.fragment after.ring)) after
      [.part part] where
  later := .refl _
  represents := by
    have added := (h.addPlain part plain fun halts => by simp [noHalt] at halts).push
      (.part part) List.mem_cons_self
    exact added.perm (List.perm_append_singleton _ before).symm
  within slot mem := by simp [Piece.slots, plain] at mem
  halt := by simp [haltsIn, Piece.halts, noHalt]

/-- Text is drawn up as it is sketched. -/
theorem draws_text (after : Walker) (h : Represents after.ring draft before before) (text : String) :
    Draws after.ring after.halt before ids (draft.pushText after.ring.format text, after)
      (sketchText after.ring.format text, after.env) := by
  unfold Draft.pushText sketchText
  split
  · exact .fault _ _
  · split
    · exact .drawn (.refl h)
    · exact .drawn (.part h (.literal text) rfl rfl)

/-- What rendering gave is drawn up as it is sketched. -/
theorem draws_outcome {walker : Walker} (h : Represents walker.ring draft before before)
    (outcome : Outcome) :
    Draws walker.ring walker.halt before ids (walker.addOutcome draft outcome)
      (sketchOutcome walker.ring.format outcome) := by
  unfold Walker.addOutcome sketchOutcome
  match outcome.contained with
  | (.ok text, env) => exact draws_text { walker with env := env } h text
  | (.error fault, env) => exact .fault _ { walker with env := env }

/-- **An output that reads a personal name** is drawn up as it is sketched. -/
theorem draws_output {walker : Walker} (h : Represents walker.ring draft before before)
    {source : Output} (new : .output source.id ∉ slotsIn before) :
    let taken := walker.take (.output source.id)
    let registered :=
      { draft with producers := draft.producers.insert taken.1 (.output source) }
    Draws walker.ring walker.halt before [source.id] (.ok (registered.push (.output taken.1)), taken.2)
      (.ok [.part (.output source)], walker.env) := by
  intro taken registered
  have ext := walker.ring.extends_take (.output source.id)
  have key := walker.ring.keyOf_take (.output source.id)
  have added := (h.extend ext (h.regular.take _)).addOutput (walker.ring.has_take _) new
  rw [key] at added
  have pushed := added.push (.part (.output source)) List.mem_cons_self
  rw [Piece.fragment, Part.fragment, key] at pushed
  have grown : Grown walker.ring walker.halt before [source.id] (registered.push (.output taken.1))
      taken.2 [.part (.output source)] := by
    refine ⟨ext, pushed.perm (List.perm_append_singleton _ before).symm, fun slot mem => ?_, rfl⟩
    obtain rfl := List.mem_singleton.1 mem
    exact ⟨source.id, List.mem_cons_self, rfl⟩
  exact .drawn grown

/-- What a nested draft has grown by is taken over. -/
theorem Draws.takeOver {drawn : Drawn} {sketched : Sketched Piece}
    (h : Draws ring halt [] ids drawn sketched) (hdraft : Represents ring draft before before)
    (apart : ∀ slot ∈ slotsIn before, ∀ id ∈ ids, slot.id? ≠ some id) :
    Draws ring halt before ids (draft.takeOver drawn) sketched := by
  cases h with
  | fault fault after => exact .fault fault after
  | drawn grown =>
    refine .drawn ⟨grown.later, ?_, grown.within, grown.halt⟩
    refine (hdraft.extend grown.later grown.represents.regular).absorb grown.represents ?_
    intro slot mem old
    obtain ⟨id, hid, same⟩ := grown.within slot mem
    exact apart slot old id hid same

/-- The scope of a conditional is left in the same way. -/
theorem Draws.outside {drawn : Drawn} {sketched : Sketched Piece}
    (h : Draws ring halt before ids drawn sketched) :
    Draws ring halt before ids (outside drawn) (sketched.1, sketched.2.leave) := by
  cases h with
  | fault fault after => exact .fault fault { after with env := after.env.leave }
  | @drawn draft after pieces grown =>
    have left : Grown ring halt before ids draft { after with env := after.env.leave } pieces :=
      ⟨grown.later, grown.represents, grown.within, grown.halt⟩
    exact .drawn left

/-- **The end of a body** is drawn up as it is sketched. -/
theorem Grown.closeBody (h : Grown ring halt before ids draft after pieces) (depth : Nat) :
    let closed := after.closeBody depth draft
    let sketch := closeSketch depth pieces after.env
    Grown ring halt before ids closed.1 closed.2 sketch.1 ∧ closed.2.env = sketch.2 := by
  simp only [Walker.closeBody, closeSketch]
  split
  · refine ⟨?_, rfl⟩
    have ext := after.ring.extends_take .halt
    have has : (after.ring.take .halt).2.Has .halt := after.ring.has_take .halt
    have key : (after.ring.take .halt).2.keyOf .halt = (after.ring.take .halt).1 :=
      after.ring.keyOf_take .halt
    have extended := h.represents.extend ext (h.represents.regular.take .halt)
    have pushed := (extended.addPlain .halt rfl fun _ => has).push (.part .halt)
      List.mem_cons_self
    refine ⟨h.later.trans ext, ?_, fun slot mem => h.within slot ?_, ?_⟩
    · have result := pushed.perm (List.perm_append_singleton _ _).symm
      rw [List.append_assoc, Piece.fragment, Part.fragment, key] at result
      exact result
    · simpa [Piece.slots, Part.slots] using mem
    · rw [haltsIn_append]
      simp [Piece.halts, Part.isHalt, Walker.take, key]
  · exact ⟨⟨h.later, h.represents, h.within, h.halt⟩, rfl⟩

end Steps

/-! ### The passage that reports a conditional -/

/-- The fragments of passages are their choices. -/
theorem fragmentsOf_passages (ring : Keyring) {pieces : List Piece}
    (passages : ∀ piece ∈ pieces, piece.isPassage = true) :
    fragmentsOf ring pieces = pieces.map (Piece.fragment ring) := by
  refine joinLiterals_of_none fun fragment mem => ?_
  obtain ⟨piece, hpiece, rfl⟩ := List.mem_map.1 mem
  cases piece with
  | part own => simpa [Piece.isPassage] using passages _ hpiece
  | passage own => rfl

theorem slotsIn_reportFirst (owner : Nat) (passages : List Passage) :
    slotsIn ((reportFirst owner passages).map .passage) = slotsIn (passages.map .passage) := by
  cases passages <;> rfl

theorem haltsIn_reportFirst (owner : Nat) (passages : List Passage) :
    haltsIn ((reportFirst owner passages).map .passage) = haltsIn (passages.map .passage) := by
  cases passages <;> rfl

/-- **Letting the first choice of a branch report** a conditional. -/
theorem Represents.reportTo {ring : Keyring} {draft : Draft} {before : List Piece}
    {passages : List Passage} (owner : Nat)
    (h : Represents ring draft (before ++ passages.map .passage) (before ++ passages.map .passage))
    (onlyPassages : ∀ piece ∈ before, piece.isPassage = true) :
    Represents ring (draft.reportTo owner draft.fragments[before.length]?)
      (before ++ (reportFirst owner passages).map .passage)
      (before ++ (reportFirst owner passages).map .passage) := by
  have fragments : draft.fragments =
      before.map (Piece.fragment ring) ++ (passages.map Piece.passage).map (Piece.fragment ring) := by
    rw [h.fragments, fragmentsOf_passages, List.map_append]
    intro piece mem
    rcases List.mem_append.1 mem with mem | mem
    · exact onlyPassages piece mem
    · obtain ⟨passage, -, rfl⟩ := List.mem_map.1 mem
      rfl
  have found : draft.fragments[before.length]? =
      ((passages.map Piece.passage).map (Piece.fragment ring)).head? := by
    rw [fragments, List.getElem?_append_right (by simp), List.length_map, Nat.sub_self,
      List.head?_eq_getElem?]
  rw [found]
  cases passages with
  | nil => exact h
  | cons first rest =>
    have order : (before ++ (first :: rest).map Piece.passage).Perm
        (.passage first :: (before ++ rest.map .passage)) := List.perm_middle
    have fragments : (before ++ (reportFirst owner (first :: rest)).map Piece.passage).map (Piece.fragment ring) =
        (before ++ (first :: rest).map Piece.passage).map (Piece.fragment ring) := by
      simp [reportFirst, Piece.fragment]
      rfl
    refine Represents.perm ?_ List.perm_middle.symm
    exact (h.perm order).modify (first.reporting owner) _ _ rfl rfl rfl rfl List.perm_middle.subset fragments

/-- **The last branch** grows the draft by its passages, the first of them reporting. -/
theorem Grown.reporting {ring : Keyring} {halt : Option String} {before : List Piece}
    {ids : List Nat} {draft : Draft} {after : Walker} {passages : List Passage}
    (h : Grown ring halt before ids draft after (passages.map .passage)) (owner : Nat)
    (onlyPassages : ∀ piece ∈ before, piece.isPassage = true) :
    Grown ring halt before ids (draft.reportTo owner draft.fragments[before.length]?) after
      ((reportFirst owner passages).map .passage) where
  later := h.later
  represents := h.represents.reportTo owner onlyPassages
  within slot mem := h.within slot (slotsIn_reportFirst owner passages ▸ mem)
  halt := by rw [haltsIn_reportFirst]; exact h.halt

/-! ### The walk -/

/-- Slots that belong to none of some numbers. -/
def Apart (slots : List Slot) (ids : List Nat) : Prop := ∀ slot ∈ slots, ∀ id ∈ ids, slot.id? ≠ some id

theorem Apart.subset {slots : List Slot} {ids others : List Nat} (h : Apart slots ids)
    (sub : others ⊆ ids) : Apart slots others := fun slot mem id hid => h slot mem id (sub hid)

/-- The slot of an output with a new number is new. -/
theorem Apart.new {slots : List Slot} {ids : List Nat} (h : Apart slots ids) {id : Nat}
    (mem : id ∈ ids) : .output id ∉ slots := fun old => h _ old id mem rfl

/-- New pieces belong to other numbers than those to come. -/
theorem Grown.apart {ring : Keyring} {halt : Option String} {before pieces : List Piece}
    {ids more : List Nat} {draft : Draft} {after : Walker}
    (h : Grown ring halt before ids draft after pieces) (apart : Apart (slotsIn before) more)
    (disjoint : ∀ id ∈ ids, id ∉ more) : Apart (slotsIn (before ++ pieces)) more := by
  intro slot mem id hid same
  rw [slotsIn_append, List.mem_append] at mem
  rcases mem with mem | mem
  · exact apart slot mem id hid same
  · obtain ⟨own, hown, hsame⟩ := h.within slot mem
    rw [hsame] at same
    exact disjoint own hown (Option.some.inj same ▸ hid)

/-- **A branch grows the draft by its passages.** -/
theorem Grown.branch {ring : Keyring} {halt : Option String} {before pieces : List Piece}
    {id : Nat} {ids : List Nat} {draft child : Draft} {after : Walker} (guard : Guard)
    (h : Grown ring halt [] ids child after pieces) (hdraft : Represents ring draft before before)
    (apart : Apart (slotsIn before) (id :: ids)) (new : id ∉ ids) :
    let added := draft.addBranch after.ring id guard child
    Grown ring halt before (id :: ids) added.1 { after with ring := added.2 }
      ((passagesOf id guard pieces).map .passage) := by
  intro added
  have unused : Unused id 0 (slotsIn (pieces ++ before)) := by
    refine .of_ids fun slot mem same => ?_
    rw [slotsIn_append, List.mem_append] at mem
    rcases mem with mem | mem
    · obtain ⟨other, hother, hsame⟩ := h.within slot mem
      rw [hsame] at same
      exact new (Option.some.inj same ▸ hother)
    · exact apart slot mem id List.mem_cons_self same
  have distinct : ∀ slot ∈ slotsIn pieces, slot ∉ slotsIn before := by
    intro slot mem old
    obtain ⟨other, hother, hsame⟩ := h.within slot mem
    exact apart slot old other (List.mem_cons_of_mem _ hother) hsame
  obtain ⟨represents, ext⟩ := (hdraft.extend h.later h.represents.regular).addBranch guard
    h.represents distinct unused
  refine ⟨h.later.trans ext, represents, fun slot mem => ?_, ?_⟩
  · rcases slotsIn_passagesOf mem with own | mem
    · exact ⟨id, List.mem_cons_self, own⟩
    · obtain ⟨other, hother, hsame⟩ := h.within slot mem
      exact ⟨other, List.mem_cons_of_mem _ hother, hsame⟩
  · rw [haltsIn_passagesOf]
    refine h.halt.trans ?_
    cases halts : haltsIn pieces with
    | false => rfl
    | true =>
      have has := h.represents.keyed.hasHalt halts
      exact congrArg some (ext.keyOf has).symm

mutual

/-- **One node is drawn up as it is sketched.** -/
theorem draws_node (node : Node) (walker : Walker) (draft : Draft) (before : List Piece)
    (h : Represents walker.ring draft before before) (distinct : (idsIn node.items).Nodup)
    (apart : Apart (slotsIn before) (idsIn node.items)) :
    Draws walker.ring walker.halt before (idsIn node.items) (drawNode walker draft node)
      (sketchNode walker.ring.format walker.env node) := by
  match node with
  | .text raw => exact draws_text walker h raw
  | .output source =>
    rw [drawNode, sketchNode]
    split
    · exact draws_output h (apart.new List.mem_cons_self)
    · exact draws_outcome h _
  | .tag head action => exact draws_outcome h _
  | .block head body =>
    have inner := draws_all body walker .empty [] (.empty h.regular) distinct
      fun _ mem => (List.not_mem_nil mem).elim
    rw [drawNode_block, sketchNode]
    exact inner.takeOver h apart
  | .conditional head branches =>
    rw [drawNode_conditional, sketchNode_conditional]
    refine Draws.takeOver (Draws.outside ?_) h apart
    unfold drawInside sketchInside
    split
    · rename_i personal
      have nonempty : branches ≠ [] := by
        rintro rfl
        exact Bool.false_ne_true personal
      exact draws_branches branches nonempty _ [] none { walker with env := walker.env.enter ∅ } .empty []
        (.empty h.regular) (fun _ mem => (List.not_mem_nil mem).elim) distinct
        fun _ mem => (List.not_mem_nil mem).elim
    · exact draws_chosen branches { walker with env := walker.env.enter ∅ } h.regular distinct
termination_by structural node

/-- **Nodes in a row are drawn up as they are sketched.** -/
theorem draws_all (nodes : List Node) (walker : Walker) (draft : Draft) (before : List Piece)
    (h : Represents walker.ring draft before before) (distinct : (idsIn (itemsOf nodes)).Nodup)
    (apart : Apart (slotsIn before) (idsIn (itemsOf nodes))) :
    Draws walker.ring walker.halt before (idsIn (itemsOf nodes)) (drawAll walker draft nodes)
      (sketchAll walker.ring.format walker.env nodes) := by
  match nodes with
  | [] => exact .drawn (.refl h)
  | node :: rest =>
    rw [Tree.itemsOf, Tree.idsIn_append] at distinct apart ⊢
    obtain ⟨distinctNode, distinctRest, disjoint⟩ := List.nodup_append.1 distinct
    cases stop : node.signal? with
    | some signal =>
      rw [drawAll_signal stop, sketchAll_signal stop]
      split
      · exact .drawn (.refl h)
      · exact draws_same { walker with env := walker.env.interrupt signal } h
    | none =>
      rw [drawAll_cons stop, sketchAll_cons stop]
      split
      · exact .drawn (.refl h)
      · have first := draws_node node walker draft before h distinctNode
          (apart.subset (List.subset_append_left ..))
        generalize drawNode walker draft node = drawn at first ⊢
        generalize sketchNode walker.ring.format walker.env node = sketched at first ⊢
        cases first with
        | fault fault after => exact .fault fault after
        | @drawn next after pieces grown =>
          have format : after.ring.format = walker.ring.format := grown.later.format
          have apartRest := grown.apart (apart.subset (List.subset_append_right ..))
            fun id hid hmore => disjoint id hid id hmore rfl
          have others := draws_all rest after next (before ++ pieces) grown.represents distinctRest
            apartRest
          rw [format] at others
          exact grown.trans others
termination_by structural nodes

/-- **The chosen branch is drawn up as it is sketched.** -/
theorem draws_chosen (branches : List (Branch Node)) (walker : Walker) (regular : walker.ring.Regular)
    (distinct : (idsIn (itemsOfBranches branches)).Nodup) :
    Draws walker.ring walker.halt [] (idsIn (itemsOfBranches branches)) (drawChosen walker branches)
      (sketchChosen walker.ring.format walker.env branches) := by
  match branches with
  | [] => exact .drawn (.refl (.empty regular))
  | ⟨id, predicate, body⟩ :: rest =>
    rw [Tree.itemsOfBranches, Tree.idsIn_branch, Tree.idsIn_append] at distinct ⊢
    obtain ⟨-, distinct⟩ := List.nodup_cons.1 distinct
    obtain ⟨distinctBody, distinctRest, -⟩ := List.nodup_append.1 distinct
    have chosen := (draws_all body walker .empty [] (.empty regular) distinctBody
      fun _ mem => (List.not_mem_nil mem).elim).weaken
        (List.subset_cons_of_subset id (List.subset_append_left _ (idsIn (itemsOfBranches rest))))
    cases predicate with
    | none => exact chosen
    | some condition =>
      rw [drawChosen, sketchChosen]
      cases Render.evalCondition walker.env condition with
      | error fault => exact draws_outcome (.empty regular) _
      | ok holds =>
        cases holds with
        | true => exact chosen
        | false =>
          refine (draws_chosen rest walker regular distinctRest).weaken ?_
          exact List.subset_cons_of_subset id (List.subset_append_right ..)
termination_by structural branches

/-- **The branches of a conditional are drawn up as they are sketched.** -/
theorem draws_branches (branches : List (Branch Node)) (nonempty : branches ≠ []) (owner : Nat)
    (passed : List BranchCondition) (reporter : Option Fragment) (walker : Walker) (draft : Draft)
    (before : List Piece) (h : Represents walker.ring draft before before)
    (onlyPassages : ∀ piece ∈ before, piece.isPassage = true)
    (distinct : (idsIn (itemsOfBranches branches)).Nodup)
    (apart : Apart (slotsIn before) (idsIn (itemsOfBranches branches))) :
    Draws walker.ring walker.halt before (idsIn (itemsOfBranches branches))
      (drawBranches owner passed reporter draft walker branches)
      (passagePieces (sketchBranches walker.ring.format owner passed walker.env branches)) := by
  match branches with
  | [] => exact absurd rfl nonempty
  | ⟨id, predicate, body⟩ :: rest =>
    rw [Tree.itemsOfBranches, Tree.idsIn_branch, Tree.idsIn_append] at distinct apart ⊢
    obtain ⟨new, distinct⟩ := List.nodup_cons.1 distinct
    obtain ⟨distinctBody, distinctRest, disjoint⟩ := List.nodup_append.1 distinct
    have inner := draws_all body walker .empty [] (.empty h.regular) distinctBody
      fun _ mem => (List.not_mem_nil mem).elim
    rw [drawBranches, sketchBranches]
    generalize drawAll walker .empty body = drawn at inner ⊢
    generalize sketchAll walker.ring.format walker.env body = sketched at inner ⊢
    cases inner with
    | fault fault after => exact .fault fault after
    | @drawn child after pieces grown =>
      obtain ⟨closed, env⟩ := grown.closeBody walker.env.interrupts.length
      dsimp only
      generalize after.closeBody walker.env.interrupts.length child = end₁ at closed env ⊢
      generalize closeSketch walker.env.interrupts.length pieces after.env = end₂ at closed env ⊢
      obtain ⟨child, after⟩ := end₁
      obtain ⟨pieces, env'⟩ := end₂
      obtain rfl := env
      dsimp only at closed ⊢
      have apartBranch : Apart (slotsIn before) (id :: idsIn (itemsOf body)) :=
        apart.subset (List.cons_subset_cons id (List.subset_append_left ..))
      have sub : id :: idsIn (itemsOf body) ⊆
          id :: (idsIn (itemsOf body) ++ idsIn (itemsOfBranches rest)) :=
        List.cons_subset_cons id (List.subset_append_left ..)
      have length : draft.fragments.length = before.length := by
        rw [h.fragments, fragmentsOf_passages _ onlyPassages, List.length_map]
      rw [length]
      have branch := fun guard => closed.branch guard h apartBranch fun mem =>
        new (List.mem_append_left _ mem)
      cases predicate with
      | none => exact .drawn (((branch _).reporting owner onlyPassages).weaken sub)
      | some condition =>
        cases rest with
        | nil => exact .drawn (((branch _).reporting owner onlyPassages).weaken sub)
        | cons second more =>
          have grown := branch (Guard.ofBranch (some ⟨id, owner, condition⟩) passed)
          have more_passages : ∀ piece ∈ before ++ (passagesOf id
              (Guard.ofBranch (some ⟨id, owner, condition⟩) passed) pieces).map .passage,
              piece.isPassage = true := by
            intro piece mem
            rcases List.mem_append.1 mem with mem | mem
            · exact onlyPassages piece mem
            · obtain ⟨passage, -, rfl⟩ := List.mem_map.1 mem
              rfl
          have apartRest := grown.apart (apart.subset fun other mem =>
              List.mem_cons_of_mem _ (List.mem_append_right _ mem)) fun other hother hmore => by
            rcases List.mem_cons.1 hother with rfl | hother
            · exact new (List.mem_append_right _ hmore)
            · exact disjoint other hother other hmore rfl
          have others := fun reporter => draws_branches (second :: more) (List.cons_ne_nil _ _) owner
            (passed ++ [⟨id, owner, condition⟩]) reporter _ _ _ grown.represents more_passages
            distinctRest apartRest
          have format : (Draft.addBranch draft after.ring id
              (Guard.ofBranch (some ⟨id, owner, condition⟩) passed) child).2.format =
                walker.ring.format := grown.later.format
          dsimp only at others
          rw [format] at others
          have result := fun reporter => grown.trans (others reporter)
          simp only [← passagePieces_append] at result
          exact result _
termination_by structural branches

end

/-- **An outline that is a sketch with keys.** -/
structure Sketches (ring : Keyring) (outline : Outline) (pieces : List Piece) : Prop where
  regular : ring.Regular
  keyed : Keyed ring pieces
  fragments : outline.fragments = fragmentsOf ring pieces
  producers : outline.producers.pairs.Perm (producersIn ring pieces)
  sections : outline.sections.pairs.Perm (sectionsIn ring pieces)
  format : outline.format = ring.format
  halt : outline.halt = if haltsIn pieces then some (ring.keyOf .halt) else none

/-- **The outline of a document is its sketch with keys,** if the numbers of its outputs
and branches are distinct, and there is one unless sketching fails. -/
theorem ofDocument_sketched {document : Document} (env : Env) {ring : Keyring}
    (regular : ring.Regular) (distinct : document.ids.Nodup) :
    match ofDocument document env ring with
    | (.error fault, _) => (sketchAll ring.format env document.nodes).1 = .error fault
    | (.ok outline, _, later) =>
      ∃ pieces, (sketchAll ring.format env document.nodes).1 = .ok pieces ∧
        later.format = ring.format ∧ Sketches later outline pieces := by
  have walk := draws_all document.nodes ⟨env, ring, none⟩ .empty [] (.empty regular) distinct
    fun _ mem => (List.not_mem_nil mem).elim
  unfold ofDocument
  generalize drawAll ⟨env, ring, none⟩ .empty document.nodes = result at walk
  generalize sketchAll _ _ document.nodes = sketched at walk ⊢
  cases walk with
  | fault fault after => rfl
  | @drawn draft after pieces grown =>
    obtain ⟨later, ⟨regular, keyed, -, fragments, producers, sections⟩, -, halt⟩ := grown
    exact ⟨pieces, rfl, later.format, ⟨regular, keyed, fragments, producers, sections, rfl, halt⟩⟩

/-- An outline that was drawn up is a sketch with keys. -/
theorem sketches_ofDocument {document : Document} {env : Env} {ring : Keyring}
    (regular : ring.Regular) (distinct : document.ids.Nodup) {outline : Outline}
    (drawn : (ofDocument document env ring).1 = .ok outline) :
    ∃ later pieces, (sketchAll ring.format env document.nodes).1 = .ok pieces ∧
      later.format = ring.format ∧ Sketches later outline pieces := by
  have sketched := ofDocument_sketched env regular distinct
  generalize ofDocument document env ring = result at sketched drawn
  obtain ⟨_, _, later⟩ := result
  obtain rfl := drawn
  exact ⟨later, sketched⟩

/-- A sketch that was made has an outline with keys. -/
theorem ofDocument_of_sketch {document : Document} {env : Env} {ring : Keyring}
    (regular : ring.Regular) (distinct : document.ids.Nodup) {pieces : List Piece}
    (sketch : (sketchAll ring.format env document.nodes).1 = .ok pieces) :
    ∃ outline, (ofDocument document env ring).1 = .ok outline ∧
      Sketches (ofDocument document env ring).2.2 outline pieces := by
  have sketched := ofDocument_sketched env regular distinct
  generalize ofDocument document env ring = result at sketched ⊢
  obtain ⟨fault | outline, _, later⟩ := result
  · cases sketch.symm.trans sketched
  · obtain ⟨found, same, -, sketches⟩ := sketched
    obtain rfl := Except.ok.inj (sketch.symm.trans same)
    exact ⟨outline, rfl, sketches⟩

end Outline
end MailMerge
