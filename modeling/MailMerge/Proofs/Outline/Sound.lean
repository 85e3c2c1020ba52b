/-
# What stands in a sketch

A sketch has no empty text and no text with the opening mark of keys in it, and all
output can only end inside a passage.
-/

import MailMerge.Proofs.Outline.Representation

namespace MailMerge
namespace Outline

open MailMerge.Tree (Node Branch)
open Render (Env Outcome)

/-- **A sound part:** text that is not empty and does not hold the opening mark of keys. -/
def Part.Sound (format : KeyFormat) : Part → Prop
  | .literal text => text ≠ "" ∧ Text.contains text format.opening = false
  | _ => True

/-- **A sound passage** has sound parts. -/
def Passage.Sound (format : KeyFormat) (passage : Passage) : Prop :=
  ∀ part ∈ passage.parts, part.Sound format

/-- **A sound piece:** one that does not end all output itself. -/
def Piece.Sound (format : KeyFormat) : Piece → Prop
  | .part own => own.isHalt = false ∧ own.Sound format
  | .passage own => own.Sound format

/-- Whatever is sketched has a property. -/
def Sketched.All {α : Type} (property : α → Prop) (sketched : Sketched α) : Prop :=
  ∀ items, sketched.1 = .ok items → ∀ item ∈ items, property item

section All

variable {α : Type} {property : α → Prop}

theorem Sketched.All.nil {env : Env} : Sketched.All property (.ok [], env) := by
  rintro items h item mem
  obtain rfl := Except.ok.inj h
  exact (List.not_mem_nil mem).elim

theorem Sketched.All.fault {env : Env} {fault : Fault} :
    Sketched.All property (.error fault, env) := fun _ h => by cases h

theorem Sketched.All.ok {env : Env} {items : List α} (h : ∀ item ∈ items, property item) :
    Sketched.All property (.ok items, env) := by
  rintro others same
  obtain rfl := Except.ok.inj same
  exact h

theorem Sketched.All.after {property : Piece → Prop} {pieces : List Piece}
    {sketched : Sketched Piece} (first : ∀ piece ∈ pieces, property piece)
    (h : Sketched.All property sketched) : Sketched.All property (sketched.after pieces) := by
  obtain ⟨result, env⟩ := sketched
  cases result with
  | error fault => exact .fault
  | ok more =>
    refine .ok fun piece mem => ?_
    exact (List.mem_append.1 mem).elim (first piece) (h more rfl piece)

end All

variable {format : KeyFormat}

/-- Text is only taken as a sound piece. -/
theorem sound_sketchText (text : String) (env : Env) :
    Sketched.All (Piece.Sound format) (sketchText format text, env) := by
  unfold sketchText
  split
  · exact .fault
  · rename_i clean
    split
    · exact .nil
    · rename_i nonempty
      refine .ok fun piece mem => ?_
      obtain rfl := List.mem_singleton.1 mem
      exact ⟨rfl, fun empty => nonempty (by simp [empty]), Bool.not_eq_true _ ▸ clean⟩

theorem sound_sketchOutcome (outcome : Outcome) :
    Sketched.All (Piece.Sound format) (sketchOutcome format outcome) := by
  unfold sketchOutcome
  match outcome.contained with
  | (.ok text, env) => exact sound_sketchText text env
  | (.error fault, env) => exact .fault

/-- The parts of pieces that make up a body, the end of all output among them. -/
def Piece.PartsSound (format : KeyFormat) : Piece → Prop
  | .part own => own.Sound format
  | .passage own => own.Sound format

theorem Piece.Sound.partsSound {piece : Piece} (h : piece.Sound format) : piece.PartsSound format := by
  cases piece with
  | part own => exact h.2
  | passage own => exact h

theorem sound_closeSketch {pieces : List Piece} (h : ∀ piece ∈ pieces, piece.Sound format)
    (depth : Nat) (env : Env) :
    ∀ piece ∈ (closeSketch depth pieces env).1, piece.PartsSound format := by
  intro piece mem
  unfold closeSketch at mem
  split at mem
  · rcases List.mem_append.1 mem with mem | mem
    · exact (h piece mem).partsSound
    · obtain rfl := List.mem_singleton.1 mem
      trivial
  · exact (h piece mem).partsSound

theorem sound_passageOfRun {branch run : Nat} {guard : Guard} {parts : List Part}
    (h : ∀ part ∈ parts, part.Sound format) :
    ∀ passage ∈ passageOfRun branch run guard parts, passage.Sound format := by
  intro passage mem
  unfold passageOfRun at mem
  split at mem
  · exact (List.not_mem_nil mem).elim
  · obtain rfl := List.mem_singleton.1 mem
    exact h

/-- The passages made of a body hold its parts. -/
theorem sound_passagesFrom {branch : Nat} {guard : Guard} (rest : List Piece) (runs : Nat)
    (parts : List Part) (h : ∀ part ∈ parts, part.Sound format)
    (hrest : ∀ piece ∈ rest, piece.PartsSound format) :
    ∀ passage ∈ passagesFrom branch guard runs parts rest, passage.Sound format := by
  induction rest generalizing runs parts with
  | nil => exact sound_passageOfRun h
  | cons piece rest ih =>
    obtain ⟨hpiece, others⟩ := List.forall_mem_cons.1 hrest
    cases piece with
    | part own =>
      refine ih runs (parts ++ [own]) (fun part mem => ?_) others
      rcases List.mem_append.1 mem with mem | mem
      · exact h part mem
      · obtain rfl := List.mem_singleton.1 mem
        exact hpiece
    | passage inner =>
      intro passage mem
      rcases List.mem_append.1 mem with mem | mem
      · exact sound_passageOfRun h passage mem
      · rcases List.mem_cons.1 mem with rfl | mem
        · exact hpiece
        · exact ih _ [] (fun _ mem => (List.not_mem_nil mem).elim) others passage mem

theorem sound_passagesOf (branch : Nat) (guard : Guard) {body : List Piece}
    (h : ∀ piece ∈ body, piece.PartsSound format) :
    ∀ passage ∈ passagesOf branch guard body, passage.Sound format := by
  intro passage mem
  unfold passagesOf at mem
  split at mem
  · exact sound_passagesFrom body 0 [] (fun _ mem => (List.not_mem_nil mem).elim) h passage mem
  · rename_i none
    obtain rfl := List.mem_singleton.1 mem
    intro part hpart
    have : Piece.part part ∈ body := by
      rw [parts_of_no_passage none]
      exact List.mem_map.2 ⟨part, hpart, rfl⟩
    exact h _ this

theorem sound_reportFirst {owner : Nat} {passages : List Passage}
    (h : ∀ passage ∈ passages, passage.Sound format) :
    ∀ passage ∈ reportFirst owner passages, passage.Sound format := by
  cases passages with
  | nil => exact h
  | cons first rest =>
    intro passage mem
    rcases List.mem_cons.1 mem with rfl | mem
    · exact h first List.mem_cons_self
    · exact h passage (List.mem_cons_of_mem _ mem)

theorem sound_passagePieces {sketched : Sketched Passage}
    (h : Sketched.All (Passage.Sound format) sketched) :
    Sketched.All (Piece.Sound format) (passagePieces sketched) := by
  obtain ⟨result, env⟩ := sketched
  cases result with
  | error fault => exact .fault
  | ok passages =>
    refine .ok fun piece mem => ?_
    obtain ⟨passage, hpassage, rfl⟩ := List.mem_map.1 mem
    exact h passages rfl passage hpassage

mutual

/-- **The sketch of a node is sound.** -/
theorem sound_sketchNode (node : Node) (env : Env) :
    Sketched.All (Piece.Sound format) (sketchNode format env node) := by
  match node with
  | .text raw => exact sound_sketchText raw env
  | .output source =>
    rw [sketchNode]
    split
    · refine .ok fun piece mem => ?_
      obtain rfl := List.mem_singleton.1 mem
      exact ⟨rfl, trivial⟩
    · exact sound_sketchOutcome _
  | .tag head action => exact sound_sketchOutcome _
  | .block _ body => exact sound_sketchAll body env
  | .conditional head branches =>
    rw [sketchNode_conditional]
    unfold sketchInside
    split
    · exact sound_passagePieces (sound_sketchBranches branches _ [] (env.enter ∅))
    · exact sound_sketchChosen branches (env.enter ∅)
termination_by structural node

/-- **The sketch of nodes is sound.** -/
theorem sound_sketchAll (nodes : List Node) (env : Env) :
    Sketched.All (Piece.Sound format) (sketchAll format env nodes) := by
  match nodes with
  | [] => exact .nil
  | node :: rest =>
    cases stop : node.signal? with
    | some signal =>
      rw [sketchAll_signal stop]
      split <;> exact .nil
    | none =>
      rw [sketchAll_cons stop]
      split
      · exact .nil
      · have first : Sketched.All (Piece.Sound format) (sketchNode format env node) :=
          sound_sketchNode node env
        generalize sketchNode format env node = sketched at first ⊢
        match sketched with
        | (.error fault, after) => exact .fault
        | (.ok pieces, after) => exact .after (first pieces rfl) (sound_sketchAll rest after)
termination_by structural nodes

/-- The sketch of the chosen branch is sound. -/
theorem sound_sketchChosen (branches : List (Branch Node)) (env : Env) :
    Sketched.All (Piece.Sound format) (sketchChosen format env branches) := by
  match branches with
  | [] => exact .nil
  | ⟨_, none, body⟩ :: rest => exact sound_sketchAll body env
  | ⟨_, some condition, body⟩ :: rest =>
    rw [sketchChosen]
    cases Render.evalCondition env condition with
    | error fault => exact sound_sketchOutcome _
    | ok holds =>
      cases holds with
      | true => exact sound_sketchAll body env
      | false => exact sound_sketchChosen rest env
termination_by structural branches

/-- The passages of a conditional are sound. -/
theorem sound_sketchBranches (branches : List (Branch Node)) (owner : Nat)
    (passed : List BranchCondition) (env : Env) :
    Sketched.All (Passage.Sound format) (sketchBranches format owner passed env branches) := by
  match branches with
  | [] => exact .nil
  | ⟨id, predicate, body⟩ :: rest =>
    rw [sketchBranches]
    have inner : Sketched.All (Piece.Sound format) (sketchAll format env body) :=
      sound_sketchAll body env
    generalize sketchAll format env body = sketched at inner ⊢
    match sketched with
    | (.error fault, after) => exact .fault
    | (.ok pieces, after) =>
      have closed := sound_closeSketch (inner pieces rfl) env.interrupts.length after
      dsimp only
      generalize closeSketch env.interrupts.length pieces after = closing at closed ⊢
      obtain ⟨body, last⟩ := closing
      have passages := fun guard => sound_passagesOf id guard closed
      cases predicate with
      | none => exact .ok (sound_reportFirst (passages _))
      | some condition =>
        dsimp only [Option.map]
        split
        · exact .ok (sound_reportFirst (passages _))
        · have others := sound_sketchBranches rest owner (passed ++ [⟨id, owner, condition⟩]) last
          generalize sketchBranches format owner (passed ++ [⟨id, owner, condition⟩]) last rest =
            sketched at others ⊢
          match sketched with
          | (.error fault, _) => exact .fault
          | (.ok more, _) =>
            refine .ok fun passage mem => ?_
            exact (List.mem_append.1 mem).elim (passages _ passage) (others more rfl passage)
termination_by structural branches

end

end Outline
end MailMerge
