/-
# Outlines drawn up again

A template keeps the keys it has handed out. So an outline over the same data comes out the
same every time, whatever has been drawn up in between and whether or not that failed: the
first time each slot that is met gets a key, or has one already, and every later time it is
met in the same place and still has that key.

Drawing up is followed with two keyrings: the one it started from, and a last one that gives
every slot the key it had at the end. With the last one no new key is handed out, and all
else is the same.
-/

import MailMerge.Proofs.Outline.Keyring
import MailMerge.Proofs.Outline.Pairing
import MailMerge.Template

namespace MailMerge
namespace Outline

open MailMerge.Tree (Document)
open Render (Env)

/-! ### Keyrings -/

/-- **A keyring used again.** Using `ring` leads to `after`, and what is used comes out the
same with a keyring `last` that comes later than that. -/
structure Keyring.Reused (ring after last : Keyring) (same : Prop) : Prop where
  later : ring.Extends after
  same : after.Extends last → same

section Keyrings

variable {ring middle after last : Keyring}

theorem Keyring.reused_unused {same : Prop} (h : same) : ring.Reused ring last same :=
  ⟨.refl ring, fun _ => h⟩

/-- What is used twice comes out the same if it does each time. -/
theorem Keyring.Reused.andThen {first second both : Prop} (h : ring.Reused middle last first)
    (h' : middle.Reused after last second) (combine : first → second → both) :
    ring.Reused after last both where
  later := h.later.trans h'.later
  same ext := combine (h.same (h'.later.trans ext)) (h'.same ext)

/-- **A key is taken again** from a keyring that has handed it out. -/
theorem Keyring.reused_take (ring last : Keyring) (slot : Slot) :
    ring.Reused (ring.take slot).2 last (last.take slot = ((ring.take slot).1, last)) where
  later := ring.extends_take slot
  same ext := take_of_known (ext.find? (ring.find?_take slot))

namespace Draft

theorem reused_addSection (ring last : Keyring) (draft : Draft) (branch run : Nat)
    (body : List Fragment) (guard : Guard) :
    ring.Reused (draft.addSection ring branch run body guard).2 last
      (draft.addSection last branch run body guard =
        ((draft.addSection ring branch run body guard).1, last)) := by
  refine (ring.reused_take last (.body branch run)).andThen (Keyring.reused_take _ last _) ?_
  intro bodyTaken choiceTaken
  rw [addSection, bodyTaken]
  dsimp only
  rw [choiceTaken]
  rfl

theorem reused_addRun (ring last : Keyring) (draft : Draft) (branch runs : Nat)
    (run : List Fragment) (guard : Guard) :
    ring.Reused (draft.addRun ring branch runs run guard).2.1 last
      (draft.addRun last branch runs run guard =
        ((draft.addRun ring branch runs run guard).1, last,
          (draft.addRun ring branch runs run guard).2.2)) := by
  unfold addRun
  split
  · exact Keyring.reused_unused rfl
  · have added := reused_addSection ring last draft branch runs run guard
    exact ⟨added.later, fun ext => by rw [added.same ext]⟩

/-- **The runs of a body** are added again. -/
theorem reused_addRuns (branch : Nat) (guard : Guard) (fragments : List Fragment) (draft : Draft)
    (ring last : Keyring) (runs : Nat) (run : List Fragment) :
    ring.Reused (addRuns branch guard draft ring runs run fragments).2 last
      (addRuns branch guard draft last runs run fragments =
        ((addRuns branch guard draft ring runs run fragments).1, last)) := by
  induction fragments generalizing draft ring runs run with
  | nil =>
    have added := reused_addRun ring last draft branch runs run guard
    exact ⟨added.later, fun ext => by rw [addRuns, added.same ext]; rfl⟩
  | cons fragment rest ih =>
    cases fragment with
    | choice key =>
      refine (reused_addRun ring last draft branch runs run guard).andThen (ih _ _ _ _) ?_
      intro first others
      rw [addRuns, first]
      exact others
    | literal text => exact ih draft ring runs _
    | output key => exact ih draft ring runs _
    | halt key => exact ih draft ring runs _

theorem reused_addBranch (ring last : Keyring) (draft : Draft) (branch : Nat) (guard : Guard)
    (child : Draft) :
    ring.Reused (draft.addBranch ring branch guard child).2 last
      (draft.addBranch last branch guard child =
        ((draft.addBranch ring branch guard child).1, last)) := by
  unfold addBranch
  dsimp only
  split
  · exact reused_addRuns branch guard child.fragments _ ring last 0 []
  · exact reused_addSection ring last _ branch 0 child.fragments guard

end Draft
end Keyrings

/-! ### Walkers -/

/-- The walker with another keyring. -/
def Walker.withRing (walker : Walker) (ring : Keyring) : Walker := { walker with ring := ring }

/-- **What a walk gives again** with another keyring. -/
abbrev Redrawn {α : Type} (ring last : Keyring) (drawn again : α × Walker) : Prop :=
  ring.Reused drawn.2.ring last (again = (drawn.1, drawn.2.withRing last))

theorem redrawn_take (walker : Walker) (last : Keyring) (slot : Slot) :
    Redrawn walker.ring last (walker.take slot) ((walker.withRing last).take slot) := by
  refine ⟨walker.ring.extends_take slot, fun ext => ?_⟩
  have taken := (walker.ring.reused_take last slot).same ext
  unfold Walker.take Walker.withRing
  dsimp only
  rw [taken]

/-- Text is refused or added in the same way, since the marks of keys are the same. -/
theorem redrawn_text (walker : Walker) (last : Keyring) (draft : Draft) (text : String) :
    Redrawn walker.ring last (draft.pushText walker.ring.format text, walker)
      (draft.pushText last.format text, walker.withRing last) :=
  ⟨.refl _, fun ext => by rw [ext.format]⟩

theorem redrawn_closeBody (walker : Walker) (last : Keyring) (depth : Nat) (body : Draft) :
    Redrawn walker.ring last (walker.closeBody depth body)
      ((walker.withRing last).closeBody depth body) := by
  have env : (walker.withRing last).env = walker.env := rfl
  unfold Walker.closeBody
  rw [env]
  split
  · have taken := redrawn_take walker last .halt
    exact ⟨taken.later, fun ext => by rw [taken.same ext]; rfl⟩
  · exact Keyring.reused_unused rfl

theorem redrawn_addDrawn (walker : Walker) (last : Keyring) (draft : Draft) (depth branch : Nat)
    (guard : Guard) (child : Draft) :
    Redrawn walker.ring last (draft.addDrawn depth branch guard child walker)
      (draft.addDrawn depth branch guard child (walker.withRing last)) := by
  unfold Draft.addDrawn
  have closed := redrawn_closeBody walker last depth child
  generalize walker.closeBody depth child = body at closed ⊢
  obtain ⟨child, after⟩ := body
  refine closed.andThen (Draft.reused_addBranch after.ring last draft branch guard child) ?_
  intro closed added
  rw [closed]
  dsimp only
  rw [show (after.withRing last).ring = last from rfl, added]
  rfl

/-- What goes on after something was drawn up goes on again. -/
theorem Redrawn.after {ring last : Keyring} {drawn again : Drawn}
    (h : Redrawn ring last drawn again) {next next' : Draft → Walker → Drawn}
    (h' : ∀ child walker,
      Redrawn walker.ring last (next child walker) (next' child (walker.withRing last))) :
    Redrawn ring last (Drawn.andThen drawn next) (Drawn.andThen again next') := by
  obtain ⟨_ | child, after⟩ := drawn
  · exact ⟨h.later, fun ext => by rw [h.same ext]; rfl⟩
  · refine Keyring.Reused.andThen h (h' child after) fun first rest => ?_
    rw [first]
    exact rest

/-- **Two walks, the second of which has the last keyring,** take the same steps. -/
theorem pairing_redrawn (last : Keyring) :
    Pairing Eq (fun _ => True) (fun walker again => again = walker.withRing last) Eq
      fun ring => Redrawn ring last where
  toMatching := Render.matching_eq
  toDrafting := drafting_eq
  env same := same ▸ rfl
  withEnv same _ _ envs := same ▸ envs ▸ rfl
  ok := by
    rintro _ _ rfl draft _ rfl
    exact Keyring.reused_unused rfl
  failed := by
    rintro _ _ rfl fault
    exact Keyring.reused_unused rfl
  text := by
    rintro walker _ rfl draft _ rfl text
    exact redrawn_text walker last draft text
  putOff := by
    rintro walker _ rfl draft _ rfl output
    have taken := redrawn_take walker last (.output output.id)
    exact ⟨taken.later, fun ext => by rw [Draft.putOff, taken.same ext]; rfl⟩
  added := by
    rintro walker _ rfl draft _ rfl child _ rfl depth branch guard
    have added := redrawn_addDrawn walker last draft depth branch guard child
    exact ⟨added.later, fun ext => by rw [added.same ext]; rfl⟩
  outside h := ⟨h.later, fun ext => by rw [h.same ext]; rfl⟩
  andThen h _ _ goes := h.after fun _ _ => goes rfl rfl

/-! ### Outlines -/

/-- **The outline of a document is drawn up again,** and so is a fault. -/
theorem reused_ofDocument (document : Document) (env : Env) (ring last : Keyring) :
    ring.Reused (ofDocument document env ring).2.2 last
      (ofDocument document env last =
        ((ofDocument document env ring).1, (ofDocument document env ring).2.1, last)) := by
  have start : (⟨env, last, none⟩ : Walker) = Walker.withRing ⟨env, ring, none⟩ last := rfl
  have drawn := (pairing_redrawn last).drawDocument document (fun _ _ => trivial) start
  unfold ofDocument
  generalize drawAll ⟨env, ring, none⟩ .empty document.nodes = first at drawn ⊢
  obtain ⟨_ | draft, after⟩ := first
  · exact ⟨drawn.later, fun ext => by rw [drawn.same ext]; rfl⟩
  · refine ⟨drawn.later, fun ext => ?_⟩
    rw [drawn.same ext]
    have marks : last.format = after.ring.format := ext.format
    simp only [Walker.withRing, marks]

end Outline

namespace Template

open Outline (Keyring)
open Render (Scope)

/-- A template with another keyring. -/
def withRing (template : Template) (ring : Keyring) : Template := { template with ring := ring }

/-- **An outline of a template is drawn up again** over the same data. -/
theorem reused_outline (template : Template) (shared : Scope) (last : Keyring) :
    template.ring.Reused (template.outline shared).2.ring last
      ((template.withRing last).outline shared =
        ((template.outline shared).1, template.withRing last)) := by
  have drawn := Outline.reused_ofDocument template.document (template.env shared) template.ring last
  refine ⟨drawn.later, fun ext => ?_⟩
  have same : Outline.ofDocument (template.withRing last).document
      ((template.withRing last).env shared) (template.withRing last).ring = _ := drawn.same ext
  rw [outline, same]
  rfl

/-- The template after its outlines over some data each. -/
def afterOutlines (template : Template) (shareds : List Scope) : Template :=
  shareds.foldl (fun template shared => (template.outline shared).2) template

/-- **The outlines of a template over some data each,** drawn up one after the other. -/
def outlines (template : Template) : List Scope → List (Except Outline.Fault Outline)
  | [] => []
  | shared :: rest => (template.outline shared).1 :: (template.outline shared).2.outlines rest

/-- Drawing up outlines changes nothing but the keyring, which comes later. -/
theorem afterOutlines_later (template : Template) (shareds : List Scope) :
    template.ring.Extends (template.afterOutlines shareds).ring ∧
      template.afterOutlines shareds = template.withRing (template.afterOutlines shareds).ring := by
  induction shareds generalizing template with
  | nil => exact ⟨.refl _, rfl⟩
  | cons shared rest ih =>
    obtain ⟨later, same⟩ := ih (template.outline shared).2
    exact ⟨(template.reused_outline shared template.ring).later.trans later, same⟩

/-- **An outline is the same again,** whatever has been drawn up since. -/
theorem outline_afterOutlines (template : Template) (shared : Scope) (since : List Scope) :
    (((template.outline shared).2.afterOutlines since).outline shared).1 =
      (template.outline shared).1 := by
  obtain ⟨later, same⟩ := (template.outline shared).2.afterOutlines_later since
  rw [same]
  show ((template.withRing _).outline shared).1 = _
  rw [(template.reused_outline shared _).same later]

theorem getElem?_outlines (template : Template) (shareds : List Scope) (i : Nat) :
    (template.outlines shareds)[i]? =
      shareds[i]?.map fun shared => ((template.afterOutlines (shareds.take i)).outline shared).1 := by
  induction shareds generalizing template i with
  | nil => rfl
  | cons shared rest ih =>
    cases i with
    | zero => rfl
    | succ i => exact ih (template.outline shared).2 i

/-- The later one of two outlines over the same data is the earlier one. -/
theorem getElem?_outlines_later (template : Template) {shareds : List Scope} {i j : Nat} (lt : i < j)
    (same : shareds[i]? = shareds[j]?) :
    (template.outlines shareds)[j]? = (template.outlines shareds)[i]? := by
  rw [getElem?_outlines, getElem?_outlines, ← same]
  cases found : shareds[i]? with
  | none => rfl
  | some shared =>
    obtain ⟨since, split⟩ : ∃ since, shareds.take j = shareds.take i ++ shared :: since := by
      obtain ⟨bound, rfl⟩ := List.getElem?_eq_some_iff.1 found
      obtain ⟨k, rfl⟩ : ∃ k, j = i + (k + 1) := ⟨j - i - 1, by omega⟩
      refine ⟨(shareds.drop (i + 1)).take k, ?_⟩
      rw [List.take_add, List.drop_eq_getElem_cons bound, List.take_succ_cons]
    rw [split, afterOutlines, List.foldl_append]
    exact congrArg some (outline_afterOutlines _ shared since)

/-- **Outlines of a template are stable.** Among outlines that are drawn up one after the other,
over any data and whether or not some fail, any two over the same data are the same: the same
fault, or the same fragments, sections and producers under the same keys. -/
theorem outlines_stable (template : Template) (shareds : List Scope) (i j : Nat)
    (same : shareds[i]? = shareds[j]?) :
    (template.outlines shareds)[i]? = (template.outlines shareds)[j]? := by
  rcases Nat.lt_trichotomy i j with lt | rfl | lt
  · exact (getElem?_outlines_later template lt same).symm
  · rfl
  · exact getElem?_outlines_later template lt same.symm

/-- The second outline takes another branch, hands out a key there and fails. The third one is
the first one again. -/
theorem outlines_stable_failing :
    let source := "{% if s %}{{ a }}{% if a %}x{% break %}{% else %}{{ a }}{% endif %}{% else %}{{ a }}{{ t }}{% endif %}"
    let text := "\uE0001\uE001\uE0004\uE001\uE0007\uE001"
    let settings : Settings := { Settings.standard with selector := some (.ofNames ["a"]) }
    let shared : Scope := ⟨[("s", .bool true)]⟩
    let broken : Scope := ⟨[("t", .text "\uE000")]⟩
    ∃ template, Template.ofSource .standard settings source = .ok template ∧
      (template.outlines [shared, broken, shared]).map (fun result => result.toOption.map Outline.text) =
        [some text, none, some text] ∧
      [shared, broken, shared][0]? = [shared, broken, shared][2]? ∧
      (template.outlines [shared, broken, shared])[0]? = (template.outlines [shared, broken, shared])[2]? := by
  intro source text settings shared broken
  have evaluated : ((Template.ofSource .standard settings source).toOption.map fun template =>
      (template.outlines [shared, broken, shared]).map fun result => result.toOption.map Outline.text) =
        some [some text, none, some text] := by
    decide +kernel
  match parsed : Template.ofSource .standard settings source with
  | .error fault =>
    rw [parsed] at evaluated
    cases evaluated
  | .ok template =>
    rw [parsed] at evaluated
    exact ⟨template, rfl, Option.some.inj evaluated, rfl, outlines_stable template _ 0 2 rfl⟩

end Template

end MailMerge
