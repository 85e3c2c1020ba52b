/-
# What an outline does not read

An outline is drawn up without a look at the values of personal names. Two environments
that differ in those values alone give the same outline or the same fault, and leave the
keyring as it would be after either of them.

Every value that is read while an outline is drawn up belongs to a name that was tested
first: an output is evaluated only if none of its names is personal, and a predicate only
if no name in any predicate of its conditional is. So the two walks meet the same texts,
the same branches and the same faults, and go on in environments that again differ in
personal values alone.
-/

import Mathlib.Data.List.Forall2
import MailMerge.Proofs.Outline.Pairing
import MailMerge.Proofs.Render.Reading
import MailMerge.Proofs.Tree.Numbering
import MailMerge.Template

namespace MailMerge

open MailMerge.Tree (Document)
open Render (Env Scope Selector AgreesOn)
open List (Forall₂)

namespace Render

/-! ### Environments that differ in personal values -/

/-- **Scopes that bind shared names alike:** a name that is not personal has the same
value in both, or none in either. -/
def BindsAlike (selector : Option Selector) (first second : Scope) : Prop :=
  ∀ name, (∀ own ∈ selector, own.selects name = false) → second.find? name = first.find? name

theorem BindsAlike.refl (selector : Option Selector) (scope : Scope) : BindsAlike selector scope scope :=
  fun _ _ => rfl

/-- **Environments that differ in personal values alone:** their scopes bind shared names
alike, one by one, and everything else in them is the same. -/
structure DataAlike (first second : Env) : Prop where
  scopes : Forall₂ (BindsAlike first.selector) (first.inner :: first.outer) (second.inner :: second.outer)
  others : second = { first with inner := second.inner, outer := second.outer }

theorem findIn_alike {selector : Option Selector} {name : String}
    (shared : ∀ own ∈ selector, own.selects name = false) {first second : List Scope}
    (h : Forall₂ (BindsAlike selector) first second) :
    Env.findIn name second = Env.findIn name first := by
  induction h with
  | nil => rfl
  | cons own _ ih => rw [Env.findIn, Env.findIn, own name shared, ih]

namespace DataAlike

variable {first second : Env} (h : DataAlike first second)

include h

theorem selector : second.selector = first.selector := (congrArg Env.selector h.others :)

theorem strict : second.strict = first.strict := (congrArg Env.strict h.others :)

theorem interrupts : second.interrupts = first.interrupts := (congrArg Env.interrupts h.others :)

theorem selects (names : List String) : second.selects names = first.selects names := by
  unfold Env.selects
  rw [h.selector]

/-- **Names none of which is personal** have the same values. -/
theorem agreesOn {names : List String} (unselected : first.selects names = false) :
    AgreesOn names first second where
  filters := (congrArg Env.filters h.others :)
  get name mem := by
    have shared : ∀ own ∈ first.selector, own.selects name = false := by
      intro own found
      unfold Env.selects at unselected
      rw [Option.mem_def.1 found] at unselected
      exact Bool.eq_false_iff.2 (List.any_eq_false.1 unselected name mem)
    rw [Env.get, Env.get, findIn_alike shared h.scopes]

theorem enter : DataAlike (first.enter ∅) (second.enter ∅) where
  scopes := .cons (.refl _ _) h.scopes
  others := by
    rw [h.others]
    rfl

theorem interrupt (signal : Interrupt) : DataAlike (first.interrupt signal) (second.interrupt signal) where
  scopes := h.scopes
  others := by
    rw [h.others]
    rfl

theorem dropInterrupts (depth : Nat) :
    DataAlike (first.dropInterrupts depth) (second.dropInterrupts depth) where
  scopes := h.scopes
  others := by
    rw [h.others]
    rfl

/-- The scopes that are left bind shared names alike, too. -/
theorem leave : DataAlike first.leave second.leave := by
  obtain ⟨scopes, others⟩ := h
  obtain ⟨inner, outer, registers, interrupts, faults, strict, filters, selector⟩ := second
  obtain ⟨inner', outer', registers', interrupts', faults', strict', filters', selector'⟩ := first
  cases others
  cases outer' with
  | nil =>
    cases scopes with
    | cons own rest =>
      cases rest
      exact ⟨.cons own .nil, rfl⟩
  | cons scope outer' =>
    cases scopes with
    | cons own rest =>
      cases rest with
      | cons next rest => exact ⟨.cons next rest, rfl⟩

/-- **A fault is contained alike.** -/
theorem contain (fault : Fault) :
    (second.contain fault).1 = (first.contain fault).1 ∧
      DataAlike (first.contain fault).2 (second.contain fault).2 := by
  unfold Env.contain
  rw [h.strict]
  split
  · exact ⟨rfl, h⟩
  · refine ⟨rfl, h.scopes, ?_⟩
    rw [h.others]

end DataAlike

/-- Environments that differ in personal values alone are read alike, where there are no tags that
could read them. -/
theorem matching_dataAlike : Matching DataAlike fun _ => False where
  selects h := h.selects
  interrupts h := h.interrupts
  output h output unselected := renderOutput_agree output (h.agreesOn unselected)
  condition h condition unselected := evalCondition_agree condition (h.agreesOn unselected).get
  enter h := h.enter
  interrupt h := h.interrupt
  act := False.elim
  contain h := h.contain

end Render

namespace Outline

open Render (DataAlike)

/-! ### Two walks side by side -/

/-- **Walks side by side:** in environments that differ in personal values alone, with one
keyring and one key at which output stops. -/
structure WalkersAlike (first second : Walker) : Prop where
  env : DataAlike first.env second.env
  ring : second.ring = first.ring
  halt : second.halt = first.halt

/-- **Drawn alike:** one draft or fault, with the walks side by side afterwards. -/
structure DrawnAlike (first second : Drawn) : Prop where
  result : second.1 = first.1
  walker : WalkersAlike first.2 second.2

section Walks

variable {first second : Walker}

/-- Side by side a slot has the same key. -/
theorem WalkersAlike.take (h : WalkersAlike first second) (slot : Slot) :
    (second.take slot).1 = (first.take slot).1 ∧ WalkersAlike (first.take slot).2 (second.take slot).2 := by
  unfold Walker.take
  rw [h.ring]
  exact ⟨rfl, h.env, rfl, h.halt⟩

/-- A body is closed alike. -/
theorem WalkersAlike.closeBody (h : WalkersAlike first second) (depth : Nat) (body : Draft) :
    (second.closeBody depth body).1 = (first.closeBody depth body).1 ∧
      WalkersAlike (first.closeBody depth body).2 (second.closeBody depth body).2 := by
  have taken := h.take .halt
  unfold Walker.closeBody
  rw [h.env.interrupts]
  split
  · generalize first.take .halt = next at taken
    generalize second.take .halt = next' at taken
    obtain ⟨key, after⟩ := next
    obtain ⟨key', after'⟩ := next'
    obtain ⟨rfl, walkers⟩ := taken
    exact ⟨rfl, walkers.env.dropInterrupts depth, walkers.ring, rfl⟩
  · exact ⟨rfl, h.env.dropInterrupts depth, h.ring, h.halt⟩

/-- An output is put off alike. -/
theorem WalkersAlike.putOff (h : WalkersAlike first second) (draft : Draft) (output : Tree.Output) :
    DrawnAlike (draft.putOff first output) (draft.putOff second output) := by
  obtain ⟨key, taken⟩ := h.take (.output output.id)
  refine ⟨?_, taken⟩
  unfold Draft.putOff
  dsimp only
  rw [key]

/-- A branch is added alike. -/
theorem WalkersAlike.addDrawn (h : WalkersAlike first second) (draft child : Draft)
    (depth branch : Nat) (guard : Guard) :
    DrawnAlike (.done (draft.addDrawn depth branch guard child first))
      (.done (draft.addDrawn depth branch guard child second)) := by
  have closed := h.closeBody depth child
  unfold Drawn.done Draft.addDrawn
  generalize first.closeBody depth child = body at closed
  generalize second.closeBody depth child = body' at closed
  obtain ⟨body, after⟩ := body
  obtain ⟨body', after'⟩ := body'
  obtain ⟨rfl, env, ring, halt⟩ := closed
  dsimp only at env ring halt ⊢
  rw [ring]
  exact ⟨rfl, env, rfl, halt⟩

/-- What goes on after something was drawn up goes on alike. -/
theorem DrawnAlike.andThen {drawn drawn' : Drawn} (h : DrawnAlike drawn drawn')
    {next next' : Draft → Walker → Drawn}
    (goes : ∀ {child child' after after'}, WalkersAlike after after' → child = child' →
      DrawnAlike (next child after) (next' child' after')) :
    DrawnAlike (drawn.andThen next) (drawn'.andThen next') := by
  obtain ⟨result, after⟩ := drawn
  obtain ⟨result', after'⟩ := drawn'
  obtain ⟨rfl, walkers⟩ := h
  cases result' with
  | error fault => exact ⟨rfl, walkers⟩
  | ok child => exact goes walkers rfl

/-- **Two walks are alike** with every step. -/
theorem pairing_alike :
    Pairing DataAlike (fun _ => False) WalkersAlike Eq fun _ => DrawnAlike where
  toMatching := Render.matching_dataAlike
  toDrafting := drafting_eq
  env h := h.env
  withEnv h _ _ alike := ⟨alike, h.ring, h.halt⟩
  ok h _ _ same := ⟨congrArg Except.ok same.symm, h⟩
  failed h _ := ⟨rfl, h⟩
  text := by
    rintro _ _ h draft _ rfl raw
    exact ⟨congrArg (draft.pushText ·.format raw) h.ring, h⟩
  putOff := by
    rintro _ _ h draft _ rfl output
    exact h.putOff draft output
  added := by
    rintro _ _ h draft _ rfl child _ rfl depth branch guard
    exact h.addDrawn draft child depth branch guard
  outside h := ⟨h.result, h.walker.env.leave, h.walker.ring, h.walker.halt⟩
  andThen h _ _ goes := h.andThen goes

end Walks

/-- **Outlines are drawn up alike:** in environments that differ in personal values alone a
document has the same outline or the same fault, and leaves the same keyring. -/
theorem ofDocument_alike (document : Document) (plain : document.actions = []) {first second : Env}
    (h : DataAlike first second) (ring : Keyring) :
    (ofDocument document second ring).1 = (ofDocument document first ring).1 ∧
      DataAlike (ofDocument document first ring).2.1 (ofDocument document second ring).2.1 ∧
        (ofDocument document second ring).2.2 = (ofDocument document first ring).2.2 := by
  have start : WalkersAlike ⟨first, ring, none⟩ ⟨second, ring, none⟩ := ⟨h, rfl, rfl⟩
  have tags : ∀ action ∈ document.actions, False := by
    rw [plain]
    exact fun _ mem => List.not_mem_nil mem
  have drawn := pairing_alike.drawDocument document tags start
  unfold ofDocument
  generalize drawAll ⟨first, ring, none⟩ .empty document.nodes = drawn₁ at drawn
  generalize drawAll ⟨second, ring, none⟩ .empty document.nodes = drawn₂ at drawn
  obtain ⟨result₁, after₁⟩ := drawn₁
  obtain ⟨result₂, after₂⟩ := drawn₂
  obtain ⟨rfl, env, ring, halt⟩ := drawn
  dsimp only at ring halt
  cases result₂ with
  | error fault => exact ⟨rfl, env, ring⟩
  | ok draft =>
    refine ⟨?_, env, ring⟩
    dsimp only
    rw [ring, halt]

end Outline

/-- Templates meet shared data that bind shared names alike in environments that differ in
personal values alone. -/
theorem Template.env_alike (template : Template) {first second : Scope}
    (same : Render.BindsAlike template.settings.selector first second) :
    Render.DataAlike (template.env first) (template.env second) where
  scopes := .cons same (.cons (.refl _ _) .nil)
  others := rfl

/-- **An outline does not depend on personal data.** Over shared data that bind every name
that is not personal alike, a template has the same outline or the same fault, and is left
with the same keys handed out: whatever tree of text, outputs, blocks and conditionals it has,
whatever its settings and filters are, and whatever keys have been handed out before. -/
theorem Template.outline_alike (template : Template) (plain : template.document.actions = [])
    {first second : Scope} (same : Render.BindsAlike template.settings.selector first second) :
    template.outline second = template.outline first := by
  obtain ⟨result, -, ring⟩ :=
    Outline.ofDocument_alike template.document plain (template.env_alike same) template.ring
  unfold Template.outline
  dsimp only
  rw [result, ring]

/-- Personal names in an output, in an index of a shared look-up, and in a predicate beside
shared ones, with values that differ and values that only one of the two has. -/
theorem Template.outline_alike_index :
    let source := "{{ s }}{{ s[a] }}{% if s %}{{ a | append: s }}{% if b %}x{% elsif s %}y{% endif %}{% endif %}"
    let settings : Settings := { Settings.standard with selector := some (.ofNames ["a", "b"]) }
    let first : Scope := ⟨[("a", .text "1"), ("s", .bool true)]⟩
    let second : Scope := ⟨[("a", .nil), ("b", .text "2"), ("s", .bool true)]⟩
    ∃ document, Document.ofSource .standard source = .ok document ∧ document.actions = [] ∧
      Render.BindsAlike settings.selector first second ∧
        Template.outline ⟨document, settings, Render.standardFilters, .ofFormat .standard⟩ second =
          Template.outline ⟨document, settings, Render.standardFilters, .ofFormat .standard⟩ first := by
  intro source settings first second
  have accepted : (Document.ofSource .standard source).toOption.isSome = true := by decide +kernel
  match parsed : Document.ofSource .standard source with
  | .error fault =>
    rw [parsed] at accepted
    cases accepted
  | .ok document =>
    have plain := (Document.ids_ofSource Tree.Vocabulary.plain_standard parsed).2
    have same : Render.BindsAlike settings.selector first second := by
      intro name shared
      have other : ∀ personal ∈ ["a", "b"], personal ≠ name := by
        rintro personal mem rfl
        exact Bool.noConfusion ((List.contains_iff_mem.2 mem).symm.trans (shared _ rfl))
      simp [first, second, Dict.find?, Dict.findIn, other "a", other "b"]
    exact ⟨document, rfl, plain, same, outline_alike _ plain same⟩

end MailMerge
