/-
# Outlines without placeholders

Where no name that a document reads is personal, there is nothing to put off, and
drawing up its outline is rendering it: the outline's text is the rendered text,
no key is taken from the keyring, and the environment ends up the same. A fault
is handed back by both or by neither. The one thing that only drawing up does is
to refuse text that holds the opening mark of keys. What it refuses is part of the
rendered text, if rendering comes to a text.
-/

import MailMerge.Extension
import MailMerge.Proofs.Outline.Drawing
import MailMerge.Proofs.Render.Containment

namespace MailMerge
namespace Outline

open Render (Env Outcome)
open MailMerge.Tree (Node Branch Document KeepsSettings itemsOf itemsOfBranches actionsIn namesIn)

/-- **A draft with more text:** `next` is `draft` with `text` at its end. -/
structure Draft.Adds (draft next : Draft) (text : String) : Prop where
  text : textOf next.fragments = textOf draft.fragments ++ text
  producers : next.producers = draft.producers
  sections : next.sections = draft.sections

theorem Draft.Adds.refl (draft : Draft) : draft.Adds draft "" := ⟨by simp, rfl, rfl⟩

theorem Draft.Adds.trans {first second third : Draft} {text more : String}
    (h : first.Adds second text) (h' : second.Adds third more) : first.Adds third (text ++ more) where
  text := by rw [h'.text, h.text, String.append_assoc]
  producers := h'.producers.trans h.producers
  sections := h'.sections.trans h.sections

/-- A draft that takes over one that adds text to nothing adds the same text. -/
theorem Draft.Adds.absorb {child : Draft} {text : String} (h : Draft.empty.Adds child text)
    (draft : Draft) : draft.Adds (draft.absorb child) text := by
  rw [Draft.absorb_eq]
  refine ⟨?_, ?_, ?_⟩
  · rw [textOf_foldl_pushFragment, h.text]
    simp [Draft.empty, textOf]
  · rw [h.producers]
    rfl
  · rw [h.sections]
    rfl

/-- **A text is part of what is rendered,** if rendering comes to a text. -/
def PartOf (text : String) (outcome : Outcome) : Prop :=
  ∀ whole, outcome.1 = .ok whole → Text.contains whole text = true

/-- Part of what is rendered first is part of the whole. -/
theorem PartOf.before {text first : String} {env : Env} (h : PartOf text (.ok first, env))
    (rest : Outcome) : PartOf text (rest.after first) := by
  obtain ⟨_ | last, after⟩ := rest <;> intro whole same <;> cases same
  exact Text.contains_append_left (h first rfl) last

/-- Part of what is rendered last is part of the whole. -/
theorem PartOf.behind {text : String} {rest : Outcome} (h : PartOf text rest) (first : String) :
    PartOf text (rest.after first) := by
  obtain ⟨_ | last, after⟩ := rest <;> intro whole same <;> cases same
  exact Text.contains_append_right first (h last rfl)

/-- **Drawing up goes with rendering:** it refuses a text that holds the opening
mark of keys and is part of what is rendered, or it adds the text that rendering
gives, or it hands back the fault that rendering hands back. The environment is
that of rendering, and nothing else that is carried along changes. -/
inductive Follows (walker : Walker) (draft : Draft) : Drawn → Outcome → Prop
  | reserved {text : String} {outcome : Outcome} (after : Walker)
      (holds : Text.contains text walker.ring.format.opening = true) (part : PartOf text outcome) :
    Follows walker draft (.error (.reservedText text), after) outcome
  | text {next : Draft} {text : String} (env : Env) (adds : draft.Adds next text) :
    Follows walker draft (.ok next, { walker with env := env }) (.ok text, env)
  | fault (fault : Render.Fault) (env : Env) :
    Follows walker draft (.error (.shared fault), { walker with env := env }) (.error fault, env)

/-- Adding text to a draft goes with having rendered it. -/
theorem follows_pushText (walker : Walker) (draft : Draft) (text : String) (env : Env) :
    Follows walker draft (draft.pushText walker.ring.format text, { walker with env := env })
      (.ok text, env) := by
  rw [Draft.pushText]
  split
  · rename_i holds
    refine .reserved _ holds fun whole same => ?_
    obtain rfl := Except.ok.inj same
    exact Text.contains_self text
  · split
    · rename_i hempty
      obtain rfl := String.isEmpty_iff.1 hempty
      exact .text env (.refl draft)
    · exact .text env ⟨textOf_pushFragment .., rfl, rfl⟩

/-- Adding an outcome to a draft contains its fault. -/
theorem follows_addOutcome (walker : Walker) (draft : Draft) (outcome : Outcome) :
    Follows walker draft (walker.addOutcome draft outcome) outcome.contained := by
  rw [Walker.addOutcome]
  split
  · rename_i text env h
    rw [h]
    exact follows_pushText walker draft text env
  · rename_i fault env h
    rw [h]
    exact .fault fault env

/-- A body that is drawn up on its own and taken over adds its text. -/
theorem Follows.absorb {walker : Walker} {drawn : Drawn} {outcome : Outcome}
    (h : Follows walker .empty drawn outcome) (draft : Draft) :
    Follows walker draft (draft.takeOver drawn) outcome := by
  cases h with
  | reserved after holds part => exact .reserved after holds part
  | text env adds => exact .text env (adds.absorb draft)
  | fault fault env => exact .fault fault env

/-- Leaving a scope after drawing up goes with leaving it after rendering. -/
theorem Follows.leave {walker : Walker} {draft : Draft} {scope : Render.Scope} {drawn : Drawn}
    {outcome : Outcome}
    (h : Follows { walker with env := walker.env.enter scope } draft drawn outcome) :
    Follows walker draft (outside drawn) (outcome.1, outcome.2.leave) := by
  cases h with
  | reserved after holds part => exact .reserved _ holds part
  | text env adds => exact .text env.leave adds
  | fault fault env => exact .fault fault env.leave

/-- Containing a fault goes with leaving a scope. -/
theorem contained_leave (outcome : Outcome) :
    Outcome.contained (outcome.1, outcome.2.leave) =
      (outcome.contained.1, outcome.contained.2.leave) := by
  obtain ⟨_ | _, env⟩ := outcome
  · exact Render.contain_leave env _
  · rfl

/-- No name among those of the first or the second items is selected. -/
theorem selects_append {env : Env} {first second : List String} :
    env.selects (first ++ second) = false ↔
      env.selects first = false ∧ env.selects second = false := by
  unfold Env.selects
  cases env.selector <;> simp [List.any_append]

/-- A conditional none of whose predicates reads a personal name. -/
theorem isPersonal_eq_false {env : Env} {branches : List (Branch Node)}
    (h : env.selects (namesIn (itemsOfBranches branches)) = false) :
    isPersonal env branches = false := by
  induction branches with
  | nil => rfl
  | cons branch branches ih =>
    obtain ⟨id, predicate, body⟩ := branch
    simp only [itemsOfBranches, Tree.namesIn_cons, Tree.namesIn_append, selects_append] at h
    obtain ⟨hown, -, hrest⟩ := h
    simp only [isPersonal, List.any_cons, Bool.or_eq_false_iff]
    refine ⟨?_, ih hrest⟩
    cases predicate with
    | none => rfl
    | some condition => exact hown

mutual

/-- Drawing up a node goes with rendering it and containing its fault. -/
theorem follows_drawNode (node : Node) (walker : Walker) (draft : Draft)
    (keep : ∀ action ∈ actionsIn node.items, KeepsSettings action)
    (unselected : walker.env.selects (namesIn node.items) = false) :
    Follows walker draft (drawNode walker draft node) (Render.renderNode walker.env node).contained := by
  match node with
  | .text raw => exact follows_pushText walker draft raw walker.env
  | .output output =>
    have hnames : walker.env.selects output.names = false := by
      simpa [Node.items, Tree.Item.names] using unselected
    rw [drawNode, hnames]
    exact follows_addOutcome walker draft _
  | .tag head action => exact follows_addOutcome walker draft _
  | .block _ body =>
    rw [Render.renderNode, Render.contained_renderAll, drawNode_block]
    exact (follows_drawAll body walker .empty keep unselected).absorb draft
  | .conditional _ branches =>
    have inside := follows_drawChosen branches { walker with env := walker.env.enter ∅ } keep unselected
    have left := inside.leave.absorb draft
    rw [← contained_leave] at left
    rw [Render.renderNode, drawNode_conditional, drawInside, isPersonal_eq_false unselected]
    exact left
termination_by structural node

/-- **Drawing up nodes in a row goes with rendering them.** -/
theorem follows_drawAll (nodes : List Node) (walker : Walker) (draft : Draft)
    (keep : ∀ action ∈ actionsIn (itemsOf nodes), KeepsSettings action)
    (unselected : walker.env.selects (namesIn (itemsOf nodes)) = false) :
    Follows walker draft (drawAll walker draft nodes) (Render.renderAll walker.env nodes) := by
  match nodes with
  | [] => exact .text walker.env (.refl draft)
  | node :: nodes =>
    simp only [itemsOf, Tree.actionsIn_append, List.mem_append, Tree.namesIn_append,
      selects_append] at keep unselected
    cases hsignal : node.signal? with
    | some signal =>
      rw [drawAll_signal hsignal, Render.renderAll_signal hsignal]
      split
      · exact .text walker.env (.refl draft)
      · exact .text (walker.env.interrupt signal) (.refl draft)
    | none =>
      rw [drawAll_cons hsignal, Render.renderAll_cons hsignal]
      split
      · exact .text walker.env (.refl draft)
      · have first := follows_drawNode node walker draft (fun action h => keep action (.inl h))
          unselected.1
        have settings := (Render.sameSettings_renderNode node walker.env fun action h =>
          keep action (.inl h)).trans (Render.sameSettings_contained _)
        generalize (Render.renderNode walker.env node).contained = outcome at first settings ⊢
        generalize drawNode walker draft node = drawn at first ⊢
        cases first with
        | reserved after holds part =>
          refine .reserved after holds ?_
          obtain ⟨_ | text, env⟩ := outcome
          · exact part
          · exact part.before _
        | fault fault env => exact .fault fault env
        | @text next text env adds =>
          have rest := follows_drawAll nodes { walker with env := env } next
            (fun action h => keep action (.inr h)) ((settings.selects _).trans unselected.2)
          dsimp only
          generalize Render.renderAll env nodes = last at rest ⊢
          generalize drawAll { walker with env := env } next nodes = drawn at rest ⊢
          cases rest with
          | reserved after holds part => exact .reserved after holds (part.behind text)
          | fault fault after => exact .fault fault after
          | text after more => exact .text after (adds.trans more)
termination_by structural nodes

/-- Drawing up the branch that holds goes with rendering it. -/
theorem follows_drawChosen (branches : List (Branch Node)) (walker : Walker)
    (keep : ∀ action ∈ actionsIn (itemsOfBranches branches), KeepsSettings action)
    (unselected : walker.env.selects (namesIn (itemsOfBranches branches)) = false) :
    Follows walker .empty (drawChosen walker branches)
      (Render.renderBranches walker.env branches).contained := by
  match branches with
  | [] => exact .text walker.env (.refl .empty)
  | ⟨_, none, body⟩ :: branches =>
    simp only [itemsOfBranches, Tree.actionsIn_branch, Tree.actionsIn_append, List.mem_append,
      Tree.namesIn_cons, Tree.namesIn_append, selects_append] at keep unselected
    rw [drawChosen, Render.renderBranches, Render.contained_renderAll]
    exact follows_drawAll body walker .empty (fun action h => keep action (.inl h)) unselected.2.1
  | ⟨_, some condition, body⟩ :: branches =>
    simp only [itemsOfBranches, Tree.actionsIn_branch, Tree.actionsIn_append, List.mem_append,
      Tree.namesIn_cons, Tree.namesIn_append, selects_append] at keep unselected
    rw [drawChosen, Render.renderBranches]
    cases Render.evalCondition walker.env condition with
    | error fault => exact follows_addOutcome walker .empty _
    | ok holds =>
      cases holds with
      | true =>
        rw [Render.contained_renderAll]
        exact follows_drawAll body walker .empty (fun action h => keep action (.inl h))
          unselected.2.1
      | false =>
        exact follows_drawChosen branches walker (fun action h => keep action (.inr h))
          unselected.2.2
termination_by structural branches

end

/-- **Drawing up an outline agrees with rendering:** text for text and fault for
fault, with the same environment afterwards. The outline is nothing but text, and
the keyring is left as it was. -/
structure AgreesWithRendering (document : Document) (env : Env) (ring : Keyring) : Prop where
  text : ∀ text, (Render.renderAll env document.nodes).1 = .ok text ↔
    ∃ outline, (ofDocument document env ring).1 = .ok outline ∧ outline.text = text ∧
      outline.producers = ∅ ∧ outline.sections = ∅ ∧ outline.halt = none
  fault : ∀ fault, (Render.renderAll env document.nodes).1 = .error fault ↔
    (ofDocument document env ring).1 = .error (.shared fault)
  sameEnv : (ofDocument document env ring).2.1 = (Render.renderAll env document.nodes).2
  sameRing : (ofDocument document env ring).2.2 = ring

/-- **Without personal names drawing up is rendering,** unless it refuses a text
that holds the opening mark of keys. Such a text is part of the rendered text, if
rendering comes to a text. -/
theorem ofDocument_agrees_renderAll (document : Document) (env : Env) (ring : Keyring)
    (keep : ∀ action ∈ document.actions, KeepsSettings action)
    (unselected : env.selects document.names = false) :
    (∃ text, (ofDocument document env ring).1 = .error (.reservedText text) ∧
        Text.contains text ring.format.opening = true ∧
        PartOf text (Render.renderAll env document.nodes)) ∨
      AgreesWithRendering document env ring := by
  have follows := follows_drawAll document.nodes ⟨env, ring, none⟩ .empty keep unselected
  generalize hdrawn : drawAll ⟨env, ring, none⟩ .empty document.nodes = drawn at follows
  generalize hrendered : Render.renderAll env document.nodes = rendered at follows
  cases follows with
  | @reserved text _ after holds part =>
    left
    refine ⟨text, ?_, holds, hrendered ▸ part⟩
    rw [ofDocument, hdrawn]
  | @text next text after adds =>
    right
    have drawnText : textOf next.fragments = text := by
      rw [adds.text]
      simp [Draft.empty, textOf]
    refine ⟨fun other => ?_, fun fault => ?_, ?_, ?_⟩ <;>
      simp only [ofDocument, hdrawn, hrendered]
    · constructor
      · intro h
        obtain rfl := Except.ok.inj h
        exact ⟨_, rfl, drawnText, adds.producers, adds.sections, rfl⟩
      · rintro ⟨outline, h, rfl, -⟩
        obtain rfl := Except.ok.inj h
        exact congrArg Except.ok drawnText.symm
    · simp
  | fault fault after =>
    right
    refine ⟨fun text => ?_, fun other => ?_, ?_, ?_⟩ <;>
      simp [ofDocument, hdrawn, hrendered]

/-- With a tag that binds a name, a conditional on it and another name personal,
nothing is refused, and the outline is the rendered text. -/
theorem ofDocument_agrees_renderAll_assign :
    let head : Source.TagHead := ⟨"assign", "x 1", 10, ⟨0, 16⟩⟩
    let x : Markup.Expr := .lookup "x" []
    let document : Document := ⟨[
      .tag head (.leaf Extension.assign),
      .conditional head [
        ⟨0, some (.last ⟨x, none⟩), [.output ⟨1, "x", x, [], ⟨20, 27⟩⟩]⟩,
        ⟨2, none, [.text "no"]⟩]]⟩
    let env : Env := { Env.ofFilters Render.standardFilters with
      selector := some (.ofNames ["y"]) }
    (∀ action ∈ document.actions, KeepsSettings action) ∧
      env.selects document.names = false ∧
        AgreesWithRendering document env (.ofFormat .standard) ∧
        (Render.renderAll env document.nodes).1 = .ok "1" ∧
        ∃ outline, (ofDocument document env (.ofFormat .standard)).1 = .ok outline ∧
          outline.text = "1" := by
  intro head x document env
  have keep : ∀ action ∈ document.actions, KeepsSettings action := by
    intro action h
    obtain rfl := List.mem_singleton.1 h
    exact fun _ _ => ⟨rfl, rfl⟩
  have unselected : env.selects document.names = false := by decide
  have rendered : (Render.renderAll env document.nodes).1 = .ok "1" :=
    eq_ok_of_toOption (by decide +kernel)
  have drawn : (ofDocument document env (.ofFormat .standard)).1.isOk = true := by decide +kernel
  rcases ofDocument_agrees_renderAll document env (.ofFormat .standard) keep unselected with
    ⟨text, refused, -⟩ | agrees
  · rw [refused] at drawn
    cases drawn
  · obtain ⟨outline, same, text, -⟩ := (agrees.text "1").1 rendered
    exact ⟨keep, unselected, agrees, rendered, outline, same, text⟩

end Outline
end MailMerge
