/-
# What choices ask for and report

The guard of a choice asks for the way to its branch, no more and no less: evaluating it for a
recipient is walking over the crossings from the outermost conditional that is left open to the
branch's own. So a choice comes to a fault where the walk does, and with the number of the same
conditional.

Many choices can come to one fault, since the predicates of a conditional are asked for by all
that is inside it. But a conditional is in the list of one choice, which is the one that reports
the fault.
-/

import MailMerge.Proofs.Outline.Tracing
import MailMerge.Proofs.Outline.WellFormed

namespace MailMerge
namespace Outline

open MailMerge.Tree (Document)
open Render (Env)

/-! ### Choices of branches -/

/-- **A choice for a section of a branch,** and its key. -/
def ChoiceOf (ring : Keyring) (outline : Outline) (branch : Nat) (key : String) (choice : Choice) : Prop :=
  outline.producers.find? key = some (.choice choice) ∧
    ∃ run, ring.find? (.choice branch run) = some key ∧
      ring.find? (.body branch run) = some choice.body

namespace Sketches

variable {ring : Keyring} {outline : Outline} {pieces : List Piece}

/-- **The choices of an outline** are those of the passages of its sketch. -/
theorem find?_producers_choice (h : Sketches ring outline pieces) {key : String} {choice : Choice} :
    outline.producers.find? key = some (.choice choice) ↔
      ∃ passage ∈ passagesIn pieces, key = ring.keyOf passage.choiceSlot ∧ choice = passage.choice ring := by
  simp only [h.find?_producers, mem_producersIn_choice, mem_passagesIn]

/-- The choice of a passage is for a section of the passage's branch. -/
theorem choiceOf_passage (h : Sketches ring outline pieces) {passage : Passage}
    (mem : passage ∈ passagesIn pieces) :
    ChoiceOf ring outline passage.branch (ring.keyOf passage.choiceSlot) (passage.choice ring) :=
  have found := mem_passagesIn.1 mem
  ⟨h.find?_producers_choice.2 ⟨passage, mem, rfl, rfl⟩, passage.run,
    (h.keyed.has _ (Keyed.choiceSlot_mem found)).find?, (h.keyed.has _ (Keyed.bodySlot_mem found)).find?⟩

/-- A choice for a section of a branch is that of a passage of the branch. -/
theorem passage_of_choiceOf (h : Sketches ring outline pieces) {branch : Nat} {key : String} {choice : Choice}
    (chosen : ChoiceOf ring outline branch key choice) :
    ∃ passage ∈ passagesIn pieces, passage.branch = branch ∧ key = ring.keyOf passage.choiceSlot ∧
      choice = passage.choice ring := by
  obtain ⟨found, run, own, -⟩ := chosen
  obtain ⟨passage, mem, rfl, rfl⟩ := h.find?_producers_choice.1 found
  have slot := (h.keyed.has _ (Keyed.choiceSlot_mem (mem_passagesIn.1 mem))).find?
  obtain ⟨branch, -⟩ := Slot.choice.inj (h.regular.numbered.slot_unique slot own)
  exact ⟨passage, mem, branch, rfl, rfl⟩

end Sketches

/-! ### What is left open, once each -/

/-- Lists that have an item in common are one list, if all items are different. -/
theorem eq_of_mem_flatMap {α β : Type} {items : List α} {parts : α → List β}
    (distinct : (items.flatMap parts).Nodup) {first second : α} (hfirst : first ∈ items)
    (hsecond : second ∈ items) {part : β} (mem : part ∈ parts first) (mem' : part ∈ parts second) :
    first = second := by
  by_contra different
  have : Std.Symm (Function.onFun List.Disjoint parts) := ⟨fun _ _ apart _ mem mem' => apart mem' mem⟩
  exact (List.nodup_flatMap.1 distinct).2.forall hfirst hsecond different mem mem'

namespace Nest

variable {ids : List Nat} {deferrals : List Deferral} (h : Nest ids deferrals)

include h

/-- A conditional's own number is that of a branch that is entered at it. -/
theorem owner_mem {deferral : Deferral} (mem : deferral ∈ deferrals) :
    deferral.owner ∈ deferral.crossings.map (·.branch) := by
  obtain ⟨branches, -, first⟩ := h.fork deferral mem
  obtain ⟨crossing, found, same⟩ := Option.map_eq_some_iff.1 first
  exact same ▸ List.mem_map_of_mem (List.mem_of_head? found)

/-- **Two conditionals have different numbers.** -/
theorem eq_of_owner {first second : Deferral} (hfirst : first ∈ deferrals) (hsecond : second ∈ deferrals)
    (same : first.owner = second.owner) : first = second :=
  eq_of_mem_flatMap h.distinct hfirst hsecond (h.owner_mem hfirst) (same ▸ h.owner_mem hsecond)

theorem owners_nodup : (deferrals.map (·.owner)).Nodup := by
  have apart := (List.nodup_flatMap.1 h.distinct).2
  rw [List.Nodup, List.pairwise_map]
  refine apart.imp_of_mem fun hfirst hsecond disjoint same => ?_
  exact disjoint (h.owner_mem hfirst) (same ▸ h.owner_mem hsecond)

/-- **One way at most leads to a branch.** -/
theorem way_unique {branch : Nat} {way other : List Crossing} (leads : Leads deferrals branch way)
    (leads' : Leads deferrals branch other) : other = way := by
  obtain ⟨first, hfirst, crossing, hcrossing, rfl, rfl⟩ := leads
  obtain ⟨second, hsecond, taken, htaken, same, rfl⟩ := leads'
  obtain rfl := eq_of_mem_flatMap h.distinct hfirst hsecond (List.mem_map_of_mem hcrossing)
    (List.mem_map.2 ⟨taken, htaken, same⟩)
  have own := (List.nodup_flatMap.1 h.distinct).1 first hfirst
  rw [List.inj_on_of_nodup_map own htaken hcrossing same]

end Nest

/-! ### The chart of an outline -/

/-- **An outline with its sketch:** what is left open is nested, and the passages are traced to it. -/
structure Charted (ring : Keyring) (outline : Outline) (ids : List Nat) (deferrals : List Deferral)
    (pieces : List Piece) : Prop where
  sketches : Sketches ring outline pieces
  nest : Nest ids deferrals
  traced : Traced deferrals (passagesIn pieces)

/-- **The outline of a document** is charted by what is left open in the document. -/
theorem charted_ofDocument {names : List String} {source : String} {document : Document}
    (parsed : Document.ofSource (Tree.Vocabulary.withBlocks names) source = .ok document) {env after : Env}
    {ring later : Keyring} (regular : ring.Regular) {outline : Outline}
    (drawn : ofDocument document env ring = (.ok outline, after, later)) :
    ∃ pieces, Charted later outline document.ids (deferralsInDocument env document) pieces := by
  obtain ⟨⟨count, ids⟩, plain⟩ := Document.ids_ofSource (Tree.Vocabulary.plain_withBlocks names) parsed
  have distinct : document.ids.Nodup := ids ▸ List.nodup_range
  have sketched := ofDocument_sketched env regular distinct
  rw [drawn] at sketched
  obtain ⟨pieces, found, -, sketches⟩ := sketched
  unfold deferralsInDocument
  cases pending : env.interrupted with
  | true =>
    rw [sketchAll_interrupted pending] at found
    obtain rfl := Except.ok.inj found
    exact ⟨[], sketches, .nil _, .nil⟩
  | false =>
    have sketch : sketchAll ring.format env document.nodes =
        (.ok pieces, (sketchAll ring.format env document.nodes).2) := Prod.ext found rfl
    obtain ⟨-, traced⟩ := traced_sketchAll document.nodes (.refl env) pending plain distinct sketch
    exact ⟨pieces, sketches, nest_nodes env document.nodes distinct, traced⟩

/-! ### Guards are ways -/

/-- **The guard of a choice asks for the way to its branch.** Every choice is for a section of one
branch of a conditional that is left open. One way leads there, over the crossings at the
conditionals around it that are left open, from the outermost to its own, and in every environment
the guard comes to what walking there does. -/
theorem check_choice_ofDocument (names : List String) (source : String) (document : Document)
    (env after : Env) (format : KeyFormat) (known : List Slot) (outline : Outline) (ring : Keyring)
    (parsed : Document.ofSource (Tree.Vocabulary.withBlocks names) source = .ok document)
    (drawn : ofDocument document env ((Keyring.ofFormat format).takeAll known) = (.ok outline, after, ring))
    (key : String) (choice : Choice) (found : outline.producers.find? key = some (.choice choice)) :
    ∃ branch way, ChoiceOf ring outline branch key choice ∧
      (∀ other, Leads (deferralsInDocument env document) branch other ↔ other = way) ∧
      ∀ context, choice.guard.check context = walk context way := by
  obtain ⟨pieces, charted⟩ := charted_ofDocument parsed
    ((Keyring.regular_ofFormat format).takeAll known) drawn
  obtain ⟨passage, mem, rfl, rfl⟩ := charted.sketches.find?_producers_choice.1 found
  obtain ⟨way, reached⟩ := charted.traced.reached passage mem
  refine ⟨passage.branch, way, charted.sketches.choiceOf_passage mem, fun other => ⟨?_, ?_⟩, reached.check⟩
  · exact charted.nest.way_unique reached.leads
  · rintro rfl
    exact reached.leads

/-- A result that is there is what was found, with all that comes with it. -/
theorem eq_of_toOption_fst {ε α β : Type} {result : Except ε α × β} {found : α}
    (h : result.1.toOption = some found) : result = (.ok found, result.2) :=
  Prod.ext (eq_ok_of_toOption h) rfl

/-- The branch for everything else of a conditional holds another one. The choice for that one's
section asks for both. -/
theorem check_choice_ofDocument_nested :
    let env := { Env.ofFilters Render.standardFilters with selector := some (.ofNames ["a", "b"]) }
    ∃ document outline after ring choice branch way,
      Document.ofSource (Tree.Vocabulary.withBlocks ["block"])
          "{% if a %}B{% else %}{% if b %}C{% endif %}{% endif %}" = .ok document ∧
        ofDocument document env ((Keyring.ofFormat .standard).takeAll [.halt]) =
          (.ok outline, after, ring) ∧
        choice.guard.terms.map (·.condition.branch) = [0, 2] ∧
        ChoiceOf ring outline branch (KeyFormat.standard.key 5) choice ∧
        (∀ other, Leads (deferralsInDocument env document) branch other ↔ other = way) ∧
        ∀ context, choice.guard.check context = walk context way := by
  intro env
  have evaluated : ((Document.ofSource (Tree.Vocabulary.withBlocks ["block"])
      "{% if a %}B{% else %}{% if b %}C{% endif %}{% endif %}").toOption.bind fun document =>
        (ofDocument document env ((Keyring.ofFormat .standard).takeAll [.halt])).1.toOption.bind
          fun outline => (outline.producers.find? (KeyFormat.standard.key 5)).bind fun producer =>
            match producer with
            | .choice choice => some (choice.guard.terms.map (·.condition.branch))
            | .output _ => none) = some [0, 2] := by
    decide +kernel
  obtain ⟨document, parsed, evaluated⟩ := Option.bind_eq_some_iff.1 evaluated
  obtain ⟨outline, drawn, evaluated⟩ := Option.bind_eq_some_iff.1 evaluated
  obtain ⟨producer, found, branches⟩ := Option.bind_eq_some_iff.1 evaluated
  match producer with
  | .output _ => cases branches
  | .choice choice =>
    have parsed := eq_ok_of_toOption parsed
    have drawn := eq_of_toOption_fst drawn
    obtain ⟨branch, way, chosen, leads, check⟩ := check_choice_ofDocument _ _ document env _ .standard
      [.halt] outline _ parsed drawn _ choice found
    exact ⟨document, outline, _, _, choice, branch, way, parsed, drawn, Option.some.inj branches, chosen,
      leads, check⟩

/-! ### Each fault is reported once -/

/-- **One choice reports a fault:** of the choices inside a conditional it is the one that comes to
the fault, and all the others come to nothing. -/
def OneReports (ring : Keyring) (outline : Outline) (deferral : Deferral) (context : Env)
    (fault : Render.Fault) : Prop :=
  ∃ branch ∈ deferral.ids, ∃ key choice, ChoiceOf ring outline branch key choice ∧
    choice.render context = .error fault ∧
    ∀ branch' ∈ deferral.ids, ∀ key' choice', ChoiceOf ring outline branch' key' choice' →
      key' ≠ key → choice'.render context = .ok ""

/-- **Reporting once:** a conditional that is left open is in the list of one choice, and nothing
else is in any. So if its predicates fail before one holds, and the way to it is free, one choice
inside it comes to the fault and the others inside it to nothing, and if no way fails, no choice
does. -/
structure ReportsOnce (ring : Keyring) (outline : Outline) (deferrals : List Deferral) : Prop where
  distinct : (deferrals.map (·.owner)).Nodup
  reporter : ∀ deferral ∈ deferrals, ∃! key, ∃ choice,
    outline.producers.find? key = some (.choice choice) ∧ deferral.owner ∈ choice.reports
  reported : ∀ key choice, outline.producers.find? key = some (.choice choice) →
    ∀ owner ∈ choice.reports, owner ∈ deferrals.map (·.owner)
  failing : ∀ deferral ∈ deferrals, ∀ context other fault, walk context deferral.path = .ok true →
    passing context deferral.owner deferral.predicates = .error (other, fault) →
      OneReports ring outline deferral context fault
  silent : ∀ context, (∀ branch way, Leads deferrals branch way → ∀ failure,
      walk context way ≠ .error failure) →
    ∀ key choice, outline.producers.find? key = some (.choice choice) →
      ∀ fault, choice.render context ≠ .error fault

/-- A choice that comes to a fault has a guard that does. -/
theorem Choice.check_of_render_error {choice : Choice} {context : Env} {fault : Render.Fault}
    (h : choice.render context = .error fault) :
    ∃ owner, choice.guard.check context = .error (owner, fault) := by
  rw [Choice.render] at h
  split at h
  · cases h
  · cases h
  · rename_i owner own failed
    split at h
    · obtain rfl := Except.error.inj h
      exact ⟨owner, failed⟩
    · cases h

/-- The fault of a conditional's predicates has its number. -/
theorem owner_of_passing_error {context : Env} {owner other : Nat} {predicates : List Markup.Condition}
    {fault : Render.Fault} (fails : passing context owner predicates = .error (other, fault)) :
    other = owner := by
  induction predicates with
  | nil => cases fails
  | cons predicate rest ih =>
    rw [passing] at fails
    split at fails
    · exact (Prod.mk.inj (Except.error.inj fails)).1.symm
    · cases fails
    · exact ih fails

/-- Beyond what stops, a way comes to the same. -/
theorem walk_beyond {context : Env} {path way : List Crossing} {crossing : Crossing}
    (free : walk context path = .ok true) (leads : path ++ [crossing] <+: way)
    (stops : crossing.walk context ≠ .ok true) : walk context way = crossing.walk context := by
  obtain ⟨rest, rfl⟩ := leads
  rw [List.append_assoc, walk_append, free, List.singleton_append]
  dsimp only
  rw [walk]
  split
  · rename_i holds
    exact absurd holds stops
  · rfl

namespace Charted

variable {ring : Keyring} {outline : Outline} {ids : List Nat} {deferrals : List Deferral}
  {pieces : List Piece} (h : Charted ring outline ids deferrals pieces)

include h

/-- **A passage that reports a conditional.** -/
theorem exists_reporter {deferral : Deferral} (mem : deferral ∈ deferrals) :
    ∃ passage ∈ passagesIn pieces, deferral.owner ∈ passage.reports :=
  List.mem_flatMap.1 (h.traced.reports.mem_iff.2 (List.mem_map_of_mem mem))

/-- It is the only one. -/
theorem reporter_unique {owner : Nat} {first second : Passage} (hfirst : first ∈ passagesIn pieces)
    (hsecond : second ∈ passagesIn pieces) (mem : owner ∈ first.reports) (mem' : owner ∈ second.reports) :
    first = second :=
  eq_of_mem_flatMap (h.traced.reports.nodup_iff.2 h.nest.owners_nodup) hfirst hsecond mem mem'

/-- **A reporter** is inside its conditional, and its way is over the last crossing there. -/
theorem reporter_reached {deferral : Deferral} (mem : deferral ∈ deferrals) {passage : Passage}
    (own : passage ∈ passagesIn pieces) (reports : deferral.owner ∈ passage.reports) :
    ∃ way, Reached deferrals passage way ∧ passage.branch ∈ deferral.ids ∧ deferral.LastOn way := by
  obtain ⟨way, reached⟩ := h.traced.reached passage own
  obtain ⟨found, hfound, same, inside, last⟩ := reached.reports _ reports
  obtain rfl := h.nest.eq_of_owner hfound mem same
  exact ⟨way, reached, inside, last⟩

section Failing

variable {deferral : Deferral} (mem : deferral ∈ deferrals) {context : Env} {failure : Nat × Render.Fault}
  (free : walk context deferral.path = .ok true)
  (fails : passing context deferral.owner deferral.predicates = .error failure)

include mem free fails

/-- **Inside a conditional whose predicates fail,** a guard comes to their fault or does not hold. -/
theorem check_of_failing {passage : Passage} (own : passage ∈ passagesIn pieces)
    (inside : passage.branch ∈ deferral.ids) :
    passage.guard.check context = .error failure ∨ passage.guard.check context = .ok false := by
  obtain ⟨way, reached⟩ := h.traced.reached passage own
  obtain ⟨inner, hinner, crossing, hcrossing, same, rfl⟩ := reached.leads
  obtain ⟨taken, htaken, leads⟩ := h.nest.nested deferral mem inner hinner crossing hcrossing (same ▸ inside)
  obtain ⟨branches, crossings, -⟩ := h.nest.fork deferral mem
  rw [Deferral.predicates, crossings] at fails
  rw [reached.check]
  rcases walk_of_failing (crossings ▸ htaken) fails with failed | passed
  · exact .inl ((walk_beyond free leads (by simp [failed])).trans failed)
  · exact .inr ((walk_beyond free leads (by simp [passed])).trans passed)

/-- The guard of the passage that reports the conditional comes to the fault. -/
theorem check_reporter {passage : Passage} (own : passage ∈ passagesIn pieces)
    (reports : deferral.owner ∈ passage.reports) : passage.guard.check context = .error failure := by
  obtain ⟨way, reached, -, last, hlast, leads⟩ := h.reporter_reached mem own reports
  obtain ⟨branches, crossings, -⟩ := h.nest.fork deferral mem
  rw [Deferral.predicates, crossings] at fails
  rw [crossings] at hlast
  have failed := walk_of_failing_last hlast fails
  rw [reached.check]
  exact (walk_beyond free leads (by simp [failed])).trans failed

end Failing

/-- **Where predicates fail, one choice reports the fault.** -/
theorem failing {deferral : Deferral} (mem : deferral ∈ deferrals) {context : Env} {other : Nat}
    {fault : Render.Fault} (free : walk context deferral.path = .ok true)
    (fails : passing context deferral.owner deferral.predicates = .error (other, fault)) :
    OneReports ring outline deferral context fault := by
  obtain rfl := owner_of_passing_error fails
  obtain ⟨reporter, own, reports⟩ := h.exists_reporter mem
  obtain ⟨-, -, inside, -⟩ := h.reporter_reached mem own reports
  refine ⟨reporter.branch, inside, _, _, h.sketches.choiceOf_passage own, ?_, ?_⟩
  · have failed := h.check_reporter mem free fails own reports
    rw [Choice.render, Passage.choice, failed]
    exact if_pos (List.contains_iff_mem.2 reports)
  · rintro branch' inside' key' choice' chosen different
    obtain ⟨passage, own', rfl, rfl, rfl⟩ := h.sketches.passage_of_choiceOf chosen
    have unreported : deferral.owner ∉ passage.reports := fun reports' =>
      different (h.reporter_unique own' own reports' reports ▸ rfl)
    rw [Choice.render, Passage.choice]
    rcases h.check_of_failing mem free fails own' inside' with failed | passed
    · rw [failed]
      exact if_neg (mt List.contains_iff_mem.1 unreported)
    · rw [passed]

/-- **Where no way fails, no choice does.** -/
theorem silent {context : Env} (sound : ∀ branch way, Leads deferrals branch way → ∀ failure,
      walk context way ≠ .error failure) {key : String} {choice : Choice}
    (found : outline.producers.find? key = some (.choice choice)) (fault : Render.Fault) :
    choice.render context ≠ .error fault := by
  intro failed
  obtain ⟨owner, failed⟩ := Choice.check_of_render_error failed
  obtain ⟨passage, own, rfl, rfl⟩ := h.sketches.find?_producers_choice.1 found
  obtain ⟨way, reached⟩ := h.traced.reached passage own
  exact sound _ way reached.leads _ ((reached.check context).symm.trans failed)

/-- **The outline reports once** for each conditional that is left open. -/
theorem reportsOnce : ReportsOnce ring outline deferrals where
  distinct := h.nest.owners_nodup
  reporter deferral mem := by
    obtain ⟨passage, own, reports⟩ := h.exists_reporter mem
    refine ⟨_, ⟨_, (h.sketches.choiceOf_passage own).1, reports⟩, ?_⟩
    rintro key ⟨choice, found, reports'⟩
    obtain ⟨other, own', rfl, rfl⟩ := h.sketches.find?_producers_choice.1 found
    rw [h.reporter_unique own' own reports' reports]
  reported key choice found owner reports := by
    obtain ⟨passage, own, rfl, rfl⟩ := h.sketches.find?_producers_choice.1 found
    exact h.traced.reports.mem_iff.1 (List.mem_flatMap.2 ⟨passage, own, reports⟩)
  failing _ mem _ _ _ free fails := h.failing mem free fails
  silent _ sound _ _ found fault := h.silent sound found fault

end Charted

/-- **Every fault is reported once.** The outline of any source with the standard tags and plain
blocks, drawn up in any environment from a keyring that has handed out any keys before, reports once
for each conditional that is left open. -/
theorem reportsOnce_ofDocument (names : List String) (source : String) (document : Document)
    (env after : Env) (format : KeyFormat) (known : List Slot) (outline : Outline) (ring : Keyring)
    (parsed : Document.ofSource (Tree.Vocabulary.withBlocks names) source = .ok document)
    (drawn : ofDocument document env ((Keyring.ofFormat format).takeAll known) =
      (.ok outline, after, ring)) :
    ReportsOnce ring outline (deferralsInDocument env document) := by
  obtain ⟨pieces, charted⟩ := charted_ofDocument parsed
    ((Keyring.regular_ofFormat format).takeAll known) drawn
  exact charted.reportsOnce

/-- Both conditionals are left open. The predicate of the outer one fails for a recipient that has a
text for `a`, and one choice reports that. -/
theorem reportsOnce_ofDocument_nested :
    let env := { Env.ofFilters Render.standardFilters with selector := some (.ofNames ["a", "b"]) }
    let own := env.enter (Dict.ofList [("a", .text "x")])
    ∃ document outline after ring,
      Document.ofSource (Tree.Vocabulary.withBlocks ["block"])
          "{% if a > 0 %}B{% else %}{% if b %}C{% endif %}{% endif %}" = .ok document ∧
        ofDocument document env ((Keyring.ofFormat .standard).takeAll [.halt]) =
          (.ok outline, after, ring) ∧
        (deferralsInDocument env document).map (fun deferral => (deferral.owner,
          (walk own deferral.path).toOption, (passing own deferral.owner deferral.predicates).toOption)) =
            [(0, some true, none), (2, none, some true)] ∧
        ReportsOnce ring outline (deferralsInDocument env document) ∧
        ∃ branch key choice fault, ChoiceOf ring outline branch key choice ∧
          choice.render own = .error fault := by
  intro env own
  have evaluated : ((Document.ofSource (Tree.Vocabulary.withBlocks ["block"])
      "{% if a > 0 %}B{% else %}{% if b %}C{% endif %}{% endif %}").toOption.bind fun document =>
        (ofDocument document env ((Keyring.ofFormat .standard).takeAll [.halt])).1.toOption.bind
          fun _ => some ((deferralsInDocument env document).map fun deferral => (deferral.owner,
            (walk own deferral.path).toOption,
            (passing own deferral.owner deferral.predicates).toOption))) =
        some [(0, some true, none), (2, none, some true)] := by
    decide +kernel
  obtain ⟨document, parsed, evaluated⟩ := Option.bind_eq_some_iff.1 evaluated
  obtain ⟨outline, drawn, outcomes⟩ := Option.bind_eq_some_iff.1 evaluated
  have parsed := eq_ok_of_toOption parsed
  have drawn := eq_of_toOption_fst drawn
  have outcomes := Option.some.inj outcomes
  have once := reportsOnce_ofDocument _ _ document env _ .standard [.halt] outline _ parsed drawn
  obtain ⟨outer, mem, same⟩ := List.mem_map.1 (outcomes ▸ List.mem_cons_self)
  obtain ⟨-, free, fails⟩ : _ ∧ _ ∧ _ := by simpa only [Prod.mk.injEq] using same
  cases outcome : passing own outer.owner outer.predicates with
  | ok holds =>
    rw [outcome] at fails
    cases fails
  | error failure =>
    obtain ⟨branch, -, key, choice, chosen, failed, -⟩ :=
      once.failing outer mem own failure.1 failure.2 (eq_ok_of_toOption free) outcome
    exact ⟨document, outline, _, _, parsed, drawn, outcomes, once, branch, key, choice, _, chosen, failed⟩

end Outline
end MailMerge
