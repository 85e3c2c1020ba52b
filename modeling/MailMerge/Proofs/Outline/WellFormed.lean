/-
# Well-formed outlines

In an outline every placeholder has what fills it, every section has the choice
that shows it, and each of them stands in exactly one place. All output can only
end inside a section, and the outline says so. Text is joined. This holds of the
outline of every template, whatever the data it is drawn up over and whatever keys
have been handed out before.
-/

import Mathlib.Data.List.Nodup
import MailMerge.Proofs.Outline.Sound
import MailMerge.Proofs.Tree.Numbering

namespace MailMerge

open Outline (Fragment Choice Producer)
open MailMerge.Tree (Output)

/-- The fragments of an outline and those of its sections. -/
def Outline.everyFragment (outline : Outline) : List Fragment :=
  outline.fragments ++ outline.sections.entries.flatten

/-- The key of a fragment that is no text. -/
def Outline.Fragment.key? : Fragment → Option String
  | .literal _ => none
  | .output key => some key
  | .choice key => some key
  | .halt key => some key

/-- **A well-formed outline.** -/
structure Outline.WellFormed (outline : Outline) : Prop where
  /-- An output's placeholder is filled by an output. -/
  output_filled : ∀ key, .output key ∈ outline.everyFragment →
    ∃ source, outline.producers.find? key = some (.output source)
  /-- A choice's placeholder is filled by a choice, which shows a section there is. -/
  choice_filled : ∀ key, .choice key ∈ outline.everyFragment →
    ∃ choice, outline.producers.find? key = some (.choice choice) ∧
      choice.body ∈ outline.sections.keys
  /-- Every choice stands once in the outline and in no section. -/
  choice_once : ∀ key choice, outline.producers.find? key = some (.choice choice) →
    outline.fragments.count (.choice key) = 1 ∧
      ∀ body ∈ outline.sections.entries, .choice key ∉ body
  /-- Every section is shown by one choice. -/
  section_once : ∀ body ∈ outline.sections.keys,
    ∃! key, ∃ choice, outline.producers.find? key = some (.choice choice) ∧ choice.body = body
  /-- A section's key stands nowhere. -/
  section_hidden : ∀ body ∈ outline.sections.keys,
    ∀ fragment ∈ outline.everyFragment, fragment.key? ≠ some body
  /-- Every output stands once in the outline and its sections taken together. -/
  output_once : ∀ key source, outline.producers.find? key = some (.output source) →
    outline.everyFragment.count (.output key) = 1
  /-- All output never ends outside a section. -/
  no_halt : ∀ key, .halt key ∉ outline.fragments
  /-- The outline has the key at which all output stops if a section has it. -/
  halt_iff : ∀ key, outline.halt = some key ↔
    ∃ body ∈ outline.sections.entries, .halt key ∈ body
  /-- Text is joined. -/
  joined : Joined outline.fragments
  /-- Text is joined in sections. -/
  section_joined : ∀ body ∈ outline.sections.entries, Joined body

namespace Outline

/-! ### What pieces are made of -/

/-- The key of a fragment that is an output's. -/
def Fragment.output? : Fragment → Option String
  | .output key => some key
  | _ => none

/-- The key of a fragment that is a choice's. -/
def Fragment.choice? : Fragment → Option String
  | .choice key => some key
  | _ => none

variable {ring : Keyring} {outline : Outline} {pieces : List Piece}

/-- **What fills an output** is registered for a part. -/
theorem mem_producersIn_output {key : String} {source : Output} :
    (key, .output source) ∈ producersIn ring pieces ↔
      ∃ piece ∈ pieces, .output source ∈ piece.parts ∧ key = ring.keyOf (.output source.id) := by
  have parts : ∀ part : Part, (key, Producer.output source) ∈ part.producers ring ↔
      part = .output source ∧ key = ring.keyOf (.output source.id) := by
    intro part
    cases part with
    | output other =>
      simp only [Part.producers, List.mem_singleton, Prod.mk.injEq, Producer.output.injEq,
        Part.output.injEq]
      constructor
      · rintro ⟨rfl, rfl⟩
        exact ⟨rfl, rfl⟩
      · rintro ⟨rfl, rfl⟩
        exact ⟨rfl, rfl⟩
    | _ => simp [Part.producers]
  simp only [producersIn, List.mem_flatMap]
  refine exists_congr fun piece => and_congr_right fun _ => ?_
  cases piece with
  | part own =>
    rw [Piece.producers, parts, Piece.parts, List.mem_singleton]
    exact and_congr_left fun _ => eq_comm
  | passage own =>
    simp only [Piece.producers, Piece.parts, List.mem_cons, Prod.mk.injEq, reduceCtorEq, and_false,
      false_or, List.mem_flatMap, parts]
    constructor
    · rintro ⟨part, mem, rfl, rfl⟩
      exact ⟨mem, rfl⟩
    · rintro ⟨mem, rfl⟩
      exact ⟨_, mem, rfl, rfl⟩

/-- **What fills a choice** is registered for a passage. -/
theorem mem_producersIn_choice {key : String} {choice : Choice} :
    (key, .choice choice) ∈ producersIn ring pieces ↔
      ∃ passage, .passage passage ∈ pieces ∧ key = ring.keyOf passage.choiceSlot ∧
        choice = passage.choice ring := by
  have parts : ∀ part : Part, (key, Producer.choice choice) ∉ part.producers ring := by
    intro part mem
    cases part <;> simp [Part.producers] at mem
  simp only [producersIn, List.mem_flatMap]
  constructor
  · rintro ⟨piece, mem, registered⟩
    cases piece with
    | part own => exact absurd registered (parts own)
    | passage own =>
      rcases List.mem_cons.1 registered with same | registered
      · rw [Prod.mk.injEq, Producer.choice.injEq] at same
        exact ⟨own, mem, same⟩
      · obtain ⟨part, -, registered⟩ := List.mem_flatMap.1 registered
        exact absurd registered (parts part)
  · rintro ⟨passage, mem, rfl, rfl⟩
    exact ⟨_, mem, List.mem_cons_self⟩

/-- **A section** is that of a passage. -/
theorem mem_sectionsIn {key : String} {body : List Fragment} :
    (key, body) ∈ sectionsIn ring pieces ↔
      ∃ passage, .passage passage ∈ pieces ∧ key = ring.keyOf passage.bodySlot ∧
        body = passage.body ring := by
  simp only [sectionsIn, List.mem_flatMap]
  constructor
  · rintro ⟨piece, mem, found⟩
    cases piece with
    | part own => exact (List.not_mem_nil found).elim
    | passage own =>
      obtain ⟨rfl, rfl⟩ := Prod.mk.inj (List.mem_singleton.1 found)
      exact ⟨own, mem, rfl, rfl⟩
  · rintro ⟨passage, mem, rfl, rfl⟩
    exact ⟨_, mem, List.mem_singleton_self _⟩

/-- A placeholder stands in a sketch if it is that of a piece. -/
theorem mem_fragmentsOf {fragment : Fragment} (h : fragment.isLiteral = false) :
    fragment ∈ fragmentsOf ring pieces ↔ ∃ piece ∈ pieces, piece.fragment ring = fragment := by
  rw [fragmentsOf, mem_joinLiterals_iff h, List.mem_map]

/-- A placeholder stands in a passage if it is that of a part. -/
theorem mem_body {passage : Passage} {fragment : Fragment} (h : fragment.isLiteral = false) :
    fragment ∈ passage.body ring ↔ ∃ part ∈ passage.parts, part.fragment ring = fragment := by
  rw [Passage.body, mem_joinLiterals_iff h, List.mem_map]

namespace Keyed

theorem choiceSlot_mem {passage : Passage} (mem : .passage passage ∈ pieces) :
    passage.choiceSlot ∈ slotsIn pieces := List.mem_flatMap.2 ⟨_, mem, List.mem_cons_self⟩

theorem bodySlot_mem {passage : Passage} (mem : .passage passage ∈ pieces) :
    passage.bodySlot ∈ slotsIn pieces :=
  List.mem_flatMap.2 ⟨_, mem, List.mem_cons_of_mem _ List.mem_cons_self⟩

theorem outputSlot_mem {piece : Piece} (mem : piece ∈ pieces) {source : Output}
    (hsource : .output source ∈ piece.parts) : .output source.id ∈ slotsIn pieces := by
  refine List.mem_flatMap.2 ⟨piece, mem, ?_⟩
  cases piece with
  | part own =>
    obtain rfl := List.mem_singleton.1 hsource
    exact List.mem_singleton_self _
  | passage own =>
    refine List.mem_cons_of_mem _ (List.mem_cons_of_mem _ ?_)
    exact List.mem_flatMap.2 ⟨_, hsource, List.mem_singleton_self _⟩

end Keyed

/-! ### What stands once -/

/-- The slots of the choices of a sketch. -/
def choiceSlotsIn (pieces : List Piece) : List Slot :=
  (pieces.filterMap Piece.passage?).map Passage.choiceSlot

/-- The slots of the outputs of a sketch. -/
def outputSlotsIn (pieces : List Piece) : List Slot :=
  pieces.flatMap fun piece => piece.parts.flatMap Part.slots

theorem choiceSlotsIn_sublist (pieces : List Piece) :
    (choiceSlotsIn pieces).Sublist (slotsIn pieces) := by
  induction pieces with
  | nil => exact .refl _
  | cons piece rest ih =>
    cases piece with
    | part own => exact ih.trans (List.sublist_append_right ..)
    | passage own => exact (ih.trans (List.sublist_append_right (own.bodySlot :: _) _)).cons_cons _

theorem outputSlotsIn_sublist (pieces : List Piece) :
    (outputSlotsIn pieces).Sublist (slotsIn pieces) := by
  induction pieces with
  | nil => exact .refl _
  | cons piece rest ih =>
    refine List.Sublist.append ?_ ih
    cases piece with
    | part own => simp [Piece.parts, Piece.slots]
    | passage own => exact ((List.Sublist.refl _).cons _).cons _

/-- The choices that stand in a sketch are those of its passages. -/
theorem choices_fragmentsOf (pieces : List Piece) :
    (fragmentsOf ring pieces).filterMap Fragment.choice? = (choiceSlotsIn pieces).map ring.keyOf := by
  rw [fragmentsOf, filterMap_joinLiterals _ fun _ => rfl]
  induction pieces with
  | nil => rfl
  | cons piece rest ih =>
    cases piece with
    | part own =>
      have none : ((Piece.part own).fragment ring).choice? = none := by cases own <;> rfl
      rw [List.map_cons, List.filterMap_cons_none none]
      exact ih
    | passage own => exact congrArg (ring.keyOf own.choiceSlot :: ·) ih

/-- The outputs that stand in a sketch and in its sections are those of its parts. -/
theorem outputs_everyFragment (pieces : List Piece) :
    ((fragmentsOf ring pieces ++ ((sectionsIn ring pieces).map (·.2)).flatten).filterMap
      Fragment.output?).Perm ((outputSlotsIn pieces).map ring.keyOf) := by
  have ofParts : ∀ parts : List Part, (parts.map (Part.fragment ring)).filterMap Fragment.output? =
      (parts.flatMap Part.slots).map ring.keyOf := by
    intro parts
    induction parts with
    | nil => rfl
    | cons part rest ih =>
      rw [List.flatMap_cons, List.map_append, ← ih]
      cases part <;> rfl
  rw [List.filterMap_append, fragmentsOf, filterMap_joinLiterals _ fun _ => rfl]
  induction pieces with
  | nil => exact .refl _
  | cons piece rest ih =>
    rw [outputSlotsIn, List.flatMap_cons, List.map_append, ← ofParts]
    cases piece with
    | part own =>
      rw [List.map_cons, ← List.singleton_append, List.filterMap_append, List.append_assoc]
      exact ih.append_left _
    | passage own =>
      rw [List.map_cons, List.filterMap_cons_none rfl, sectionsIn_cons, List.map_append,
        List.flatten_append, List.filterMap_append]
      have body : ([own.body ring].flatten).filterMap Fragment.output? =
          (own.parts.map (Part.fragment ring)).filterMap Fragment.output? := by
        rw [List.flatten_singleton, Passage.body, filterMap_joinLiterals _ fun _ => rfl]
      refine (List.perm_append_comm_assoc ..).trans ?_
      exact (List.Perm.of_eq body).append ih

/-- What is read off a list once stands in it once. -/
theorem count_eq_one (read : Fragment → Option String) {fragments : List Fragment}
    {fragment : Fragment} (key : String) (reads : ∀ other, read other = some key ↔ other = fragment)
    (distinct : (fragments.filterMap read).Nodup) (mem : fragment ∈ fragments) :
    fragments.count fragment = 1 := by
  have counts : fragments.count fragment = (fragments.filterMap read).count key := by
    rw [List.count_filterMap, List.count_eq_countP]
    refine List.countP_congr fun other _ => ?_
    rw [beq_iff_eq, beq_iff_eq, reads]
  rw [counts]
  refine List.nodup_iff_count_eq_one.1 distinct key ?_
  exact List.mem_filterMap.2 ⟨fragment, mem, (reads fragment).2 rfl⟩

namespace Sketches

theorem distinct_producers (h : Sketches ring outline pieces) : outline.producers.DistinctKeys :=
  (h.producers.map Prod.fst).nodup_iff.2 (h.keyed.producers_nodup h.regular)

theorem distinct_sections (h : Sketches ring outline pieces) : outline.sections.DistinctKeys :=
  (h.sections.map Prod.fst).nodup_iff.2 (h.keyed.sections_nodup h.regular)

theorem find?_producers (h : Sketches ring outline pieces) {key : String} {producer : Producer} :
    outline.producers.find? key = some producer ↔ (key, producer) ∈ producersIn ring pieces := by
  rw [Dict.find?_eq_some_iff h.distinct_producers, h.producers.mem_iff]

theorem mem_section_keys (h : Sketches ring outline pieces) {key : String} :
    key ∈ outline.sections.keys ↔
      ∃ passage, .passage passage ∈ pieces ∧ key = ring.keyOf passage.bodySlot := by
  simp only [Dict.mem_keys_iff, h.sections.mem_iff, mem_sectionsIn]
  constructor
  · rintro ⟨_, passage, mem, same, -⟩
    exact ⟨passage, mem, same⟩
  · rintro ⟨passage, mem, same⟩
    exact ⟨_, passage, mem, same, rfl⟩

theorem mem_section_entries (h : Sketches ring outline pieces) {body : List Fragment} :
    body ∈ outline.sections.entries ↔
      ∃ passage, .passage passage ∈ pieces ∧ body = passage.body ring := by
  rw [Dict.entries, (h.sections.map _).mem_iff]
  simp only [List.mem_map, Prod.exists, mem_sectionsIn]
  constructor
  · rintro ⟨_, _, ⟨passage, mem, -, rfl⟩, rfl⟩
    exact ⟨passage, mem, rfl⟩
  · rintro ⟨passage, mem, rfl⟩
    exact ⟨_, _, ⟨passage, mem, rfl, rfl⟩, rfl⟩

theorem mem_everyFragment (h : Sketches ring outline pieces) {fragment : Fragment} :
    fragment ∈ outline.everyFragment ↔ fragment ∈ fragmentsOf ring pieces ∨
      ∃ passage, .passage passage ∈ pieces ∧ fragment ∈ passage.body ring := by
  simp only [everyFragment, List.mem_append, h.fragments, List.mem_flatten, h.mem_section_entries]
  refine or_congr_right ⟨?_, ?_⟩
  · rintro ⟨_, ⟨passage, mem, rfl⟩, found⟩
    exact ⟨passage, mem, found⟩
  · rintro ⟨passage, mem, found⟩
    exact ⟨_, ⟨passage, mem, rfl⟩, found⟩

theorem mem_fragments_choice (h : Sketches ring outline pieces) {key : String} :
    .choice key ∈ outline.fragments ↔
      ∃ passage, .passage passage ∈ pieces ∧ key = ring.keyOf passage.choiceSlot := by
  rw [h.fragments, mem_fragmentsOf rfl]
  constructor
  · rintro ⟨piece, mem, same⟩
    cases piece with
    | part own => cases own <;> cases same
    | passage own => exact ⟨own, mem, (Fragment.choice.inj same).symm⟩
  · rintro ⟨passage, mem, rfl⟩
    exact ⟨_, mem, rfl⟩

/-- No choice stands in a section. -/
theorem choice_not_mem_body {passage : Passage} {key : String} : .choice key ∉ passage.body ring := by
  intro mem
  obtain ⟨part, -, same⟩ := (mem_body rfl).1 mem
  cases part <;> cases same

theorem mem_everyFragment_choice (h : Sketches ring outline pieces) {key : String} :
    .choice key ∈ outline.everyFragment ↔
      ∃ passage, .passage passage ∈ pieces ∧ key = ring.keyOf passage.choiceSlot := by
  rw [h.mem_everyFragment, ← h.fragments, h.mem_fragments_choice, or_iff_left]
  rintro ⟨passage, -, mem⟩
  exact choice_not_mem_body mem

theorem mem_everyFragment_output (h : Sketches ring outline pieces) {key : String} :
    .output key ∈ outline.everyFragment ↔
      ∃ source, ∃ piece ∈ pieces, .output source ∈ piece.parts ∧
        key = ring.keyOf (.output source.id) := by
  have part : ∀ own : Part, own.fragment ring = .output key ↔
      ∃ source, own = .output source ∧ key = ring.keyOf (.output source.id) := by
    intro own
    cases own with
    | output source =>
      simp only [Part.fragment, Fragment.output.injEq, Part.output.injEq]
      constructor
      · exact fun same => ⟨source, rfl, same.symm⟩
      · rintro ⟨_, rfl, rfl⟩
        rfl
    | _ => simp [Part.fragment]
  have body : ∀ passage : Passage, .output key ∈ passage.body ring ↔
      ∃ own ∈ passage.parts, own.fragment ring = .output key := fun _ => mem_body rfl
  rw [h.mem_everyFragment, mem_fragmentsOf rfl]
  simp only [body]
  constructor
  · rintro (⟨piece, mem, same⟩ | ⟨passage, mem, own, hown, same⟩)
    · cases piece with
      | part own =>
        obtain ⟨source, rfl, key⟩ := (part own).1 same
        exact ⟨source, _, mem, List.mem_singleton_self _, key⟩
      | passage own => cases same
    · obtain ⟨source, rfl, key⟩ := (part own).1 same
      exact ⟨source, _, mem, hown, key⟩
  · rintro ⟨source, piece, mem, hsource, same⟩
    cases piece with
    | part own =>
      obtain rfl := List.mem_singleton.1 hsource
      exact .inl ⟨_, mem, (part _).2 ⟨source, rfl, same⟩⟩
    | passage own => exact .inr ⟨own, mem, _, hsource, (part _).2 ⟨source, rfl, same⟩⟩

/-- The end of all output stands in a section if it is a part of its passage. -/
theorem mem_body_halt {passage : Passage} {key : String} :
    .halt key ∈ passage.body ring ↔
      passage.parts.any Part.isHalt = true ∧ key = ring.keyOf .halt := by
  rw [mem_body rfl, List.any_eq_true]
  constructor
  · rintro ⟨part, mem, same⟩
    cases part with
    | halt => exact ⟨⟨_, mem, rfl⟩, (Fragment.halt.inj same).symm⟩
    | _ => cases same
  · rintro ⟨⟨part, mem, halts⟩, rfl⟩
    cases part with
    | halt => exact ⟨_, mem, rfl⟩
    | _ => cases halts

/-- In a sound sketch all output ends inside passages. -/
theorem haltsIn_iff {format : KeyFormat} (sound : ∀ piece ∈ pieces, piece.Sound format) :
    haltsIn pieces = true ↔
      ∃ passage, .passage passage ∈ pieces ∧ passage.parts.any Part.isHalt = true := by
  rw [haltsIn, List.any_eq_true]
  constructor
  · rintro ⟨piece, mem, halts⟩
    cases piece with
    | part own => exact absurd halts (by simp [Piece.halts, (sound _ mem).1])
    | passage own => exact ⟨own, mem, halts⟩
  · rintro ⟨passage, mem, halts⟩
    exact ⟨_, mem, halts⟩

/-- Slots of a sketch that have one key are one slot. -/
theorem slot_eq (h : Sketches ring outline pieces) {first second : Slot}
    (hfirst : first ∈ slotsIn pieces) (hsecond : second ∈ slotsIn pieces)
    (same : ring.keyOf first = ring.keyOf second) : first = second :=
  h.regular.keyOf_injective (h.keyed.has _ hfirst) (h.keyed.has _ hsecond) same

/-- **A section's key is that of no placeholder.** -/
theorem section_hidden (h : Sketches ring outline pieces) {passage : Passage}
    (mem : .passage passage ∈ pieces) {fragment : Fragment} (found : fragment ∈ outline.everyFragment) :
    fragment.key? ≠ some (ring.keyOf passage.bodySlot) := by
  intro same
  have bodySlot := Keyed.bodySlot_mem mem
  cases fragment with
  | literal text => cases same
  | output key =>
    obtain ⟨source, piece, hpiece, hsource, rfl⟩ := h.mem_everyFragment_output.1 found
    cases h.slot_eq (Keyed.outputSlot_mem hpiece hsource) bodySlot (Option.some.inj same)
  | choice key =>
    obtain ⟨other, hother, rfl⟩ := h.mem_everyFragment_choice.1 found
    cases h.slot_eq (Keyed.choiceSlot_mem hother) bodySlot (Option.some.inj same)
  | halt key =>
    obtain ⟨hhalt, hkey⟩ : haltsIn pieces = true ∧ key = ring.keyOf .halt := by
      rcases h.mem_everyFragment.1 found with found | ⟨other, hother, found⟩
      · obtain ⟨piece, hpiece, same⟩ := (mem_fragmentsOf rfl).1 found
        cases piece with
        | part own =>
          cases own with
          | halt => exact ⟨List.any_eq_true.2 ⟨_, hpiece, rfl⟩, (Fragment.halt.inj same).symm⟩
          | _ => cases same
        | passage own => cases same
      · obtain ⟨halts, rfl⟩ := mem_body_halt.1 found
        exact ⟨List.any_eq_true.2 ⟨_, hother, halts⟩, rfl⟩
    have same := hkey ▸ Option.some.inj same
    cases h.regular.keyOf_injective (h.keyed.hasHalt hhalt) (h.keyed.has _ bodySlot) same

/-- No choice stands twice in the text of an outline. -/
theorem choices_nodup (h : Sketches ring outline pieces) :
    (outline.fragments.filterMap Fragment.choice?).Nodup := by
  rw [h.fragments, choices_fragmentsOf]
  have sub := choiceSlotsIn_sublist pieces
  exact h.regular.nodup_keys (sub.nodup h.keyed.distinct) fun slot mem => h.keyed.has slot (sub.subset mem)

/-- No output stands twice in the text of an outline and its sections. -/
theorem outputs_nodup (h : Sketches ring outline pieces) :
    (outline.everyFragment.filterMap Fragment.output?).Nodup := by
  have sections : outline.sections.entries.flatten.Perm ((sectionsIn ring pieces).map (·.2)).flatten :=
    (h.sections.map _).flatten
  have order := ((sections.append_left outline.fragments).filterMap Fragment.output?).trans
    (h.fragments ▸ outputs_everyFragment pieces)
  have sub := outputSlotsIn_sublist pieces
  rw [Outline.everyFragment, order.nodup_iff]
  exact h.regular.nodup_keys (sub.nodup h.keyed.distinct) fun slot mem => h.keyed.has slot (sub.subset mem)

/-- **The end of all output** stands in a section just when output ends in the sketch. -/
theorem halt_in_section_iff {format : KeyFormat} (h : Sketches ring outline pieces)
    (sound : ∀ piece ∈ pieces, piece.Sound format) {key : String} :
    (∃ body ∈ outline.sections.entries, .halt key ∈ body) ↔
      haltsIn pieces = true ∧ key = ring.keyOf .halt := by
  simp only [h.mem_section_entries, haltsIn_iff sound]
  constructor
  · rintro ⟨_, ⟨passage, mem, rfl⟩, found⟩
    obtain ⟨halts, rfl⟩ := mem_body_halt.1 found
    exact ⟨⟨passage, mem, halts⟩, rfl⟩
  · rintro ⟨⟨passage, mem, halts⟩, rfl⟩
    exact ⟨_, ⟨passage, mem, rfl⟩, mem_body_halt.2 ⟨halts, rfl⟩⟩

/-- **An outline that is a sound sketch with keys is well formed.** -/
theorem wellFormed {format : KeyFormat} (h : Sketches ring outline pieces)
    (sound : ∀ piece ∈ pieces, piece.Sound format) : outline.WellFormed where
  output_filled key found := by
    obtain ⟨source, piece, mem, hsource, same⟩ := h.mem_everyFragment_output.1 found
    exact ⟨source, h.find?_producers.2 (mem_producersIn_output.2 ⟨piece, mem, hsource, same⟩)⟩
  choice_filled key found := by
    obtain ⟨passage, mem, same⟩ := h.mem_everyFragment_choice.1 found
    refine ⟨passage.choice ring, ?_, h.mem_section_keys.2 ⟨passage, mem, rfl⟩⟩
    exact h.find?_producers.2 (mem_producersIn_choice.2 ⟨passage, mem, same, rfl⟩)
  choice_once key choice found := by
    obtain ⟨passage, mem, same, -⟩ := mem_producersIn_choice.1 (h.find?_producers.1 found)
    refine ⟨count_eq_one Fragment.choice? key ?_ ?_ (h.mem_fragments_choice.2 ⟨passage, mem, same⟩), ?_⟩
    · intro other
      cases other <;> simp [Fragment.choice?]
    · exact h.choices_nodup
    · intro body hbody
      obtain ⟨other, -, rfl⟩ := h.mem_section_entries.1 hbody
      exact choice_not_mem_body
  section_once body found := by
    obtain ⟨passage, mem, rfl⟩ := h.mem_section_keys.1 found
    refine ⟨ring.keyOf passage.choiceSlot, ⟨passage.choice ring, ?_, rfl⟩, ?_⟩
    · exact h.find?_producers.2 (mem_producersIn_choice.2 ⟨passage, mem, rfl, rfl⟩)
    · rintro key ⟨choice, hchoice, same⟩
      obtain ⟨other, hother, rfl, rfl⟩ := mem_producersIn_choice.1 (h.find?_producers.1 hchoice)
      have slot := h.slot_eq (Keyed.bodySlot_mem hother) (Keyed.bodySlot_mem mem) same
      obtain ⟨hbranch, hrun⟩ := Slot.body.inj slot
      rw [Passage.choiceSlot, Passage.choiceSlot, hbranch, hrun]
  section_hidden body found fragment hfragment := by
    obtain ⟨passage, mem, rfl⟩ := h.mem_section_keys.1 found
    exact h.section_hidden mem hfragment
  output_once key source found := by
    obtain ⟨piece, mem, hsource, same⟩ := mem_producersIn_output.1 (h.find?_producers.1 found)
    refine count_eq_one Fragment.output? key ?_ ?_
      (h.mem_everyFragment_output.2 ⟨source, piece, mem, hsource, same⟩)
    · intro other
      cases other <;> simp [Fragment.output?]
    · exact h.outputs_nodup
  no_halt key found := by
    rw [h.fragments, mem_fragmentsOf rfl] at found
    obtain ⟨piece, mem, same⟩ := found
    cases piece with
    | part own =>
      cases own with
      | halt => exact Bool.noConfusion (sound _ mem).1
      | _ => cases same
    | passage own => cases same
  halt_iff key := by
    rw [h.halt_in_section_iff sound, h.halt]
    split
    · rename_i halts
      rw [Option.some.injEq, eq_comm]
      exact (and_iff_right halts).symm
    · rename_i halts
      exact ⟨fun absent => (by cases absent), fun both => absurd both.1 halts⟩
  joined := by
    rw [h.fragments]
    refine joined_joinLiterals fun found => ?_
    obtain ⟨piece, mem, same⟩ := List.mem_map.1 found
    cases piece with
    | part own =>
      cases own with
      | literal text => exact (sound _ mem).2.1 (Fragment.literal.inj same)
      | _ => cases same
    | passage own => cases same
  section_joined body found := by
    obtain ⟨passage, mem, rfl⟩ := h.mem_section_entries.1 found
    refine joined_joinLiterals fun found => ?_
    obtain ⟨part, hpart, same⟩ := List.mem_map.1 found
    cases part with
    | literal text => exact ((sound _ mem) _ hpart).1 (Fragment.literal.inj same)
    | _ => cases same

end Sketches

/-- **Every outline is well formed:** that of any source with the standard tags and
plain blocks, drawn up in any environment, from a keyring that has handed out any
keys before. -/
theorem ofDocument_wellFormed (names : List String) (source : String) (document : Tree.Document)
    (env : Render.Env) (format : KeyFormat) (known : List Slot) (outline : Outline)
    (parsed : Tree.Document.ofSource (Tree.Vocabulary.withBlocks names) source = .ok document)
    (drawn : (ofDocument document env ((Keyring.ofFormat format).takeAll known)).1 = .ok outline) :
    outline.WellFormed := by
  obtain ⟨⟨count, ids⟩, -⟩ := Tree.Document.ids_ofSource (Tree.Vocabulary.plain_withBlocks names) parsed
  have distinct : document.ids.Nodup := ids ▸ List.nodup_range
  obtain ⟨later, pieces, sketch, -, sketches⟩ :=
    sketches_ofDocument ((Keyring.regular_ofFormat format).takeAll known) distinct drawn
  exact sketches.wellFormed (sound_sketchAll document.nodes env pieces sketch)

/-- A conditional in a branch of another, an output in it, and a signal to stop, all
personal, with a key handed out before. The first branch becomes two sections with the
inner conditional's between them, in which the output stands before the key at which all
output ends. -/
theorem ofDocument_wellFormed_nested :
    ∃ document outline,
      Tree.Document.ofSource (Tree.Vocabulary.withBlocks ["block"])
          "{% if a %}x{% if b %}{{ b }}{% break %}{% endif %}y{% else %}z{% endif %}" = .ok document ∧
        (ofDocument document
          { Render.Env.ofFilters Render.standardFilters with selector := some (.ofNames ["a", "b"]) }
          ((Keyring.ofFormat ⟨"<", ">"⟩).takeAll [.halt])).1 = .ok outline ∧
        outline.WellFormed ∧
        outline.fragments = [.choice "<6>", .choice "<4>", .choice "<8>", .choice "<10>"] ∧
        outline.producers.keys = ["<10>", "<2>", "<4>", "<6>", "<8>"] ∧
        outline.sections.pairs = [("<3>", [.output "<2>", .halt "<1>"]), ("<5>", [.literal "x"]),
          ("<7>", [.literal "y"]), ("<9>", [.literal "z"])] ∧
        outline.halt = some "<1>" := by
  have evaluated : ((Tree.Document.ofSource (Tree.Vocabulary.withBlocks ["block"])
      "{% if a %}x{% if b %}{{ b }}{% break %}{% endif %}y{% else %}z{% endif %}").toOption.bind
        fun document => (ofDocument document
          { Render.Env.ofFilters Render.standardFilters with selector := some (.ofNames ["a", "b"]) }
          ((Keyring.ofFormat ⟨"<", ">"⟩).takeAll [.halt])).1.toOption).map
        (fun outline =>
          ((outline.fragments, outline.producers.keys), outline.sections.pairs, outline.halt)) =
      some (([.choice "<6>", .choice "<4>", .choice "<8>", .choice "<10>"],
          ["<10>", "<2>", "<4>", "<6>", "<8>"]),
        [("<3>", [.output "<2>", .halt "<1>"]), ("<5>", [.literal "x"]), ("<7>", [.literal "y"]),
          ("<9>", [.literal "z"])],
        some "<1>") := by
    decide +kernel
  obtain ⟨outline, found, shown⟩ := Option.map_eq_some_iff.1 evaluated
  simp only [Prod.mk.injEq, and_assoc] at shown
  obtain ⟨document, parsed, drawn⟩ := Option.bind_eq_some_iff.1 found
  have parsed := eq_ok_of_toOption parsed
  have drawn := eq_ok_of_toOption drawn
  exact ⟨document, outline, parsed, drawn,
    ofDocument_wellFormed _ _ document _ ⟨"<", ">"⟩ [.halt] outline parsed drawn, shown⟩

end Outline
end MailMerge
