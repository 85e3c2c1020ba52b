/-
# Registering pieces

Each operation on a draft does one thing to the sketch that the draft represents:
it shows a piece, registers a new one, makes a passage of parts, changes the choice
of a passage, or takes over what another draft has registered. Nothing that was
registered before is overwritten, since the slots of a sketch are distinct.
-/

import MailMerge.Proofs.Outline.Keyed

namespace MailMerge
namespace Outline

open MailMerge.Tree (Output)

variable {ring : Keyring} {draft : Draft} {shown all others : List Piece}

/-! ### Order does not matter -/

theorem slotsIn_perm (order : all.Perm others) : (slotsIn all).Perm (slotsIn others) :=
  order.flatMap_right _

theorem Keyed.perm (h : Keyed ring all) (order : all.Perm others) : Keyed ring others where
  distinct := (slotsIn_perm order).nodup_iff.1 h.distinct
  has slot hslot := h.has slot ((slotsIn_perm order).mem_iff.2 hslot)
  hasHalt halts := by
    obtain ⟨piece, mem, hpiece⟩ := List.any_eq_true.1 halts
    exact h.hasHalt (List.any_eq_true.2 ⟨piece, order.mem_iff.2 mem, hpiece⟩)

namespace Represents

/-- **What is registered has no order.** -/
theorem perm (h : Represents ring draft shown all) (order : all.Perm others) :
    Represents ring draft shown others where
  regular := h.regular
  keyed := h.keyed.perm order
  subset := fun _ mem => order.mem_iff.1 (h.subset mem)
  fragments := h.fragments
  producers := h.producers.trans (order.flatMap_right _)
  sections := h.sections.trans (order.flatMap_right _)

/-- The draft of nothing represents the empty sketch. -/
theorem empty (regular : ring.Regular) : Represents ring .empty [] [] where
  regular := regular
  keyed := ⟨List.nodup_nil, fun _ h => (List.not_mem_nil h).elim, fun h => (Bool.false_ne_true h).elim⟩
  subset := fun _ h => h
  fragments := rfl
  producers := .refl _
  sections := .refl _

/-- The keys under which placeholders are registered. -/
theorem producers_keys (h : Represents ring draft shown all) :
    draft.producers.keys.Perm
      (((slotsIn all).filter fun slot => !slot.isBody).map ring.keyOf) := by
  rw [← keys_producersIn]
  exact h.producers.map _

/-- The keys under which sections are registered. -/
theorem sections_keys (h : Represents ring draft shown all) :
    draft.sections.keys.Perm (((slotsIn all).filter Slot.isBody).map ring.keyOf) := by
  rw [← keys_sectionsIn]
  exact h.sections.map _

theorem producers_distinct (h : Represents ring draft shown all) : draft.producers.DistinctKeys :=
  h.producers_keys.nodup_iff.2 (keys_producersIn ring all ▸ h.keyed.producers_nodup h.regular)

theorem sections_distinct (h : Represents ring draft shown all) : draft.sections.DistinctKeys :=
  h.sections_keys.nodup_iff.2 (keys_sectionsIn ring all ▸ h.keyed.sections_nodup h.regular)

/-- **A slot that is new to the sketch** has a key under which nothing is registered. -/
theorem producers_new (h : Represents ring draft shown all) {slot : Slot} (has : ring.Has slot)
    (new : slot ∉ slotsIn all) : ring.keyOf slot ∉ draft.producers.keys := by
  intro mem
  obtain ⟨other, hother, same⟩ := List.mem_map.1 (h.producers_keys.mem_iff.1 mem)
  have hother := (List.mem_filter.1 hother).1
  exact new (h.regular.keyOf_injective (h.keyed.has _ hother) has same ▸ hother)

theorem sections_new (h : Represents ring draft shown all) {slot : Slot} (has : ring.Has slot)
    (new : slot ∉ slotsIn all) : ring.keyOf slot ∉ draft.sections.keys := by
  intro mem
  obtain ⟨other, hother, same⟩ := List.mem_map.1 (h.sections_keys.mem_iff.1 mem)
  have hother := (List.mem_filter.1 hother).1
  exact new (h.regular.keyOf_injective (h.keyed.has _ hother) has same ▸ hother)

/-! ### Showing and registering pieces -/

/-- **Showing a piece** pushes its fragment. -/
theorem push (h : Represents ring draft shown all) (piece : Piece) (mem : piece ∈ all) :
    Represents ring (draft.push (piece.fragment ring)) (shown ++ [piece]) all where
  regular := h.regular
  keyed := h.keyed
  subset := List.append_subset.2 ⟨h.subset, List.cons_subset.2 ⟨mem, List.nil_subset _⟩⟩
  fragments := by rw [Draft.push_fragments, h.fragments, fragmentsOf_concat]
  producers := h.producers
  sections := h.sections

/-- **A part without a placeholder** has nothing to register. -/
theorem addPlain (h : Represents ring draft shown all) (part : Part) (plain : part.slots = [])
    (hasHalt : part.isHalt = true → ring.Has .halt) :
    Represents ring draft shown (.part part :: all) := by
  have slots : slotsIn (.part part :: all) = slotsIn all := by
    rw [slotsIn_cons, Piece.slots, plain, List.nil_append]
  have producers : part.producers ring = [] := by
    cases part <;> first | rfl | simp [Part.slots] at plain
  refine ⟨h.regular, ⟨slots ▸ h.keyed.distinct, slots ▸ h.keyed.has, fun halts => ?_⟩,
    List.Subset.trans h.subset (List.subset_cons_self ..), h.fragments, ?_, h.sections⟩
  · rw [haltsIn_cons, Bool.or_eq_true] at halts
    exact halts.elim hasHalt h.keyed.hasHalt
  · rw [producersIn_cons, Piece.producers, producers]
    exact h.producers

/-- **An output** is registered under the key of its slot. -/
theorem addOutput (h : Represents ring draft shown all) {source : Output}
    (has : ring.Has (.output source.id)) (new : .output source.id ∉ slotsIn all) :
    Represents ring
      { draft with producers :=
          draft.producers.insert (ring.keyOf (.output source.id)) (.output source) }
      shown (.part (.output source) :: all) where
  regular := h.regular
  keyed := by
    refine ⟨List.nodup_cons.2 ⟨new, h.keyed.distinct⟩, fun slot hslot => ?_, h.keyed.hasHalt⟩
    rcases List.mem_cons.1 hslot with rfl | hslot
    · exact has
    · exact h.keyed.has slot hslot
  subset := List.Subset.trans h.subset (List.subset_cons_self ..)
  fragments := h.fragments
  producers := (Dict.perm_insert (h.producers_new has new) _).trans (h.producers.cons _)
  sections := h.sections

/-- **Parts become a passage** when their section and the choice that shows it are
registered under new slots. -/
theorem addPassage (passage : Passage)
    (h : Represents ring draft shown (passage.parts.map .part ++ others)) (sub : shown ⊆ others)
    (unreported : passage.reports = []) (hasChoice : ring.Has passage.choiceSlot)
    (hasBody : ring.Has passage.bodySlot)
    (newChoice : passage.choiceSlot ∉ slotsIn (passage.parts.map .part ++ others))
    (newBody : passage.bodySlot ∉ slotsIn (passage.parts.map .part ++ others)) :
    Represents ring
      { draft with
        producers := draft.producers.insert (ring.keyOf passage.choiceSlot)
          (.choice ⟨passage.guard, ring.keyOf passage.bodySlot, []⟩)
        sections := draft.sections.insert (ring.keyOf passage.bodySlot) (passage.body ring) }
      shown (.passage passage :: others) := by
  have slots : slotsIn (.passage passage :: others) =
      passage.choiceSlot :: passage.bodySlot :: slotsIn (passage.parts.map .part ++ others) := by
    rw [slotsIn_cons, Piece.slots, slotsIn_append, slotsIn_parts, List.cons_append, List.cons_append]
  have apart : passage.choiceSlot ≠ passage.bodySlot := fun same => by
    simp [Passage.choiceSlot, Passage.bodySlot] at same
  have choice : passage.choice ring = ⟨passage.guard, ring.keyOf passage.bodySlot, []⟩ := by
    rw [Passage.choice, unreported]
  refine ⟨h.regular, ⟨?_, fun slot hslot => ?_, fun halts => h.keyed.hasHalt ?_⟩,
    List.Subset.trans sub (List.subset_cons_self ..), h.fragments, ?_, ?_⟩
  · rw [slots, List.nodup_cons, List.nodup_cons, List.mem_cons, not_or]
    exact ⟨⟨apart, newChoice⟩, newBody, h.keyed.distinct⟩
  · rw [slots, List.mem_cons, List.mem_cons] at hslot
    rcases hslot with rfl | rfl | hslot
    · exact hasChoice
    · exact hasBody
    · exact h.keyed.has slot hslot
  · rw [haltsIn_append, haltsIn_parts]
    exact halts
  · rw [producersIn_cons, Piece.producers, choice, List.cons_append]
    refine (Dict.perm_insert (h.producers_new hasChoice newChoice) _).trans (.cons _ ?_)
    rw [← producersIn_parts, ← producersIn_append]
    exact h.producers
  · rw [sectionsIn_cons, Piece.sections, List.singleton_append]
    refine (Dict.perm_insert (h.sections_new hasBody newBody) _).trans (.cons _ ?_)
    have := h.sections
    rwa [sectionsIn_append, sectionsIn_parts, List.nil_append] at this

/-! ### Changing a choice -/

/-- Changing the entry of the first key changes the first pair alone. -/
theorem map_modify_pairs {key : String} {entry : Producer} {pairs : List (String × Producer)}
    (change : Producer → Producer) (new : key ∉ pairs.map (·.1)) :
    ((key, entry) :: pairs).map (fun pair => if pair.1 = key then (pair.1, change pair.2) else pair) =
      (key, change entry) :: pairs := by
  rw [List.map_cons, if_pos rfl]
  congr 1
  refine (List.map_congr_left fun pair mem => if_neg ?_).trans (List.map_id' _)
  rintro rfl
  exact new (List.mem_map.2 ⟨pair, mem, rfl⟩)

/-- **A changed choice** is that of a passage in the same place with the same parts. -/
theorem modify {first : Passage} (second : Passage) (later : List Piece)
    (change : Producer → Producer)
    (h : Represents ring draft shown (.passage first :: others))
    (choiceSlot : second.choiceSlot = first.choiceSlot) (bodySlot : second.bodySlot = first.bodySlot)
    (parts : second.parts = first.parts)
    (changed : change (.choice (first.choice ring)) = .choice (second.choice ring))
    (sub : later ⊆ .passage second :: others)
    (same : later.map (Piece.fragment ring) = shown.map (Piece.fragment ring)) :
    Represents ring
      { draft with producers := draft.producers.modify (ring.keyOf first.choiceSlot) change }
      later (.passage second :: others) := by
  have slots : slotsIn (.passage second :: others) = slotsIn (.passage first :: others) := by
    simp only [slotsIn_cons, Piece.slots, choiceSlot, bodySlot, parts]
  have halts : haltsIn (.passage second :: others) = haltsIn (.passage first :: others) := by
    simp only [haltsIn_cons, Piece.halts, parts]
  refine ⟨h.regular, ⟨slots ▸ h.keyed.distinct, slots ▸ h.keyed.has, halts ▸ h.keyed.hasHalt⟩, sub,
    ?_, ?_, ?_⟩
  · rw [fragmentsOf, same]
    exact h.fragments
  · have distinct := h.keyed.producers_nodup h.regular
    rw [producersIn_cons, Piece.producers, List.cons_append, List.map_cons, List.nodup_cons] at distinct
    have order := h.producers.map fun pair =>
      if pair.1 = ring.keyOf first.choiceSlot then (pair.1, change pair.2) else pair
    rw [producersIn_cons, Piece.producers, List.cons_append, map_modify_pairs change distinct.1,
      changed] at order
    rw [producersIn_cons, Piece.producers, choiceSlot, parts, List.cons_append]
    exact order
  · rw [sectionsIn_cons, Piece.sections, bodySlot, Passage.body, parts]
    exact h.sections

/-! ### Taking over another draft -/

variable {child : Draft} {pieces more : List Piece}

/-- **Registering what another draft has registered,** if no slot is in both sketches. -/
theorem register (h : Represents ring draft shown all) (hchild : Represents ring child pieces more)
    (apart : ∀ slot ∈ slotsIn more, slot ∉ slotsIn all) :
    Represents ring (draft.register child) shown (all ++ more) where
  regular := h.regular
  keyed := by
    refine ⟨?_, fun slot hslot => ?_, fun halts => ?_⟩
    · rw [slotsIn_append]
      exact List.nodup_append.2 ⟨h.keyed.distinct, hchild.keyed.distinct,
        fun first hfirst second hsecond same => apart second hsecond (same ▸ hfirst)⟩
    · rw [slotsIn_append, List.mem_append] at hslot
      exact hslot.elim (h.keyed.has slot) (hchild.keyed.has slot)
    · rw [haltsIn_append, Bool.or_eq_true] at halts
      exact halts.elim h.keyed.hasHalt hchild.keyed.hasHalt
  subset := List.Subset.trans h.subset (List.subset_append_left ..)
  fragments := h.fragments
  producers := by
    refine (Dict.perm_overlay hchild.producers_distinct fun key hkey => ?_).trans
      (producersIn_append ring all more ▸ h.producers.append hchild.producers)
    obtain ⟨slot, hslot, rfl⟩ := List.mem_map.1 (hchild.producers_keys.mem_iff.1 hkey)
    have hslot := (List.mem_filter.1 hslot).1
    exact h.producers_new (hchild.keyed.has _ hslot) (apart _ hslot)
  sections := by
    refine (Dict.perm_overlay hchild.sections_distinct fun key hkey => ?_).trans
      (sectionsIn_append ring all more ▸ h.sections.append hchild.sections)
    obtain ⟨slot, hslot, rfl⟩ := List.mem_map.1 (hchild.sections_keys.mem_iff.1 hkey)
    have hslot := (List.mem_filter.1 hslot).1
    exact h.sections_new (hchild.keyed.has _ hslot) (apart _ hslot)

/-- **Taking over another draft** shows what it shows and registers what it has registered. -/
theorem absorb (h : Represents ring draft shown all) (hchild : Represents ring child pieces more)
    (apart : ∀ slot ∈ slotsIn more, slot ∉ slotsIn all) :
    Represents ring (draft.absorb child) (shown ++ pieces) (all ++ more) := by
  have registered := h.register hchild apart
  have sub : shown ++ pieces ⊆ all ++ more := by
    refine List.append_subset.2 ⟨registered.subset, ?_⟩
    exact List.Subset.trans hchild.subset (List.subset_append_right ..)
  rw [Draft.absorb_eq]
  refine ⟨registered.regular, registered.keyed, sub, ?_, registered.producers, registered.sections⟩
  rw [h.fragments, hchild.fragments, fragmentsOf, fragmentsOf, foldl_pushFragment_joinLiterals,
    fragmentsOf, List.map_append]

end Represents
end Outline
end MailMerge
