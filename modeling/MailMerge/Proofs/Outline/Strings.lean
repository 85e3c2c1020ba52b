/-
# The texts of the recipients

An outline that is a sketch with keys and a table with the entries of every recipient
give the texts that the sketch comes to with those entries. The order in which keys are
replaced, longest first and the table's before the sections', makes no difference.
-/

import Mathlib.Data.List.Perm.Basic
import MailMerge.Proofs.Outline.Columns
import MailMerge.Proofs.Outline.Recipient
import MailMerge.Proofs.Outline.WellFormed

namespace MailMerge
namespace Outline

open List (Forall₂)

/-- **A rearranged image** is the image of a rearrangement. -/
theorem exists_map_of_perm {α β : Type} {f : α → β} {source : List α} {found : List β}
    (h : found.Perm (source.map f)) : ∃ items : List α, found = items.map f ∧ items.Perm source := by
  have image : Forall₂ (fun b a => b = f a) (source.map f) source :=
    List.forall₂_map_left_iff.2 (List.forall₂_same.2 fun _ _ => rfl)
  obtain ⟨items, related, perm⟩ := List.perm_comp_forall₂ h image
  rw [← List.forall₂_map_right_iff, List.forall₂_eq_eq_eq] at related
  exact ⟨items, related, perm⟩

/-! ### Longest keys first -/

theorem perm_insertByLength {α : Type} (item : String × α) (items : List (String × α)) :
    (insertByLength item items).Perm (item :: items) := by
  induction items with
  | nil => exact .refl _
  | cons other rest ih =>
    rw [insertByLength]
    split
    · exact (ih.cons other).trans (.swap ..)
    · exact .refl _

/-- **Putting the longest keys first** rearranges the items that have a key. -/
theorem longestFirst_perm {α : Type} (items : List (String × α)) :
    (longestFirst items).Perm (items.filter fun item => !item.1.isEmpty) := by
  unfold longestFirst
  induction items.filter fun item => !item.1.isEmpty with
  | nil => exact .refl _
  | cons item rest ih =>
    rw [List.foldr_cons]
    exact (perm_insertByLength item _).trans (ih.cons item)

/-- If no key is empty, all items are rearranged. -/
theorem perm_longestFirst {α : Type} {items : List (String × α)}
    (nonempty : ∀ item ∈ items, item.1.isEmpty = false) : (longestFirst items).Perm items := by
  have all : items.filter (fun item => !item.1.isEmpty) = items := by
    refine List.filter_eq_self.2 fun item mem => ?_
    rw [nonempty item mem]
    rfl
  have order := longestFirst_perm items
  rwa [all] at order

/-- The items that have a key are all there. -/
theorem mem_longestFirst {α : Type} {items : List (String × α)} {item : String × α} :
    item ∈ longestFirst items ↔ item ∈ items ∧ item.1 ≠ "" := by
  rw [(longestFirst_perm items).mem_iff, List.mem_filter]
  simp

/-! ### Filling in for each recipient -/

theorem checkColumns_ok {count : Nat} {columns : List (String × List String)}
    (h : ∀ column ∈ columns, column.2.length = count) : checkColumns count columns = .ok () := by
  induction columns with
  | nil => rfl
  | cons column rest ih =>
    obtain ⟨own, others⟩ := List.forall_mem_cons.1 h
    rw [checkColumns, if_pos own]
    exact ih others

/-- **What a text settles on** for one recipient, if it does in the passes that are made. -/
def settledText (text : String) (columns : List (String × List String)) (sections : Dict String)
    (halt : Option String) (index : Nat) : Option String :=
  settle (entriesOf columns index) ((longestFirst sections.pairs).map (·.1)) halt (sections.size + 2) text
    ⟨sections.pairs.filter fun body => !body.1.isEmpty⟩

section FillEach

variable {text : String} {columns : List (String × List String)} {sections : Dict String}
  {halt : Option String}

/-- **Texts are made one by one.** -/
theorem fillEach_eq_mapM (indices : List Nat) :
    fillEach text columns sections halt indices = indices.mapM fun index =>
      (settledText text columns sections halt index).elim (.error (.unresolved index)) .ok := by
  induction indices with
  | nil => rfl
  | cons index rest ih =>
    rw [fillEach, List.mapM_cons, ← ih, ← settledText]
    cases settledText text columns sections halt index with
    | none => rfl
    | some own => cases fillEach text columns sections halt rest <;> rfl

/-- **Texts that are filled in** are what the text settles on for each recipient. -/
theorem fillEach_eq_ok_iff {indices : List Nat} {texts : List String} :
    fillEach text columns sections halt indices = .ok texts ↔
      Forall₂ (fun index own => settledText text columns sections halt index = some own) indices texts := by
  have settled : ∀ (found : Option String) (fault : Fault) (own : String),
      found.elim (.error fault) Except.ok = .ok own ↔ found = some own := by
    intro found fault own
    cases found <;> simp
  rw [fillEach_eq_mapM, mapM_eq_ok_iff]
  simp only [settled]

/-- **Texts that settle** are the texts of the recipients. -/
theorem fillEach_ok {result : Nat → String} (nonempty : ∀ body ∈ sections.pairs, body.1.isEmpty = false)
    (indices : List Nat)
    (settles : ∀ index ∈ indices, settle (entriesOf columns index)
      ((longestFirst sections.pairs).map (·.1)) halt (sections.size + 2) text sections =
        some (result index)) :
    fillEach text columns sections halt indices = .ok (indices.map result) := by
  have all : sections.pairs.filter (fun body => !body.1.isEmpty) = sections.pairs := by
    refine List.filter_eq_self.2 fun body mem => ?_
    rw [nonempty body mem]
    rfl
  refine fillEach_eq_ok_iff.2 (List.forall₂_map_right_iff.2 (List.forall₂_same.2 fun index mem => ?_))
  rw [settledText, all]
  exact settles index mem

end FillEach

/-! ### The entries of a recipient -/

/-- The entries of a recipient are those of the table, under all its keys. -/
theorem entriesOf_pairs {table : Table} (distinct : table.DistinctKeys) (index : Nat) :
    entriesOf table.pairs index = table.keys.map fun key => (key, table.entryOf index key) := by
  rw [entriesOf, Dict.keys, List.map_map]
  refine List.map_congr_left fun column mem => ?_
  have found : table.find? column.1 = some column.2 := (Dict.find?_eq_some_iff distinct).2 mem
  simp [Table.entryOf, found]

section Sketch

variable {ring : Keyring} {pieces : List Piece}

/-- **The atoms of an entry spell it.** -/
theorem spelled_cellAtoms (regular : ring.Regular) (keyed : Keyed ring pieces) (entry : Slot → String)
    {slot : Slot} (mem : slot ∈ placeholderSlots pieces) :
    spelled ring.format (cellAtoms ring entry slot) = entry slot := by
  have plain : spelled ring.format [.plain (entry slot).toList] = entry slot := by
    rw [spelled, spell, spell, List.append_nil]
    exact String.ofList_toList
  rcases slot_cases (mem_placeholderSlots.1 mem).1 with ⟨id, rfl⟩ | ⟨passage, hpassage, rfl | rfl⟩
  · exact plain
  · by_cases chosen : entry passage.choiceSlot = ring.keyOf passage.bodySlot
    · have has : ring.Has passage.bodySlot := keyed.has _ (Keyed.bodySlot_mem hpassage)
      have atoms : cellAtoms ring entry passage.choiceSlot = [.key (ring.numberOf passage.bodySlot)] :=
        if_pos chosen
      rw [atoms, chosen, spelled, spell, spell, List.append_nil, Atom.chars, String.ofList_toList,
        regular.keyOf_eq has]
    · have atoms : cellAtoms ring entry passage.choiceSlot =
          [.plain (entry passage.choiceSlot).toList] := if_neg chosen
      rw [atoms, plain]
  · exact absurd mem not_placeholder_body

/-- **The sections of a sketch spell its sections' texts.** -/
theorem spelled_bodyAtoms (regular : ring.Regular) (keyed : Keyed ring pieces) :
    (bodyAtoms ring pieces).map (fun body => (ring.format.key body.1, spelled ring.format body.2)) =
      (sectionsIn ring pieces).map fun body => (body.1, textOf body.2) := by
  have general : ∀ some ⊆ pieces,
      (bodyAtoms ring some).map (fun body => (ring.format.key body.1, spelled ring.format body.2)) =
        (sectionsIn ring some).map fun body => (body.1, textOf body.2) := by
    intro some sub
    induction some with
    | nil => rfl
    | cons piece rest ih =>
      obtain ⟨mem, others⟩ := List.cons_subset.1 sub
      cases piece with
      | part own => exact ih others
      | passage own =>
        have has : ring.Has own.bodySlot := keyed.has _ (Keyed.bodySlot_mem mem)
        have text : spelled ring.format (own.parts.map (Part.atom ring)) = textOf (own.body ring) := by
          rw [Passage.body, textOf_joinLiterals]
          exact spelled_parts regular fun part hpart => keyed.part mem hpart
        rw [sectionsIn_cons, List.map_append, ← ih others]
        simp [bodyAtoms, Piece.passage?, Piece.sections, regular.keyOf_eq has, text]
  exact general _ (List.Subset.refl _)

/-- **The entry of a recipient** for a slot. -/
def Table.slotEntry (table : Table) (ring : Keyring) (index : Nat) (slot : Slot) : String :=
  table.entryOf index (ring.keyOf slot)

/-- No key is empty if the opening mark is not. -/
theorem KeyFormat.key_isEmpty {format : KeyFormat} (opens : format.opening ≠ "") (number : Nat) :
    (format.key number).isEmpty = false := by
  refine Bool.eq_false_iff.2 fun empty => opens ?_
  have chars := format.toList_key number
  rw [String.isEmpty_iff.1 empty] at chars
  exact String.toList_inj.1 (List.append_eq_nil_iff.1 chars.symm).1

theorem KeyFormat.SeparableBy.opening_ne_empty {format : KeyFormat} {mark : Char}
    (h : format.SeparableBy mark) : format.opening ≠ "" := by
  intro empty
  have chars := congrArg String.toList (h.opening.symm.trans empty)
  rw [String.toList_singleton] at chars
  cases chars

namespace Sketches

variable {outline : Outline} (h : Sketches ring outline pieces)

include h

/-- The keys of a table are those of the slots of placeholders. -/
theorem table_keys {table : Table} (keys : table.keys = outline.producers.keys) :
    table.keys.Perm ((placeholderSlots pieces).map ring.keyOf) := by
  rw [keys, placeholderSlots, ← keys_producersIn]
  exact h.producers.map _

/-- Columns of a table have keys, if keys have an opening mark. -/
theorem table_nonempty {table : Table} (keys : table.keys = outline.producers.keys)
    (opens : ring.format.opening ≠ "") : ∀ column ∈ table.pairs, column.1.isEmpty = false := by
  intro column mem
  have key : column.1 ∈ table.keys := List.mem_map.2 ⟨column, mem, rfl⟩
  obtain ⟨slot, hslot, same⟩ := List.mem_map.1 ((h.table_keys keys).mem_iff.1 key)
  rw [← same, h.regular.keyOf_eq (h.keyed.has slot (mem_placeholderSlots.1 hslot).1)]
  exact KeyFormat.key_isEmpty opens _

/-- **What is filled in for a recipient** are the entries of the placeholders. -/
theorem perm_entries {table : Table} (keys : table.keys = outline.producers.keys)
    (opens : ring.format.opening ≠ "") (index : Nat) :
    (entriesOf (longestFirst table.pairs) index).Perm
      ((placeholderSlots pieces).map fun slot => (ring.keyOf slot, table.slotEntry ring index slot)) := by
  have distinct : table.DistinctKeys := by
    rw [Dict.DistinctKeys, keys]
    exact h.distinct_producers
  have order : (entriesOf (longestFirst table.pairs) index).Perm (entriesOf table.pairs index) :=
    (perm_longestFirst (h.table_nonempty keys opens)).map _
  rw [entriesOf_pairs distinct] at order
  have slots := order.trans ((h.table_keys keys).map fun key => (key, table.entryOf index key))
  rwa [List.map_map] at slots

/-- The entries are spelled by those of the sketch. -/
theorem entries_spelled {table : Table} (keys : table.keys = outline.producers.keys)
    (opens : ring.format.opening ≠ "") (index : Nat) :
    ∃ values : List (Nat × List Atom), values.Perm (cellValues ring (table.slotEntry ring index) pieces) ∧
      entriesOf (longestFirst table.pairs) index =
        values.map fun pair => (ring.format.key pair.1, spelled ring.format pair.2) := by
  have slots := h.perm_entries keys opens index
  have spelling : (placeholderSlots pieces).map
      (fun slot => (ring.keyOf slot, table.slotEntry ring index slot)) =
      (cellValues ring (table.slotEntry ring index) pieces).map
        fun pair => (ring.format.key pair.1, spelled ring.format pair.2) := by
    rw [cellValues, List.map_map]
    refine List.map_congr_left fun slot mem => ?_
    have has := h.keyed.has slot (mem_placeholderSlots.1 mem).1
    have text := spelled_cellAtoms h.regular h.keyed (table.slotEntry ring index) mem
    exact Prod.ext (h.regular.keyOf_eq has) text.symm
  rw [spelling] at slots
  obtain ⟨values, same, perm⟩ := exists_map_of_perm slots
  exact ⟨values, perm, same⟩

/-- **The sections' texts** are spelled by the sections of the sketch. -/
theorem sections_spelled :
    ∃ bodies : List (Nat × List Atom), bodies.Perm (bodyAtoms ring pieces) ∧
      outline.sectionTexts.pairs =
        bodies.map fun body => (ring.format.key body.1, spelled ring.format body.2) := by
  have order := h.sections.map fun body => (body.1, textOf body.2)
  rw [← spelled_bodyAtoms h.regular h.keyed] at order
  obtain ⟨bodies, same, perm⟩ := exists_map_of_perm order
  exact ⟨bodies, perm, same⟩

/-- Sections have keys, if keys have an opening mark. -/
theorem sections_nonempty (opens : ring.format.opening ≠ "") :
    ∀ body ∈ outline.sectionTexts.pairs, body.1.isEmpty = false := by
  obtain ⟨bodies, -, hbodies⟩ := h.sections_spelled
  intro body mem
  rw [hbodies] at mem
  obtain ⟨own, -, rfl⟩ := List.mem_map.1 mem
  exact KeyFormat.key_isEmpty opens own.1

/-- The keys of the sections are those of the slots of bodies, in some order. -/
theorem section_numbers (opens : ring.format.opening ≠ "") :
    ∃ numbers : List Nat, (longestFirst outline.sectionTexts.pairs).map (·.1) = numbers.map ring.format.key ∧
      numbers.Perm ((bodySlotsIn pieces).map ring.numberOf) := by
  obtain ⟨bodies, order, hbodies⟩ := h.sections_spelled
  have keys : ((longestFirst outline.sectionTexts.pairs).map (·.1)).Perm
      (((bodySlotsIn pieces).map ring.numberOf).map ring.format.key) := by
    refine ((perm_longestFirst (h.sections_nonempty opens)).map _).trans ?_
    rw [hbodies, List.map_map, bodySlotsIn, List.map_map, List.map_map]
    refine (order.map _).trans (.of_eq ?_)
    rw [bodyAtoms, List.map_map]
    rfl
  exact exists_map_of_perm keys

/-- The mark where all output ends is the key of its number. -/
theorem halt_key : outline.halt = (haltNumber ring pieces).map ring.format.key := by
  rw [h.halt, haltNumber]
  split
  · rename_i halts
    rw [h.regular.keyOf_eq (h.keyed.hasHalt halts)]
    rfl
  · rfl

/-- **The texts of the recipients** are what the sketch comes to with their entries. -/
theorem strings {mark : Char} (separable : ring.format.SeparableBy mark)
    (sound : ∀ piece ∈ pieces, piece.Sound ring.format) {table : Table} {count : Nat}
    (keys : table.keys = outline.producers.keys)
    (lengths : ∀ column ∈ table.pairs, column.2.length = count)
    (clean : ∀ index < count, CleanEntries mark ring pieces (table.slotEntry ring index)) :
    outline.strings table count = .ok ((List.range count).map fun index =>
      (fillPieces ring (table.slotEntry ring index) pieces).1) := by
  have opens := separable.opening_ne_empty
  obtain ⟨bodies, bodies_order, hbodies⟩ := h.sections_spelled
  obtain ⟨numbers, hnumbers, keys_order⟩ := h.section_numbers opens
  rw [Outline.strings, fill, checkColumns_ok lengths]
  refine fillEach_ok (h.sections_nonempty opens) _ fun index mem => ?_
  obtain ⟨values, values_order, hvalues⟩ := h.entries_spelled keys opens index
  have prepared : Prepared mark ring pieces (table.slotEntry ring index) values numbers bodies :=
    { regular := h.regular
      separable := separable
      keyed := h.keyed
      sound := sound
      clean := clean index (List.mem_range.1 mem)
      values_order := values_order
      keys_order := keys_order
      bodies_order := bodies_order }
  rw [hvalues, hnumbers, h.halt_key]
  exact prepared.settle _ (congrArg textOf h.fragments) hbodies

end Sketches

end Sketch

end Outline
end MailMerge
