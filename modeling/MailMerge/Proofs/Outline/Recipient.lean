/-
# The text of one recipient

With the entries of one recipient a sketch becomes a text: outputs give way to their
entries, a passage is shown where its entry is the key of its section, and the text
ends where all output does. Where keys are told apart, this is the text that
replacing keys comes to.
-/

import MailMerge.Proofs.Outline.Passes
import MailMerge.Proofs.Outline.Sound

namespace MailMerge
namespace Outline

/-- **A text, and whether all output has ended in it.** -/
abbrev Filled := String × Bool

/-- What follows a text, if output has not ended. -/
def Filled.andThen (first second : Filled) : Filled :=
  if first.2 then first else (first.1 ++ second.1, second.2)

namespace Filled

@[simp] theorem nil_andThen (filled : Filled) : Filled.andThen ("", false) filled = filled := by
  simp [andThen]

@[simp] theorem andThen_nil (filled : Filled) : filled.andThen ("", false) = filled := by
  obtain ⟨text, ends⟩ := filled
  cases ends <;> simp [andThen]

theorem andThen_assoc (first second third : Filled) :
    (first.andThen second).andThen third = first.andThen (second.andThen third) := by
  obtain ⟨text, ends⟩ := first
  obtain ⟨more, stops⟩ := second
  cases ends <;> cases stops <;> simp [andThen, String.append_assoc]

end Filled

section Fill

variable (ring : Keyring) (entry : Slot → String)

/-- A part with its entry. -/
def fillPart : Part → Filled
  | .literal text => (text, false)
  | .output source => (entry (.output source.id), false)
  | .halt => ("", true)

/-- **Parts with their entries,** up to the end of all output. -/
def fillParts : List Part → Filled
  | [] => ("", false)
  | part :: rest => (fillPart entry part).andThen (fillParts rest)

/-- **A passage** is shown if its entry is the key of its section; otherwise its entry is. -/
def fillPassage (passage : Passage) : Filled :=
  if entry passage.choiceSlot = ring.keyOf passage.bodySlot then fillParts entry passage.parts
  else (entry passage.choiceSlot, false)

/-- A piece with its entry. -/
def fillPiece : Piece → Filled
  | .part own => fillPart entry own
  | .passage own => fillPassage ring entry own

/-- **A sketch with its entries,** up to the end of all output. -/
def fillPieces : List Piece → Filled
  | [] => ("", false)
  | piece :: rest => (fillPiece ring entry piece).andThen (fillPieces rest)

end Fill

/-! ### Spelling a sketch -/

section Spelling

variable (ring : Keyring)

/-- The atom of a part. -/
def Part.atom : Part → Atom
  | .literal text => .plain text.toList
  | .output source => .key (ring.numberOf (.output source.id))
  | .halt => .key (ring.numberOf .halt)

/-- The atom of a piece. -/
def Piece.atom : Piece → Atom
  | .part own => own.atom ring
  | .passage own => .key (ring.numberOf own.choiceSlot)

/-- **The atoms of an entry:** the key of a section, or plain text. -/
def cellAtoms (entry : Slot → String) (slot : Slot) : List Atom :=
  match slot with
  | .choice branch run =>
    if entry slot = ring.keyOf (.body branch run) then [.key (ring.numberOf (.body branch run))]
    else [.plain (entry slot).toList]
  | _ => [.plain (entry slot).toList]

/-- The atom of a part with its entry. -/
def Part.filled (entry : Slot → String) : Part → Atom
  | .literal text => .plain text.toList
  | .output source => .plain (entry (.output source.id)).toList
  | .halt => .key (ring.numberOf .halt)

/-- The number of the key at which all output stops, if it can come to that. -/
def haltNumber (pieces : List Piece) : Option Nat :=
  if haltsIn pieces then some (ring.numberOf .halt) else none

/-- The slots of placeholders, in the order in which they are registered. -/
def placeholderSlots (pieces : List Piece) : List Slot :=
  (slotsIn pieces).filter fun slot => !slot.isBody

/-- The entries of a recipient, as atoms under numbers. -/
def cellValues (entry : Slot → String) (pieces : List Piece) : List (Nat × List Atom) :=
  (placeholderSlots pieces).map fun slot => (ring.numberOf slot, cellAtoms ring entry slot)

/-- The sections of a sketch, as atoms under numbers. -/
def bodyAtoms (pieces : List Piece) : List (Nat × List Atom) :=
  (pieces.filterMap Piece.passage?).map fun passage =>
    (ring.numberOf passage.bodySlot, passage.parts.map (Part.atom ring))

end Spelling

/-- **What atoms come to in the end:** the text up to the key at which all output
stops, and whether that key was among them. -/
def endOf (format : KeyFormat) (halt : Option Nat) (atoms : List Atom) : Filled :=
  (spelled format (cutAtoms halt atoms), halt.any fun number => decide (.key number ∈ atoms))

theorem spelled_append (format : KeyFormat) (first second : List Atom) :
    spelled format (first ++ second) = spelled format first ++ spelled format second := by
  rw [spelled, spell_append, String.ofList_append]
  rfl

theorem spelled_cons (format : KeyFormat) (atom : Atom) (rest : List Atom) :
    spelled format (atom :: rest) = spelled format [atom] ++ spelled format rest :=
  spelled_append format [atom] rest

theorem endOf_append (format : KeyFormat) (halt : Option Nat) (first second : List Atom) :
    endOf format halt (first ++ second) =
      (endOf format halt first).andThen (endOf format halt second) := by
  cases halt with
  | none => simp [endOf, cutAtoms, Filled.andThen, spelled_append]
  | some number =>
    by_cases mem : Atom.key number ∈ first
    · have stops : (first ++ second).takeWhile (fun atom => atom != .key number) =
          first.takeWhile fun atom => atom != .key number := by
        rw [List.takeWhile_append, if_neg]
        intro length
        have whole : first.takeWhile (fun atom => atom != .key number) = first :=
          (List.takeWhile_prefix _).eq_of_length length
        simpa using List.takeWhile_eq_self_iff.1 whole _ mem
      simp [endOf, cutAtoms, Filled.andThen, mem, stops]
    · have all : ∀ atom ∈ first, (atom != .key number) = true := fun atom found =>
        bne_iff_ne.2 fun same => mem (same ▸ found)
      simp [endOf, cutAtoms, Filled.andThen, mem, List.takeWhile_append_of_pos all, spelled_append,
        List.takeWhile_eq_self_iff.2 all]

/-- Joined text is the same text. -/
theorem textOf_joinLiterals (fragments : List Fragment) : textOf (joinLiterals fragments) = textOf fragments := by
  rw [joinLiterals, textOf_foldl_pushFragment]
  simp [textOf]

section Sketch

variable {ring : Keyring} {pieces : List Piece}

theorem Part.spelled_atom (regular : ring.Regular) {part : Part}
    (has : ∀ slot ∈ part.slots, ring.Has slot) (hasHalt : part.isHalt = true → ring.Has .halt) :
    spelled ring.format [part.atom ring] = (part.fragment ring).text := by
  rw [spelled, spell, spell, List.append_nil]
  cases part with
  | literal text => exact String.ofList_toList
  | output source =>
    rw [Part.atom, Atom.chars, ← regular.keyOf_eq (has _ (List.mem_singleton_self _)), String.ofList_toList]
    rfl
  | halt =>
    rw [Part.atom, Atom.chars, ← regular.keyOf_eq (hasHalt rfl), String.ofList_toList]
    rfl

/-- **The atoms of parts spell their fragments.** -/
theorem spelled_parts (regular : ring.Regular) {parts : List Part}
    (keyed : ∀ part ∈ parts, (∀ slot ∈ part.slots, ring.Has slot) ∧ (part.isHalt = true → ring.Has .halt)) :
    spelled ring.format (parts.map (Part.atom ring)) = textOf (parts.map (Part.fragment ring)) := by
  induction parts with
  | nil => rfl
  | cons part rest ih =>
    obtain ⟨own, others⟩ := List.forall_mem_cons.1 keyed
    rw [List.map_cons, spelled_cons, part.spelled_atom regular own.1 own.2, ih others]
    rfl

/-- **The atoms of a sketch spell its fragments.** -/
theorem spelled_pieces (regular : ring.Regular) (keyed : Keyed ring pieces) :
    spelled ring.format (pieces.map (Piece.atom ring)) = textOf (fragmentsOf ring pieces) := by
  rw [fragmentsOf, textOf_joinLiterals]
  have general : ∀ some : List Piece, some ⊆ pieces →
      spelled ring.format (some.map (Piece.atom ring)) = textOf (some.map (Piece.fragment ring)) := by
    intro some sub
    induction some with
    | nil => rfl
    | cons piece rest ih =>
      obtain ⟨mem, sub⟩ := List.cons_subset.1 sub
      rw [List.map_cons, spelled_cons, ih sub]
      refine congrArg (· ++ _) ?_
      cases piece with
      | part own =>
        exact own.spelled_atom regular (fun slot hslot => keyed.piece_slots mem slot hslot) fun halt =>
          keyed.hasHalt (List.any_eq_true.2 ⟨_, mem, halt⟩)
      | passage own =>
        have has := keyed.piece_slots mem own.choiceSlot List.mem_cons_self
        rw [spelled, spell, spell, List.append_nil, Piece.atom, Atom.chars, ← regular.keyOf_eq has,
          String.ofList_toList]
        rfl
  exact general pieces (List.Subset.refl _)

/-! ### Filling in a sketch -/

/-- **Entries in which no key can be mistaken:** an output's entry is harmless, and so
is a choice's, unless it is the key of the section. -/
structure CleanEntries (mark : Char) (ring : Keyring) (pieces : List Piece) (entry : Slot → String) :
    Prop where
  output : ∀ id, .output id ∈ slotsIn pieces → harmless mark (entry (.output id)).toList = true
  choice : ∀ passage, .passage passage ∈ pieces →
    entry passage.choiceSlot = ring.keyOf passage.bodySlot ∨
      harmless mark (entry passage.choiceSlot).toList = true

/-- The slots of the sections of a sketch. -/
def bodySlotsIn (pieces : List Piece) : List Slot :=
  (pieces.filterMap Piece.passage?).map Passage.bodySlot

/-- **What is filled in for a recipient:** the entries, the keys of the sections and
the sections, each in some order. -/
structure Prepared (mark : Char) (ring : Keyring) (pieces : List Piece) (entry : Slot → String)
    (values : List (Nat × List Atom)) (keys : List Nat) (bodies : List (Nat × List Atom)) : Prop where
  regular : ring.Regular
  separable : ring.format.SeparableBy mark
  keyed : Keyed ring pieces
  sound : ∀ piece ∈ pieces, piece.Sound ring.format
  clean : CleanEntries mark ring pieces entry
  values_order : values.Perm (cellValues ring entry pieces)
  keys_order : keys.Perm ((bodySlotsIn pieces).map ring.numberOf)
  bodies_order : bodies.Perm (bodyAtoms ring pieces)

theorem mem_placeholderSlots {slot : Slot} :
    slot ∈ placeholderSlots pieces ↔ slot ∈ slotsIn pieces ∧ slot.isBody = false := by
  simp [placeholderSlots]

theorem mem_bodySlotsIn {slot : Slot} :
    slot ∈ bodySlotsIn pieces ↔ ∃ passage, .passage passage ∈ pieces ∧ slot = passage.bodySlot := by
  simp only [bodySlotsIn, List.mem_map, List.mem_filterMap]
  constructor
  · rintro ⟨passage, ⟨piece, mem, same⟩, rfl⟩
    cases piece with
    | part own => cases same
    | passage own =>
      obtain rfl := Option.some.inj same
      exact ⟨own, mem, rfl⟩
  · rintro ⟨passage, mem, rfl⟩
    exact ⟨passage, ⟨_, mem, rfl⟩, rfl⟩

theorem bodySlotsIn_sublist (pieces : List Piece) : (bodySlotsIn pieces).Sublist (slotsIn pieces) := by
  induction pieces with
  | nil => exact .refl _
  | cons piece rest ih =>
    cases piece with
    | part own => exact ih.trans (List.sublist_append_right ..)
    | passage own =>
      exact ((ih.trans (List.sublist_append_right (own.parts.flatMap Part.slots) _)).cons_cons _).cons _

theorem not_placeholder_body {passage : Passage} : passage.bodySlot ∉ placeholderSlots pieces :=
  fun mem => Bool.noConfusion (mem_placeholderSlots.1 mem).2

theorem choice_placeholder {passage : Passage} (mem : .passage passage ∈ pieces) :
    passage.choiceSlot ∈ placeholderSlots pieces :=
  mem_placeholderSlots.2 ⟨List.mem_flatMap.2 ⟨_, mem, List.mem_cons_self⟩, rfl⟩

/-- **A slot of a sketch** is that of an output, or one of the two of a passage. -/
theorem slot_cases {slot : Slot} (mem : slot ∈ slotsIn pieces) :
    (∃ id, slot = .output id) ∨ ∃ passage, .passage passage ∈ pieces ∧
      (slot = passage.choiceSlot ∨ slot = passage.bodySlot) := by
  have ofPart : ∀ part : Part, slot ∈ part.slots → ∃ id, slot = .output id := by
    intro part found
    cases part with
    | output source => exact ⟨source.id, List.mem_singleton.1 found⟩
    | _ => exact (List.not_mem_nil found).elim
  obtain ⟨piece, hpiece, found⟩ := List.mem_flatMap.1 mem
  cases piece with
  | part own => exact .inl (ofPart own found)
  | passage own =>
    rcases List.mem_cons.1 found with same | found
    · exact .inr ⟨own, hpiece, .inl same⟩
    · rcases List.mem_cons.1 found with same | found
      · exact .inr ⟨own, hpiece, .inr same⟩
      · obtain ⟨part, -, hpart⟩ := List.mem_flatMap.1 found
        exact .inl (ofPart part hpart)

namespace Prepared

variable {mark : Char} {entry : Slot → String} {values : List (Nat × List Atom)} {keys : List Nat}
  {bodies : List (Nat × List Atom)} (h : Prepared mark ring pieces entry values keys bodies)

include h

theorem values_numbers :
    (values.map (·.1)).Perm ((placeholderSlots pieces).map ring.numberOf) := by
  have := h.values_order.map Prod.fst
  rwa [cellValues, List.map_map] at this

/-- Slots of the sketch and the end of all output have different numbers. -/
theorem slot_eq {first second : Slot} (hfirst : ring.Has first) (hsecond : ring.Has second)
    (same : ring.numberOf first = ring.numberOf second) : first = second :=
  h.regular.numberOf_injective hfirst hsecond same

theorem nodup_numbers {slots : List Slot} (sub : slots.Sublist (slotsIn pieces)) :
    (slots.map ring.numberOf).Nodup := by
  rw [List.Nodup, List.pairwise_map]
  refine (sub.nodup h.keyed.distinct).imp_of_mem fun {first second} hfirst hsecond different same => ?_
  exact different (h.slot_eq (h.keyed.has _ (sub.subset hfirst)) (h.keyed.has _ (sub.subset hsecond)) same)

/-- The entry of a placeholder is looked up under its number. -/
theorem lookup_value {slot : Slot} (mem : slot ∈ placeholderSlots pieces) :
    values.lookup (ring.numberOf slot) = some (cellAtoms ring entry slot) := by
  have distinct := h.values_numbers.nodup_iff.2 (h.nodup_numbers List.filter_sublist)
  exact lookup_of_mem distinct (h.values_order.mem_iff.2 (List.mem_map.2 ⟨slot, mem, rfl⟩))

/-- A slot that is no placeholder has no entry. -/
theorem not_mem_values {slot : Slot} (has : ring.Has slot) (none : slot ∉ placeholderSlots pieces) :
    ring.numberOf slot ∉ values.map (·.1) := by
  intro mem
  obtain ⟨other, hother, same⟩ := List.mem_map.1 (h.values_numbers.mem_iff.1 mem)
  have hslots := (mem_placeholderSlots.1 hother).1
  exact none (h.slot_eq (h.keyed.has _ hslots) has same ▸ hother)

theorem body_has {passage : Passage} (mem : .passage passage ∈ pieces) : ring.Has passage.bodySlot :=
  h.keyed.has _ (bodySlotsIn_sublist pieces |>.subset (mem_bodySlotsIn.2 ⟨passage, mem, rfl⟩))

/-- The entry of a choice is the key of its section or harmless text. -/
theorem cellAtoms_choice {passage : Passage} (mem : .passage passage ∈ pieces) :
    cellAtoms ring entry passage.choiceSlot = [.key (ring.numberOf passage.bodySlot)] ∧
        entry passage.choiceSlot = ring.keyOf passage.bodySlot ∨
      cellAtoms ring entry passage.choiceSlot = [.plain (entry passage.choiceSlot).toList] ∧
        entry passage.choiceSlot ≠ ring.keyOf passage.bodySlot ∧
          harmless mark (entry passage.choiceSlot).toList = true := by
  by_cases chosen : entry passage.choiceSlot = ring.keyOf passage.bodySlot
  · exact .inl ⟨if_pos chosen, chosen⟩
  · exact .inr ⟨if_neg chosen, chosen, (h.clean.choice passage mem).resolve_left chosen⟩

/-- What an entry holds: harmless text, or the key of a section. -/
theorem mem_cellAtoms {slot : Slot} (mem : slot ∈ placeholderSlots pieces) {atom : Atom}
    (found : atom ∈ cellAtoms ring entry slot) :
    (∃ text, atom = .plain text ∧ harmless mark text = true) ∨
      ∃ passage, .passage passage ∈ pieces ∧ atom = .key (ring.numberOf passage.bodySlot) := by
  have hslot := (mem_placeholderSlots.1 mem).1
  rcases slot_cases hslot with ⟨id, rfl⟩ | ⟨passage, hpassage, rfl | rfl⟩
  · obtain rfl := List.mem_singleton.1 found
    exact .inl ⟨_, rfl, h.clean.output id hslot⟩
  · rcases h.cellAtoms_choice hpassage with ⟨atoms, -⟩ | ⟨atoms, -, clean⟩
    · rw [atoms] at found
      exact .inr ⟨passage, hpassage, List.mem_singleton.1 found⟩
    · rw [atoms] at found
      exact .inl ⟨_, List.mem_singleton.1 found, clean⟩
  · exact absurd mem not_placeholder_body

/-- **The entries can be put in the place of their keys.** -/
theorem entries : Entries mark values where
  pos pair mem := by
    obtain ⟨slot, hslot, rfl⟩ := List.mem_map.1 (h.values_order.mem_iff.1 mem)
    exact h.regular.numberOf_pos (h.keyed.has _ (mem_placeholderSlots.1 hslot).1)
  sound pair mem atom found := by
    obtain ⟨slot, hslot, rfl⟩ := List.mem_map.1 (h.values_order.mem_iff.1 mem)
    rcases h.mem_cellAtoms hslot found with ⟨text, rfl, clean⟩ | ⟨passage, hpassage, rfl⟩
    · exact clean
    · exact h.regular.numberOf_pos (h.body_has hpassage)
  closed pair mem number found := by
    obtain ⟨slot, hslot, rfl⟩ := List.mem_map.1 (h.values_order.mem_iff.1 mem)
    rcases h.mem_cellAtoms hslot found with ⟨text, same, -⟩ | ⟨passage, hpassage, same⟩
    · cases same
    · obtain rfl := Atom.key.inj same
      exact h.not_mem_values (h.body_has hpassage) not_placeholder_body

/-- The part of a passage has its keys. -/
theorem part_keyed {passage : Passage} (mem : .passage passage ∈ pieces) :
    ∀ part ∈ passage.parts, (∀ slot ∈ part.slots, ring.Has slot) ∧
      (part.isHalt = true → ring.Has .halt) := fun _ hpart => h.keyed.part mem hpart

/-- The atom of a part is sound. -/
theorem sound_part {part : Part} (has : ∀ slot ∈ part.slots, ring.Has slot)
    (hasHalt : part.isHalt = true → ring.Has .halt) (sound : part.Sound ring.format) :
    (part.atom ring).Sound mark := by
  cases part with
  | literal text => exact h.separable.harmless_of_not_contains sound.2
  | output source => exact h.regular.numberOf_pos (has _ (List.mem_singleton_self _))
  | halt => exact h.regular.numberOf_pos (hasHalt rfl)

theorem sound_pieces : ∀ atom ∈ pieces.map (Piece.atom ring), atom.Sound mark := by
  intro atom found
  obtain ⟨piece, mem, rfl⟩ := List.mem_map.1 found
  cases piece with
  | part own =>
    refine h.sound_part (fun slot hslot => h.keyed.piece_slots mem slot hslot) (fun halt => ?_)
      (h.sound _ mem).2
    exact h.keyed.hasHalt (List.any_eq_true.2 ⟨_, mem, halt⟩)
  | passage own =>
    exact h.regular.numberOf_pos (h.keyed.piece_slots mem own.choiceSlot List.mem_cons_self)

theorem sound_bodies : BodiesSound mark bodies := by
  intro body hbody atom found
  obtain ⟨passage, hpassage, rfl⟩ := List.mem_map.1 (h.bodies_order.mem_iff.1 hbody)
  obtain ⟨piece, mem, same⟩ := List.mem_filterMap.1 hpassage
  cases piece with
  | part own => cases same
  | passage own =>
    obtain rfl := Option.some.inj same
    obtain ⟨part, hpart, rfl⟩ := List.mem_map.1 found
    obtain ⟨has, hasHalt⟩ := h.part_keyed mem part hpart
    exact h.sound_part has hasHalt (h.sound _ mem part hpart)

/-- A part is filled in with its entry; the end of all output stays. -/
theorem fill_part (part : Part) (placeholder : ∀ slot ∈ part.slots, slot ∈ slotsIn pieces)
    (hasHalt : part.isHalt = true → ring.Has .halt) :
    fillAtoms values [part.atom ring] = [part.filled ring entry] := by
  cases part with
  | literal text => rfl
  | output source =>
    have mem : Slot.output source.id ∈ placeholderSlots pieces :=
      mem_placeholderSlots.2 ⟨placeholder _ (List.mem_singleton_self _), rfl⟩
    simp [Part.atom, Part.filled, fillAtoms, h.lookup_value mem, cellAtoms]
  | halt =>
    refine fillAtoms_of_none fun number found => ?_
    obtain rfl := Atom.key.inj (List.mem_singleton.1 found)
    refine h.not_mem_values (hasHalt rfl) fun mem => ?_
    rcases slot_cases (mem_placeholderSlots.1 mem).1 with ⟨id, same⟩ | ⟨passage, -, same | same⟩ <;>
      cases same

/-- **A passage's parts are filled in** with their entries. -/
theorem fill_parts {passage : Passage} (mem : .passage passage ∈ pieces) :
    fillAtoms values (passage.parts.map (Part.atom ring)) =
      passage.parts.map (Part.filled ring entry) := by
  have general : ∀ parts ⊆ passage.parts, fillAtoms values (parts.map (Part.atom ring)) =
      parts.map (Part.filled ring entry) := by
    intro parts sub
    induction parts with
    | nil => rfl
    | cons part rest ih =>
      obtain ⟨hpart, sub⟩ := List.cons_subset.1 sub
      have slots : ∀ slot ∈ part.slots, slot ∈ slotsIn pieces := fun slot hslot =>
        List.mem_flatMap.2 ⟨_, mem, List.mem_cons_of_mem _ (List.mem_cons_of_mem _
          (List.mem_flatMap.2 ⟨part, hpart, hslot⟩))⟩
      rw [List.map_cons, fillAtoms_atom, ih sub, h.fill_part part slots (h.part_keyed mem part hpart).2]
      rfl
  exact general _ (List.Subset.refl _)

/-- The sections with their entries, under their numbers. -/
theorem filled_bodies :
    (bodies.map fun body => (body.1, fillAtoms values body.2)).Perm
      ((pieces.filterMap Piece.passage?).map fun passage =>
        (ring.numberOf passage.bodySlot, passage.parts.map (Part.filled ring entry))) := by
  refine (h.bodies_order.map _).trans (.of_eq ?_)
  rw [bodyAtoms, List.map_map]
  refine List.map_congr_left fun passage hpassage => ?_
  obtain ⟨piece, mem, same⟩ := List.mem_filterMap.1 hpassage
  cases piece with
  | part own => cases same
  | passage own =>
    obtain rfl := Option.some.inj same
    exact Prod.ext rfl (h.fill_parts mem)

/-- **No section holds the key of a section** once entries are filled in. -/
theorem flat : ∀ body ∈ bodies.map (fun body => (body.1, fillAtoms values body.2)),
    ∀ number ∈ keys, .key number ∉ body.2 := by
  intro body hbody number hnumber found
  obtain ⟨passage, hpassage, rfl⟩ := List.mem_map.1 (h.filled_bodies.mem_iff.1 hbody)
  obtain ⟨piece, mem, same⟩ := List.mem_filterMap.1 hpassage
  obtain ⟨slot, hslot, rfl⟩ := List.mem_map.1 (h.keys_order.mem_iff.1 hnumber)
  obtain ⟨other, hother, rfl⟩ := mem_bodySlotsIn.1 hslot
  obtain ⟨part, hpart, atom⟩ := List.mem_map.1 found
  cases piece with
  | part own => cases same
  | passage own =>
    obtain rfl := Option.some.inj same
    cases part with
    | halt =>
      have hasHalt := (h.part_keyed mem _ hpart).2 rfl
      cases h.slot_eq hasHalt (h.body_has hother) (Atom.key.inj atom)
    | _ => cases atom

/-- The section of a passage is looked up under its number. -/
theorem lookup_section {passage : Passage} (mem : .passage passage ∈ pieces) :
    (sectionValues keys (bodies.map fun body => (body.1, fillAtoms values body.2))).lookup
      (ring.numberOf passage.bodySlot) = some (passage.parts.map (Part.filled ring entry)) := by
  have numbers := h.nodup_numbers (bodySlotsIn_sublist pieces)
  have hkeys : (sectionValues keys (bodies.map fun body => (body.1, fillAtoms values body.2))).map
      (·.1) = keys := by
    rw [sectionValues, List.map_map]
    exact List.map_id _
  have hbodies : ((bodies.map fun body => (body.1, fillAtoms values body.2)).map (·.1)).Perm
      ((bodySlotsIn pieces).map ring.numberOf) := by
    refine (h.filled_bodies.map Prod.fst).trans (.of_eq ?_)
    rw [bodySlotsIn, List.map_map, List.map_map]
    rfl
  have body : (bodies.map fun body => (body.1, fillAtoms values body.2)).lookup
      (ring.numberOf passage.bodySlot) = some (passage.parts.map (Part.filled ring entry)) := by
    refine lookup_of_mem (hbodies.nodup_iff.2 numbers) (h.filled_bodies.mem_iff.2 ?_)
    exact List.mem_map.2 ⟨passage, List.mem_filterMap.2 ⟨_, mem, rfl⟩, rfl⟩
  have key : ring.numberOf passage.bodySlot ∈ keys :=
    h.keys_order.mem_iff.2 (List.mem_map.2 ⟨_, mem_bodySlotsIn.2 ⟨passage, mem, rfl⟩, rfl⟩)
  refine lookup_of_mem (hkeys.symm ▸ h.keys_order.nodup_iff.2 numbers) ?_
  exact List.mem_map.2 ⟨_, key, by rw [body]; rfl⟩

/-- The key at which all output stops has no section. -/
theorem halt_not_section (hasHalt : ring.Has .halt) :
    ring.numberOf .halt ∉ (sectionValues keys
      (bodies.map fun body => (body.1, fillAtoms values body.2))).map (·.1) := by
  intro mem
  rw [sectionValues, List.map_map] at mem
  obtain ⟨number, hnumber, same⟩ := List.mem_map.1 mem
  obtain ⟨slot, hslot, rfl⟩ := List.mem_map.1 (h.keys_order.mem_iff.1 hnumber)
  obtain ⟨passage, hpassage, rfl⟩ := mem_bodySlotsIn.1 hslot
  cases h.slot_eq (h.body_has hpassage) hasHalt same

omit h in
/-- **What a part comes to** is what it is filled in to. -/
theorem endOf_part {part : Part} (halts : part.isHalt = true → haltsIn pieces = true) :
    endOf ring.format (haltNumber ring pieces) [part.filled ring entry] = fillPart entry part := by
  cases part with
  | literal text =>
    cases own : haltsIn pieces <;>
      simp [endOf, haltNumber, own, Part.filled, cutAtoms, fillPart, spelled, spell, Atom.chars]
  | output source =>
    cases own : haltsIn pieces <;>
      simp [endOf, haltNumber, own, Part.filled, cutAtoms, fillPart, spelled, spell, Atom.chars]
  | halt => simp [endOf, haltNumber, halts rfl, Part.filled, cutAtoms, fillPart, spelled, spell]

omit h in
/-- **What a passage's parts come to.** -/
theorem endOf_parts {passage : Passage} (mem : .passage passage ∈ pieces) :
    endOf ring.format (haltNumber ring pieces) (passage.parts.map (Part.filled ring entry)) =
      fillParts entry passage.parts := by
  have general : ∀ parts ⊆ passage.parts,
      endOf ring.format (haltNumber ring pieces) (parts.map (Part.filled ring entry)) =
        fillParts entry parts := by
    intro parts sub
    induction parts with
    | nil => cases own : haltsIn pieces <;> simp [endOf, haltNumber, own, cutAtoms, fillParts, spelled, spell]
    | cons part rest ih =>
      obtain ⟨hpart, sub⟩ := List.cons_subset.1 sub
      have halts : part.isHalt = true → haltsIn pieces = true := fun halt =>
        List.any_eq_true.2 ⟨_, mem, List.any_eq_true.2 ⟨part, hpart, halt⟩⟩
      rw [List.map_cons, ← List.singleton_append, endOf_append, endOf_part halts, ih sub, fillParts]
  exact general _ (List.Subset.refl _)

/-- **What a piece comes to.** -/
theorem endOf_piece {piece : Piece} (mem : piece ∈ pieces) :
    endOf ring.format (haltNumber ring pieces)
        (fillAtoms (sectionValues keys (bodies.map fun body => (body.1, fillAtoms values body.2)))
          (fillAtoms values [piece.atom ring])) = fillPiece ring entry piece := by
  cases piece with
  | part own =>
    have halts : own.isHalt = true → haltsIn pieces = true := fun halt =>
      List.any_eq_true.2 ⟨_, mem, halt⟩
    have filled := h.fill_part own
      (fun slot hslot => List.mem_flatMap.2 ⟨_, mem, hslot⟩) fun halt => h.keyed.hasHalt (halts halt)
    have kept : fillAtoms (sectionValues keys (bodies.map fun body => (body.1, fillAtoms values body.2)))
        [own.filled ring entry] = [own.filled ring entry] := by
      refine fillAtoms_of_none fun number found => ?_
      cases own with
      | halt =>
        obtain rfl := Atom.key.inj (List.mem_singleton.1 found)
        exact h.halt_not_section (h.keyed.hasHalt (halts rfl))
      | _ => cases List.mem_singleton.1 found
    rw [Piece.atom, filled, kept]
    exact endOf_part halts
  | passage own =>
    have value : fillAtoms values [Piece.atom ring (.passage own)] =
        cellAtoms ring entry own.choiceSlot := by
      simp [Piece.atom, fillAtoms, h.lookup_value (choice_placeholder mem)]
    rw [value, fillPiece, fillPassage]
    rcases h.cellAtoms_choice mem with ⟨atoms, chosen⟩ | ⟨atoms, other, -⟩
    · have shown : fillAtoms
          (sectionValues keys (bodies.map fun body => (body.1, fillAtoms values body.2)))
          [.key (ring.numberOf own.bodySlot)] = own.parts.map (Part.filled ring entry) := by
        rw [fillAtoms_key, h.lookup_section mem, Option.getD_some]
      rw [atoms, shown, if_pos chosen]
      exact endOf_parts mem
    · rw [atoms, if_neg other]
      cases own : haltsIn pieces <;>
        simp [endOf, haltNumber, own, fillAtoms, cutAtoms, spelled, spell, Atom.chars]

/-- **What a sketch comes to.** -/
theorem endOf_pieces :
    endOf ring.format (haltNumber ring pieces)
        (fillAtoms (sectionValues keys (bodies.map fun body => (body.1, fillAtoms values body.2)))
          (fillAtoms values (pieces.map (Piece.atom ring)))) = fillPieces ring entry pieces := by
  have general : ∀ some ⊆ pieces, endOf ring.format (haltNumber ring pieces)
      (fillAtoms (sectionValues keys (bodies.map fun body => (body.1, fillAtoms values body.2)))
        (fillAtoms values (some.map (Piece.atom ring)))) = fillPieces ring entry some := by
    intro some sub
    induction some with
    | nil => cases own : haltsIn pieces <;> simp [endOf, haltNumber, own, cutAtoms, fillPieces, fillAtoms, spelled, spell]
    | cons piece rest ih =>
      obtain ⟨mem, sub⟩ := List.cons_subset.1 sub
      rw [List.map_cons, fillAtoms_atom values, fillAtoms_append, endOf_append, h.endOf_piece mem, ih sub,
        fillPieces]
  exact general _ (List.Subset.refl _)

/-- **Filling in settles** on the sketch with the entries of the recipient. -/
theorem settle {text : String} {sections : Dict String} (passes : Nat)
    (htext : text = textOf (fragmentsOf ring pieces))
    (hsections : sections.pairs =
      bodies.map fun body => (ring.format.key body.1, spelled ring.format body.2)) :
    Outline.settle (values.map fun pair => (ring.format.key pair.1, spelled ring.format pair.2))
        (keys.map ring.format.key) ((haltNumber ring pieces).map ring.format.key) (passes + 2) text
        sections = some (fillPieces ring entry pieces).1 := by
  have spells : (⟨text, sections, false⟩ : Work).Spells ring.format (pieces.map (Piece.atom ring))
      bodies := ⟨htext.trans (spelled_pieces h.regular h.keyed).symm, hsections⟩
  have keysPos : ∀ number ∈ keys, 1 ≤ number := by
    intro number mem
    obtain ⟨slot, hslot, rfl⟩ := List.mem_map.1 (h.keys_order.mem_iff.1 mem)
    obtain ⟨passage, hpassage, rfl⟩ := mem_bodySlotsIn.1 hslot
    exact h.regular.numberOf_pos (h.body_has hpassage)
  have haltPos : ∀ number, haltNumber ring pieces = some number → 1 ≤ number := by
    intro number same
    unfold haltNumber at same
    split at same
    · rename_i halts
      obtain rfl := Option.some.inj same
      exact h.regular.numberOf_pos (h.keyed.hasHalt halts)
    · cases same
  rw [spells.settle h.separable h.sound_pieces h.sound_bodies h.entries keysPos haltPos h.flat,
    ← h.endOf_pieces]
  rfl

end Prepared

end Sketch

end Outline
end MailMerge
