/-
# Sketches with keys

A keyring turns a sketch into what an outline holds: every piece becomes a
fragment, every output and passage a registered placeholder, every passage a
section. A draft represents a sketch when it holds exactly this. The slots of a
sketch are distinct and have keys, so registering one more piece never overwrites
another.
-/

import Mathlib.Data.List.Basic
import MailMerge.Proofs.DictPairs
import MailMerge.Proofs.Outline.Drawing
import MailMerge.Proofs.Outline.Keyring
import MailMerge.Proofs.Outline.Literals
import MailMerge.Proofs.Outline.Sketch

namespace MailMerge
namespace Outline

/-- The output or branch that a slot belongs to. -/
def Slot.id? : Slot → Option Nat
  | .output id => some id
  | .choice branch _ => some branch
  | .body branch _ => some branch
  | .halt => none

/-- The slot names a section. -/
def Slot.isBody : Slot → Bool
  | .body _ _ => true
  | _ => false

/-- The slots of a part, apart from that of the end of all output. -/
def Part.slots : Part → List Slot
  | .output source => [.output source.id]
  | _ => []

/-- The part is the end of all output. -/
def Part.isHalt : Part → Bool
  | .halt => true
  | _ => false

/-- The slot of a passage's placeholder. -/
def Passage.choiceSlot (passage : Passage) : Slot := .choice passage.branch passage.run

/-- The slot of a passage's section. -/
def Passage.bodySlot (passage : Passage) : Slot := .body passage.branch passage.run

/-- The parts of a piece. -/
def Piece.parts : Piece → List Part
  | .part own => [own]
  | .passage own => own.parts

/-- The passage that a piece is. -/
def Piece.passage? : Piece → Option Passage
  | .part _ => none
  | .passage own => some own

/-- The slots of a piece. -/
def Piece.slots : Piece → List Slot
  | .part own => own.slots
  | .passage own =>
    own.choiceSlot :: own.bodySlot :: own.parts.flatMap Part.slots

/-- The piece is, or has in it, the end of all output. -/
def Piece.halts : Piece → Bool
  | .part own => own.isHalt
  | .passage own => own.parts.any Part.isHalt

/-- **The slots of a sketch,** apart from that of the end of all output. -/
def slotsIn (pieces : List Piece) : List Slot := pieces.flatMap Piece.slots

/-- All output can end in a sketch. -/
def haltsIn (pieces : List Piece) : Bool := pieces.any Piece.halts

variable (ring : Keyring)

/-- The fragment of a part. -/
def Part.fragment : Part → Fragment
  | .literal text => .literal text
  | .output source => .output (ring.keyOf (.output source.id))
  | .halt => .halt (ring.keyOf .halt)

/-- The fragment of a piece. -/
def Piece.fragment : Piece → Fragment
  | .part own => own.fragment ring
  | .passage own => .choice (ring.keyOf own.choiceSlot)

/-- What is registered for a part. -/
def Part.producers : Part → List (String × Producer)
  | .output source => [(ring.keyOf (.output source.id), .output source)]
  | _ => []

/-- The choice that shows a passage. -/
def Passage.choice (passage : Passage) : Choice :=
  ⟨passage.guard, ring.keyOf passage.bodySlot, passage.reports⟩

/-- The section of a passage. -/
def Passage.body (passage : Passage) : List Fragment :=
  joinLiterals (passage.parts.map (Part.fragment ring))

/-- What is registered for a piece. -/
def Piece.producers : Piece → List (String × Producer)
  | .part own => own.producers ring
  | .passage own =>
    (ring.keyOf own.choiceSlot, .choice (own.choice ring)) ::
      own.parts.flatMap (Part.producers ring)

/-- The section of a piece, if it has one. -/
def Piece.sections : Piece → List (String × List Fragment)
  | .part _ => []
  | .passage own => [(ring.keyOf own.bodySlot, own.body ring)]

/-- **The fragments of a sketch.** -/
def fragmentsOf (pieces : List Piece) : List Fragment :=
  joinLiterals (pieces.map (Piece.fragment ring))

/-- **What is registered for a sketch.** -/
def producersIn (pieces : List Piece) : List (String × Producer) :=
  pieces.flatMap (Piece.producers ring)

/-- **The sections of a sketch.** -/
def sectionsIn (pieces : List Piece) : List (String × List Fragment) :=
  pieces.flatMap (Piece.sections ring)

/-- **A sketch that a keyring has keys for:** its slots are distinct and have keys,
and so does the end of all output if it can come to that. -/
structure Keyed (pieces : List Piece) : Prop where
  distinct : (slotsIn pieces).Nodup
  has : ∀ slot ∈ slotsIn pieces, ring.Has slot
  hasHalt : haltsIn pieces = true → ring.Has .halt

/-- **A draft that represents a sketch:** its fragments are those of the pieces
shown so far, and it has registered what there is to register for all of them. -/
structure Represents (draft : Draft) (shown all : List Piece) : Prop where
  regular : ring.Regular
  keyed : Keyed ring all
  subset : shown ⊆ all
  fragments : draft.fragments = fragmentsOf ring shown
  producers : draft.producers.pairs.Perm (producersIn ring all)
  sections : draft.sections.pairs.Perm (sectionsIn ring all)

variable {ring : Keyring}

@[simp] theorem slotsIn_nil : slotsIn [] = [] := rfl

@[simp] theorem slotsIn_append (first second : List Piece) :
    slotsIn (first ++ second) = slotsIn first ++ slotsIn second := List.flatMap_append

@[simp] theorem slotsIn_cons (piece : Piece) (pieces : List Piece) :
    slotsIn (piece :: pieces) = piece.slots ++ slotsIn pieces := rfl

theorem slotsIn_parts (parts : List Part) :
    slotsIn (parts.map .part) = parts.flatMap Part.slots := by
  rw [slotsIn, List.flatMap_map]
  rfl

@[simp] theorem haltsIn_append (first second : List Piece) :
    haltsIn (first ++ second) = (haltsIn first || haltsIn second) := List.any_append

@[simp] theorem haltsIn_cons (piece : Piece) (pieces : List Piece) :
    haltsIn (piece :: pieces) = (piece.halts || haltsIn pieces) := rfl

theorem haltsIn_parts (parts : List Part) : haltsIn (parts.map .part) = parts.any Part.isHalt := by
  rw [haltsIn, List.any_map]
  rfl

@[simp] theorem producersIn_append (ring : Keyring) (first second : List Piece) :
    producersIn ring (first ++ second) = producersIn ring first ++ producersIn ring second :=
  List.flatMap_append

@[simp] theorem producersIn_cons (piece : Piece) (pieces : List Piece) :
    producersIn ring (piece :: pieces) = piece.producers ring ++ producersIn ring pieces := rfl

theorem producersIn_parts (parts : List Part) :
    producersIn ring (parts.map .part) = parts.flatMap (Part.producers ring) := by
  rw [producersIn, List.flatMap_map]
  rfl

@[simp] theorem sectionsIn_append (ring : Keyring) (first second : List Piece) :
    sectionsIn ring (first ++ second) = sectionsIn ring first ++ sectionsIn ring second :=
  List.flatMap_append

@[simp] theorem sectionsIn_cons (piece : Piece) (pieces : List Piece) :
    sectionsIn ring (piece :: pieces) = piece.sections ring ++ sectionsIn ring pieces := rfl

theorem sectionsIn_parts (parts : List Part) : sectionsIn ring (parts.map .part) = [] := by
  rw [sectionsIn, List.flatMap_map]
  exact List.flatMap_eq_nil_iff.2 fun _ _ => rfl

theorem fragmentsOf_concat (pieces : List Piece) (piece : Piece) :
    fragmentsOf ring (pieces ++ [piece]) =
      pushFragment (fragmentsOf ring pieces) (piece.fragment ring) := by
  rw [fragmentsOf, List.map_append, List.map_singleton, joinLiterals_concat]
  rfl

/-- Parts have no sections' slots. -/
theorem Part.not_isBody_of_mem {part : Part} {slot : Slot} (h : slot ∈ part.slots) :
    slot.isBody = false := by
  cases part <;> simp_all [Part.slots, Slot.isBody]

theorem Part.keys_producers (part : Part) :
    (part.producers ring).map (·.1) = part.slots.map ring.keyOf := by
  cases part <;> rfl

theorem Part.keys_flatMap_producers (parts : List Part) :
    (parts.flatMap (Part.producers ring)).map (·.1) = (parts.flatMap Part.slots).map ring.keyOf := by
  induction parts with
  | nil => rfl
  | cons part rest ih =>
    rw [List.flatMap_cons, List.map_append, ih, part.keys_producers, List.flatMap_cons,
      List.map_append]

theorem Part.filter_slots (parts : List Part) :
    (parts.flatMap Part.slots).filter (fun slot => !slot.isBody) = parts.flatMap Part.slots := by
  refine List.filter_eq_self.2 fun slot h => ?_
  obtain ⟨part, -, hslot⟩ := List.mem_flatMap.1 h
  simp [Part.not_isBody_of_mem hslot]

theorem Part.filter_slots_isBody (parts : List Part) :
    (parts.flatMap Part.slots).filter Slot.isBody = [] := by
  refine List.filter_eq_nil_iff.2 fun slot h => ?_
  obtain ⟨part, -, hslot⟩ := List.mem_flatMap.1 h
  simp [Part.not_isBody_of_mem hslot]

/-- **Placeholders are registered under the keys of the slots that are no sections'.** -/
theorem keys_producersIn (ring : Keyring) (pieces : List Piece) :
    (producersIn ring pieces).map (·.1) =
      ((slotsIn pieces).filter fun slot => !slot.isBody).map ring.keyOf := by
  induction pieces with
  | nil => rfl
  | cons piece rest ih =>
    rw [producersIn_cons, slotsIn_cons, List.map_append, List.filter_append, List.map_append, ih]
    congr 1
    cases piece with
    | part part =>
      have := Part.filter_slots [part]
      simp only [List.flatMap_cons, List.flatMap_nil, List.append_nil] at this
      exact (part.keys_producers).trans (congrArg (List.map ring.keyOf) this.symm)
    | passage passage =>
      rw [Piece.producers, Piece.slots, List.filter_cons_of_pos rfl,
        List.filter_cons_of_neg (by exact Bool.false_ne_true), Part.filter_slots, List.map_cons,
        List.map_cons, Part.keys_flatMap_producers]

/-- **Sections are registered under the keys of the sections' slots.** -/
theorem keys_sectionsIn (ring : Keyring) (pieces : List Piece) :
    (sectionsIn ring pieces).map (·.1) = ((slotsIn pieces).filter Slot.isBody).map ring.keyOf := by
  induction pieces with
  | nil => rfl
  | cons piece rest ih =>
    rw [sectionsIn_cons, slotsIn_cons, List.map_append, List.filter_append, List.map_append, ih]
    congr 1
    cases piece with
    | part part =>
      have := Part.filter_slots_isBody [part]
      simp only [List.flatMap_cons, List.flatMap_nil, List.append_nil] at this
      exact (congrArg (List.map ring.keyOf) this).symm
    | passage passage =>
      rw [Piece.sections, Piece.slots, List.filter_cons_of_neg (by exact Bool.false_ne_true),
        List.filter_cons_of_pos rfl, Part.filter_slots_isBody]
      rfl

/-- Distinct slots with keys have distinct keys. -/
theorem Keyring.Regular.nodup_keys (regular : ring.Regular) {slots : List Slot}
    (distinct : slots.Nodup) (has : ∀ slot ∈ slots, ring.Has slot) :
    (slots.map ring.keyOf).Nodup := by
  rw [List.Nodup, List.pairwise_map]
  refine distinct.imp_of_mem fun {first second} hfirst hsecond different same => ?_
  exact different (regular.keyOf_injective (has _ hfirst) (has _ hsecond) same)

namespace Keyed

variable {pieces : List Piece}

theorem producers_nodup (h : Keyed ring pieces) (regular : ring.Regular) :
    ((producersIn ring pieces).map (·.1)).Nodup := by
  rw [keys_producersIn]
  exact regular.nodup_keys (h.distinct.filter _) fun slot hslot =>
    h.has slot (List.mem_filter.1 hslot).1

theorem sections_nodup (h : Keyed ring pieces) (regular : ring.Regular) :
    ((sectionsIn ring pieces).map (·.1)).Nodup := by
  rw [keys_sectionsIn]
  exact regular.nodup_keys (h.distinct.filter _) fun slot hslot =>
    h.has slot (List.mem_filter.1 hslot).1

end Keyed

/-! ### A later keyring -/

section Later

variable {later : Keyring} {pieces : List Piece}

theorem Keyed.extend (h : Keyed ring pieces) (ext : ring.Extends later) : Keyed later pieces where
  distinct := h.distinct
  has slot hslot := ext.has (h.has slot hslot)
  hasHalt halts := ext.has (h.hasHalt halts)

theorem Part.fragment_extend (ext : ring.Extends later) {part : Part}
    (has : ∀ slot ∈ part.slots, ring.Has slot) (hasHalt : part.isHalt = true → ring.Has .halt) :
    part.fragment later = part.fragment ring := by
  cases part with
  | literal text => rfl
  | output source => rw [fragment, fragment, ext.keyOf (has _ (List.mem_singleton_self _))]
  | halt => rw [fragment, fragment, ext.keyOf (hasHalt rfl)]

theorem Part.producers_extend (ext : ring.Extends later) {part : Part}
    (has : ∀ slot ∈ part.slots, ring.Has slot) : part.producers later = part.producers ring := by
  cases part with
  | output source => rw [producers, producers, ext.keyOf (has _ (List.mem_singleton_self _))]
  | _ => rfl

/-- The parts of a piece are keyed if the piece is. -/
theorem Keyed.part {passage : Passage} (h : Keyed ring pieces) (mem : Piece.passage passage ∈ pieces)
    {part : Part} (hpart : part ∈ passage.parts) :
    (∀ slot ∈ part.slots, ring.Has slot) ∧ (part.isHalt = true → ring.Has .halt) := by
  refine ⟨fun slot hslot => h.has slot ?_, fun halt => h.hasHalt ?_⟩
  · refine List.mem_flatMap.2 ⟨_, mem, ?_⟩
    exact List.mem_cons_of_mem _ (List.mem_cons_of_mem _ (List.mem_flatMap.2 ⟨part, hpart, hslot⟩))
  · exact List.any_eq_true.2 ⟨_, mem, List.any_eq_true.2 ⟨part, hpart, halt⟩⟩

theorem Keyed.piece_slots (h : Keyed ring pieces) {piece : Piece} (mem : piece ∈ pieces) (slot : Slot)
    (hslot : slot ∈ piece.slots) : ring.Has slot := h.has slot (List.mem_flatMap.2 ⟨_, mem, hslot⟩)

theorem Keyed.fragment_extend (h : Keyed ring pieces) (ext : ring.Extends later) {piece : Piece}
    (mem : piece ∈ pieces) : piece.fragment later = piece.fragment ring := by
  cases piece with
  | part part =>
    exact Part.fragment_extend ext (fun slot hslot => h.piece_slots mem slot hslot) fun halt =>
      h.hasHalt (List.any_eq_true.2 ⟨_, mem, halt⟩)
  | passage passage =>
    rw [Piece.fragment, Piece.fragment, ext.keyOf (h.piece_slots mem _ List.mem_cons_self)]

theorem Keyed.producers_extend (h : Keyed ring pieces) (ext : ring.Extends later) {piece : Piece}
    (mem : piece ∈ pieces) : piece.producers later = piece.producers ring := by
  cases piece with
  | part part => exact Part.producers_extend ext fun slot hslot => h.piece_slots mem slot hslot
  | passage passage =>
    have hchoice := ext.keyOf (h.piece_slots mem passage.choiceSlot List.mem_cons_self)
    have hbody := ext.keyOf (h.piece_slots mem passage.bodySlot
      (List.mem_cons_of_mem _ List.mem_cons_self))
    have hparts : passage.parts.flatMap (Part.producers later) =
        passage.parts.flatMap (Part.producers ring) :=
      List.flatMap_congr fun part hpart => Part.producers_extend ext (h.part mem hpart).1
    rw [Piece.producers, Piece.producers, hchoice, hparts, Passage.choice, Passage.choice, hbody]

theorem Keyed.sections_extend (h : Keyed ring pieces) (ext : ring.Extends later) {piece : Piece}
    (mem : piece ∈ pieces) : piece.sections later = piece.sections ring := by
  cases piece with
  | part part => rfl
  | passage passage =>
    have hbody := ext.keyOf (h.piece_slots mem passage.bodySlot
      (List.mem_cons_of_mem _ List.mem_cons_self))
    have hparts : passage.parts.map (Part.fragment later) = passage.parts.map (Part.fragment ring) :=
      List.map_congr_left fun part hpart =>
        Part.fragment_extend ext (h.part mem hpart).1 (h.part mem hpart).2
    rw [Piece.sections, Piece.sections, hbody, Passage.body, Passage.body, hparts]

/-- **A draft represents the same sketch when more keys have been taken.** -/
theorem Represents.extend {draft : Draft} {shown : List Piece} (h : Represents ring draft shown pieces)
    (ext : ring.Extends later) (regular : later.Regular) : Represents later draft shown pieces where
  regular := regular
  keyed := h.keyed.extend ext
  subset := h.subset
  fragments := by
    rw [h.fragments, fragmentsOf, fragmentsOf]
    congr 1
    exact List.map_congr_left fun piece mem => (h.keyed.fragment_extend ext (h.subset mem)).symm
  producers := by
    refine h.producers.trans (.of_eq ?_)
    exact List.flatMap_congr fun piece mem => (h.keyed.producers_extend ext mem).symm
  sections := by
    refine h.sections.trans (.of_eq ?_)
    exact List.flatMap_congr fun piece mem => (h.keyed.sections_extend ext mem).symm

end Later

end Outline
end MailMerge
